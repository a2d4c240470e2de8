/-
This file proves when the chat route serves a request on the backend its alias names. The
check reads the loaded backend once, before the request waits for a slot, and so does the swap
a request triggers for itself; neither is repeated when the slot arrives. A request is
committed from that read to its last forward. As long as no swap to another backend takes
effect while a request is committed, every forward meets the backend that was read. When one
does, the request is forwarded to the wrong model, and nothing tells.
-/

import LocalGpuCluster.AutoSwap
import Mathlib.Data.Fin.VecNotation
import Mathlib.Tactic.FinCases

namespace LocalGpuCluster

namespace AutoSwap

/-! ### A committed request -/

/-- The request has read its own backend as the loaded one and may still be forwarded. -/
def Request.committed (request : Request) : Bool :=
  match request.place with
  | .counting | .queued | .admitted => true
  | .serving => request.asksAgain
  | .ended => false
  | .arrived | .swapQueued | .swapping | .swapHolding =>
      request.swap = .refreshing || request.swap = .returned true

/-- What a segment does to the profile match: the loaded backend is as before, a request that
becomes committed has just read its own backend, and a forward is made by a committed one. -/
structure Matches (config : Config) (shared : Shared) (request : Request) (turn : Turn) : Prop where
  loaded : turn.shared.loaded = shared.loaded
  model : turn.request.model = request.model
  committed : config.checks request.model = true → turn.request.committed = true →
    request.committed = true ∨ shared.loaded = request.wanted
  served : turn.request.served = request.served ∨
    turn.request.served = shared.loaded :: request.served ∧ request.committed = true

/-- A request becomes committed by its swap only when the swap confirms the backend. -/
theorem committed_of_swap {request : Request} {swap : Swap} {order : Order}
    (called : swap ≠ .notCalled)
    (committed : ({ request with swap, order } : Request).committed = true) :
    request.committed = true ∨ swap = .refreshing ∨ swap = .returned true := by
  revert committed
  unfold Request.committed Request.asksAgain
  cases request.place <;> simp [called] <;> intros <;> simp_all

/-- A segment that moves only the swap, and confirms the backend only where it has read it. -/
theorem Matches.of_swap {config : Config} {shared next : Shared} {request : Request} {swap : Swap}
    {order : Order} (loaded : next.loaded = shared.loaded) (called : swap ≠ .notCalled)
    (confirmed : swap = .refreshing ∨ swap = .returned true →
      request.committed = true ∨ shared.loaded = request.wanted) :
    Matches config shared request
      { shared := next, request := { request with swap, order } } :=
  ⟨loaded, rfl, fun _ committed => (committed_of_swap called committed).elim Or.inl confirmed,
    Or.inl rfl⟩

theorem triggerSwap_unconfirmed (config : Config) (wanted : String) :
    triggerSwap config wanted ≠ .notCalled ∧
      ¬(triggerSwap config wanted = .refreshing ∨ triggerSwap config wanted = .returned true) := by
  unfold triggerSwap
  split <;> simp

theorem finish_matches (config : Config) (shared : Shared) (request : Request) :
    Matches config shared request (finish shared request) :=
  ⟨rfl, rfl, fun _ committed => absurd committed Bool.false_ne_true, Or.inl rfl⟩

theorem check_matches (config : Config) (shared : Shared) {request : Request}
    (arrived : request.place = .arrived) :
    Matches config shared request { shared, request := check config shared request } := by
  unfold check
  split
  · split
    · split
      · rename_i streams
        refine ⟨rfl, rfl, fun _ committed => Or.inl ?_, Or.inl rfl⟩
        revert committed
        simp only [Request.committed, arrived, imp_self]
      · obtain ⟨-, unconfirmed⟩ := triggerSwap_unconfirmed config request.wanted
        refine ⟨rfl, rfl, fun _ committed => absurd ?_ unconfirmed, Or.inl rfl⟩
        simpa [Request.committed] using committed
    · exact ⟨rfl, rfl, fun _ committed => absurd committed Bool.false_ne_true, Or.inl rfl⟩
  · rename_i passed
    refine ⟨rfl, rfl, fun checks _ => Or.inr ?_, Or.inl rfl⟩
    by_contra differs
    exact passed (by simp [checks, Ne.symm differs])

theorem cancelSwap_matches (config : Config) (shared : Shared) (request : Request) :
    Matches config shared request (cancelSwap shared request) := by
  unfold cancelSwap
  split <;> first
    | exact ⟨rfl, rfl, fun _ committed => Or.inl committed, Or.inl rfl⟩
    | exact .of_swap rfl Swap.noConfusion (by simp)

/-- Ending a request after its swap was cancelled. -/
theorem finish_cancelSwap_matches (config : Config) (shared : Shared) (request : Request) :
    Matches config shared request
      (finish (cancelSwap shared request).shared (cancelSwap shared request).request) := by
  obtain ⟨loaded, model, -, -⟩ := cancelSwap_matches config shared request
  have served : (cancelSwap shared request).request.served = request.served := by
    unfold cancelSwap
    split <;> rfl
  exact ⟨loaded, model, fun _ committed => absurd committed Bool.false_ne_true, Or.inl served⟩

theorem segment_matches {config : Config} {shared : Shared} {request : Request} {action : Action}
    {turn : Turn} (ran : segment config shared request action = some turn) :
    Matches config shared request turn := by
  cases action with
  | check =>
    simp only [segment] at ran
    split at ran <;> cases ran
    rename_i arrived
    exact check_matches config shared arrived
  | createSwap =>
    obtain ⟨called, unconfirmed⟩ := triggerSwap_unconfirmed config request.wanted
    simp only [segment] at ran
    split at ran <;> cases ran
    exact .of_swap rfl called fun confirmed => absurd confirmed unconfirmed
  | takeLock =>
    simp only [segment] at ran
    split at ran <;> cases ran
    exact .of_swap rfl Swap.noConfusion (by simp)
  | recheck =>
    simp only [segment] at ran
    split at ran
    · split at ran <;> cases ran
      · rename_i read
        exact .of_swap rfl Swap.noConfusion fun _ => Or.inr read
      · exact .of_swap rfl Swap.noConfusion (by simp)
    · cases ran
  | webhookAnswer ok =>
    simp only [segment] at ran
    split at ran
    · split at ran
      · split at ran <;> cases ran
        exact .of_swap rfl Swap.noConfusion (by simp)
      · cases ran
        exact .of_swap rfl Swap.noConfusion (by simp)
    · cases ran
  | poll =>
    simp only [segment] at ran
    split at ran
    · split at ran <;> cases ran
      · rename_i read
        exact .of_swap rfl Swap.noConfusion fun _ => Or.inr read
      · exact ⟨rfl, rfl, fun _ committed => Or.inl committed, Or.inl rfl⟩
    · cases ran
  | pollDeadline =>
    simp only [segment] at ran
    split at ran <;> cases ran
    exact .of_swap rfl Swap.noConfusion (by simp)
  | refreshed =>
    -- Only the handler or the stream that waits for the swap is committed by its result.
    simp only [segment] at ran
    split at ran <;> cases ran
    rename_i refreshing
    refine ⟨rfl, rfl, fun _ committed => Or.inl ?_, Or.inl rfl⟩
    revert committed
    unfold endSwap Request.committed Request.asksAgain
    cases request.place <;> simp [refreshing]
  | resume =>
    simp only [segment] at ran
    split at ran <;> cases ran
    · rename_i swapping returned
      refine ⟨rfl, rfl, fun _ _ => Or.inl ?_, Or.inl rfl⟩
      simp [Request.committed, swapping, returned]
    · rename_i swapping returned
      refine ⟨rfl, rfl, fun _ _ => Or.inl ?_, Or.inl rfl⟩
      simp [Request.committed, swapping, returned]
    · exact finish_matches config shared request
    · exact finish_matches config shared request
  | countTokens fits =>
    simp only [segment] at ran
    split at ran
    · rename_i counting
      split at ran <;> cases ran
      · refine ⟨rfl, rfl, fun _ _ => Or.inl ?_, Or.inl rfl⟩
        simp [Request.committed, counting]
      · exact finish_matches config shared request
    · cases ran
  | takeSlot =>
    simp only [segment] at ran
    split at ran
    · split at ran <;> cases ran
      · rename_i swapQueued
        refine ⟨rfl, rfl, fun _ committed => Or.inl ?_, Or.inl rfl⟩
        revert committed
        simp only [Request.committed, swapQueued, imp_self]
      · rename_i queued
        refine ⟨rfl, rfl, fun _ _ => Or.inl ?_, Or.inl rfl⟩
        simp [Request.committed, queued]
    · cases ran
  | forward =>
    simp only [segment] at ran
    split at ran <;> cases ran
    rename_i admitted
    have committed : request.committed = true := by simp [Request.committed, admitted]
    exact ⟨rfl, rfl, fun _ _ => Or.inl committed, Or.inr ⟨rfl, committed⟩⟩
  | answered again =>
    simp only [segment] at ran
    split at ran
    · rename_i serving
      split at ran
      · split at ran <;> cases ran
        rename_i asksAgain
        refine ⟨rfl, rfl, fun _ _ => Or.inl ?_, Or.inl rfl⟩
        simp [Request.committed, serving, asksAgain]
      · cases ran
        exact finish_matches config shared request
    · cases ran
  | wallLimit =>
    simp only [segment] at ran
    split at ran <;> cases ran
    exact finish_cancelSwap_matches config shared request
  | disconnect =>
    simp only [segment] at ran
    split at ran <;> cases ran <;> first
      | exact finish_cancelSwap_matches config shared request
      | exact finish_matches config shared request

/-! ### Every interleaving -/

section Interleaving

variable {Index : Type}

/-- What every state of an undisturbed run satisfies. -/
structure Matched (config : Config) (state : State Index) : Prop where
  committed : ∀ index, config.checks (state.requests index).model = true →
    (state.requests index).committed = true → state.shared.loaded = (state.requests index).wanted
  served : ∀ index, config.checks (state.requests index).model = true →
    ∀ backend ∈ (state.requests index).served, backend = (state.requests index).wanted

/-- No swap to another backend takes effect while a request that the check applies to is
committed to its own. -/
def Undisturbed (config : Config) (state : State Index) : Event Index → Prop
  | .webhookRuns index =>
      ∀ backend, (state.requests index).order.backend = some backend →
        ∀ other, config.checks (state.requests other).model = true →
          (state.requests other).committed = true → (state.requests other).wanted = backend
  | _ => True

theorem initial_matched (config : Config) (loaded : String) (capacity : ℤ) (models : Index → String)
    (stream serverTools : Index → Bool) :
    Matched config (initial loaded capacity models stream serverTools) where
  committed _ _ committed := absurd committed Bool.false_ne_true
  served _ _ _ member := absurd member List.not_mem_nil

variable [DecidableEq Index]

/-- A step that touches neither the loaded backend nor what the match is about. -/
theorem Matched.of_order {config : Config} {state : State Index} {next : State Index}
    {index : Index} {order : Order} (matched : Matched config state)
    (loaded : next.shared.loaded = state.shared.loaded)
    (requests : next.requests =
      Function.update state.requests index { state.requests index with order }) :
    Matched config next := by
  have same (other : Index) : ∃ order, next.requests other = { state.requests other with order } := by
    rw [requests]
    by_cases equal : other = index
    · subst equal
      exact ⟨order, Function.update_self other _ _⟩
    · exact ⟨(state.requests other).order, Function.update_of_ne equal _ _⟩
  constructor
  · intro other checks committed
    obtain ⟨changed, now⟩ := same other
    rw [now] at checks committed ⊢
    rw [loaded]
    exact matched.committed other checks committed
  · intro other checks
    obtain ⟨changed, now⟩ := same other
    rw [now] at checks ⊢
    exact matched.served other checks

theorem step_matched {config : Config} (state : State Index) (event : Event Index)
    (next : State Index) (undisturbed : Undisturbed config state event)
    (stepped : (machine config).step state event = some next) (matched : Matched config state) :
    Matched config next := by
  cases event with
  | request index action =>
    obtain ⟨turn, ran, rfl⟩ := Option.map_eq_some_iff.mp stepped
    obtain ⟨loaded, model, becomes, serves⟩ := segment_matches ran
    have wanted : turn.request.wanted = (state.requests index).wanted :=
      congrArg resolveAlias model
    constructor
    · intro other checks committed
      show turn.shared.loaded = _
      rw [loaded]
      by_cases same : other = index
      · subst same
        simp only [Function.update_self] at checks committed ⊢
        rw [wanted]
        rw [model] at checks
        exact (becomes checks committed).elim (matched.committed other checks) id
      · simp only [Function.update_of_ne same] at checks committed ⊢
        exact matched.committed other checks committed
    · intro other checks backend member
      by_cases same : other = index
      · subst same
        simp only [Function.update_self] at checks member ⊢
        rw [wanted]
        rw [model] at checks
        rcases serves with unchanged | ⟨forwarded, committed⟩
        · rw [unchanged] at member
          exact matched.served other checks backend member
        · rw [forwarded] at member
          rcases List.mem_cons.mp member with rfl | earlier
          · exact matched.committed other checks committed
          · exact matched.served other checks backend earlier
      · simp only [Function.update_of_ne same] at checks member ⊢
        exact matched.served other checks backend member
  | webhookRuns index =>
    obtain ⟨backend, ordered, rfl⟩ := Option.map_eq_some_iff.mp stepped
    have held : Matched config
        { state with
          requests := Function.update state.requests index
            { state.requests index with order := .ran } } := matched.of_order rfl rfl
    refine ⟨fun other checks committed => ?_, held.served⟩
    by_cases same : other = index
    · subst same
      simp only [Function.update_self] at checks committed ⊢
      exact (undisturbed backend ordered other checks committed).symm
    · simp only [Function.update_of_ne same] at checks committed ⊢
      exact (undisturbed backend ordered other checks committed).symm
  | webhookFails index =>
    simp only [machine] at stepped
    split at stepped <;> cases stepped
    exact matched.of_order rfl rfl
  | setCapacity capacity =>
    cases stepped
    exact ⟨matched.committed, matched.served⟩

/-- No event changes the model a request names. -/
theorem run_models {config : Config} {start finish : State Index} {events : List (Event Index)}
    (ran : (machine config).run start events = some finish) (index : Index) :
    (finish.requests index).model = (start.requests index).model :=
  (machine config).run_invariant
    (fun state => (state.requests index).model = (start.requests index).model)
    (fun state event next stepped same => by
      rw [← same]
      cases event with
      | request mover action =>
        obtain ⟨turn, segmentRan, rfl⟩ := Option.map_eq_some_iff.mp stepped
        by_cases moves : index = mover
        · subst moves
          simp only [Function.update_self]
          exact (segment_matches segmentRan).model
        · simp only [Function.update_of_ne moves]
      | webhookRuns mover =>
        obtain ⟨backend, -, rfl⟩ := Option.map_eq_some_iff.mp stepped
        by_cases moves : index = mover
        · subst moves
          simp only [Function.update_self]
        · simp only [Function.update_of_ne moves]
      | webhookFails mover =>
        simp only [machine] at stepped
        split at stepped <;> cases stepped
        by_cases moves : index = mover
        · subst moves
          simp only [Function.update_self]
        · simp only [Function.update_of_ne moves]
      | setCapacity capacity =>
        cases stepped
        rfl) ran rfl

/-- In every undisturbed run, for any number of requests, streaming and not, and every
interleaving: each time a request whose alias is not swap-exempt is forwarded to the upstream,
the loaded backend is the one `ALIAS_MAP` gives its alias. -/
theorem forwards_match_profile (config : Config) (strict : config.strictProfileMatch = true)
    (loaded : String) (capacity : ℤ) (models : Index → String)
    (stream serverTools : Index → Bool) (events : List (Event Index)) (state : State Index)
    (undisturbed : (machine config).Guarded (Undisturbed config)
      (initial loaded capacity models stream serverTools) events)
    (ran : (machine config).run (initial loaded capacity models stream serverTools) events =
      some state)
    (index : Index) (backend : String) (known : aliasMap.lookup (models index) = some backend)
    (notExempt : isSwapExempt (models index) = false) :
    ∀ forwardedOn ∈ (state.requests index).served, forwardedOn = backend := by
  have matched := (machine config).run_invariant_of_guarded (Undisturbed config) (Matched config)
    step_matched undisturbed ran (initial_matched config loaded capacity models stream serverTools)
  have model : (state.requests index).model = models index := run_models ran index
  have checks : config.checks (state.requests index).model = true := by
    rw [model, Config.checks, strict, known, notExempt]
    rfl
  have wanted : (state.requests index).wanted = backend := by
    rw [Request.wanted, model, resolveAlias, known, Option.getD_some]
  rw [← wanted]
  exact matched.served index checks

instance twoRequests : NeZero 2 := ⟨Nat.succ_ne_zero 1⟩

/-- A redteam request passes its check while its model is loaded and waits for the only slot,
which a streaming request for the stock model holds while it swaps and is answered. -/
def queuedRun : List (Event (Fin 2)) :=
  [.request 1 .check, .request 1 .takeSlot, .request 0 .check, .request 0 (.countTokens true),
    .request 1 .createSwap, .request 1 .takeLock, .request 1 .recheck, .webhookRuns 1,
    .request 1 (.webhookAnswer true), .request 1 .poll, .request 1 .refreshed,
    .request 1 .resume, .request 1 .forward, .request 1 (.answered false),
    .request 0 .takeSlot, .request 0 .forward]

/-- The same two requests one after the other, up to the posted order and from there on. -/
def sequentialRun : List (Event (Fin 2)) :=
  [.request 0 .check, .request 0 (.countTokens true), .request 0 .takeSlot, .request 0 .forward,
    .request 0 (.answered false), .request 1 .check, .request 1 .takeSlot, .request 1 .createSwap,
    .request 1 .takeLock, .request 1 .recheck]

def sequentialRest : List (Event (Fin 2)) :=
  [.request 1 (.webhookAnswer true), .request 1 .poll, .request 1 .refreshed, .request 1 .resume,
    .request 1 .forward]

theorem forwards_match_profile_sequentialRun :
    ∃ state, (machine ⟨true, "http://10.0.0.2:8099", "key"⟩).run
        (initial "qwen3.8-redteam" 1 !["qwen3.8-redteam", "qwen3.8"] ![false, true]
          ![false, false]) (sequentialRun ++ .webhookRuns 1 :: sequentialRest) = some state ∧
      (state.requests 1).served = ["qwen3.8"] ∧
      ∀ forwardedOn ∈ (state.requests 1).served, forwardedOn = "qwen3.8" :=
  ⟨_, rfl, rfl, forwards_match_profile ⟨true, "http://10.0.0.2:8099", "key"⟩ rfl
    "qwen3.8-redteam" 1 !["qwen3.8-redteam", "qwen3.8"] ![false, true] ![false, false]
    (sequentialRun ++ .webhookRuns 1 :: sequentialRest) _ (by
      refine Machine.guarded_append _ (Machine.guarded_of_forall _ (by
        simp [sequentialRun, Undisturbed]) _) fun middle ran => ?_
      cases ran
      refine ⟨fun _ _ other _ committed => ?_, fun next _ => Machine.guarded_of_forall _ (by
        simp [sequentialRest, Undisturbed]) _⟩
      -- The first request has ended, the second is still waiting for its swap.
      fin_cases other <;> cases committed) rfl 1 "qwen3.8" (by decide) (by decide)⟩

/-- Without the condition the redteam request is served by the stock model. -/
theorem forwards_match_profile_fails :
    ¬∀ state, (machine ⟨true, "http://10.0.0.2:8099", "key"⟩).run
        (initial "qwen3.8-redteam" 1 !["qwen3.8-redteam", "qwen3.8"] ![true, true]
          ![false, false]) queuedRun = some state →
      ∀ index backend, aliasMap.lookup ((!["qwen3.8-redteam", "qwen3.8"] : Fin 2 → String) index) =
        some backend → isSwapExempt ((!["qwen3.8-redteam", "qwen3.8"] : Fin 2 → String) index) = false →
        ∀ forwardedOn ∈ (state.requests index).served, forwardedOn = backend := by
  intro always
  have served := always _ rfl 0 "qwen3.8-redteam" (by decide) (by decide) "qwen3.8"
    (List.mem_singleton.mpr rfl)
  exact absurd served (by decide)

end Interleaving

end AutoSwap

end LocalGpuCluster
