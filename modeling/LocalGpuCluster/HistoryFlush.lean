/-
This file proves when a flush that returns `True` promises what it says. The writer clears `_lost` at every
marker, also at that of a flush that has timed out, and a row that a recovery fails on goes behind the rows
that came after it. In runs where the caller loses no row while a marker is ahead, and a recovery fails on
no row with another row of its key in the backlog, nothing is lost silently.
-/

import LocalGpuCluster.HistoryRows

namespace LocalGpuCluster

namespace History

/-! ### What a flush covers -/

theorem Marked.of_idle {state next : State} (marked : Marked state)
    (idle : ∀ flush, next.caller ≠ .flushing flush)
    (same : markers next.ahead = markers state.ahead) (writer : next.writer = state.writer)
    (done : next.done = state.done) (flushes : next.flushes = state.flushes) : Marked next := by
  refine ⟨?_, ?_, ?_, ?_, fun flush flushing => absurd flushing (idle flush)⟩
  · rw [same]
    exact marked.increasing
  · rw [same, flushes]
    exact marked.counted
  · rw [same, flushes, done]
    exact marked.event
  · rw [same, flushes, writer]
    exact marked.cleared

theorem Marked.of_callerStep {state next : State} {event : CallerEvent} (marked : Marked state)
    (stepped : CallerStep state event next) : Marked next := by
  cases stepped with
  | rejected idle refused =>
    exact marked.of_idle (fun _ same => by cases idle.symm.trans same) rfl rfl rfl rfl
  | added idle =>
    exact marked.of_idle (fun _ same => by cases idle.symm.trans same)
      (by simp [State.ahead, State.pass]) rfl rfl rfl
  | full idle => exact marked.of_idle (fun _ same => by cases same) rfl rfl rfl rfl
  | dropped dropping => exact marked.of_idle (fun _ same => by cases same) rfl rfl rfl rfl
  | flush idle =>
    have ahead : State.ahead { state with
        caller := .flushing state.flushes
        queue := state.queue ++ [.noop state.flushes]
        flushes := state.flushes + 1 } = state.ahead ++ [.noop state.flushes] := by
      simp [State.ahead]
    have apart (flush : ℕ) (counted : flush < state.flushes)
        (gone : flush ∉ markers state.ahead) :
        flush < state.flushes + 1 ∧ flush ∉ markers (state.ahead ++ [.noop state.flushes]) := by
      refine ⟨Nat.lt_succ_of_lt counted, fun member => ?_⟩
      rw [markers_append, markers_noop, markers_nil] at member
      obtain old | new := List.mem_append.mp member
      · exact gone old
      · exact absurd (List.mem_singleton.mp new) (Nat.ne_of_lt counted)
    refine ⟨?_, fun flush member => ?_, fun flush event => ?_, fun flush cleared => ?_,
      fun flush flushing member => ?_⟩ <;> rw [ahead] at *
    · rw [markers_append]
      refine List.pairwise_append.mpr ⟨marked.increasing, List.pairwise_singleton _ _, ?_⟩
      intro flush member new isNew
      rw [List.mem_singleton.mp isNew]
      exact marked.counted flush member
    · rw [markers_append] at member
      obtain old | new := List.mem_append.mp member
      · exact Nat.lt_succ_of_lt (marked.counted flush old)
      · rw [List.mem_singleton.mp new]
        exact Nat.lt_succ_self _
    · exact apart flush (marked.event flush event).1 (marked.event flush event).2
    · exact apart flush (marked.cleared flush cleared).1 (marked.cleared flush cleared).2
    · cases flushing
      exact ⟨state.ahead, rfl⟩
  | flushFull | timeOut | returns =>
    exact marked.of_idle (fun _ same => by cases same) rfl rfl rfl rfl

/-- The marker of the flush that is under way has been dealt with. -/
def Gone (state : State) : Prop :=
  ∃ flush, state.caller = .flushing flush ∧ flush ∉ markers state.ahead

/-- The rows passed since the last flush returned come behind the markers of all flushes that returned, or
no such marker is ahead and they are safe. -/
def Covered (state : State) : Prop :=
  ∃ old fresh, state.ahead = old ++ fresh ∧
    (∀ flush ∈ markers fresh, state.caller = .flushing flush) ∧
      ∀ copy ∈ state.since, copy ∈ rows fresh ∨ old = [] ∧ Safe state copy

theorem Gone.of_behind {state next : State} {used : List Item} (gone : Gone state)
    (behind : Behind state next used) : Gone next := by
  obtain ⟨flush, flushing, without⟩ := gone
  refine ⟨flush, behind.caller.trans flushing, fun member => without ?_⟩
  rw [behind.ahead, markers_append]
  exact List.mem_append_right _ member

theorem Covered.of_behind {state next : State} {used : List Item} (covered : Covered state)
    (behind : Behind state next used) (marked : Marked state) : Gone next ∨ Covered next := by
  obtain ⟨old, fresh, ahead, current, covers⟩ := covered
  obtain ⟨between, isOld, isNext⟩ | ⟨between, isUsed, isFresh⟩ :=
    List.append_eq_append_iff.mp (behind.ahead.symm.trans ahead)
  · -- What is dealt with is older than the rows since the last flush.
    refine .inr ⟨between, fresh, isNext, fun flush member =>
      behind.caller.trans (current flush member), fun copy member => ?_⟩
    rw [behind.since] at member
    refine (covers copy member).imp id fun ⟨empty, safe⟩ => ?_
    obtain ⟨noneUsed, noneBetween⟩ := List.append_eq_nil_iff.mp (isOld.symm.trans empty)
    exact ⟨noneBetween, behind.safe (by rw [noneUsed, markers_nil]) copy safe⟩
  · by_cases noMarker : markers used = []
    · refine .inr ⟨[], next.ahead, rfl, fun flush member => behind.caller.trans (current flush ?_),
        fun copy member => ?_⟩
      · rw [isFresh, markers_append]
        exact List.mem_append_right _ member
      · rw [behind.since] at member
        obtain isRow | ⟨-, safe⟩ := covers copy member
        · rw [isFresh, rows_append, List.mem_append] at isRow
          refine isRow.symm.imp id fun isDealt => ⟨rfl, behind.dealt copy ?_⟩
          rw [isUsed, rows_append]
          exact List.mem_append_right _ isDealt
        · exact .inr ⟨rfl, behind.safe noMarker copy safe⟩
    · obtain ⟨flush, isMarker⟩ := List.exists_mem_of_ne_nil _ noMarker
      cases old with
      | nil =>
        -- The marker that is dealt with is that of the flush under way.
        rw [List.nil_append] at isUsed
        subst isUsed
        have increasing := marked.increasing
        rw [behind.ahead, markers_append, List.pairwise_append] at increasing
        refine .inl ⟨flush, behind.caller.trans (current flush ?_), fun member =>
          lt_irrefl _ (increasing.2.2 flush isMarker flush member)⟩
        rw [isFresh, markers_append]
        exact List.mem_append_left _ isMarker
      | cons item rest =>
        have short := behind.short
        rw [isUsed, List.length_append, List.length_cons] at short
        have empty : between = [] := List.length_eq_zero_iff.mp (by omega)
        rw [empty, List.nil_append] at isFresh
        refine .inr ⟨[], fresh, isFresh.symm, fun flush member =>
          behind.caller.trans (current flush member), fun copy member => ?_⟩
        rw [behind.since] at member
        exact (covers copy member).imp id fun ⟨empty, _⟩ => absurd empty (List.cons_ne_nil _ _)

/-- While no flush is under way, no marker is newer than the rows. -/
theorem Covered.fresh {state : State} (covered : Covered state)
    (idle : ∀ flush, state.caller ≠ .flushing flush) :
    ∃ old fresh, state.ahead = old ++ fresh ∧ markers fresh = [] ∧
      ∀ copy ∈ state.since, copy ∈ rows fresh ∨ old = [] ∧ Safe state copy := by
  obtain ⟨old, fresh, ahead, current, covers⟩ := covered
  exact ⟨old, fresh, ahead, List.eq_nil_iff_forall_not_mem.mpr fun flush member =>
    idle flush (current flush member), covers⟩

/-- What was lost is not lost silently while no marker is ahead. -/
theorem Covered.of_lost {state : State} (lost : state.lost = true) (none : markers state.ahead = []) :
    Covered state :=
  ⟨[], state.ahead, rfl, fun flush member => (by rw [none] at member; cases member),
    fun _ _ => .inr ⟨rfl, .inr (.inr lost)⟩⟩

theorem Covered.of_returned {state : State} (ok : Bool) : Covered (state.returned ok) :=
  ⟨state.ahead, [], (List.append_nil _).symm, fun _ none => (by cases none),
    fun _ none => (by cases none)⟩

theorem Covered.of_callerStep {Key : Type} {keyOf : Json → Key} {state next : State}
    {event : CallerEvent} (covered : Gone state ∨ Covered state)
    (careful : Careful keyOf state (.caller event)) (stepped : CallerStep state event next) :
    Covered next := by
  have fresh (idle : state.caller = .idle) := by
    refine (covered.resolve_left ?_).fresh fun flush flushing => (by cases idle.symm.trans flushing)
    rintro ⟨flush, flushing, -⟩
    cases idle.symm.trans flushing
  cases stepped with
  | rejected idle refused => exact .of_lost rfl (careful refused)
  | @added row idle =>
    obtain ⟨old, fresh, ahead, current, covers⟩ := fresh idle
    unfold State.ahead at ahead
    refine ⟨old, fresh ++ [.add (state.copy row)], ?_, fun flush member => ?_, fun copy member => ?_⟩
    · simp only [State.ahead, State.pass]
      rw [← List.append_assoc, ahead, List.append_assoc]
    · rw [markers_append, current] at member
      cases member
    · rw [rows_append]
      obtain member | isNew := List.mem_append.mp member
      · exact (covers copy member).imp (List.mem_append_left _) id
      · exact .inl (List.mem_append_right _ (by simpa using isNew))
  | full idle =>
    obtain ⟨old, fresh, ahead, current, covers⟩ := fresh idle
    exact ⟨old, fresh, ahead, fun flush member => (by rw [current] at member; cases member), covers⟩
  | dropped dropping => exact .of_lost rfl careful
  | flush idle =>
    obtain ⟨old, fresh, ahead, current, covers⟩ := fresh idle
    unfold State.ahead at ahead
    refine ⟨old, fresh ++ [.noop state.flushes], ?_, fun flush member => ?_, fun copy member => ?_⟩
    · simp only [State.ahead]
      rw [← List.append_assoc, ahead, List.append_assoc]
    · rw [markers_append, current] at member
      rw [List.mem_singleton.mp member]
    · rw [rows_append]
      exact (covers copy member).imp (List.mem_append_left _) id
  | flushFull | timeOut | returns => exact .of_returned _

/-! ### What a flush answers -/

/-- A flush under way that was answered `True` has its rows in the database. -/
def Answered (state : State) : Prop :=
  ∀ flush, state.caller = .flushing flush →
    state.writer = .answered flush ∨ flush ∉ markers state.ahead →
      (state.done flush).ok = true → ∀ copy ∈ state.since, copy ∈ state.inserted

theorem Answered.of_rest {state next : State} {used : List Item} (answered : Answered state)
    (behind : Behind state next used) (same : markers next.ahead = markers state.ahead)
    (writer : ∀ flush, next.writer ≠ .answered flush)
    (ok : ∀ flush, (next.done flush).ok = (state.done flush).ok) : Answered next := by
  intro flush flushing dealt isOk copy member
  rw [behind.caller] at flushing
  rw [behind.since] at member
  rw [ok] at isOk
  have gone := dealt.resolve_left (writer flush)
  rw [same] at gone
  exact behind.inserted copy (answered flush flushing (.inr gone) isOk copy member)

/-- At the marker of the flush under way, the rows are safe only in the database. -/
theorem Covered.inserted {state : State} {flush : ℕ} (covered : Covered state)
    (marked : Marked state) (drained : Drained state) (flushing : state.caller = .flushing flush)
    (handling : state.writer = .handling (.noop flush)) (ok : state.ok = true)
    (notLost : state.lost = false) : ∀ copy ∈ state.since, copy ∈ state.inserted := by
  have ahead : state.ahead = .noop flush :: state.queue := by simp [State.ahead, handling]
  obtain ⟨before, isLast⟩ := marked.last flush flushing (by simp [ahead])
  have noRows : rows state.ahead = [] := by
    cases before with
    | nil => simp [isLast]
    | cons item rest =>
      rw [isLast, List.cons_append, List.cons.injEq] at ahead
      obtain ⟨rfl, -⟩ := ahead
      have increasing := marked.increasing
      rw [isLast, List.cons_append, markers_noop, List.pairwise_cons] at increasing
      exact absurd (increasing.1 flush (by simp)) (lt_irrefl _)
  obtain ⟨old, fresh, ahead, -, covers⟩ := covered
  intro copy member
  obtain isRow | ⟨-, inserted | kept | lost⟩ := covers copy member
  · rw [ahead, rows_append] at noRows
    rw [(List.append_eq_nil_iff.mp noRows).2] at isRow
    cases isRow
  · exact inserted
  · rw [drained ok fun item => by simp [handling]] at kept
    cases kept
  · exact absurd lost (by simp [notLost])

theorem Answered.of_writerStep {state next : State} {event : WriterEvent} (answered : Answered state)
    (marked : Marked state) (drained : Drained state) (covered : Gone state ∨ Covered state)
    (stepped : WriterStep state event next) : Answered next := by
  obtain ⟨used, behind⟩ := stepped.behind
  cases stepped with
  | get waiting queue =>
    exact answered.of_rest behind (by simp [State.ahead, waiting, queue])
      (fun _ isAnswered => by cases isAnswered) fun _ => rfl
  | tick waiting ok =>
    exact answered.of_rest behind (by simp [State.ahead, waiting])
      (fun _ isAnswered => by cases isAnswered) fun _ => rfl
  | @skip item taken =>
    exact answered.of_rest behind (by simp [State.ahead, taken])
      (fun _ isAnswered => by cases item <;> cases isAnswered) fun _ => rfl
  | recover taken =>
    exact answered.of_rest behind (by simp [State.ahead, taken])
      (fun _ isAnswered => by cases isAnswered) fun _ => rfl
  | @unrecovered item taken ok =>
    exact answered.of_rest behind (by simp [State.ahead, taken])
      (fun _ isAnswered => by cases item <;> cases isAnswered) fun _ => rfl
  | @replay item copy rest attempts recovering backlog ok =>
    obtain ⟨_, _, _, _, same⟩ := (handled { state with backlog := rest } copy attempts).same
    rw [same] at behind ⊢
    exact answered.of_rest behind rfl (fun _ isAnswered => by cases recovering.symm.trans isAnswered)
      fun _ => rfl
  | @replayed item recovering empty =>
    exact answered.of_rest behind (by simp [State.ahead, recovering])
      (fun _ isAnswered => by cases item <;> cases isAnswered) fun _ => rfl
  | @write copy attempts handling =>
    obtain ⟨_, _, _, _, same⟩ := (handled state copy attempts).same
    rw [same] at behind ⊢
    exact answered.of_rest behind (by simp [State.ahead, handling])
      (fun _ isAnswered => by cases isAnswered) fun _ => rfl
  | @answer flush handling =>
    intro other flushing dealt isOk
    obtain isAnswered | gone := dealt
    · cases isAnswered
      simp only [Function.update_self, Bool.and_eq_true, Bool.not_eq_true'] at isOk
      refine (covered.resolve_left ?_).inserted marked drained flushing handling isOk.1 isOk.2
      rintro ⟨current, isCurrent, without⟩
      cases flushing.symm.trans isCurrent
      exact without (by simp [State.ahead, handling])
    · have isOther : other ≠ flush := by
        rintro rfl
        exact gone (by simp [State.ahead])
      simp only [Function.update_of_ne isOther] at isOk
      refine answered other flushing (.inr ?_) isOk
      simpa [State.ahead, handling] using gone
  | @clear flush isAnswered =>
    intro other flushing dealt isOk
    refine answered other flushing ?_ isOk
    by_cases same : other = flush
    · exact .inl (same ▸ isAnswered)
    · refine .inr ?_
      have gone := dealt.resolve_left fun never => by cases never
      simpa [State.ahead, isAnswered, same] using gone
  | @signal flush cleared =>
    refine answered.of_rest behind (by simp [State.ahead, cleared])
      (fun _ isAnswered => by cases isAnswered) fun other => ?_
    by_cases same : other = flush
    · subst same
      simp
    · simp [Function.update_of_ne same]

theorem Answered.of_callerStep {state next : State} {event : CallerEvent} (marked : Marked state)
    (stepped : CallerStep state event next) : Answered next := by
  intro flush flushing dealt
  cases stepped with
  | rejected idle | added idle => cases idle.symm.trans flushing
  | full | dropped | flushFull | timeOut | returns => cases flushing
  | flush idle =>
    cases flushing
    refine absurd dealt (not_or.mpr ⟨fun isAnswered => ?_, fun gone => gone (by simp [State.ahead])⟩)
    dsimp only at isAnswered
    exact lt_irrefl _ (marked.counted state.flushes (by simp [State.ahead, isAnswered]))

/-! ### Runs -/

section Keys

variable {Key : Type} (keyOf : Json → Key)

/-- What is known of every state. -/
structure Sound (state : State) : Prop where
  marked : Marked state
  ordered : Ordered keyOf state
  covered : Gone state ∨ Covered state
  answered : Answered state
  assured : ∀ copy ∈ state.assured, copy ∈ state.inserted

theorem sound_start (ok : Bool) : Sound keyOf (start ok) where
  marked := by
    refine ⟨.nil, fun _ none => ?_, fun _ event => ?_, fun _ cleared => ?_, fun _ flushing => ?_⟩
    · cases none
    · cases event
    · cases cleared
    · cases flushing
  ordered := ⟨.nil, fun _ none => (by cases none), fun _ none => (by cases none), .nil, fun _ _ => rfl⟩
  covered := .inr ⟨[], [], rfl, fun _ none => (by cases none), fun _ none => (by cases none)⟩
  answered := fun _ flushing => (by cases flushing)
  assured := fun _ none => (by cases none)

variable {keyOf}

theorem Sound.of_writerStep {state next : State} {event : WriterEvent} (sound : Sound keyOf state)
    (careful : Careful keyOf state (.writer event)) (stepped : WriterStep state event next) :
    Sound keyOf next := by
  obtain ⟨used, behind⟩ := stepped.behind
  exact {
    marked := sound.marked.of_behind behind
    ordered := sound.ordered.of_writerStep careful stepped
    covered := sound.covered.elim (fun gone => .inl (gone.of_behind behind))
      fun covered => covered.of_behind behind sound.marked
    answered := sound.answered.of_writerStep sound.marked sound.ordered.drained sound.covered stepped
    assured := fun copy member =>
      behind.inserted copy (sound.assured copy (behind.assured ▸ member)) }

theorem Sound.of_callerStep {state next : State} {event : CallerEvent} (sound : Sound keyOf state)
    (careful : Careful keyOf state (.caller event)) (stepped : CallerStep state event next) :
    Sound keyOf next where
  marked := sound.marked.of_callerStep stepped
  ordered := sound.ordered.of_callerStep stepped
  covered := .inr (.of_callerStep sound.covered careful stepped)
  answered := .of_callerStep sound.marked stepped
  assured := by
    cases stepped with
    | rejected | added | full | dropped | flush | flushFull | timeOut => exact sound.assured
    | @returns flush flushing event =>
      intro copy member
      unfold State.returned at member
      split at member
      · rename_i ok
        refine (List.mem_append.mp member).elim (sound.assured copy) ?_
        exact sound.answered flush flushing (.inr (sound.marked.event flush event).2) ok copy
      · exact sound.assured copy member

theorem Sound.of_step {state next : State} {event : Event} (careful : Careful keyOf state event)
    (stepped : step state event = some next) (sound : Sound keyOf state) : Sound keyOf next := by
  cases event with
  | caller event => exact sound.of_callerStep careful (callerStep_spec stepped)
  | writer event => exact sound.of_writerStep careful (writerStep_spec stepped)

variable [DecidableEq Key]

/-- The last of the copies with a key is one of them, and all others with its key were passed before. -/
theorem lastWith_spec {key : Key} {copies : List Copy} {last : Copy}
    (before : copies.Pairwise (Before keyOf)) (isLast : lastWith keyOf key copies = some last) :
    last ∈ copies ∧ keyOf last.row = key ∧
      ∀ copy ∈ copies, keyOf copy.row = key → copy = last ∨ copy.number < last.number := by
  obtain ⟨front, split⟩ := List.getLast?_eq_some_iff.mp isLast
  have isMember : last ∈ copies.filter fun copy => keyOf copy.row = key := by simp [split]
  rw [List.mem_filter, decide_eq_true_eq] at isMember
  refine ⟨isMember.1, isMember.2, fun copy member hasKey => ?_⟩
  have among : copy ∈ front ++ [last] := by
    rw [← split, List.mem_filter, decide_eq_true_eq]
    exact ⟨member, hasKey⟩
  have ordered := before.filter fun copy => keyOf copy.row = key
  rw [split, List.pairwise_append] at ordered
  obtain isFront | isLast := List.mem_append.mp among
  · exact .inr (ordered.2.2 copy isFront last (List.mem_singleton_self _)
      (hasKey.trans isMember.2.symm))
  · exact .inl (List.mem_singleton.mp isLast)

/-- The last row that was passed with a key is the stored one, once it was committed. -/
theorem Ordered.stored {state : State} {key : Key} {copy : Copy} (ordered : Ordered keyOf state)
    (passed : lastWith keyOf key state.passed = some copy) (inserted : copy ∈ state.inserted) :
    state.stored keyOf key = some copy := by
  have numbered : state.passed.Pairwise (Before keyOf) :=
    ordered.numbered.imp (by intro _ _ less _; exact less)
  obtain ⟨-, hasKey, newest⟩ := lastWith_spec numbered passed
  have inLine {other : Copy} (member : other ∈ state.inserted) : other ∈ state.line :=
    List.mem_append_left _ (List.mem_append_left _ member)
  have before : state.inserted.Pairwise (Before keyOf) :=
    (List.pairwise_append.mp (List.pairwise_append.mp ordered.before).1).1
  unfold State.stored
  cases found : lastWith keyOf key state.inserted with
  | none =>
    rw [lastWith, List.getLast?_eq_none_iff, List.filter_eq_nil_iff] at found
    exact absurd hasKey (by simpa using found copy inserted)
  | some last =>
    obtain ⟨member, lastKey, latest⟩ := lastWith_spec before found
    obtain rfl | less := latest copy inserted hasKey
    · rfl
    · obtain rfl | greater := newest last (ordered.known last (inLine member)) lastKey
      · rfl
      · omega

theorem Sound.kept {state : State} (sound : Sound keyOf state) (flushed : state.Flushed) :
    state.Kept keyOf := by
  obtain ⟨flush, flushing, event, ok⟩ := flushed
  have committed : ∀ copy ∈ state.since, copy ∈ state.inserted :=
    sound.answered flush flushing (.inr (sound.marked.event flush event).2) ok
  exact ⟨committed, fun key copy passed known =>
    sound.ordered.stored passed (known.elim (committed copy) (sound.assured copy))⟩

/-- In a careful run, a flush that returns `True` promises what it says. -/
theorem kept_of_careful {ok : Bool} {events : List Event} {finish : State}
    (careful : history.Guarded (Careful keyOf) (start ok) events)
    (ran : history.run (start ok) events = some finish) (flushed : finish.Flushed) :
    finish.Kept keyOf :=
  (history.run_invariant_of_guarded (Careful keyOf) (Sound keyOf)
    (fun _ _ _ => Sound.of_step) careful ran (sound_start keyOf ok)).kept flushed

/-- The key of a row whose `key` is a string. -/
def textKey : Json → Text
  | .obj fields =>
      match Json.getIn fields (text "key") with
      | .str key => key
      | _ => []
  | _ => []

/-- A row with the key `k`. -/
def sample (finished : ℤ) : Json :=
  .obj [(text "key", .str (text "k")), (text "finished", .int finished)]

/-- The writer takes an item, with no recovery due. -/
def take : List Event := [.writer .get, .writer .skip]

/-- A flush and what the writer does at its marker. -/
def flushed : List Event :=
  .caller .flush :: take ++ [.writer .answer, .writer .clear, .writer .signal]

/-- A row is written and flushed. -/
def oneRow : List Event :=
  .caller (.add (sample 1)) :: take ++ .writer (.write fun _ => .commits) :: flushed

theorem oneRow_kept : ∃ finish, history.run (start true) oneRow = some finish ∧ finish.Flushed ∧
    finish.Kept textKey := by
  have careful : history.Guarded (Careful textKey) (start true) oneRow := by
    refine history.guarded_of_forall (fun event member state => ?_) _
    simp only [oneRow, flushed, take, List.cons_append, List.nil_append, List.mem_cons,
      List.not_mem_nil, or_false] at member
    rcases member with rfl | rfl | rfl | rfl | rfl | rfl | rfl | rfl | rfl | rfl
    · exact fun refused => by cases refused
    all_goals trivial
  have flushed {finish : State} (ran : history.run (start true) oneRow = some finish) :
      finish.Flushed := by
    cases ran
    exact ⟨0, rfl, rfl, rfl⟩
  exact ⟨_, rfl, flushed rfl, kept_of_careful careful rfl (flushed rfl)⟩

/-- A flush times out, a row is rejected, and only then the writer comes to the marker. -/
def staleMarker : List Event :=
  [.caller .flush, .caller .timeOut, .caller (.add .null)] ++ take ++
    [.writer .answer, .writer .clear, .writer .signal] ++ flushed

/-- A recovery fails on the older of two rows with one key; the next one writes both. -/
def halfRecovery : List Event :=
  [.caller (.add (sample 1)), .caller (.add (sample 2))] ++
    take ++ [.writer (.write fun _ => .persistent)] ++ take ++ [.writer (.write fun _ => .commits)] ++
    [.writer .tick, .writer (.recover true), .writer (.replay fun _ => .persistent),
      .writer .replayed] ++
    [.writer .tick, .writer (.recover true), .writer (.replay fun _ => .commits),
      .writer (.replay fun _ => .commits), .writer .replayed] ++ flushed

theorem lost_silently :
    (∃ finish, history.run (start true) staleMarker = some finish ∧ finish.Flushed ∧
      finish.since.map Copy.row = [.null] ∧ finish.inserted = [] ∧ ¬ finish.Kept textKey) ∧
    ∃ finish, history.run (start true) halfRecovery = some finish ∧ finish.Flushed ∧
      (lastWith textKey (text "k") finish.passed).map Copy.row = some (sample 2) ∧
        (finish.stored textKey (text "k")).map Copy.row = some (sample 1) ∧
          ¬ finish.Kept textKey :=
  ⟨⟨_, rfl, ⟨1, rfl, rfl, rfl⟩, rfl, rfl, fun kept => by
      cases kept.committed ⟨0, .null⟩ (List.mem_singleton_self _)⟩,
    ⟨_, rfl, ⟨0, rfl, rfl, rfl⟩, rfl, rfl, fun kept => by
      have stored := kept.stored (text "k") ⟨1, sample 2⟩ rfl
        (.inl (List.mem_cons_of_mem _ (List.mem_singleton_self _)))
      exact absurd (congrArg Copy.number (Option.some.inj stored)) Nat.zero_ne_one⟩⟩

end Keys

end History

end LocalGpuCluster
