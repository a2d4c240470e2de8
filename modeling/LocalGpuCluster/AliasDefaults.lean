/-
This file models `apply_alias_defaults` of `alias_defaults.py` on the objects it works on: the client's
body, which is copied, and the copy, whose dicts are written to. What comes out is the body that the
values alone give, and the client's own is as it was. Where an alias sets template arguments and the
client's are no object, though, the call raises.
-/

import LocalGpuCluster.ChatBody
import LocalGpuCluster.ObjectStore

namespace LocalGpuCluster

namespace AliasDefaults

open ObjectStore
open Router (AliasInfo Fields)

abbrev modelKey : Text := text "model"

abbrev templateKey : Text := text "chat_template_kwargs"

/-- An entry of `ALIAS_MAP`: its sampling values refer to nothing, and none of them is the model. -/
structure AliasEntry where
  info : AliasInfo
  sampling : List (Text × Leaf)
  sampled : info.sampling = sampling.map fun entry => (entry.1, entry.2.json)
  noModel : modelKey ∉ sampling.map Prod.fst

/-- The `template_defaults`. -/
def templateDefaults (info : AliasInfo) : List (Text × Leaf) :=
  (info.enableThinking.map fun on => (text "enable_thinking", .bool on)).toList ++
    ((info.reasoningEffort.filter (· ≠ [])).map fun effort =>
      (text "reasoning_effort", .str effort)).toList

/-- `out["model"] = alias_info["backend"]`, where the body has a model that is another. -/
def applyBackend (heap : Heap) (out : Value) (info : AliasInfo) : Option Heap := do
  let found : ℕ × List (Text × Value) ← dictAt heap out
  match found.2.lookup modelKey with
  | none => some heap
  | some (.leaf (.str model)) =>
      if info.backend ≠ model then setItem heap out modelKey (.leaf (.str info.backend))
      else some heap
  | some _ => setItem heap out modelKey (.leaf (.str info.backend))

/-- The template arguments, which the client's dict is asked to take or a new one. -/
def applyTemplate (heap : Heap) (out : Value) (info : AliasInfo) : Option Heap :=
  if (templateDefaults info).isEmpty then some heap
  else do
    let named : Heap ← setDefault (heap ++ [.obj []]) out templateKey (.ref heap.length)
    let kwargs : Value ← getItem named out templateKey
    setDefaults named kwargs (templateDefaults info)

/-- `apply_alias_defaults`, with how many containers `copy.deepcopy` may enter: the cells and the dict
that is returned, `none` where it raises. -/
def applyAliasDefaults (limit : ℕ) (heap : Heap) (body : Value) (entry : AliasEntry) :
    Option (Heap × Value) := do
  let copied : Heap × Value ← deepcopy limit heap body
  let named : Heap ← applyBackend copied.1 copied.2 entry.info
  let templated : Heap ← applyTemplate named copied.2 entry.info
  let sampled : Heap ← setDefaults templated copied.2 entry.sampling
  some (sampled, copied.2)

/-! ### The entries of the table -/

/-- What an alias samples with, as leaves. -/
def Sampled (sampling : Fields) : Prop :=
  ∃ leaves : List (Text × Leaf), sampling = leaves.map (fun entry => (entry.1, entry.2.json)) ∧
    modelKey ∉ leaves.map Prod.fst

theorem sampled_nil : Sampled [] := ⟨[], rfl, List.not_mem_nil⟩

theorem sampled_qwen (temperature topP presencePenalty : ℚ) :
    Sampled (Router.qwenSampling temperature topP presencePenalty) :=
  ⟨[(text "temperature", .float (.finite temperature)), (text "top_p", .float (.finite topP)),
    (text "top_k", .int 20), (text "min_p", .float (.finite 0)),
    (text "presence_penalty", .float (.finite presencePenalty))], rfl,
    show modelKey ∉ [text "temperature", text "top_p", text "top_k", text "min_p",
      text "presence_penalty"] by decide⟩

theorem sampled_obliterated : Sampled Router.obliteratedSampling :=
  ⟨[(text "temperature", .float (.finite 0.2)), (text "repetition_penalty", .float (.finite 1.15))],
    rfl, by decide⟩

theorem sampled_aliasMap : ∀ entry ∈ Router.aliasMap, Sampled entry.2.sampling :=
  List.forall_iff_forall_mem.mp
    ⟨sampled_qwen _ _ _, sampled_qwen _ _ _, sampled_qwen _ _ _, sampled_qwen _ _ _,
      sampled_qwen _ _ _, sampled_qwen _ _ _, sampled_nil, sampled_nil, sampled_qwen _ _ _,
      sampled_qwen _ _ _, sampled_qwen _ _ _, sampled_qwen _ _ _, sampled_qwen _ _ _,
      sampled_qwen _ _ _, sampled_obliterated, sampled_obliterated⟩

/-- Whatever model is asked for, it resolves to such an entry. -/
theorem exists_entry (model : Text) :
    ∃ entry : AliasEntry, entry.info = Router.resolveAlias model := by
  have sampled : Sampled (Router.resolveAlias model).sampling := by
    unfold Router.resolveAlias
    split
    · rename_i info found
      obtain ⟨before, after, split, _⟩ := List.lookup_eq_some_iff.mp found
      refine sampled_aliasMap (model, info) ?_
      rw [split]
      exact List.mem_append_right _ List.mem_cons_self
    · split <;> exact sampled_nil
  obtain ⟨leaves, same, noModel⟩ := sampled
  exact ⟨⟨_, leaves, same, noModel⟩, rfl⟩

/-! ### The values that come out -/

theorem templateDefaults_json (info : AliasInfo) : Router.templateDefaults info =
    (templateDefaults info).map fun entry => (entry.1, entry.2.json) := by
  unfold Router.templateDefaults templateDefaults
  rw [List.map_append]
  congr 1
  · cases info.enableThinking <;> rfl
  · cases info.reasoningEffort.filter (· ≠ []) <;> rfl

theorem setDefaults_eq (fields : Fields) (defaults : List (Text × Leaf)) :
    Router.setDefaults fields (defaults.map fun entry => (entry.1, entry.2.json)) =
      defaulted fields defaults := List.foldl_map

/-- What is put where it is changes nothing. -/
theorem setIn_of_lookup {fields : Fields} (distinct : (fields.map Prod.fst).Nodup) {key : Text}
    {value : Json} (found : fields.lookup key = some value) :
    Json.setIn fields key value = fields := by
  rw [Json.setIn, if_pos (by rw [found]; rfl)]
  refine (List.map_congr_left fun field member => ?_).trans (List.map_id' _)
  split
  · rename_i same
    subst same
    rw [Dictionary.lookup_of_mem distinct member] at found
    cases found
    rfl
  · rfl

/-- What a default put there is put there outright. -/
theorem setIn_setDefault (fields : Fields) (key : Text) (value other : Json) :
    Json.setIn (Json.setDefault fields key value) key other = Json.setIn fields key other := by
  unfold Json.setDefault
  split
  · rfl
  · rename_i absent
    have missing := Option.not_isSome_iff_eq_none.mp absent
    have found : (fields ++ [(key, value)]).lookup key = some value := by
      rw [List.lookup_append, missing, Option.none_or, List.lookup_cons_self]
    rw [Json.setIn, Json.setIn, if_pos (by rw [found]; rfl), if_neg absent, List.map_append,
      List.map_singleton, if_pos rfl]
    refine congrArg (· ++ [(key, other)]) ?_
    refine (List.map_congr_left fun field member => if_neg ?_).trans (List.map_id' _)
    exact Ne.symm (bne_iff_ne.mp (List.lookup_eq_none_iff.mp missing field member))

theorem lookup_setDefault_self (fields : Fields) (key : Text) (value : Json) :
    (Json.setDefault fields key value).lookup key = some ((fields.lookup key).getD value) := by
  unfold Json.setDefault
  split
  · rename_i present
    obtain ⟨found, same⟩ := Option.isSome_iff_exists.mp present
    rw [same]
    rfl
  · rename_i absent
    rw [Option.not_isSome_iff_eq_none.mp absent, List.lookup_append,
      Option.not_isSome_iff_eq_none.mp absent, Option.none_or, List.lookup_cons_self]
    rfl

section Refinement

variable {before heap : Heap} {address : ℕ} {fields : Fields}

theorem applyBackend_owns (owns : Owns before heap address fields) (info : AliasInfo) :
    ∃ after, applyBackend heap (.ref address) info = some after ∧
      Owns before after address (Router.applyBackend fields info) := by
  have isOwn := owns
  obtain ⟨entries, _, _, cell, apart, distinct⟩ := owns
  unfold applyBackend Router.applyBackend
  rw [dictAt_ref cell]
  show ∃ after, (match entries.lookup modelKey with
    | none => _ | some (.leaf (.str model)) => _ | some _ => _) = some after ∧ _
  cases found : fields.lookup modelKey with
  | none =>
    have missing := lookup_isSome_of_keys apart.labels modelKey
    rw [found] at missing
    rw [Option.not_isSome_iff_eq_none.mp (Bool.eq_false_iff.mp missing)]
    exact ⟨heap, rfl, isOwn⟩
  | some json =>
    obtain ⟨value, _, _, looked, held, _⟩ := isOwn.focus found
    rw [getItem, dictAt_ref cell] at looked
    have looked : entries.lookup modelKey = some value := looked
    have present : (fields.lookup modelKey).isSome = true := Option.isSome_of_eq_some found
    have sets := isOwn.setItem present (.str info.backend)
    rw [looked, if_pos (show (some json).isSome = true from rfl)]
    cases held with
    | leaf leaf =>
      cases leaf with
      | str model =>
        by_cases same : info.backend = model
        · refine ⟨heap, if_neg (not_not_intro same), ?_⟩
          subst same
          exact (setIn_of_lookup distinct found).symm ▸ isOwn
        · obtain ⟨after, set, own⟩ := sets
          exact ⟨after, (if_pos same).trans set, own⟩
      | null => exact sets
      | bool => exact sets
      | int => exact sets
      | float => exact sets
    | arr => exact sets
    | obj => exact sets

theorem setDefaults_eq_none {kwargs : Value} (none : dictAt heap kwargs = none)
    {defaults : List (Text × Leaf)} (some : defaults ≠ []) :
    setDefaults heap kwargs defaults = Option.none := by
  cases defaults with
  | nil => exact absurd rfl some
  | cons entry rest =>
    rw [setDefaults, List.foldlM_cons, setDefault, none]
    rfl

theorem applyTemplate_owns (owns : Owns before heap address fields) (info : AliasInfo) :
    match Router.applyTemplate fields info with
    | some out => ∃ after, applyTemplate heap (.ref address) info = some after ∧
        Owns before after address out
    | none => applyTemplate heap (.ref address) info = none := by
  unfold Router.applyTemplate
  rw [templateDefaults_json, List.isEmpty_map]
  by_cases empty : (templateDefaults info).isEmpty = true
  · rw [if_pos empty]
    exact ⟨heap, if_pos empty, owns⟩
  · rw [if_neg empty]
    obtain ⟨middle, set, isOwn⟩ := owns.setDefault_empty templateKey
    obtain ⟨kwargs, first, last, looked, held, change⟩ :=
      isOwn.focus (lookup_setDefault_self fields templateKey (.obj []))
    have runs : applyTemplate heap (.ref address) info =
        setDefaults middle kwargs (templateDefaults info) := by
      rw [applyTemplate, if_neg empty, set]
      show (getItem middle (.ref address) templateKey >>= _) = _
      rw [looked]
      rfl
    have raises (other : ∀ sent, (fields.lookup templateKey).getD (.obj []) ≠ .obj sent) :
        setDefaults middle kwargs (templateDefaults info) = none :=
      setDefaults_eq_none (held.dictAt_eq_none other) fun nil => empty (List.isEmpty_iff.mpr nil)
    rw [runs]
    cases value : (fields.lookup templateKey).getD (.obj []) with
    | obj sent =>
      rw [value] at held
      obtain ⟨inner, rfl⟩ := held.ref_of_obj
      obtain ⟨after, sets, writes, changed⟩ := held.getsDefaults (templateDefaults info)
      have changed := change after _ writes changed
      rw [setIn_setDefault, ← setDefaults_eq] at changed
      exact ⟨after, sets, changed⟩
    | null | bool | int | float | str | arr =>
      exact raises fun sent same => by rw [value] at same; cases same

/-- The body is copied if it is not too deep, and what is done to the copy is what is done to the
values. -/
theorem applyAliasDefaults_eq {limit : ℕ} {body : Value} (denotes : Denotes heap body (.obj fields))
    (entry : AliasEntry) (fits : within limit (.obj fields) = true) :
    match Router.applyAliasDefaults fields entry.info with
    | some out => ∃ after address, applyAliasDefaults limit heap body entry =
        some (after, .ref address) ∧ Made heap after (.ref address) (.obj out)
    | none => applyAliasDefaults limit heap body entry = none := by
  have copied := deepcopy_object limit denotes
  rw [if_pos fits] at copied
  obtain ⟨middle, copy, isOwn⟩ := copied
  obtain ⟨named, names, isOwn⟩ := applyBackend_owns isOwn entry.info
  have template := applyTemplate_owns isOwn entry.info
  have runs : applyAliasDefaults limit heap body entry =
      (applyTemplate named (.ref heap.length) entry.info).bind fun templated =>
        (setDefaults templated (.ref heap.length) entry.sampling).map fun sampled =>
          (sampled, .ref heap.length) := by
    rw [applyAliasDefaults, copy]
    show (applyBackend middle (.ref heap.length) entry.info >>= _) = _
    rw [names]
    show (applyTemplate named (.ref heap.length) entry.info >>= _) = _
    cases applyTemplate named (.ref heap.length) entry.info with
    | none => rfl
    | some templated =>
      show (setDefaults templated (.ref heap.length) entry.sampling >>= _) = _
      cases sets : setDefaults templated (.ref heap.length) entry.sampling <;>
        rw [Option.bind_some, sets] <;> rfl
  unfold Router.applyAliasDefaults
  rw [runs]
  cases value : Router.applyTemplate (Router.applyBackend fields entry.info) entry.info with
  | none =>
    rw [value] at template
    rw [template]
    rfl
  | some out =>
    rw [value] at template
    obtain ⟨templated, templates, isOwn⟩ := template
    obtain ⟨extended, holds⟩ := isOwn.made
    obtain ⟨after, sets, writes, changed⟩ := holds.getsDefaults entry.sampling
    rw [templates, entry.sampled, Option.map_some, setDefaults_eq]
    refine ⟨after, heap.length, by rw [Option.bind_some, sets]; rfl,
      writes.extended extended (Nat.le_refl _), ?_⟩
    rwa [writes.length]

theorem applyAliasDefaults_deep {limit : ℕ} {body : Value}
    (denotes : Denotes heap body (.obj fields)) (entry : AliasEntry)
    (deep : within limit (.obj fields) = false) : applyAliasDefaults limit heap body entry = none := by
  have copied := deepcopy_object limit denotes
  rw [deep, if_neg Bool.false_ne_true] at copied
  rw [applyAliasDefaults, copied]
  rfl

end Refinement

/-! ### What the values are -/

section Values

variable {info : AliasInfo} {fields defaults : Fields}

theorem lookup_setDefault_cases {key other : Text} {value found : Json}
    (looked : (Json.setDefault fields key value).lookup other = some found) :
    fields.lookup other = some found ∨
      fields.lookup other = none ∧ other = key ∧ found = value := by
  unfold Json.setDefault at looked
  split at looked
  · exact Or.inl looked
  · cases here : fields.lookup other with
    | some value =>
      rw [List.lookup_append, here, Option.some_or] at looked
      exact Or.inl looked
    | none =>
      rw [List.lookup_append, here, Option.none_or, Json.lookup_cons_eq] at looked
      split at looked
      · rename_i same
        cases looked
        exact Or.inr ⟨rfl, same.symm, rfl⟩
      · cases looked

/-- A field is there already or one of the defaults. -/
theorem lookup_setDefaults_cases {key : Text} {value : Json}
    (looked : (Router.setDefaults fields defaults).lookup key = some value) :
    fields.lookup key = some value ∨ fields.lookup key = none ∧ (key, value) ∈ defaults := by
  induction defaults generalizing fields with
  | nil => exact Or.inl looked
  | cons entry rest inductionHypothesis =>
    obtain here | ⟨missing, later⟩ := inductionHypothesis looked
    · obtain there | ⟨missing, rfl, rfl⟩ := lookup_setDefault_cases here
      · exact Or.inl there
      · exact Or.inr ⟨missing, List.mem_cons_self⟩
    · refine Or.inr ⟨?_, List.mem_cons_of_mem _ later⟩
      cases there : fields.lookup key with
      | none => rfl
      | some value =>
        rw [Json.lookup_setDefault there] at missing
        cases missing

/-- Every default is there in the end. -/
theorem isSome_lookup_setDefaults {entry : Text × Json} (member : entry ∈ defaults) :
    ((Router.setDefaults fields defaults).lookup entry.1).isSome = true := by
  induction defaults generalizing fields with
  | nil => exact absurd member List.not_mem_nil
  | cons first rest inductionHypothesis =>
    obtain rfl | later := List.mem_cons.mp member
    · have there := lookup_setDefault_self fields entry.1 entry.2
      have kept : (Router.setDefaults (Json.setDefault fields entry.1 entry.2) rest).lookup entry.1 =
        _ := Router.lookup_setDefaults there
      exact Option.isSome_of_eq_some kept
    · exact inductionHypothesis later

theorem setDefaults_of_present
    (present : ∀ entry ∈ defaults, (fields.lookup entry.1).isSome = true) :
    Router.setDefaults fields defaults = fields := by
  induction defaults with
  | nil => rfl
  | cons entry rest inductionHypothesis =>
    have here : Json.setDefault fields entry.1 entry.2 = fields :=
      if_pos (present entry List.mem_cons_self)
    show Router.setDefaults (Json.setDefault fields entry.1 entry.2) rest = fields
    rw [here]
    exact inductionHypothesis fun other member => present other (List.mem_cons_of_mem _ member)

theorem mem_setIn {key : Text} {value : Json} {field : Text × Json}
    (member : field ∈ Json.setIn fields key value) : field ∈ fields ∨ field = (key, value) := by
  unfold Json.setIn at member
  split at member
  · obtain ⟨other, inFields, rfl⟩ := List.mem_map.mp member
    split
    · exact Or.inr rfl
    · exact Or.inl inFields
  · exact (List.mem_append.mp member).imp id List.mem_singleton.mp

theorem mem_setDefaults {field : Text × Json}
    (member : field ∈ Router.setDefaults fields defaults) : field ∈ fields ∨ field ∈ defaults := by
  induction defaults generalizing fields with
  | nil => exact Or.inl member
  | cons entry rest inductionHypothesis =>
    obtain here | later := inductionHypothesis member
    · change field ∈ Json.setDefault fields entry.1 entry.2 at here
      unfold Json.setDefault at here
      split at here
      · exact Or.inl here
      · obtain old | new := List.mem_append.mp here
        · exact Or.inl old
        · exact Or.inr (List.mem_singleton.mp new ▸ List.mem_cons_self)
    · exact Or.inr (List.mem_cons_of_mem _ later)

theorem lookup_applyBackend_of_ne (body : Fields) {key : Text} (other : key ≠ modelKey) :
    (Router.applyBackend body info).lookup key = body.lookup key := by
  unfold Router.applyBackend
  split
  · exact Json.lookup_setIn_of_ne (Ne.symm other) _
  · rfl

/-- The model is there exactly where the client sent one, and it is the backend then. -/
theorem lookup_applyBackend (body : Fields) : (Router.applyBackend body info).lookup modelKey =
    (body.lookup modelKey).map fun _ => .str info.backend := by
  unfold Router.applyBackend
  cases found : body.lookup modelKey with
  | none => rw [if_neg (by rw [Option.isSome_none]; exact Bool.false_ne_true), found]; rfl
  | some value => rw [if_pos (Option.isSome_some), Json.lookup_setIn_self]; rfl

/-- Template arguments are set in the client's object, where there are any. -/
theorem applyTemplate_cases {body out : Fields} (applied : Router.applyTemplate body info = some out) :
    Router.templateDefaults info = [] ∧ out = body ∨
      Router.templateDefaults info ≠ [] ∧ ∃ kwargs,
        (body.lookup templateKey).getD (.obj []) = .obj kwargs ∧
          out = Json.setIn body templateKey
            (.obj (Router.setDefaults kwargs (Router.templateDefaults info))) := by
  unfold Router.applyTemplate at applied
  split at applied
  · rename_i empty
    cases applied
    exact Or.inl ⟨List.isEmpty_iff.mp empty, rfl⟩
  · rename_i some
    split at applied
    · rename_i kwargs value
      cases applied
      exact Or.inr ⟨fun nil => some (List.isEmpty_iff.mpr nil), kwargs, value, rfl⟩
    · cases applied

/-- They can be set unless the client's are something else. -/
theorem applyTemplate_isSome_iff {body : Fields} :
    (Router.applyTemplate body info).isSome = true ↔ Router.templateDefaults info = [] ∨
      ∀ value, body.lookup templateKey = some value → ∃ kwargs, value = .obj kwargs := by
  unfold Router.applyTemplate
  by_cases empty : Router.templateDefaults info = []
  · rw [if_pos (List.isEmpty_iff.mpr empty)]
    exact iff_of_true rfl (Or.inl empty)
  · rw [if_neg fun nil => empty (List.isEmpty_iff.mp nil), or_iff_right empty]
    cases found : body.lookup templateKey with
    | none => exact iff_of_true rfl fun _ same => by cases same
    | some value =>
      cases value with
      | obj kwargs => exact iff_of_true rfl fun _ same => ⟨kwargs, (Option.some.inj same).symm⟩
      | null | bool | int | float | str | arr =>
        refine iff_of_false Bool.false_ne_true fun each => ?_
        obtain ⟨kwargs, same⟩ := each _ rfl
        cases same

end Values

/-! ### What the client sent is kept -/

/-- A value that was sent, and the one that is there in the end: the template arguments may have got
defaults that the client did not send. -/
inductive Keeps (info : AliasInfo) : Text → Json → Json → Prop
  | same (key : Text) (value : Json) : Keeps info key value value
  | more {sent kept : Fields} :
      (∀ name value, sent.lookup name = some value → kept.lookup name = some value) →
      (∀ name value, kept.lookup name = some value → sent.lookup name = some value ∨
        sent.lookup name = none ∧ (name, value) ∈ Router.templateDefaults info) →
      Keeps info templateKey (.obj sent) (.obj kept)

/-- All but the model is kept, and what is new is a default that the client did not send. -/
structure KeepsSent (info : AliasInfo) (body out : Fields) : Prop where
  kept : ∀ key value, key ≠ modelKey → body.lookup key = some value →
    ∃ kept, out.lookup key = some kept ∧ Keeps info key value kept
  filled : ∀ key value, out.lookup key = some value → body.lookup key = none →
    (key, value) ∈ info.sampling ∨ key = templateKey ∧ Keeps info key (.obj []) value

section KeepsSent

variable {info : AliasInfo} {body out : Fields}

theorem keeps_setDefaults (sent : Fields) : Keeps info templateKey (.obj sent)
    (.obj (Router.setDefaults sent (Router.templateDefaults info))) :=
  .more (fun _ _ there => Router.lookup_setDefaults there) fun _ _ there =>
    lookup_setDefaults_cases there

theorem keepsSent_of_applyTemplate (applied : Router.applyTemplate body info = some out) :
    KeepsSent info body out := by
  obtain ⟨_, rfl⟩ | ⟨_, kwargs, value, rfl⟩ := applyTemplate_cases applied
  · exact ⟨fun key value _ there => ⟨value, there, .same key value⟩, fun _ _ there missing => by
      rw [missing] at there; cases there⟩
  · constructor
    · intro key sent _ there
      by_cases same : key = templateKey
      · subst same
        rw [there] at value
        cases value
        exact ⟨_, Json.lookup_setIn_self _ _ _, keeps_setDefaults kwargs⟩
      · exact ⟨sent, (Json.lookup_setIn_of_ne (Ne.symm same) _).trans there, .same key sent⟩
    · intro key found there missing
      by_cases same : key = templateKey
      · subst same
        rw [missing] at value
        rw [Json.lookup_setIn_self] at there
        cases value
        cases there
        exact Or.inr ⟨rfl, keeps_setDefaults []⟩
      · rw [Json.lookup_setIn_of_ne (Ne.symm same), missing] at there
        cases there

/-- Nothing else is touched. -/
theorem lookup_applyTemplate (applied : Router.applyTemplate body info = some out) {key : Text}
    (other : key ≠ templateKey) : out.lookup key = body.lookup key := by
  obtain ⟨_, rfl⟩ | ⟨_, kwargs, _, rfl⟩ := applyTemplate_cases applied
  · rfl
  · exact Json.lookup_setIn_of_ne (Ne.symm other) _

theorem applyAliasDefaults_cases (applied : Router.applyAliasDefaults body info = some out) :
    ∃ templated, Router.applyTemplate (Router.applyBackend body info) info = some templated ∧
      Router.setDefaults templated info.sampling = out :=
  Option.map_eq_some_iff.mp applied

theorem keepsSent_of_applied (applied : Router.applyAliasDefaults body info = some out) :
    KeepsSent info body out := by
  obtain ⟨templated, template, rfl⟩ := applyAliasDefaults_cases applied
  have sent := keepsSent_of_applyTemplate template
  constructor
  · intro key value other there
    obtain ⟨kept, found, keeps⟩ :=
      sent.kept key value other ((lookup_applyBackend_of_ne body other).trans there)
    exact ⟨kept, Router.lookup_setDefaults found, keeps⟩
  · intro key value found missing
    have unnamed : (Router.applyBackend body info).lookup key = none := by
      by_cases same : key = modelKey
      · subst same
        rw [lookup_applyBackend, missing]
        rfl
      · rw [lookup_applyBackend_of_ne body same, missing]
    obtain there | ⟨_, default⟩ := lookup_setDefaults_cases found
    · exact (sent.filled key value there unnamed)
    · exact Or.inl default

/-- With what the defaults have filled there is nothing left to fill. -/
theorem applied_again (entry : AliasEntry) (distinct : (out.map Prod.fst).Nodup)
    (applied : Router.applyAliasDefaults body entry.info = some out) :
    Router.applyAliasDefaults out entry.info = some out := by
  obtain ⟨templated, template, rfl⟩ := applyAliasDefaults_cases applied
  have named : Router.applyBackend (Router.setDefaults templated entry.info.sampling) entry.info =
      Router.setDefaults templated entry.info.sampling := by
    have kept : templated.lookup modelKey = (body.lookup modelKey).map fun _ =>
        .str entry.info.backend := by
      rw [lookup_applyTemplate template (by decide), lookup_applyBackend]
    cases sent : body.lookup modelKey with
    | some value =>
      rw [sent] at kept
      have there : (Router.setDefaults templated entry.info.sampling).lookup modelKey =
        some (.str entry.info.backend) := Router.lookup_setDefaults kept
      exact (if_pos (by rw [there]; rfl)).trans (setIn_of_lookup distinct there)
    | none =>
      rw [sent] at kept
      refine if_neg fun there => ?_
      obtain ⟨value, found⟩ := Option.isSome_iff_exists.mp there
      obtain here | ⟨_, default⟩ := lookup_setDefaults_cases found
      · rw [kept] at here
        cases here
      · rw [entry.sampled] at default
        obtain ⟨leaf, member, same⟩ := List.mem_map.mp default
        exact entry.noModel (List.mem_map.mpr ⟨leaf, member, (Prod.mk.inj same).1⟩)
  have arguments : Router.applyTemplate (Router.setDefaults templated entry.info.sampling)
      entry.info = some (Router.setDefaults templated entry.info.sampling) := by
    obtain ⟨empty, _⟩ | ⟨some, kwargs, _, same⟩ := applyTemplate_cases template
    · exact if_pos (List.isEmpty_iff.mpr empty)
    · have set : templated.lookup templateKey = _ := same ▸ Json.lookup_setIn_self _ _ _
      have there : (Router.setDefaults templated entry.info.sampling).lookup templateKey = _ :=
        Router.lookup_setDefaults set
      have full : Router.setDefaults (Router.setDefaults kwargs (Router.templateDefaults entry.info))
          (Router.templateDefaults entry.info) =
          Router.setDefaults kwargs (Router.templateDefaults entry.info) :=
        setDefaults_of_present fun _ member => isSome_lookup_setDefaults member
      rw [Router.applyTemplate, if_neg fun nil => some (List.isEmpty_iff.mp nil), there]
      show Option.some (Json.setIn _ _ (Json.obj (Router.setDefaults _ _))) = _
      rw [full, setIn_of_lookup distinct there]
  unfold Router.applyAliasDefaults
  rw [named, arguments, Option.map_some]
  exact congrArg some (setDefaults_of_present fun _ member => isSome_lookup_setDefaults member)

/-- Nothing lies deeper than before, or deeper than the template arguments. -/
theorem within_of_applied {limit : ℕ} (enough : 2 ≤ limit) (entry : AliasEntry)
    (applied : Router.applyAliasDefaults body entry.info = some out)
    (fits : within limit (.obj body) = true) : within limit (.obj out) = true := by
  obtain ⟨limit, rfl⟩ := Nat.exists_eq_add_of_le' enough
  obtain ⟨templated, template, rfl⟩ := applyAliasDefaults_cases applied
  have sent : ∀ field ∈ Router.applyBackend body entry.info, within (limit + 1) field.2 = true := by
    intro field member
    unfold Router.applyBackend at member
    split at member
    · obtain inBody | rfl := mem_setIn member
      · exact List.all_eq_true.mp fits field inBody
      · exact within_leaf _ (.str _)
    · exact List.all_eq_true.mp fits field member
  have arguments : ∀ field ∈ templated, within (limit + 1) field.2 = true := by
    intro field member
    obtain ⟨_, rfl⟩ | ⟨_, kwargs, value, rfl⟩ := applyTemplate_cases template
    · exact sent field member
    · obtain named | rfl := mem_setIn member
      · exact sent field named
      · have inside : within (limit + 1) (.obj kwargs) = true := by
          rw [← value]
          cases found : (Router.applyBackend body entry.info).lookup templateKey with
          | none => rfl
          | some json =>
            obtain ⟨before, after, split, _⟩ := List.lookup_eq_some_iff.mp found
            refine sent (templateKey, json) ?_
            rw [split]
            exact List.mem_append_right _ List.mem_cons_self
        refine List.all_eq_true.mpr fun argument member => ?_
        obtain old | default := mem_setDefaults member
        · exact List.all_eq_true.mp inside argument old
        · rw [templateDefaults_json] at default
          obtain ⟨leaf, _, rfl⟩ := List.mem_map.mp default
          exact within_leaf _ _
  refine List.all_eq_true.mpr fun field member => ?_
  obtain old | default := mem_setDefaults member
  · exact arguments field old
  · rw [entry.sampled] at default
    obtain ⟨leaf, _, rfl⟩ := List.mem_map.mp default
    exact within_leaf _ _

end KeepsSent

/-! ### A request with its defaults -/

/-- The call returns with the client's objects as they were, with a dict that keeps what was sent, and
a second call on that dict gives the same again. -/
def KeepsRequest (limit : ℕ) (entry : AliasEntry) (before : Heap) (request : Value)
    (body : Fields) : Prop :=
  ∃ after out fields, applyAliasDefaults limit before request entry = some (after, out) ∧
    before <+: after ∧ Denotes after out (.obj fields) ∧ KeepsSent entry.info body fields ∧
    ∃ again other, applyAliasDefaults limit after out entry = some (again, other) ∧
      Denotes again other (.obj fields)

/-- A body that was read keeps to this exactly where it is not too deep for the copy and its template
arguments, if the alias sets any, are an object or left out. -/
theorem keepsRequest_iff {limit readLimit : ℕ} (enough : 2 ≤ limit) (entry : AliasEntry)
    {heap before : Heap} {request : Value} {body : Fields} (distinct : Distinct (.obj body))
    (loaded : load readLimit heap (.obj body) = some (before, request)) :
    KeepsRequest limit entry before request body ↔ within limit (.obj body) = true ∧
      (Router.templateDefaults entry.info = [] ∨
        ∀ value, body.lookup templateKey = some value → ∃ kwargs, value = .obj kwargs) := by
  have read := load_spec readLimit heap distinct
  rw [MakesFitting, loaded] at read
  have made : Made heap before request (.obj body) := by
    split at read
    · obtain ⟨_, _, same, made⟩ := read
      cases same
      exact made
    · cases read
  have denotes := made.holds.denotes
  have applies : (Router.applyAliasDefaults body entry.info).isSome = true ↔
      Router.templateDefaults entry.info = [] ∨
        ∀ value, body.lookup templateKey = some value → ∃ kwargs, value = .obj kwargs := by
    rw [Router.applyAliasDefaults, Option.isSome_map, applyTemplate_isSome_iff,
      lookup_applyBackend_of_ne body (by decide)]
  rw [← applies]
  constructor
  · rintro ⟨after, out, _, runs, _⟩
    have fits : within limit (.obj body) = true := by
      by_contra deep
      rw [applyAliasDefaults_deep denotes entry (Bool.eq_false_iff.mpr deep)] at runs
      cases runs
    refine ⟨fits, ?_⟩
    have result := applyAliasDefaults_eq denotes entry fits
    cases value : Router.applyAliasDefaults body entry.info with
    | some fields => rfl
    | none =>
      rw [value, runs] at result
      cases result
  · rintro ⟨fits, applied⟩
    obtain ⟨fields, applied⟩ := Option.isSome_iff_exists.mp applied
    have result := applyAliasDefaults_eq denotes entry fits
    rw [applied] at result
    obtain ⟨after, address, runs, extended, holds⟩ := result
    have again := applyAliasDefaults_eq holds.denotes entry
      (within_of_applied enough entry applied fits)
    rw [applied_again entry holds.nodup applied] at again
    obtain ⟨later, other, runsAgain, _, same⟩ := again
    exact ⟨after, _, fields, runs, extended, holds.denotes, keepsSent_of_applied applied, later, _,
      runsAgain, same.denotes⟩

/-- The entry under `qwen3.8`. -/
def qwen38 : AliasEntry where
  info := Router.resolveAlias (text "qwen3.8")
  sampling :=
    [(text "temperature", .float (.finite 1)), (text "top_p", .float (.finite 0.95)),
      (text "top_k", .int 20), (text "min_p", .float (.finite 0)),
      (text "presence_penalty", .float (.finite 0))]
  sampled := rfl
  noModel := by decide

/-- A client asks for nothing but the model. -/
theorem keepsRequest_named : KeepsRequest 2 qwen38
    [.obj [(modelKey, .leaf (.str (text "qwen3.8")))]] (.ref 0)
    [(modelKey, .str (text "qwen3.8"))] := by
  have distinct : Distinct (.obj [(modelKey, .str (text "qwen3.8"))]) :=
    .obj (List.nodup_singleton _) fun field member => by
      cases List.mem_singleton.mp member
      exact .leaf (.str (text "qwen3.8"))
  have loaded : load 1 [] (.obj [(modelKey, .str (text "qwen3.8"))]) =
    some ([.obj [(modelKey, .leaf (.str (text "qwen3.8")))]], .ref 0) := rfl
  refine (keepsRequest_iff (Nat.le_refl 2) qwen38 distinct loaded).mpr ⟨rfl, Or.inr ?_⟩
  intro value found
  have missing : [(modelKey, Json.str (text "qwen3.8"))].lookup templateKey = none := rfl
  rw [missing] at found
  cases found

/-- An explicit `null` for the template arguments, which is to win, makes the call raise. -/
theorem not_keepsRequest_null : ¬ ∀ (limit : ℕ), 2 ≤ limit → ∀ (entry : AliasEntry) (readLimit : ℕ)
    (heap before : Heap) (request : Value) (body : Fields), Distinct (.obj body) →
    load readLimit heap (.obj body) = some (before, request) →
    KeepsRequest limit entry before request body := by
  intro claimed
  have distinct : Distinct (.obj [(templateKey, .null)]) :=
    .obj (List.nodup_singleton _) fun field member => by
      cases List.mem_singleton.mp member
      exact .leaf .null
  have loaded : load 1 [] (.obj [(templateKey, .null)]) =
    some ([.obj [(templateKey, .leaf .null)]], .ref 0) := rfl
  obtain ⟨after, out, fields, runs, _⟩ := claimed 500 (by decide) qwen38 1 [] _ _ _ distinct loaded
  cases runs

end AliasDefaults

end LocalGpuCluster
