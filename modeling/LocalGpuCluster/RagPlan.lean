/-
This file models `lib/plan.py`: how the documents that a source yields are compared with the state of
the last refresh. The citation URL is the key, and a hash of the content tells whether a document
changed. SHA-256 is a parameter.
-/

import LocalGpuCluster.Text
import Mathlib.Data.List.AList
import Mathlib.Data.List.Nodup

namespace LocalGpuCluster

namespace Rag

abbrev Url := Text

/-- What AnythingLLM calls a document by. An empty path is no path to the code. -/
abbrev Path := Text

/-- A `Document` that a handler yields. -/
structure Document where
  url : Url
  content : Text
  deriving DecidableEq, Repr

/-- What `documents.json` holds of a URL, as far as it is read. A missing time stamp is empty. -/
structure Entry where
  hash : Option Text
  lastFetched : Text
  allmDocPath : Option Path
  deriving DecidableEq, Repr

/-- `documents.json`. -/
abbrev Documents := AList fun _ : Url => Entry

/-! ### Hashes -/

/-- `hashlib.sha256(text.encode("utf-8")).hexdigest()`. -/
structure Digest where
  sha256 : Text → Text

/-- `text.split()`, with the word read so far. -/
def wordsFrom (current : Text) : Text → List Text
  | [] => if current = [] then [] else [current]
  | point :: rest =>
      if point.isSpace then (if current = [] then [] else [current]) ++ wordsFrom [] rest
      else wordsFrom (current ++ [point]) rest

/-- `content_hash`. -/
def Digest.contentHash (digest : Digest) (content : Text) : Text :=
  text "sha256:" ++ digest.sha256 (Text.join (text " ") (wordsFrom [] content))

/-- The hash that `migrate_backfill.py` gives a document it adopts. -/
def migratedHash : Text := text "migrated"

/-- `doc.hash`. -/
def Digest.hashOf (digest : Digest) (doc : Document) : Text := digest.contentHash doc.content

/-! ### Plans -/

structure Plan where
  adds : List Document
  updates : List Document
  removes : List Url
  existingCount : ℕ

/-- The document is not in the state. -/
def isAdd (persisted : Documents) (doc : Document) : Bool := (persisted.lookup doc.url).isNone

/-- The document is in the state with another hash. -/
def isUpdate (digest : Digest) (persisted : Documents) (doc : Document) : Bool :=
  match persisted.lookup doc.url with
  | none => false
  | some prev => prev.hash ≠ some (digest.hashOf doc)

/-- The URLs that still exist upstream: those that were enumerated, or else collected. -/
def presentUrls (collected : List Document) (knownUrls : Option (List Url)) : List Url :=
  knownUrls.getD (collected.map Document.url)

/-- `compute`. -/
def compute (digest : Digest) (collected : List Document) (persisted : Documents)
    (removeMissing : Bool) (knownUrls : Option (List Url)) : Plan where
  adds := collected.filter (isAdd persisted)
  updates := collected.filter (isUpdate digest persisted)
  removes :=
    if removeMissing then persisted.keys.filter (· ∉ presentUrls collected knownUrls) else []
  existingCount := persisted.keys.length

/-- `Plan.is_noop`. -/
def Plan.isNoop (plan : Plan) : Bool :=
  plan.adds.isEmpty && plan.updates.isEmpty && plan.removes.isEmpty

/-- `len(self.removes) / self.existing_count`. -/
def Plan.removedShare (plan : Plan) : Float.Model :=
  Float.Model.ofInt plan.removes.length / Float.Model.ofInt plan.existingCount

/-- `safety_check`: the plan is safe. -/
def Plan.safe (plan : Plan) (maxDeletePct : Float.Model) : Bool :=
  if plan.removes.isEmpty then true
  else if plan.existingCount = 0 then true
  else if plan.removes.length < 5 then true
  else !decide (maxDeletePct < plan.removedShare)

/-! ### What a plan holds -/

variable {digest : Digest} {collected : List Document} {persisted : Documents}
  {removeMissing : Bool} {knownUrls : Option (List Url)} {doc : Document} {url : Url}

theorem isAdd_iff : isAdd persisted doc = true ↔ doc.url ∉ persisted := by
  rw [isAdd, Option.isNone_iff_eq_none, AList.lookup_eq_none]

theorem isUpdate_iff : isUpdate digest persisted doc = true ↔
    ∃ prev, persisted.lookup doc.url = some prev ∧ prev.hash ≠ some (digest.hashOf doc) := by
  unfold isUpdate
  cases persisted.lookup doc.url with
  | none => exact iff_of_false Bool.false_ne_true fun ⟨_, found, _⟩ => by cases found
  | some prev =>
    exact ⟨fun differs => ⟨prev, rfl, of_decide_eq_true differs⟩,
      fun ⟨_, found, differs⟩ => decide_eq_true (Option.some.inj found ▸ differs)⟩

theorem mem_removes_iff : url ∈ (compute digest collected persisted removeMissing knownUrls).removes ↔
    removeMissing = true ∧ url ∈ persisted ∧ url ∉ presentUrls collected knownUrls := by
  show url ∈ (if removeMissing then _ else []) ↔ _
  cases removeMissing with
  | false => exact iff_of_false List.not_mem_nil fun ⟨same, _⟩ => by cases same
  | true =>
    rw [if_pos rfl, List.mem_filter, ← AList.mem_keys, decide_eq_true_eq, eq_self, true_and]

/-- What was collected is known when nothing is enumerated beyond it. -/
def Known (collected : List Document) (knownUrls : Option (List Url)) : Prop :=
  ∀ known ∈ knownUrls, ∀ doc ∈ collected, doc.url ∈ known

theorem Known.mem_presentUrls (known : Known collected knownUrls) (member : doc ∈ collected) :
    doc.url ∈ presentUrls collected knownUrls := by
  unfold presentUrls
  cases knownUrls with
  | none => exact List.mem_map_of_mem member
  | some urls => exact known urls rfl doc member

end Rag

end LocalGpuCluster
