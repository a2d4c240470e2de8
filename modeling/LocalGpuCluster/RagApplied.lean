/-
This file proves what the parts of a refresh leave behind: the entries after the stamps, the uploads
and the removals, the paths that the embedding pass is given, and what is attached after it.
-/

import LocalGpuCluster.RagRefresh

namespace LocalGpuCluster

namespace Rag

variable {digest : Digest} {source : Source} {run : Run} {collection : Collection} {plan : Plan}
  {persisted : Documents} {doc : Document} {url : Url} {path : Path}

/-- Each URL comes once. -/
def UniqueUrls (docs : List Document) : Prop := (docs.map Document.url).Nodup

theorem UniqueUrls.eq {docs : List Document} (unique : UniqueUrls docs) {first second : Document}
    (inFirst : first ∈ docs) (inSecond : second ∈ docs) (same : first.url = second.url) :
    first = second :=
  List.inj_on_of_nodup_map unique inFirst inSecond same

theorem UniqueUrls.sublist {docs fewer : List Document} (unique : UniqueUrls docs)
    (within : fewer.Sublist docs) : UniqueUrls fewer :=
  List.Nodup.sublist (within.map _) unique

/-! ### Stamps -/

/-- A stamp only moves the time. -/
theorem lookup_stamp (now : Text) (state : Documents) (doc : Document) (url : Url) :
    (stamp now state doc).lookup url =
      (state.lookup url).map fun entry =>
        if doc.url = url then { entry with lastFetched := now } else entry := by
  unfold stamp
  by_cases same : doc.url = url
  · subst same
    cases found : state.lookup doc.url with
    | none => simp [found]
    | some entry => simp [AList.lookup_insert]
  · cases state.lookup doc.url with
    | none => simp [same]
    | some entry => simp [AList.lookup_insert_ne (Ne.symm same), same]

theorem lookup_stampAll (now : Text) (docs : List Document) (state : Documents) (url : Url) :
    (stampAll now docs state).lookup url =
      (state.lookup url).map fun entry =>
        if url ∈ docs.map Document.url then { entry with lastFetched := now } else entry := by
  unfold stampAll
  induction docs generalizing state with
  | nil => simp
  | cons doc rest inductionHypothesis =>
    rw [List.foldl_cons, inductionHypothesis, lookup_stamp, Option.map_map]
    congr 1
    funext entry
    by_cases here : doc.url = url
    · simp [here]
    · simp [here, Ne.symm here]

theorem lookup_stampAll_eq_none {now : Text} {docs : List Document} {state : Documents} {url : Url} :
    (stampAll now docs state).lookup url = none ↔ state.lookup url = none := by
  rw [lookup_stampAll, Option.map_eq_none_iff]

/-! ### Uploads -/

/-- The path that the response to an upload lists. -/
def Run.listedPath (run : Run) (doc : Document) : Option Path :=
  match run.upload doc with
  | .raised => none
  | .listed docpath => docpath

/-- The entry that an upload leaves. -/
def Run.entryOf (digest : Digest) (run : Run) (doc : Document) : Entry :=
  ⟨some (digest.hashOf doc), run.clock doc, run.listedPath doc⟩

/-- The path that an upload queues for removal. -/
def Run.queuedRemoval (run : Run) (persisted : Documents) (doc : Document) : Option Path :=
  if (run.listedPath doc).isSome then replacedPath persisted doc.url else none

theorem uploadOne_raised {progress : Progress} (raised : run.upload doc = .raised) :
    uploadOne digest run persisted progress doc = progress := by
  rw [uploadOne, raised]

theorem uploadOne_listed {progress : Progress} (listed : run.upload doc ≠ .raised) :
    uploadOne digest run persisted progress doc =
      { state := progress.state.insert doc.url (run.entryOf digest doc)
        saved := progress.state.insert doc.url (run.entryOf digest doc)
        adds := progress.adds ++ (run.listedPath doc).toList
        removes := progress.removes ++ (run.queuedRemoval persisted doc).toList } := by
  unfold uploadOne Run.entryOf Run.queuedRemoval Run.listedPath
  cases isUpload : run.upload doc with
  | raised => exact absurd isUpload listed
  | listed docpath => cases docpath <;> rfl

/-- URLs without an upload keep their entries. -/
theorem lookup_uploads_of_raised {queue : List Document} {progress : Progress}
    (raised : ∀ doc ∈ queue, doc.url = url → run.upload doc = .raised) :
    (queue.foldl (uploadOne digest run persisted) progress).state.lookup url =
      progress.state.lookup url := by
  induction queue generalizing progress with
  | nil => rfl
  | cons doc rest inductionHypothesis =>
    rw [List.foldl_cons, inductionHypothesis fun other member =>
      raised other (List.mem_cons_of_mem _ member)]
    by_cases refused : run.upload doc = .raised
    · rw [uploadOne_raised refused]
    · have apart : url ≠ doc.url := fun same => refused (raised doc List.mem_cons_self same.symm)
      rw [uploadOne_listed refused, AList.lookup_insert_ne apart]

/-- An upload that is not refused leaves its entry. -/
theorem lookup_uploads_of_listed {queue : List Document} {progress : Progress}
    (unique : UniqueUrls queue) (member : doc ∈ queue) (listed : run.upload doc ≠ .raised) :
    (queue.foldl (uploadOne digest run persisted) progress).state.lookup doc.url =
      some (run.entryOf digest doc) := by
  induction queue generalizing progress with
  | nil => exact absurd member List.not_mem_nil
  | cons head rest inductionHypothesis =>
    have fewer := unique.sublist (List.sublist_cons_self head rest)
    rw [List.foldl_cons]
    obtain rfl | inRest := List.mem_cons.mp member
    · have last : ∀ other ∈ rest, other.url = doc.url → run.upload other = .raised :=
        fun other inRest same => absurd (same ▸ List.mem_map_of_mem inRest)
          (List.nodup_cons.mp unique).1
      rw [lookup_uploads_of_raised last, uploadOne_listed listed, AList.lookup_insert]
    · exact inductionHypothesis fewer inRest

theorem adds_uploads (queue : List Document) (progress : Progress) :
    (queue.foldl (uploadOne digest run persisted) progress).adds =
      progress.adds ++ queue.filterMap run.listedPath := by
  induction queue generalizing progress with
  | nil => exact (List.append_nil _).symm
  | cons doc rest inductionHypothesis =>
    rw [List.foldl_cons, inductionHypothesis]
    by_cases refused : run.upload doc = .raised
    · have nothing : run.listedPath doc = none := by rw [Run.listedPath, refused]
      rw [uploadOne_raised refused, List.filterMap_cons_none nothing]
    · rw [uploadOne_listed refused]
      cases listed : run.listedPath doc with
      | none => rw [List.filterMap_cons_none listed]; simp
      | some path => rw [List.filterMap_cons_some listed]; simp

theorem removes_uploads (queue : List Document) (progress : Progress) :
    (queue.foldl (uploadOne digest run persisted) progress).removes =
      progress.removes ++ queue.filterMap (run.queuedRemoval persisted) := by
  induction queue generalizing progress with
  | nil => exact (List.append_nil _).symm
  | cons doc rest inductionHypothesis =>
    rw [List.foldl_cons, inductionHypothesis]
    by_cases refused : run.upload doc = .raised
    · have nothing : run.queuedRemoval persisted doc = none := by
        rw [Run.queuedRemoval, Run.listedPath, refused]
        rfl
      rw [uploadOne_raised refused, List.filterMap_cons_none nothing]
    · rw [uploadOne_listed refused]
      cases queued : run.queuedRemoval persisted doc with
      | none => rw [List.filterMap_cons_none queued]; simp
      | some path => rw [List.filterMap_cons_some queued]; simp

/-- The state file is written with each upload. -/
theorem saved_uploads {queue : List Document} {progress : Progress}
    (listed : progress.saved = progress.state ∨ ∃ doc ∈ queue, run.upload doc ≠ .raised) :
    (queue.foldl (uploadOne digest run persisted) progress).saved =
      (queue.foldl (uploadOne digest run persisted) progress).state := by
  induction queue generalizing progress with
  | nil => exact listed.resolve_right fun ⟨_, member, _⟩ => List.not_mem_nil member
  | cons doc rest inductionHypothesis =>
    rw [List.foldl_cons]
    refine inductionHypothesis ?_
    by_cases refused : run.upload doc = .raised
    · rw [uploadOne_raised refused]
      refine listed.imp_right fun ⟨other, member, accepted⟩ => ⟨other, ?_, accepted⟩
      exact (List.mem_cons.mp member).resolve_left fun same => accepted (same ▸ refused)
    · rw [uploadOne_listed refused]
      exact Or.inl rfl

/-! ### Removals -/

theorem lookup_removals (plan : Plan) (persisted : Documents) (progress : Progress) (url : Url) :
    (removals plan persisted progress).saved.lookup url =
      if url ∈ plan.removes then none else progress.state.lookup url := by
  show (plan.removes.foldl (removeOne persisted) progress).state.lookup url = _
  induction plan.removes generalizing progress with
  | nil => rfl
  | cons removed rest inductionHypothesis =>
    rw [List.foldl_cons, inductionHypothesis]
    by_cases inRest : url ∈ rest
    · rw [if_pos inRest, if_pos (List.mem_cons_of_mem _ inRest)]
    · rw [if_neg inRest]
      by_cases here : url = removed
      · subst here
        rw [if_pos List.mem_cons_self]
        exact AList.lookup_erase _ _
      · rw [if_neg fun member => (List.mem_cons.mp member).elim here inRest]
        exact AList.lookup_erase_ne here

theorem adds_removals (plan : Plan) (persisted : Documents) (progress : Progress) :
    (removals plan persisted progress).adds = progress.adds := by
  show (plan.removes.foldl (removeOne persisted) progress).adds = _
  induction plan.removes generalizing progress with
  | nil => rfl
  | cons removed rest inductionHypothesis => exact inductionHypothesis _

theorem removes_removals (plan : Plan) (persisted : Documents) (progress : Progress) :
    (removals plan persisted progress).removes =
      progress.removes ++ plan.removes.filterMap (storedPath persisted) := by
  show (plan.removes.foldl (removeOne persisted) progress).removes = _
  induction plan.removes generalizing progress with
  | nil => exact (List.append_nil _).symm
  | cons removed rest inductionHypothesis =>
    rw [List.foldl_cons, inductionHypothesis]
    cases queued : storedPath persisted removed with
    | none =>
      rw [List.filterMap_cons_none queued]
      simp [removeOne, queued]
    | some path =>
      rw [List.filterMap_cons_some queued]
      simp [removeOne, queued]

/-! ### The embedding pass -/

/-- All calls of the embedding pass succeed. -/
def Run.Embeds (run : Run) : Prop := ∀ index, run.embed index = .done

theorem not_mem_updateEmbeddings {attached adds removes : List Path} (absent : path ∉ attached)
    (notAdded : path ∉ adds) : path ∉ updateEmbeddings attached adds removes := fun member =>
  (List.mem_append.mp member).elim (fun kept => absent (List.mem_filter.mp kept).1) notAdded

/-- A path that no batch adds is not attached. -/
theorem not_mem_embedFrom {embed : ℕ → EmbedCall} {batches : List (List Path × List Path)}
    {index : ℕ} {attached : List Path} (absent : path ∉ attached)
    (notAdded : ∀ batch ∈ batches, path ∉ batch.1) :
    path ∉ (embedFrom embed index batches attached).2 := by
  induction batches generalizing index attached with
  | nil => exact absent
  | cons batch rest inductionHypothesis =>
    have notHere := notAdded batch List.mem_cons_self
    unfold embedFrom
    cases embed index with
    | done =>
      exact inductionHypothesis (not_mem_updateEmbeddings absent notHere) fun other member =>
        notAdded other (List.mem_cons_of_mem _ member)
    | failed interrupted reached =>
      exact not_mem_updateEmbeddings absent fun member => notHere (List.mem_filter.mp member).1

/-- What a pass that meets no failure leaves attached. -/
theorem mem_embedFrom {embed : ℕ → EmbedCall} (succeeds : ∀ index, embed index = .done)
    {batches : List (List Path × List Path)} {index : ℕ} {attached : List Path}
    (apart : ∀ batch ∈ batches, ∀ other ∈ batches, ∀ path ∈ batch.1, path ∉ other.2) :
    path ∈ (embedFrom embed index batches attached).2 ↔
      path ∈ attached ∧ (∀ batch ∈ batches, path ∉ batch.2) ∨ ∃ batch ∈ batches, path ∈ batch.1 := by
  induction batches generalizing index attached with
  | nil => simp [embedFrom]
  | cons batch rest inductionHypothesis =>
    unfold embedFrom
    rw [succeeds index]
    show path ∈ (embedFrom embed (index + 1) rest _).2 ↔ _
    rw [inductionHypothesis fun first inFirst second inSecond =>
      apart first (List.mem_cons_of_mem _ inFirst) second (List.mem_cons_of_mem _ inSecond)]
    have stays : path ∈ batch.1 → ∀ other ∈ rest, path ∉ other.2 := fun added other member =>
      apart batch List.mem_cons_self other (List.mem_cons_of_mem _ member) path added
    simp only [updateEmbeddings, List.mem_append, List.mem_filter, decide_eq_true_eq,
      List.forall_mem_cons, List.exists_mem_cons_iff]
    tauto

/-- Nothing is attached twice. -/
theorem nodup_embedFrom {embed : ℕ → EmbedCall} (succeeds : ∀ index, embed index = .done)
    {batches : List (List Path × List Path)} {index : ℕ} {attached : List Path}
    (nodup : (attached ++ batches.flatMap Prod.fst).Nodup) :
    (embedFrom embed index batches attached).2.Nodup := by
  induction batches generalizing index attached with
  | nil => exact List.append_nil attached ▸ nodup
  | cons batch rest inductionHypothesis =>
    unfold embedFrom
    rw [succeeds index]
    refine inductionHypothesis ?_
    rw [List.flatMap_cons, ← List.append_assoc] at nodup
    refine nodup.sublist (List.Sublist.append_right ?_ _)
    exact List.Sublist.append_right List.filter_sublist _

/-! ### Batches -/

/-- The chunks of a list make up the list. -/
theorem flatten_chunks {Item : Type} {size : ℕ} (positive : 0 < size) (items : List Item) :
    (chunks size items).flatten = items := by
  have general (count : ℕ) : ((List.range count).map fun index =>
      (items.drop (index * size)).take size).flatten = items.take (count * size) := by
    induction count with
    | zero => simp
    | succ count inductionHypothesis =>
      rw [List.range_succ, List.map_append, List.flatten_append, inductionHypothesis, Nat.succ_mul,
        List.take_add]
      simp
  unfold chunks
  rw [general, List.take_of_length_le]
  have ceiling : items.length + size - 1 < (items.length + size - 1) / size * size + size :=
    Nat.lt_div_mul_add positive
  omega

/-- Empty chunks at the end add nothing. -/
theorem flatten_padded {Item : Type} {parts : List (List Item)} {bound : ℕ}
    (enough : parts.length ≤ bound) :
    ((List.range bound).flatMap fun index => (parts[index]?).getD []) = parts.flatten := by
  obtain ⟨extra, rfl⟩ := Nat.exists_eq_add_of_le enough
  have whole : ((List.range parts.length).map fun index => (parts[index]?).getD []) = parts :=
    List.ext_getElem (by simp) fun index _ within => by simp [within]
  rw [List.range_add, List.flatMap_append, List.flatMap_def, whole, List.flatMap_map]
  have nothing : ((List.range extra).flatMap fun index =>
      (parts[parts.length + index]?).getD []) = [] :=
    List.flatMap_eq_nil_iff.mpr fun index _ => by simp
  rw [nothing, List.append_nil]

/-- The batches hold the paths they are made of, in their order. -/
theorem adds_planEmbedBatches (adds removes : List Path) (batchSize : ℤ) :
    (planEmbedBatches adds removes batchSize).flatMap Prod.fst = adds := by
  have positive : 0 < (max 1 batchSize).toNat := by omega
  unfold planEmbedBatches
  dsimp only
  rw [List.flatMap_map, flatten_padded (by omega), flatten_chunks positive]

theorem removes_planEmbedBatches (adds removes : List Path) (batchSize : ℤ) :
    (planEmbedBatches adds removes batchSize).flatMap Prod.snd = removes := by
  have positive : 0 < (max 1 batchSize).toNat := by omega
  unfold planEmbedBatches
  dsimp only
  rw [List.flatMap_map, flatten_padded (by omega), flatten_chunks positive]

theorem exists_batch_adds {adds removes : List Path} {batchSize : ℤ} :
    (∃ batch ∈ planEmbedBatches adds removes batchSize, path ∈ batch.1) ↔ path ∈ adds := by
  rw [← List.mem_flatMap, adds_planEmbedBatches]

theorem exists_batch_removes {adds removes : List Path} {batchSize : ℤ} :
    (∃ batch ∈ planEmbedBatches adds removes batchSize, path ∈ batch.2) ↔ path ∈ removes := by
  rw [← List.mem_flatMap, removes_planEmbedBatches]

/-- A path that no upload listed is not attached, whatever the calls do. -/
theorem not_mem_embedPass {progress : Progress} {attached : List Path} (absent : path ∉ attached)
    (notAdded : path ∉ progress.adds) : path ∉ (embedPass source run progress attached).2 := by
  unfold embedPass
  split
  · exact absent
  · exact not_mem_embedFrom absent fun batch member inBatch =>
      notAdded (exists_batch_adds.mp ⟨batch, member, inBatch⟩)

/-- What is attached after an embedding pass that meets no failure. -/
theorem mem_embedPass (embeds : run.Embeds) {progress : Progress} {attached : List Path}
    (apart : ∀ added ∈ progress.adds, added ∉ progress.removes) :
    path ∈ (embedPass source run progress attached).2 ↔
      path ∈ attached ∧ path ∉ progress.removes ∨ path ∈ progress.adds := by
  unfold embedPass
  split
  · rename_i nothing
    rw [Bool.and_eq_true, List.isEmpty_iff, List.isEmpty_iff] at nothing
    simp [nothing.1, nothing.2]
  · rw [mem_embedFrom embeds fun batch inBatches other inOthers added inAdds inRemoves =>
      apart added (exists_batch_adds.mp ⟨batch, inBatches, inAdds⟩)
        (exists_batch_removes.mp ⟨other, inOthers, inRemoves⟩), exists_batch_adds]
    refine or_congr_left (and_congr_right fun _ => ?_)
    rw [← @exists_batch_removes path progress.adds progress.removes source.embedBatchSize]
    exact ⟨fun none ⟨batch, member, inBatch⟩ => none batch member inBatch,
      fun none batch member inBatch => none ⟨batch, member, inBatch⟩⟩

theorem nodup_embedPass (embeds : run.Embeds) {progress : Progress} {attached : List Path}
    (nodup : (attached ++ progress.adds).Nodup) :
    (embedPass source run progress attached).2.Nodup := by
  unfold embedPass
  split
  · exact nodup.sublist (List.sublist_append_left _ _)
  · exact nodup_embedFrom embeds (by rwa [adds_planEmbedBatches])

end Rag

end LocalGpuCluster
