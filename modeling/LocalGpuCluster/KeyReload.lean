/-
This file proves when the keys in force are those of the current keys file. `_reload_if_changed`
remembers the signature of a file before it has read it, so an exception that leaves it keeps the
entries of an earlier version in force, and no later call reads the file again.

Two exceptions leave it: `math.isfinite` raises `OverflowError` on an integer that is too large
for a float, in an entry that is in order otherwise, and the decoder raises `RecursionError` on
a file that nests too deep.
-/

import LocalGpuCluster.AccessKeys
import LocalGpuCluster.Machine

namespace LocalGpuCluster

namespace AccessKeys

/-! ### Valid entries -/

/-- The entry of an item of the keys file, if it is valid. -/
def validEntry (item : Json) : Option Entry := (parseEntry item).toOption

/-- An integer that is too large for a float. -/
def isTooLarge : Json → Bool
  | .int value => (finiteFloat value).isNone
  | _ => false

/-- The item is in order up to `expires`, which is an integer that is too large for a float. -/
def overflows : Json → Bool
  | .obj fields =>
      match fields.lookup (text "name"), fields.lookup (text "sha256"),
        fields.lookup (text "aliases"), fields.lookup (text "expires") with
      | some name, some digest, some aliases, some expires =>
          (validName name).isSome && (validDigest digest).isSome && (validAliases aliases).isSome &&
            isTooLarge expires
      | _, _, _, _ => false
  | _ => false

/-- The valid entries of the content. -/
def Content.validEntries : Content → List Entry
  | .json (.obj fields) => (rawEntries fields).filterMap validEntry
  | _ => []

/-- Reading the content raises nothing that `_reload_if_changed` lets out. -/
def Content.Sound : Content → Prop
  | .json (.obj fields) => ∀ item ∈ rawEntries fields, overflows item = false
  | .json _ | .unreadable => True
  | .tooDeep => False

/-- The valid entries of the current version, none where there is no file. -/
def File.validEntries : File → List Entry
  | none => []
  | some (_, content) => content.validEntries

/-- An exception for which the loop skips the entry. -/
def skips (failure : PyError) : Prop :=
  failure = .keyError ∨ failure = .typeError ∨ failure = .valueError

theorem validExpires_cases (raw : Json) :
    ((∃ expires, validExpires raw = .ok expires) ∧ isTooLarge raw = false) ∨
      (validExpires raw = .error .valueError ∧ isTooLarge raw = false) ∨
      validExpires raw = .error .overflowError ∧ isTooLarge raw = true := by
  cases raw with
  | int value => cases fits : finiteFloat value <;> simp [validExpires, isTooLarge, fits]
  | float value => cases value <;> simp [validExpires, isTooLarge]
  | _ => simp [validExpires, isTooLarge]

/-- What an item can do to the loop: it is an entry, or it is skipped, or it ends the loop. -/
theorem parseEntry_cases (item : Json) :
    ((∃ entry, parseEntry item = .ok entry) ∧ overflows item = false) ∨
      ((∃ failure, skips failure ∧ parseEntry item = .error failure) ∧ overflows item = false) ∨
      parseEntry item = .error .overflowError ∧ overflows item = true := by
  cases item with
  | obj fields =>
    simp only [parseEntry, overflows, field, bind, Except.bind, pure, Except.pure]
    cases fields.lookup (text "name") with
    | none => exact Or.inr (Or.inl ⟨⟨_, Or.inl rfl, rfl⟩, rfl⟩)
    | some rawName =>
      cases fields.lookup (text "sha256") with
      | none => exact Or.inr (Or.inl ⟨⟨_, Or.inl rfl, rfl⟩, rfl⟩)
      | some rawDigest =>
        cases fields.lookup (text "aliases") with
        | none => exact Or.inr (Or.inl ⟨⟨_, Or.inl rfl, rfl⟩, rfl⟩)
        | some rawAliases =>
          cases fields.lookup (text "expires") with
          | none => exact Or.inr (Or.inl ⟨⟨_, Or.inl rfl, rfl⟩, rfl⟩)
          | some rawExpires =>
            dsimp only [Option.elim]
            cases validName rawName with
            | none => exact Or.inr (Or.inl ⟨⟨_, Or.inr (Or.inr rfl), rfl⟩, rfl⟩)
            | some name =>
              cases validDigest rawDigest with
              | none => exact Or.inr (Or.inl ⟨⟨_, Or.inr (Or.inr rfl), rfl⟩, rfl⟩)
              | some digest =>
                cases validAliases rawAliases with
                | none => exact Or.inr (Or.inl ⟨⟨_, Or.inr (Or.inr rfl), rfl⟩, rfl⟩)
                | some aliases =>
                  obtain ⟨⟨expires, valid⟩, fits⟩ | ⟨invalid, fits⟩ | ⟨overflow, tooLarge⟩ :=
                    validExpires_cases rawExpires
                  · exact Or.inl ⟨⟨_, by rw [valid]; rfl⟩, fits⟩
                  · exact Or.inr (Or.inl ⟨⟨_, Or.inr (Or.inr rfl), by rw [invalid]; rfl⟩, fits⟩)
                  · exact Or.inr (Or.inr ⟨by rw [overflow]; rfl, tooLarge⟩)
  | _ => exact Or.inr (Or.inl ⟨⟨.typeError, Or.inr (Or.inl rfl), rfl⟩, rfl⟩)

/-- Where no item overflows, the loop keeps the valid entries. -/
theorem parseEntries_of_sound {items : List Json} (sound : ∀ item ∈ items, overflows item = false) :
    parseEntries items = .ok (items.filterMap validEntry) := by
  induction items with
  | nil => rfl
  | cons item rest inductionHypothesis =>
    have tail := inductionHypothesis fun other member => sound other (List.mem_cons_of_mem _ member)
    obtain ⟨⟨entry, valid⟩, -⟩ | ⟨⟨failure, skipped, invalid⟩, -⟩ | ⟨-, tooLarge⟩ :=
      parseEntry_cases item
    · have kept : validEntry item = some entry := by rw [validEntry, valid]; rfl
      rw [parseEntries, valid, List.filterMap_cons_some kept, tail]
      rfl
    · have dropped : validEntry item = none := by rw [validEntry, invalid]; rfl
      rw [parseEntries, invalid, List.filterMap_cons_none dropped]
      rcases skipped with rfl | rfl | rfl <;> exact tail
    · rw [sound item List.mem_cons_self] at tooLarge
      cases tooLarge

/-- An item that overflows ends the loop. -/
theorem parseEntries_of_overflows {items : List Json} {item : Json} (member : item ∈ items)
    (tooLarge : overflows item = true) : parseEntries items = .error .overflowError := by
  induction items with
  | nil => exact absurd member List.not_mem_nil
  | cons first rest inductionHypothesis =>
    obtain ⟨⟨entry, valid⟩, fits⟩ | ⟨⟨failure, skipped, invalid⟩, fits⟩ | ⟨overflow, -⟩ :=
      parseEntry_cases first
    · have later : item ∈ rest := List.mem_of_ne_of_mem (by rintro rfl; simp_all) member
      rw [parseEntries, valid, inductionHypothesis later]
      rfl
    · have later : item ∈ rest := List.mem_of_ne_of_mem (by rintro rfl; simp_all) member
      rw [parseEntries, invalid]
      rcases skipped with rfl | rfl | rfl <;> exact inductionHypothesis later
    · rw [parseEntries, overflow]

/-! ### Reading a version -/

theorem read_of_sound (store : KeyStore) {content : Content} (sound : content.Sound) :
    store.read content = ({ store with entries := content.validEntries }, .ok ()) := by
  cases content with
  | unreadable => rfl
  | tooDeep => exact sound.elim
  | json value =>
    cases value with
    | obj fields =>
      rw [KeyStore.read, parseEntries_of_sound sound]
      rfl
    | _ => rfl

/-- Reading a version that is not sound raises and leaves the entries alone. -/
theorem read_of_not_sound (store : KeyStore) {content : Content} (unsound : ¬content.Sound) :
    ∃ failure, store.read content = (store, .error failure) := by
  cases content with
  | unreadable => exact absurd trivial unsound
  | tooDeep => exact ⟨_, rfl⟩
  | json value =>
    cases value with
    | obj fields =>
      have some_overflows : ∃ item ∈ rawEntries fields, overflows item = true := by
        simpa [Content.Sound] using unsound
      obtain ⟨item, member, tooLarge⟩ := some_overflows
      exact ⟨_, by rw [KeyStore.read, parseEntries_of_overflows member tooLarge]⟩
    | _ => exact absurd trivial unsound

/-! ### Runs -/

/-- The keys file, how often it has been replaced, and the store. -/
structure State where
  file : File
  published : ℕ
  store : KeyStore

inductive Event where
  /-- The file is replaced, or removed. -/
  | publish (content : Option Content)
  | authenticate (now : ℚ) (presented : Text)

/-- Every version of the file has a signature of its own. -/
def machine (python : Python) : Machine State Event where
  step state
    | .publish content => some { state with
        file := content.map fun content => (state.published, content)
        published := state.published + 1 }
    | .authenticate now presented => some { state with
        store := (state.store.authenticate python state.file now presented).1 }

/-- No file has been written yet. -/
def start (owner : Text) : State := ⟨none, 0, ⟨owner, none, []⟩⟩

/-- The keys in force are the valid ones of the current file: reading it raises nothing, leaves
exactly its valid entries, and no other key authenticates. -/
structure Follows (python : Python) (state : State) : Prop where
  reloads : (state.store.reloadIfChanged state.file).2 = .ok ()
  active : (state.store.reloadIfChanged state.file).1.entries = File.validEntries state.file
  authenticates : ∀ now presented principal,
    (state.store.authenticate python state.file now presented).2 = .ok (some principal) →
      (principal = .owner ∧ presented = state.store.owner) ∨
        ∃ entry ∈ File.validEntries state.file, entry.1 = python.sha256 presented ∧
          entry.2 = principal ∧ ∀ expires, principal.expires = some expires → now < expires

/-- The signatures of the store and of the file have been given out. -/
structure Past (state : State) : Prop where
  seen : ∀ signature, state.store.sig = some signature → signature < state.published
  signed : ∀ signature content, state.file = some (signature, content) →
    signature < state.published

/-- The file is sound, and entries in force under its signature are its entries. -/
structure Current (state : State) : Prop where
  sound : ∀ signature content, state.file = some (signature, content) → content.Sound
  entries : ∀ signature content, state.file = some (signature, content) →
    state.store.sig = some signature → state.store.entries = content.validEntries

/-- A reload takes over the signature of the file, whatever it raises. -/
theorem reload_sig (store : KeyStore) (file : File) :
    (store.reloadIfChanged file).1.sig = file.map Prod.fst := by
  cases file with
  | none => rfl
  | some version =>
    obtain ⟨signature, content⟩ := version
    by_cases same : store.sig = some signature
    · have kept : store.reloadIfChanged (some (signature, content)) = (store, .ok ()) := if_pos same
      rw [kept]
      exact same
    · have changed : store.reloadIfChanged (some (signature, content)) =
          { store with sig := some signature }.read content := if_neg same
      rw [changed]
      by_cases sound : content.Sound
      · rw [read_of_sound _ sound]
        rfl
      · obtain ⟨failure, raised⟩ := read_of_not_sound { store with sig := some signature } sound
        rw [raised]
        rfl

/-- While versions are sound, a reload takes over the current one. -/
theorem reload_of_current {state : State} (current : Current state) :
    state.store.reloadIfChanged state.file =
      ({ state.store with
          sig := state.file.map Prod.fst
          entries := File.validEntries state.file }, .ok ()) := by
  cases file : state.file with
  | none => rfl
  | some version =>
    obtain ⟨signature, content⟩ := version
    by_cases same : state.store.sig = some signature
    · have kept : state.store.reloadIfChanged (some (signature, content)) = (state.store, .ok ()) :=
        if_pos same
      rw [kept, File.validEntries, ← current.entries signature content file same, Option.map_some,
        ← same]
    · have changed : state.store.reloadIfChanged (some (signature, content)) =
          { state.store with sig := some signature }.read content := if_neg same
      rw [changed, read_of_sound _ (current.sound signature content file)]
      rfl

/-- What authentication makes of the store. -/
theorem authenticate_store (python : Python) (store : KeyStore) (file : File) (now : ℚ)
    (presented : Text) :
    (store.authenticate python file now presented).1 = store ∨
      (store.authenticate python file now presented).1 = (store.reloadIfChanged file).1 := by
  unfold KeyStore.authenticate
  split
  · exact Or.inl rfl
  · split
    · exact Or.inl rfl
    · split
      · exact Or.inl rfl
      · refine Or.inr ?_
        cases reloaded : store.reloadIfChanged file with
        | mk after result =>
          cases result with
          | error failure => rfl
          | ok done =>
            dsimp only
            split <;> rfl

/-- While versions are sound the keys in force follow the file. -/
theorem follows_of_current {python : Python} {state : State} (current : Current state) :
    Follows python state := by
  have reload := reload_of_current current
  refine ⟨by rw [reload], by rw [reload], fun now presented principal granted => ?_⟩
  unfold KeyStore.authenticate at granted
  split at granted
  · cases granted
  · split at granted
    · cases granted
    · split at granted
      · rename_i isOwner
        cases granted
        rw [Bool.and_eq_true, decide_eq_true_eq, decide_eq_true_eq] at isOwner
        exact Or.inl ⟨rfl, isOwner.2⟩
      · rw [reload] at granted
        dsimp only at granted
        split at granted
        · cases granted
        · obtain ⟨found, unexpired⟩ := Option.filter_eq_some_iff.mp (Except.ok.inj granted)
          obtain ⟨entry, member, rfl⟩ := List.mem_map.mp (List.mem_of_getLast? found)
          obtain ⟨listed, digest⟩ := List.mem_filter.mp member
          refine Or.inr ⟨entry, listed, of_decide_eq_true digest, rfl, fun expires set => ?_⟩
          rw [set] at unexpired
          exact of_decide_eq_true unexpired

theorem past_step {python : Python} {state next : State} {event : Event}
    (stepped : (machine python).step state event = some next) (past : Past state) : Past next := by
  cases event with
  | publish content =>
    cases stepped
    refine ⟨fun signature seen => (past.seen signature seen).trans (Nat.lt_succ_self _),
      fun signature content' file => ?_⟩
    obtain ⟨_, -, same⟩ := Option.map_eq_some_iff.mp file
    cases same
    exact Nat.lt_succ_self _
  | authenticate now presented =>
    cases stepped
    refine ⟨fun signature seen => ?_, past.signed⟩
    obtain kept | reloaded := authenticate_store python state.store state.file now presented
    · exact past.seen signature (kept ▸ seen)
    · have signed : state.file.map Prod.fst = some signature := by
        rw [← reload_sig state.store state.file, ← reloaded]
        exact seen
      obtain ⟨⟨_, content⟩, file, rfl⟩ := Option.map_eq_some_iff.mp signed
      exact past.signed _ content file

/-- Publishing a sound version and authenticating keep the store current. -/
theorem current_step {python : Python} {state next : State} {event : Event}
    (sound : ∀ content, event = .publish (some content) → content.Sound) (past : Past state)
    (stepped : (machine python).step state event = some next) (current : Current state) :
    Current next := by
  cases event with
  | publish content =>
    cases stepped
    refine ⟨fun signature content' file => ?_, fun signature content' file seen => ?_⟩
    · obtain ⟨_, isSome, same⟩ := Option.map_eq_some_iff.mp file
      cases same
      exact sound content' (by rw [isSome])
    · obtain ⟨_, -, same⟩ := Option.map_eq_some_iff.mp file
      cases same
      exact absurd (past.seen _ seen) (lt_irrefl _)
  | authenticate now presented =>
    cases stepped
    refine ⟨current.sound, fun signature content file seen => ?_⟩
    obtain kept | reloaded := authenticate_store python state.store state.file now presented
    · rw [kept] at seen ⊢
      exact current.entries signature content file seen
    · rw [reloaded, reload_of_current current]
      show File.validEntries state.file = content.validEntries
      rw [show state.file = some (signature, content) from file]
      rfl

theorem run_past {python : Python} {owner : Text} {events : List Event} {state : State}
    (ran : (machine python).run (start owner) events = some state) : Past state :=
  (machine python).run_invariant Past (fun _ _ _ => past_step) ran
    ⟨fun _ seen => (by cases seen), fun _ _ file => (by cases file)⟩

/-- No event is ever refused. -/
theorem run_total (python : Python) (state : State) (events : List Event) :
    ∃ finish, (machine python).run state events = some finish := by
  induction events generalizing state with
  | nil => exact ⟨state, rfl⟩
  | cons event rest inductionHypothesis =>
    cases event with
    | publish content => exact inductionHypothesis _
    | authenticate now presented => exact inductionHypothesis _

/-- The keys in force follow the file in every state of a run exactly when every version
published in the run is sound. -/
theorem keys_follow_file_iff (python : Python) (owner : Text) (events : List Event) :
    (∀ done rest state, events = done ++ rest →
      (machine python).run (start owner) done = some state → Follows python state) ↔
      ∀ content, Event.publish (some content) ∈ events → content.Sound := by
  constructor
  · intro follows content published
    obtain ⟨before, after, rfl⟩ := List.append_of_mem published
    obtain ⟨state, ran⟩ := run_total python (start owner) before
    by_contra unsound
    let next : State :=
      { state with file := some (state.published, content), published := state.published + 1 }
    have ranNext : (machine python).run (start owner) (before ++ [.publish (some content)]) =
        some next := by
      rw [Machine.run_append, ran]
      rfl
    have reloads := (follows _ after next (by simp) ranNext).reloads
    -- The signature is new, so the version is read.
    have unseen : state.store.sig ≠ some state.published := fun seen =>
      lt_irrefl _ ((run_past ran).seen _ seen)
    have changed : next.store.reloadIfChanged next.file =
        { state.store with sig := some state.published }.read content := if_neg unseen
    obtain ⟨failure, raised⟩ := read_of_not_sound { state.store with sig := some state.published }
      unsound
    rw [changed, raised] at reloads
    cases reloads
  · rintro sound done rest state rfl ran
    have kept : Past state ∧ Current state := by
      refine (machine python).run_invariant_of_guarded
        (fun _ event => ∀ content, event = .publish (some content) → content.Sound)
        (fun state => Past state ∧ Current state) ?_ ?_ ran ?_
      · rintro _ event _ sound stepped ⟨past, current⟩
        exact ⟨past_step stepped past, current_step sound past stepped current⟩
      · refine Machine.guarded_of_forall _ (fun event member _ content same => ?_) _
        exact sound content (List.mem_append_left rest (same ▸ member))
      · exact ⟨⟨fun _ seen => (by cases seen), fun _ _ file => (by cases file)⟩,
          ⟨fun _ _ file => (by cases file), fun _ _ file => (by cases file)⟩⟩
    exact follows_of_current kept.2

/-! ### A version that is not sound -/

/-- `hashlib.sha256(b"wf_revoked-key").hexdigest()`. -/
def revokedDigest : Text :=
  text "10f30b068b1707c657916ce1d466aae20da600b03013c0f247f4bd27069ff2e6"

/-- The conversions, with the digest of that key. -/
def hashing : Python := { Python.exact with sha256 := fun _ => revokedDigest }

/-- A keys file with one entry. -/
def keysFile (digest : Text) (expires : Json) : Content :=
  .json (.obj [(text "keys", .arr [.obj [(text "name", .str (text "wf-run-1")),
    (text "sha256", .str digest), (text "aliases", .arr [.str (text "qwen3.8-nothink")]),
    (text "expires", expires)]])])

/-- A key is issued and used; then a version comes without it, in which another entry expires at
a number too large for a float, and two requests follow. -/
def staleRun : List Event :=
  [.publish (some (keysFile revokedDigest (.int 2000))), .authenticate 0 (text "wf_revoked-key"),
    .publish (some (keysFile (List.replicate 64 0x30) (.int (10 ^ 400)))),
    .authenticate 0 (text "wf_revoked-key")]

/-- The revoked key still authenticates. -/
theorem keys_follow_file_fails :
    ¬∀ (python : Python) (owner : Text) (events : List Event) (state : State),
      (machine python).run (start owner) events = some state → Follows python state := by
  intro always
  have stale : ((machine hashing).run (start (text "owner")) staleRun).any (fun state =>
      (state.store.authenticate hashing state.file 1 (text "wf_revoked-key")).2.toOption.join.any
        (fun principal => principal.kind = .scoped) && (File.validEntries state.file).isEmpty) =
      true := by decide +kernel
  obtain ⟨state, ran, outdated⟩ := (Option.any_eq_true ..).mp stale
  obtain ⟨authenticated, revoked⟩ := (Bool.and_eq_true ..).mp outdated
  obtain ⟨principal, isSome, isScoped⟩ := (Option.any_eq_true ..).mp authenticated
  have granted : (state.store.authenticate hashing state.file 1 (text "wf_revoked-key")).2 =
      .ok (some principal) := by
    cases result : (state.store.authenticate hashing state.file 1 (text "wf_revoked-key")).2 with
    | error failure => simp [result, Except.toOption] at isSome
    | ok found => simpa [result, Except.toOption] using isSome
  obtain ⟨rfl, -⟩ | ⟨entry, member, -⟩ := (always hashing (text "owner") staleRun state
    ran).authenticates 1 (text "wf_revoked-key") principal granted
  · cases isScoped
  · rw [List.isEmpty_iff.mp revoked] at member
    exact absurd member List.not_mem_nil

end AccessKeys

end LocalGpuCluster
