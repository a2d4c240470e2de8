/-
This file is about `parse_ref`, which reads the branch and the commit that a task is to run on. A line
with an expected commit is taken for that alone: the branch it names before the comment is not looked
at. So the branch that is named elsewhere is chosen although there are two. The exact condition for the
choice to be right is at the end. What a word character is, is left open.
-/

import LocalGpuCluster.JsonText

namespace LocalGpuCluster

namespace BranchRef

/-! ### The patterns -/

/-- A point of a branch name. -/
def isRefPoint (point : CodePoint) : Bool :=
  0x41 ≤ point.val && point.val ≤ 0x5A || 0x61 ≤ point.val && point.val ≤ 0x7A ||
    0x2D ≤ point.val && point.val ≤ 0x39 || point = 0x5F

/-- A hexadecimal digit. -/
def isHex (point : CodePoint) : Bool :=
  0x30 ≤ point.val && point.val ≤ 0x39 || 0x41 ≤ point.val && point.val ≤ 0x46 ||
    0x61 ≤ point.val && point.val ≤ 0x66

def afterLiteral (word input : Text) : Option Text :=
  if input.startsWith word then some (input.drop word.length) else none

/-- What follows a lower case word under `re.IGNORECASE`. -/
def afterFolded : Text → Text → Option Text
  | [], input => some input
  | _ :: _, [] => none
  | letter :: word, point :: rest => if letter.foldsTo point then afterFolded word rest else none

/-- What follows `\s+`. -/
def afterSpaces (input : Text) : Option Text :=
  if input.head?.any CodePoint.isSpace then some (input.dropWhile CodePoint.isSpace) else none

/-- What follows `\s*[:=]?\s*`. -/
def afterSign (input : Text) : Text :=
  match input.dropWhile CodePoint.isSpace with
  | [] => []
  | point :: rest =>
      if point = 0x3A ∨ point = 0x3D then rest.dropWhile CodePoint.isSpace else point :: rest

/-- `findall`: what is found here, given the point before, and how long the match is. -/
def findFrom (here : Option CodePoint → Text → Option (Text × ℕ)) :
    ℕ → Option CodePoint → Text → List Text
  | _, _, [] => []
  | skip + 1, _, point :: rest => findFrom here skip (some point) rest
  | 0, before, point :: rest =>
      match here before (point :: rest) with
      | some (found, length) => found :: findFrom here (length - 1) (some point) rest
      | none => findFrom here 0 (some point) rest

section Patterns

variable (isWord : CodePoint → Bool)

/-- `\b`. -/
def boundary (before after : Option CodePoint) : Bool := before.any isWord != after.any isWord

/-- `_SWITCH` here. -/
def switchHere (before : Option CodePoint) (input : Text) : Option (Text × ℕ) := do
  let afterGit ← if boundary isWord before input.head? then afterLiteral (text "git") input else none
  let command ← afterSpaces afterGit
  let afterCommand ← (afterLiteral (text "switch") command).or (afterLiteral (text "checkout") command)
  let named ← afterSpaces afterCommand
  let branch : Text := named.takeWhile isRefPoint
  if branch = [] ∨ branch.startsWith (text "-") then none
  else some (branch, input.length - (named.length - branch.length))

/-- `_SHA_EXPECT` here. A run of hexadecimal digits that is too long has no end within. -/
def expectHere (before : Option CodePoint) (input : Text) : Option (Text × ℕ) :=
  if boundary isWord before input.head? then
    [text "expected", text "expect", text "sha"].findSome? fun word =>
      (afterFolded word input).bind fun rest =>
        let value := afterSign rest
        let sha := value.takeWhile isHex
        if boundary isWord (input.take word.length).getLast? rest.head? && 7 ≤ sha.length &&
            sha.length ≤ 40 && boundary isWord sha.getLast? (value.drop sha.length).head? then
          some (sha, input.length - (value.length - sha.length))
        else none
  else none

/-- `_SWITCH.findall`. -/
def switches (line : Text) : List Text := findFrom (switchHere isWord) 0 none line

/-- The matches of `_SHA_EXPECT`. -/
def expects (line : Text) : List Text := findFrom (expectHere isWord) 0 none line

/-- `_SHA_BARE`. -/
def isBareSha (bare : Text) : Bool := bare.length = 40 && bare.all isHex

/-- `_REF`. -/
def refOf (bare : Text) : Option (Text × Option Text) :=
  let branch := bare.takeWhile isRefPoint
  if branch = [] then none
  else
    match bare.drop branch.length with
    | [] => some (branch, none)
    | sign :: sha =>
        if sign = 0x40 ∧ 7 ≤ sha.length ∧ sha.length ≤ 40 ∧ sha.all isHex = true then
          some (branch, some sha)
        else none

/-! ### Lines -/

/-- A line without the backticks around it. -/
def bareOf (line : Text) : Text := Text.strip CodePoint.isSpace (Text.strip (· = 0x60) line)

/-- The lines that are looked at, stripped: the others are empty or fences. -/
def linesOf (content : Text) : List Text :=
  ((Text.splitLines content).map (Text.strip CodePoint.isSpace)).filter fun line =>
    line ≠ [] && !line.startsWith (text "```")

/-- The branches and commits of a line with no expected commit. -/
def acceptedIn (line : Text) : List Text × List Text :=
  if switches isWord line ≠ [] then (switches isWord line, [])
  else
    match refOf (bareOf line) with
    | some (branch, sha) => ([branch], sha.toList.map Text.lower)
    | none => ([], [])

/-- What the loop takes from a line: branches and commits. -/
def readLine (line : Text) : List Text × List Text :=
  if isBareSha (bareOf line) then ([], [(bareOf line).lower])
  else
    match (expects isWord line).head? with
    | some sha => ([], [sha.lower])
    | none => acceptedIn isWord line

/-! ### The reference -/

/-- `sorted(set(...))`. -/
def sortedSet (texts : List Text) : List Text :=
  texts.dedup.insertionSort fun first second => JsonText.notAfter first second

/-- `".." in branch`. -/
def hasDots : Text → Bool
  | [] => false
  | point :: rest => Text.startsWith (point :: rest) (text "..") || hasDots rest

/-- What a branch may not look like. -/
def isRefused (branch : Text) : Bool := branch.startsWith (text "-") || hasDots branch

def branchError (distinct : List Text) : Text :=
  text "found " ++
    (if distinct = [] then text "no branch" else text "branches " ++ Text.join (text ", ") distinct) ++
    text "; name exactly one: `branch`, `branch@sha` or `git switch <branch>`"

def shaError (shas : List Text) : Text :=
  text "more than one sha to verify: " ++ Text.join (text ", ") (sortedSet shas)

/-- The choice at the end of `parse_ref`. -/
def choose (branches shas : List Text) : Except Text (Text × Option Text) :=
  match sortedSet branches with
  | [branch] =>
      if isRefused branch then .error (branchError [branch])
      else if 1 < (sortedSet shas).length then .error (shaError shas)
      else .ok (branch, shas.head?)
  | distinct => .error (branchError distinct)

/-- The branches that the lines without an expected commit name. -/
def readBranches (content : Text) : List Text :=
  (linesOf content).flatMap fun line => (readLine isWord line).1

/-- The commits that the loop takes. -/
def readShas (content : Text) : List Text :=
  (linesOf content).flatMap fun line => (readLine isWord line).2

/-- `parse_ref`. -/
def parseRef (content : Text) : Except Text (Text × Option Text) :=
  choose (readBranches isWord content) (readShas isWord content)

/-! ### What a text names -/

/-- The line without a comment that says which commit is expected. -/
def commandOf (line : Text) : Text :=
  if expects isWord (line.dropWhile (· ≠ 0x23)) ≠ [] then
    Text.strip CodePoint.isSpace (line.takeWhile (· ≠ 0x23))
  else line

/-- The branches and commits that a line names, with or without an expected commit. -/
def namedIn (line : Text) : List Text × List Text :=
  if isBareSha (bareOf line) then ([], [(bareOf line).lower])
  else if expects isWord line = [] then acceptedIn isWord line
  else
    let accepted := acceptedIn isWord (commandOf isWord line)
    (accepted.1, (expects isWord line).map Text.lower ++ accepted.2)

def namedBranches (content : Text) : List Text :=
  (linesOf content).flatMap fun line => (namedIn isWord line).1

def namedShas (content : Text) : List Text :=
  (linesOf content).flatMap fun line => (namedIn isWord line).2

/-- The result is what the text names: no choice is made among two branches or two commits, and a
single commit that is named is there. -/
structure Follows (content : Text) (result : Except Text (Text × Option Text)) : Prop where
  oneBranch : ∀ first ∈ namedBranches isWord content, ∀ second ∈ namedBranches isWord content,
    first ≠ second → ∃ message, result = .error message
  oneSha : ∀ first ∈ namedShas isWord content, ∀ second ∈ namedShas isWord content,
    first ≠ second → ∃ message, result = .error message
  branch : ∀ branch sha, result = .ok (branch, sha) →
    branch ∈ namedBranches isWord content ∧ isRefused branch = false
  sha : ∀ branch sha, result = .ok (branch, sha) →
    ∀ commit, sha = some commit ↔ commit ∈ namedShas isWord content
  found : ∀ branch commit, (∀ other, other ∈ namedBranches isWord content ↔ other = branch) →
    isRefused branch = false → (∀ other, other ∈ namedShas isWord content ↔ other = commit) →
      result = .ok (branch, some commit)

/-- Where the lines without an expected commit name one branch that may be taken, and at most one commit
is read, the other lines name no other branch and no line has a commit besides its first; where they name
none, the other lines do not name one branch that may be taken, and one commit. -/
structure Fits (content : Text) : Prop where
  single : ∀ branch, (∀ other, other ∈ readBranches isWord content ↔ other = branch) →
    isRefused branch = false →
    (∀ first ∈ readShas isWord content, ∀ second ∈ readShas isWord content, first = second) →
      (∀ other ∈ namedBranches isWord content, other = branch) ∧
        ∀ commit ∈ namedShas isWord content, commit ∈ readShas isWord content
  nothing : readBranches isWord content = [] →
    ¬ ∃ branch commit, (∀ other, other ∈ namedBranches isWord content ↔ other = branch) ∧
      isRefused branch = false ∧ ∀ other, other ∈ namedShas isWord content ↔ other = commit

end Patterns

/-! ### The choice -/

theorem mem_sortedSet {texts : List Text} {item : Text} : item ∈ sortedSet texts ↔ item ∈ texts :=
  (List.mem_insertionSort _).trans List.mem_dedup

theorem nodup_sortedSet (texts : List Text) : (sortedSet texts).Nodup :=
  (List.perm_insertionSort _ _).nodup_iff.mpr (List.nodup_dedup texts)

theorem sortedSet_eq_singleton_iff {texts : List Text} {item : Text} :
    sortedSet texts = [item] ↔ ∀ other, other ∈ texts ↔ other = item := by
  constructor
  · intro only other
    rw [← mem_sortedSet, only, List.mem_singleton]
  · intro only
    have isItem : item ∈ sortedSet texts := mem_sortedSet.mpr ((only item).mpr rfl)
    refine List.perm_singleton.mp ((List.perm_ext_iff_of_nodup (nodup_sortedSet texts)
      (List.nodup_singleton item)).mpr fun other => ?_)
    rw [mem_sortedSet, only, List.mem_singleton]

theorem length_sortedSet_le_one_iff {texts : List Text} :
    ¬ 1 < (sortedSet texts).length ↔ ∀ first ∈ texts, ∀ second ∈ texts, first = second := by
  have distinct := nodup_sortedSet texts
  constructor
  · intro short first isFirst second isSecond
    rw [← mem_sortedSet] at isFirst isSecond
    rcases sorted : sortedSet texts with _ | ⟨only, _ | ⟨_, _⟩⟩
    · simp [sorted] at isFirst
    · rw [sorted, List.mem_singleton] at isFirst isSecond
      rw [isFirst, isSecond]
    · simp [sorted] at short
  · intro same long
    rcases sorted : sortedSet texts with _ | ⟨first, _ | ⟨second, rest⟩⟩
    · simp [sorted] at long
    · simp [sorted] at long
    · have isFirst : first ∈ texts := mem_sortedSet.mp (by simp [sorted])
      have isSecond : second ∈ texts := mem_sortedSet.mp (by simp [sorted])
      rw [sorted, same first isFirst second isSecond] at distinct
      simp at distinct

theorem choose_eq_ok_iff {branches shas : List Text} {branch : Text} {sha : Option Text} :
    choose branches shas = .ok (branch, sha) ↔ (∀ other, other ∈ branches ↔ other = branch) ∧
      isRefused branch = false ∧ (∀ first ∈ shas, ∀ second ∈ shas, first = second) ∧
        sha = shas.head? := by
  rw [← sortedSet_eq_singleton_iff, ← length_sortedSet_le_one_iff, choose]
  constructor
  · intro chosen
    split at chosen
    · rename_i only sorted
      split at chosen
      · cases chosen
      · rename_i allowed
        split at chosen
        · cases chosen
        · rename_i short
          cases chosen
          exact ⟨sorted, Bool.eq_false_iff.mpr allowed, short, rfl⟩
    · cases chosen
  · rintro ⟨sorted, allowed, short, rfl⟩
    rw [sorted]
    dsimp only
    rw [allowed, if_neg Bool.false_ne_true, if_neg short]

/-- What is not chosen is refused with a message. -/
theorem choose_cases (branches shas : List Text) :
    (∃ branch sha, choose branches shas = .ok (branch, sha)) ∨
      ∃ message, choose branches shas = .error message := by
  cases choose branches shas with
  | ok chosen => exact Or.inl ⟨chosen.1, chosen.2, rfl⟩
  | error message => exact Or.inr ⟨message, rfl⟩

/-! ### What is read is named -/

section Named

variable {isWord : CodePoint → Bool} {content line : Text}

/-- A line without an expected commit is read as it is; of another only its first commit is. -/
theorem readLine_cases (isWord : CodePoint → Bool) (line : Text) :
    readLine isWord line = namedIn isWord line ∨
      ∃ sha rest, expects isWord line = sha :: rest ∧ isBareSha (bareOf line) = false ∧
        readLine isWord line = ([], [sha.lower]) := by
  unfold readLine namedIn
  cases bare : isBareSha (bareOf line) with
  | true => exact Or.inl rfl
  | false =>
    cases found : expects isWord line with
    | nil => exact Or.inl rfl
    | cons sha rest => exact Or.inr ⟨sha, rest, rfl, rfl, rfl⟩

theorem readBranches_subset :
    ∀ branch ∈ readBranches isWord content, branch ∈ namedBranches isWord content := by
  intro branch member
  obtain ⟨line, isLine, inLine⟩ := List.mem_flatMap.mp member
  obtain same | ⟨_, _, _, _, only⟩ := readLine_cases isWord line
  · exact List.mem_flatMap.mpr ⟨line, isLine, same ▸ inLine⟩
  · rw [only] at inLine
    cases inLine

theorem readShas_subset : ∀ sha ∈ readShas isWord content, sha ∈ namedShas isWord content := by
  intro commit member
  obtain ⟨line, isLine, inLine⟩ := List.mem_flatMap.mp member
  refine List.mem_flatMap.mpr ⟨line, isLine, ?_⟩
  obtain same | ⟨sha, rest, found, bare, only⟩ := readLine_cases isWord line
  · exact same ▸ inLine
  · rw [only] at inLine
    rw [List.mem_singleton.mp inLine, namedIn, bare, found]
    exact List.mem_append_left _ List.mem_cons_self

/-- Where a line names a branch or commit that is not read, one of its commits is. -/
theorem exists_mem_readShas {commit : Text} (named : commit ∈ namedShas isWord content) :
    ∃ sha, sha ∈ readShas isWord content := by
  obtain ⟨line, isLine, inLine⟩ := List.mem_flatMap.mp named
  obtain same | ⟨sha, _, _, _, only⟩ := readLine_cases isWord line
  · exact ⟨commit, List.mem_flatMap.mpr ⟨line, isLine, same ▸ inLine⟩⟩
  · exact ⟨sha.lower, List.mem_flatMap.mpr ⟨line, isLine, only ▸ List.mem_singleton.mpr rfl⟩⟩

end Named

/-! ### When the choice follows -/

theorem head?_eq_some_iff_of_same {shas : List Text} (same : ∀ first ∈ shas, ∀ second ∈ shas, first = second)
    {commit : Text} : shas.head? = some commit ↔ commit ∈ shas := by
  refine ⟨List.mem_of_head?, fun member => ?_⟩
  cases shas with
  | nil => cases member
  | cons sha rest => rw [List.head?_cons, same sha List.mem_cons_self commit member]

/-- Where `parse_ref` reads what its field names. -/
theorem follows_parseRef_iff (isWord : CodePoint → Bool) (content : Text) :
    Follows isWord content (parseRef isWord content) ↔ Fits isWord content := by
  constructor
  · intro follows
    constructor
    · intro branch only allowed same
      have chosen : parseRef isWord content = .ok (branch, (readShas isWord content).head?) :=
        choose_eq_ok_iff.mpr ⟨only, allowed, same, rfl⟩
      have isNamed := (follows.branch _ _ chosen).1
      constructor
      · intro other named
        by_contra apart
        obtain ⟨message, refused⟩ := follows.oneBranch other named branch isNamed apart
        rw [chosen] at refused
        cases refused
      · intro commit named
        exact List.mem_of_head? ((follows.sha _ _ chosen commit).mpr named)
    · rintro nothing ⟨branch, commit, only, allowed, one⟩
      have chosen := (choose_eq_ok_iff.mp (follows.found branch commit only allowed one)).1
      have isRead := (chosen branch).mpr rfl
      rw [nothing] at isRead
      cases isRead
  · intro fits
    obtain ⟨branch, sha, chosen⟩ | ⟨message, refused⟩ :=
      choose_cases (readBranches isWord content) (readShas isWord content)
    · obtain ⟨only, allowed, same, rfl⟩ := choose_eq_ok_iff.mp chosen
      obtain ⟨branches, shas⟩ := fits.single branch only allowed same
      have isNamed : branch ∈ namedBranches isWord content :=
        readBranches_subset branch ((only branch).mpr rfl)
      have commits : ∀ commit, (readShas isWord content).head? = some commit ↔
          commit ∈ namedShas isWord content := fun commit =>
        (head?_eq_some_iff_of_same same).trans ⟨readShas_subset commit, shas commit⟩
      rw [show parseRef isWord content = _ from chosen]
      refine ⟨fun first isFirst second isSecond apart => ?_, fun first isFirst second isSecond apart => ?_,
        ?_, ?_, ?_⟩
      · exact absurd ((branches first isFirst).trans (branches second isSecond).symm) apart
      · exact absurd (same first (shas first isFirst) second (shas second isSecond)) apart
      · rintro _ _ ⟨⟩
        exact ⟨isNamed, allowed⟩
      · rintro _ _ ⟨⟩
        exact commits
      · intro other commit one _ single
        rw [(one branch).mp isNamed, (commits commit).mpr ((single commit).mpr rfl)]
    · rw [show parseRef isWord content = _ from refused]
      refine ⟨fun _ _ _ _ _ => ⟨message, rfl⟩, fun _ _ _ _ _ => ⟨message, rfl⟩, nofun, nofun, ?_⟩
      intro branch commit only allowed one
      by_cases nothing : readBranches isWord content = []
      · exact absurd ⟨branch, commit, only, allowed, one⟩ (fits.nothing nothing)
      · -- One branch and one commit are read, so they are chosen.
        have isRead : ∀ other, other ∈ readBranches isWord content ↔ other = branch := by
          obtain ⟨first, isFirst⟩ := List.exists_mem_of_ne_nil _ nothing
          have isBranch := (only first).mp (readBranches_subset first isFirst)
          exact fun other => ⟨fun member => (only other).mp (readBranches_subset other member),
            fun same => by rw [same, ← isBranch]; exact isFirst⟩
        have same : ∀ first ∈ readShas isWord content, ∀ second ∈ readShas isWord content,
            first = second := fun first isFirst second isSecond =>
          ((one first).mp (readShas_subset first isFirst)).trans
            ((one second).mp (readShas_subset second isSecond)).symm
        rw [choose_eq_ok_iff.mpr ⟨isRead, allowed, same, rfl⟩] at refused
        cases refused

/-- ASCII letters, digits and the underscore. -/
def isAsciiWord (point : CodePoint) : Bool :=
  0x30 ≤ point.val && point.val ≤ 0x39 || 0x41 ≤ point.val && point.val ≤ 0x5A ||
    0x61 ≤ point.val && point.val ≤ 0x7A || point = 0x5F

/-- The second of two branches stands on a line with an expected commit. -/
theorem not_follows_dropped : ¬ ∀ (isWord : CodePoint → Bool) (content : Text),
    Follows isWord content (parseRef isWord content) := by
  intro claimed
  have follows := claimed isAsciiWord (text "main\ngit switch dev # expect: abcdef1")
  have isMain : text "main" ∈ namedBranches isAsciiWord
    (text "main\ngit switch dev # expect: abcdef1") := by decide
  have isDev : text "dev" ∈ namedBranches isAsciiWord
    (text "main\ngit switch dev # expect: abcdef1") := by decide
  obtain ⟨message, refused⟩ := follows.oneBranch _ isMain _ isDev (by decide)
  have chosen : parseRef isAsciiWord (text "main\ngit switch dev # expect: abcdef1") =
    .ok (text "main", some (text "abcdef1")) := by decide
  rw [chosen] at refused
  cases refused

end BranchRef

end LocalGpuCluster
