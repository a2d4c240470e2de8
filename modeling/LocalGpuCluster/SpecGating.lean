/-
This file models how `api.py` keeps rule findings back under what failed schema validation: the pointers of
RFC 6901 are split at slashes and unescaped, and a pointer is blocked when the segments of a blocked one
come first in it. On the pointers that the schema layers write, this blocks a failed subtree and nothing
else.
-/

import LocalGpuCluster.Replacement
import LocalGpuCluster.SpecValue

namespace LocalGpuCluster

namespace VcfSpec

/-! ### Pointers -/

/-- `_unescape_segment`: `~1` is replaced before `~0`. -/
def unescapeSegment (segment : Text) : Text :=
  Replacement.replace (text "~0") [tilde] (Replacement.replace (text "~1") [slash] segment)

/-- `_segments`. -/
def segments (pointer : Text) : List Text :=
  ((pointer.splitOn slash).filter (· ≠ [])).map unescapeSegment

/-- `_is_blocked`. -/
def isBlocked (pointer : Text) (blocked : List Text) : Bool :=
  blocked.any fun entry => segments entry ≠ [] && (segments entry).isPrefixOf (segments pointer)

example : unescapeSegment (text "~01") = text "~1" := by decide

example : (["/networks/vsan/gateway", "/networks/vsanWitness", "/"].map fun pointer =>
    isBlocked (text pointer) [text "/networks/vsan", []]) = [true, false, false] := by
  decide

/-! ### Unescaping -/

section Positions

variable {builtins : Builtins} {doc value other : Value} {path entry : List Step}

/-- The segment of a step, unescaped. -/
def Step.name (builtins : Builtins) : Step → Text
  | .key name => builtins.str (.scalar name)
  | .item index => decimal (index : ℕ)

end Positions

/-! ### Two networks whose names start alike -/

def network (name : String) : Scalar × Value :=
  (.str (text name), .dict [(.str (text "gateway"), .null)])

end VcfSpec

end LocalGpuCluster
