/-
This file models the walk of `schema_layer.py` over rendered data, which looks for keys that the
vendor schema does not declare. A schema and the data are JSON; where Python raises, on a reference
that does not resolve or on a schema that is none, there is no result, whatever the exception is.
The depth bounds how far references and branches are followed, as Python's recursion limit does.
-/

import LocalGpuCluster.Json

namespace LocalGpuCluster

namespace SchemaWalk

abbrev Fields := List (Text × Json)

/-! ### The source -/

/-- `node = node[part]` for the parts, one after the other. -/
def navigate : Json → List Text → Option Json
  | node, [] => some node
  | .obj fields, part :: rest => (fields.lookup part).bind fun node => navigate node rest
  | _, _ :: _ => none

/-- The loop of `_resolve_ref`, with the references seen so far. -/
def resolveFrom (schema : Json) : ℕ → List Text → Json → Option Fields
  | 0, _, _ => none
  | depth + 1, seen, .obj fields =>
      match fields.lookup (text "$ref") with
      | none => some fields
      | some (.str ref) =>
          if ref ∈ seen then none
          else if Text.startsWith ref (text "#/") then
            (navigate schema ((ref.drop 2).splitOn 0x2F)).bind
              (resolveFrom schema depth (ref :: seen))
          else none
      | some _ => none
  | _ + 1, _, _ => none

/-- `_resolve_ref`. -/
def resolveRef (schema : Json) (depth : ℕ) (subschema : Json) : Option Fields :=
  resolveFrom schema depth [] subschema

/-- `subschema.get("properties", {})`. -/
def propertiesOf (subschema : Fields) : Option Fields :=
  match subschema.lookup (text "properties") with
  | none => some []
  | some (.obj properties) => some properties
  | some _ => none

/-- `subschema.get(key, [])` of a combinator. -/
def branchesUnder (subschema : Fields) (key : String) : Option (List Json) :=
  match subschema.lookup (text key) with
  | none => some []
  | some (.arr branches) => some branches
  | some _ => none

/-- `_combinator_branches`. -/
def combinatorBranches (subschema : Fields) : Option (List Json) := do
  let all ← branchesUnder subschema "allOf"
  let any ← branchesUnder subschema "anyOf"
  let one ← branchesUnder subschema "oneOf"
  some (all ++ any ++ one)

/-- `_declared_keys`. -/
def declaredKeys (schema : Json) : ℕ → Json → Option (List Text)
  | 0, _ => none
  | depth + 1, subschema => do
      let fields ← resolveRef schema (depth + 1) subschema
      let properties ← propertiesOf fields
      let branches ← combinatorBranches fields
      let others ← branches.mapM (declaredKeys schema depth)
      some (properties.map Prod.fst ++ others.flatten)

/-- A value that may be `None`. -/
def given : Json → Option Json
  | .null => none
  | value => some value

/-- The first branch in which something is found. -/
def firstFound (find : Json → Option (Option Json)) : List Json → Option (Option Json)
  | [] => some none
  | branch :: rest =>
      match find branch with
      | none => none
      | some (some found) => some (some found)
      | some none => firstFound find rest

/-- `_property_schema`. -/
def propertySchema (schema : Json) (key : Text) : ℕ → Json → Option (Option Json)
  | 0, _ => none
  | depth + 1, subschema => do
      let fields ← resolveRef schema (depth + 1) subschema
      let properties ← propertiesOf fields
      match properties.lookup key with
      | some child => some (given child)
      | none => do
          let branches ← combinatorBranches fields
          firstFound (propertySchema schema key depth) branches

/-- `subschema.get("items")`. -/
def itemsOf (subschema : Fields) : Option Json :=
  (subschema.lookup (text "items")).bind given

/-- `SchemaWalkResult`. -/
structure SchemaWalkResult where
  undeclared : List Text
  visited : List Text
  deriving DecidableEq

def SchemaWalkResult.empty : SchemaWalkResult := ⟨[], []⟩

def SchemaWalkResult.append (first second : SchemaWalkResult) : SchemaWalkResult :=
  ⟨first.undeclared ++ second.undeclared, first.visited ++ second.visited⟩

/-- `f"{pointer}/{segment}"`. -/
def step (pointer segment : Text) : Text := pointer ++ text "/" ++ segment

/-- `pointer or "/"`. -/
def shown (pointer : Text) : Text := if pointer = [] then text "/" else pointer

mutual

/-- `_walk`: what it adds to `undeclared` and to `visited`. -/
def walk (schema : Json) (depth : ℕ) (subschema : Json) (pointer : Text) :
    Json → Option SchemaWalkResult
  | .obj entries => do
      let fields ← resolveRef schema depth subschema
      let declared ← declaredKeys schema depth (.obj fields)
      let below ← walkEntries schema depth (.obj fields) pointer entries
      let undeclared :=
        if declared = [] then []
        else (entries.map Prod.fst).filter fun key => key ∉ declared
      some (.append ⟨undeclared.map (step pointer), [shown pointer]⟩ below)
  | .arr values => do
      let fields ← resolveRef schema depth subschema
      match itemsOf fields with
      | none => some .empty
      | some items => walkItems schema depth items pointer 0 values
  | _ => some .empty

/-- The loop over `data.items()`. -/
def walkEntries (schema : Json) (depth : ℕ) (subschema : Json) (pointer : Text) :
    Fields → Option SchemaWalkResult
  | [] => some .empty
  | (key, value) :: rest => do
      let child ← propertySchema schema key depth subschema
      let first ← match child with
        | none => some .empty
        | some child => walk schema depth child (step pointer key) value
      let others ← walkEntries schema depth subschema pointer rest
      some (first.append others)

/-- The loop over `enumerate(data)`, from an index on. -/
def walkItems (schema : Json) (depth : ℕ) (items : Json) (pointer : Text) (index : ℕ) :
    List Json → Option SchemaWalkResult
  | [] => some .empty
  | value :: rest => do
      let first ← walk schema depth items (step pointer (decimal index)) value
      let others ← walkItems schema depth items pointer (index + 1) rest
      some (first.append others)

end

/-- `{"$ref": f"#/$defs/{def_name}"}`. -/
def rootOf (defName : Text) : Json :=
  .obj [(text "$ref", .str (text "#/$defs/" ++ defName))]

/-- `walk_declared_properties`. -/
def walkDeclaredProperties (schema : Json) (depth : ℕ) (defName : Text) (data : Json) :
    Option SchemaWalkResult :=
  walk schema depth (rootOf defName) [] data

end SchemaWalk

end LocalGpuCluster
