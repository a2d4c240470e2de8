/-
This file models `access_keys.py`: the principals, the check of one entry of the keys file, the
store that reads the file again when it has changed, and what a scoped principal may ask for.
Reading the file is a step of its own, with the exceptions it catches and those it does not.
-/

import LocalGpuCluster.Json

namespace LocalGpuCluster

namespace AccessKeys

/-! ### Principals -/

inductive Kind where
  | owner
  | scoped
  deriving DecidableEq, Repr

/-- `Principal`; the owner has no aliases and does not expire. -/
structure Principal where
  name : Text
  kind : Kind
  aliases : List Text
  expires : Option ℚ
  deriving DecidableEq

namespace Principal

/-- `OWNER`. -/
def owner : Principal := ⟨text "owner", .owner, [], none⟩

def isOwner (principal : Principal) : Bool := principal.kind = .owner

end Principal

/-! ### One entry of the keys file -/

/-- An exception that reading the keys file or a key can raise. -/
inductive PyError where
  | keyError
  | typeError
  | valueError
  | overflowError
  | recursionError
  | unicodeEncodeError
  deriving DecidableEq, Repr

/-- `[a-z0-9]`. -/
def isNameStart (point : CodePoint) : Bool :=
  0x61 ≤ point.val && point.val ≤ 0x7A || 0x30 ≤ point.val && point.val ≤ 0x39

/-- `[a-z0-9._-]`. -/
def isNamePart (point : CodePoint) : Bool :=
  isNameStart point || [0x2E, 0x5F, 0x2D].contains point.val

/-- `NAME_RE.fullmatch`. -/
def isName : Text → Bool
  | [] => false
  | first :: rest => isNameStart first && rest.length ≤ 63 && rest.all isNamePart

/-- `_SHA256_RE.fullmatch`. -/
def isSha256 (digest : Text) : Bool :=
  digest.length = 64 && digest.all fun point =>
    0x30 ≤ point.val && point.val ≤ 0x39 || 0x61 ≤ point.val && point.val ≤ 0x66

/-- The name, if it is one and is not reserved. -/
def validName : Json → Option Text
  | .str name => if isName name && name ≠ Principal.owner.name then some name else none
  | _ => none

/-- The digest in lower case, if it is one. -/
def validDigest : Json → Option Text
  | .str digest => if isSha256 digest.lower then some digest.lower else none
  | _ => none

/-- An alias: a string that is not empty. -/
def validAlias : Json → Option Text
  | .str name => if name ≠ [] then some name else none
  | _ => none

/-- The aliases, if they are a list that is not empty. -/
def validAliases : Json → Option (List Text)
  | .arr [] => none
  | .arr items => items.mapM validAlias
  | _ => none

/-- The check of `expires` and its conversion: `math.isfinite` raises on an integer that is too
large for a float. -/
def validExpires : Json → Except PyError ℚ
  | .int value => (finiteFloat value).elim (.error .overflowError) .ok
  | .float (.finite value) => .ok value
  | _ => .error .valueError

/-- `e[key]` of a dict. -/
def field (fields : List (Text × Json)) (key : Text) : Except PyError Json :=
  (fields.lookup key).elim (.error .keyError) .ok

/-- `raise ValueError` unless there is a value. -/
def check {Value : Type} (value : Option Value) : Except PyError Value :=
  value.elim (.error .valueError) .ok

/-- An entry of `KeyStore._entries`. -/
abbrev Entry := Text × Principal

/-- `_parse_entry`. -/
def parseEntry : Json → Except PyError Entry
  | .obj fields => do
      let rawName ← field fields (text "name")
      let rawDigest ← field fields (text "sha256")
      let rawAliases ← field fields (text "aliases")
      let rawExpires ← field fields (text "expires")
      let name ← check (validName rawName)
      let digest ← check (validDigest rawDigest)
      let aliases ← check (validAliases rawAliases)
      let expires ← validExpires rawExpires
      return (digest, ⟨name, .scoped, aliases, some expires⟩)
  | _ => .error .typeError

/-! ### The store -/

/-- What opening and decoding the keys file yields. -/
inductive Content where
  | json (value : Json)
  /-- `OSError` or `ValueError`: it cannot be opened, or is not UTF-8, or not JSON. -/
  | unreadable
  /-- `RecursionError`: it nests deeper than the decoder goes. -/
  | tooDeep

/-- The keys file: its signature and its content, `none` when there is none. -/
abbrev File := Option (ℕ × Content)

/-- `KeyStore`. -/
structure KeyStore where
  owner : Text
  sig : Option ℕ
  entries : List Entry

/-- `raw` when it is a list: the entries of a JSON object. -/
def rawEntries (fields : List (Text × Json)) : List Json :=
  match (fields.lookup (text "keys")).getD (.arr []) with
  | .arr items => items
  | _ => []

/-- The loop over the entries: an invalid one is skipped, any other exception ends it. -/
def parseEntries : List Json → Except PyError (List Entry)
  | [] => .ok []
  | item :: rest =>
      match parseEntry item with
      | .ok entry => (parseEntries rest).map (entry :: ·)
      | .error .keyError | .error .typeError | .error .valueError => parseEntries rest
      | .error failure => .error failure

namespace KeyStore

/-- What `_reload_if_changed` makes of a file that has changed. -/
def read (store : KeyStore) : Content → KeyStore × Except PyError Unit
  | .json (.obj fields) =>
      match parseEntries (rawEntries fields) with
      | .ok entries => ({ store with entries := entries }, .ok ())
      | .error failure => (store, .error failure)
  -- `AttributeError`: what is no dict has no `get`.
  | .json _ | .unreadable => ({ store with entries := [] }, .ok ())
  | .tooDeep => (store, .error .recursionError)

/-- `_reload_if_changed`, and what it raises. -/
def reloadIfChanged (store : KeyStore) : File → KeyStore × Except PyError Unit
  | none => ({ store with sig := none, entries := [] }, .ok ())
  | some (signature, content) =>
      if store.sig = some signature then (store, .ok ())
      else { store with sig := some signature }.read content

/-- The principal of a digest: that of the last entry that has it. -/
def find (store : KeyStore) (digest : Text) : Option Principal :=
  ((store.entries.filter fun entry => entry.1 = digest).map Prod.snd).getLast?

/-- `authenticate`. -/
def authenticate (python : Python) (store : KeyStore) (file : File) (now : ℚ) (presented : Text) :
    KeyStore × Except PyError (Option Principal) :=
  if presented = [] then (store, .ok none)
  else if store.owner ≠ [] && (presented.hasSurrogate || store.owner.hasSurrogate) then
    (store, .error .unicodeEncodeError)
  else if store.owner ≠ [] && presented = store.owner then (store, .ok (some .owner))
  else
    match store.reloadIfChanged file with
    | (reloaded, .error failure) => (reloaded, .error failure)
    | (reloaded, .ok ()) =>
        if presented.hasSurrogate then (reloaded, .error .unicodeEncodeError)
        else
          (reloaded, .ok ((reloaded.find (python.sha256 presented)).filter fun principal =>
            principal.expires.all fun expires => now < expires))

end KeyStore

/-! ### What a scoped principal may ask for -/

/-- `SCOPED_ENDPOINTS`. -/
def scopedEndpoints : List (Text × Text) :=
  [(text "POST", text "/v1/chat/completions"), (text "GET", text "/v1/models")]

/-- `endpoint_allowed`; `upper` of a method is that of ASCII. -/
def endpointAllowed (principal : Principal) (method path : Text) : Bool :=
  principal.isOwner || scopedEndpoints.contains (method.upper, path)

/-- `chat_violation`. -/
def chatViolation (principal : Principal) (body : List (Text × Json)) : Option Text :=
  if principal.isOwner then none
  else
    match Json.getIn body (text "model") with
    | .str model =>
        if ¬principal.aliases.contains model then some (text "model_not_allowed")
        else
          match Json.getIn body (text "tool_execution") with
          | .str execution =>
              if execution = text "server" then some (text "server_tools_not_allowed") else none
          | _ => none
    | _ => some (text "model_not_allowed")

/-- `apply_chat_policy`. -/
def applyChatPolicy (principal : Principal) (body : List (Text × Json)) : List (Text × Json) :=
  if principal.isOwner then body else Json.setIn body (text "tool_execution") (.str (text "client"))

/-- `may_swap`. -/
def maySwap (principal : Principal) : Bool := principal.isOwner

end AccessKeys

end LocalGpuCluster
