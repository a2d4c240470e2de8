/-
This file holds IP addresses as Python's `ipaddress` has them: what `ip_address` reads, what `str`
writes, and which networks an address is in. A scope id only decides whether a text is read.
-/

import LocalGpuCluster.Text

namespace LocalGpuCluster

/-- `IPv4Address` or `IPv6Address`, without a scope id. -/
inductive Ip where
  | v4 (value : BitVec 32)
  | v6 (value : BitVec 128)
  deriving DecidableEq, Repr

namespace Ip

/-! ### Reading -/

/-- The value of a digit, `none` for a code point that is no hexadecimal digit. -/
def digitOf (point : CodePoint) : Option ℕ :=
  if 0x30 ≤ point.val && point.val ≤ 0x39 then some (point.val - 0x30)
  else if 0x41 ≤ point.val && point.val ≤ 0x46 then some (point.val - 0x37)
  else if 0x61 ≤ point.val && point.val ≤ 0x66 then some (point.val - 0x57)
  else none

/-- `int(digits, base)` where every code point is a digit of the base. -/
def numberOf (base : ℕ) (digits : Text) : Option ℕ :=
  if digits = [] then none
  else digits.foldlM (fun number point =>
    (digitOf point).bind fun digit => if digit < base then some (number * base + digit) else none) 0

/-- `_parse_octet`. -/
def octetOf (digits : Text) : Option ℕ :=
  if 3 < digits.length || digits ≠ text "0" && digits.head? = some 0x30 then none
  else (numberOf 10 digits).filter (· ≤ 255)

/-- `IPv4Address`. -/
def v4Of (content : Text) : Option (BitVec 32) :=
  match (content.splitOn 0x2E).mapM octetOf with
  | some [first, second, third, fourth] =>
      some (BitVec.ofNat 32 (((first * 256 + second) * 256 + third) * 256 + fourth))
  | _ => none

/-- `_parse_hextet`. -/
def hextetOf (digits : Text) : Option ℕ :=
  if 4 < digits.length then none else numberOf 16 digits

/-- `f"{value:x}"`. -/
def hex (value : ℕ) : Text := (Nat.toDigits 16 value).map fun digit => Fin.ofNat 0x110000 digit.toNat

/-- The parts between colons, with an IPv4 ending turned into two hextets. -/
def v6Parts (content : Text) : Option (List Text) :=
  let parts := content.splitOn 0x3A
  if parts.length < 3 then none
  else
    let last := parts.getLastD []
    if last.contains 0x2E then
      (v4Of last).map fun ending =>
        parts.dropLast ++ [hex (ending.toNat / 0x10000), hex (ending.toNat % 0x10000)]
    else some parts

/-- The hextets before or after a double colon: an empty one is the end of the address itself. -/
def besideGap (atEnd : Option Text) (parts : List Text) : Option (List ℕ) :=
  if atEnd = some [] then if parts.length = 1 then some [] else none else parts.mapM hextetOf

/-- The eight hextets of the parts. -/
def hextetsOf (parts : List Text) : Option (List ℕ) :=
  let gaps := (List.range parts.length).filter fun index =>
    0 < index && index + 1 < parts.length && parts[index]? = some []
  match gaps with
  | [] => if parts.length = 8 then parts.mapM hextetOf else none
  | [gap] =>
      (besideGap parts.head? (parts.take gap)).bind fun before =>
        (besideGap parts.getLast? (parts.drop (gap + 1))).bind fun after =>
          if before.length + after.length < 8 then
            some (before ++ List.replicate (8 - (before.length + after.length)) 0 ++ after)
          else none
  | _ => none

/-- `IPv6Address`, after `_split_scope_id`. -/
def v6Of (content : Text) : Option (BitVec 128) :=
  let address := content.takeWhile (· ≠ 0x25)
  let scopeId := content.drop (address.length + 1)
  if content.contains 0x2F || content.contains 0x25 && (scopeId = [] || scopeId.contains 0x25) then
    none
  else
    ((v6Parts address).bind hextetsOf).map fun hextets =>
      BitVec.ofNat 128 (hextets.foldl (fun number hextet => number * 0x10000 + hextet) 0)

/-- `ip_address`, `none` for `ValueError`. -/
def ofText (content : Text) : Option Ip :=
  ((v4Of content).map .v4).or ((v6Of content).map .v6)

/-- `ip_address` of an integer, `none` for `ValueError`. -/
def ofInt (value : ℤ) : Option Ip :=
  if value < 0 then none
  else if value < 2 ^ 32 then some (.v4 (BitVec.ofInt 32 value))
  else if value < 2 ^ 128 then some (.v6 (BitVec.ofInt 128 value))
  else none

/-! ### Writing -/

/-- `str` of an `IPv4Address`. -/
def v4Text (value : BitVec 32) : Text :=
  Text.join (text ".") ([24, 16, 8, 0].map fun shift => decimal (value.toNat / 2 ^ shift % 256 : ℕ))

def hextets (value : BitVec 128) : List ℕ :=
  (List.range 8).map fun index => value.toNat / 0x10000 ^ (7 - index) % 0x10000

/-- How many hextets from the index on are zero. -/
def zeroRun (parts : List ℕ) (index : ℕ) : ℕ := ((parts.drop index).takeWhile (· = 0)).length

/-- `str` of an `IPv6Address`: the first of the longest runs of zeros is a double colon. -/
def v6Text (value : BitVec 128) : Text :=
  let parts := hextets value
  let start := (List.range 8).foldl
    (fun best index => if zeroRun parts best < zeroRun parts index then index else best) 0
  let written := fun part => Text.join (text ":") (part.map hex)
  if 1 < zeroRun parts start then
    written (parts.take start) ++ text "::" ++ written (parts.drop (start + zeroRun parts start))
  else written parts

/-- `str` of an address. -/
def toText : Ip → Text
  | .v4 value => v4Text value
  | .v6 value => v6Text value

example : ([text "8.8.8.8", text "2001:db8::1", text "::", text "1::"].all fun content =>
    (ofText content).map toText = some content) = true := by
  decide

/-! ### Networks -/

/-- `ipv4_mapped`. -/
def ipv4Mapped : Ip → Option (BitVec 32)
  | .v4 _ => none
  | .v6 value => if value.toNat / 2 ^ 32 = 0xFFFF then some (value.setWidth 32) else none

/-- `ip in net`, for the network of the base address with a prefix of this length. -/
def inNetwork (ip base : Ip) (prefixLength : ℕ) : Bool :=
  match ip, base with
  | .v4 value, .v4 network => value >>> (32 - prefixLength) = network >>> (32 - prefixLength)
  | .v6 value, .v6 network => value >>> (128 - prefixLength) = network >>> (128 - prefixLength)
  | _, _ => false

/-- `_prefix_from_prefix_string`. -/
def prefixOfDigits (longest : ℕ) (digits : Text) : Option ℕ :=
  (numberOf 10 digits).filter (· ≤ longest)

/-- `_prefix_from_ip_int`: the number of ones, when they all come first. -/
def prefixOfMask (mask : BitVec 32) : Option ℕ :=
  (List.range 33).find? fun ones => mask.toNat = 2 ^ 32 - 2 ^ (32 - ones)

/-- `IPv4Network._make_netmask`: a number of bits, a netmask or a hostmask. -/
def v4Prefix (mask : Text) : Option ℕ :=
  (prefixOfDigits 32 mask).or
    ((v4Of mask).bind fun value => (prefixOfMask value).or (prefixOfMask (~~~value)))

/-- `ip_network(content, strict=False)`: an address of the network and the length of its prefix,
`none` for `ValueError`. -/
def networkOf (content : Text) : Option (Ip × ℕ) :=
  match content.splitOn 0x2F with
  | [address] =>
      ((v4Of address).map fun value => (.v4 value, 32)).or
        ((v6Of address).map fun value => (.v6 value, 128))
  | [address, mask] =>
      ((v4Of address).bind fun value => (v4Prefix mask).map fun length => (.v4 value, length)).or
        ((v6Of address).bind fun value =>
          (prefixOfDigits 128 mask).map fun length => (.v6 value, length))
  | _ => none

/-- `address in network`. -/
def within (address : Ip) (network : Ip × ℕ) : Bool := address.inNetwork network.1 network.2

/-- `str(network.netmask)`. -/
def netmaskText : Ip × ℕ → Text
  | (.v4 _, length) => v4Text (BitVec.ofNat 32 (2 ^ 32 - 2 ^ (32 - length)))
  | (.v6 _, length) => v6Text (BitVec.ofNat 128 (2 ^ 128 - 2 ^ (128 - length)))

example : (["10.0.0.1/24", "10.0.0.0/0.0.0.255", "10.0.0.0", "fd00::/64", "10.0.0.0/33"].map
    fun content => (networkOf (text content)).map netmaskText) =
    [some (text "255.255.255.0"), some (text "255.255.255.0"), some (text "255.255.255.255"),
      some (text "ffff:ffff:ffff:ffff::"), none] := by
  decide

end Ip

end LocalGpuCluster
