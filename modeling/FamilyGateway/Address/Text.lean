import FamilyGateway.Address.Basic
import FamilyGateway.Text.Numeral

/-!
# Addresses as text

An IPv4 address is four decimal octets separated by points. An IPv6 address is
eight hexadecimal groups separated by colons, where one run of zero groups may be
left out and written `::`, and where the last two groups may be written as an IPv4
address.

Printing is canonical: groups carry no leading zeros, the run left out is the
longest one of at least two groups, the first of several equally long ones, and
only the IPv4-mapped addresses show a dotted tail. Reading is liberal in the
places where the text form leaves a choice, and accepts nothing but an address.
-/

set_option autoImplicit false

namespace FamilyGateway

/-- Takes one expected character from the front of a text. -/
def expect? (character : Char) : List Char → Option (List Char)
  | first :: rest => if first = character then some rest else none
  | [] => none

namespace Ipv4Address

/-! ## IPv4 -/

/-- An octet: one to three decimal digits, at most 255, without a leading zero. -/
def octetForm : Numeral.Form := ⟨10, 3, 255, false⟩

/-- The decimal text of an octet. -/
def octetChars (octet : UInt8) : List Char := Numeral.digits 10 octet.toNat

/-- The four octets separated by points. -/
def chars (address : Ipv4Address) : List Char :=
  octetChars address.a ++ '.' :: octetChars address.b ++ '.' :: octetChars address.c ++
    '.' :: octetChars address.d

/-- The text of an address. -/
def text (address : Ipv4Address) : String := String.ofList address.chars

/-- Reads an octet at the front of a text. -/
def readOctet? (text : List Char) : Option (UInt8 × List Char) :=
  (Numeral.read? octetForm text).map fun (number, rest) => (UInt8.ofNat number, rest)

/-- Reads a point and an octet at the front of a text. -/
def readPointOctet? (text : List Char) : Option (UInt8 × List Char) :=
  (expect? '.' text).bind readOctet?

/-- Reads an address at the front of a text. -/
def readText? (text : List Char) : Option (Ipv4Address × List Char) := do
  let (a, text) ← readOctet? text
  let (b, text) ← readPointOctet? text
  let (c, text) ← readPointOctet? text
  let (d, text) ← readPointOctet? text
  some (⟨a, b, c, d⟩, text)

/-- The address that a whole text spells. -/
def ofChars? (text : List Char) : Option Ipv4Address :=
  match readText? text with
  | some (address, []) => some address
  | _ => none

/-- The address that a whole string spells. -/
def ofString? (text : String) : Option Ipv4Address := ofChars? text.toList

end Ipv4Address

namespace Ipv6Address

/-! ## Printing IPv6 -/

/-- A group: one to four hexadecimal digits. -/
def groupForm : Numeral.Form := ⟨16, 4, 65535, true⟩

/-- The hexadecimal text of a group. -/
def groupChars (group : UInt16) : List Char := Numeral.digits 16 group.toNat

/-- Groups separated by colons. -/
def joinGroups (groups : List UInt16) : List Char :=
  [':'].intercalate (groups.map groupChars)

/-- How many zero groups stand at the front. -/
def leadingZeros (groups : List UInt16) : Nat := (groups.takeWhile (· == 0)).length

/-- Start and length of the longest run of zero groups, the first one of several. -/
def longestZeroRun : List UInt16 → Nat × Nat
  | [] => (0, 0)
  | group :: rest =>
    let here := leadingZeros (group :: rest)
    let (start, length) := longestZeroRun rest
    if length ≤ here then (0, here) else (start + 1, length)

/-- The network of the IPv4-mapped addresses. -/
def mappedNetwork : Network96 := ⟨0, 0, 0, 0, 0, 0xffff⟩

/-- The text of an address: a dotted tail for the IPv4-mapped addresses, otherwise eight groups
with the longest run of at least two zero groups left out. -/
def chars (address : Ipv6Address) : List Char :=
  if address.network = mappedNetwork then
    "::ffff:".toList ++ address.low.chars
  else
    let groups := address.groups
    let (start, length) := longestZeroRun groups
    if 1 < length then
      joinGroups (groups.take start) ++ ':' :: ':' :: joinGroups (groups.drop (start + length))
    else
      joinGroups groups

/-- The text of an address. -/
def text (address : Ipv6Address) : String := String.ofList address.chars

/-! ## Reading IPv6 -/

/-- The two groups of an IPv4 address. -/
def dottedGroups (address : Ipv4Address) : List UInt16 :=
  [Wire.word address.a address.b, Wire.word address.c address.d]

/-- What a run of groups looks like once it was read: the groups, whether they end in a dotted
IPv4 address, and the text that follows. -/
structure GroupRun where
  groups : List UInt16
  dotted : Bool
  rest : List Char

/-- Reads at most `limit` groups separated by colons. A dotted IPv4 address takes the room of two
groups and ends the run. `first` says that no colon is due before the next group. -/
def readGroups (first : Bool) : (limit : Nat) → List Char → GroupRun
  | 0, text => ⟨[], false, text⟩
  | limit + 1, text =>
    let group := if first then some text else expect? ':' text
    match if limit = 0 then none else group.bind Ipv4Address.readText? with
    | some (address, rest) => ⟨dottedGroups address, true, rest⟩
    | none =>
      match group.bind (Numeral.read? groupForm) with
      | some (number, rest) =>
        let run := readGroups false limit rest
        { run with groups := UInt16.ofNat number :: run.groups }
      | none => ⟨[], false, text⟩

/-- The address that a whole text spells. A dotted address is refused in front of `::`, and `::`
stands for at least one group. -/
def ofChars? (text : List Char) : Option Ipv6Address :=
  let front := readGroups true 8 text
  if front.groups.length = 8 then
    if front.rest = [] then ofGroups? front.groups else none
  else if front.dotted then
    none
  else
    match front.rest with
    | ':' :: ':' :: rest =>
      let back := readGroups true (7 - front.groups.length) rest
      if back.rest = [] then
        ofGroups? (front.groups ++
          List.replicate (8 - front.groups.length - back.groups.length) 0 ++ back.groups)
      else
        none
    | _ => none

/-- The address that a whole string spells. -/
def ofString? (text : String) : Option Ipv6Address := ofChars? text.toList

end Ipv6Address

/-- The text of an address of either family. -/
def Address.text : Address → String
  | .v4 address => address.text
  | .v6 address => address.text

/-- The address of either family that a string spells. -/
def Address.ofString? (text : String) : Option Address :=
  match Ipv4Address.ofString? text with
  | some address => some (.v4 address)
  | none => (Ipv6Address.ofString? text).map .v6

end FamilyGateway
