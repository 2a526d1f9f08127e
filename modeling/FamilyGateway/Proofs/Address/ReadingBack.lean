import FamilyGateway.Address.Text
import FamilyGateway.Proofs.Text.Layout
import FamilyGateway.Proofs.Text.Numerals

/-!
# Printed addresses are read back

Every address is what its text spells (`Ipv4Address.ofString?_text`,
`Ipv6Address.ofString?_text`). A printed octet or group ends where a point, a colon or
the text does, so numerals are read whole. What is left to see is that no group is taken
for the beginning of a dotted address, that reading stops at `::`, and that the zeros put
in for `::` are those that were left out.

Conversely a text that spells an address is made of digits, colons and points
(`Ipv6Address.isAddressChar_of_ofChars?`), so it contains neither a slash nor a blank.
-/

set_option autoImplicit false

namespace FamilyGateway

open Numeral

variable {text rest : List Char}

/-! ## Separators -/

theorem Numeral.isDigit_of_symbolValue? {character : Char} (other : symbolValue? character = none)
    (base : Nat) : isDigit base character = false := by
  rw [isDigit, digitValue?, other]
  rfl

theorem Numeral.stops_cons {character : Char} (other : symbolValue? character = none) (base : Nat)
    (rest : List Char) : Stops base (character :: rest) := by
  rintro _ ⟨⟩
  exact isDigit_of_symbolValue? other base

/-- A text is at its end or goes on with a colon. -/
def BeforeColon (text : List Char) : Prop := ∀ character ∈ text.head?, character = ':'

theorem BeforeColon.stops (colon : BeforeColon text) (base : Nat) : Stops base text := by
  intro character first
  rw [colon character first]
  exact isDigit_of_symbolValue? (by decide) base

theorem beforeColon_cons (rest : List Char) : BeforeColon (':' :: rest) := by
  rintro _ ⟨⟩
  rfl

theorem beforeColon_nil : BeforeColon [] := fun _ absent => nomatch absent

theorem expect?_eq_none {character : Char} (other : text.head? ≠ some character) :
    expect? character text = none := by
  cases text with
  | nil => rfl
  | cons first rest => exact if_neg fun same => other (congrArg some same)

/-! ## The characters of addresses -/

/-- The characters that an address is written with. -/
def IsAddressChar (character : Char) : Prop :=
  isDigit 16 character = true ∨ character = ':' ∨ character = '.'

/-- Of a text the rest is left, and what was taken is written with the characters of addresses. -/
def Leaves (text rest : List Char) : Prop :=
  ∃ taken, text = taken ++ rest ∧ ∀ character ∈ taken, IsAddressChar character

theorem Leaves.refl (text : List Char) : Leaves text text :=
  ⟨[], rfl, fun _ absent => nomatch absent⟩

theorem Leaves.trans {between : List Char} (first : Leaves text between)
    (second : Leaves between rest) : Leaves text rest := by
  obtain ⟨taken, rfl, made⟩ := first
  obtain ⟨more, rfl, further⟩ := second
  refine ⟨taken ++ more, (List.append_assoc ..).symm, fun character member => ?_⟩
  exact (List.mem_append.mp member).elim (made character) (further character)

theorem leaves_cons {character : Char} (spelled : IsAddressChar character) (rest : List Char) :
    Leaves (character :: rest) rest :=
  ⟨[character], rfl, fun _ member => List.mem_singleton.mp member ▸ spelled⟩

theorem Numeral.leaves_of_read? {form : Form} {number : Nat} (limit : form.base ≤ 16)
    (read : read? form text = some (number, rest)) : Leaves text rest := by
  obtain ⟨-, numeral, cut, made⟩ := exists_of_read? read
  exact ⟨numeral, cut, fun character member => .inl (isDigit_mono limit (made character member))⟩

theorem leaves_of_expect? {character : Char} (spelled : IsAddressChar character)
    (read : expect? character text = some rest) : Leaves text rest := by
  cases text with
  | nil => cases read
  | cons first text =>
      simp only [expect?] at read
      split at read
      next same =>
        cases read
        exact same ▸ leaves_cons (same ▸ spelled) rest
      next => cases read

namespace Ipv4Address

/-! ## IPv4 -/

theorem readOctet?_octetChars (octet : UInt8) (stops : Stops 10 rest) :
    readOctet? (octetChars octet ++ rest) = some (octet, rest) := by
  have bound := octet.toNat_lt
  have short : (digits 10 octet.toNat).length ≤ 3 := length_digits_le (by omega) (by omega)
  have read : Numeral.read? octetForm (digits 10 octet.toNat ++ rest) = some (octet.toNat, rest) :=
    read?_digits octetForm (by decide) (by decide) short (Nat.le_of_lt_succ bound) stops
  rw [readOctet?, octetChars, read]
  simp only [Option.map_some, UInt8.ofNat_toNat]

theorem readPointOctet?_octetChars (octet : UInt8) (stops : Stops 10 rest) :
    readPointOctet? ('.' :: (octetChars octet ++ rest)) = some (octet, rest) :=
  readOctet?_octetChars octet stops

/-- A printed address is read back wherever no digit follows it. -/
theorem readText?_chars (address : Ipv4Address) (stops : Stops 10 rest) :
    readText? (address.chars ++ rest) = some (address, rest) := by
  have point (text : List Char) : Stops 10 ('.' :: text) := stops_cons (by decide) 10 text
  simp only [readText?, chars, List.append_assoc, List.cons_append, Option.bind_eq_bind,
    readOctet?_octetChars _ (point _), readPointOctet?_octetChars _ (point _),
    readPointOctet?_octetChars _ stops, Option.bind_some]

theorem readText?_chars_nil (address : Ipv4Address) :
    readText? address.chars = some (address, []) := by
  have read : readText? (address.chars ++ []) = some (address, []) :=
    address.readText?_chars fun _ absent => nomatch absent
  rwa [List.append_nil] at read

/-- The text of an address spells it. -/
theorem ofString?_text (address : Ipv4Address) : ofString? address.text = some address := by
  rw [ofString?, ofChars?, Ipv4Address.text, String.toList_ofList, readText?_chars_nil]

theorem readOctet?_eq_some {octet : UInt8} (read : readOctet? text = some (octet, rest)) :
    ∃ number, Numeral.read? octetForm text = some (number, rest) := by
  obtain ⟨⟨number, _⟩, found, same⟩ := Option.map_eq_some_iff.mp read
  cases same
  exact ⟨number, found⟩

/-- Where digits are not followed by a point no address is read. -/
theorem readText?_eq_none (pointless : (text.dropWhile (isDigit 10)).head? ≠ some '.') :
    readText? text = none := by
  rw [readText?, Option.bind_eq_bind, Option.bind_eq_none_iff]
  rintro ⟨octet, rest⟩ read
  obtain ⟨number, found⟩ := readOctet?_eq_some read
  have left : rest = text.dropWhile (isDigit 10) := (exists_of_read? found).1
  have none : readPointOctet? rest = none := by
    rw [readPointOctet?, expect?_eq_none (left ▸ pointless), Option.bind_none]
  simp only [none, Option.bind_none]

theorem leaves_of_readOctet? {octet : UInt8} (read : readOctet? text = some (octet, rest)) :
    Leaves text rest := by
  obtain ⟨number, found⟩ := readOctet?_eq_some read
  exact leaves_of_read? (by decide) found

theorem leaves_of_readPointOctet? {octet : UInt8}
    (read : readPointOctet? text = some (octet, rest)) : Leaves text rest := by
  obtain ⟨between, point, read⟩ := Option.bind_eq_some_iff.mp read
  exact (leaves_of_expect? (.inr (.inr rfl)) point).trans (leaves_of_readOctet? read)

theorem leaves_of_readText? {address : Ipv4Address} (read : readText? text = some (address, rest)) :
    Leaves text rest := by
  simp only [readText?, Option.bind_eq_bind, Option.bind_eq_some_iff, Prod.exists] at read
  obtain ⟨a, first, readFirst, b, second, readSecond, c, third, readThird, d, fourth, readFourth,
    same⟩ := read
  cases same
  exact (((leaves_of_readOctet? readFirst).trans (leaves_of_readPointOctet? readSecond)).trans
    (leaves_of_readPointOctet? readThird)).trans (leaves_of_readPointOctet? readFourth)

end Ipv4Address

namespace Ipv6Address

variable {first : Bool} {limit : Nat}

/-! ## Groups -/

theorem read?_groupChars (group : UInt16) (stops : Stops 16 rest) :
    Numeral.read? groupForm (groupChars group ++ rest) = some (group.toNat, rest) := by
  have bound := group.toNat_lt
  have short : (digits 16 group.toNat).length ≤ 4 := length_digits_le (by omega) (by omega)
  exact read?_digits groupForm (by decide) (by decide) short (Nat.le_of_lt_succ bound) stops

theorem isDigit_of_mem_groupChars (group : UInt16) :
    ∀ character ∈ groupChars group, isDigit 16 character = true :=
  isDigit_of_mem_digits (by omega) (by omega)

theorem readText?_of_beforeColon (colon : BeforeColon text) :
    Ipv4Address.readText? text = none := by
  refine Ipv4Address.readText?_eq_none fun point => ?_
  rw [dropWhile_of_stops (colon.stops 10)] at point
  cases colon _ point

/-- A group that is followed by a colon or by nothing does not begin a dotted address. -/
theorem readText?_groupChars (group : UInt16) (colon : BeforeColon rest) :
    Ipv4Address.readText? (groupChars group ++ rest) = none := by
  refine Ipv4Address.readText?_eq_none fun point => ?_
  -- What is left behind the decimal digits is a hexadecimal digit or the colon.
  rw [List.dropWhile_append] at point
  split at point
  · next whole =>
      rw [dropWhile_of_stops (colon.stops 10)] at point
      cases colon _ point
  · next part =>
      cases left : (groupChars group).dropWhile (isDigit 10) with
      | nil => exact part (by rw [left]; rfl)
      | cons character behind =>
          rw [left] at point
          cases point
          have member : '.' ∈ groupChars group :=
            (List.dropWhile_sublist _).subset (left ▸ List.mem_cons_self)
          cases isDigit_of_mem_groupChars group _ member

/-! ## Runs of groups -/

/-- The text in which the next group is looked for: a colon is due unless it is the first one. -/
def nextGroup? (first : Bool) (text : List Char) : Option (List Char) :=
  if first then some text else expect? ':' text

theorem readGroups_group {group : UInt16}
    (found : nextGroup? first text = some (groupChars group ++ rest)) (colon : BeforeColon rest) :
    readGroups first (limit + 1) text = { readGroups false limit rest with
      groups := group :: (readGroups false limit rest).groups } := by
  simp only [nextGroup?] at found
  have undotted : (if limit = 0 then none
      else (some (groupChars group ++ rest)).bind Ipv4Address.readText?) = none := by
    rw [Option.bind_some, readText?_groupChars group colon, ite_self]
  rw [readGroups, found, undotted]
  simp only [Option.bind_some, read?_groupChars group (colon.stops 16), UInt16.ofNat_toNat]

/-- Reading stops where no group stands. -/
theorem readGroups_stop (stops : ∀ found, nextGroup? first text = some found → BeforeColon found) :
    readGroups first limit text = ⟨[], false, text⟩ := by
  cases limit with
  | zero => rfl
  | succ limit =>
      have undotted : (nextGroup? first text).bind Ipv4Address.readText? = none :=
        Option.bind_eq_none_iff.mpr fun found next => readText?_of_beforeColon (stops found next)
      have unread : (nextGroup? first text).bind (Numeral.read? groupForm) = none :=
        Option.bind_eq_none_iff.mpr fun found next =>
          read?_of_stops groupForm ((stops found next).stops 16)
      simp only [nextGroup?] at undotted unread
      rw [readGroups, undotted, ite_self, unread]

/-- Groups, each behind a colon. -/
def colonGroups (groups : List UInt16) : List Char :=
  groups.flatMap fun group => ':' :: groupChars group

theorem joinGroups_cons (group : UInt16) (groups : List UInt16) :
    joinGroups (group :: groups) = groupChars group ++ colonGroups groups := by
  induction groups generalizing group with
  | nil => simp [joinGroups, colonGroups, List.intercalate]
  | cons next groups ih =>
      have later := ih next
      simp only [joinGroups, List.map_cons] at later ⊢
      rw [List.intercalate_cons_cons, later]
      simp [colonGroups]

/-- What may stand behind some groups without being taken for a further one: nothing, or two
colons. -/
inductive Halt : List Char → Prop where
  | done : Halt []
  | left (text : List Char) : Halt (':' :: ':' :: text)

theorem Halt.beforeColon (halt : Halt rest) : BeforeColon rest := by
  cases halt with
  | done => exact beforeColon_nil
  | left text => exact beforeColon_cons _

theorem Halt.readGroups (halt : Halt rest) (first : Bool) (limit : Nat) :
    readGroups first limit rest = ⟨[], false, rest⟩ := by
  refine readGroups_stop fun found next => ?_
  cases first with
  | true =>
      cases next
      exact halt.beforeColon
  | false =>
      cases halt with
      | done => cases next
      | left text =>
          cases next
          exact beforeColon_cons text

theorem beforeColon_colonGroups (halt : Halt rest) (groups : List UInt16) :
    BeforeColon (colonGroups groups ++ rest) := by
  cases groups with
  | nil => exact halt.beforeColon
  | cons group groups => exact beforeColon_cons _

theorem readGroups_colonGroups (halt : Halt rest) {groups : List UInt16}
    (room : groups.length ≤ limit) :
    readGroups false limit (colonGroups groups ++ rest) = ⟨groups, false, rest⟩ := by
  induction groups generalizing limit with
  | nil => exact halt.readGroups false limit
  | cons group groups ih =>
      obtain ⟨limit, rfl⟩ := Nat.exists_eq_add_one.mpr (Nat.zero_lt_of_lt room)
      have next : nextGroup? false (colonGroups (group :: groups) ++ rest) =
          some (groupChars group ++ (colonGroups groups ++ rest)) := by
        simp [nextGroup?, colonGroups, expect?]
      rw [readGroups_group next (beforeColon_colonGroups halt groups),
        ih (Nat.le_of_succ_le_succ room)]

/-- Printed groups are read back as far as there is room for them. -/
theorem readGroups_joinGroups (halt : Halt rest) {groups : List UInt16}
    (room : groups.length ≤ limit) :
    readGroups true limit (joinGroups groups ++ rest) = ⟨groups, false, rest⟩ := by
  cases groups with
  | nil => exact halt.readGroups true limit
  | cons group groups =>
      obtain ⟨limit, rfl⟩ := Nat.exists_eq_add_one.mpr (Nat.zero_lt_of_lt room)
      have next : nextGroup? true (joinGroups (group :: groups) ++ rest) =
          some (groupChars group ++ (colonGroups groups ++ rest)) := by
        rw [joinGroups_cons, List.append_assoc]
        rfl
      rw [readGroups_group next (beforeColon_colonGroups halt groups),
        readGroups_colonGroups halt (Nat.le_of_succ_le_succ room)]

/-! ## The longest run of zeros -/

theorem take_leadingZeros (groups : List UInt16) :
    groups.take (leadingZeros groups) = List.replicate (leadingZeros groups) 0 := by
  induction groups with
  | nil => rfl
  | cons group groups ih =>
      simp only [leadingZeros, List.takeWhile_cons] at ih ⊢
      split
      · next zero =>
          rw [List.length_cons, List.take_succ_cons, List.replicate_succ, ih, eq_of_beq zero]
      · rfl

/-- The longest run is a run of zeros. -/
theorem split_longestZeroRun (groups : List UInt16) :
    groups = groups.take (longestZeroRun groups).1 ++
      List.replicate (longestZeroRun groups).2 0 ++
      groups.drop ((longestZeroRun groups).1 + (longestZeroRun groups).2) := by
  induction groups with
  | nil => rfl
  | cons group groups ih =>
      simp only [longestZeroRun]
      split
      · rw [Nat.zero_add, List.take_zero, List.nil_append, ← take_leadingZeros,
          List.take_append_drop]
      · rw [Nat.add_right_comm, List.take_succ_cons, List.drop_succ_cons, List.cons_append,
          List.cons_append, ← ih]

/-! ## Whole addresses -/

/-- Eight groups are read back. -/
theorem ofChars?_joinGroups {groups : List UInt16} (all : groups.length = 8) :
    ofChars? (joinGroups groups) = ofGroups? groups := by
  have read := readGroups_joinGroups .done (Nat.le_of_eq all)
  rw [List.append_nil] at read
  simp only [ofChars?, read, all, if_true]

/-- Groups around two colons are read back with zeros between them. -/
theorem ofChars?_compressed {front back : List UInt16} (few : front.length + back.length < 8) :
    ofChars? (joinGroups front ++ ':' :: ':' :: joinGroups back) =
      ofGroups? (front ++ List.replicate (8 - front.length - back.length) 0 ++ back) := by
  have readFront : readGroups true 8 (joinGroups front ++ ':' :: ':' :: joinGroups back) =
      ⟨front, false, ':' :: ':' :: joinGroups back⟩ :=
    readGroups_joinGroups (.left _) (by omega)
  have readBack : readGroups true (7 - front.length) (joinGroups back) = ⟨back, false, []⟩ := by
    have read : readGroups true (7 - front.length) (joinGroups back ++ []) = ⟨back, false, []⟩ :=
      readGroups_joinGroups .done (by omega)
    rwa [List.append_nil] at read
  have unfilled : ¬front.length = 8 := by omega
  simp only [ofChars?, readFront, if_neg unfilled, readBack, Bool.false_eq_true, if_false, if_true]

theorem readGroups_dotted (address : Ipv4Address) (room : limit ≠ 0) :
    readGroups false (limit + 1) (':' :: address.chars) = ⟨dottedGroups address, true, []⟩ := by
  simp [readGroups, room, expect?, address.readText?_chars_nil]

/-- The dotted form of the IPv4-mapped addresses is read back. -/
theorem ofChars?_mapped (low : Ipv4Address) :
    ofChars? ("::ffff:".toList ++ low.chars) = some ⟨mappedNetwork, low⟩ := by
  have spelled : "::ffff:".toList ++ low.chars =
      ':' :: ':' :: 'f' :: 'f' :: 'f' :: 'f' :: ':' :: low.chars := by simp
  have readFront (text : List Char) : readGroups true 8 (':' :: ':' :: text) =
      ⟨[], false, ':' :: ':' :: text⟩ := Halt.readGroups (.left text) true 8
  have next : nextGroup? true ('f' :: 'f' :: 'f' :: 'f' :: ':' :: low.chars) =
      some (groupChars 0xffff ++ ':' :: low.chars) := by
    rw [show groupChars 0xffff = ['f', 'f', 'f', 'f'] by decide +kernel]
    rfl
  have readBack : readGroups true 7 ('f' :: 'f' :: 'f' :: 'f' :: ':' :: low.chars) =
      ⟨0xffff :: dottedGroups low, true, []⟩ := by
    rw [readGroups_group next (beforeColon_cons _), readGroups_dotted low (by decide)]
  rw [spelled]
  simp [ofChars?, readFront, readBack, ofGroups?, dottedGroups, mappedNetwork, List.replicate]

/-- The characters of an address spell it. -/
theorem ofChars?_chars (address : Ipv6Address) : ofChars? address.chars = some address := by
  have eight : address.groups.length = 8 := rfl
  simp only [chars]
  split
  · next mapped => rw [ofChars?_mapped, ← mapped]
  · have zeros := split_longestZeroRun address.groups
    generalize longestZeroRun address.groups = run at zeros ⊢
    obtain ⟨start, length⟩ := run
    dsimp only at zeros ⊢
    split
    · next long =>
        have lengths := congrArg List.length zeros
        rw [eight, List.length_append, List.length_append, List.length_replicate] at lengths
        have omitted : 8 - (address.groups.take start).length -
            (address.groups.drop (start + length)).length = length := by omega
        rw [ofChars?_compressed (by omega), omitted, ← zeros, ofGroups?_groups]
    · rw [ofChars?_joinGroups eight, ofGroups?_groups]

/-- The text of an address spells it. -/
theorem ofString?_text (address : Ipv6Address) : ofString? address.text = some address := by
  rw [ofString?, Ipv6Address.text, String.toList_ofList, ofChars?_chars]

/-! ## What spells an address -/

theorem leaves_of_nextGroup? (next : nextGroup? first text = some rest) : Leaves text rest := by
  cases first with
  | true =>
      cases next
      exact .refl text
  | false => exact leaves_of_expect? (.inr (.inl rfl)) next

theorem leaves_readGroups (first : Bool) (limit : Nat) (text : List Char) :
    Leaves text (readGroups first limit text).rest := by
  induction limit generalizing first text with
  | zero => exact .refl text
  | succ limit ih =>
      simp only [readGroups]
      split
      · next address rest read =>
          split at read
          · cases read
          · obtain ⟨found, next, read⟩ := Option.bind_eq_some_iff.mp read
            exact (leaves_of_nextGroup? next).trans (Ipv4Address.leaves_of_readText? read)
      · split
        · next number rest read =>
            obtain ⟨found, next, read⟩ := Option.bind_eq_some_iff.mp read
            exact ((leaves_of_nextGroup? next).trans (leaves_of_read? (by decide) read)).trans
              (ih false rest)
        · exact .refl text

theorem leaves_of_ofChars? {address : Ipv6Address} (spelled : ofChars? text = some address) :
    Leaves text [] := by
  have front := leaves_readGroups true 8 text
  simp only [ofChars?] at spelled
  split at spelled
  · split at spelled
    · next ended => exact ended ▸ front
    · cases spelled
  · split at spelled
    · cases spelled
    · split at spelled
      · next rest left =>
          split at spelled
          · next ended =>
              rw [left] at front
              refine (front.trans (leaves_cons (.inr (.inl rfl)) _)).trans
                ((leaves_cons (.inr (.inl rfl)) rest).trans ?_)
              exact ended ▸ leaves_readGroups true _ rest
          · cases spelled
      · cases spelled

/-- Only texts of digits, colons and points spell addresses. -/
theorem isAddressChar_of_ofChars? {address : Ipv6Address} (spelled : ofChars? text = some address) :
    ∀ character ∈ text, IsAddressChar character := by
  obtain ⟨taken, rfl, made⟩ := leaves_of_ofChars? spelled
  rwa [List.append_nil]

end Ipv6Address

/-! ## Addresses among tokens -/

/-- Digits and letters stand between `0` and `z`. -/
theorem Numeral.toNat_of_symbolValue? {character : Char} {value : Nat}
    (symbol : symbolValue? character = some value) :
    48 ≤ character.toNat ∧ character.toNat ≤ 122 := by
  have order {left right : Char} (le : left ≤ right) : left.toNat ≤ right.toNat :=
    UInt32.le_iff_toNat_le.mp (Char.le_def.mp le)
  simp only [symbolValue?] at symbol
  split at symbol
  · next range => exact ⟨order range.1, (order range.2).trans (by decide)⟩
  · split at symbol
    · next range => exact ⟨.trans (by decide) (order range.1), order range.2⟩
    · split at symbol
      · next range => exact ⟨.trans (by decide) (order range.1), (order range.2).trans (by decide)⟩
      · cases symbol

theorem Numeral.isBlank_of_symbolValue? {character : Char} {value : Nat}
    (symbol : symbolValue? character = some value) : Text.isBlank character = false := by
  have bounds := toNat_of_symbolValue? symbol
  simp only [Text.isBlank, Text.blankRanges, List.any_eq_false, Bool.and_eq_true,
    decide_eq_true_eq, List.mem_cons, List.not_mem_nil, or_false]
  rintro ⟨first, last⟩ range
  simp only [Prod.mk.injEq] at range
  omega

theorem IsAddressChar.isBlank {character : Char} (spelled : IsAddressChar character) :
    Text.isBlank character = false := by
  rcases spelled with digit | rfl | rfl
  · obtain ⟨value, read⟩ := Option.isSome_iff_exists.mp digit
    exact isBlank_of_symbolValue? (Option.filter_eq_some_iff.mp read).1
  · decide
  · decide

theorem Ipv4Address.isToken_text (address : Ipv4Address) : Text.IsToken address.text.toList := by
  have read := address.readText?_chars_nil
  obtain ⟨taken, cut, made⟩ := leaves_of_readText? read
  rw [List.append_nil] at cut
  rw [Ipv4Address.text, String.toList_ofList]
  refine ⟨fun none => ?_, fun character member => (made character (cut ▸ member)).isBlank⟩
  rw [none] at read
  cases read

theorem Ipv6Address.isToken_text (address : Ipv6Address) : Text.IsToken address.text.toList := by
  have spelled := address.ofChars?_chars
  rw [Ipv6Address.text, String.toList_ofList]
  refine ⟨fun none => ?_, fun character member => ?_⟩
  · rw [none] at spelled
    cases spelled
  · exact (isAddressChar_of_ofChars? spelled character member).isBlank

/-- A text with a slash in it spells no address. -/
theorem Ipv6Address.ofString?_of_mem_slash {text : String} (slash : '/' ∈ text.toList) :
    ofString? text = none := by
  refine Option.eq_none_iff_forall_ne_some.mpr fun address spelled => ?_
  rcases isAddressChar_of_ofChars? spelled '/' slash with digit | colon | point
  · exact absurd digit (by decide)
  · exact absurd colon (by decide)
  · exact absurd point (by decide)

end FamilyGateway
