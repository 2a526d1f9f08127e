import FamilyGateway.Wire

/-!
# Text in UTF-8

Bytes are decoded into a list that holds, in order, each character read and a gap
for each maximal stretch of bytes that starts like a character and does not complete
one. A text without gaps is well-formed; a text with gaps can still be shown, with a
replacement character in the place of each gap.
-/

set_option autoImplicit false

namespace FamilyGateway.Text.Utf8

/-- What follows a leading byte: how many continuation bytes, the payload bits that the leading
byte carries, and the range that the first continuation byte must lie in. The ranges exclude
overlong forms, surrogates and numbers beyond the last code point. -/
structure Lead where
  continuations : Nat
  bits : Nat
  lowest : Nat
  highest : Nat

/-- The reading of a leading byte, if it can start a character. -/
def lead? (byte : UInt8) : Option Lead :=
  let value := byte.toNat
  if value < 0x80 then some ⟨0, value, 0, 0⟩
  else if value < 0xc2 then none
  else if value < 0xe0 then some ⟨1, value - 0xc0, 0x80, 0xbf⟩
  else if value = 0xe0 then some ⟨2, 0, 0xa0, 0xbf⟩
  else if value = 0xed then some ⟨2, value - 0xe0, 0x80, 0x9f⟩
  else if value < 0xf0 then some ⟨2, value - 0xe0, 0x80, 0xbf⟩
  else if value = 0xf0 then some ⟨3, 0, 0x90, 0xbf⟩
  else if value < 0xf4 then some ⟨3, value - 0xf0, 0x80, 0xbf⟩
  else if value = 0xf4 then some ⟨3, 4, 0x80, 0x8f⟩
  else none

/-- Takes continuation bytes as long as some are due and one is found in range. Returns the
character, if it was completed, and the bytes that follow. -/
def continueWith (bits : Nat) : (due : Nat) → (lowest highest : Nat) → Bytes →
    Option Char × Bytes
  | 0, _, _, bytes => (some (Char.ofNat bits), bytes)
  | _ + 1, _, _, [] => (none, [])
  | due + 1, lowest, highest, byte :: rest =>
    if lowest ≤ byte.toNat ∧ byte.toNat ≤ highest then
      continueWith (bits * 64 + (byte.toNat - 0x80)) due 0x80 0xbf rest
    else
      (none, byte :: rest)

theorem length_continueWith (bits due lowest highest : Nat) (bytes : Bytes) :
    (continueWith bits due lowest highest bytes).2.length ≤ bytes.length := by
  induction due generalizing bits lowest highest bytes with
  | zero => simp [continueWith]
  | succ due ih =>
    cases bytes with
    | nil => simp [continueWith]
    | cons byte rest =>
      unfold continueWith
      split
      · exact Nat.le_succ_of_le (ih _ _ _ _)
      · simp

/-- The characters that some bytes spell, with `none` for each gap. -/
def decode : Bytes → List (Option Char)
  | [] => []
  | byte :: rest =>
    match lead? byte with
    | none => none :: decode rest
    | some lead =>
      let step := continueWith lead.bits lead.continuations lead.lowest lead.highest rest
      step.1 :: decode step.2
termination_by bytes => bytes.length
decreasing_by
  · simp
  · exact Nat.lt_succ_of_le (length_continueWith _ _ _ _ _)

/-- The text that some bytes spell, if they are well-formed. -/
def text? (bytes : Bytes) : Option String :=
  ((decode bytes).mapM id).map String.ofList

/-- The text that some bytes spell, with a replacement character for each gap. -/
def lossyText (bytes : Bytes) : String :=
  String.ofList ((decode bytes).map fun character => character.getD '\ufffd')

end FamilyGateway.Text.Utf8
