/-!
# Blanks, tokens and lines

Blanks are the characters with the Unicode property White_Space. They separate the
tokens of a line and are cut from both ends of a message. The line feed is one of
them, and so is the carriage return, which is why a line end of two characters needs
no rule of its own.
-/

set_option autoImplicit false

namespace FamilyGateway.Text

/-- First and last code point of each range of blanks. -/
def blankRanges : List (Nat × Nat) :=
  [(0x9, 0xd), (0x20, 0x20), (0x85, 0x85), (0xa0, 0xa0), (0x1680, 0x1680), (0x2000, 0x200a),
    (0x2028, 0x2029), (0x202f, 0x202f), (0x205f, 0x205f), (0x3000, 0x3000)]

/-- Whether a character has the property White_Space. -/
def isBlank (character : Char) : Bool :=
  blankRanges.any fun (first, last) => first ≤ character.toNat && character.toNat ≤ last

/-- The maximal runs of characters that are not blank. -/
def tokens (line : List Char) : List (List Char) :=
  (line.splitOnP isBlank).filter fun token => !token.isEmpty

/-- The parts of a text between its line feeds. -/
def lines (text : List Char) : List (List Char) := text.splitOn '\n'

/-- A text without the blanks at its ends. -/
def trim (text : List Char) : List Char :=
  ((text.dropWhile isBlank).reverse.dropWhile isBlank).reverse

end FamilyGateway.Text
