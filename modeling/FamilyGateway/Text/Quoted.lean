import FamilyGateway.Text.Graphic
import FamilyGateway.Text.Numeral

/-!
# Quoted text

A text is quoted so that it can be told apart from the words around it: it stands
between double quotes, the quote and the backslash are escaped by a backslash, four
control characters have names, and every other character that is not shown as itself
is written as its code point in hexadecimal.
-/

set_option autoImplicit false

namespace FamilyGateway.Text

/-- A character as its code point between braces. -/
def codePointEscape (character : Char) : List Char :=
  ['\\', 'u', '\x7b'] ++ Numeral.digits 16 character.toNat ++ ['\x7d']

/-- A character inside a quoted text. -/
def quotedChar (character : Char) : List Char :=
  match character with
  | '\x00' => ['\\', '0']
  | '\t' => ['\\', 't']
  | '\r' => ['\\', 'r']
  | '\n' => ['\\', 'n']
  | '\\' => ['\\', '\\']
  | '"' => ['\\', '"']
  | other => if isGraphic other then [other] else codePointEscape other

/-- A text between quotes. -/
def quoted (text : String) : String :=
  String.ofList (['"'] ++ text.toList.flatMap quotedChar ++ ['"'])

end FamilyGateway.Text
