/-!
# Arguments

An argument of the command line is taken apart by its leading hyphens before anyone
asks what it means: two hyphens and a name, perhaps with a value behind an equals
sign; one hyphen and a run of letters; two hyphens alone, after which nothing is an
option; and anything else, which a single hyphen belongs to.
-/

set_option autoImplicit false

namespace FamilyGateway.CommandLine

/-- An argument taken apart by its leading hyphens. -/
inductive Argument where
  /-- A name behind two hyphens, and the value behind its first equals sign, if there is one. -/
  | long (name : String) (value : Option String)
  /-- The letters behind one hyphen. -/
  | short (letters : List Char)
  /-- Two hyphens alone. -/
  | separator
  | plain (text : String)
  deriving DecidableEq, Repr

namespace Argument

/-- A name with or without a value, cut at the first equals sign. -/
def ofLong (characters : List Char) : Argument :=
  let name := String.ofList (characters.takeWhile (· ≠ '='))
  match characters.dropWhile (· ≠ '=') with
  | [] => .long name none
  | _ :: value => .long name (some (String.ofList value))

/-- Takes an argument apart. -/
def ofString (text : String) : Argument :=
  match text.toList with
  | ['-', '-'] => .separator
  | '-' :: '-' :: characters => ofLong characters
  | ['-'] => .plain text
  | '-' :: letters => .short letters
  | _ => .plain text

/-- The value of an option that stands in the argument after it. Only arguments that could not be
options are taken as values. -/
def asValue? (text : String) : Option String :=
  match ofString text with
  | .plain value => some value
  | _ => none

/-- The value that follows an option letter in the same argument. An equals sign in front of it does
not belong to it. -/
def attachedValue? : List Char → Option String
  | [] => none
  | '=' :: value => some (String.ofList value)
  | value => some (String.ofList value)

end Argument

end FamilyGateway.CommandLine
