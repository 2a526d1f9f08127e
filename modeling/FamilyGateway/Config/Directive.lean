import FamilyGateway.Config.FileTree
import FamilyGateway.Config.Path
import FamilyGateway.Text.Blank

/-!
# Configuration directives

A configuration is read line by line. A line that is blank or whose first token
starts with `#` says nothing; every other line holds a keyword and its operands.
Operands stay text here, because a bad address makes one line useless and not the
whole configuration. Only the path of an included file is resolved at once, against
the directory of the file that includes it.
-/

set_option autoImplicit false

namespace FamilyGateway

/-- What a configuration line says. -/
inductive DirectiveKind where
  /-- An IPv4 address and the IPv6 address it stands for. -/
  | mapStatic (ipv4 ipv6 : String)
  /-- An internal IPv6 address and the global one it is known by. -/
  | map66Static (inner outer : String)
  /-- The network under which IPv4 addresses appear in IPv6. -/
  | mappingPrefix (address : String)
  /-- A file whose lines take the place of this one. -/
  | includeFile (path : String)
  /-- A known keyword with the wrong number of operands. -/
  | malformed (keyword : String) (expected : Nat)
  /-- Any other keyword. -/
  | unknown (keyword : String)
  deriving DecidableEq, Repr

/-- A configuration line that says something. -/
structure Directive where
  /-- The file that holds the line, if it comes from one. -/
  file : Option String
  /-- Line number, counted from one. -/
  line : Nat
  kind : DirectiveKind
  deriving DecidableEq, Repr

/-- Where a directive stands, as messages name it. -/
def Directive.location (directive : Directive) : String :=
  match directive.file with
  | some file => s!"{file}:{directive.line}"
  | none => s!"line {directive.line}"

/-- The path of a file that could not be read, and why. -/
structure ReadError where
  path : String
  cause : FileError
  deriving DecidableEq, Repr

/-- What people are shown about a configuration file that cannot be read. -/
def ReadError.message (error : ReadError) : String :=
  s!"cannot read configuration file {error.path}: {error.cause.message}"

namespace Directive

/-- The path of an included file as seen from the directory of the including one. -/
def includedPath (directory : Option (List Char)) (path : List Char) : String :=
  String.ofList <| match directory with
    | some directory => Path.resolve directory path
    | none => path

/-- What a keyword and its operands say, in a file of the given directory. -/
def interpret (directory : Option (List Char)) (keyword : List Char)
    (operands : List (List Char)) : DirectiveKind :=
  let keyword := String.ofList keyword
  match keyword, operands with
  | "map-static", [ipv4, ipv6] => .mapStatic (String.ofList ipv4) (String.ofList ipv6)
  | "map66-static", [inner, outer] => .map66Static (String.ofList inner) (String.ofList outer)
  | "mapping-prefix", [address] => .mappingPrefix (String.ofList address)
  | "include", [path] => .includeFile (includedPath directory path)
  | "map-static", _ => .malformed keyword 2
  | "map66-static", _ => .malformed keyword 2
  | "mapping-prefix", _ => .malformed keyword 1
  | "include", _ => .malformed keyword 1
  | _, _ => .unknown keyword

/-- What the tokens of a line say: nothing if there are none or the first one starts with `#`. -/
def ofTokens? (directory : Option (List Char)) : List (List Char) → Option DirectiveKind
  | [] => none
  | keyword :: operands =>
    if keyword.head? = some '#' then none else some (interpret directory keyword operands)

/-- The directives of a text. `file` is the path that the text was read from. -/
def parse (file : Option String) (text : String) : List Directive :=
  let directory := file.bind fun path => Path.directory? path.toList
  ((Text.lines text.toList).zipIdx 1).filterMap fun (line, number) =>
    (ofTokens? directory (Text.tokens line)).map fun kind => ⟨file, number, kind⟩

/-- The directives of a file. -/
def ofFile (files : FileReader) (path : String) : Except ReadError (List Directive) :=
  match files path with
  | .ok text => .ok (parse (some path) text)
  | .error cause => .error ⟨path, cause⟩

end Directive

end FamilyGateway
