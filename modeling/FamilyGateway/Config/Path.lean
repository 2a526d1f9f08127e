/-!
# Paths

A path is a text in which slashes separate components. Repeated slashes, slashes at
the end and components `.` inside a path do not count as components, and the path is
printed as it was written, so nothing here normalises one.

What the configuration needs of paths is the directory that a file is in
(`directory?`) and a path seen from a directory (`resolve`).
-/

set_option autoImplicit false

namespace FamilyGateway.Path

/-- Whether a path starts at the root of the file system. -/
def isAbsolute (path : List Char) : Bool := path.head? = some '/'

/-- Cuts a path into what stands before its first component, which is the leading slash or a
leading `.`, and the rest. -/
def splitLead : List Char → List Char × List Char
  | '/' :: body => (['/'], body)
  | ['.'] => (['.'], [])
  | '.' :: '/' :: body => (['.'], '/' :: body)
  | path => ([], path)

/-- Whether a stretch between slashes is skipped. -/
def isSkipped (segment : List Char) : Bool := segment = [] || segment = ['.']

/-- A path without its last component, as the path was written up to there. The root and the empty
path are in no directory, and the path `.` is in the empty one. -/
def directory? (path : List Char) : Option (List Char) :=
  let (lead, body) := splitLead path
  match (body.splitOn '/').reverse.dropWhile isSkipped with
  | _ :: before => some (lead ++ ['/'].intercalate (before.dropWhile isSkipped).reverse)
  | [] => if lead = ['.'] then some [] else none

/-- A path as seen from a directory: absolute paths stay as they are, others are put behind the
directory, with a slash in between unless the directory is empty or ends in one. -/
def resolve (directory path : List Char) : List Char :=
  if isAbsolute path then path
  else if directory = [] ∨ directory.getLast? = some '/' then directory ++ path
  else directory ++ '/' :: path

end FamilyGateway.Path
