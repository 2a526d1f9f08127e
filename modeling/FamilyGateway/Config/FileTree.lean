import FamilyGateway.SystemError
import FamilyGateway.Text.Utf8

/-!
# Files

Loading a configuration only needs to know, for each path, the text of the file or
why it cannot be read. A `FileReader` is such a snapshot.

`FileTree` gives one: files and directories, each at its place below the root, found by
walking a path component by component. Every component but the last must lead to a
directory, and `..` leads to the directory above, the root being above itself. Walks
start at the root or at the working directory, which has no name of its own. Of what
stands outside the working directory only that is known which every host has, and what
was written there. Writing walks the same way, and makes the directories that are
missing along the path, those included that `..` leaves again.
-/

set_option autoImplicit false

namespace FamilyGateway

/-- Why a file cannot be read as text. -/
inductive FileError where
  | system (error : SystemError)
  /-- The bytes of the file are not well-formed text. -/
  | notText
  /-- The path contains a character that no path can contain. -/
  | nulInPath
  deriving DecidableEq, Repr

/-- What people are shown about a file that cannot be read. -/
def FileError.message : FileError → String
  | system error => error.message
  | notText => "stream did not contain valid UTF-8"
  | nulInPath => "file name contained an unexpected NUL byte"

/-- A snapshot of the file system: what reading each path gives. -/
abbrev FileReader := String → Except FileError String

/-- What a name stands for. -/
inductive FileNode where
  | file (content : Bytes)
  | directory
  /-- A device that reads as an empty file, whatever is written to it. -/
  | nullDevice
  deriving DecidableEq, Repr

/-- A place that a path can lead to: the names that lead there from the root. -/
structure Place where
  names : List String
  deriving DecidableEq, Repr

namespace Place

/-- The directory that everything is below. -/
def root : Place := ⟨[]⟩

/-- The place of a name in a directory. -/
def child (place : Place) (name : String) : Place := ⟨place.names ++ [name]⟩

/-- The directory that a place is in. The root is in itself. -/
def parent (place : Place) : Place := ⟨place.names.dropLast⟩

/-- The working directory, one of the directories for temporary files. No component of a path
is its name. -/
def workingDirectory : Place := (root.child "tmp").child ""

/-- Whether a place is another one or below it. -/
def isWithin (place directory : Place) : Bool := directory.names.isPrefixOf place.names

end Place

/-- Files and directories, each at its place. -/
structure FileTree where
  entries : List (Place × FileNode)
  deriving Repr

namespace FileTree

/-- The directories that every host has, each with those below it. -/
def hostDirectories : List (Place × List String) :=
  [(.root, ["bin", "boot", "dev", "etc", "home", "lib", "media", "mnt", "opt", "proc", "root",
      "run", "sbin", "srv", "sys", "tmp", "usr", "var"]),
    (Place.root.child "usr", ["bin", "lib", "local", "sbin", "share"]),
    (Place.root.child "var", ["cache", "lib", "log", "spool", "tmp"])]

/-- A working directory without entries on a host that has its usual directories and a null
device. -/
def empty : FileTree :=
  ⟨(hostDirectories.flatMap fun (directory, names) =>
      names.map fun name => (directory.child name, .directory)) ++
    [((Place.root.child "dev").child "null", .nullDevice), (.workingDirectory, .directory)]⟩

/-! ## Walking -/

/-- Greatest length of a name in bytes. -/
def maxNameLength : Nat := 255

/-- Greatest length of a path in bytes. -/
def maxPathLength : Nat := 4095

/-- What is found at a place. -/
def node? (tree : FileTree) (place : Place) : Option FileNode :=
  if place.names = [] then some .directory else tree.entries.lookup place

/-- Goes from a place along one component of a path. -/
def step (tree : FileTree) (place : Place) (component : String) : Except SystemError Place :=
  if tree.node? place ≠ some .directory then .error .notDirectory
  else if component = "" ∨ component = "." then .ok place
  else if component = ".." then .ok place.parent
  else if maxNameLength < component.utf8ByteSize then .error .nameTooLong
  else
    let next := place.child component
    if (tree.node? next).isSome then .ok next else .error .notFound

/-- The components of a path, empty ones included. -/
def components (path : String) : List String :=
  (path.toList.splitOn '/').map String.ofList

/-- The place at which a path starts. -/
def start (path : String) : Place :=
  if path.toList.head? = some '/' then .root else .workingDirectory

/-- The place that a path leads to. -/
def find (tree : FileTree) (path : String) : Except SystemError Place :=
  if path = "" then .error .notFound
  else if maxPathLength < path.utf8ByteSize then .error .nameTooLong
  else (components path).foldlM tree.step (start path)

/-! ## Reading -/

/-- The bytes of the file that a path leads to. -/
def read (tree : FileTree) (path : String) : Except FileError Bytes :=
  if path.toList.contains '\x00' then .error .nulInPath
  else
    match tree.find path with
    | .error error => .error (.system error)
    | .ok place =>
      match tree.node? place with
      | some (.file content) => .ok content
      | some .nullDevice => .ok []
      | some .directory => .error (.system .isDirectory)
      | none => .error (.system .notFound)

/-- The snapshot that a tree gives. -/
def reader (tree : FileTree) : FileReader := fun path => do
  let content ← tree.read path
  match Text.Utf8.text? content with
  | some text => .ok text
  | none => .error .notText

/-! ## Writing -/

/-- The tree with a node at a place, instead of what was there. -/
def put (tree : FileTree) (place : Place) (node : FileNode) : FileTree :=
  ⟨tree.entries.filter (fun entry => entry.1 ≠ place) ++ [(place, node)]⟩

/-- Goes along one component of a path, and makes a directory where nothing is found. -/
def stepMaking (state : FileTree × Place) (component : String) :
    Except SystemError (FileTree × Place) :=
  let (tree, place) := state
  match tree.step place component with
  | .ok next => .ok (tree, next)
  | .error error =>
    if error = .notFound then
      .ok (tree.put (place.child component) .directory, place.child component)
    else .error error

/-- The tree with a file under a name in a directory. A directory gives way to no file, and what
is written to the null device is lost. -/
def putFile (tree : FileTree) (directory : Place) (name : String) (content : Bytes) :
    Except SystemError FileTree :=
  match tree.step directory name with
  | .ok place =>
    match tree.node? place with
    | some .directory => .error .isDirectory
    | some .nullDevice => .ok tree
    | _ => .ok (tree.put place (.file content))
  | .error error =>
    if error = .notFound then .ok (tree.put (directory.child name) (.file content))
    else .error error

/-- The tree after a node was written at a path, with the directories that were missing along
the path. No null device can be made. -/
def tryWrite (tree : FileTree) (path : String) : FileNode → Except SystemError FileTree
  | .directory => do
    let (tree, _) ← (components path).foldlM stepMaking (tree, start path)
    return tree
  | .file content => do
    let parts := components path
    let (tree, directory) ← parts.dropLast.foldlM stepMaking (tree, start path)
    tree.putFile directory (parts.getLastD "") content
  | .nullDevice => .error .notPermitted

/-- The tree after a node was written at a path, the same tree if it could not be written. -/
def write (tree : FileTree) (path : String) (node : FileNode) : FileTree :=
  match tree.tryWrite path node with
  | .ok tree => tree
  | .error _ => tree

/-- The tree after the node that a path leads to was removed, with everything below it. -/
def remove (tree : FileTree) (path : String) : FileTree :=
  match tree.find path with
  | .ok place => ⟨tree.entries.filter fun entry => !entry.1.isWithin place⟩
  | .error _ => tree

end FileTree

end FamilyGateway
