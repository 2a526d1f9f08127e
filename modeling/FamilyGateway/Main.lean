import FamilyGateway.CommandLine.Report

/-!
# The program

This is the outermost layer: it takes the arguments, reads the configuration file and
the files that it includes, and prints the report. What to do and what to say is
decided elsewhere; here a snapshot of the files that can matter is taken beforehand.
Attaching to a tun interface needs a system call that is not available here, so serving
packets ends with the report that it is not.
-/

set_option autoImplicit false

namespace FamilyGateway.CommandLine

/-- The error with the given number. Some calls report the number with its sign turned. -/
def systemError (number : UInt32) : FileError :=
  .system ⟨if number < 0x80000000 then number.toNat else (0 - number).toNat⟩

/-- The cause that an error of the file system stands for. -/
def fileError : IO.Error → FileError
  | .noFileOrDirectory _ number _ => systemError number
  | .noSuchThing _ number _ => systemError number
  | .permissionDenied _ number _ => systemError number
  | .inappropriateType _ number _ => systemError number
  | .invalidArgument _ number _ => systemError number
  | .resourceExhausted _ number _ => systemError number
  | .resourceBusy number _ => systemError number
  | .interrupted _ number _ => systemError number
  | .hardwareFault number _ => systemError number
  | .otherError number _ => systemError number
  | _ => systemError 5

/-- The paths read so far, each with what reading it gave. -/
abbrev Snapshot := List (String × Except FileError String)

/-- A snapshot as a function of the path. -/
def Snapshot.reader (snapshot : Snapshot) : FileReader := fun path =>
  match snapshot.lookup path with
  | some result => result
  | none => .error (.system .notFound)

/-- Reads a file as text. -/
def readText (path : String) : IO (Except FileError String) := do
  if path.toList.contains '\x00' then return .error .nulInPath
  try
    let content ← IO.FS.readBinFile path
    match Text.Utf8.text? content.toList with
    | some text => return .ok text
    | none => return .error .notText
  catch error => return .error (fileError error)

/-- The paths that a file includes. -/
def includedPaths (path : String) : Except FileError String → List String
  | .ok text => (Directive.parse (some path) text).filterMap fun directive =>
      match directive.kind with
      | .includeFile included => some included
      | _ => none
  | .error _ => []

/-- Reads files and what they include, down the given number of levels. No file is read twice. -/
def Snapshot.extend : Nat → Snapshot → List String → IO Snapshot
  | 0, snapshot, _ => return snapshot
  | levels + 1, snapshot, paths => do
    let fresh := paths.eraseDups.filter fun path => (snapshot.lookup path).isNone
    let results ← fresh.mapM fun path => return (path, ← readText path)
    let included := results.flatMap fun (path, result) => includedPaths path result
    Snapshot.extend levels (snapshot ++ results) included

/-- The configuration file that a command line names, if it names one. -/
def configOf (arguments : List String) : List String :=
  match Request.ofArguments arguments with
  | .ok (.check config) => [config]
  | _ => []

/-- Prints a report and returns its code. -/
def Report.print (report : Report) : IO UInt32 := do
  (← IO.getStdout).putStr report.output
  (← IO.getStderr).putStr report.errors
  return report.code.toUInt32

/-- Runs the program on its arguments. -/
def execute (arguments : List String) : IO UInt32 := do
  let snapshot ← Snapshot.extend (includeDepthLimit + 1) [] (configOf arguments)
  match conclude snapshot.reader arguments with
  | .report report => report.print
  | .attach _ options =>
    (Report.openFailure options.tunName (.system .notSupported)).print

end FamilyGateway.CommandLine

/-- Runs the program and returns its exit code. -/
def main (arguments : List String) : IO UInt32 := FamilyGateway.CommandLine.execute arguments
