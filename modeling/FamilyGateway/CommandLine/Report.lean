import FamilyGateway.CommandLine.Help
import FamilyGateway.Mapping.Load
import FamilyGateway.Mapping.Render
import FamilyGateway.Tun.Device

/-!
# How the program ends

A run of the program ends in a report: an exit code and what is written to the two
outputs. Only serving packets does not end at once; there the conclusion is the request
to attach to an interface.
-/

set_option autoImplicit false

namespace FamilyGateway.CommandLine

/-! ## Reports -/

/-- How the program ends. -/
structure Report where
  code : UInt8
  output : String
  errors : String
  deriving DecidableEq, Repr

namespace Report

/-- The program did what it was asked for, and writes a text. -/
def success (output : String) : Report := ⟨0, output, ""⟩

/-- What people are shown about an error and what caused it. -/
def errorText (message : String) (cause : Option String) : String :=
  match cause with
  | some cause => s!"Error: {message}\n\nCaused by:\n    {cause}\n"
  | none => s!"Error: {message}\n"

/-- The program failed. -/
def failure (message : String) (cause : Option String) : Report :=
  ⟨1, "", errorText message cause⟩

/-- The program does not understand what it is asked for. -/
def misuse : Report :=
  ⟨2, "", s!"error: invalid arguments\n\nFor more information, try '--{helpName}'.\n"⟩

/-- The interface could not be opened. -/
def openFailure (name : String) (error : OpenError) : Report :=
  failure s!"cannot open tun device {name}" (some error.message)

end Report

/-! ## Conclusions -/

/-- The report on a configuration: its table, or why it cannot be loaded. -/
def checkReport (files : FileReader) (config : String) : Report :=
  match Directive.ofFile files config with
  | .error error => .failure error.message (some error.cause.message)
  | .ok directives =>
    let outcome := MappingTable.load files .empty directives
    match outcome.failure with
    | some error => .failure error.message none
    | none => .success outcome.table.render

/-- What a command line comes to. -/
inductive Conclusion where
  | report (report : Report)
  /-- Packets are to be served on an interface. -/
  | attach (request : InterfaceRequest) (options : RunOptions)
  deriving DecidableEq, Repr

/-- What a request comes to. -/
def Request.conclude (files : FileReader) : Request → Conclusion
  | .help topic => .report (.success topic.text)
  | .version => .report (.success versionText)
  | .check config => .report (checkReport files config)
  | .run options =>
    match InterfaceRequest.ofName options.tunName with
    | .ok request => .attach request options
    | .error error => .report (.openFailure options.tunName error)

/-- What a command line comes to. -/
def conclude (files : FileReader) (arguments : List String) : Conclusion :=
  match Request.ofArguments arguments with
  | .ok request => request.conclude files
  | .error .misuse => .report .misuse

end FamilyGateway.CommandLine
