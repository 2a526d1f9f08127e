import FamilyGateway.CommandLine.Argument
import FamilyGateway.PathMtu
import FamilyGateway.Text.Numeral

/-!
# What a command line asks for

The first argument names a command, and the arguments after it are the options of that
command. Arguments are read from left to right, so a question for help counts if no
mistake stands in front of it. No option may be given twice.
-/

set_option autoImplicit false

namespace FamilyGateway.CommandLine

/-! ## Requests -/

/-- What help can be about. -/
inductive Topic where
  /-- The program as a whole. -/
  | program
  | run
  | check
  | version
  | help
  deriving DecidableEq, Repr

/-- The options of the command that serves packets. -/
structure RunOptions where
  config : String
  tunName : String
  /-- Greatest number of entries of the path MTU cache. -/
  capacity : Nat
  deriving DecidableEq, Repr

/-- What a command line asks for. -/
inductive Request where
  | help (topic : Topic)
  | version
  /-- Show the table of a configuration. -/
  | check (config : String)
  /-- Serve packets. -/
  | run (options : RunOptions)
  deriving DecidableEq, Repr

/-- The configuration that is loaded when none is named. -/
def defaultConfig : String := "/etc/map646.conf"

/-- The interface that is served when none is named. -/
def defaultTunName : String := "tun646"

/-! ## Options -/

/-- An option with a value. -/
inductive OptionName where
  | config
  | tunName
  | capacity
  deriving DecidableEq, Repr

namespace OptionName

/-- The name of an option behind two hyphens. -/
def long : OptionName → String
  | config => "config"
  | tunName => "tun-name"
  | capacity => "pmtu-capacity"

/-- The letter of an option behind one hyphen, if it has one. -/
def short? : OptionName → Option Char
  | config => some 'c'
  | tunName => none
  | capacity => none

end OptionName

/-- The letter that asks for help. -/
def helpLetter : Char := 'h'

/-- The name that asks for help. -/
def helpName : String := "help"

/-- The options given so far. -/
structure Settings where
  config : Option String
  tunName : Option String
  capacity : Option Nat
  deriving DecidableEq, Repr

/-- No options. -/
def Settings.none : Settings := ⟨.none, .none, .none⟩

/-- Greatest capacity that can be given. -/
def maxCapacity : Nat := UInt64.size - 1

/-- Least capacity that can be given. -/
def minCapacity : Nat := 2

/-- The capacity that a text spells: decimal digits, perhaps behind a plus sign, within the
limits. -/
def capacity? (text : String) : Option Nat :=
  let digits := match text.toList with
    | '+' :: digits => digits
    | digits => digits
  let value := Numeral.value 10 digits
  if digits ≠ [] ∧ digits.all (Numeral.isDigit 10) ∧ minCapacity ≤ value ∧ value ≤ maxCapacity then
    some value
  else none

/-- The settings with one more option, unless it was given before or its value is no good. -/
def Settings.set? (settings : Settings) (name : OptionName) (value : String) : Option Settings :=
  match name with
  | .config =>
    if settings.config.isSome ∨ value = "" then .none
    else some { settings with config := some value }
  | .tunName =>
    if settings.tunName.isSome then .none else some { settings with tunName := some value }
  | .capacity =>
    if settings.capacity.isSome then .none
    else (capacity? value).map fun capacity => { settings with capacity := some capacity }

/-- Why the options of a command are not read to their end. -/
inductive Stop where
  | help
  | misuse
  deriving DecidableEq, Repr

/-- What an argument says to a command that accepts some options. -/
inductive Saying where
  /-- An option with its value. -/
  | setting (name : OptionName) (value : String)
  /-- An option whose value is to come. -/
  | announcement (name : OptionName)
  | stop (stop : Stop)
  /-- No option follows. -/
  | separator
  deriving DecidableEq, Repr

/-- What an argument says to a command that accepts some options. -/
def Saying.ofArgument (accepted : List OptionName) : Argument → Saying
  | .separator => .separator
  | .plain _ => .stop .misuse
  | .long name value =>
    match accepted.find? (fun option => option.long = name), value with
    | some option, some value => .setting option value
    | some option, .none => .announcement option
    | .none, some _ => .stop .misuse
    | .none, .none => .stop (if name = helpName then .help else .misuse)
  | .short [] => .stop .misuse
  | .short (letter :: letters) =>
    match accepted.find? fun option => option.short? = some letter with
    | some option =>
      match Argument.attachedValue? letters with
      | some value => .setting option value
      | .none => .announcement option
    | .none => .stop (if letter = helpLetter then .help else .misuse)

/-- Reads the options of a command. -/
def readOptions (accepted : List OptionName) (settings : Settings) :
    List String → Except Stop Settings
  | [] => .ok settings
  | argument :: rest =>
    match Saying.ofArgument accepted (.ofString argument) with
    | .stop stop => .error stop
    | .separator => if rest = [] then .ok settings else .error .misuse
    | .setting name value =>
      match settings.set? name value with
      | some settings => readOptions accepted settings rest
      | .none => .error .misuse
    | .announcement name =>
      match rest with
      | [] => .error .misuse
      | value :: rest =>
        match (Argument.asValue? value).bind (settings.set? name) with
        | some settings => readOptions accepted settings rest
        | .none => .error .misuse

/-! ## Commands -/

/-- The command line is none that the program understands. -/
inductive Misuse where
  | misuse
  deriving DecidableEq, Repr

/-- The request made by a command with some options, or for help on the command. -/
def request (topic : Topic) (accepted : List OptionName) (make : Settings → Request)
    (arguments : List String) : Except Misuse Request :=
  match readOptions accepted .none arguments with
  | .ok settings => .ok (make settings)
  | .error .help => .ok (.help topic)
  | .error .misuse => .error .misuse

/-- The request to serve packets. -/
def Settings.run (settings : Settings) : Request :=
  .run
    { config := settings.config.getD defaultConfig
      tunName := settings.tunName.getD defaultTunName
      capacity := settings.capacity.getD PathMtu.defaultMaxEntries }

/-- The request to show a table. -/
def Settings.check (settings : Settings) : Request :=
  .check (settings.config.getD defaultConfig)

/-- The topic that some words name. -/
def Topic.ofWords : List String → Except Misuse Topic
  | [] => .ok .program
  | ["run"] => .ok .run
  | ["check"] => .ok .check
  | ["version"] => .ok .version
  | ["help"] => .ok .help
  | _ => .error .misuse

/-- The request made by a named command with its arguments. -/
def Request.ofCommand (name : String) (arguments : List String) : Except Misuse Request :=
  match name with
  | "run" => request .run [.config, .tunName, .capacity] Settings.run arguments
  | "check" => request .check [.config] Settings.check arguments
  | "version" => request .version [] (fun _ => .version) arguments
  | "help" => (Topic.ofWords arguments).map .help
  | _ => .error .misuse

/-- The request made by a whole command line. -/
def Request.ofArguments : List String → Except Misuse Request
  | [] => .error .misuse
  | first :: rest =>
    match Argument.ofString first with
    | .plain name => Request.ofCommand name rest
    | .long "help" none => .ok (.help .program)
    | .long "version" none => .ok .version
    | .short ('h' :: _) => .ok (.help .program)
    | .short ('V' :: _) => .ok .version
    | _ => .error .misuse

end FamilyGateway.CommandLine
