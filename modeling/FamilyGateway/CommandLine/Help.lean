import FamilyGateway.CommandLine.Request

/-!
# Help

The texts that people are shown who ask for help, one for each topic.
-/

set_option autoImplicit false

namespace FamilyGateway.CommandLine

/-- The name of the program. -/
def programName : String := "map646"

/-- The version of the program. -/
def programVersion : String := "0.1.0"

/-- The program and its version. -/
def versionText : String := s!"{programName} {programVersion}\n"

/-- Several lines, each with its line end. -/
def paragraph (lines : List String) : String := String.join (lines.map (· ++ "\n"))

/-- A value that holds when none is given, as help shows it. -/
def defaultText (value : String) : String := s!"[default: {value}]"

/-- The help on a topic. -/
def Topic.text : Topic → String
  | program => paragraph
      ["Stateless IPv4/IPv6 address translator",
        "",
        s!"Usage: {programName} <COMMAND>",
        "",
        "Commands:",
        "  run      Translate packets on a tun interface",
        "  check    Load a configuration and print the mapping table",
        "  version  Show version information",
        "  help     Print this message or the help of the given subcommand(s)",
        "",
        "Options:",
        "  -h, --help     Print help",
        "  -V, --version  Print version"]
  | run => paragraph
      ["Translate packets on a tun interface",
        "",
        s!"Usage: {programName} run [OPTIONS]",
        "",
        "Options:",
        "  -c, --config <CONFIG>                Path to the mapping configuration " ++
          defaultText defaultConfig,
        "      --tun-name <TUN_NAME>            " ++
          s!"Name of the tun interface to create or attach to {defaultText defaultTunName}",
        "      --pmtu-capacity <PMTU_CAPACITY>  " ++
          s!"Maximum number of Path-MTU cache entries (at least {minCapacity}) " ++
          defaultText (toString PathMtu.defaultMaxEntries),
        "  -h, --help                           Print help"]
  | check => paragraph
      ["Load a configuration and print the mapping table",
        "",
        s!"Usage: {programName} check [OPTIONS]",
        "",
        "Options:",
        s!"  -c, --config <CONFIG>  Path to the mapping configuration {defaultText defaultConfig}",
        "  -h, --help             Print help"]
  | version => paragraph
      ["Show version information",
        "",
        s!"Usage: {programName} version",
        "",
        "Options:",
        "  -h, --help  Print help"]
  | help => paragraph
      ["Print this message or the help of the given subcommand(s)",
        "",
        s!"Usage: {programName} help [COMMAND]...",
        "",
        "Arguments:",
        "  [COMMAND]...  Print help for the subcommand(s)"]

end FamilyGateway.CommandLine
