import PlanGuard.Cli.Arguments

/-!
# Help

The texts that the program shows about itself.
-/

namespace PlanGuard.Cli

def versionText : String := "wrtpilot 0.1.4\n"

def ofLines (lines : List String) : String :=
  String.join (lines.map (· ++ "\n"))

def configLine : String :=
  "      --config <FILE>  Extra configuration file layered over the defaults"

def helpLine : String := "  -h, --help           Print help"

def planLines : List String :=
  ["Arguments:", "  <PLAN>  Plan JSON file (\x60-\x60 for stdin)", ""]

def Topic.lines : Topic → List String
  | .program =>
      ["Validate and run LLM-planned router commands",
        "",
        "Usage: wrtpilot [OPTIONS] <COMMAND>",
        "",
        "Commands:",
        "  check  Validate a plan against the command policy",
        "  run    Validate and execute a plan",
        "  help   Print this message or the help of the given subcommand(s)",
        "",
        "Options:",
        configLine,
        helpLine,
        "  -V, --version        Print version"]
  | .check =>
      ["Validate a plan against the command policy",
        "",
        "Usage: wrtpilot check [OPTIONS] <PLAN>",
        ""] ++ planLines ++ ["Options:", configLine, helpLine]
  | .run =>
      ["Validate and execute a plan",
        "",
        "Usage: wrtpilot run [OPTIONS] <PLAN>",
        ""] ++ planLines ++
      ["Options:",
        configLine,
        "      --sandbox        " ++
          "Execute through the sandbox (scratch dir, process group, limits)",
        "  -q, --quiet          Do not stream command output while running",
        "      --json           Print the full results as JSON",
        "      --fixes <FILE>   " ++
          "Fix table used for auto-retry (JSON map of command line to plan)",
        helpLine]
  | .help =>
      ["Print this message or the help of the given subcommand(s)",
        "",
        "Usage: wrtpilot help [COMMAND]...",
        "",
        "Arguments:",
        "  [COMMAND]...  Print help for the subcommand(s)"]

def helpText (topic : Topic) : String :=
  ofLines topic.lines

end PlanGuard.Cli
