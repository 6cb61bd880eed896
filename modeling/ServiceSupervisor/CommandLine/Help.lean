import ServiceSupervisor.CommandLine.Invocation

/-!
  CommandLine/Help.lean --- what the program says about itself.

  A help text has the purpose, the usage, and lists of what can be given, with the
  explanations below each other.
-/

set_option autoImplicit false

namespace ServiceSupervisor.CommandLine

/-- The name the program is called by. -/
def programName : String := "svcrestarter"

/-- What is printed when the version is asked for. -/
def versionText : String := "svc-restarter 0.1.0"

/-- Lines of names with explanations, the explanations below each other. -/
def columns (rows : List (String × String)) : String :=
  let width := (rows.map (·.1.length)).foldl max 0
  String.join (rows.map fun r =>
    "  " ++ r.1 ++ String.ofList (List.replicate (width - r.1.length + 2) ' ') ++ r.2 ++ "\n")

/-- The row for the command that explains the others. -/
def helpCommand : String × String :=
  ("help", "Print this message or the help of the given subcommand(s)")

/-- The row for the option that names a settings file. -/
def configOption : String × String :=
  ("-c, --config <CONFIG>",
    "Read monitoring configuration from this TOML file instead of the platform default")

/-- The row for the option that asks for help. -/
def helpOption : String × String := ("-h, --help", "Print help")

/-- The row for the option that asks for the version. -/
def versionOption : String × String := ("-V, --version", "Print version")

/-- The line that shows how to call the program. -/
def usage (rest : String) : String := "Usage: " ++ programName ++ " " ++ rest ++ "\n"

/-- The commands with their purposes. -/
def commandRows : List (String × String) :=
  Command.all.map (fun c => (c.name, c.about)) ++ [helpCommand]

/-- The help about a topic. -/
def Topic.text : Topic → String
  | .program =>
    "Keeps a configured set of OS services running\n\n" ++ usage "[OPTIONS] [COMMAND]" ++
      "\nCommands:\n" ++ columns commandRows ++
      "\nOptions:\n" ++ columns [configOption, helpOption, versionOption]
  | .command c =>
    c.about ++ "\n\n" ++ usage (c.name ++ " [OPTIONS] [NAME]") ++
      "\nArguments:\n" ++ columns [("[NAME]", "")] ++
      "\nOptions:\n" ++ columns [configOption, helpOption]
  | .help => helpCommand.2 ++ "\n\n" ++ usage "help [COMMAND]..." ++
      "\nArguments:\n" ++ columns [("[COMMAND]...", "Print help for the subcommand(s)")]

namespace Refusal

/-- Whether what was asked for is given. -/
def isAnswer : Refusal → Bool
  | help _ => true
  | version => true
  | _ => false

/-- The exit code with which the program ends; a question that was answered is no
failure. -/
def exitCode (r : Refusal) : Nat := if r.isAnswer then 0 else 2

/-- What is said instead of doing anything. -/
def text : Refusal → String
  | help topic => topic.text
  | version => versionText ++ "\n"
  | unknownArgument t => "error: unexpected argument '" ++ t ++ "' found\n"
  | unknownCommand t => "error: unrecognized subcommand '" ++ t ++ "'\n"
  | noValue => "error: a value is required for '" ++ "--config <CONFIG>' but none was supplied\n"
  | repeated => "error: the argument '--config <CONFIG>' cannot be used multiple times\n"
  | unwantedValue o => "error: unexpected value for '--" ++ o ++ "' found; no more were expected\n"

end Refusal

end ServiceSupervisor.CommandLine
