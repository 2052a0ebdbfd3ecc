import Tablewright.Command.Arguments

/-! What the program says about itself.
-/

namespace Tablewright.Command

/-- The name of the program and its version.
-/
def versionText : String := "trellis 0.1.0\n"

/-- What a subcommand is for.
-/
def Subcommand.purpose : Subcommand → String
  | generate => "Render an importable solution package"
  | provision => "Create missing tables, columns and relationships in a live environment"
  | plan => "Print the provisioning tiers and deferred relationships"
  | validate => "Validate a schema without producing output"

/-- The lines on the options that every subcommand has.
-/
def commonOptions : List String :=
  [
    "  -c, --config <CONFIG>  Settings file (defaults to TRELLIS_CONFIG, ./trellis.toml, "
      ++ "then the user config dir)",
    "  -v, --verbose          Log at debug level unless TRELLIS_LOG is set",
    "  -h, --help             Print help"
  ]

/-- The lines on the options of one subcommand alone.
-/
def Subcommand.options : Subcommand → List String
  | generate => ["  -o, --out <OUT>        Output directory (replaced on every run)"]
  | provision => ["      --dry-run          Run against an empty in-memory store instead"]
  | _ => []

/-- A text of lines.
-/
def textOfLines (lines : List String) : String :=
  String.join (lines.map (· ++ "\n"))

/-- The help on the program as a whole.
-/
def generalHelp : String :=
  textOfLines <|
    [
      "Trellis - Compile table schemas into Dataverse solution metadata",
      "",
      "Usage: trellis [OPTIONS] <COMMAND>",
      "",
      "Commands:",
      "  generate   " ++ Subcommand.generate.purpose,
      "  provision  " ++ Subcommand.provision.purpose,
      "  plan       " ++ Subcommand.plan.purpose,
      "  validate   " ++ Subcommand.validate.purpose,
      "  help       Print this message or the help of the given subcommand(s)",
      "",
      "Options:"
    ]
      ++ commonOptions
      ++ ["  -V, --version          Print version"]

/-- The help on a subcommand.
-/
def Subcommand.help (subcommand : Subcommand) : String :=
  textOfLines <|
    [
      subcommand.purpose,
      "",
      "Usage: trellis " ++ subcommand.name ++ " [OPTIONS] <SCHEMA>",
      "",
      "Arguments:",
      "  <SCHEMA>  Path to the schema file (.json or .toml)",
      "",
      "Options:"
    ]
      ++ subcommand.options
      ++ commonOptions

/-- What is said to arguments that cannot be read.
-/
def usageText : String :=
  textOfLines
    [
      "error: the arguments were not understood",
      "",
      "Usage: trellis [OPTIONS] <COMMAND>",
      "",
      "For more information, try '--help'."
    ]

end Tablewright.Command
