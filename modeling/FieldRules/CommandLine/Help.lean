import FieldRules.CommandLine.Arguments

/-!
The texts that help with the commands.
-/
namespace FieldRules.CommandLine

def optionsOf (lines : List String) : String :=
  "Options:\n" ++ String.join (lines.map fun line => "  " ++ line ++ "\n")

def Topic.text : Topic → String
  | .program =>
    "Validate JSON records against declarative field rules\n\n" ++
    "Usage: fieldcheck [OPTIONS] <COMMAND>\n\n" ++
    "Commands:\n" ++
    "  check       Validate a JSON object against a rule file\n" ++
    "  validators  List all available validators\n" ++
    "  init        Write a starter rule file\n" ++
    "  help        Print this message or the help of the given subcommand(s)\n\n" ++
    optionsOf ["-v, --verbose  Enable debug logging", "-h, --help     Print help"]
  | .check =>
    "Validate a JSON object against a rule file\n\n" ++
    "Usage: fieldcheck check [OPTIONS]\n\n" ++
    optionsOf [
      "    --rules <RULES>                  Path to the rule file (defaults to .fieldcheck.toml)",
      "-v, --verbose                        Enable debug logging",
      "    --input <INPUT>                  JSON input file; reads stdin when omitted",
      "    --format <FORMAT>                Output format [default: human]",
      "    --unknown-rules <UNKNOWN_RULES>  " ++
        "Treatment of unknown validator names: ignore, warn or error",
      "-h, --help                           Print help"]
  | .validators =>
    "List all available validators\n\n" ++
    "Usage: fieldcheck validators [OPTIONS]\n\n" ++
    optionsOf [
      "    --format <FORMAT>  Output format [default: human]",
      "-v, --verbose          Enable debug logging",
      "-h, --help             Print help"]
  | .init =>
    "Write a starter rule file\n\n" ++
    "Usage: fieldcheck init [OPTIONS] [PATH]\n\n" ++
    "Arguments:\n  [PATH]  Destination path [default: .fieldcheck.toml]\n\n" ++
    optionsOf [
      "    --force    Overwrite an existing file",
      "-v, --verbose  Enable debug logging",
      "-h, --help     Print help"]
  | .help =>
    "Print this message or the help of the given subcommand(s)\n\n" ++
    "Usage: fieldcheck help [COMMAND]...\n\n" ++
    "Arguments:\n  [COMMAND]...  Print help for the subcommand(s)\n"

end FieldRules.CommandLine
