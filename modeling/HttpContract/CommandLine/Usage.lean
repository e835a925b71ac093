import HttpContract.CommandLine.Parse

/-! What the program says about itself and about a command line that it cannot use. -/
namespace HttpContract
namespace UsageError

def versionText : Text := "contractman 0.1.0\n"

def helpLines : List Text :=
  ["Run .http request definitions as contract tests against a live API", "",
    "Usage: contractman [OPTIONS]", "", "Options:",
    "      --config <FILE>        Config file (defaults to ./contractman.toml when present)",
    "      --api-url <URL>        Base API address",
    "      --http-file <PATH>     Request-definition file",
    "      --output <DIR>         Report output directory",
    "      --timeout-ms <MS>      Per-request timeout in milliseconds",
    "      --strategy <STRATEGY>  [possible values: sequential, pool]",
    "      --workers <N>          Worker count for the pool strategy",
    "      --no-color             ",
    "  -v, --verbose              Debug logging",
    "  -q, --quiet                Warnings and errors only",
    "  -h, --help                 Print help",
    "  -V, --version              Print version"]

def message : UsageError → Text
  | help => helpLines.flatMap (· ++ ['\n'])
  | version => versionText
  | unknownArgument argument => "error: unexpected argument '" ++ argument ++ "' found\n"
  | missingValue option =>
    "error: a value is required for '--" ++ option ++ "' but none was supplied\n"
  | invalidValue option value | invalidNumber option value =>
    "error: invalid value '" ++ value ++ "' for '--" ++ option ++ "'\n"
  | repeated option => "error: the argument '--" ++ option ++ "' cannot be used multiple times\n"
  | conflict option other =>
    "error: the argument '--" ++ option ++ "' cannot be used with '--" ++ other ++ "'\n"
  | unexpectedValue option value =>
    "error: unexpected value '" ++ value ++ "' for '--" ++ option ++
      "' found; no more were expected\n"

/-- Whether the command line asked for a text rather than for a run. -/
def isRequest (error : UsageError) : Bool := error == help || error == version

/-- A text that was asked for is no failure. -/
def exitCode (error : UsageError) : Nat := if error.isRequest then 0 else 2

end UsageError
end HttpContract
