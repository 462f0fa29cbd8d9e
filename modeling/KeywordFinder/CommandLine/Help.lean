import KeywordFinder.CommandLine.Parser

/-!
# Help

What the program says when it is asked for help, and when a command line cannot be read.
-/

namespace KeywordFinder

/-- How the program is called. -/
def usageLine : String := "Usage: findit [OPTIONS] <KEYWORD> [PATH]"

/-- The lines of the help. -/
def helpLines : List String := [
  "Find where a keyword is declared, assigned, and used in a source tree",
  "",
  usageLine,
  "",
  "Arguments:",
  "  <KEYWORD>  Keyword to find (matched literally, not as a regex)",
  "  [PATH]     File or directory to search [default: .]",
  "",
  "Options:",
  "  -c, --class            Search for class declarations only",
  "  -d, --def              Search for function declarations only",
  "  -v, --variable         Search for variable assignments only [aliases: -a, --assign]",
  "  -o, --other            Search for other appearances only",
  "  -i, --ignore-case      Ignore case when matching the keyword [aliases: --ignorecase]",
  "  -e, --ext <EXT>        Source file extension to search (repeatable; default: py)",
  "  -x, --exclude <GLOB>   Glob of paths to skip, relative to PATH (repeatable)",
  "      --color <WHEN>     Color output mode [possible values: auto, always, never]",
  "      --no-color         Disable color output (shorthand for --color=never)",
  "  -C, --config <FILE>    Use specific config file [env: FINDIT_CONFIG=]",
  "      --verbose          Log diagnostics to stderr",
  "  -h, --help             Print help",
  "  -V, --version          Print version"]

/-- The wording of a problem. -/
def UsageProblem.message : UsageProblem → String
  | unknownArgument => "unexpected argument found"
  | repeatedOption => "an option cannot be used multiple times"
  | invalidValue => "a value is required or invalid for an option or argument"
  | unexpectedValue => "unexpected value for a flag"
  | notText => "invalid UTF-8 was detected in one or more arguments"
  | missingKeyword => "the required argument <KEYWORD> was not provided"

/-- The lines that report a problem. -/
def UsageProblem.report (p : UsageProblem) : List String :=
  ["error: " ++ p.message, "", usageLine, "", "For more information, try '--help'."]

end KeywordFinder
