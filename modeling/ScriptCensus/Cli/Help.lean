/-!
# Help

What the program prints when it is asked about itself.
-/

namespace ScriptCensus.Cli

/-- What is printed for the version. -/
def versionText : String := "funcscan 0.1.0\n"

/-- The lines that are printed for help. -/
def helpLines : List String :=
  ["Extract every function from JavaScript/TypeScript sources and send the report to an inference service",
   "",
   "Usage: funcscan [OPTIONS] <PATHS>...",
   "",
   "Arguments:",
   "  <PATHS>...  Files or directories to scan (files are always included)",
   "",
   "Options:",
   "  -o, --output-file <OUTPUT_FILE>  Report destination (default: result.json)",
   "      --config <CONFIG>            Path to config file (default: auto-discover in the first path)",
   "      --endpoint <ENDPOINT>        Inference service URL (default: http://localhost:5000)",
   "      --command <COMMAND>          Run a local program instead of calling the service",
   "      --arg <ARGS>                 Argument for --command; `\x7binput\x7d` is replaced by the report path",
   "      --timeout <TIMEOUT>          Inference timeout in seconds",
   "      --no-inference               Only write the report, skip inference",
   "      --traversal-order            Keep functions in traversal order instead of sorting by line",
   "  -v, --verbose...                 Increase log verbosity (-v, -vv, -vvv)",
   "  -h, --help                       Print help",
   "  -V, --version                    Print version"]

/-- What is printed for help. -/
def helpText : String :=
  String.join (helpLines.map (· ++ "\n"))

end ScriptCensus.Cli
