import PaymentBooking.Cli.Arguments

/-! # Help and version

What a program says about itself when it is asked for help or for its version. Wrong arguments are
answered by the exit code alone.
-/

namespace PaymentBooking.Cli

/-- The command that starts a program, and the name and version that the program gives itself. -/
structure Program where
  command : String
  title : String
deriving DecidableEq

def Program.usage (p : Program) : String :=
  "Usage: " ++ p.command ++ " [OPTIONS] --config <CONFIG> <INPUT>"

def Program.help (p : Program) : List String :=
  [p.usage,
    "",
    "Arguments:",
    "  <INPUT>  Input jobs file, one JSON job per line",
    "",
    "Options:",
    "      --config <CONFIG>    Settings file (TOML)",
    "      --workers <WORKERS>  Maximum number of jobs booked concurrently [default: 4]",
    "  -h, --help               Print help",
    "  -V, --version            Print version"]

def Stop.output (p : Program) : Stop → List String
  | .help => p.help.map (· ++ "\n")
  | .version => [p.title ++ "\n"]
  | .usage => []

end PaymentBooking.Cli
