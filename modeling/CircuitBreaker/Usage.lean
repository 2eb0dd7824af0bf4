import CircuitBreaker.CommandLine

namespace CircuitBreaker

def UsageError.message : UsageError → String
  | help | version => ""
  | nothingGiven | missingCommand => "a command is required"
  | unknownCommand => "there is no such command"
  | missingScript => "a script is required"
  | unknownArgument => "unexpected argument"
  | missingValue => "an option needs a value"
  | badValue => "an option needs a whole number"
  | givenTwice => "an option is given more than once"
  | unwantedValue => "a switch takes no value"

namespace CommandLine

def usage : List String :=
  ["Drive and inspect a circuit breaker", "",
    "Usage: fusebox [OPTIONS] <COMMAND>", "",
    "Commands:",
    "  simulate <SCRIPT>  Run a script of calls through a breaker and report every step [aliases: sim]",
    "  config             Print the effective breaker configuration as JSON",
    "  help [COMMAND]     Print this message", "",
    "Steps of a script:",
    "  s=success f=failure i=invalid request (does not trip) w=wait t=trip h=hard trip r=reset", "",
    "Options:",
    "      --config <FILE>              JSON breaker configuration file",
    "  -v, --verbose                    Increase log verbosity (-v info, -vv debug, -vvv trace)",
    "  -h, --help                       Print this message",
    "  -V, --version                    Print the version", "",
    "Options of simulate:",
    "      --reset-timeout-ms <MILLIS>  Override the configured reset timeout",
    "      --step-ms <MILLIS>           How long a `w` step waits [default: 100]",
    "      --json                       Emit one JSON object per step instead of a table"]

end CommandLine

end CircuitBreaker
