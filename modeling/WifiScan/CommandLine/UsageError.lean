/-!
# Usage errors

Why an argument list is refused. A request for help or for the version ends the reading of the
arguments in the same way, though nothing is wrong then.
-/
namespace WifiScan.CommandLine

inductive UsageError where
  | unknownArgument
  | unknownCommand
  /-- A command is left out after other arguments. -/
  | missingCommand
  /-- Nothing is given where a command is required. -/
  | nothingGiven
  /-- The value of a flag is left out, or is none of the values that the flag knows. -/
  | unknownValue
  /-- The value of a flag is not a number in its range. -/
  | malformedValue
  /-- A flag that takes no value is given one. -/
  | unexpectedValue
  /-- A flag is repeated that may be given once, or two flags exclude each other. -/
  | conflict
  | help
  /-- The version of the command at a path is asked for. -/
  | version (path : List String)
  deriving DecidableEq, Repr

namespace UsageError

/-- Asking for help or for the version is no failure. -/
def exitCode : UsageError → UInt32
  | help | version _ => 0
  | _ => 2

def message : UsageError → String
  | unknownArgument => "unknown argument"
  | unknownCommand => "unknown command"
  | missingCommand | nothingGiven => "a command is required"
  | unknownValue => "a value is missing or not allowed"
  | malformedValue => "a value is not a number in range"
  | unexpectedValue => "a flag takes no value"
  | conflict => "arguments cannot be used together"
  | help => "usage: airscan [--config FILE] scan|bands|config [OPTIONS]"
  | version path => "-".intercalate path ++ " 0.1.0"

end UsageError

end WifiScan.CommandLine
