/-!
# Courier — Rejected command lines

Why a command line is not run: it asks for help or the version, or it breaks a rule of the
options.  Only the two requests end a process with code 0.
-/

namespace Courier

inductive Usage where
  | help
  | version
  /-- There is nothing on the command line and nothing in its place. -/
  | nothingGiven
  | missingCommand
  | unknownCommand
  | missingOption
  | unknownArgument
  /-- An option is given twice, or two are given of which only one may be. -/
  | conflict
  /-- A value is missing, empty, or none of the choices. -/
  | invalidValue
  /-- A number cannot be read or is out of range. -/
  | invalidNumber
  /-- A value is given to an option that takes none. -/
  | unwantedValue
  deriving DecidableEq

def Usage.exitCode : Usage → Nat
  | .help | .version => 0
  | _                => 2

end Courier
