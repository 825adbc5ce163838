import Courier.Failure
import Courier.Files

/-!
# Courier — Failed commands

Why a command of the program fails, with the wording of the message and the exit code of the
process.
-/

namespace Courier

inductive CommandError where
  | configuration (e : ConfigurationError)
  | send (e : SendException)
  | invalidArgument (argument message : String)
  | io (e : FileError)
  deriving DecidableEq

namespace CommandError

def display : CommandError → String
  | configuration e                  => "Configuration error: " ++ e.display
  | send e                           => "Send failed: " ++ e.display
  | invalidArgument argument message => "Invalid argument: " ++ argument ++ " - " ++ message
  | io e                             => "IO error: " ++ e.message

def exitCode : CommandError → Nat
  | configuration _     => 1
  | send _              => 2
  | invalidArgument _ _ => 3
  | io _                => 4

end CommandError

end Courier
