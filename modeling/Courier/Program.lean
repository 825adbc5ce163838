import Courier.CommandLine
import Courier.Configuration.Load
import Courier.Configuration.Yaml
import Courier.Log.Filter
import Courier.Log.Line
import Courier.Send.Command

/-!
# Courier — The program

A run of the program as a function: from the arguments, the environment, the files and what the
puts draw from outside to the output, the log and the exit code.
-/

namespace Courier

/-- What the program sees. -/
structure Surroundings where
  files       : Files
  environment : Configuration.Environment
  draws       : Nat → Draw

/-- What a command puts out, and the events on the way. -/
structure Answer where
  result : Except CommandError String
  events : List LogEvent := []

namespace Invocation

/-- Runs a command with a configuration. -/
def runWith (w : Surroundings) (c : Configuration) : Command → Answer
  | .send o =>
    let done := executeSend o c w.files w.draws
    ⟨done.result.map (·.render o.format), done.events⟩
  | .config format => ⟨.ok (c.render format), []⟩

/-- The files that a run may read. -/
def paths (i : Invocation) : List String :=
  (match i.options.config with
    | some path => Configuration.filePaths path
    | none      => []) ++
  match i.command with
  | .send o   => o.body.file.toList
  | .config _ => []

/-- Loads the configuration and runs the command. -/
def run (w : Surroundings) (i : Invocation) : Answer :=
  match Configuration.load w.files i.options.config w.environment with
  | .error e => ⟨.error (.configuration e), []⟩
  | .ok c    => runWith w c i.command

/-- What is logged in the end. -/
def allEvents (a : Answer) : List LogEvent :=
  a.events ++
    match a.result with
    | .error e => [.commandFailed e.display]
    | .ok _    => []

end Invocation

/-! ### The process -/

/-- How a process ends and what it wrote. -/
structure ProcessResult where
  exitCode : Nat
  output   : String
  log      : List LogEvent := []
  jsonLogs : Bool := false

namespace Program

def version : String := "mq-jms 0.1.0"

/-- The variable that sets the log filter. -/
def logVariable : String := "RUST_LOG"

/-- What a command line that is not run writes. -/
def usageOutput : Usage → String
  | .version => version ++ "\n"
  | _        => ""

/-- What a command line asks for in an environment. -/
def invocation (env : Configuration.Environment) (args : List String) : Except Usage Invocation :=
  CommandLine.parse (env.lookup CommandLine.configVariable) args

/-- Runs a command line. -/
def process (w : Surroundings) (args : List String) : ProcessResult :=
  match invocation w.environment args with
  | .error usage => { exitCode := usage.exitCode, output := usageOutput usage }
  | .ok i =>
    let answer := i.run w
    let filter := LogFilter.ofProcess (w.environment.lookup logVariable) i.options.logLevel
    let log := (Invocation.allEvents answer).filter filter.admits
    match answer.result with
    | .ok output => ⟨0, output ++ "\n", log, i.options.jsonLogs⟩
    | .error e   => ⟨e.exitCode, "", log, i.options.jsonLogs⟩

end Program

end Courier
