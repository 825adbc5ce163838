import Courier.BodySources
import Courier.CommandLine.Scan

/-!
# Courier — The command line

The options of the program and of its two commands, and a command line as what it asks for
(`CommandLine.parse`).  The options of the program stand before the command.  A send needs a
queue and exactly one source of the body.
-/

namespace Courier

/-! ### What a command line asks for -/

inductive ReportFormat where
  | json
  | text
  deriving DecidableEq

inductive ConfigurationFormat where
  | yaml
  | json
  deriving DecidableEq

/-- The options of a send. -/
structure SendOptions where
  queue         : String
  body          : BodySources
  persistent    : Bool := false
  timeToLive    : Option Int := none
  transacted    : Bool := false
  count         : Nat := 1
  replyTo       : Option String := none
  correlationId : Option String := none
  format        : ReportFormat := .json
  deriving DecidableEq

inductive Command where
  | send (options : SendOptions)
  | config (format : ConfigurationFormat)
  deriving DecidableEq

/-- The options of the program. -/
structure GlobalOptions where
  config   : Option String := none
  logLevel : String := "warn"
  jsonLogs : Bool := false
  deriving DecidableEq

structure Invocation where
  options : GlobalOptions
  command : Command
  deriving DecidableEq

namespace CommandLine

/-! ### Tables -/

def helpOption : OptionSpec := { name := "help", letter := some 'h', kind := .request .help }

def globalSpecs : List OptionSpec :=
  [{ name := "config", letter := some 'c', kind := .value .path },
   { name := "log-level", letter := some 'l', kind := .value .text },
   { name := "json-logs", kind := .flag },
   helpOption,
   { name := "version", letter := some 'V', kind := .request .version }]

def sendSpecs : List OptionSpec :=
  [{ name := "queue", letter := some 'q', kind := .value .text },
   { name := "text", kind := .value .text },
   { name := "hex", kind := .value .text },
   { name := "file", kind := .value .path },
   { name := "persistent", kind := .flag },
   { name := "ttl", kind := .value (.integer (-Int.pow 2 63) (Int.pow 2 63 - 1)),
     negative := true },
   { name := "transacted", kind := .flag },
   { name := "count", letter := some 'n', kind := .value (.integer 0 (Int.pow 2 32 - 1)) },
   { name := "reply-to", kind := .value .text },
   { name := "correlation-id", kind := .value .text },
   { name := "format", letter := some 'f', kind := .value (.choice ["json", "text"]) },
   helpOption]

def configSpecs : List OptionSpec :=
  [{ name := "format", letter := some 'f', kind := .value (.choice ["yaml", "json"]) },
   helpOption]

def commands : List String := ["send", "config", "help"]

/-- The variable that stands in for `--config`. -/
def configVariable : String := "MQJMS_CONFIG"

/-! ### Commands -/

def number? (name : String) (s : Scan) : Option Int :=
  (s.value? name).bind fun v => Text.signed? 64 10 v.toList

/-- How many sources of the body are given. -/
def bodyCount (s : Scan) : Nat :=
  [s.has "text", s.has "hex", s.has "file"].count true

/-- The options of a send as they were read. -/
def sendOptions (s : Scan) : Except Usage SendOptions :=
  if 1 < bodyCount s then .error .conflict
  else
    match s.value? "queue" with
    | none => .error .missingOption
    | some queue =>
      if bodyCount s = 0 then .error .missingOption
      else
        .ok {
          queue
          body          := ⟨s.value? "text", s.value? "hex", s.value? "file"⟩
          persistent    := s.has "persistent"
          timeToLive    := number? "ttl" s
          transacted    := s.has "transacted"
          count         := ((number? "count" s).getD 1).toNat
          replyTo       := s.value? "reply-to"
          correlationId := s.value? "correlation-id"
          format        := if s.value? "format" = some "text" then .text else .json }

/-- The arguments of a send. -/
def parseSend (args : List String) : Except Usage SendOptions := do
  let stop ← scan sendSpecs [] args {}
  sendOptions stop.scan

/-- The arguments of the command that shows the configuration. -/
def parseConfig (args : List String) : Except Usage ConfigurationFormat := do
  let stop ← scan configSpecs [] args {}
  return if stop.scan.value? "format" = some "json" then .json else .yaml

/-- Help about a command: the arguments have to name one. -/
def helpOn : List String → Usage
  | []     => .help
  | [name] => if commands.contains name then .help else .unknownCommand
  | _      => .unknownCommand

/-! ### The whole line -/

def parseCommand (name : String) (args : List String) : Except Usage Command :=
  if name = "send" then (parseSend args).map .send
  else if name = "config" then (parseConfig args).map .config
  else .error (helpOn args)

/-- Settles the options of the program, with the variable in the place of a missing option. -/
def globalOptions (configPath : Option String) (s : Scan) :
    Except Usage (Scan × GlobalOptions) := do
  let s ← s.settle
  let s ←
    match configPath, s.value? "config" with
    | some path, none =>
      if path = "" then .error .invalidValue
      else .ok { s with found := s.found ++ [("config", path)] }
    | _, _ => .ok s
  return (s, ⟨s.value? "config", (s.value? "log-level").getD "warn", s.has "json-logs"⟩)

/-- What a command line asks for; `configPath` is the value of `MQJMS_CONFIG`. -/
def parse (configPath : Option String) (args : List String) : Except Usage Invocation := do
  let stop ← scan globalSpecs commands args {}
  match stop.command with
  | none =>
    let (s, _) ← globalOptions configPath stop.scan
    .error (if s.found.isEmpty then .nothingGiven else .missingCommand)
  | some (name, rest) =>
    let command ← parseCommand name rest
    let (_, options) ← globalOptions configPath stop.scan
    return ⟨options, command⟩

end CommandLine

end Courier
