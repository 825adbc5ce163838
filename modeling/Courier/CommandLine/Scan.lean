import Courier.CommandLine.Usage
import Courier.Text.Numeral

/-!
# Courier — Options of a command line

Arguments are read from the left against a table of options.  An option is `--name`, `-n`, or one
of several letters after one hyphen; its value follows as the next argument or stands behind it,
with `=` or, after a letter, without.  A value that comes as the next argument is looked at only
when the argument after it is understood, so an unknown option is reported before a bad value in
front of it.

After `--` nothing is an option any more.
-/

namespace Courier.CommandLine

/-! ### Tables -/

/-- What the value of an option has to be. -/
inductive ValueKind where
  | text
  | path
  | choice (names : List String)
  | integer (low high : Int)
  deriving DecidableEq

inductive OptionKind where
  | flag
  | value (kind : ValueKind)
  /-- Ends the reading at once. -/
  | request (usage : Usage)
  deriving DecidableEq

structure OptionSpec where
  name   : String
  letter : Option Char := none
  kind   : OptionKind
  /-- A negative number as the next argument is its value. -/
  negative : Bool := false
  deriving DecidableEq

/-- What is wrong with a value. -/
def ValueKind.fault? (value : String) : ValueKind → Option Usage
  | text             => none
  | path             => if value = "" then some .invalidValue else none
  | choice names     => if names.contains value then none else some .invalidValue
  | integer low high =>
    match Text.signed? 64 10 value.toList with
    | some n => if low ≤ n ∧ n ≤ high then none else some .invalidNumber
    | none   => some .invalidNumber

/-! ### What was read -/

/-- The options read so far with their values, and the last one that takes a value, with the
argument after it once that is read. -/
structure Scan where
  found   : List (String × String) := []
  pending : Option (OptionSpec × Option String) := none
  deriving DecidableEq

namespace Scan

def has (name : String) (s : Scan) : Bool := (s.found.lookup name).isSome

def value? (name : String) (s : Scan) : Option String := s.found.lookup name

/-- Takes an option with its value; a flag has an empty one. -/
def take (spec : OptionSpec) (value : String) (s : Scan) : Except Usage Scan :=
  if s.has spec.name then .error .conflict
  else
    match spec.kind with
    | .request usage => .error usage
    | .flag          => .ok { s with found := s.found ++ [(spec.name, value)] }
    | .value kind    =>
      match kind.fault? value with
      | some usage => .error usage
      | none       => .ok { s with found := s.found ++ [(spec.name, value)] }

/-- Takes the pending option. -/
def settle (s : Scan) : Except Usage Scan :=
  match s.pending with
  | none               => .ok s
  | some (_, none)     => .error .invalidValue
  | some (spec, some v) => { s with pending := none }.take spec v

/-- Takes an option that was read with its value or needs none. -/
def takeNow (spec : OptionSpec) (value : String) (s : Scan) : Except Usage Scan :=
  s.settle.bind (·.take spec value)

/-- Leaves an option waiting for its value. -/
def await (spec : OptionSpec) (s : Scan) : Except Usage Scan :=
  s.settle.map fun s => { s with pending := some (spec, none) }

/-! ### Options in an argument -/

/-- An option with two hyphens, without them. -/
def long (specs : List OptionSpec) (body : List Char) (s : Scan) : Except Usage Scan :=
  let name := body.takeWhile (· ≠ '=')
  let attached := body.drop name.length
  match specs.find? (·.name = String.ofList name) with
  | none => .error .unknownArgument
  | some spec =>
    match spec.kind, attached with
    | .value _, _ :: value => s.takeNow spec (String.ofList value)
    | .value _, []         => s.await spec
    | _, _ :: _            => .error .unwantedValue
    | _, []                => s.takeNow spec ""

/-- Letters after one hyphen. -/
def letters (specs : List OptionSpec) : List Char → Scan → Except Usage Scan
  | [], s      => .ok s
  | c :: cs, s =>
    match specs.find? (·.letter = some c) with
    | none => .error .unknownArgument
    | some spec =>
      match spec.kind, cs with
      | .value _, []           => s.await spec
      | .value _, '=' :: value => s.takeNow spec (String.ofList value)
      | .value _, value        => s.takeNow spec (String.ofList value)
      | _, _                   => (s.takeNow spec "").bind (letters specs cs)

/-- Digits with at most one point, not in front, and at most one `e` after it, not at an end. -/
def isNumberFrom (point exponent first : Bool) : List Char → Bool
  | []      => true
  | c :: cs =>
    if c.isDigit then isNumberFrom point exponent false cs
    else if c = '.' ∧ ¬ point ∧ ¬ exponent ∧ ¬ first then isNumberFrom true exponent false cs
    else if c = 'e' ∧ ¬ exponent ∧ ¬ first ∧ ¬ cs.isEmpty then isNumberFrom point true false cs
    else false

/-- Whether the pending option takes a hyphen and `body` as its value. -/
def takesNegative (body : List Char) (s : Scan) : Bool :=
  match s.pending with
  | some (spec, none) => spec.negative && isNumberFrom false false true body
  | _                 => false

end Scan

/-! ### Reading arguments -/

/-- Where reading stopped: at the end, or at the name of a command with arguments after it. -/
structure Stop where
  scan    : Scan
  command : Option (String × List String) := none

/-- An argument that is no option: a pending value, a command, or a fault. -/
def readWord (commands : List String) (word : String) (rest : List String) (s : Scan) :
    Except Usage (Scan ⊕ Stop) :=
  match s.pending with
  | some (spec, none) => .ok (.inl { s with pending := some (spec, some word) })
  | _ =>
    if commands.contains word then .ok (.inr ⟨s, some (word, rest)⟩)
    else .error (if commands.isEmpty then .unknownArgument else .unknownCommand)

/-- The first argument after `--`, which nothing can take. -/
def refuseTrailing (commands : List String) (word : String) : Usage :=
  if commands.isEmpty ∨ commands.contains word then .unknownArgument else .unknownCommand

/-- Reads arguments up to the end or the name of a command. -/
def scan (specs : List OptionSpec) (commands : List String) :
    List String → Scan → Except Usage Stop
  | [], s          => s.settle.map fun s => ⟨s, none⟩
  | arg :: rest, s =>
    let word : Except Usage Stop :=
      match readWord commands arg rest s with
      | .error usage     => .error usage
      | .ok (.inr stop)  => .ok stop
      | .ok (.inl s)     => scan specs commands rest s
    match arg.toList with
    | ['-']                => word
    | ['-', '-']           =>
      match rest with
      | []        => s.settle.map fun s => ⟨s, none⟩
      | next :: _ => .error (refuseTrailing commands next)
    | '-' :: '-' :: body   => (s.long specs body).bind (scan specs commands rest)
    | '-' :: body          =>
      if s.takesNegative body then word else (s.letters specs body).bind (scan specs commands rest)
    | _                    => word

end Courier.CommandLine
