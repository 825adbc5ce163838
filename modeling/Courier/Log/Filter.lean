import Courier.Binary64.Text
import Courier.Log
import Courier.Text.Blank
import Courier.Text.Bytes
import Courier.Text.Pattern

/-!
# Courier — Log filters

A filter is a list of directives, each a level for the events whose target starts in a given way
and that have a given field.  Of the directives that cover an event the one with the longest
target counts, among those one with a field before one without.  A directive without a level lets
everything through.  A filter without any directive lets errors through.

A directive may also speak of the context that an event happens in, by a name or by the value of
a field.  The events of this library happen in none, so such a directive covers nothing.
-/

namespace Courier

/-- How much is let through: nothing for 0, errors for 1, and so on up to 5. -/
abbrev Verbosity := Nat

namespace Verbosity

def everything : Verbosity := 5

def names : List (String × Verbosity) :=
  [("off", 0), ("error", 1), ("warn", 2), ("info", 3), ("debug", 4), ("trace", 5)]

/-- A level by its name, in any case, or by its number; no text at all means errors. -/
def ofText? (cs : List Char) : Option Verbosity :=
  match Text.unsigned? 64 10 cs with
  | some n => if n ≤ everything then some n else none
  | none =>
    if cs.isEmpty then some 1 else names.lookup (String.ofList (cs.map Char.toLower))

end Verbosity

/-- A level for the events that have the field and whose target starts with `target`. -/
structure Directive where
  target    : List Char := []
  field     : Option String := none
  /-- It speaks of the context of an event. -/
  inContext : Bool := false
  level     : Verbosity := .everything
  deriving DecidableEq

namespace Directive

/-! ### Reading

The marks of a directive are looked for in its text without the blanks around it, but its parts
are cut out of the text with those blanks, at the same distances from the start.  So a blank at
the end belongs to the last part, and a blank at the start moves every part. -/

def isStartChar (c : Char) : Bool :=
  c == '-' || c == ':' || c == '_' || Text.isAlphanumeric c

/-- The level from byte `start` of the text on. -/
def levelFrom? (text : List Char) (start : Nat) : Option Verbosity := do
  let cs ← Text.dropBytes? start text
  if cs.isEmpty then return .everything else Verbosity.ofText? cs

/-- The value that a field may be asked for: a number, or a pattern. -/
def isFieldValue (cs : List Char) : Bool :=
  (Binary64.ofText? cs).isSome || Text.isPattern cs

/-- A field by its name, or by its name and value, of which only contexts have some. -/
def withField? (d : Directive) (cs : List Char) : Option Directive :=
  let name := cs.takeWhile (· ≠ '=')
  match cs.drop name.length with
  | []        => some { d with field := some (String.ofList name) }
  | _ :: rest => if isFieldValue (rest.takeWhile (· ≠ '=')) then some { d with inContext := true }
    else none

/-- What may follow the brackets, which end before byte `start`: nothing, or a level. -/
def finish? (text : List Char) (d : Directive) (start : Nat) : List Char → Option Directive
  | []       => some d
  | '=' :: _ => (levelFrom? text (start + 1)).map fun level => { d with level }
  | _        => none

/-- The context and the field in brackets; `rest` follows the bracket, from byte `start` on. -/
def context? (text : List Char) (d : Directive) (start : Nat) (rest : List Char) :
    Option Directive :=
  let name := rest.takeWhile fun c => c ≠ ']' ∧ c ≠ '\x7b'
  let stop := start + Text.byteLength name
  let d := { d with inContext := !name.isEmpty }
  match rest.drop name.length with
  | ']' :: rest    => finish? text { d with inContext := true } (stop + 1) rest
  | '\x7b' :: rest =>
    let field := rest.takeWhile (· ≠ '\x7d')
    let fieldStop := stop + 1 + Text.byteLength field
    match rest.drop field.length with
    | '\x7d' :: ']' :: rest =>
      if field.isEmpty then none
      else do
        let d ← d.withField? (← Text.cut? (stop + 1) fieldStop text)
        finish? text d (fieldStop + 2) rest
    | _ => none
  | _ => none

def parse? (text : List Char) : Option Directive :=
  match Text.trimStartChars (Text.trimEndChars text) with
  | []          => none
  | '[' :: rest => context? text {} 1 rest
  | c :: more   =>
    if ¬ isStartChar c then none
    else
      let word := (c :: more).takeWhile fun c => c ≠ '=' ∧ c ≠ '['
      let stop := Text.byteLength word
      match (c :: more).drop word.length with
      | [] =>
        match Verbosity.ofText? text with
        | some level => some { level }
        | none       => some { target := text }
      | '[' :: rest => do
        let target ← Text.cut? 0 stop text
        context? text { target } (stop + 1) rest
      | _ => do
        let target ← Text.cut? 0 stop text
        let level ← levelFrom? text (stop + 1)
        return { target, level }

/-! ### Meaning -/

/-- Whether the directive speaks about an event. -/
def covers (e : LogEvent) (d : Directive) : Bool :=
  !d.inContext && d.target.isPrefixOf e.target.toList && d.field.all e.fieldNames.contains

/-- Whether `d` counts for an event that both cover. -/
def overrules (d b : Directive) : Bool :=
  if d.target.length ≠ b.target.length then b.target.length < d.target.length
  else
    match d.field, b.field with
    | some x, some y => y ≤ x
    | some _, none   => true
    | none, some _   => false
    | none, none     => true

end Directive

abbrev LogFilter := List Directive

namespace LogFilter

/-- The parts between the commas, without empty ones. -/
def parts (s : String) : List (List Char) :=
  ((s.toList.splitOn ',').filter (!·.isEmpty))

/-- A filter in which every directive can be read. -/
def parse? (s : String) : Option LogFilter := (parts s).mapM Directive.parse?

/-- The directives that can be read. -/
def parseLossy (s : String) : LogFilter := (parts s).filterMap Directive.parse?

/-- The one of two directives that counts. -/
def stronger (best : Option Directive) (d : Directive) : Option Directive :=
  match best with
  | none   => some d
  | some b => if d.overrules b then some d else some b

/-- The directive that counts for an event. -/
def decisive? (f : LogFilter) (e : LogEvent) : Option Directive :=
  (f.filter (·.covers e)).foldl stronger none

def admits (f : LogFilter) (e : LogEvent) : Bool :=
  if f.isEmpty then e.level.rank ≤ 1
  else
    match f.decisive? e with
    | some d => e.level.rank ≤ d.level
    | none   => false

/-- The targets of the program and its parts. -/
def ownTargets : List String := ["mq_jms", "mq_jms_core", "mq_jms_cli"]

/-- The filter of a process: the variable `RUST_LOG` if it can be read, else the given level for
the targets of the program. -/
def ofProcess (setting : Option String) (level : String) : LogFilter :=
  match setting.bind parse? with
  | some f => f
  | none   => parseLossy (",".intercalate (ownTargets.map fun target => target ++ "=" ++ level))

end LogFilter

end Courier
