import Courier.Setting

/-!
# Courier — Settings from the environment

Variables whose names start with `MQJMS__`, in any case, override settings: what follows is the
path of the setting in small letters, with two underscores between its parts.  A value is a flag
or a number if it reads as one; the value for the queue list is otherwise split at its commas,
and every other value is a text.
-/

namespace Courier.Configuration

/-- The variables of a process by name. -/
abbrev Environment := List (String × String)

/-- The name and the value of an entry, divided by the first equals sign after the first
character. -/
def entryOf (s : String) : String × String :=
  match s.toList with
  | []      => ("", "")
  | c :: cs =>
    (String.ofList (c :: cs.takeWhile (· ≠ '=')), String.ofList ((cs.dropWhile (· ≠ '=')).drop 1))

/-- The variables of a block of entries, each of which ends in a zero; an entry that is no UTF-8
text is left out. -/
def Environment.ofBlock (block : ByteArray) : Environment :=
  (entries [] block.toList).filterMap fun bytes =>
    (String.fromUTF8? ⟨bytes.toArray⟩).map entryOf
where
  /-- The entries; `entry` is the current one, last byte first. -/
  entries (entry : List UInt8) : List UInt8 → List (List UInt8)
    | []      => []
    | b :: bs => if b = 0 then entry.reverse :: entries [] bs else entries (b :: entry) bs

def variablePrefix : List Char := "mqjms__".toList

/-- The setting that takes a list. -/
def listSetting : String := "queue_manager.queues"

/-- Two underscores together are a dot. -/
def dotted : List Char → List Char
  | '_' :: '_' :: cs => '.' :: dotted cs
  | c :: cs          => c :: dotted cs
  | []               => []

/-- The setting that a variable overrides. -/
def settingName? (name : String) : Option String :=
  let cs := name.toList.map Char.toLower
  if variablePrefix.isPrefixOf cs then
    some (String.ofList (dotted (cs.drop variablePrefix.length)))
  else none

/-- The parts between the commas; `part` is the current one, last character first. -/
def splitFrom (part : List Char) : List Char → List String
  | []        => [String.ofList part.reverse]
  | ',' :: cs => String.ofList part.reverse :: splitFrom [] cs
  | c :: cs   => splitFrom (c :: part) cs

def splitAtCommas (s : String) : List String := splitFrom [] s.toList

/-- The flag that a text is, in any case. -/
def flagOf? (s : String) : Option Bool :=
  let word := String.ofList (s.toList.map Char.toLower)
  if word = "true" then some true else if word = "false" then some false else none

/-- The setting that a value stands for. -/
def settingOfValue (name value : String) : Setting :=
  match flagOf? value with
  | some b => .flag b
  | none =>
    match Text.signed? 64 10 value.toList with
    | some n => .int n
    | none =>
      match Binary64.ofText? value.toList with
      | some x => .real x
      | none =>
        if name = listSetting then .list ((splitAtCommas value).map .text) else .text value

/-- The overrides of an environment. -/
def environmentSettings (env : Environment) : List (String × Setting) :=
  env.filterMap fun (name, value) =>
    (settingName? name).map fun setting => (setting, settingOfValue setting value)

end Courier.Configuration
