import Courier.Failure

/-!
# Courier — Queue names

A queue is a name of 1 to 48 bytes over the letters, the digits and four marks.  `Queue.ofName`
refuses a name by the first rule it breaks: empty, too long, wrong character.  The written form
is the URI `queue:///NAME`; `Queue.parse` takes the bare name as well, and any number of leading
`queue:///`, which no name can start with because a colon is not allowed in it.
-/

namespace Courier

/-- The characters of a queue name. -/
def isQueueNameChar (c : Char) : Bool :=
  c.isAlphanum || c == '.' || c == '/' || c == '_' || c == '%'

def maxQueueNameBytes : Nat := 48

/-- A name that a queue may have. -/
def ValidQueueName (name : String) : Prop :=
  name ≠ "" ∧ name.utf8ByteSize ≤ maxQueueNameBytes ∧ name.toList.all isQueueNameChar

instance (name : String) : Decidable (ValidQueueName name) := by
  unfold ValidQueueName; infer_instance

/-- A destination queue. -/
structure Queue where
  name  : String
  valid : ValidQueueName name
  deriving DecidableEq

namespace Queue

def field : String := "queue_name"

/-- The queue of that name, or the first rule the name breaks. -/
def ofName (name : String) : Except ValidationError Queue :=
  if h₁ : name = "" then .error (.required field)
  else if h₂ : maxQueueNameBytes < name.utf8ByteSize then
    .error (.outOfRange field "must be at most 48 characters")
  else if h₃ : name.toList.all isQueueNameChar then
    .ok ⟨name, h₁, Nat.le_of_not_lt h₂, h₃⟩
  else
    .error (.invalidFormat field "only ASCII alphanumeric, '.', '/', '_' and '%' allowed")

/-- What stands before the name in the URI of a queue. -/
def scheme : List Char := "queue:///".toList

def display (q : Queue) : String := "queue:///" ++ q.name

/-- `cs` without the schemes it starts with. -/
def dropSchemes : Nat → List Char → List Char
  | 0, cs        => cs
  | fuel + 1, cs => if scheme.isPrefixOf cs then dropSchemes fuel (cs.drop scheme.length) else cs

/-- The queue of a bare name or a URI. -/
def parse (s : String) : Except ValidationError Queue :=
  ofName (String.ofList (dropSchemes s.length s.toList))

end Queue

end Courier
