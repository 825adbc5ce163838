import Courier.Reason

/-!
# Courier — Failures

The ways in which something can go wrong, each as a cause with one function for its wording: a
call that the queue manager refused (`TransportError`), the exception a sender sees instead
(`SendException`), a value that breaks a rule of its field (`ValidationError`), and a
configuration that cannot be used (`ConfigurationError`).
-/

namespace Courier

/-! ### Refused calls -/

/-- A call to the queue manager. -/
inductive Verb where
  | opening
  | put
  | close
  | commit
  | backout
  deriving DecidableEq

def Verb.display : Verb → String
  | .opening => "MQOPEN"
  | .put     => "MQPUT"
  | .close   => "MQCLOSE"
  | .commit  => "MQCMIT"
  | .backout => "MQBACK"

/-- A call that the queue manager did not carry out as asked. -/
structure TransportError where
  verb       : Verb
  completion : Completion
  reason     : Reason
  deriving DecidableEq

namespace TransportError

def failed (verb : Verb) (reason : Reason) : TransportError := ⟨verb, .failed, reason⟩

def display (e : TransportError) : String :=
  e.verb.display ++ ": " ++ e.completion.display ++ " " ++ e.reason.display

def isTransient (e : TransportError) : Bool := e.reason.isTransient

end TransportError

/-! ### Exceptions of senders -/

/-- What a sender is told: a reason and an error code as text, and the refused call behind it. -/
structure SendException where
  reason    : String
  errorCode : String
  linked    : Option TransportError
  deriving DecidableEq

namespace SendException

/-- The exception for a refused call: its reason's name and number. -/
def ofTransport (e : TransportError) : SendException :=
  ⟨e.reason.name, toString e.reason.code, some e⟩

def display (e : SendException) : String := e.reason ++ " (error code " ++ e.errorCode ++ ")"

def reasonCode (e : SendException) : Option Reason := e.linked.map (·.reason)

def isTransient (e : SendException) : Bool := (e.linked.map (·.isTransient)).getD false

end SendException

/-! ### Values and configurations -/

/-- A value that its field does not take. -/
inductive ValidationError where
  | required (field : String)
  | invalidFormat (field message : String)
  | outOfRange (field message : String)
  deriving DecidableEq

def ValidationError.display : ValidationError → String
  | .required field              => "Required field missing: " ++ field
  | .invalidFormat field message => "Invalid format for " ++ field ++ ": " ++ message
  | .outOfRange field message    => "Value out of range for " ++ field ++ ": " ++ message

/-- A configuration that cannot be used. -/
inductive ConfigurationError where
  | invalid (message : String)
  | missing (key : String)
  | parsing (message : String)
  deriving DecidableEq

def ConfigurationError.display : ConfigurationError → String
  | .invalid message => "Invalid configuration: " ++ message
  | .missing key     => "Missing required configuration: " ++ key
  | .parsing message => "Configuration parsing failed: " ++ message

end Courier
