/-!
# Courier — Reason and completion codes

What a queue manager says about a call: how it completed, and for which reason.  A reason is an
open number, because a queue manager may report one that has no name here; `Reason.name` gives
such a code a name with its number in it, so a name tells which code it stands for.
-/

namespace Courier

/-! ### Completion -/

/-- How a call to the queue manager ended. -/
inductive Completion where
  | ok
  | warning
  | failed
  deriving DecidableEq

namespace Completion

def code : Completion → Int
  | ok      => 0
  | warning => 1
  | failed  => 2

def name : Completion → String
  | ok      => "MQCC_OK"
  | warning => "MQCC_WARNING"
  | failed  => "MQCC_FAILED"

/-- The name and the number in brackets. -/
def display (c : Completion) : String := c.name ++ " [" ++ toString c.code ++ "]"

end Completion

/-! ### Reasons -/

/-- Why a call ended as it did. -/
structure Reason where
  code : Int
  deriving DecidableEq

namespace Reason

def none                  : Reason := ⟨0⟩
def backedOut             : Reason := ⟨2003⟩
def connectionBroken      : Reason := ⟨2009⟩
def expiryError           : Reason := ⟨2013⟩
def connectionHandleError : Reason := ⟨2018⟩
def objectHandleError     : Reason := ⟨2019⟩
def messageTooBig         : Reason := ⟨2030⟩
def notAuthorized         : Reason := ⟨2035⟩
def notOpenForOutput      : Reason := ⟨2039⟩
def objectInUse           : Reason := ⟨2042⟩
def optionsError          : Reason := ⟨2046⟩
def persistenceError      : Reason := ⟨2047⟩
def putInhibited          : Reason := ⟨2051⟩
def queueFull             : Reason := ⟨2053⟩
def managerNotAvailable   : Reason := ⟨2059⟩
def storageNotAvailable   : Reason := ⟨2071⟩
def syncpointNotAvailable : Reason := ⟨2072⟩
def unknownObjectName     : Reason := ⟨2085⟩
def resourceProblem       : Reason := ⟨2102⟩
def formatError           : Reason := ⟨2110⟩
def managerQuiescing      : Reason := ⟨2161⟩
def managerStopping       : Reason := ⟨2162⟩

/-- The reasons with a name of their own. -/
def names : List (Reason × String) :=
  [(none, "MQRC_NONE"), (backedOut, "MQRC_BACKED_OUT"),
   (connectionBroken, "MQRC_CONNECTION_BROKEN"), (expiryError, "MQRC_EXPIRY_ERROR"),
   (connectionHandleError, "MQRC_HCONN_ERROR"), (objectHandleError, "MQRC_HOBJ_ERROR"),
   (messageTooBig, "MQRC_MSG_TOO_BIG_FOR_Q"), (notAuthorized, "MQRC_NOT_AUTHORIZED"),
   (notOpenForOutput, "MQRC_NOT_OPEN_FOR_OUTPUT"), (objectInUse, "MQRC_OBJECT_IN_USE"),
   (optionsError, "MQRC_OPTIONS_ERROR"), (persistenceError, "MQRC_PERSISTENCE_ERROR"),
   (putInhibited, "MQRC_PUT_INHIBITED"), (queueFull, "MQRC_Q_FULL"),
   (managerNotAvailable, "MQRC_Q_MGR_NOT_AVAILABLE"),
   (storageNotAvailable, "MQRC_STORAGE_NOT_AVAILABLE"),
   (syncpointNotAvailable, "MQRC_SYNCPOINT_NOT_AVAILABLE"),
   (unknownObjectName, "MQRC_UNKNOWN_OBJECT_NAME"), (resourceProblem, "MQRC_RESOURCE_PROBLEM"),
   (formatError, "MQRC_FORMAT_ERROR"), (managerQuiescing, "MQRC_Q_MGR_QUIESCING"),
   (managerStopping, "MQRC_Q_MGR_STOPPING")]

/-- The name of its own, if the reason has one. -/
def name? (r : Reason) : Option String := names.lookup r

/-- The name of its own, or one made from the number. -/
def name (r : Reason) : String := r.name?.getD ("MQRC_UNKNOWN_" ++ toString r.code)

/-- The name and the number in brackets. -/
def display (r : Reason) : String := r.name ++ " [" ++ toString r.code ++ "]"

/-- The reasons that are expected to pass without anyone's help. -/
def transients : List Reason :=
  [connectionBroken, objectInUse, putInhibited, queueFull, managerNotAvailable, managerQuiescing,
   managerStopping, storageNotAvailable, resourceProblem]

def isTransient (r : Reason) : Bool := transients.contains r

/-- The reasons by rising code; equal ones keep their order. -/
def sort (rs : List Reason) : List Reason := rs.mergeSort fun a b => a.code ≤ b.code

end Reason

end Courier
