import Courier.Configuration

/-!
# Courier — The in-memory queue manager

A queue manager is a value: its options, the defined queues with their committed messages, the
unit of work, and its counters.  Every call gives an answer and the next state.  A put is judged
as a whole before anything changes (`putRefusal?`), so a refused put leaves the state and the
caller's descriptor as they were.  Messages put under syncpoint wait in the unit of work, in put
order, and are counted against the depth of their queue; a commit moves them to the ends of
their queues and a backout drops them.

A queue manager can lose its storage; from then on every call that needs it is refused.
-/

namespace Courier

/-! ### State -/

/-- A message as the queue manager keeps it. -/
structure StoredMessage where
  descriptor : Descriptor
  payload    : ByteArray
  deriving DecidableEq

/-- A local queue: its committed messages, oldest first. -/
structure LocalQueue where
  messages     : List StoredMessage := []
  putInhibited : Bool := false
  deriving DecidableEq

/-- A message of the unit of work. -/
structure PendingMessage where
  queue   : String
  message : StoredMessage
  deriving DecidableEq

/-- How often each call succeeded. -/
structure Statistics where
  opens    : Nat := 0
  closes   : Nat := 0
  puts     : Nat := 0
  commits  : Nat := 0
  backouts : Nat := 0
  deriving DecidableEq

/-- Handles opened and not yet closed. -/
def Statistics.openHandles (s : Statistics) : Nat := s.opens - s.closes

/-- The defined queues by name, in order of definition. -/
abbrev QueueTable := List (String × LocalQueue)

namespace QueueTable

def find? (t : QueueTable) (name : String) : Option LocalQueue := t.lookup name

def defined (t : QueueTable) (name : String) : Bool := (t.find? name).isSome

/-- Defines an empty queue; a queue that is there already stays as it is. -/
def define (t : QueueTable) (name : String) : QueueTable :=
  if t.defined name then t else t ++ [(name, ⟨[], false⟩)]

/-- Changes the queue of that name, if there is one. -/
def modify (t : QueueTable) (name : String) (f : LocalQueue → LocalQueue) : QueueTable :=
  t.map fun (n, q) => if n = name then (n, f q) else (n, q)

/-- Adds a message at the end of a queue. -/
def append (t : QueueTable) (name : String) (m : StoredMessage) : QueueTable :=
  t.modify name fun q => { q with messages := q.messages ++ [m] }

/-! ### Small laws of tables -/

theorem find?_cons (n name : String) (q : LocalQueue) (t : QueueTable) :
    find? ((name, q) :: t) n = if n = name then some q else t.find? n := by
  by_cases h : n = name <;> simp [find?, List.lookup_cons, h, beq_eq_false_iff_ne.2]

theorem find?_concat (t : QueueTable) (n name : String) (q : LocalQueue) :
    find? (t ++ [(name, q)]) n = (t.find? n).or (if n = name then some q else none) := by
  induction t with
  | nil         => exact find?_cons n name q []
  | cons e t ih => rw [List.cons_append, find?_cons, find?_cons, ih]; split <;> rfl

/-- Defining a queue leaves the others alone, and the queue itself if it is there. -/
theorem find?_define (t : QueueTable) (name n : String) :
    (t.define name).find? n = if n = name then some ((t.find? name).getD {}) else t.find? n := by
  unfold define
  split
  · rename_i h
    obtain ⟨q, hq⟩ := Option.isSome_iff_exists.1 h
    by_cases hn : n = name <;> simp [hn, hq]
  · rename_i h
    have hq : t.find? name = none := by simpa [defined] using h
    rw [find?_concat]
    by_cases hn : n = name <;> simp [hn, hq]

/-- Changing a queue leaves the others alone. -/
theorem find?_modify (t : QueueTable) (name n : String) (f : LocalQueue → LocalQueue) :
    (t.modify name f).find? n = if n = name then (t.find? n).map f else t.find? n := by
  induction t with
  | nil => simp [modify, find?]
  | cons e t ih =>
    obtain ⟨m, q⟩ := e
    have step : modify ((m, q) :: t) name f =
        (m, if m = name then f q else q) :: modify t name f := by
      simp only [modify, List.map_cons]
      split <;> rfl
    rw [step, find?_cons, find?_cons, ih]
    by_cases hn : n = m
    · subst hn; by_cases hm : n = name <;> simp [hm]
    · simp [hn]

/-- A message at the end of a queue. -/
theorem find?_append (t : QueueTable) (name n : String) (m : StoredMessage) :
    (t.append name m).find? n =
      if n = name then (t.find? n).map fun q => { q with messages := q.messages ++ [m] }
      else t.find? n :=
  t.find?_modify name n _

end QueueTable

/-! ### The manager -/

structure QueueManager where
  options     : ManagerOptions
  queues      : QueueTable
  uncommitted : List PendingMessage := []
  quiescing   : Bool := false
  sequence    : Nat := 0
  statistics  : Statistics := {}
  storageLost : Bool := false
  deriving DecidableEq

/-- What one put takes from outside: the clock and the random part of an identifier. -/
structure Draw where
  now     : Instant
  entropy : Entropy

/-- An opened queue. -/
structure Handle where
  queue   : String
  options : OpenOptions
  closed  : Bool := false
  deriving DecidableEq

namespace QueueManager

def ofOptions (o : ManagerOptions) : QueueManager :=
  { options := o, queues := o.queues.foldl QueueTable.define [] }

def name (qm : QueueManager) : String := qm.options.name

/-- Refuses a call that needs the storage when it is lost. -/
def guarded {α : Type} (qm : QueueManager) (verb : Verb)
    (call : Except TransportError α × QueueManager) : Except TransportError α × QueueManager :=
  if qm.storageLost then (.error (.failed verb .resourceProblem), qm) else call

def loseStorage (qm : QueueManager) : QueueManager := { qm with storageLost := true }

/-! ### Administration -/

def defineQueue (qm : QueueManager) (queue : String) :
    Except TransportError Unit × QueueManager :=
  qm.guarded .opening (.ok (), { qm with queues := qm.queues.define queue })

/-- Allows or refuses puts to a queue. -/
def setPutInhibited (qm : QueueManager) (queue : String) (inhibited : Bool) :
    Except TransportError Unit × QueueManager :=
  qm.guarded .put <|
    if qm.queues.defined queue then
      (.ok (), { qm with
        queues := qm.queues.modify queue fun q => { q with putInhibited := inhibited } })
    else (.error (.failed .put .unknownObjectName), qm)

/-- From now on puts fail, and opens that ask for it. -/
def quiesce (qm : QueueManager) : Except TransportError Unit × QueueManager :=
  qm.guarded .opening (.ok (), { qm with quiescing := true })

/-! ### Looking -/

/-- `value`, unless the storage is lost. -/
def look {α : Type} (qm : QueueManager) (value : Except TransportError α) :
    Except TransportError α :=
  if qm.storageLost then .error (.failed .opening .resourceProblem) else value

/-- The committed messages of a queue, oldest first. -/
def browse (qm : QueueManager) (queue : String) : Except TransportError (List StoredMessage) :=
  qm.look <|
    match qm.queues.find? queue with
    | some q => .ok q.messages
    | none   => .error (.failed .opening .unknownObjectName)

def depth (qm : QueueManager) (queue : String) : Except TransportError Nat :=
  (qm.browse queue).map List.length

def uncommittedCount (qm : QueueManager) : Except TransportError Nat :=
  qm.look (.ok qm.uncommitted.length)

def readStatistics (qm : QueueManager) : Except TransportError Statistics :=
  qm.look (.ok qm.statistics)

/-! ### Handles -/

/-- Why a queue cannot be opened. -/
def openRefusal? (qm : QueueManager) (queue : String) (o : OpenOptions) : Option Reason :=
  if qm.quiescing ∧ o.failIfQuiescing then some .managerQuiescing
  else if ¬ qm.queues.defined queue ∧ ¬ qm.options.autoDefineQueues then some .unknownObjectName
  else none

def openQueue (qm : QueueManager) (queue : String) (o : OpenOptions) :
    Except TransportError Handle × QueueManager :=
  qm.guarded .opening <|
    match qm.openRefusal? queue o with
    | some reason => (.error (.failed .opening reason), qm)
    | none =>
      (.ok ⟨queue, o, false⟩,
        { qm with
          queues     := qm.queues.define queue
          statistics := { qm.statistics with opens := qm.statistics.opens + 1 } })

def close (qm : QueueManager) (h : Handle) :
    Except TransportError Unit × Handle × QueueManager :=
  if h.closed then (.error (.failed .close .objectHandleError), h, qm)
  else if qm.storageLost then (.error (.failed .close .resourceProblem), h, qm)
  else
    (.ok (), { h with closed := true },
      { qm with statistics := { qm.statistics with closes := qm.statistics.closes + 1 } })

/-! ### Putting -/

/-- Messages of the unit of work for a queue. -/
def uncommittedDepth (qm : QueueManager) (queue : String) : Nat :=
  (qm.uncommitted.filter (·.queue = queue)).length

/-- Why a message cannot be put: the first fault of the handle and the descriptor, then of the
state. -/
def putRefusal? (qm : QueueManager) (h : Handle) (d : Descriptor) (payload : ByteArray) :
    Option Reason :=
  if h.closed then some .objectHandleError
  else if ¬ h.options.output then some .notOpenForOutput
  else if d.expiry = .tenths 0 then some .expiryError
  else if qm.storageLost then some .resourceProblem
  else if qm.quiescing then some .managerQuiescing
  else if qm.options.maxMessageLength < payload.size then some .messageTooBig
  else
    match qm.queues.find? h.queue with
    | none   => some .unknownObjectName
    | some q =>
      if q.putInhibited then some .putInhibited
      else if qm.options.maxQueueDepth ≤ q.messages.length + qm.uncommittedDepth h.queue then
        some .queueFull
      else none

/-- Whether a put makes a new identifier. -/
def drawsId (d : Descriptor) (o : PutOptions) : Bool := o.newMessageId || d.messageId.isNone

/-- The descriptor with the fields that the queue manager writes. -/
def stamp (qm : QueueManager) (d : Descriptor) (o : PutOptions) (draw : Draw) : Descriptor :=
  { d with
    messageId :=
      if drawsId d o then some (.generate draw.entropy (qm.sequence + 1)) else d.messageId
    putTime := some draw.now }

/-- The state after a message was accepted. -/
def store (qm : QueueManager) (queue : String) (o : PutOptions) (drawn : Bool)
    (m : StoredMessage) : QueueManager :=
  { qm with
    queues      := if o.syncpoint then qm.queues else qm.queues.append queue m
    uncommitted := if o.syncpoint then qm.uncommitted ++ [⟨queue, m⟩] else qm.uncommitted
    sequence    := if drawn then qm.sequence + 1 else qm.sequence
    statistics  := { qm.statistics with puts := qm.statistics.puts + 1 } }

/-- Puts a message; the answer comes with the caller's descriptor after the call. -/
def put (qm : QueueManager) (h : Handle) (d : Descriptor) (o : PutOptions) (payload : ByteArray)
    (draw : Draw) : Except TransportError Unit × Descriptor × QueueManager :=
  match qm.putRefusal? h d payload with
  | some reason => (.error (.failed .put reason), d, qm)
  | none =>
    let stamped := qm.stamp d o draw
    (.ok (), stamped, qm.store h.queue o (drawsId d o) ⟨stamped, payload⟩)

/-! ### The unit of work -/

/-- Moves the unit of work to the ends of the queues; the answer is its size. -/
def commit (qm : QueueManager) : Except TransportError Nat × QueueManager :=
  qm.guarded .commit
    (.ok qm.uncommitted.length,
      { qm with
        queues      := qm.uncommitted.foldl (fun t p => t.append p.queue p.message) qm.queues
        uncommitted := []
        statistics  := { qm.statistics with commits := qm.statistics.commits + 1 } })

/-- Drops the unit of work; the answer is its size. -/
def backout (qm : QueueManager) : Except TransportError Nat × QueueManager :=
  qm.guarded .backout
    (.ok qm.uncommitted.length,
      { qm with
        uncommitted := []
        statistics  := { qm.statistics with backouts := qm.statistics.backouts + 1 } })

end QueueManager

end Courier
