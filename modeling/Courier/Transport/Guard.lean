import Courier.Log
import Courier.Transport

/-!
# Courier — Guarded handles

A guard owns an open handle from the moment the queue is opened until it is dropped.  Dropping
closes the handle; a handle that cannot be closed is reported and otherwise forgotten, so a drop
has no result.
-/

namespace Courier

structure Guard (η : Type) where
  queue  : String
  handle : η
  deriving DecidableEq

namespace Guard

/-- Opens a queue. -/
def acquire {σ η : Type} (t : Transport σ η) (queue : String) (options : OpenOptions) (s : σ) :
    Except TransportError (Guard η) × σ :=
  let (r, s) := t.openQueue queue options s
  (r.map (⟨queue, ·⟩), s)

def put {σ η : Type} (t : Transport σ η) (g : Guard η) (d : Descriptor) (o : PutOptions)
    (payload : ByteArray) (draw : Draw) (s : σ) : Except TransportError Unit × Descriptor × σ :=
  t.put g.handle d o payload draw s

/-- Closes the handle; the events tell about a failure. -/
def drop {σ η : Type} (t : Transport σ η) (g : Guard η) (s : σ) : List LogEvent × σ :=
  let (r, s) := t.close g.handle s
  (match r with
    | .ok ()   => []
    | .error e => [.closeFailed g.queue e], s)

end Guard

end Courier
