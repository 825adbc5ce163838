import Courier.QueueManager

/-!
# Courier — Transports

The five calls between a sender and a queue manager, over any state (`Transport`).  An in-memory
queue manager is one transport; `Rehearsal` is another, which writes down the calls made through
it and can be told to fail some of them.
-/

namespace Courier

/-- The calls that a sender makes, over the state `σ`, with handles of type `η`. -/
structure Transport (σ η : Type) where
  openQueue : String → OpenOptions → σ → Except TransportError η × σ
  put       : η → Descriptor → PutOptions → ByteArray → Draw → σ →
                Except TransportError Unit × Descriptor × σ
  close     : η → σ → Except TransportError Unit × σ
  commit    : σ → Except TransportError Unit × σ
  backout   : σ → Except TransportError Unit × σ

/-- The in-memory queue manager as a transport. -/
def QueueManager.transport : Transport QueueManager Handle where
  openQueue queue options qm := qm.openQueue queue options
  put h d o payload draw qm  := qm.put h d o payload draw
  close h qm                 := let (r, _, qm) := qm.close h; (r, qm)
  commit qm                  := let (r, qm) := qm.commit; (r.map fun _ => (), qm)
  backout qm                 := let (r, qm) := qm.backout; (r.map fun _ => (), qm)

/-! ### Rehearsals -/

/-- A call and its result. -/
inductive Call where
  | opening (queue : String) (options : OpenOptions) (result : Except TransportError Unit)
  | put (descriptor : Descriptor) (options : PutOptions) (payload : ByteArray)
      (result : Except TransportError Unit)
  | close (result : Except TransportError Unit)
  | commit (result : Except TransportError Unit)
  | backout (result : Except TransportError Unit)

/-- A queue manager under rehearsal: the faults still to come and the calls made so far. -/
structure Rehearsal where
  manager : QueueManager
  faults  : List TransportError := []
  calls   : List Call := []

namespace Rehearsal

/-- Takes the first fault for `verb`. -/
def takeFault (s : Rehearsal) (verb : Verb) : Option TransportError × Rehearsal :=
  (s.faults.find? (·.verb = verb), { s with faults := s.faults.eraseP (·.verb = verb) })

def record (s : Rehearsal) (c : Call) : Rehearsal := { s with calls := s.calls ++ [c] }

/-- A fault stands in for the call; a close is made all the same, and its own failure comes
before the fault. -/
def transport : Transport Rehearsal Handle where
  openQueue queue options s :=
    match s.takeFault .opening with
    | (some e, s) => (.error e, s.record (.opening queue options (.error e)))
    | (none, s) =>
      let (r, manager) := s.manager.openQueue queue options
      (r, { s with manager }.record (.opening queue options (r.map fun _ => ())))
  put h d o payload draw s :=
    match s.takeFault .put with
    | (some e, s) => (.error e, d, s.record (.put d o payload (.error e)))
    | (none, s) =>
      let (r, after, manager) := s.manager.put h d o payload draw
      (r, after, { s with manager }.record (.put d o payload r))
  close h s :=
    let (fault, s) := s.takeFault .close
    let (r, _, manager) := s.manager.close h
    let r := match r, fault with
      | .ok (), some e => .error e
      | r, _           => r
    (r, { s with manager }.record (.close r))
  commit s :=
    match s.takeFault .commit with
    | (some e, s) => (.error e, s.record (.commit (.error e)))
    | (none, s) =>
      let (r, manager) := s.manager.commit
      let r := r.map fun _ => ()
      (r, { s with manager }.record (.commit r))
  backout s :=
    match s.takeFault .backout with
    | (some e, s) => (.error e, s.record (.backout (.error e)))
    | (none, s) =>
      let (r, manager) := s.manager.backout
      let r := r.map fun _ => ()
      (r, { s with manager }.record (.backout r))

end Rehearsal

end Courier
