import Courier.Proofs.Producer.Requests
import Courier.Proofs.Producer.Transacted
import Courier.Proofs.QueueManager.History
import Courier.Proofs.QueueManager.Known

/-!
# Courier — Proofs — After a quiesce

No call ends a quiesce.  A put is refused from then on whatever its handle, also one that was
opened before, and an open is refused if it asks for that, as that of a send does
(`QueueManager.Refuses`).  Opens that do not ask, closes, definitions, commits and backouts go on,
and of these only a commit stores anything: what was in the unit of work at the quiesce, unless a
backout came first.

What requests leave is read off the requests (`QueueManager.Concludes`): which of them ends the
unit of work first (`Request.commitsFirst`), and whether one does.  One request concludes so
(`concludes_serve`), and so does one after another (`Concludes.cons`), since the first that ends the
unit of work leaves it empty for the others.

**A quiesce is final** (`quiesced_run`): at every point of every run after it, everything is
refused that could store a message, and nothing is stored but by that first commit.
-/

namespace Courier

namespace Request

/-- Ends the unit of work. -/
def settles : Request → Bool
  | .call .commit | .call .backout => true
  | _                              => false

/-- The first request that ends the unit of work commits it. -/
def commitsFirst : List Request → Bool
  | []                  => false
  | .call .commit :: _  => true
  | .call .backout :: _ => false
  | _ :: rs             => commitsFirst rs

theorem commitsFirst_cons (r : Request) (rs : List Request) :
    commitsFirst (r :: rs) = if r.settles then commitsFirst [r] else commitsFirst rs := by
  cases r with
  | send => rfl
  | call op => cases op <;> rfl

end Request

namespace QueueManager

/-! ### What is refused -/

section
variable {qm : QueueManager} (there : qm.storageLost = false) (quiescing : qm.quiescing = true)
include quiescing

theorem openRefusal?_of_quiescing (queue : String) {o : OpenOptions} (asks : o.failIfQuiescing) :
    qm.openRefusal? queue o = some .managerQuiescing :=
  if_pos ⟨quiescing, asks⟩

/-- A put may have another fault, but there is always one. -/
theorem exists_putRefusal?_of_quiescing (h : Handle) (d : Descriptor) (payload : ByteArray) :
    ∃ r, qm.putRefusal? h d payload = some r := by
  rw [← Option.isSome_iff_exists, ← Option.ne_none_iff_isSome]
  intro accepted
  have running := (putRefusal?_eq_none_iff.mp accepted).running
  rw [quiescing] at running
  cases running

include there

theorem send_eq_of_quiescing (p : Producer) (queue : String) (m : Message) (draw : Draw) :
    p.send queue m draw qm =
      ⟨.error (.failed .opening .managerQuiescing), m, qm,
        Producer.resultEvents queue (.error (.failed .opening .managerQuiescing))⟩ :=
  Producer.send_eq_of_openRefusal there (openRefusal?_of_quiescing quiescing queue rfl) draw

end

/-- Everything is refused that could store a message, and changes nothing. -/
structure Refuses (qm : QueueManager) : Prop where
  put     : ∀ h d o payload draw, ∃ r,
    qm.put h d o payload draw = (.error (.failed .put r), d, qm)
  opening : ∀ queue (o : OpenOptions), o.failIfQuiescing →
    qm.openQueue queue o = (.error (.failed .opening .managerQuiescing), qm)
  send    : ∀ (p : Producer) queue m draw,
    (p.send queue m draw qm).answer =
        .error ⟨"MQRC_Q_MGR_QUIESCING", "2161", some (.failed .opening .managerQuiescing)⟩ ∧
      (p.send queue m draw qm).message = m ∧ (p.send queue m draw qm).state = qm

theorem refuses_of_quiescing {qm : QueueManager} (there : qm.storageLost = false)
    (quiescing : qm.quiescing = true) : qm.Refuses where
  put h d o payload draw := by
    obtain ⟨r, no⟩ := exists_putRefusal?_of_quiescing quiescing h d payload
    exact ⟨r, put_eq_of_refused no o draw⟩
  opening queue o asks :=
    openQueue_eq_of_refused there (openRefusal?_of_quiescing quiescing queue asks)
  send p queue m draw := by
    rw [send_eq_of_quiescing there quiescing]
    exact ⟨rfl, rfl, rfl⟩

/-! ### What is stored -/

/-- From `qm` the requests `rs` lead to `now`, and nothing is stored besides the unit of work, which
goes to the queues if it is committed first. -/
structure Concludes (qm now : QueueManager) (rs : List Request) : Prop where
  committed   : ∀ n, now.committed n =
    qm.committed n ++ if Request.commitsFirst rs then addressed n qm.uncommitted else []
  uncommitted : now.uncommitted = if rs.any Request.settles then [] else qm.uncommitted
  sequence    : now.sequence = qm.sequence
  puts        : now.statistics.puts = qm.statistics.puts

variable {qm next now : QueueManager} {r : Request} {rs : List Request}

theorem Concludes.nil (qm : QueueManager) : qm.Concludes qm [] :=
  ⟨fun _ => (List.append_nil _).symm, rfl, rfl, rfl⟩

/-- One request more, in front. -/
theorem Concludes.cons (first : qm.Concludes next [r]) (later : next.Concludes now rs) :
    qm.Concludes now (r :: rs) where
  committed n := by
    rw [later.committed, first.committed, first.uncommitted, Request.commitsFirst_cons r rs]
    cases ends : r.settles with
    | true => simp [ends]
    | false =>
        have none : Request.commitsFirst [r] = false := by
          rw [Request.commitsFirst_cons, ends]; rfl
        simp [ends, none]
  uncommitted := by
    rw [later.uncommitted, first.uncommitted, List.any_cons]
    cases ends : r.settles <;> simp [ends]
  sequence := later.sequence.trans first.sequence
  puts := later.puts.trans first.puts

/-- What does not end the unit of work, and keeps it with the queues, stores nothing. -/
theorem Concludes.of_same (goesOn : r.settles = false)
    (committed : ∀ n, next.committed n = qm.committed n)
    (uncommitted : next.uncommitted = qm.uncommitted) (sequence : next.sequence = qm.sequence)
    (puts : next.statistics.puts = qm.statistics.puts) : qm.Concludes next [r] := by
  refine ⟨fun n => ?_, ?_, sequence, puts⟩
  · rw [Request.commitsFirst_cons, goesOn, committed]
    exact (List.append_nil _).symm
  · rw [uncommitted]
    simp [goesOn]

end QueueManager

namespace Connection

section
variable {c : Connection}

/-- What waits keeps its queue, whatever clients ask for. -/
theorem serve_waiting (there : c.manager.storageLost = false) (h : c.manager.Waiting)
    (r : Request) : (c.serve r).manager.Waiting := by
  cases r with
  | call op => exact (step_perform there op).waiting h
  | send p queue m draw => exact (p.send_ready there h queue m draw).2

theorem serveAll_waiting (rs : List Request) : ∀ {c : Connection},
    c.manager.storageLost = false → c.manager.Waiting → (c.serveAll rs).manager.Waiting := by
  induction rs with
  | nil => exact fun _ h => h
  | cons r rs ih => exact fun there h => ih (serve_there there r) (serve_waiting there h r)

/-- An event ends the unit of work if its operation does. -/
theorem settles_event? {op : Operation} {e : Event} (h : c.event? op = some e) :
    e.settles = (Request.call op).settles := by
  cases op with
  | put i d o payload draw =>
      simp only [event?] at h
      split at h
      · split at h <;> cases h
        rfl
      · cases h
  | commit | backout =>
      simp only [event?] at h
      split at h <;> cases h
      rfl
  | _ => cases h

/-- No step ends a quiesce. -/
theorem Step.quiescing {c' : Connection} {e : Option Event} (step : c.Step e c')
    (quiescing : c.manager.quiescing = true) : c'.manager.quiescing = true := by
  cases step with
  | quiesced => rfl
  | _ => exact quiescing

/-- A step that ends no unit of work stores nothing in a queue manager that is quiescing. -/
theorem Step.concludes {c' : Connection} {e : Option Event} (step : c.Step e c')
    (quiescing : c.manager.quiescing = true) {r : Request} (goesOn : r.settles = false)
    (same : ∀ f, e = some f → f.settles = r.settles) : c.manager.Concludes c'.manager [r] := by
  cases step with
  | refused | quiesced | closed => exact .of_same goesOn (fun _ => rfl) rfl rfl rfl
  | defined queue | @opened queue =>
      exact .of_same goesOn (QueueTable.messages_define _ queue) rfl rfl rfl
  | inhibited queue on =>
      exact .of_same goesOn (QueueTable.messages_inhibit _ queue · on) rfl rfl rfl
  | put o draw hi ok => exact absurd (quiescing.symm.trans ok.running) (by decide)
  | committed | backedOut => exact absurd ((same _ rfl).trans goesOn) (by decide)

variable (there : c.manager.storageLost = false) (quiescing : c.manager.quiescing = true)
include there quiescing

theorem serve_quiescing (r : Request) : (c.serve r).manager.quiescing = true := by
  cases r with
  | call op => exact (step_perform there op).quiescing quiescing
  | send p queue m draw =>
      rw [serve, QueueManager.send_eq_of_quiescing there quiescing]
      exact quiescing

theorem concludes_serve (waiting : c.manager.Waiting) (r : Request) :
    c.manager.Concludes (c.serve r).manager [r] := by
  cases r with
  | send p queue m draw =>
      rw [serve, QueueManager.send_eq_of_quiescing there quiescing]
      exact .of_same rfl (fun _ => rfl) rfl rfl rfl
  | call op =>
      cases op with
      | commit =>
          rw [serve, perform, QueueManager.commit_eq there]
          exact ⟨QueueTable.messages_deliver waiting, rfl, rfl, rfl⟩
      | backout =>
          rw [serve, perform, QueueManager.backout_eq there]
          exact ⟨fun _ => (List.append_nil _).symm, rfl, rfl, rfl⟩
      | _ => exact (step_perform there _).concludes quiescing rfl fun _ => settles_event?

omit there quiescing

/-! ### Runs -/

theorem concludes_serveAll (rs : List Request) : ∀ {c : Connection},
    c.manager.storageLost = false → c.manager.quiescing = true → c.manager.Waiting →
      (c.serveAll rs).manager.quiescing = true ∧
        c.manager.Concludes (c.serveAll rs).manager rs := by
  induction rs with
  | nil => exact fun {c} _ quiescing _ => ⟨quiescing, .nil c.manager⟩
  | cons r rs ih =>
      intro c there quiescing waiting
      obtain ⟨stays, later⟩ := ih (serve_there there r) (serve_quiescing there quiescing r)
        (serve_waiting there waiting r)
      exact ⟨stays, (concludes_serve there quiescing waiting r).cons later⟩

end

/-- **A quiesce is final.**  A new queue manager is used in any way, quiesced, and used again in any
way.  Then every put is refused and every open that asks for that, and so is every send, with
nothing changed; and since the quiesce nothing was stored but the unit of work that there was,
behind the messages on the queues, by the first commit if no backout came before it. -/
theorem quiesced_run (o : ManagerOptions) (before after : List Request) :
    let base := (start o).serveAll before
    let now := (base.serve (.call .quiesce)).serveAll after
    now.manager.Refuses ∧ base.manager.Concludes now.manager after := by
  intro base now
  have there : base.manager.storageLost = false := serveAll_there before rfl
  have waiting : base.manager.Waiting :=
    serveAll_waiting before rfl (QueueManager.waiting_of_empty rfl)
  -- the quiesce itself sets the flag and leaves the rest as it is
  have quiesced : base.serve (.call .quiesce) =
      { base with manager := { base.manager with quiescing := true } } := by
    rw [serve, perform, QueueManager.quiesce_eq there]
  have last : now = ({ base with manager := { base.manager with quiescing := true } } :
      Connection).serveAll after := congrArg (·.serveAll after) quiesced
  obtain ⟨stays, concludes⟩ := concludes_serveAll after
    (c := { base with manager := { base.manager with quiescing := true } }) there rfl waiting
  rw [last]
  exact ⟨QueueManager.refuses_of_quiescing (serveAll_there after there) stays,
    concludes.committed, concludes.uncommitted, concludes.sequence, concludes.puts⟩

end Connection

end Courier
