import Courier.Proofs.Producer.Send

/-!
# Courier — Proofs — Calls and sends, mixed

Clients of one queue manager make calls to it and to their handles (`Operation`), and they send
messages.  A `Request` is either.  A send may be of any message, also of one that an earlier send
left behind, and its handle is closed when it ends, so it is not among the handles that calls name.

What a run of requests shows to the outside is collected request by request
(`Connection.collect`); what each request preserves together with what was collected so far, a run
preserves (`Connection.serveAll_preserves`).
-/

namespace Courier

/-- What a client asks for. -/
inductive Request where
  | call (op : Operation)
  | send (p : Producer) (queue : String) (m : Message) (draw : Draw)

namespace Connection

/-- What a request leaves behind. -/
def serve (c : Connection) : Request → Connection
  | .call op              => c.perform op
  | .send p queue m draw => { c with manager := (p.send queue m draw c.manager).state }

def serveAll (c : Connection) (rs : List Request) : Connection := rs.foldl serve c

/-- What is noted of the requests of a run, in order; `note?` sees the state that a request
meets. -/
def collect {α : Type} (note? : Connection → Request → Option α) (c : Connection) :
    List Request → List α
  | []      => []
  | r :: rs => (note? c r).toList ++ (c.serve r).collect note? rs

/-- No request loses the storage. -/
theorem serve_there {c : Connection} (there : c.manager.storageLost = false) (r : Request) :
    (c.serve r).manager.storageLost = false := by
  cases r with
  | call op => exact (step_perform there op).there there
  | send p queue m draw =>
      have ending := p.ending_send queue m draw c.manager
      rw [serve]
      generalize p.send queue m draw c.manager = sent at ending
      cases ending <;> exact there

theorem serveAll_there (rs : List Request) : ∀ {c : Connection},
    c.manager.storageLost = false → (c.serveAll rs).manager.storageLost = false := by
  induction rs with
  | nil => exact fun there => there
  | cons r rs ih => exact fun there => ih (serve_there there r)

/-- **What every request preserves, a run preserves.**  `I` may speak of what was noted so far. -/
theorem serveAll_preserves {α : Type} {note? : Connection → Request → Option α}
    {I : List α → Connection → Prop}
    (step : ∀ {as c} r, c.manager.storageLost = false → I as c →
      I (as ++ (note? c r).toList) (c.serve r)) (rs : List Request) :
    ∀ as c, c.manager.storageLost = false → I as c →
      I (as ++ c.collect note? rs) (c.serveAll rs) := by
  induction rs with
  | nil => intro as c _ h; rw [collect, List.append_nil]; exact h
  | cons r rs ih =>
      intro as c there h
      have rest := ih _ _ (serve_there there r) (step r there h)
      rwa [List.append_assoc] at rest

/-- Notes of two kinds: whatever leaves one of the first kind leaves one of the second, which tells
the same. -/
theorem collect_sublist {α β γ : Type} {note? : Connection → Request → Option α}
    {other? : Connection → Request → Option β} (read : α → γ) (read' : β → γ)
    (h : ∀ c r a, c.manager.storageLost = false → note? c r = some a →
      ∃ b, other? c r = some b ∧ read a = read' b) (rs : List Request) :
    ∀ c : Connection, c.manager.storageLost = false →
      ((c.collect note? rs).map read).Sublist ((c.collect other? rs).map read') := by
  induction rs with
  | nil => exact fun _ _ => List.Sublist.refl _
  | cons r rs ih =>
      intro c there
      have rest := ih (c.serve r) (serve_there there r)
      rw [collect, collect, List.map_append, List.map_append]
      cases noted : note? c r with
      | none => exact rest.trans (List.sublist_append_right _ _)
      | some a =>
          obtain ⟨b, same, told⟩ := h c r a there noted
          rw [same]
          exact List.Sublist.append (by simp [told]) rest

/-- Only the requests of one kind leave notes. -/
theorem length_collect_le {α : Type} {note? : Connection → Request → Option α}
    {kind : Request → Bool} (h : ∀ c r a, note? c r = some a → kind r) (rs : List Request) :
    ∀ c : Connection, (c.collect note? rs).length ≤ rs.countP kind := by
  induction rs with
  | nil => exact fun _ => Nat.le_refl 0
  | cons r rs ih =>
      intro c
      have rest := ih (c.serve r)
      rw [collect, List.length_append, List.countP_cons]
      cases noted : note? c r with
      | none => simp only [Option.toList_none, List.length_nil]; omega
      | some a =>
          rw [if_pos (h c r a noted)]
          simp only [Option.toList_some, List.length_singleton]
          omega

end Connection

end Courier
