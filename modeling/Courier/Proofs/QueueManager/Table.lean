import Courier.QueueManager

/-!
# Courier — Proofs — What a table of queues holds

A table of queues is read in two ways: which queues it defines, and which messages a queue holds
(`QueueTable.messages`, none for a queue that is not defined).  The first half of this file says
how each change of a table acts on both.

The second half is about `QueueTable.deliver`, which puts every message of a list at the end of
its queue, as a commit does:

* `find?_deliver`: a defined queue gets the messages addressed to it, in order, and nothing else;
  messages for a queue that is not defined are dropped.
* `define_deliver`, `append_deliver`, `inhibit_deliver`: a change of the table made before a
  delivery can be made after it, as long as every message has a queue.
-/

namespace Courier

/-- The messages of `ps` for a queue, in order. -/
def addressed (queue : String) (ps : List PendingMessage) : List StoredMessage :=
  (ps.filter (·.queue = queue)).map (·.message)

@[simp] theorem addressed_nil (queue : String) : addressed queue [] = [] := rfl

theorem addressed_cons (queue : String) (p : PendingMessage) (ps : List PendingMessage) :
    addressed queue (p :: ps) = addressed queue [p] ++ addressed queue ps := by
  by_cases h : p.queue = queue <;> simp [addressed, h]

theorem addressed_singleton (queue : String) (p : PendingMessage) :
    addressed queue [p] = if p.queue = queue then [p.message] else [] := by
  by_cases h : p.queue = queue <;> simp [addressed, h]

theorem addressed_append (queue : String) (ps qs : List PendingMessage) :
    addressed queue (ps ++ qs) = addressed queue ps ++ addressed queue qs := by
  simp [addressed]

theorem mem_addressed {queue : String} {ps : List PendingMessage} {m : StoredMessage} :
    m ∈ addressed queue ps ↔ ⟨queue, m⟩ ∈ ps := by
  simp only [addressed, List.mem_map, List.mem_filter, decide_eq_true_eq]
  constructor
  · rintro ⟨⟨_, _⟩, ⟨h, rfl⟩, rfl⟩
    exact h
  · exact fun h => ⟨_, ⟨h, rfl⟩, rfl⟩

theorem addressed_eq_nil {queue : String} {ps : List PendingMessage}
    (h : ∀ p ∈ ps, p.queue ≠ queue) : addressed queue ps = [] := by
  rw [List.eq_nil_iff_forall_not_mem]
  exact fun m hm => h _ (mem_addressed.mp hm) rfl

theorem QueueManager.uncommittedDepth_eq (qm : QueueManager) (queue : String) :
    qm.uncommittedDepth queue = (addressed queue qm.uncommitted).length := by
  simp [uncommittedDepth, addressed]

namespace QueueTable

/-! ### Defined queues and their messages -/

/-- The messages of a queue, oldest first; a queue that is not defined has none. -/
def messages (t : QueueTable) (name : String) : List StoredMessage :=
  ((t.find? name).map (·.messages)).getD []

theorem messages_of_find? {t : QueueTable} {name : String} {q : LocalQueue}
    (h : t.find? name = some q) : t.messages name = q.messages := by
  rw [messages, h]; rfl

theorem defined_iff {t : QueueTable} {name : String} :
    t.defined name ↔ ∃ q, t.find? name = some q := by
  rw [defined, Option.isSome_iff_exists]

theorem messages_of_not_defined {t : QueueTable} {name : String} (h : ¬ t.defined name) :
    t.messages name = [] := by
  have : t.find? name = none := by simpa [defined] using h
  rw [messages, this]; rfl

theorem defined_define (t : QueueTable) (name n : String) :
    (t.define name).defined n ↔ n = name ∨ t.defined n := by
  rw [defined, find?_define]
  by_cases h : n = name <;> simp [h, defined]

theorem defined_modify (t : QueueTable) (name n : String) (f : LocalQueue → LocalQueue) :
    (t.modify name f).defined n = t.defined n := by
  rw [defined, find?_modify]
  split <;> simp [defined]

theorem defined_append (t : QueueTable) (name n : String) (m : StoredMessage) :
    (t.append name m).defined n = t.defined n :=
  t.defined_modify name n _

theorem messages_define (t : QueueTable) (name n : String) :
    (t.define name).messages n = t.messages n := by
  rw [messages, messages, find?_define]
  by_cases h : n = name
  · subst h
    cases hq : t.find? n <;> simp
  · rw [if_neg h]

/-- Whether puts to a queue are allowed says nothing about its messages. -/
theorem messages_inhibit (t : QueueTable) (name n : String) (inhibited : Bool) :
    (t.modify name fun q => { q with putInhibited := inhibited }).messages n = t.messages n := by
  rw [messages, messages, find?_modify]
  split
  · cases t.find? n <;> rfl
  · rfl

theorem messages_append {t : QueueTable} {name : String} (h : t.defined name) (n : String)
    (m : StoredMessage) :
    (t.append name m).messages n = t.messages n ++ addressed n [⟨name, m⟩] := by
  rw [messages, messages, find?_append, addressed_singleton]
  by_cases hn : n = name
  · subst hn
    obtain ⟨q, hq⟩ := defined_iff.mp h
    simp [hq]
  · rw [if_neg hn, if_neg (Ne.symm hn), List.append_nil]

/-! ### Delivery -/

/-- Puts every message at the end of its queue. -/
def deliver (t : QueueTable) (ps : List PendingMessage) : QueueTable :=
  ps.foldl (fun t p => t.append p.queue p.message) t

theorem deliver_cons (t : QueueTable) (p : PendingMessage) (ps : List PendingMessage) :
    t.deliver (p :: ps) = (t.append p.queue p.message).deliver ps := rfl

/-- A message put at the end of its queue after a delivery is the last one delivered. -/
theorem append_deliver (t : QueueTable) (ps : List PendingMessage) (p : PendingMessage) :
    (t.deliver ps).append p.queue p.message = t.deliver (ps ++ [p]) := by
  simp [deliver]

theorem find?_deliver (t : QueueTable) (ps : List PendingMessage) (n : String) :
    (t.deliver ps).find? n =
      (t.find? n).map fun q => { q with messages := q.messages ++ addressed n ps } := by
  induction ps generalizing t with
  | nil => cases h : t.find? n <;> simp [deliver, h]
  | cons p ps ih =>
      -- the first message changes the table that the others are delivered to
      rw [deliver_cons, ih, find?_append, addressed_cons, addressed_singleton]
      by_cases h : n = p.queue
      · cases t.find? n <;> simp [h]
      · simp [h, Ne.symm h]

theorem defined_deliver (t : QueueTable) (ps : List PendingMessage) (n : String) :
    (t.deliver ps).defined n = t.defined n := by
  rw [defined, find?_deliver, Option.isSome_map, defined]

theorem messages_deliver_of_defined {t : QueueTable} {n : String} (h : t.defined n)
    (ps : List PendingMessage) : (t.deliver ps).messages n = t.messages n ++ addressed n ps := by
  obtain ⟨q, hq⟩ := defined_iff.mp h
  rw [messages, messages, find?_deliver, hq]
  rfl

theorem messages_deliver_of_not_defined {t : QueueTable} {n : String} (h : ¬ t.defined n)
    (ps : List PendingMessage) : (t.deliver ps).messages n = [] :=
  messages_of_not_defined (by rwa [defined_deliver])

theorem messages_deliver {t : QueueTable} {ps : List PendingMessage}
    (h : ∀ p ∈ ps, t.defined p.queue) (n : String) :
    (t.deliver ps).messages n = t.messages n ++ addressed n ps := by
  by_cases hn : t.defined n
  · exact messages_deliver_of_defined hn ps
  · have none : addressed n ps = [] := addressed_eq_nil fun p hp e => hn (e ▸ h p hp)
    rw [messages_deliver_of_not_defined hn, messages_of_not_defined hn, none, List.append_nil]

/-- A delivery adds at most the messages addressed to a queue. -/
theorem messages_deliver_sublist (t : QueueTable) (ps : List PendingMessage) (n : String) :
    ((t.deliver ps).messages n).Sublist (t.messages n ++ addressed n ps) := by
  by_cases hn : t.defined n
  · have all := messages_deliver_of_defined hn ps
    exact all ▸ List.Sublist.refl _
  · rw [messages_deliver_of_not_defined hn]
    exact List.nil_sublist _

/-! ### Changes before and after a delivery -/

theorem define_append {t : QueueTable} {name : String} (h : t.defined name) (n : String)
    (m : StoredMessage) : (t.append name m).define n = (t.define n).append name m := by
  unfold define
  rw [defined_append]
  split
  · rfl
  · rename_i hn
    have : n ≠ name := fun e => hn (e ▸ h)
    simp [append, modify, this]

theorem define_deliver {t : QueueTable} {ps : List PendingMessage}
    (h : ∀ p ∈ ps, t.defined p.queue) (n : String) :
    (t.deliver ps).define n = (t.define n).deliver ps := by
  induction ps generalizing t with
  | nil => rfl
  | cons p ps ih =>
      have hp : t.defined p.queue := h p (List.mem_cons_self ..)
      rw [deliver_cons, deliver_cons, ih, define_append hp]
      exact fun q hq => by rw [defined_append]; exact h q (List.mem_cons_of_mem _ hq)

theorem modify_comm {f g : LocalQueue → LocalQueue} (h : ∀ q, f (g q) = g (f q))
    (t : QueueTable) (name n : String) :
    (t.modify n g).modify name f = (t.modify name f).modify n g := by
  simp only [modify, List.map_map]
  refine List.map_congr_left fun e _ => ?_
  obtain ⟨k, q⟩ := e
  by_cases hn : k = n
  · subst hn
    by_cases hname : k = name
    · subst hname; simp [h]
    · simp [hname]
  · by_cases hname : k = name
    · subst hname; simp [hn]
    · simp [hn, hname]

theorem inhibit_deliver (t : QueueTable) (name : String) (inhibited : Bool)
    (ps : List PendingMessage) :
    (t.deliver ps).modify name (fun q => { q with putInhibited := inhibited }) =
      (t.modify name fun q => { q with putInhibited := inhibited }).deliver ps := by
  induction ps generalizing t with
  | nil => rfl
  | cons p ps ih =>
      rw [deliver_cons, deliver_cons, ih, append, modify_comm]
      · rfl
      · exact fun _ => rfl

end QueueTable

end Courier
