import Courier.Proofs.Setting.Entries
import Courier.Proofs.Text.Span
import Courier.Setting.Path

/-!
# Courier — Proofs — Values at places

What is found at a place inside tables (`Setting.at?`), and how that changes when named values are
laid over a setting.  A value put at a place is found there (`at?_put_self`), and the places that
neither hold it nor lie inside it are as they were (`at?_put_of_diverge`).  Which of several values
is found at a place therefore depends on the values for that place alone (`at?_overlay`).

A name with dots or brackets is a path; every other name is one entry (`pathOf_eq_entry`).  So a
table without such names laid over nothing is that table again (`overlay_table`).
-/

namespace Courier.Setting

/-- The value that entry after entry leads to. -/
def at? : List String → Setting → Option Setting
  | [], v      => some v
  | n :: ns, v => (v.entries.lookup n).bind (at? ns)

theorem at?_cons (n : String) (ns : List String) (es : List (String × Setting)) :
    at? (n :: ns) (table es) = (es.lookup n).bind (at? ns) := rfl

/-- Nothing is inside of null. -/
theorem at?_null {p : List String} (h : p ≠ []) : at? p null = none := by
  cases p with
  | nil => exact absurd rfl h
  | cons n ns => rfl

theorem at?_getD_null (p : List String) (o : Option Setting) :
    (at? p (o.getD null)).getD null = (o.bind (at? p)).getD null := by
  cases o with
  | some v => rfl
  | none => cases p <;> rfl

/-- Neither place lies inside the other. -/
def Diverge (p q : List String) : Prop := ¬ p <+: q ∧ ¬ q <+: p

instance (p q : List String) : Decidable (Diverge p q) := by
  unfold Diverge; infer_instance

/-! ### Putting -/

/-- The path that goes from entry to entry. -/
def entryPath (p : List String) : Path := p.map .entry

theorem at?_put_self (value : Setting) (p : List String) : ∀ v : Setting,
    at? p (put value (entryPath p) v) = some (merge value ((at? p v).getD null)) := by
  induction p with
  | nil => intro v; rfl
  | cons n p ih =>
      intro v
      rw [entryPath, List.map_cons, put, at?_cons, lookup_updateEntry, if_pos rfl]
      exact (ih _).trans (congrArg (some <| merge value ·) (at?_getD_null p _))

theorem at?_put_of_diverge (value : Setting) {p : List String} :
    ∀ {q : List String}, Diverge p q → ∀ v : Setting,
      at? q (put value (entryPath p) v) = at? q v := by
  induction p with
  | nil => exact fun h => absurd List.nil_prefix h.1
  | cons n p ih =>
      intro q h v
      cases q with
      | nil => exact absurd List.nil_prefix h.2
      | cons m q =>
          rw [entryPath, List.map_cons, put, at?_cons, lookup_updateEntry, at?]
          by_cases hm : m = n
          · subst hm
            have further : Diverge p q := by
              simpa only [Diverge, List.cons_prefix_cons, true_and] using h
            have below : q ≠ [] := by
              rintro rfl
              exact further.2 List.nil_prefix
            rw [if_pos rfl]
            refine (ih further _).trans ?_
            cases v.entries.lookup m with
            | none => exact at?_null below
            | some w => rfl
          · rw [if_neg hm]

/-! ### Names as paths -/

/-- A name that is one entry: neither a dot nor an opening bracket is in it. -/
def IsPlain (name : String) : Prop := ∀ c ∈ name.toList, c ≠ '.' ∧ c ≠ '['

instance (name : String) : Decidable (IsPlain name) := List.decidableBAll _ _

theorem stepsFrom?_of_other {c : Char} (dot : c ≠ '.') (bracket : c ≠ '[') (fuel : Nat)
    (cs : List Char) : stepsFrom? fuel (c :: cs) = none := by
  cases fuel <;> simp [stepsFrom?, dot, bracket]

theorem pathOf_eq_entry {name : String} (h : IsPlain name) : pathOf name = entryPath [name] := by
  rw [pathOf, path?, Text.drop_takeWhile]
  split
  · rfl
  · cases rest : name.toList.dropWhile isNameChar with
    | nil =>
        -- the whole name is one word
        have word : name.toList.takeWhile isNameChar = name.toList := by
          have split := List.takeWhile_append_dropWhile (p := isNameChar) (l := name.toList)
          rwa [rest, List.append_nil] at split
        rw [word, stepsFrom?, String.ofList_toList]
        rfl
    | cons c cs =>
        have here : c ∈ name.toList := by
          refine (List.dropWhile_sublist isNameChar).subset ?_
          rw [rest]
          exact List.mem_cons_self ..
        rw [stepsFrom?_of_other (h c here).1 (h c here).2]
        rfl

/-! ### Laying over -/

theorem overlay_cons (name : String) (value : Setting) (source : List (String × Setting))
    (v : Setting) :
    overlay ((name, value) :: source) v = overlay source (put value (pathOf name) v) := rfl

/-- Plain names laid over a table go into it one by one. -/
theorem overlay_plain {source : List (String × Setting)} (h : ∀ e ∈ source, IsPlain e.1) :
    ∀ es : List (String × Setting), overlay source (table es) = table (mergeEntries source es) := by
  induction source with
  | nil => intro es; rw [mergeEntries]; rfl
  | cons e source ih =>
      intro es
      obtain ⟨name, value⟩ := e
      have plain : IsPlain name := h (name, value) (List.mem_cons_self ..)
      have first : put value (pathOf name) (table es) = table (updateEntry name (merge value) es) :=
        pathOf_eq_entry plain ▸ rfl
      rw [overlay_cons, first, mergeEntries]
      exact ih (fun d hd => h d (List.mem_cons_of_mem _ hd)) _

/-- **A table laid over nothing** is that table, if its names differ at every depth and those at
its root are plain. -/
theorem overlay_table {es : List (String × Setting)} (h : ∀ e ∈ es, IsPlain e.1)
    (distinct : (table es).Distinct) : overlay es (table []) = table es := by
  have same := merge_null distinct
  rw [merge] at same
  rw [overlay_plain h]
  exact same

/-- **The last word at a place.**  If values other than tables are laid over a setting, each at a
place that diverges from those of the others, the value for a place is found there, and without
one for it, what was there before. -/
theorem at?_overlay (source : List (String × Setting)) (place : String → List String)
    (paths : ∀ e ∈ source, pathOf e.1 = entryPath (place e.1))
    (single : ∀ e ∈ source, ∀ es, e.2 ≠ table es) {n : String}
    (apart : ∀ e ∈ source, e.1 ≠ n → Diverge (place e.1) (place n))
    (once : (source.map (·.1)).Nodup) :
    ∀ v, at? (place n) (overlay source v) = (source.lookup n).or (at? (place n) v) := by
  induction source with
  | nil => intro v; rfl
  | cons e source ih =>
      intro v
      obtain ⟨name, value⟩ := e
      obtain ⟨fresh, once⟩ := List.nodup_cons.mp once
      have later := ih (fun e he => paths e (List.mem_cons_of_mem _ he))
        (fun e he => single e (List.mem_cons_of_mem _ he))
        (fun e he => apart e (List.mem_cons_of_mem _ he)) once
      rw [overlay_cons, later]
      have path : pathOf name = entryPath (place name) := paths _ (List.mem_cons_self ..)
      rw [path, lookup_cons]
      by_cases hn : n = name
      · subst hn
        have none : source.lookup n = none := by
          rw [List.lookup_eq_none_iff]
          intro e he
          have other : n ≠ e.1 := fun same => fresh (List.mem_map.mpr ⟨e, he, same.symm⟩)
          simpa using other
        rw [none, if_pos rfl, at?_put_self,
          merge_of_single (single (n, value) (List.mem_cons_self ..))]
        rfl
      · rw [if_neg hn,
          at?_put_of_diverge value (apart (name, value) (List.mem_cons_self ..) (Ne.symm hn))]

end Courier.Setting
