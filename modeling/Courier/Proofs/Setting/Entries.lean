import Courier.Proofs.Named
import Courier.Setting

/-!
# Courier — Proofs — Entries of tables

How the entries of a table change (`updateEntry`), and tables whose names differ at every depth
(`Setting.Distinct`).  A mapping of a YAML text gives such a table (`distinct_ofYaml?`), and laying
such a table over nothing gives the table back (`merge_null`), so what a file says is what it is
taken to say.
-/

namespace Courier.Setting

/-! ### One entry -/

theorem lookup_updateEntry (name n : String) (f : Setting → Setting)
    (es : List (String × Setting)) :
    (updateEntry name f es).lookup n =
      if n = name then some (f ((es.lookup name).getD null)) else es.lookup n := by
  induction es with
  | nil => exact lookup_cons n name (f null) []
  | cons e es ih =>
      obtain ⟨m, v⟩ := e
      rw [updateEntry]
      by_cases hm : m = name
      · subst hm
        by_cases hn : n = m <;> simp [lookup_cons, hn]
      · rw [if_neg hm, lookup_cons, lookup_cons, lookup_cons, ih, if_neg (Ne.symm hm)]
        by_cases hn : n = m
        · subst hn
          rw [if_pos rfl, if_pos rfl, if_neg hm]
        · rw [if_neg hn, if_neg hn]

theorem updateEntry_of_not_mem {name : String} {es : List (String × Setting)}
    (h : name ∉ es.map (·.1)) (f : Setting → Setting) :
    updateEntry name f es = es ++ [(name, f null)] := by
  induction es with
  | nil => rfl
  | cons e es ih =>
      rw [List.map_cons, List.mem_cons, not_or] at h
      rw [updateEntry, if_neg (Ne.symm h.1), ih h.2]
      rfl

theorem mem_updateEntry {name : String} {f : Setting → Setting} {es : List (String × Setting)}
    {e : String × Setting} (h : e ∈ updateEntry name f es) : e ∈ es ∨ ∃ v, e = (name, f v) := by
  induction es with
  | nil => exact .inr ⟨null, List.mem_singleton.mp h⟩
  | cons d es ih =>
      rw [updateEntry] at h
      split at h
      · rename_i same
        rcases List.mem_cons.mp h with rfl | h
        · exact .inr ⟨d.2, by rw [same]⟩
        · exact .inl (List.mem_cons_of_mem _ h)
      · rcases List.mem_cons.mp h with rfl | h
        · exact .inl (List.mem_cons_self ..)
        · rcases ih h with h | h
          · exact .inl (List.mem_cons_of_mem _ h)
          · exact .inr h

theorem nodup_updateEntry {es : List (String × Setting)} (h : (es.map (·.1)).Nodup)
    (name : String) (f : Setting → Setting) : ((updateEntry name f es).map (·.1)).Nodup := by
  induction es with
  | nil => exact List.nodup_singleton name
  | cons d es ih =>
      obtain ⟨fresh, h⟩ := List.nodup_cons.mp h
      rw [updateEntry]
      split
      · exact List.nodup_cons.mpr ⟨fresh, h⟩
      · rename_i other
        refine List.nodup_cons.mpr ⟨fun again => ?_, ih h⟩
        obtain ⟨e, he, same⟩ := List.mem_map.mp again
        rcases mem_updateEntry he with he | ⟨v, rfl⟩
        · exact fresh (List.mem_map.mpr ⟨e, he, same⟩)
        · exact other same.symm

/-! ### Tables with different names -/

/-- No table in the value has two entries of one name, lists aside. -/
inductive Distinct : Setting → Prop where
  | table {es : List (String × Setting)} (names : (es.map (·.1)).Nodup)
      (values : ∀ e ∈ es, Distinct e.2) : Distinct (table es)
  | single {v : Setting} (h : ∀ es, v ≠ .table es) : Distinct v

/-- Anything but a table takes the place of what it is laid over. -/
theorem merge_of_single {v : Setting} (h : ∀ es, v ≠ table es) (under : Setting) :
    merge v under = v := by
  rw [merge]
  exact h

theorem mergeEntries_of_new {es : List (String × Setting)}
    (values : ∀ e ∈ es, merge e.2 null = e.2) :
    ∀ acc : List (String × Setting), ((acc ++ es).map (·.1)).Nodup →
      mergeEntries es acc = acc ++ es := by
  induction es with
  | nil => intro acc _; rw [mergeEntries, List.append_nil]
  | cons e es ih =>
      intro acc names
      obtain ⟨n, v⟩ := e
      have fresh : n ∉ acc.map (·.1) := by
        rw [List.map_append, List.map_cons] at names
        exact fun hn => (List.disjoint_of_nodup_append names) hn (List.mem_cons_self ..)
      have first : merge v null = v := values (n, v) (List.mem_cons_self ..)
      rw [mergeEntries, updateEntry_of_not_mem fresh, first,
        ih (fun e he => values e (List.mem_cons_of_mem _ he))]
      · rw [List.append_assoc]
        rfl
      · rwa [List.append_assoc]

/-- Laid over nothing, a value is what it was. -/
theorem merge_null {v : Setting} (h : v.Distinct) : merge v null = v := by
  induction h with
  | single h => exact merge_of_single h null
  | table names _ ih =>
      rw [merge]
      exact congrArg Setting.table (mergeEntries_of_new ih [] names)

/-! ### YAML values -/

mutual

theorem distinct_ofYaml? : ∀ (n : Yaml.Node) {v : Setting}, ofYaml? n = some v → v.Distinct
  | .null, v, h | .unfit, v, h | .flag _, v, h | .int _, v, h | .text _, v, h => by
      rw [ofYaml?] at h
      cases h
      exact .single fun _ => by simp
  | .real s, v, h => by
      rw [ofYaml?, Option.map_eq_some_iff] at h
      obtain ⟨x, -, rfl⟩ := h
      exact .single fun _ => by simp
  | .sequence items, v, h => by
      rw [ofYaml?, Option.map_eq_some_iff] at h
      obtain ⟨vs, -, rfl⟩ := h
      exact .single fun _ => by simp
  | .mapping entries, v, h => by
      rw [ofYaml?, Option.map_eq_some_iff] at h
      obtain ⟨es, hes, rfl⟩ := h
      obtain ⟨names, values⟩ := distinct_ofYamlEntries? entries hes List.nodup_nil
        (fun _ he => by cases he)
      exact .table names values

theorem distinct_ofYamlEntries? : ∀ (entries : List (Yaml.Key × Yaml.Node))
    {done es : List (String × Setting)}, ofYamlEntries? done entries = some es →
    (done.map (·.1)).Nodup → (∀ e ∈ done, e.2.Distinct) →
      (es.map (·.1)).Nodup ∧ ∀ e ∈ es, e.2.Distinct
  | [], done, es, h, names, values => by
      rw [ofYamlEntries?] at h
      cases h
      exact ⟨names, values⟩
  | (k, n) :: entries, done, es, h, names, values => by
      rw [ofYamlEntries?] at h
      obtain ⟨v, hv, rest⟩ := Option.bind_eq_some_iff.mp h
      refine distinct_ofYamlEntries? entries rest (nodup_updateEntry names k.name _)
        fun e he => ?_
      rcases mem_updateEntry he with he | ⟨_, rfl⟩
      · exact values e he
      · exact distinct_ofYaml? n hv

end

end Courier.Setting
