import Courier.Proofs.Binary64.Text
import Courier.Proofs.Setting.Entries
import Courier.Proofs.Yaml.Texts
import Courier.Setting.Convert
import Courier.Setting.Path

/-!
# Courier — Proofs — Where the texts of settings come from

Settings are made from YAML values and laid over one another without making a text: what is said of
every text in the sources is true of every text in the result (`texts_ofYaml?`, `texts_overlay`).
A field that takes a text can also be given a flag or a number, which is written in one line
(`of_text?`).
-/

namespace Courier.Setting

variable {P : String → Prop}

/-- Every text in the value is one of those; names aside. -/
inductive Texts (P : String → Prop) : Setting → Prop where
  | null : Texts P .null
  | flag (b : Bool) : Texts P (.flag b)
  | int (n : Int) : Texts P (.int n)
  | real (x : Binary64) : Texts P (.real x)
  | text {s : String} (h : P s) : Texts P (.text s)
  | list {items : List Setting} (h : ∀ v ∈ items, Texts P v) : Texts P (.list items)
  | table {entries : List (String × Setting)} (h : ∀ e ∈ entries, Texts P e.2) :
      Texts P (.table entries)

theorem Texts.entries {v : Setting} (h : v.Texts P) : ∀ e ∈ v.entries, e.2.Texts P := by
  cases h with
  | table h => exact h
  | _ => exact List.forall_mem_nil _

theorem Texts.items {v : Setting} (h : v.Texts P) : ∀ w ∈ v.items, w.Texts P := by
  cases h with
  | list h => exact h
  | _ => exact List.forall_mem_nil _

theorem texts_updateEntry {name : String} {f : Setting → Setting} {es : List (String × Setting)}
    (h : ∀ e ∈ es, e.2.Texts P) (step : ∀ v, v.Texts P → (f v).Texts P) :
    ∀ e ∈ updateEntry name f es, e.2.Texts P := by
  induction es with
  | nil =>
      intro e he
      rw [List.mem_singleton.mp he]
      exact step _ .null
  | cons d es ih =>
      rw [List.forall_mem_cons] at h
      rw [updateEntry]
      split
      · exact List.forall_mem_cons.mpr ⟨step _ h.1, h.2⟩
      · exact List.forall_mem_cons.mpr ⟨h.1, ih h.2⟩

/-! ### Laying over -/

mutual

theorem texts_merge : ∀ {incoming v : Setting}, incoming.Texts P → v.Texts P →
    (merge incoming v).Texts P
  | .table es, v, h, hv => by
      rw [merge]
      exact .table (texts_mergeEntries h.entries hv.entries)
  | .null, _, h, _ | .flag _, _, h, _ | .int _, _, h, _ | .real _, _, h, _ | .text _, _, h, _
  | .list _, _, h, _ => by
      rw [merge]
      · exact h
      · intro es no
        cases no

theorem texts_mergeEntries : ∀ {incoming entries : List (String × Setting)},
    (∀ e ∈ incoming, e.2.Texts P) → (∀ e ∈ entries, e.2.Texts P) →
    ∀ e ∈ mergeEntries incoming entries, e.2.Texts P
  | [], entries, _, h => by
      rw [mergeEntries]
      exact h
  | (n, v) :: es, entries, h, h' => by
      rw [List.forall_mem_cons] at h
      rw [mergeEntries]
      exact texts_mergeEntries h.2 (texts_updateEntry h' fun w hw => texts_merge h.1 hw)

end

theorem mem_or_of_mem_modify {f : Setting → Setting} {vs : List Setting} {n : Nat} {v : Setting}
    (h : v ∈ vs.modify n f) : v ∈ vs ∨ ∃ w ∈ vs, v = f w := by
  obtain ⟨i, hi, rfl⟩ := List.mem_iff_getElem.mp h
  rw [List.length_modify] at hi
  rw [List.getElem_modify]
  split
  · exact .inr ⟨_, List.getElem_mem hi, rfl⟩
  · exact .inl (List.getElem_mem hi)

theorem texts_updateItem {i : Int} {f : Setting → Setting} {vs : List Setting}
    (h : ∀ v ∈ vs, v.Texts P) (step : ∀ v, v.Texts P → (f v).Texts P) :
    ∀ v ∈ updateItem i f vs, v.Texts P := by
  have fill (n : Nat) : ∀ v ∈ List.replicate n null, v.Texts P := fun v hv => by
    rw [List.eq_of_mem_replicate hv]
    exact .null
  have modified {ws : List Setting} (known : ∀ v ∈ ws, v.Texts P) (n : Nat) :
      ∀ v ∈ ws.modify n f, v.Texts P := fun v hv => by
    rcases mem_or_of_mem_modify hv with hv | ⟨w, hw, rfl⟩
    · exact known v hv
    · exact step w (known w hw)
  rw [updateItem]
  dsimp only
  split_ifs
  · exact modified (List.forall_mem_append.mpr ⟨h, fill _⟩) _
  · exact modified (List.forall_mem_append.mpr ⟨fill _, h⟩) _

theorem texts_put {value : Setting} (h : value.Texts P) : ∀ {path : Path} {v : Setting},
    v.Texts P → (put value path v).Texts P
  | [], v, hv => texts_merge h hv
  | .entry name :: path, v, hv => by
      rw [put]
      exact .table (texts_updateEntry hv.entries fun w hw => texts_put h hw)
  | .position i :: path, v, hv => by
      rw [put]
      exact .list (texts_updateItem hv.items fun w hw => texts_put h hw)

/-- **Laying over** makes no text. -/
theorem texts_overlay {source : List (String × Setting)} (h : ∀ e ∈ source, e.2.Texts P) :
    ∀ {v : Setting}, v.Texts P → (overlay source v).Texts P := by
  induction source with
  | nil => exact fun hv => hv
  | cons e source ih =>
      intro v hv
      rw [List.forall_mem_cons] at h
      exact ih h.2 (texts_put h.1 hv)

/-! ### From YAML -/

mutual

theorem texts_ofYaml? : ∀ {n : Yaml.Node} {v : Setting}, n.Texts P → ofYaml? n = some v →
    v.Texts P
  | .null, v, _, h | .unfit, v, _, h => by
      rw [ofYaml?] at h
      cases h
      exact .null
  | .flag _, v, _, h => by
      rw [ofYaml?] at h
      cases h
      exact .flag _
  | .int _, v, _, h => by
      rw [ofYaml?] at h
      cases h
      exact .int _
  | .text s, v, .text hs, h => by
      rw [ofYaml?] at h
      cases h
      exact .text hs
  | .real s, v, _, h => by
      rw [ofYaml?, Option.map_eq_some_iff] at h
      obtain ⟨x, -, rfl⟩ := h
      exact .real x
  | .sequence items, v, .sequence texts, h => by
      rw [ofYaml?, Option.map_eq_some_iff] at h
      obtain ⟨vs, hvs, rfl⟩ := h
      exact .list (texts_ofYamlItems? texts hvs)
  | .mapping entries, v, .mapping texts, h => by
      rw [ofYaml?, Option.map_eq_some_iff] at h
      obtain ⟨es, hes, rfl⟩ := h
      exact .table (texts_ofYamlEntries? texts hes (List.forall_mem_nil _))

theorem texts_ofYamlItems? : ∀ {items : List Yaml.Node} {vs : List Setting},
    (∀ n ∈ items, n.Texts P) → ofYamlItems? items = some vs → ∀ v ∈ vs, v.Texts P
  | [], vs, _, h => by
      rw [ofYamlItems?] at h
      cases h
      exact List.forall_mem_nil _
  | n :: items, vs, texts, h => by
      simp only [ofYamlItems?, Option.bind_eq_bind, Option.bind_eq_some_iff] at h
      obtain ⟨v, hv, ws, hws, same⟩ := h
      cases same
      rw [List.forall_mem_cons] at texts ⊢
      exact ⟨texts_ofYaml? texts.1 hv, texts_ofYamlItems? texts.2 hws⟩

theorem texts_ofYamlEntries? : ∀ {entries : List (Yaml.Key × Yaml.Node)}
    {done es : List (String × Setting)}, (∀ e ∈ entries, e.2.Texts P) →
    ofYamlEntries? done entries = some es → (∀ e ∈ done, e.2.Texts P) → ∀ e ∈ es, e.2.Texts P
  | [], done, es, _, h, known => by
      rw [ofYamlEntries?] at h
      cases h
      exact known
  | (k, n) :: entries, done, es, texts, h, known => by
      rw [List.forall_mem_cons] at texts
      rw [ofYamlEntries?] at h
      obtain ⟨v, hv, rest⟩ := Option.bind_eq_some_iff.mp h
      have value := texts_ofYaml? texts.1 hv
      exact texts_ofYamlEntries? texts.2 rest (texts_updateEntry known fun _ _ => value)

end

/-! ### As values of fields -/

theorem texts_fields? {names : List String} {v : Setting} {fs : List (String × Setting)}
    (h : v.Texts P) (read : v.fields? names = some fs) : ∀ e ∈ fs, e.2.Texts P := by
  cases v with
  | table es =>
      cases read
      exact h.entries
  | list vs =>
      cases read
      exact fun e he => h.items e.2 (List.of_mem_zip he).2
  | _ => cases read

/-- The value of a field is its default or was read. -/
theorem of_fieldOr? {α : Type} {fs : List (String × Setting)} {name : String} {default x : α}
    {read : Setting → Option α} {P : α → Prop} (h : fieldOr? fs name default read = some x)
    (base : P default) (step : ∀ {v}, fs.lookup name = some v → read v = some x → P x) : P x := by
  rw [fieldOr?] at h
  split at h
  · rename_i v found
    exact step found h
  · cases h
    exact base

/-- A text of a field is one of those, or it is a flag or a number. -/
theorem of_text? {v : Setting} {s : String} (h : v.Texts P) (read : v.text? = some s) :
    P s ∨ ∀ c ∈ s.toList, Binary64.isNumberChar c := by
  cases h with
  | text h =>
      cases read
      exact .inl h
  | int n =>
      cases read
      exact .inr fun c hc => Binary64.isNumberChar_of_mem_toString hc
  | flag b =>
      cases read
      refine .inr (List.all_eq_true.mp ?_)
      cases b <;> decide
  | real x =>
      cases read
      exact .inr fun c hc => Binary64.isNumberChar_of_mem_display hc
  | _ => cases read

end Courier.Setting
