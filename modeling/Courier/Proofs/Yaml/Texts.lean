import Courier.Proofs.Named
import Courier.Yaml.Node.Reader
import Mathlib.Logic.Basic
import Mathlib.Tactic.SplitIfs

/-!
# Courier — Proofs — Where the texts of values come from

The reader of values makes no texts: what is said of every text among the tokens, and of the empty
text, which stands for a value that is only a tag, is true of every text in the documents
(`texts_of_documents?`).
-/

namespace Courier.Yaml

variable {P : String → Prop}

/-- Every text in the value is one of those; keys aside. -/
inductive Node.Texts (P : String → Prop) : Node → Prop where
  | null : Texts P .null
  | flag (b : Bool) : Texts P (.flag b)
  | int (n : Int) : Texts P (.int n)
  | real (s : String) : Texts P (.real s)
  | unfit : Texts P .unfit
  | text {s : String} (h : P s) : Texts P (.text s)
  | sequence {items : List Node} (h : ∀ v ∈ items, Texts P v) : Texts P (.sequence items)
  | mapping {entries : List (Key × Node)} (h : ∀ e ∈ entries, Texts P e.2) :
      Texts P (.mapping entries)

/-! ### Texts without quotes -/

theorem Node.texts_ofPlain {s : String} (h : P s) : (ofPlain s).Texts P := by
  rw [ofPlain]
  split
  · exact .int _
  · split
    · exact .null
    · split
      · exact .flag _
      · exact .int _
      · split
        · exact .real s
        · exact .text h

theorem Node.texts_ofTagged {s : String} (type : String) (h : P s) : (ofTagged type s).Texts P := by
  rw [ofTagged]
  split_ifs
  · split
    · exact .flag _
    · exact .unfit
  · split
    · exact .int _
    · exact .unfit
  · exact .real s
  · exact .unfit
  · exact .null
  · exact .unfit
  · exact .text h

theorem Node.texts_entries? {vs : List Node} (h : ∀ v ∈ vs, v.Texts P) :
    ∀ {es : List (Key × Node)}, entries? vs = some es → ∀ e ∈ es, e.2.Texts P := by
  fun_induction entries? vs with
  | case1 v rest ih => exact ih fun w hw => h w (List.mem_cons_of_mem _ hw)
  | case2 k v rest _ ih =>
      intro es read
      simp only [Option.bind_eq_bind, Option.bind_eq_some_iff] at read
      obtain ⟨key, -, entries, later, read⟩ := read
      split_ifs at read
      cases read
      rw [List.forall_mem_cons] at h
      rw [List.forall_mem_cons] at h ⊢
      exact ⟨h.2.1, ih h.2.2 later⟩
  | case3 =>
      intro es read
      cases read
      exact fun _ no => by cases no

namespace Reading

/-- Every text among the tokens to come and in the values of the anchors is one of those. -/
structure Texts (P : String → Prop) (r : Reading) : Prop where
  tokens : ∀ plain s, .scalar plain s ∈ r.tokens → P s
  values : ∀ e ∈ r.values, e.2.Texts P

section
variable {r r' : Reading}

theorem Texts.goTo (h : r.Texts P) {ts : List Token} (later : ts ⊆ r.tokens) :
    (r.goTo ts).Texts P :=
  ⟨fun plain s mem => h.tokens plain s (later mem), h.values⟩

theorem Texts.of_cons (h : r.Texts P) {t : Token} {ts : List Token} (here : r.tokens = t :: ts) :
    (r.goTo ts).Texts P :=
  h.goTo (here ▸ List.subset_cons_self t ts)

theorem Texts.pass (h : r.Texts P) : r.pass.Texts P :=
  h.goTo (List.drop_subset 1 _)

/-- Past the comma before a part. -/
theorem Texts.comma (h : r.Texts P) (first : Bool) :
    (if first then r else r.pass).Texts P := by
  split
  · exact h
  · exact h.pass

theorem Texts.anchor (h : r.Texts P) (name : String) : (r.anchor name).2.Texts P :=
  ⟨h.tokens, h.values⟩

theorem Texts.finish (h : r.Texts P) {p : Properties} {v v' : Node} (hv : v.Texts P)
    (same : some (r.finish p v) = some (v', r')) : v'.Texts P ∧ r'.Texts P := by
  rw [Reading.finish] at same
  split at same
  · cases same
    refine ⟨hv, h.tokens, fun e he => ?_⟩
    rcases List.mem_cons.mp he with rfl | he
    · exact hv
    · exact h.values e he
  · cases same
    exact ⟨hv, h⟩

theorem texts_scalar (p : Properties) (plain : Bool) {content : String} (h : P content) :
    (scalar p plain content).Texts P := by
  rw [scalar]
  split_ifs
  · split
    · exact Node.texts_ofPlain h
    · exact Node.texts_ofTagged _ h
    · exact .text h
  · exact .text h

theorem texts_of_properties? {p : Properties} (h : r.Texts P)
    (read : r.properties? = some (p, r')) : r'.Texts P := by
  have two {t t' : Token} {ts : List Token} (here : r.tokens = t :: t' :: ts) (name : String) :
      ((r.anchor name).2.goTo ts).Texts P :=
    (h.anchor name).goTo fun u mem => here ▸ List.mem_cons_of_mem t (List.mem_cons_of_mem t' mem)
  rw [properties?] at read
  split at read
  · rename_i here
    simp only [Option.bind_eq_bind, Option.bind_eq_some_iff] at read
    obtain ⟨_, -, same⟩ := read
    cases same
    exact two here _
  · rename_i here
    simp only [Option.bind_eq_bind, Option.bind_eq_some_iff] at read
    obtain ⟨_, -, same⟩ := read
    cases same
    exact two here _
  · rename_i here
    cases read
    exact (h.anchor _).of_cons here
  · rename_i here
    simp only [Option.bind_eq_bind, Option.bind_eq_some_iff] at read
    obtain ⟨_, -, same⟩ := read
    cases same
    exact h.of_cons here
  · cases read
    exact h

end

/-! ### Values -/

/-- The answer of a reader, and what it leaves, have no other texts than what it was given. -/
def Answers (P : String → Prop) (read : Reading → Option (Node × Reading)) : Prop :=
  ∀ {r r' : Reading} {v : Node}, r.Texts P → read r = some (v, r') → v.Texts P ∧ r'.Texts P

def ListAnswers (P : String → Prop) (read : Reading → Option (List Node × Reading)) : Prop :=
  ∀ {r r' : Reading} {vs : List Node}, r.Texts P → read r = some (vs, r') →
    (∀ v ∈ vs, v.Texts P) ∧ r'.Texts P

/-- All readers, with that much fuel. -/
structure Readers (P : String → Prop) (fuel : Nat) : Prop where
  node        : ∀ block indentless, Answers P (node? block indentless fuel)
  before      : ∀ ends block indentless, Answers P (valueBefore? ends block indentless fuel)
  part        : ∀ ends block, Answers P (valuePart? ends block fuel)
  items       : ListAnswers P (blockItems? fuel)
  indentless  : ListAnswers P (indentlessItems? fuel)
  entries     : ListAnswers P (blockEntries? fuel)
  flowItems   : ∀ first, ListAnswers P (flowItems? first fuel)
  pair        : ListAnswers P (pair? fuel)
  flowEntries : ∀ first, ListAnswers P (flowEntries? first fuel)

section
variable {fuel : Nat}

theorem answers_absent (empty : P "") (p : Properties) : Answers P (absent p) := by
  intro r r' v h read
  rw [absent] at read
  split at read
  · exact h.finish (texts_scalar p true empty) read
  · cases read

section
variable (h : Readers P fuel)
include h

theorem Readers.node_succ (empty : P "") (block indentless : Bool) :
    Answers P (node? block indentless (fuel + 1)) := by
  intro r r' v texts read
  rw [node?] at read
  split at read
  · rename_i name rest here
    simp only [Option.bind_eq_bind, Option.bind_eq_some_iff] at read
    obtain ⟨n, -, same⟩ := read
    cases same
    refine ⟨?_, texts.of_cons here⟩
    cases found : r.values.lookup n with
    | none => exact .unfit
    | some v => exact texts.values (n, v) (mem_of_lookup found)
  simp only [Option.bind_eq_bind, Option.bind_eq_some_iff] at read
  obtain ⟨⟨p, r₁⟩, properties, read⟩ := read
  have texts := texts_of_properties? texts properties
  split at read
  · rename_i plain content rest here
    exact (texts.of_cons here).finish
      (texts_scalar p plain (texts.tokens plain content (here ▸ List.mem_cons_self ..))) read
  · rename_i rest here
    simp only [Option.bind_eq_some_iff] at read
    obtain ⟨⟨items, r₂⟩, found, same⟩ := read
    obtain ⟨values, left⟩ := h.flowItems true (texts.of_cons here) found
    exact left.finish (.sequence values) same
  · rename_i rest here
    simp only [Option.bind_eq_some_iff] at read
    obtain ⟨⟨items, r₂⟩, found, entries, listed, same⟩ := read
    obtain ⟨values, left⟩ := h.flowEntries true (texts.of_cons here) found
    exact left.finish (.mapping (Node.texts_entries? values listed)) same
  · rename_i rest here
    split at read
    · simp only [Option.bind_eq_some_iff] at read
      obtain ⟨⟨items, r₂⟩, found, same⟩ := read
      obtain ⟨values, left⟩ := h.items (texts.of_cons here) found
      exact left.finish (.sequence values) same
    · exact answers_absent empty p texts read
  · rename_i rest here
    split at read
    · simp only [Option.bind_eq_some_iff] at read
      obtain ⟨⟨items, r₂⟩, found, entries, listed, same⟩ := read
      obtain ⟨values, left⟩ := h.entries (texts.of_cons here) found
      exact left.finish (.mapping (Node.texts_entries? values listed)) same
    · exact answers_absent empty p texts read
  · split at read
    · simp only [Option.bind_eq_some_iff] at read
      obtain ⟨⟨items, r₂⟩, found, same⟩ := read
      obtain ⟨values, left⟩ := h.indentless texts found
      exact left.finish (.sequence values) same
    · exact answers_absent empty p texts read
  · exact answers_absent empty p texts read

theorem Readers.before_succ (ends : List Token) (block indentless : Bool) :
    Answers P (valueBefore? ends block indentless (fuel + 1)) := by
  intro r r' v texts read
  rw [valueBefore?] at read
  split at read
  · cases read
    exact ⟨.null, texts⟩
  · exact h.node block indentless texts read

theorem Readers.part_succ (ends : List Token) (block : Bool) :
    Answers P (valuePart? ends block (fuel + 1)) := by
  intro r r' v texts read
  rw [valuePart?] at read
  split at read
  · rename_i here
    exact h.before ends block block (texts.of_cons here) read
  · cases read
    exact ⟨.null, texts⟩

theorem Readers.items_succ : ListAnswers P (blockItems? (fuel + 1)) := by
  intro r r' vs texts read
  rw [blockItems?] at read
  split at read
  · rename_i here
    cases read
    exact ⟨List.forall_mem_nil _, texts.of_cons here⟩
  · rename_i here
    simp only [Option.bind_eq_bind, Option.bind_eq_some_iff] at read
    obtain ⟨⟨v, r₁⟩, first, ⟨vs, r₂⟩, later, same⟩ := read
    obtain ⟨value, left⟩ := h.before _ _ _ (texts.of_cons here) first
    obtain ⟨values, left⟩ := h.items left later
    cases same
    exact ⟨List.forall_mem_cons.mpr ⟨value, values⟩, left⟩
  · cases read

theorem Readers.indentless_succ : ListAnswers P (indentlessItems? (fuel + 1)) := by
  intro r r' vs texts read
  rw [indentlessItems?] at read
  split at read
  · rename_i here
    simp only [Option.bind_eq_bind, Option.bind_eq_some_iff] at read
    obtain ⟨⟨v, r₁⟩, first, ⟨vs, r₂⟩, later, same⟩ := read
    obtain ⟨value, left⟩ := h.before _ _ _ (texts.of_cons here) first
    obtain ⟨values, left⟩ := h.indentless left later
    cases same
    exact ⟨List.forall_mem_cons.mpr ⟨value, values⟩, left⟩
  · cases read
    exact ⟨List.forall_mem_nil _, texts⟩

theorem Readers.entries_succ : ListAnswers P (blockEntries? (fuel + 1)) := by
  intro r r' vs texts read
  rw [blockEntries?] at read
  split at read
  · rename_i here
    cases read
    exact ⟨List.forall_mem_nil _, texts.of_cons here⟩
  · rename_i here
    simp only [Option.bind_eq_bind, Option.bind_eq_some_iff] at read
    obtain ⟨⟨k, r₁⟩, first, ⟨v, r₂⟩, second, ⟨vs, r₃⟩, later, same⟩ := read
    obtain ⟨key, left⟩ := h.before _ _ _ (texts.of_cons here) first
    obtain ⟨value, left⟩ := h.part _ _ left second
    obtain ⟨values, left⟩ := h.entries left later
    cases same
    exact ⟨List.forall_mem_cons.mpr ⟨key, List.forall_mem_cons.mpr ⟨value, values⟩⟩, left⟩
  · simp only [Option.bind_eq_bind, Option.bind_eq_some_iff] at read
    obtain ⟨⟨v, r₂⟩, second, ⟨vs, r₃⟩, later, same⟩ := read
    obtain ⟨value, left⟩ := h.part _ _ texts second
    obtain ⟨values, left⟩ := h.entries left later
    cases same
    exact ⟨List.forall_mem_cons.mpr ⟨.null, List.forall_mem_cons.mpr ⟨value, values⟩⟩, left⟩
  · cases read

theorem Readers.pair_succ : ListAnswers P (pair? (fuel + 1)) := by
  intro r r' vs texts read
  rw [pair?] at read
  obtain ⟨k, r₁, v, r₂, key, left, second, same⟩ : ∃ k r₁ v r₂, k.Texts P ∧ r₁.Texts P ∧
      valuePart? [.flowEntry, .flowSequenceEnd] false fuel r₁ = some (v, r₂) ∧
      some ([k, v], r₂) = some (vs, r') := by
    split at read
    · simp only [Option.bind_eq_bind, Option.bind_eq_some_iff] at read
      obtain ⟨⟨k, r₁⟩, first, ⟨v, r₂⟩, second, same⟩ := read
      cases first
      exact ⟨_, _, v, r₂, .null, texts.pass, second, same⟩
    · simp only [Option.bind_eq_bind, Option.bind_eq_some_iff] at read
      obtain ⟨⟨k, r₁⟩, first, ⟨v, r₂⟩, second, same⟩ := read
      obtain ⟨key, left⟩ := h.node _ _ texts first
      exact ⟨k, r₁, v, r₂, key, left, second, same⟩
  obtain ⟨value, left⟩ := h.part _ _ left second
  cases same
  exact ⟨List.forall_mem_cons.mpr ⟨key, List.forall_mem_cons.mpr ⟨value, List.forall_mem_nil _⟩⟩,
    left⟩

theorem Readers.flowItems_succ (first : Bool) : ListAnswers P (flowItems? first (fuel + 1)) := by
  intro r r' vs texts read
  rw [flowItems?] at read
  split at read
  · cases read
    exact ⟨List.forall_mem_nil _, texts.pass⟩
  split at read
  · cases read
  have texts := texts.comma first
  generalize (if first = true then r else r.pass) = r₁ at texts read
  dsimp only at read
  split at read
  · rename_i here
    cases read
    exact ⟨List.forall_mem_nil _, texts.of_cons here⟩
  · rename_i here
    simp only [Option.bind_eq_bind, Option.bind_eq_some_iff] at read
    obtain ⟨⟨entry, r₁⟩, pair, ⟨vs, r₂⟩, later, entries, listed, same⟩ := read
    obtain ⟨values, left⟩ := h.pair (texts.of_cons here) pair
    obtain ⟨more, left⟩ := h.flowItems false left later
    cases same
    exact ⟨List.forall_mem_cons.mpr ⟨.mapping (Node.texts_entries? values listed), more⟩, left⟩
  · simp only [Option.bind_eq_bind, Option.bind_eq_some_iff] at read
    obtain ⟨⟨v, r₁⟩, first, ⟨vs, r₂⟩, later, same⟩ := read
    obtain ⟨value, left⟩ := h.node _ _ texts first
    obtain ⟨values, left⟩ := h.flowItems false left later
    cases same
    exact ⟨List.forall_mem_cons.mpr ⟨value, values⟩, left⟩

theorem Readers.flowEntries_succ (first : Bool) :
    ListAnswers P (flowEntries? first (fuel + 1)) := by
  intro r r' vs texts read
  rw [flowEntries?] at read
  split at read
  · cases read
    exact ⟨List.forall_mem_nil _, texts.pass⟩
  split at read
  · cases read
  have texts := texts.comma first
  generalize (if first = true then r else r.pass) = r₁ at texts read
  dsimp only at read
  split at read
  · rename_i here
    cases read
    exact ⟨List.forall_mem_nil _, texts.of_cons here⟩
  · rename_i here
    simp only [Option.bind_eq_bind, Option.bind_eq_some_iff] at read
    obtain ⟨⟨k, r₁⟩, first, ⟨v, r₂⟩, second, ⟨vs, r₃⟩, later, same⟩ := read
    obtain ⟨key, left⟩ := h.before _ _ _ (texts.of_cons here) first
    obtain ⟨value, left⟩ := h.part _ _ left second
    obtain ⟨values, left⟩ := h.flowEntries false left later
    cases same
    exact ⟨List.forall_mem_cons.mpr ⟨key, List.forall_mem_cons.mpr ⟨value, values⟩⟩, left⟩
  · simp only [Option.bind_eq_bind, Option.bind_eq_some_iff] at read
    obtain ⟨⟨v, r₂⟩, second, ⟨vs, r₃⟩, later, same⟩ := read
    obtain ⟨value, left⟩ := h.part _ _ texts second
    obtain ⟨values, left⟩ := h.flowEntries false left later
    cases same
    exact ⟨List.forall_mem_cons.mpr ⟨.null, List.forall_mem_cons.mpr ⟨value, values⟩⟩, left⟩
  · simp only [Option.bind_eq_bind, Option.bind_eq_some_iff] at read
    obtain ⟨⟨k, r₁⟩, first, ⟨vs, r₂⟩, later, same⟩ := read
    obtain ⟨key, left⟩ := h.node _ _ texts first
    obtain ⟨values, left⟩ := h.flowEntries false left later
    cases same
    exact ⟨List.forall_mem_cons.mpr ⟨key, List.forall_mem_cons.mpr ⟨.null, values⟩⟩, left⟩

end

/-- **No reader of values** makes a text. -/
theorem readers (empty : P "") (fuel : Nat) : Readers P fuel := by
  induction fuel with
  | zero =>
      exact {
        node        := fun _ _ _ _ _ _ no => by cases no
        before      := fun _ _ _ _ _ _ _ no => by cases no
        part        := fun _ _ _ _ _ _ no => by cases no
        items       := fun _ no => by cases no
        indentless  := fun _ no => by cases no
        entries     := fun _ no => by cases no
        flowItems   := fun _ _ _ _ _ no => by cases no
        pair        := fun _ no => by cases no
        flowEntries := fun _ _ _ _ _ no => by cases no }
  | succ fuel ih =>
      exact {
        node        := ih.node_succ empty
        before      := ih.before_succ
        part        := ih.part_succ
        items       := ih.items_succ
        indentless  := ih.indentless_succ
        entries     := ih.entries_succ
        flowItems   := ih.flowItems_succ
        pair        := ih.pair_succ
        flowEntries := ih.flowEntries_succ }

end

/-! ### Documents -/

theorem of_directives? {version : Bool} {ts : List Token} {r : Reading} : ∀ {r' : Reading},
    directives? version ts r = some r' → r'.tokens ⊆ ts ∧ r'.values = r.values := by
  fun_induction directives? version ts r with
  | case1 => exact fun no => by cases no
  | case2 version rest r _ ih =>
      intro r' read
      obtain ⟨tokens, values⟩ := ih read
      exact ⟨List.subset_cons_of_subset _ tokens, values⟩
  | case3 version handle expansion rest r ih =>
      intro r' read
      obtain ⟨tokens, values⟩ := ih read
      exact ⟨List.subset_cons_of_subset _ tokens, values⟩
  | case4 =>
      intro r' read
      cases read
      exact ⟨List.Subset.refl _, rfl⟩

theorem answers_document? (empty : P "") (fuel : Nat) : Answers P (document? fuel) := by
  intro r r' v texts read
  rw [document?] at read
  rcases ite_eq_iff.mp read with ⟨-, read⟩ | ⟨-, read⟩
  · cases read
    exact ⟨.null, texts⟩
  · exact (readers empty fuel).node true false texts read

theorem texts_of_documentsFrom? (empty : P "") {valueFuel fuel : Nat} : ∀ {bare : Bool}
    {tokens : List Token} {vs : List Node}, (∀ plain s, .scalar plain s ∈ tokens → P s) →
    documentsFrom? valueFuel fuel bare tokens = some vs → ∀ v ∈ vs, v.Texts P := by
  induction fuel with
  | zero => exact fun _ no => by cases no
  | succ fuel ih =>
      intro bare tokens vs known read
      rw [documentsFrom?] at read
      obtain ⟨rest, rest_eq⟩ : ∃ rest, rest = tokens.dropWhile (· = .documentEnd) := ⟨_, rfl⟩
      rw [← rest_eq] at read
      have texts : ({ tokens := rest } : Reading).Texts P := by
        refine ⟨fun plain s mem => known plain s ?_, fun _ no => by cases no⟩
        exact (List.dropWhile_sublist _).subset (rest_eq ▸ mem)
      dsimp only at read
      split at read
      · cases read
        exact List.forall_mem_nil _
      -- the documents after one
      have later {v : Node} {r : Reading} (value : v.Texts P) (left : r.Texts P)
          (read : (if r.atAny [.documentEnd] then do
              let vs ← documentsFrom? valueFuel fuel true (r.tokens.drop 1)
              return v :: vs
            else if startsDirective r.tokens then do
              let vs ← none
              return v :: vs
            else do
              let vs ← documentsFrom? valueFuel fuel false r.tokens
              return v :: vs) = some vs) : ∀ w ∈ vs, w.Texts P := by
        rcases ite_eq_iff.mp read with ⟨-, read⟩ | ⟨-, read⟩
        · obtain ⟨ws, others, same⟩ := Option.bind_eq_some_iff.mp read
          cases same
          exact List.forall_mem_cons.mpr ⟨value, ih left.pass.tokens others⟩
        rcases ite_eq_iff.mp read with ⟨-, read⟩ | ⟨-, read⟩
        · cases read
        · obtain ⟨ws, others, same⟩ := Option.bind_eq_some_iff.mp read
          cases same
          exact List.forall_mem_cons.mpr ⟨value, ih left.tokens others⟩
      split at read
      · split at read
        · rename_i r₀ directives
          obtain ⟨tokens, values⟩ := of_directives? directives
          have texts : r₀.Texts P :=
            ⟨fun plain s mem => texts.tokens plain s (tokens mem), fun e he => by
              rw [values] at he
              cases he⟩
          split at read
          · rename_i here
            obtain ⟨⟨v, r⟩, first, read⟩ := Option.bind_eq_some_iff.mp read
            obtain ⟨value, left⟩ := answers_document? empty valueFuel (texts.of_cons here) first
            exact later value left read
          · cases read
        · cases read
      · split at read
        · obtain ⟨⟨v, r⟩, first, read⟩ := Option.bind_eq_some_iff.mp read
          obtain ⟨value, left⟩ := (readers empty valueFuel).node true false texts first
          exact later value left read
        · cases read

end Reading

/-- **Documents** have the texts of the tokens. -/
theorem texts_of_documents? {text : List Char} {vs : List Node} (empty : P "")
    (known : ∀ tokens, Token.ofText? text = some tokens → ∀ plain s, .scalar plain s ∈ tokens → P s)
    (read : Node.documents? text = some vs) : ∀ v ∈ vs, v.Texts P := by
  simp only [Node.documents?, Option.bind_eq_bind, Option.bind_eq_some_iff] at read
  obtain ⟨tokens, lexed, read⟩ := read
  exact Reading.texts_of_documentsFrom? empty (known tokens lexed) read

end Courier.Yaml
