import Courier.Proofs.Yaml.Block
import Courier.Proofs.Yaml.FlowText
import Courier.Yaml.Node.Reader

/-!
# Courier — Proofs — Tokens as values

Tokens that stand for a value are read as it whatever comes after them (`ReadsAs`): texts, block
mappings and flow collections of such values, with fuel for twice their number.
-/

namespace Courier.Yaml

open Reading

/-! ### Values -/

/-- A token that stands for no value, where one is expected. -/
def endsValue (t : Token) : Bool :=
  [Token.key, .value, .blockEnd, .flowEntry, .flowSequenceEnd, .flowMappingEnd].contains t

/-- These tokens are read as `v`, unless an entry of a block sequence follows. -/
structure ReadsAs (block indentless : Bool) (tokens : List Token) (v : Node) : Prop where
  first : ∃ t ts, tokens = t :: ts ∧ endsValue t = false
  read  : ∀ {fuel : Nat} {r : Reading} {rest : List Token}, r.tokens = tokens ++ rest →
    rest.head? ≠ some .blockEntry → 2 * tokens.length ≤ fuel →
    node? block indentless fuel r = some (v, r.goTo rest)

section
variable {block indentless : Bool} {fuel : Nat} {r : Reading} {rest : List Token}

@[simp] theorem tokens_goTo (ts : List Token) : (r.goTo ts).tokens = ts := rfl

@[simp] theorem goTo_goTo (ts ts' : List Token) : (r.goTo ts).goTo ts' = r.goTo ts' := rfl

theorem node?_scalar {plain : Bool} {s : String} (h : r.tokens = .scalar plain s :: rest) :
    node? block indentless (fuel + 1) r = some (scalar {} plain s, r.goTo rest) := by
  rw [node?]
  simp [properties?, h, finish]

theorem readsAs_scalar (plain : Bool) (s : String) :
    ReadsAs block indentless [.scalar plain s] (scalar {} plain s) where
  first := ⟨_, [], rfl, rfl⟩
  read := by
    intro fuel r rest h _ enough
    obtain ⟨fuel, rfl⟩ : ∃ f, fuel = f + 1 := ⟨fuel - 1, by simp at enough; omega⟩
    exact node?_scalar h

theorem atAny_of_first {tokens : List Token} {ends : List Token}
    (first : ∃ t ts, tokens = t :: ts ∧ endsValue t = false) (h : r.tokens = tokens ++ rest)
    (known : ends.all endsValue) : r.atAny ends = false := by
  obtain ⟨t, ts, rfl, other⟩ := first
  rw [atAny, h]
  dsimp only [List.cons_append]
  rw [← Bool.not_eq_true, List.contains_iff_mem]
  intro mem
  rw [List.all_eq_true.mp known t mem] at other
  cases other

theorem ReadsAs.valueBefore? {tokens : List Token} {v : Node} {ends : List Token}
    (h : ReadsAs block indentless tokens v) (known : ends.all endsValue)
    (here : r.tokens = tokens ++ rest) (other : rest.head? ≠ some .blockEntry)
    (enough : 2 * tokens.length ≤ fuel) :
    Reading.valueBefore? ends block indentless (fuel + 1) r = some (v, r.goTo rest) := by
  rw [Reading.valueBefore?, atAny_of_first h.first here known]
  exact h.read here other enough

/-! ### Entries -/

/-- The keys and values in turn, with texts for keys. -/
def keysAndValues (es : List (String × Node)) : List Node := es.flatMap fun e => [.text e.1, e.2]

theorem entries?_keysAndValues {es : List (String × Node)} (once : (es.map (·.1)).Nodup) :
    Node.entries? (keysAndValues es) = some (es.map fun e => (.text e.1, e.2)) := by
  induction es with
  | nil => rfl
  | cons e es ih =>
      obtain ⟨name, v⟩ := e
      rw [List.map_cons, List.nodup_cons] at once
      have later := ih once.2
      have new : (es.map fun e => (Key.text e.1, e.2)).any (·.1 = .text name) = false := by
        rw [← Bool.not_eq_true, List.any_eq_true]
        rintro ⟨entry, mem, same⟩
        obtain ⟨e, he, rfl⟩ := List.mem_map.mp mem
        have same := Key.text.inj (of_decide_eq_true same)
        exact once.1 (List.mem_map.mpr ⟨e, he, same⟩)
      change Node.entries? (.text name :: v :: keysAndValues es) = _
      rw [Node.entries?, later]
      · simp [Node.key?, new]
      · intro no
        cases no

/-- Tokens of an entry of a block mapping that has this name and value. -/
def EntryReads (e : String × Node) (tokens : List Token) : Prop :=
  ∃ value, tokens = entryTokens e.1 value ∧ Node.ofPlain e.1 = .text e.1 ∧
    ReadsAs true true value e.2

theorem blockEntries?_of_reads {es : List (String × Node)} {tokens : List (List Token)}
    (h : List.Forall₂ EntryReads es tokens) : ∀ {fuel : Nat} {r : Reading} {rest : List Token},
    r.tokens = tokens.flatten ++ .blockEnd :: rest → 2 * tokens.flatten.length + 1 ≤ fuel →
    blockEntries? fuel r = some (keysAndValues es, r.goTo rest) := by
  induction h with
  | nil =>
      intro fuel r rest here enough
      obtain ⟨fuel, rfl⟩ : ∃ f, fuel = f + 1 := ⟨fuel - 1, by omega⟩
      have here : r.tokens = .blockEnd :: rest := here
      rw [blockEntries?, here]
      rfl
  | @cons e ts es tokens entry later ih =>
      obtain ⟨name, v⟩ := e
      obtain ⟨value, rfl, text, reads⟩ := entry
      intro fuel r rest here enough
      rw [List.flatten_cons] at enough
      simp only [entryTokens, List.cons_append, List.length_cons, List.length_append] at enough
      obtain ⟨fuel, rfl⟩ : ∃ f, fuel = f + 3 := ⟨fuel - 3, by omega⟩
      have here : r.tokens = .key :: .scalar true name :: .value ::
          (value ++ (tokens.flatten ++ .blockEnd :: rest)) := by
        rw [here]
        simp [entryTokens]
      have next : (tokens.flatten ++ .blockEnd :: rest).head? ≠ some .blockEntry := by
        cases later with
        | nil => simp
        | cons entry' later =>
            obtain ⟨value', rfl, -⟩ := entry'
            simp [entryTokens]
      have key : Reading.valueBefore? [.key, .value, .blockEnd] true true (fuel + 2)
          (r.goTo (.scalar true name ::
            .value :: (value ++ (tokens.flatten ++ .blockEnd :: rest)))) =
          some (.text name,
            r.goTo (.value :: (value ++ (tokens.flatten ++ .blockEnd :: rest)))) := by
        rw [Reading.valueBefore?, if_neg (by simp [atAny, goTo]), node?_scalar rfl]
        simp [scalar, text, goTo]
      have part : valuePart? [.key, .value, .blockEnd] true (fuel + 2)
          (r.goTo (.value :: (value ++ (tokens.flatten ++ .blockEnd :: rest)))) =
          some (v, r.goTo (tokens.flatten ++ .blockEnd :: rest)) := by
        rw [valuePart?]
        exact reads.valueBefore? (by decide) rfl next (by omega)
      rw [blockEntries?, here]
      simp only [Option.bind_eq_bind, key, Option.bind_some, part]
      rw [ih (show _ = tokens.flatten ++ .blockEnd :: rest from rfl) (by omega)]
      rfl

theorem readsAs_blockMapping {es : List (String × Node)} {tokens : List (List Token)}
    (once : (es.map (·.1)).Nodup) (h : List.Forall₂ EntryReads es tokens) :
    ReadsAs true indentless (.blockMapping :: (tokens.flatten ++ [.blockEnd]))
      (.mapping (es.map fun e => (.text e.1, e.2))) where
  first := ⟨_, _, rfl, rfl⟩
  read := by
    intro fuel r rest here _ enough
    simp only [List.length_cons, List.length_append, List.length_nil] at enough
    obtain ⟨fuel, rfl⟩ : ∃ f, fuel = f + 1 := ⟨fuel - 1, by omega⟩
    have here : r.tokens = .blockMapping :: (tokens.flatten ++ .blockEnd :: rest) := by
      rw [here]
      simp
    have entries := blockEntries?_of_reads h
      (show (r.goTo (tokens.flatten ++ .blockEnd :: rest)).tokens = _ from rfl)
      (by omega : 2 * tokens.flatten.length + 1 ≤ fuel)
    rw [node?]
    simp [properties?, here, finish, entries, entries?_keysAndValues once]

/-! ### Texts -/

/-- The value that a text becomes when it is written and read again. -/
def textNode (n : Nat) (s : String) : Node :=
  match styleOf s with
  | .plain        => .ofPlain s
  | .singleQuoted => .text (String.ofList (padded (pad (n + 2)) false s.toList))
  | _             => .text s

theorem textToken_eq (n : Nat) (s : String) :
    ∃ plain content, textToken n s = .scalar plain content ∧
      scalar {} plain content = textNode n s := by
  rw [textToken, textNode]
  cases styleOf s <;> exact ⟨_, _, rfl, rfl⟩

theorem readsAs_text (n : Nat) (s : String) :
    ReadsAs block indentless [textToken n s] (textNode n s) := by
  obtain ⟨plain, content, token, value⟩ := textToken_eq n s
  rw [token, ← value]
  exact readsAs_scalar plain content

theorem indentlessItems?_of_texts {n : Nat} {names : List String} :
    ∀ {fuel : Nat} {r : Reading} {rest : List Token},
    r.tokens = names.flatMap (itemTokens n) ++ rest → rest.head? ≠ some .blockEntry →
    2 * names.length + 1 ≤ fuel →
    indentlessItems? fuel r = some (names.map (textNode n), r.goTo rest) := by
  induction names with
  | nil =>
      intro fuel r rest here other enough
      obtain ⟨fuel, rfl⟩ : ∃ f, fuel = f + 1 := ⟨fuel - 1, by omega⟩
      obtain ⟨ts, anchors, values, handles⟩ := r
      have here : ts = rest := here
      subst here
      rw [indentlessItems?]
      dsimp only
      split
      · exact absurd rfl other
      · rfl
  | cons name names ih =>
      obtain ⟨plain, content, token, value⟩ := textToken_eq n name
      intro fuel r rest here other enough
      rw [List.length_cons] at enough
      obtain ⟨fuel, rfl⟩ : ∃ f, fuel = f + 3 := ⟨fuel - 3, by omega⟩
      have here : r.tokens = .blockEntry :: .scalar plain content ::
          (names.flatMap (itemTokens n) ++ rest) := by
        rw [here, ← token]
        rfl
      have item : Reading.valueBefore? [.blockEntry, .key, .value, .blockEnd] true false (fuel + 2)
          (r.goTo (.scalar plain content :: (names.flatMap (itemTokens n) ++ rest))) =
          some (textNode n name, r.goTo (names.flatMap (itemTokens n) ++ rest)) := by
        rw [Reading.valueBefore?, if_neg (by simp [atAny]), node?_scalar rfl, value]
        rfl
      rw [indentlessItems?, here]
      simp only [Option.bind_eq_bind, item, Option.bind_some]
      rw [ih (tokens_goTo ..) other (by omega)]
      rfl

theorem readsAs_texts (n : Nat) (names : List String) :
    ReadsAs block true (textsTokens n names) (.sequence (names.map (textNode n))) := by
  rw [textsTokens]
  split_ifs with some
  · subst some
    refine ⟨⟨_, _, rfl, rfl⟩, ?_⟩
    intro fuel r rest here _ enough
    obtain ⟨fuel, rfl⟩ : ∃ f, fuel = f + 2 := ⟨fuel - 2, by simp at enough; omega⟩
    rw [node?]
    simp [properties?, here, finish, flowItems?, atAny, Reading.pass]
    rfl
  · obtain ⟨name, names, rfl⟩ := List.exists_cons_of_ne_nil some
    refine ⟨⟨_, _, rfl, rfl⟩, ?_⟩
    intro fuel r rest here other enough
    have double : ((name :: names).flatMap (itemTokens n)).length = 2 * (name :: names).length := by
      simp [itemTokens]
      omega
    rw [double, List.length_cons] at enough
    obtain ⟨fuel, rfl⟩ : ∃ f, fuel = f + 1 := ⟨fuel - 1, by omega⟩
    have items := indentlessItems?_of_texts here other
      (by rw [List.length_cons]; omega : 2 * (name :: names).length + 1 ≤ fuel)
    have first : r.tokens = .blockEntry :: textToken n name ::
        (names.flatMap (itemTokens n) ++ rest) := here
    rw [node?]
    simp [properties?, first, finish, items]

/-! ### Flow collections -/

/-- The parts of a flow collection: all of them, or those after another part. -/
def partsTokens (first : Bool) (tokens : List (List Token)) : List Token :=
  if first then [Token.flowEntry].intercalate tokens else tokens.flatMap (.flowEntry :: ·)

theorem partsTokens_cons (first : Bool) (ts : List Token) (tokens : List (List Token)) :
    partsTokens first (ts :: tokens) =
      (if first then [] else [.flowEntry]) ++ (ts ++ partsTokens false tokens) := by
  cases first with
  | false => rfl
  | true =>
      rw [partsTokens, if_pos rfl, if_pos rfl, List.nil_append]
      induction tokens generalizing ts with
      | nil => simp [partsTokens]
      | cons ts' tokens ih =>
          rw [List.intercalate_cons_cons, ih]
          simp [partsTokens]

/-- After other parts there comes a comma. -/
theorem head?_partsTokens (tokens : List (List Token)) {last : Token} (rest : List Token)
    (other : last ≠ .blockEntry) :
    (partsTokens false tokens ++ last :: rest).head? ≠ some .blockEntry := by
  cases tokens with
  | nil => simpa [partsTokens] using other
  | cons ts tokens => simp [partsTokens]

/-- The next part, with a comma before it unless it is the first. -/
theorem comma_of_tokens {first : Bool} {last t : Token} {body : List Token}
    (here : r.tokens = (if first then [] else [.flowEntry]) ++ t :: body) (other : last ≠ t)
    (mark : last ≠ .flowEntry) :
    r.atAny [last] = false ∧ ¬ (¬ first ∧ ¬ r.atAny [.flowEntry]) ∧
      (if first then r else r.pass) = r.goTo (t :: body) := by
  obtain ⟨ts, anchors, values, handles⟩ := r
  obtain rfl : ts = _ := here
  cases first
  · exact ⟨by simpa [atAny] using mark.symm, by simp [atAny], rfl⟩
  · exact ⟨by simpa [atAny] using other.symm, by simp, rfl⟩

theorem flowItems?_of_reads {vs : List Node} {tokens : List (List Token)}
    (h : List.Forall₂ (fun v ts => ReadsAs false false ts v) vs tokens) :
    ∀ {first : Bool} {fuel : Nat} {r : Reading} {rest : List Token},
    r.tokens = partsTokens first tokens ++ .flowSequenceEnd :: rest →
    2 * (partsTokens first tokens).length + 1 ≤ fuel →
    flowItems? first fuel r = some (vs, r.goTo rest) := by
  induction h with
  | nil =>
      intro first fuel r rest here enough
      obtain ⟨fuel, rfl⟩ : ∃ f, fuel = f + 1 := ⟨fuel - 1, by omega⟩
      have here : r.tokens = .flowSequenceEnd :: rest := by
        rw [here]
        cases first <;> rfl
      rw [flowItems?]
      simp [atAny, here, Reading.pass, goTo]
  | @cons v ts vs tokens reads later ih =>
      intro first fuel r rest here enough
      obtain ⟨t, ts, rfl, other⟩ := reads.first
      rw [partsTokens_cons] at here enough
      obtain ⟨fuel, rfl⟩ : ∃ f, fuel = f + 1 := ⟨fuel - 1, by omega⟩
      simp only [List.length_append, List.length_cons] at enough
      obtain ⟨following, hf⟩ : ∃ l, l = partsTokens false tokens ++ .flowSequenceEnd :: rest :=
        ⟨_, rfl⟩
      rw [List.append_assoc, List.append_assoc, ← hf, List.cons_append] at here
      have ne {e : Token} (ends : endsValue e) : e ≠ t := by
        rintro rfl
        rw [ends] at other
        cases other
      obtain ⟨open_, comma, passed⟩ := comma_of_tokens here (ne (e := .flowSequenceEnd) rfl)
        (by decide)
      have value : node? false false fuel (r.goTo (t :: (ts ++ following))) =
          some (v, r.goTo following) := by
        refine reads.read rfl ?_ ?_
        · rw [hf]
          exact head?_partsTokens tokens rest (by decide)
        · rw [List.length_cons]
          omega
      have items : flowItems? false fuel (r.goTo following) = some (vs, r.goTo rest) :=
        ih hf (by omega)
      rw [flowItems?, open_, if_neg (by decide), if_neg comma]
      simp only [passed]
      split
      · rename_i same
        exact absurd (List.cons.inj same).1.symm (ne rfl)
      · rename_i same
        exact absurd (List.cons.inj same).1.symm (ne rfl)
      · simp only [Option.bind_eq_bind, value, Option.bind_some, items]
        rfl

theorem readsAs_flowSequence {vs : List Node} {tokens : List (List Token)}
    (h : List.Forall₂ (fun v ts => ReadsAs false false ts v) vs tokens) :
    ReadsAs block indentless
      (.flowSequence :: ([Token.flowEntry].intercalate tokens ++ [.flowSequenceEnd])) (.sequence vs)
      where
  first := ⟨_, _, rfl, rfl⟩
  read := by
    intro fuel r rest here _ enough
    simp only [List.length_cons, List.length_append, List.length_nil] at enough
    obtain ⟨fuel, rfl⟩ : ∃ f, fuel = f + 1 := ⟨fuel - 1, by omega⟩
    obtain ⟨following, hf⟩ : ∃ l, l = partsTokens true tokens ++ .flowSequenceEnd :: rest :=
      ⟨_, rfl⟩
    have here : r.tokens = .flowSequence :: following := by
      rw [here, hf]
      simp [partsTokens]
    have items : flowItems? true fuel (r.goTo following) = some (vs, r.goTo rest) :=
      flowItems?_of_reads h hf (by rw [partsTokens, if_pos rfl]; omega)
    rw [node?]
    simp [properties?, here, finish, items]

/-- Tokens of a member of a flow mapping that has this name and value. -/
def MemberReads (e : String × Node) (tokens : List Token) : Prop :=
  ∃ value, tokens = memberTokens e.1 value ∧ ReadsAs false false value e.2

theorem flowEntries?_of_reads {es : List (String × Node)} {tokens : List (List Token)}
    (h : List.Forall₂ MemberReads es tokens) :
    ∀ {first : Bool} {fuel : Nat} {r : Reading} {rest : List Token},
    r.tokens = partsTokens first tokens ++ .flowMappingEnd :: rest →
    2 * (partsTokens first tokens).length + 1 ≤ fuel →
    flowEntries? first fuel r = some (keysAndValues es, r.goTo rest) := by
  induction h with
  | nil =>
      intro first fuel r rest here enough
      obtain ⟨fuel, rfl⟩ : ∃ f, fuel = f + 1 := ⟨fuel - 1, by omega⟩
      have here : r.tokens = .flowMappingEnd :: rest := by
        rw [here]
        cases first <;> rfl
      rw [flowEntries?]
      simp [atAny, here, Reading.pass, goTo, keysAndValues]
  | @cons e ts es tokens member later ih =>
      obtain ⟨name, v⟩ := e
      obtain ⟨value, rfl, reads⟩ := member
      intro first fuel r rest here enough
      rw [partsTokens_cons] at here enough
      simp only [List.length_append, List.length_cons, memberTokens] at enough
      obtain ⟨fuel, rfl⟩ : ∃ f, fuel = f + 3 := ⟨fuel - 3, by omega⟩
      obtain ⟨following, hf⟩ : ∃ l, l = partsTokens false tokens ++ .flowMappingEnd :: rest :=
        ⟨_, rfl⟩
      rw [List.append_assoc, List.append_assoc, ← hf, memberTokens, List.cons_append,
        List.cons_append, List.cons_append] at here
      obtain ⟨open_, comma, passed⟩ :=
        comma_of_tokens here (by decide : Token.flowMappingEnd ≠ .key) (by decide)
      have key : Reading.valueBefore? [.value, .flowEntry, .flowMappingEnd] false false (fuel + 2)
          (r.goTo (.scalar false name :: .value :: (value ++ following))) =
          some (.text name, r.goTo (.value :: (value ++ following))) := by
        rw [Reading.valueBefore?, if_neg (by simp [atAny, goTo]), node?_scalar rfl]
        rfl
      have part : valuePart? [.flowEntry, .flowMappingEnd] false (fuel + 2)
          (r.goTo (.value :: (value ++ following))) = some (v, r.goTo following) := by
        rw [valuePart?]
        refine reads.valueBefore? (by decide) rfl ?_ (by omega)
        rw [hf]
        exact head?_partsTokens tokens rest (by decide)
      have entries : flowEntries? false (fuel + 2) (r.goTo following) =
          some (keysAndValues es, r.goTo rest) := ih hf (by omega)
      rw [flowEntries?, open_, if_neg (by decide), if_neg comma]
      simp only [passed, tokens_goTo, goTo_goTo, Option.bind_eq_bind, key, Option.bind_some, part,
        entries]
      rfl

theorem readsAs_flowMapping {es : List (String × Node)} {tokens : List (List Token)}
    (once : (es.map (·.1)).Nodup) (h : List.Forall₂ MemberReads es tokens) :
    ReadsAs block indentless
      (.flowMapping :: ([Token.flowEntry].intercalate tokens ++ [.flowMappingEnd]))
      (.mapping (es.map fun e => (.text e.1, e.2))) where
  first := ⟨_, _, rfl, rfl⟩
  read := by
    intro fuel r rest here _ enough
    simp only [List.length_cons, List.length_append, List.length_nil] at enough
    obtain ⟨fuel, rfl⟩ : ∃ f, fuel = f + 1 := ⟨fuel - 1, by omega⟩
    obtain ⟨following, hf⟩ : ∃ l, l = partsTokens true tokens ++ .flowMappingEnd :: rest := ⟨_, rfl⟩
    have here : r.tokens = .flowMapping :: following := by
      rw [here, hf]
      simp [partsTokens]
    have entries : flowEntries? true fuel (r.goTo following) =
        some (keysAndValues es, r.goTo rest) :=
      flowEntries?_of_reads h hf (by rw [partsTokens, if_pos rfl]; omega)
    rw [node?]
    simp [properties?, here, finish, entries, entries?_keysAndValues once]

end

/-! ### Documents -/

/-- **A text** whose tokens are those of one mapping has its value as its only document. -/
theorem documents?_of_reads {text : List Char} {t : Token} {ts : List Token} {v : Node}
    (mapping : t = .blockMapping ∨ t = .flowMapping) (lexed : Token.ofText? text = some (t :: ts))
    (reads : ReadsAs true false (t :: ts) v) : Node.documents? text = some [v] := by
  obtain ⟨fuel, enough⟩ : ∃ fuel, fuel = 4 * (t :: ts).length + 8 := ⟨_, rfl⟩
  have value : node? true false fuel { tokens := t :: ts } = some (v, { tokens := [] }) :=
    reads.read (List.append_nil _).symm (by simp) (by omega)
  rw [Node.documents?, lexed]
  change documentsFrom? _ _ true (t :: ts) = _
  rw [← enough, documentsFrom?]
  rcases mapping with rfl | rfl
  · change (node? true false fuel { tokens := .blockMapping :: ts }).bind _ = _
    rw [value]
    rfl
  · change (node? true false fuel { tokens := .flowMapping :: ts }).bind _ = _
    rw [value]
    rfl

end Courier.Yaml
