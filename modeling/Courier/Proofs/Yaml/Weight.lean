import Courier.Proofs.Yaml.BlockText
import Courier.Yaml.Token.Plain
import Courier.Yaml.Token.Quoted
import Mathlib.Tactic.SplitIfs

/-!
# Courier — Proofs — What a reader cannot make up

A reader of texts goes forward (`Cursor.Reaches`), and it makes no separator that it does not find:
each one in a text that it reads stood there, or was named by an escape, which takes a backslash.
So the separators and the backslashes together (`weight`) of a text that was read and of what comes
after it are not more than those of what was there (`weight_plain?`, `weight_quoted?`,
`weight_blockText?`).
-/

namespace Courier.Yaml

/-! ### Going forward -/

namespace Cursor

/-- Further on in the text, or at the same place. -/
structure Reaches (c c' : Cursor) : Prop where
  rest : c'.rest <:+ c.rest
  line : c.line ≤ c'.line

variable {c c' c'' : Cursor}

theorem Reaches.refl (c : Cursor) : c.Reaches c := ⟨List.suffix_rfl, Nat.le_refl _⟩

theorem Reaches.trans (h : c.Reaches c') (h' : c'.Reaches c'') : c.Reaches c'' :=
  ⟨h'.rest.trans h.rest, Nat.le_trans h.line h'.line⟩

theorem reaches_advance (c : Cursor) (n : Nat) : c.Reaches (c.advance n) :=
  ⟨List.drop_suffix n _, Nat.le_refl _⟩

theorem reaches_pass (c : Cursor) (n : Nat) : c.Reaches (c.pass n) :=
  ⟨List.drop_suffix n _, Nat.le_refl _⟩

theorem reaches_newLine (c : Cursor) (n : Nat) : c.Reaches (c.newLine n) :=
  ⟨List.drop_suffix n _, Nat.le_succ _⟩

theorem reaches_passComment (c : Cursor) : c.Reaches c.passComment := c.reaches_pass _

theorem line_passBreak (c : Cursor) : c.passBreak.line = c.line + 1 := by
  rw [passBreak]
  split <;> rfl

theorem reaches_passBreak (c : Cursor) : c.Reaches c.passBreak := by
  rw [passBreak]
  split
  · exact c.reaches_newLine 2
  · exact c.reaches_newLine 1

theorem reaches_of_passBlanks? {tabs tab space : Bool}
    (h : c.passBlanks? tabs = some (tab, space, c')) : c.Reaches c' := by
  simp only [passBlanks?] at h
  split_ifs at h
  · cases h
    exact c.reaches_advance _
  · cases h
    exact (c.reaches_advance _).trans (reaches_passComment _)

end Cursor

/-! ### Weight -/

/-- A separator that is a line break for a writer only, or the backslash that can name one. -/
def isHeavy (c : Char) : Bool := c == '\\' || (breaksLine c && !isBreak c)

def heavyChars : List Char := ['\\', '\u0085', '\u2028', '\u2029']

theorem mem_heavyChars {c : Char} (h : isHeavy c) : c ∈ heavyChars := by
  have known : c.toNat = 0x5C ∨ c.toNat = 0x85 ∨ c.toNat = 0x2028 ∨ c.toNat = 0x2029 := by
    rw [isHeavy, Bool.or_eq_true, beq_iff_eq] at h
    rcases h with rfl | h
    · exact .inl rfl
    · right
      cases feed : isBreak c
      · simpa [breaksLine, feed, or_assoc] using h
      · simp [feed] at h
  rw [← Char.ofNat_toNat c]
  rcases known with same | same | same | same
  all_goals
    rw [same]
    decide

/-- How many such characters a text has. -/
def weight (cs : List Char) : Nat := cs.countP isHeavy

section
variable {cs ds : List Char}

@[simp] theorem weight_nil : weight [] = 0 := rfl

@[simp] theorem weight_append (cs ds : List Char) : weight (cs ++ ds) = weight cs + weight ds :=
  List.countP_append

@[simp] theorem weight_reverse (cs : List Char) : weight cs.reverse = weight cs :=
  List.countP_reverse

theorem weight_cons (c : Char) (cs : List Char) :
    weight (c :: cs) = weight cs + if isHeavy c then 1 else 0 :=
  List.countP_cons

theorem weight_eq_zero_iff : weight cs = 0 ↔ ∀ x ∈ cs, isHeavy x = false := by
  simp [weight, List.countP_eq_zero]

/-- A text of a class of characters that has none of them. -/
theorem weight_of_all {p : Char → Bool} (none : heavyChars.all (!p ·)) (h : cs.all p) :
    weight cs = 0 := by
  refine weight_eq_zero_iff.mpr fun x hx => ?_
  rw [← Bool.not_eq_true]
  intro heavy
  have outside := List.all_eq_true.mp none x (mem_heavyChars heavy)
  rw [List.all_eq_true.mp h x hx] at outside
  cases outside

theorem weight_pos_of_mem {x : Char} (h : x ∈ cs) (heavy : isHeavy x) : 0 < weight cs :=
  List.countP_pos_iff.mpr ⟨x, h, heavy⟩

theorem weight_le_of_suffix (h : cs <:+ ds) : weight cs ≤ weight ds := h.sublist.countP_le

theorem weight_drop_le (n : Nat) (cs : List Char) : weight (cs.drop n) ≤ weight cs :=
  weight_le_of_suffix (List.drop_suffix n cs)

/-- A part that was passed and what comes after it. -/
theorem weight_drop_of_prefix (h : cs <+: ds) :
    weight cs + weight (ds.drop cs.length) = weight ds := by
  obtain ⟨rest, rfl⟩ := h
  rw [List.drop_left, weight_append]

theorem weight_breaks (n : Nat) : weight (List.replicate n '\n') = 0 :=
  weight_eq_zero_iff.mpr fun x hx => by rw [List.eq_of_mem_replicate hx]; rfl

theorem weight_of_blanks (h : ∀ x ∈ cs, isBlank x) : weight cs = 0 :=
  weight_eq_zero_iff.mpr fun x hx => by
    have blank := h x hx
    rw [isBlank, Bool.or_eq_true, beq_iff_eq, beq_iff_eq] at blank
    rcases blank with rfl | rfl <;> rfl

theorem Cursor.Reaches.weight_le {c c' : Cursor} (h : c.Reaches c') :
    weight c'.rest ≤ weight c.rest :=
  weight_le_of_suffix h.rest

end

/-- What reading a text does: `acc` is the text before, last character first. -/
structure TextRead (acc : List Char) (c : Cursor) (acc' : List Char) (c' : Cursor) : Prop where
  reaches : c.Reaches c'
  grows   : acc <:+ acc'
  light   : weight acc' + weight c'.rest ≤ weight acc + weight c.rest

namespace TextRead

variable {acc acc' acc'' : List Char} {c c' c'' : Cursor}

theorem trans (h : TextRead acc c acc' c') (h' : TextRead acc' c' acc'' c'') :
    TextRead acc c acc'' c'' :=
  ⟨h.reaches.trans h'.reaches, h.grows.trans h'.grows, Nat.le_trans h'.light h.light⟩

/-- White space is passed. -/
theorem pass (acc : List Char) (h : c.Reaches c') : TextRead acc c acc c' :=
  ⟨h, List.suffix_rfl, Nat.add_le_add_left h.weight_le _⟩

theorem refl (acc : List Char) (c : Cursor) : TextRead acc c acc c := pass acc (.refl c)

/-- A part of the line is taken over, and something without weight before it. -/
theorem take {w gap : List Char} (h : w <+: c.rest) (none : weight gap = 0) :
    TextRead acc c (w.reverse ++ (gap ++ acc)) (c.pass w.length) where
  reaches := c.reaches_pass _
  grows   := by
    rw [← List.append_assoc]
    exact List.suffix_append _ acc
  light   := by
    have passed := weight_drop_of_prefix h
    rw [Cursor.rest_pass, weight_append, weight_append, weight_reverse, none]
    omega

end TextRead

/-! ### Plain texts -/

theorem plainWord_isPrefix (flow : Bool) (cs : List Char) : plainWord flow cs <+: cs := by
  induction cs with
  | nil => exact List.prefix_rfl
  | cons c cs ih =>
      rw [plainWord]
      split_ifs
      · exact List.nil_prefix
      · exact List.cons_prefix_cons.mpr ⟨rfl, ih⟩

theorem not_mem_plainWord (flow : Bool) (cs : List Char) : '\n' ∉ plainWord flow cs := by
  induction cs with
  | nil => exact List.not_mem_nil
  | cons c cs ih =>
      rw [plainWord]
      split_ifs with stop
      · exact List.not_mem_nil
      · rw [List.mem_cons, not_or]
        refine ⟨?_, ih⟩
        rintro rfl
        exact stop (.inl (by decide))

/-- White space after a word: what was passed is blank, and a break leads to a further line. -/
structure Gap.Passes (g g' : Gap) : Prop where
  reaches : g.cursor.Reaches g'.cursor
  blanks  : (∀ x ∈ g.blanks, isBlank x) → ∀ x ∈ g'.blanks, isBlank x
  broken  : g'.broken → g.broken ∨ g.cursor.line < g'.cursor.line

theorem Gap.Passes.refl (g : Gap) : g.Passes g := ⟨.refl _, id, .inl⟩

theorem Gap.Passes.trans {g g' g'' : Gap} (h : g.Passes g') (h' : g'.Passes g'') :
    g.Passes g'' where
  reaches := h.reaches.trans h'.reaches
  blanks  := h'.blanks ∘ h.blanks
  broken  := fun no => by
    rcases h'.broken no with no | later
    · exact (h.broken no).imp_right fun earlier => Nat.lt_of_lt_of_le earlier h'.reaches.line
    · exact .inr (Nat.lt_of_le_of_lt h.reaches.line later)

theorem passes_of_passGap? {indent : Int} {fuel : Nat} :
    ∀ {g g' : Gap}, passGap? indent fuel g = some g' → g.Passes g' := by
  induction fuel with
  | zero =>
      intro g g' h
      cases h
      exact .refl g
  | succ fuel ih =>
      intro g g' h
      have later : g.cursor.line < g.cursor.passBreak.line := by
        rw [Cursor.line_passBreak]
        exact Nat.lt_succ_self _
      rw [passGap?] at h
      split_ifs at h with blank fresh tab line broken
      · split at h
        · rename_i after passed
          split_ifs at h
          refine .trans ?_ (ih h)
          exact ⟨Cursor.reaches_of_passBlanks? passed, id, .inl⟩
        · cases h
      · refine .trans ?_ (ih h)
        exact ⟨g.cursor.reaches_advance 1, id, .inl⟩
      · refine .trans ?_ (ih h)
        refine ⟨g.cursor.reaches_advance 1, fun all x hx => ?_, .inl⟩
        exact (List.mem_cons.mp hx).elim (fun same => same ▸ blank) (all x)
      · refine .trans ?_ (ih h)
        exact ⟨g.cursor.reaches_passBreak, id, .inl⟩
      · refine .trans ?_ (ih h)
        exact ⟨g.cursor.reaches_passBreak, fun _ => by simp, fun _ => .inr later⟩
      · cases h
        exact .refl g

theorem Gap.weight_folded {g : Gap} (h : ∀ x ∈ g.blanks, isBlank x) : weight g.folded = 0 := by
  rw [Gap.folded]
  split_ifs
  · rfl
  · exact weight_breaks _
  · exact weight_of_blanks h

theorem Gap.broken_of_mem_folded {g : Gap} (h : ∀ x ∈ g.blanks, isBlank x)
    (feed : '\n' ∈ g.folded) : g.broken := by
  rw [← Bool.not_eq_false]
  intro no
  rw [Gap.folded, no, if_pos (by decide)] at feed
  exact absurd (h _ feed) (by decide)

/-- What reading a plain text does, from the words before a gap on. -/
structure PlainRead (acc : List Char) (g : Gap) (acc' : List Char) (c : Cursor) : Prop
    extends TextRead acc g.cursor acc' c where
  line : '\n' ∈ acc' → '\n' ∈ acc ∨ g.broken ∨ g.cursor.line < c.line

theorem PlainRead.refl (acc : List Char) (g : Gap) : PlainRead acc g acc g.cursor :=
  ⟨.refl acc _, .inl⟩

/-- A word is read, with the gap before it. -/
theorem PlainRead.word (flow : Bool) {acc : List Char} {g : Gap}
    (blanks : ∀ x ∈ g.blanks, isBlank x) :
    PlainRead acc g
      ((plainWord flow g.cursor.rest).reverse ++ ((if acc.isEmpty then [] else g.folded) ++ acc))
      (g.cursor.pass (plainWord flow g.cursor.rest).length) := by
  refine ⟨.take (plainWord_isPrefix flow _) ?_, ?_⟩
  · split_ifs
    · rfl
    · exact Gap.weight_folded blanks
  · rw [List.mem_append, List.mem_append, List.mem_reverse]
    rintro (mem | mem | mem)
    · exact absurd mem (not_mem_plainWord flow _)
    · split_ifs at mem
      · cases mem
      · exact .inr (.inl (Gap.broken_of_mem_folded blanks mem))
    · exact .inl mem

theorem PlainRead.trans {acc acc₁ acc' : List Char} {g g₁ : Gap} {c : Cursor}
    (h : PlainRead acc g acc₁ g₁.cursor)
    (broken : g₁.broken → g.broken ∨ g.cursor.line < g₁.cursor.line)
    (h' : PlainRead acc₁ g₁ acc' c) : PlainRead acc g acc' c where
  toTextRead := h.toTextRead.trans h'.toTextRead
  line       := fun mem => by
    have later (earlier : g.cursor.line < g₁.cursor.line) : g.cursor.line < c.line :=
      Nat.lt_of_lt_of_le earlier h'.reaches.line
    rcases h'.line mem with mem | no | last
    · exact (h.line mem).imp_right (.imp_right later)
    · exact .inr ((broken no).imp_right later)
    · exact .inr (.inr (Nat.lt_of_le_of_lt h.reaches.line last))

theorem plainRead_of_plainFrom? {flow : Bool} {indent : Int} {fuel : Nat} :
    ∀ {acc acc' : List Char} {g : Gap} {c : Cursor}, (∀ x ∈ g.blanks, isBlank x) →
      plainFrom? flow indent fuel acc g = some (acc', c) → PlainRead acc g acc' c := by
  induction fuel with
  | zero => exact fun _ no => by cases no
  | succ fuel ih =>
      intro acc acc' g c blanks h
      rw [plainFrom?] at h
      split at h
      · cases h
        exact .refl acc g
      split at h
      · cases h
      -- the word, if there is one
      obtain ⟨acc₁, g₁, same, blanks₁, broken₁, read⟩ : ∃ acc₁ g₁,
          (if (plainWord flow g.cursor.rest).isEmpty then (acc, g) else
            ((plainWord flow g.cursor.rest).reverse ++
              ((if acc.isEmpty then [] else g.folded) ++ acc),
              ({ cursor := g.cursor.pass (plainWord flow g.cursor.rest).length } : Gap))) =
            (acc₁, g₁) ∧ (∀ x ∈ g₁.blanks, isBlank x) ∧ (g₁.broken → g.broken) ∧
            PlainRead acc g acc₁ g₁.cursor := by
        split
        · exact ⟨acc, g, rfl, blanks, id, .refl acc g⟩
        · exact ⟨_, _, rfl, by simp, by simp, .word flow blanks⟩
      simp only [same] at h
      split at h
      · cases h
        exact read
      · split at h
        · cases h
        · rename_i g₂ passed
          have passes := passes_of_passGap? passed
          have gap : PlainRead acc g acc₁ g₂.cursor :=
            .trans read (fun no => .inl (broken₁ no)) ⟨.pass acc₁ passes.reaches, .inl⟩
          have broken₂ (no : g₂.broken) : g.broken ∨ g.cursor.line < g₂.cursor.line :=
            (passes.broken no).imp broken₁ (Nat.lt_of_le_of_lt read.reaches.line)
          split at h
          · cases h
            exact gap
          · exact gap.trans broken₂ (ih (passes.blanks blanks₁) h)

theorem plainRead_of_plain? {flow : Bool} {indent : Int} {c c' : Cursor} {text : String}
    (h : plain? flow indent c = some (text, c')) :
    PlainRead [] { cursor := c } text.toList.reverse c' := by
  rw [plain?] at h
  split at h
  · cases h
  · split at h
    · rename_i acc after read
      split at h
      · cases h
      · cases h
        rw [String.toList_ofList, List.reverse_reverse]
        exact plainRead_of_plainFrom? (by simp) read
    · cases h

/-- A plain text starts with the word at the cursor. -/
theorem plainWord_prefix_of_plain? {flow : Bool} {indent : Int} {c c' : Cursor} {text : String}
    (h : plain? flow indent c = some (text, c')) : plainWord flow c.rest <+: text.toList := by
  have start (acc : List Char) (after : Cursor)
      (read : plainFrom? flow indent (c.rest.length + 1) [] { cursor := c } = some (acc, after))
      (some : acc ≠ []) : (plainWord flow c.rest).reverse <:+ acc := by
    rw [plainFrom?] at read
    split at read
    · cases read
      exact absurd rfl some
    split at read
    · cases read
    by_cases word : (plainWord flow c.rest).isEmpty
    · rw [List.isEmpty_iff.mp word]
      exact List.nil_suffix
    · simp only [word, Bool.false_eq_true, if_false, List.isEmpty_nil, if_true, List.append_nil]
        at read
      split at read
      · cases read
        exact List.suffix_rfl
      · split at read
        · cases read
        · rename_i g passed
          split at read
          · cases read
            exact List.suffix_rfl
          · have blanks := (passes_of_passGap? passed).blanks (by simp)
            exact (plainRead_of_plainFrom? blanks read).grows
  rw [plain?] at h
  split at h
  · cases h
  · split at h
    · rename_i acc after read
      split at h
      · cases h
      · rename_i some
        cases h
        rw [String.toList_ofList, ← List.reverse_suffix, List.reverse_reverse]
        exact start acc c' read (by simpa using some)
    · cases h

/-- A plain text with a line break in it ends on a later line. -/
theorem line_lt_of_plain? {flow : Bool} {indent : Int} {c c' : Cursor} {text : String}
    (h : plain? flow indent c = some (text, c')) (feed : '\n' ∈ text.toList) :
    c.line < c'.line := by
  rcases (plainRead_of_plain? h).line (List.mem_reverse.mpr feed) with no | no | later
  · cases no
  · cases no
  · exact later

theorem weight_plain? {flow : Bool} {indent : Int} {c c' : Cursor} {text : String}
    (h : plain? flow indent c = some (text, c')) :
    weight text.toList + weight c'.rest ≤ weight c.rest := by
  simpa using (plainRead_of_plain? h).light

/-! ### Quoted texts -/

theorem Cursor.rest_eq_cons {c : Cursor} (h : endsWord c.char = false) :
    ∃ rest, c.rest = c.char :: rest := by
  rw [char] at h ⊢
  cases same : c.rest with
  | nil =>
      rw [same] at h
      cases h
  | cons x rest => exact ⟨rest, rfl⟩

theorem textRead_of_quotedWord? {quote : Char} {fuel : Nat} :
    ∀ {acc acc' : List Char} {c c' : Cursor} {joined : Bool},
      quotedWord? quote fuel acc c = some (acc', c', joined) → TextRead acc c acc' c' := by
  induction fuel with
  | zero => exact fun no => by cases no
  | succ fuel ih =>
      intro acc acc' c c' joined h
      rw [quotedWord?] at h
      split at h
      · cases h
        exact .refl acc c
      rename_i word
      obtain ⟨rest, same⟩ := Cursor.rest_eq_cons (eq_false_of_ne_true word)
      -- one character for those that are passed
      have read {x : Char} {n : Nat} (light : (if isHeavy x then 1 else 0) ≤ weight [c.char]) :
          TextRead acc c (x :: acc) (c.pass (n + 1)) := by
        refine ⟨c.reaches_pass _, List.suffix_cons x acc, ?_⟩
        have less := weight_drop_le n rest
        rw [weight_cons] at light
        rw [Cursor.rest_pass, same, List.drop_succ_cons, weight_cons, weight_cons]
        simp only [weight_nil] at light
        omega
      split at h
      · rename_i quoted
        split at h
        · rename_i twice
          have light : isHeavy quote = false := by rw [twice.1]; rfl
          exact (read (by simp [light])).trans (ih h)
        · cases h
          exact .refl acc c
      · split at h
        · rename_i backslash
          have heavy : weight [c.char] = 1 := by rw [backslash.1]; rfl
          split at h
          · cases h
            exact .pass acc ((c.reaches_pass 1).trans (Cursor.reaches_passBreak _))
          · split at h
            · exact (read (by rw [heavy]; split_ifs <;> decide)).trans (ih h)
            · cases h
        · exact (read (by rw [weight_cons]; exact Nat.le_add_left _ _)).trans (ih h)

/-- White space between quotes: what was passed is blank. -/
structure QuotedGap.Passes (g g' : QuotedGap) : Prop where
  reaches : g.cursor.Reaches g'.cursor
  blanks  : (∀ x ∈ g.blanks, isBlank x) → ∀ x ∈ g'.blanks, isBlank x

theorem QuotedGap.Passes.trans {g g' g'' : QuotedGap} (h : g.Passes g') (h' : g'.Passes g'') :
    g.Passes g'' :=
  ⟨h.reaches.trans h'.reaches, h'.blanks ∘ h.blanks⟩

theorem passes_of_passQuotedGap? {indent : Int} {fuel : Nat} :
    ∀ {g g' : QuotedGap}, passQuotedGap? indent fuel g = some g' → g.Passes g' := by
  induction fuel with
  | zero =>
      intro g g' h
      cases h
      exact ⟨.refl _, id⟩
  | succ fuel ih =>
      intro g g' h
      rw [passQuotedGap?] at h
      split_ifs at h with blank first tab line broken
      · refine .trans ?_ (ih h)
        exact ⟨g.cursor.reaches_advance 1, id⟩
      · refine .trans ?_ (ih h)
        refine ⟨g.cursor.reaches_advance 1, fun all x hx => ?_⟩
        exact (List.mem_cons.mp hx).elim (fun same => same ▸ blank) (all x)
      · refine .trans ?_ (ih h)
        exact ⟨g.cursor.reaches_passBreak, id⟩
      · refine .trans ?_ (ih h)
        exact ⟨g.cursor.reaches_passBreak, fun _ => by simp⟩
      · cases h
        exact ⟨.refl _, id⟩

theorem QuotedGap.weight_folded {g : QuotedGap} (h : ∀ x ∈ g.blanks, isBlank x) :
    weight g.folded = 0 := by
  rw [QuotedGap.folded]
  split_ifs
  · rfl
  · exact weight_breaks _
  · exact weight_of_blanks h

theorem textRead_of_quotedFrom? {quote : Char} {indent : Int} {fuel : Nat} :
    ∀ {acc acc' : List Char} {c c' : Cursor},
      quotedFrom? quote indent fuel acc c = some (acc', c') → TextRead acc c acc' c' := by
  induction fuel with
  | zero => exact fun no => by cases no
  | succ fuel ih =>
      intro acc acc' c c' h
      rw [quotedFrom?] at h
      split at h
      · cases h
      · split at h
        · cases h
        · rename_i acc₁ c₁ joined read
          have word := textRead_of_quotedWord? read
          split at h
          · cases h
            exact word.trans (.pass _ (c₁.reaches_pass 1))
          · split at h
            · cases h
            · rename_i g passed
              have passes := passes_of_passQuotedGap? passed
              have gap : TextRead acc₁ c₁ (g.folded ++ acc₁) g.cursor := by
                refine ⟨passes.reaches, List.suffix_append _ _, ?_⟩
                rw [weight_append, QuotedGap.weight_folded (passes.blanks (by simp)), Nat.zero_add]
                exact Nat.add_le_add_left passes.reaches.weight_le _
              exact (word.trans gap).trans (ih h)

theorem textRead_of_quoted? {flow : Bool} {indent : Int} {c c' : Cursor} {text : String}
    (h : quoted? flow indent c = some (text, c')) : TextRead [] c text.toList.reverse c' := by
  simp only [quoted?, Option.bind_eq_bind, Option.bind_eq_some_iff] at h
  obtain ⟨⟨acc, after⟩, read, ⟨_, _, last⟩, passed, ended⟩ := h
  split at ended
  · cases ended
    rw [String.toList_ofList, List.reverse_reverse]
    exact (TextRead.pass [] (c.reaches_pass 1)).trans ((textRead_of_quotedFrom? read).trans
      (.pass acc (Cursor.reaches_of_passBlanks? passed)))
  · cases ended

theorem weight_quoted? {flow : Bool} {indent : Int} {c c' : Cursor} {text : String}
    (h : quoted? flow indent c = some (text, c')) :
    weight text.toList + weight c'.rest ≤ weight c.rest := by
  simpa using (textRead_of_quoted? h).light

/-! ### Block texts -/

theorem reaches_passEmptyLines (limit : Option Nat) (fuel : Nat) :
    ∀ (breaks widest : Nat) (c : Cursor),
      c.Reaches (passEmptyLines limit fuel breaks widest c).2.2 := by
  induction fuel with
  | zero => exact fun _ _ c => .refl c
  | succ fuel ih =>
      intro breaks widest c
      rw [passEmptyLines_succ]
      dsimp only
      split
      · exact ((c.reaches_advance _).trans (Cursor.reaches_passBreak _)).trans (ih ..)
      · exact c.reaches_advance _

theorem weight_joint (s : BlockLines) (folded : Bool) : weight (s.joint folded) = 0 := by
  rw [BlockLines.joint]
  split_ifs
  · rfl
  · exact weight_breaks _
  · rw [weight_append, weight_breaks]
    rfl
  · rw [weight_append, weight_breaks]
    rfl

theorem textRead_blockLines (folded : Bool) (indent fuel : Nat) :
    ∀ s : BlockLines, TextRead s.acc s.cursor (blockLines folded indent fuel s).acc
      (blockLines folded indent fuel s).cursor := by
  induction fuel with
  | zero => exact fun s => .refl _ _
  | succ fuel ih =>
      intro s
      rw [blockLines]
      dsimp only
      split
      · exact .refl _ _
      · have line : TextRead s.acc s.cursor _ _ :=
          .take (List.takeWhile_prefix fun x => ¬ endsLine x) (weight_joint s folded)
        rw [← List.append_assoc] at line
        split
        · exact line
        · refine line.trans (.trans ?_ (ih _))
          exact .pass _ ((Cursor.reaches_passBreak _).trans (reaches_passEmptyLines ..))

theorem weight_ending (s : BlockLines) (chomping : Chomping) (indent : Nat) :
    weight (s.ending chomping indent) = 0 := by
  have last : weight (BlockLines.ending.last indent s) = 0 := by
    rw [BlockLines.ending.last]
    split_ifs <;> rfl
  cases chomping with
  | strip => rfl
  | clip => exact last
  | keep => rw [BlockLines.ending, weight_append, weight_breaks, last]

theorem weight_emptyBlock (chomping : Chomping) (broken : Bool) (breaks : Nat) :
    weight (emptyBlock chomping broken breaks).toList = 0 := by
  cases chomping with
  | strip => rfl
  | clip =>
      rw [emptyBlock]
      split_ifs <;> rfl
  | keep =>
      rw [emptyBlock]
      split_ifs
      · rfl
      · rw [String.toList_ofList, weight_breaks]
      · rfl

theorem textRead_of_blockText? {outer : Int} {c c' : Cursor} {text : String}
    (h : blockText? outer c = some (text, c')) : TextRead [] c text.toList.reverse c' := by
  simp only [blockText?, Option.bind_eq_bind, Option.bind_eq_some_iff] at h
  obtain ⟨⟨chomping, digit, count⟩, -, ⟨_, _, header⟩, passed, h⟩ := h
  obtain ⟨body, same, start⟩ : ∃ body,
      (if isBreak header.char then header.passBreak else header) = body ∧ c.Reaches body := by
    have there := (c.reaches_pass (count + 1)).trans (Cursor.reaches_of_passBlanks? passed)
    split
    · exact ⟨_, rfl, there.trans header.reaches_passBreak⟩
    · exact ⟨_, rfl, there⟩
  rw [same] at h
  obtain ⟨given, given_eq⟩ : ∃ given : Option Nat, given =
      if digit = 0 then none else some (if 0 ≤ outer then outer.toNat + digit else digit) :=
    ⟨_, rfl⟩
  rw [← given_eq] at h
  have empty := start.trans
    (reaches_passEmptyLines given (body.rest.length + 1) 0 0 body)
  generalize passEmptyLines given (body.rest.length + 1) 0 0 body = lines at h empty
  obtain ⟨breaks, widest, first⟩ := lines
  dsimp only at h empty
  generalize given.getD _ = indent at h
  split at h
  · cases h
  split at h
  · cases h
  split at h
  · cases h
    have light := empty.weight_le
    exact ⟨empty, List.nil_suffix, by rw [weight_reverse, weight_emptyBlock]; simpa using light⟩
  split at h
  · cases h
  · have read := textRead_blockLines (c.char == '>') indent (first.rest.length + 1)
      { cursor := first, breaks }
    cases h
    refine ((TextRead.pass [] empty).trans read).trans ⟨.refl _, ?_, ?_⟩
    · rw [String.toList_ofList, List.reverse_reverse]
      exact List.suffix_append _ _
    · refine Nat.le_of_eq ?_
      rw [String.toList_ofList, List.reverse_reverse, weight_append, weight_ending, Nat.zero_add]

theorem weight_blockText? {outer : Int} {c c' : Cursor} {text : String}
    (h : blockText? outer c = some (text, c')) :
    weight text.toList + weight c'.rest ≤ weight c.rest := by
  simpa using (textRead_of_blockText? h).light

end Courier.Yaml
