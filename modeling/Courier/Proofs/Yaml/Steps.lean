import Courier.Proofs.Yaml.Cursor
import Courier.Yaml.Token.Lexer
import Mathlib.Logic.Relation
import Mathlib.Tactic.SplitIfs

/-!
# Courier — Proofs — Steps of the lexer

A step of the lexer goes to the next token (`Lexer.settle?`) and reads it (`Lexer.act?`).  States at
a token lead to one another by `Lexer.Next`, in which the text gets shorter, so that the lexer ends
with what a chain of such steps ends with (`Lexer.run?_of_steps`).
-/

namespace Courier.Yaml.Lexer

/-! ### A step in two parts -/

/-- At the next token, with the blocks right of it closed. -/
def settle? (s : Lexer) : Option Lexer := do
  let s ← (← s.skip?).dropStale?
  return s.closeBlocks s.cursor.column

/-- The token at the cursor is read. -/
def act? (s : Lexer) : Option Lexer :=
  if s.cursor.column = 0 ∧ s.cursor.char = '%' then s.directiveLine?
  else if s.cursor.atMarker '-' then s.documentMarker? .documentStart
  else if s.cursor.atMarker '.' then s.documentEnd?
  else if s.cursor.column < s.indent then none
  else s.content?

/-- At the end of the text all blocks are closed. -/
def finish? (s : Lexer) : Option Lexer := (s.closeBlocks (-1)).dropCandidate?

theorem cursor_closeLevels (column : Int) (ls : List Level) (s : Lexer) :
    (closeLevels column ls s).cursor = s.cursor := by
  induction ls generalizing s with
  | nil => rfl
  | cons l ls ih =>
      rw [closeLevels]
      split
      · dsimp only
        rw [ih]
        split <;> rfl
      · rfl

theorem cursor_closeBlocks (column : Int) (s : Lexer) :
    (s.closeBlocks column).cursor = s.cursor := by
  rw [closeBlocks]
  split
  · rfl
  · exact cursor_closeLevels column _ s

theorem step?_eq (s : Lexer) :
    s.step? = s.settle?.bind fun t =>
      if t.cursor.atEnd then t.finish?.map (·, true) else t.act?.map (·, false) := by
  rw [step?, settle?]
  cases s.skip? with
  | none => rfl
  | some s =>
      simp only [Option.bind_eq_bind, Option.bind_some]
      cases s.dropStale? with
      | none => rfl
      | some s =>
          simp only [Option.bind_some, Option.pure_def, cursor_closeBlocks, finish?, act?]
          split_ifs <;> first | rfl | exact Option.map_eq_bind.symm

/-! ### Chains of steps -/

/-- A token is read, and the next one is reached further on in the text. -/
def Next (t t' : Lexer) : Prop :=
  t.cursor.atEnd = false ∧ (∃ s, t.act? = some s ∧ s.settle? = some t') ∧
    t'.cursor.rest.length < t.cursor.rest.length

/-- From one token to another, in any number of steps. -/
abbrev Steps : Lexer → Lexer → Prop := Relation.ReflTransGen Next

/-- **A run** ends with what a chain of steps ends with. -/
theorem run?_of_steps {s t u e : Lexer} (start : s.settle? = some t) (steps : Steps t u)
    (ended : u.cursor.atEnd) (finish : u.finish? = some e) {fuel : Nat}
    (enough : t.cursor.rest.length < fuel) : run? fuel s = some e := by
  induction steps using Relation.ReflTransGen.head_induction_on generalizing s fuel with
  | refl =>
      obtain ⟨fuel, rfl⟩ : ∃ f, fuel = f + 1 := ⟨fuel - 1, by omega⟩
      rw [run?, step?_eq, start]
      simp only [Option.bind_some, ended, if_true, finish, Option.map_some]
  | head next _ ih =>
      obtain ⟨more, ⟨s', act, settle⟩, shorter⟩ := next
      obtain ⟨fuel, rfl⟩ : ∃ f, fuel = f + 1 := ⟨fuel - 1, by omega⟩
      rw [run?, step?_eq, start]
      simp only [Option.bind_some, more, Bool.false_eq_true, if_false, act, Option.map_some]
      exact ih settle (by omega)

/-! ### To the next token -/

/-- A character at which the lexer stops for a token, or at the end. -/
def startsToken (c : Char) : Bool := !isBlank c && !isBreak c && c != '#'

theorem of_startsToken {c : Char} (h : startsToken c) :
    isBlank c = false ∧ isBreak c = false ∧ c ≠ '#' := by
  simpa [startsToken, and_assoc] using h

theorem toToken?_here {s : Lexer} (h : startsToken s.cursor.char) (fuel : Nat) :
    toToken? (fuel + 1) s = some s := by
  obtain ⟨blank, line, hash⟩ := of_startsToken h
  have tab : s.cursor.char ≠ '\t' := by
    intro tab
    rw [tab] at blank
    cases blank
  rw [toToken?]
  simp [blank, line, hash, tab]

theorem toToken?_pad {next : List Char} (h : startsToken (peek next)) :
    ∀ (m fuel : Nat) (s : Lexer), m < fuel → s.cursor.rest = pad m ++ next →
      toToken? fuel s = some (s.goTo (s.cursor.advance m)) := by
  intro m
  induction m with
  | zero =>
      intro fuel s hf hr
      obtain ⟨fuel, rfl⟩ : ∃ f, fuel = f + 1 := ⟨fuel - 1, by omega⟩
      have char : s.cursor.char = peek next := by rw [Cursor.char, hr]; rfl
      exact toToken?_here (char ▸ h) fuel
  | succ m ih =>
      intro fuel s hf hr
      obtain ⟨fuel, rfl⟩ : ∃ f, fuel = f + 1 := ⟨fuel - 1, by omega⟩
      have space : s.cursor.char = ' ' := Cursor.char_of_rest hr
      have rest : (s.goTo (s.cursor.advance 1)).cursor.rest = pad m ++ next := by
        change s.cursor.rest.drop 1 = _
        rw [hr]
        rfl
      have later := ih fuel (s.goTo (s.cursor.advance 1)) (by omega) rest
      rw [toToken?]
      simp only [space]
      rw [if_neg (by simp), if_pos (by rfl), later]
      simp [goTo, Nat.add_comm]

theorem skip?_pad {s : Lexer} {m : Nat} {next : List Char} (h : startsToken (peek next))
    (hr : s.cursor.rest = pad m ++ next) : s.skip? = some (s.goTo (s.cursor.advance m)) := by
  refine toToken?_pad h m _ s ?_ hr
  rw [hr, List.length_append, length_pad]
  omega

theorem skip?_line {s : Lexer} {m : Nat} {next : List Char} (h : startsToken (peek next))
    (hr : s.cursor.rest = '\n' :: (pad m ++ next)) :
    s.skip? = some { s with
      cursor := (s.cursor.newLine 1).advance m, keyAllowed := s.keyAllowed || !s.inFlow } := by
  have rest : (s.cursor.newLine 1).rest = pad m ++ next := by
    rw [Cursor.newLine, hr]
    rfl
  have later := toToken?_pad h m s.cursor.rest.length
    { s with cursor := s.cursor.newLine 1, keyAllowed := s.keyAllowed || !s.inFlow }
    (by rw [hr, List.length_cons, List.length_append, length_pad]; omega) rest
  rw [skip?, toToken?]
  simp only [Cursor.char_of_rest hr, Cursor.passBreak_of_rest hr]
  rw [if_neg (by simp), if_neg (by decide), if_pos (by rfl), later]
  rfl

end Courier.Yaml.Lexer
