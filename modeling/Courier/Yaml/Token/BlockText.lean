import Courier.Yaml.Cursor

/-!
# Courier — YAML block texts

Texts that stand in lines of their own below `|` or `>`.  The indentation is that of the first
line that is not empty, or a given number of columns inside the surrounding block.  A `|` text
keeps its line breaks; a `>` text folds those between lines that do not start with a blank.  A
minus sign drops the line breaks at the end, a plus sign keeps them all, and without a sign one
is kept.
-/

namespace Courier.Yaml

/-- What becomes of the line breaks at the end. -/
inductive Chomping where
  | strip
  | clip
  | keep
  deriving DecidableEq

def chompingOf? (c : Char) : Option Chomping :=
  if c = '-' then some .strip else if c = '+' then some .keep else none

/-- The sign and the digit after the mark of a block text, in either order, and how many
characters they are. -/
def blockHeader? (cs : List Char) : Option (Chomping × Nat × Nat) :=
  let digit? (c : Char) : Option Nat := if c.isDigit then some (c.toNat - 48) else none
  match chompingOf? (peek cs), digit? (peek cs) with
  | some chomping, _ =>
    match digit? (peekNext cs) with
    | some 0 => none
    | some n => some (chomping, n, 2)
    | none   => some (chomping, 0, 1)
  | none, some 0 => none
  | none, some n =>
    match chompingOf? (peekNext cs) with
    | some chomping => some (chomping, n, 2)
    | none          => some (.clip, n, 1)
  | none, none => some (.clip, 0, 0)

/-- Passes spaces up to column `indent`, or all of them, and empty lines; counts the lines and
takes note of the widest indentation. -/
def passEmptyLines (indent : Option Nat) : Nat → Nat → Nat → Cursor → Nat × Nat × Cursor
  | 0, breaks, widest, c => (breaks, widest, c)
  | fuel + 1, breaks, widest, c =>
    let spaces := (c.rest.takeWhile (· == ' ')).length
    let c := c.advance <|
      match indent with
      | some n => min spaces (n - c.column)
      | none   => spaces
    let widest := max widest c.column
    if isBreak c.char then passEmptyLines indent fuel (breaks + 1) widest c.passBreak
    else (breaks, widest, c)

/-- The lines read so far. -/
structure BlockLines where
  cursor  : Cursor
  /-- The text, last character first, without the last line break. -/
  acc     : List Char := []
  /-- A line was read and its break not yet written. -/
  pending : Bool := false
  /-- Empty lines since then. -/
  breaks  : Nat := 0
  /-- The last line starts with a blank. -/
  blankStart : Bool := false

/-- What stands between the lines read and a further one. -/
def BlockLines.joint (folded : Bool) (s : BlockLines) : List Char :=
  if folded ∧ s.pending ∧ ¬ s.blankStart ∧ ¬ isBlank s.cursor.char then
    if s.breaks = 0 then [' '] else List.replicate s.breaks '\n'
  else (if s.pending then ['\n'] else []) ++ List.replicate s.breaks '\n'

/-- Reads the lines with the given indentation. -/
def blockLines (folded : Bool) (indent : Nat) : Nat → BlockLines → BlockLines
  | 0, s        => s
  | fuel + 1, s =>
    let c := s.cursor
    if c.column ≠ indent ∨ c.atEnd ∨ (indent = 0 ∧ c.atMarker '.') then s
    else
      let line := c.rest.takeWhile fun x => ¬ endsLine x
      let acc := line.reverse ++ s.joint folded ++ s.acc
      let after := c.pass line.length
      let s := { cursor := after, acc, blankStart := isBlank c.char }
      if after.atEnd then s
      else
        let (breaks, _, next) := passEmptyLines (some indent) (after.rest.length + 1) 0 0
          after.passBreak
        blockLines folded indent fuel { s with cursor := next, pending := true, breaks }

/-- The line breaks after the last line, as many as are kept. -/
def BlockLines.ending (chomping : Chomping) (indent : Nat) (s : BlockLines) : List Char :=
  match chomping with
  | .strip => []
  | .clip  => last
  | .keep  => List.replicate s.breaks '\n' ++ last
where
  last : List Char :=
    (if s.cursor.atEnd ∧ max indent 1 ≤ s.cursor.column then ['\n'] else []) ++
      if s.pending then ['\n'] else []

/-- The text of a block without any line. -/
def emptyBlock (chomping : Chomping) (headerBroken : Bool) (breaks : Nat) : String :=
  match chomping with
  | .strip => ""
  | .clip  => if headerBroken then "\n" else ""
  | .keep  =>
    if ¬ headerBroken then ""
    else if breaks = 0 then "\n" else String.ofList (List.replicate breaks '\n')

/-- The block text at the cursor, inside a block with indentation `outer`. -/
def blockText? (outer : Int) (c : Cursor) : Option (String × Cursor) := do
  let folded := c.char == '>'
  let (chomping, digit, count) ← blockHeader? (c.rest.drop 1)
  let (_, _, header) ← (c.pass (count + 1)).passBlanks? true
  if ¬ endsLine header.char then none
  else
    let body := if isBreak header.char then header.passBreak else header
    if body.char = '\t' then none
    else
      let given : Option Nat :=
        if digit = 0 then none else some (if 0 ≤ outer then outer.toNat + digit else digit)
      let (breaks, widest, first) := passEmptyLines given (body.rest.length + 1) 0 0 body
      let indent := given.getD (max (max widest (outer + 1).toNat) (if 0 < outer then 1 else 0))
      if first.atEnd then return (emptyBlock chomping (c.line ≠ first.line) breaks, first)
      else if first.column < indent ∧ outer < first.column then none
      else
        let s := blockLines folded indent (first.rest.length + 1) { cursor := first, breaks }
        return (String.ofList (s.ending chomping indent ++ s.acc).reverse, s.cursor)

end Courier.Yaml
