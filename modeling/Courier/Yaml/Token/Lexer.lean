import Courier.Yaml.Token.BlockText
import Courier.Yaml.Token.Plain
import Courier.Yaml.Token.Property
import Courier.Yaml.Token.Quoted

/-!
# Courier — YAML text as tokens

The lexer reads one token after the other and keeps the open blocks by their columns
(`Lexer.indent`) and the token that may turn out to be a key.  A key without a question mark is
known only when its colon comes; `key` is then put before it, and `blockMapping` before that
where a mapping starts.

A flow sequence may hold pairs, which are mappings of one key without braces.  At most one pair is
open: the next comma, bracket or brace that closes ends it, and a colon inside a marked mapping
forgets it.
-/

namespace Courier.Yaml

/-! ### State -/

/-- A token that is a key if a colon follows. -/
structure Candidate where
  /-- It can still become a key. -/
  possible : Bool := false
  /-- It has to become one, because a mapping needs a key in its column. -/
  required : Bool := false
  /-- How many tokens stand before it. -/
  number   : Nat := 0
  index    : Nat := 0
  line     : Nat := 0
  column   : Nat := 0

/-- An open block: the column of the one around it, and whether its end is a token. -/
structure Level where
  outer  : Int
  closes : Bool

structure Lexer where
  cursor : Cursor
  /-- The tokens so far, last first, and their number. -/
  tokens : List Token := []
  count  : Nat := 0
  /-- The last token is an anchor or a tag in the first column. -/
  propertyAtMargin : Bool := false
  /-- A key may start here. -/
  keyAllowed : Bool := true
  candidate  : Candidate := {}
  /-- The candidates of the flow collections around this one, innermost first. -/
  outerCandidates : List Candidate := []
  /-- The column of the innermost block, -1 outside of all. -/
  indent : Int := -1
  levels : List Level := []
  /-- How many flow collections are open. -/
  depth  : Nat := 0
  /-- Where a colon needs no blank after it. -/
  adjacentAt : Nat := 0
  /-- A brace or a question mark has opened a mapping since the last pair ended. -/
  mappingMarked : Bool := false
  /-- A pair is open: a mapping in a flow sequence that has no mark of its own. -/
  pairOpen : Bool := false

namespace Lexer

def inFlow (s : Lexer) : Bool := s.depth != 0

def push (t : Token) (s : Lexer) : Lexer :=
  { s with tokens := t :: s.tokens, count := s.count + 1, propertyAtMargin := false }

/-- Puts a token before those from number `n` on. -/
def insertAt (n : Nat) (t : Token) (s : Lexer) : Lexer :=
  let later := s.tokens.take (s.count - n)
  { s with tokens := later ++ t :: s.tokens.drop (s.count - n), count := s.count + 1 }

def allowKey (allowed : Bool) (s : Lexer) : Lexer := { s with keyAllowed := allowed }

def goTo (c : Cursor) (s : Lexer) : Lexer := { s with cursor := c }

/-- Passes blanks and a comment. -/
def passBlanks? (s : Lexer) : Option Lexer :=
  (s.cursor.passBlanks? true).map fun (_, _, c) => s.goTo c

/-! ### Blocks -/

def innermostCloses (s : Lexer) : Bool :=
  match s.levels with
  | l :: _ => l.closes
  | []     => false

/-- Opens a block at `column` if that is further right than the innermost one; its first token
stands before number `n`. -/
def openBlock (column n : Nat) (t : Token) (s : Lexer) : Lexer :=
  if s.inFlow then s
  else
    let s : Lexer :=
      match s.levels with
      | l :: ls =>
        if s.indent ≤ column ∧ ¬ l.closes then { s with indent := l.outer, levels := ls } else s
      | [] => s
    if s.indent < column then
      { s with levels := ⟨s.indent, true⟩ :: s.levels, indent := column }.insertAt n t
    else s

/-- Closes the blocks right of `column`. -/
def closeLevels (column : Int) : List Level → Lexer → Lexer
  | [], s      => s
  | l :: ls, s =>
    if column < s.indent then
      let s := { s with indent := l.outer, levels := ls }
      closeLevels column ls (if l.closes then s.push .blockEnd else s)
    else s

def closeBlocks (column : Int) (s : Lexer) : Lexer :=
  if s.inFlow then s else closeLevels column s.levels s

/-- Asks for one more column in the lines that follow. -/
def indentOnce (s : Lexer) : Lexer :=
  if ¬ s.inFlow ∧ s.innermostCloses then
    { s with levels := ⟨s.indent, false⟩ :: s.levels, indent := s.indent + 1 }
  else s

def dropOpenLevels : List Level → Lexer → Lexer
  | [], s      => s
  | l :: ls, s =>
    if l.closes then s else dropOpenLevels ls { s with indent := l.outer, levels := ls }

/-- Takes the extra columns back. -/
def unindent (s : Lexer) : Lexer := dropOpenLevels s.levels s

/-! ### Candidates -/

/-- Takes the token that comes next as a candidate. -/
def saveCandidate (s : Lexer) : Lexer :=
  if s.keyAllowed then
    let c := s.cursor
    { s with candidate :=
      { possible := true
        required := ¬ s.inFlow ∧ s.indent = c.column ∧ s.innermostCloses
        number   := s.count
        index    := c.index
        line     := c.line
        column   := c.column } }
  else s

/-- Gives the candidate up. -/
def dropCandidate? (s : Lexer) : Option Lexer :=
  if s.candidate.possible ∧ s.candidate.required then none
  else some { s with candidate := { s.candidate with possible := false } }

/-- Gives the candidate up if it is too far back: on an earlier line, or more than 1024
characters. -/
def dropStale? (s : Lexer) : Option Lexer :=
  let k := s.candidate
  if ¬ s.inFlow ∧ k.possible ∧
      (k.line < s.cursor.line ∨ k.index + 1024 < s.cursor.index) then s.dropCandidate?
  else some s

/-! ### White space between tokens -/

/-- Goes to the next token. -/
def toToken? : Nat → Lexer → Option Lexer
  | 0, _        => none
  | fuel + 1, s =>
    let c := s.cursor
    if c.char = '\t' ∧ ¬ s.levels.isEmpty ∧ c.fresh ∧ c.column < s.indent then
      match s.passBlanks? with
      | some s => if endsLine s.cursor.char then toToken? fuel s else none
      | none   => none
    else if isBlank c.char then toToken? fuel (s.goTo (c.advance 1))
    else if isBreak c.char then
      toToken? fuel { s with cursor := c.passBreak, keyAllowed := s.keyAllowed || !s.inFlow }
    else if c.char = '#' then toToken? fuel (s.goTo c.passComment)
    else some s

def skip? (s : Lexer) : Option Lexer := toToken? (s.cursor.rest.length + 1) s

/-! ### Documents -/

/-- Ends all blocks, before the start or the end of a document or a directive. -/
def endBlocks? (s : Lexer) : Option Lexer :=
  ((s.closeBlocks (-1)).dropCandidate?).map (·.allowKey false)

def documentMarker? (t : Token) (s : Lexer) : Option Lexer := do
  let s ← s.endBlocks?
  return (s.goTo (s.cursor.pass 3)).push t

def documentEnd? (s : Lexer) : Option Lexer := do
  let s ← (← s.documentMarker? .documentEnd).passBlanks?
  if endsLine s.cursor.char then some s else none

def directiveLine? (s : Lexer) : Option Lexer := do
  let s ← s.endBlocks?
  let (t, c) ← directive? s.cursor
  return (s.goTo c).push t

/-! ### Flow collections -/

/-- The most flow collections inside one another. -/
def maxDepth : Nat := 255

def openFlow? (t : Token) (s : Lexer) : Option Lexer :=
  let s := s.saveCandidate.indentOnce
  if maxDepth ≤ s.depth then none
  else
    let s := { s with
      outerCandidates := s.candidate :: s.outerCandidates
      candidate       := {}
      depth           := s.depth + 1
      keyAllowed      := true
      cursor          := s.cursor.pass 1 }
    let s := if t = .flowMapping then { s with mappingMarked := true } else s
    s.passBlanks?.map (·.push t)

/-- Ends the pair that is open. -/
def closePair (s : Lexer) : Lexer :=
  if s.pairOpen then { s with mappingMarked := false, pairOpen := false }.push .flowMappingEnd
  else s

def closeFlow? (t : Token) (s : Lexer) : Option Lexer := do
  let s ← s.dropCandidate?
  let s := match s.outerCandidates with
    | k :: ks => { s with candidate := k, outerCandidates := ks, depth := s.depth - 1 }
    | []      => s
  let s := (s.allowKey false).closePair
  let s ← (s.goTo (s.cursor.pass 1)).passBlanks?
  let s := if s.inFlow then { s with adjacentAt := s.cursor.index } else s
  return s.push t

def flowEntry? (s : Lexer) : Option Lexer := do
  let s := ((← s.dropCandidate?).allowKey true).closePair
  return (← (s.goTo (s.cursor.pass 1)).passBlanks?).push .flowEntry

/-! ### Entries, keys and values -/

def blockEntry? (s : Lexer) : Option Lexer := do
  if s.inFlow ∨ ¬ s.keyAllowed then none
  else if s.propertyAtMargin ∧ s.cursor.column = 0 ∧ -1 < s.indent then none
  else
    let column := s.cursor.column
    let s := (s.goTo (s.cursor.pass 1)).openBlock column s.count .blockSequence
    let (tab, _, c) ← s.cursor.passBlanks? true
    if tab ∧ c.char = '-' ∧ endsWord c.next then none
    else
      let s := s.goTo c
      let s := if isBreak c.char ∨ isFlowMark c.char then s.indentOnce else s
      return ((← s.dropCandidate?).allowKey true).push .blockEntry

/-- Passes spaces, line breaks and comments, at least one of them. -/
def passSpace : Nat → Bool → Lexer → Bool × Lexer
  | 0, found, s        => (found, s)
  | fuel + 1, found, s =>
    let c := s.cursor
    if c.char = ' ' then passSpace fuel true (s.goTo (c.advance 1))
    else if isBreak c.char then
      passSpace fuel true { s with cursor := c.passBreak, keyAllowed := s.keyAllowed || !s.inFlow }
    else if c.char = '#' then passSpace fuel found (s.goTo c.passComment)
    else (found, s)

/-- A key after a question mark. -/
def explicitKey? (s : Lexer) : Option Lexer := do
  if ¬ s.inFlow ∧ ¬ s.keyAllowed then none
  else
    let s :=
      if s.inFlow then { s with mappingMarked := true }
      else s.openBlock s.cursor.column s.count .blockMapping
    let s := (← s.dropCandidate?).allowKey !s.inFlow
    let s := s.goTo (s.cursor.pass 1)
    let (found, s) := passSpace (s.cursor.rest.length + 1) false s
    if ¬ found ∨ s.cursor.char = '\t' then none else return s.push .key

/-- Passes the blanks after the colon of a value; a tab alone may not stand before a word. -/
def passColon? (s : Lexer) : Option Lexer :=
  let s := s.goTo (s.cursor.pass 1)
  if s.cursor.char ≠ '\t' then some s
  else
    match s.cursor.passBlanks? true with
    | some (_, space, c) => if ¬ space ∧ isWordChar c.char then none else some (s.goTo c)
    | none               => none

/-- The value of the candidate. -/
def valueOfCandidate? (pair : Bool) (start : Cursor) (s : Lexer) : Option Lexer :=
  let k := s.candidate
  if pair ∧ k.line < start.line then none
  else
    let s := s.insertAt k.number .key
    let s := if pair then s.insertAt k.number .flowMapping else s
    let s := (s.openBlock k.column k.number .blockMapping).indentOnce
    some { s with candidate := { k with possible := false }, keyAllowed := false }

/-- The value of an explicit key, or of none. -/
def valueAlone? (pair : Bool) (start : Cursor) (s : Lexer) : Option Lexer :=
  let s := if pair then s.push .flowMapping else s
  if s.inFlow then some (s.indentOnce.allowKey false)
  else if ¬ s.keyAllowed then none
  else some ((s.openBlock start.column s.count .blockMapping).indentOnce.allowKey true)

def value? (s : Lexer) : Option Lexer := do
  let start := s.cursor
  let pair := s.inFlow && !s.mappingMarked
  let s ← { s with pairOpen := pair }.passColon?
  let s ←
    if s.candidate.possible then s.valueOfCandidate? pair start
    else s.valueAlone? pair start
  return s.push .value

/-! ### Content -/

/-- An anchor, an alias or a tag. -/
def property? (read : Cursor → Option (Token × Cursor)) (s : Lexer) : Option Lexer := do
  let margin := s.cursor.column == 0
  let s := s.saveCandidate.allowKey false
  let (t, c) ← read s.cursor
  let aliased := match t with
    | .alias _ => true
    | _        => false
  return { (s.goTo c).push t with propertyAtMargin := margin && !aliased }

def blockScalar? (s : Lexer) : Option Lexer := do
  let s := (s.saveCandidate.allowKey true).unindent
  let (text, c) ← blockText? s.indent s.cursor
  return (s.goTo c).push (.scalar false text)

def quotedScalar? (s : Lexer) : Option Lexer := do
  let s := s.saveCandidate.allowKey false
  let (text, c) ← quoted? s.inFlow s.indent s.cursor
  let s ← (s.goTo c).skip?
  return { s with adjacentAt := s.cursor.index }.push (.scalar false text)

def plainScalar? (s : Lexer) : Option Lexer := do
  let s := (s.saveCandidate.allowKey false).unindent
  let (text, c) ← plain? s.inFlow (s.indent + 1) s.cursor
  let s := s.goTo c
  return (if c.fresh then s.allowKey true else s).push (.scalar true text)

/-- The token that starts with the character at the cursor. -/
def content? (s : Lexer) : Option Lexer :=
  let c := s.cursor.char
  let next := s.cursor.next
  let colon :=
    endsWord next || (s.inFlow && (isFlowMark next || s.cursor.index == s.adjacentAt))
  if c = '[' then s.openFlow? .flowSequence
  else if c = '\x7b' then s.openFlow? .flowMapping
  else if c = ']' then s.closeFlow? .flowSequenceEnd
  else if c = '\x7d' then s.closeFlow? .flowMappingEnd
  else if c = ',' then s.flowEntry?
  else if c = '-' ∧ endsWord next then s.blockEntry?
  else if c = '?' ∧ endsWord next then s.explicitKey?
  else if c = ':' ∧ colon then s.value?
  else if c = '*' then s.property? fun c => (anchorName? c).map fun (n, c) => (.alias n, c)
  else if c = '&' then s.property? fun c => (anchorName? c).map fun (n, c) => (.anchor n, c)
  else if c = '!' then s.property? (tag? s.inFlow)
  else if (c = '|' ∨ c = '>') ∧ ¬ s.inFlow then s.blockScalar?
  else if c = '\'' ∨ c = '\x22' then s.quotedScalar?
  else if c = '%' ∨ c = '@' ∨ c = '\x60' then none
  else s.plainScalar?

/-- The next token, or nothing more. -/
def step? (s : Lexer) : Option (Lexer × Bool) := do
  let s ← (← s.skip?).dropStale?
  let c := s.cursor
  let s := s.closeBlocks c.column
  if c.atEnd then
    let s ← (s.closeBlocks (-1)).dropCandidate?
    return (s, true)
  else
    let s ←
      if c.column = 0 ∧ c.char = '%' then s.directiveLine?
      else if c.atMarker '-' then s.documentMarker? .documentStart
      else if c.atMarker '.' then s.documentEnd?
      else if c.column < s.indent then none
      else s.content?
    return (s, false)

def run? : Nat → Lexer → Option Lexer
  | 0, _        => none
  | fuel + 1, s =>
    match s.step? with
    | none            => none
    | some (s, true)  => some s
    | some (s, false) => run? fuel s

end Lexer

/-- The tokens of a text, which ends at the first NUL. -/
def Token.ofText? (text : List Char) : Option (List Token) :=
  let text := text.takeWhile (· ≠ endMark)
  (Lexer.run? (text.length + 2) { cursor := { rest := text } }).map (·.tokens.reverse)

end Courier.Yaml
