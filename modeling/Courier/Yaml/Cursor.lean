/-!
# Courier — A place in a YAML text

The characters that YAML gives a role, and a cursor over a text that knows its line and column.
Lines end at a line feed, a carriage return, or the two together.  The end of a text reads as the
character NUL, which ends a text wherever it stands.
-/

namespace Courier.Yaml

/-! ### Characters -/

/-- What reading past the end gives. -/
def endMark : Char := Char.ofNat 0

def isBreak (c : Char) : Bool := c == '\n' || c == '\r'

def isBlank (c : Char) : Bool := c == ' ' || c == '\t'

/-- A line break or the end of the text. -/
def endsLine (c : Char) : Bool := isBreak c || c == endMark

/-- A blank, a line break or the end of the text. -/
def endsWord (c : Char) : Bool := isBlank c || endsLine c

/-- The marks of flow collections. -/
def isFlowMark (c : Char) : Bool :=
  c == ',' || c == '[' || c == ']' || c == '\x7b' || c == '\x7d'

/-- The first character. -/
def peek : List Char → Char
  | c :: _ => c
  | []     => endMark

/-- The second character. -/
def peekNext : List Char → Char
  | _ :: c :: _ => c
  | _           => endMark

/-! ### Cursors -/

structure Cursor where
  rest   : List Char
  index  : Nat := 0
  line   : Nat := 0
  column : Nat := 0
  /-- Only blanks so far on this line. -/
  fresh  : Bool := true

namespace Cursor

def char (c : Cursor) : Char := Yaml.peek c.rest

def next (c : Cursor) : Char := peekNext c.rest

def atEnd (c : Cursor) : Bool := c.char == endMark

/-- Passes `n` characters of a line. -/
def advance (n : Nat) (c : Cursor) : Cursor :=
  { c with rest := c.rest.drop n, index := c.index + n, column := c.column + n }

/-- Passes `n` characters, not only blanks. -/
def pass (n : Nat) (c : Cursor) : Cursor := { c.advance n with fresh := false }

def newLine (n : Nat) (c : Cursor) : Cursor :=
  { rest := c.rest.drop n, index := c.index + n, line := c.line + 1, column := 0, fresh := true }

/-- Passes a line break. -/
def passBreak (c : Cursor) : Cursor :=
  if c.char = '\r' ∧ c.next = '\n' then c.newLine 2 else c.newLine 1

/-- Passes a comment, which goes to the end of the line. -/
def passComment (c : Cursor) : Cursor :=
  c.pass (c.rest.takeWhile fun x => ¬ endsLine x).length

/-- Passes spaces, and a comment after them that goes to the end of the line; `tabs` allows tabs
as well.  Tells whether there was a tab and whether there was a space.  A comment needs a blank
before it. -/
def passBlanks? (tabs : Bool) (c : Cursor) : Option (Bool × Bool × Cursor) :=
  let blanks := c.rest.takeWhile fun x => x == ' ' || (tabs && x == '\t')
  let after := c.advance blanks.length
  if after.char ≠ '#' then some (blanks.contains '\t', blanks.contains ' ', after)
  else if blanks.isEmpty then none
  else some (blanks.contains '\t', blanks.contains ' ', after.passComment)

/-- The three characters stand at the start of a line, with a blank or the end of the line
after them. -/
def atMarker (marker : Char) (c : Cursor) : Bool :=
  c.column == 0 &&
    match c.rest with
    | x :: y :: z :: rest => x == marker && y == marker && z == marker && endsWord (Yaml.peek rest)
    | _ => false

/-- At the line that starts or ends a document. -/
def atDocumentMarker (c : Cursor) : Bool := c.atMarker '-' || c.atMarker '.'

end Cursor

end Courier.Yaml
