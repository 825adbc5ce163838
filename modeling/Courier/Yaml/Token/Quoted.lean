import Courier.Text.Numeral
import Courier.Yaml.Cursor

/-!
# Courier — Quoted YAML texts

Texts between quotes.  Between single quotes, a quote is written twice and all else stands as it
is; between double quotes, a backslash starts an escape.  Line breaks are folded as in plain
texts, and a backslash before a line break joins the two lines.
-/

namespace Courier.Yaml

/-- The escapes of one character. -/
def escapes : List (Char × Nat) :=
  [('0', 0x0), ('a', 0x7), ('b', 0x8), ('t', 0x9), ('\t', 0x9), ('n', 0xA), ('v', 0xB),
   ('f', 0xC), ('r', 0xD), ('e', 0x1B), (' ', 0x20), ('\x22', 0x22), ('/', 0x2F), ('\\', 0x5C),
   ('N', 0x85), ('_', 0xA0), ('L', 0x2028), ('P', 0x2029)]

/-- How many hexadecimal digits follow the letter of an escape. -/
def escapeDigits? (c : Char) : Option Nat :=
  if c = 'x' then some 2 else if c = 'u' then some 4 else if c = 'U' then some 8 else none

/-- The character of an escape, from the character after the backslash on, and how many
characters name it. -/
def escaped? (cs : List Char) : Option (Char × Nat) :=
  match escapes.lookup (peek cs) with
  | some n => some (Char.ofNat n, 1)
  | none =>
    match escapeDigits? (peek cs) with
    | none => none
    | some count =>
      let digits := (cs.drop 1).take count
      if digits.length ≠ count then none
      else
        (Text.natural? 16 digits).bind fun n =>
          if n.isValidChar then some (Char.ofNat n, count + 1) else none

/-- The text up to white space or the closing quote.  `acc` holds the text before it, last
character first; the last answer tells that the line was joined with the next one. -/
def quotedWord? (quote : Char) : Nat → List Char → Cursor → Option (List Char × Cursor × Bool)
  | 0, _, _ => none
  | fuel + 1, acc, c =>
    if endsWord c.char then some (acc, c, false)
    else if c.char = quote then
      if quote = '\'' ∧ c.next = quote then quotedWord? quote fuel (quote :: acc) (c.pass 2)
      else some (acc, c, false)
    else if c.char = '\\' ∧ quote ≠ '\'' then
      if isBreak c.next then some (acc, (c.pass 1).passBreak, true)
      else
        match escaped? (c.rest.drop 1) with
        | some (x, count) => quotedWord? quote fuel (x :: acc) (c.pass (count + 1))
        | none            => none
    else quotedWord? quote fuel (c.char :: acc) (c.pass 1)

/-- White space inside a quoted text. -/
structure QuotedGap where
  cursor : Cursor
  blanks : List Char := []
  /-- Blanks are indentation now. -/
  newLine : Bool := false
  /-- There was a line break without a backslash. -/
  broken : Bool := false
  /-- Line breaks after the first. -/
  breaks : Nat := 0

/-- The text that a gap stands for, last character first. -/
def QuotedGap.folded (g : QuotedGap) : List Char :=
  if ¬ g.newLine then g.blanks
  else if g.broken ∧ g.breaks = 0 then [' ']
  else List.replicate g.breaks '\n'

/-- Passes white space.  A tab left of `indent` may not stand at the start of a line. -/
def passQuotedGap? (indent : Int) : Nat → QuotedGap → Option QuotedGap
  | 0, g        => some g
  | fuel + 1, g =>
    let c := g.cursor
    if isBlank c.char then
      if ¬ g.newLine then
        passQuotedGap? indent fuel { g with cursor := c.advance 1, blanks := c.char :: g.blanks }
      else if c.char = '\t' ∧ c.column < indent then none
      else passQuotedGap? indent fuel { g with cursor := c.advance 1 }
    else if isBreak c.char then
      if g.newLine then
        passQuotedGap? indent fuel { g with cursor := c.passBreak, breaks := g.breaks + 1 }
      else passQuotedGap? indent fuel { cursor := c.passBreak, newLine := true, broken := true }
    else some g

/-- The rest of a quoted text; the cursor comes back after the closing quote. -/
def quotedFrom? (quote : Char) (indent : Int) : Nat → List Char → Cursor →
    Option (List Char × Cursor)
  | 0, _, _ => none
  | fuel + 1, acc, c =>
    if c.atDocumentMarker ∨ c.atEnd ∨ c.column < indent then none
    else
      match quotedWord? quote (c.rest.length + 1) acc c with
      | none => none
      | some (acc, c, joined) =>
        if c.char = quote then some (acc, c.pass 1)
        else
          match passQuotedGap? indent (c.rest.length + 1) { cursor := c, newLine := joined } with
          | none   => none
          | some g => quotedFrom? quote indent fuel (g.folded ++ acc) g.cursor

/-- What may stand after a quoted text: the end of the line, a colon that makes it a key, and
inside a flow collection a mark of it. -/
def mayFollowQuoted (flow sameLine : Bool) (c : Char) : Bool :=
  endsLine c || (flow && (c == ',' || c == '\x7d' || c == ']' || c == ':')) ||
    (!flow && sameLine && c == ':')

/-- The quoted text at the cursor, with the blanks after it. -/
def quoted? (flow : Bool) (indent : Int) (c : Cursor) : Option (String × Cursor) := do
  let (acc, after) ← quotedFrom? c.char indent (c.rest.length + 1) [] (c.pass 1)
  let (_, _, after) ← after.passBlanks? true
  if mayFollowQuoted flow (c.line == after.line) after.char then
    return (String.ofList acc.reverse, after)
  else none

end Courier.Yaml
