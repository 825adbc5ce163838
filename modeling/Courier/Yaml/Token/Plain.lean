import Courier.Yaml.Cursor

/-!
# Courier — Plain YAML texts

A text without quotes.  It ends before a colon that a blank follows, a comment, a line with less
indentation and, inside a flow collection, the marks of one.  Line breaks inside it are folded: one
is a space, and of several the first is dropped.
-/

namespace Courier.Yaml

/-- The longest part of `cs` that a plain text has in one piece. -/
def plainWord (flow : Bool) : List Char → List Char
  | []      => []
  | c :: cs =>
    if endsWord c ∨ (c = ':' ∧ (endsWord (peek cs) ∨ (flow ∧ isFlowMark (peek cs))))
      ∨ (flow ∧ isFlowMark c) then []
    else c :: plainWord flow cs

/-- White space between two words: the blanks, last first, or the line breaks. -/
structure Gap where
  cursor : Cursor
  blanks : List Char := []
  /-- There was a line break. -/
  broken : Bool := false
  /-- Line breaks after the first. -/
  breaks : Nat := 0

/-- The text that a gap stands for, last character first. -/
def Gap.folded (g : Gap) : List Char :=
  if ¬ g.broken then g.blanks
  else if g.breaks = 0 then [' ']
  else List.replicate g.breaks '\n'

/-- Passes the white space after a word.  A tab left of `indent` may only stand in a line that is
empty or a comment.  The break that ends a comment is not counted. -/
def passGap? (indent : Int) : Nat → Gap → Option Gap
  | 0, g        => some g
  | fuel + 1, g =>
    let c := g.cursor
    if isBlank c.char then
      if ¬ c.fresh then
        passGap? indent fuel { g with cursor := c.advance 1, blanks := c.char :: g.blanks }
      else if c.column < indent ∧ c.char = '\t' then
        match c.passBlanks? true with
        | some (_, _, after) =>
          if endsLine after.char then passGap? indent fuel { g with cursor := after }
          else none
        | none => none
      else passGap? indent fuel { g with cursor := c.advance 1 }
    else if isBreak c.char then
      if c.fresh then
        passGap? indent fuel { g with cursor := c.passBreak, breaks := g.breaks + 1 }
      else passGap? indent fuel { g with cursor := c.passBreak, blanks := [], broken := true }
    else some g

/-- The words after `acc`, which holds the text so far, last character first.  The answer tells
whether the text ended on a new line. -/
def plainFrom? (flow : Bool) (indent : Int) : Nat → List Char → Gap →
    Option (List Char × Cursor)
  | 0, _, _            => none
  | fuel + 1, acc, gap =>
    let c := gap.cursor
    if c.atDocumentMarker ∨ c.char = '#' then some (acc, c)
    else if flow ∧ c.char = '-' ∧ isFlowMark c.next then none
    else
      let word := plainWord flow c.rest
      let (acc, gap) :=
        if word.isEmpty then (acc, gap)
        else
          (word.reverse ++ ((if acc.isEmpty then [] else gap.folded) ++ acc),
            { cursor := c.pass word.length })
      let c := gap.cursor
      if ¬ (isBlank c.char ∨ isBreak c.char) then some (acc, c)
      else
        match passGap? indent (c.rest.length + 1) gap with
        | none => none
        | some gap =>
          if ¬ flow ∧ gap.cursor.column < indent then some (acc, gap.cursor)
          else plainFrom? flow indent fuel acc gap

/-- The plain text at the cursor. -/
def plain? (flow : Bool) (indent : Int) (c : Cursor) : Option (String × Cursor) :=
  if flow ∧ c.column < indent then none
  else
    match plainFrom? flow indent (c.rest.length + 1) [] { cursor := c } with
    | some (acc, after) => if acc.isEmpty then none else some (String.ofList acc.reverse, after)
    | none              => none

end Courier.Yaml
