import Courier.Text.Numeral
import Courier.Yaml.Cursor
import Courier.Yaml.Token

/-!
# Courier — YAML anchors, tags and directives

The parts of a YAML text that say something about a value or a document: names for values
(`&name` and `*name`), types (`!name`), and the lines that start with a percent sign.
-/

namespace Courier.Yaml

/-- A letter, a digit, a hyphen or an underscore. -/
def isWordChar (c : Char) : Bool := c.isAlphanum || c == '-' || c == '_'

/-! ### Anchors -/

def isAnchorChar (c : Char) : Bool := !endsWord c && c.toNat != 0xFEFF && !isFlowMark c

/-- The name after `&` or `*`. -/
def anchorName? (c : Cursor) : Option (String × Cursor) :=
  let name := (c.rest.drop 1).takeWhile isAnchorChar
  if name.isEmpty then none else some (String.ofList name, c.pass (name.length + 1))

/-! ### Tags -/

def isUriChar (c : Char) : Bool :=
  c.isAlphanum || c == '-' || "#;/?:@&=+$,_.!~*'()[]%".toList.contains c

def isTagChar (c : Char) : Bool := isUriChar c && !isFlowMark c && c != '!'

/-- The bytes that one escaped character has, from its first byte. -/
def escapeWidth? (b : Nat) : Option Nat :=
  if b < 0x80 then some 1
  else if 0xC0 ≤ b ∧ b < 0xE0 then some 2
  else if 0xE0 ≤ b ∧ b < 0xF0 then some 3
  else if 0xF0 ≤ b ∧ b < 0xF8 then some 4
  else none

/-- The byte that a percent sign and two hexadecimal digits stand for. -/
def escapedByte? : List Char → Option (Nat × List Char)
  | '%' :: a :: b :: rest => (Text.natural? 16 [a, b]).map fun n => (n, rest)
  | _ => none

/-- The number that starts with `code` and goes on with further bytes of an escaped character. -/
def escapedBytes? : Nat → Nat → List Char → Option (Nat × List Char)
  | 0, code, cs         => some (code, cs)
  | count + 1, code, cs =>
    match escapedByte? cs with
    | some (b, rest) =>
      if 0x80 ≤ b ∧ b < 0xC0 then escapedBytes? count (code * 256 + b) rest else none
    | none => none

/-- The character that an escape stands for.  An escape has as many bytes as a character has in
UTF-8, but the bytes are the digits of its code, so that no escape of three or four bytes is one. -/
def escapedChar? (cs : List Char) : Option (Char × List Char) := do
  let (b, rest) ← escapedByte? cs
  let width ← escapeWidth? b
  let (code, rest) ← escapedBytes? (width - 1) b rest
  if code.isValidChar then some (Char.ofNat code, rest) else none

/-- The characters of a tag that `accept` allows, with escapes resolved. -/
def tagChars? (accept : Char → Bool) : Nat → List Char → List Char →
    Option (List Char × List Char)
  | 0, acc, cs        => some (acc.reverse, cs)
  | fuel + 1, acc, cs =>
    match cs with
    | []        => some (acc.reverse, [])
    | c :: rest =>
      if c = '%' then
        match escapedChar? cs with
        | some (x, rest) => tagChars? accept fuel (x :: acc) rest
        | none           => none
      else if accept c then tagChars? accept fuel (c :: acc) rest
      else some (acc.reverse, cs)

/-- The rest of a text after some of its characters on one line. -/
def Cursor.passTo (rest : List Char) (c : Cursor) : Cursor :=
  c.pass (c.rest.length - rest.length)

/-- A tag: its handle and what follows it, which may be empty for the lone `!` only.  A tag without
a handle of its own has the handle `!`, and the lone `!` none. -/
def tag? (flow : Bool) (c : Cursor) : Option (Token × Cursor) := do
  let (handle, suffix, rest) ← parts
  let after := c.passTo rest
  if endsWord after.char ∨ (flow ∧ isFlowMark after.char) then
    return (.tag (String.ofList handle) (String.ofList suffix), after)
  else none
where
  parts : Option (List Char × List Char × List Char) :=
    let body := c.rest.drop 1
    if peek body = '<' then
      match tagChars? isUriChar (body.length + 1) [] (body.drop 1) with
      | some (uri, '>' :: rest) => some ([], uri, rest)
      | _                       => none
    else
      let word := body.takeWhile isWordChar
      let rest := body.drop word.length
      if peek rest = '!' then
        match tagChars? isTagChar (rest.length + 1) [] (rest.drop 1) with
        | some (suffix, rest) =>
          if suffix.isEmpty then none else some ('!' :: word ++ ['!'], suffix, rest)
        | none => none
      else
        match tagChars? isTagChar (rest.length + 1) [] rest with
        | some (more, rest) =>
          if (word ++ more).isEmpty then some ([], ['!'], rest)
          else some (['!'], word ++ more, rest)
        | none => none

/-! ### Directives -/

/-- A version number: digits, a point, digits. -/
def versionNumber? (cs : List Char) : Option (List Char) :=
  let digits (cs : List Char) : Option (List Char) :=
    let ds := cs.takeWhile Char.isDigit
    if ds.isEmpty ∨ 9 < ds.length then none else some (cs.drop ds.length)
  match digits cs with
  | some ('.' :: rest) => digits rest
  | _                  => none

/-- The handle of a tag directive. -/
def tagHandle? : List Char → Option (List Char × List Char)
  | '!' :: rest =>
    let word := rest.takeWhile isWordChar
    match rest.drop word.length with
    | '!' :: rest => some ('!' :: word ++ ['!'], rest)
    | rest        => if word.isEmpty then some (['!'], rest) else none
  | _ => none

/-- The start of what a handle stands for. -/
def tagExpansion? (cs : List Char) : Option (List Char × List Char) :=
  match cs with
  | c :: _ =>
    if c = '!' ∨ isTagChar c then
      tagChars? isUriChar (cs.length + 1) (if c = '!' then ['!'] else [])
        (if c = '!' then cs.drop 1 else cs)
    else none
  | [] => none

/-- A directive, with its line.  One of an unknown name has no meaning. -/
def directive? (c : Cursor) : Option (Token × Cursor) := do
  let body := c.rest.drop 1
  let name := body.takeWhile isWordChar
  let rest := body.drop name.length
  if name.isEmpty ∨ ¬ endsWord (peek rest) then none
  else
    let (token, rest) ← value (String.ofList name) rest
    let (_, _, after) ← (c.passTo rest).passBlanks? true
    if endsLine after.char then return (token, after.passBreak) else none
where
  value (name : String) (rest : List Char) : Option (Token × List Char) :=
    if name = "YAML" then
      (versionNumber? (rest.dropWhile isBlank)).map fun rest => (.version, rest)
    else if name = "TAG" then do
      let (handle, rest) ← tagHandle? (rest.dropWhile isBlank)
      let (expansion, rest) ← tagExpansion? (rest.dropWhile isBlank)
      if endsWord (peek rest) then
        return (.tagDirective (String.ofList handle) (String.ofList expansion), rest)
      else none
    else some (.tagDirective "" "", rest.dropWhile fun x => ¬ endsLine x)

end Courier.Yaml
