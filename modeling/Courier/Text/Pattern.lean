import Courier.Text.Alphanumeric
import Courier.Text.Numeral

/-!
# Courier — Patterns

Regular expressions that describe a text from its first character on.  Only whether a text is one
matters here (`isPattern`): groups and classes have to be closed, a repetition needs something to
repeat, and an escape has to have a meaning.  Repetitions and escapes with braces are none, and
neither are the borders of words, which cannot be told while reading one character after the
other.

There is no table here of the digits, the blanks and the letters of all scripts.  So a set of
those, or a letter in any case, is a pattern only among ASCII characters.
-/

namespace Courier.Text.Pattern

/-! ### Modes -/

/-- What the flags say where a part of a pattern stands. -/
structure Mode where
  anyCase : Bool := false
  /-- The pattern describes ASCII characters, or else all characters. -/
  onlyAscii : Bool := false

namespace Mode

/-- A character, or a class of some, can be looked for. -/
def admitsChar (m : Mode) : Bool := !m.anyCase || m.onlyAscii

def flagLetters : List Char := "imsUuRx".toList

def switch (m : Mode) (on : Bool) (letters : List Char) : Mode :=
  { anyCase   := if letters.contains 'i' then on else m.anyCase
    onlyAscii := if letters.contains 'u' then !on else m.onlyAscii }

/-- The mode after flags to switch on, and after a hyphen some to switch off, each at most once. -/
def withFlags? (m : Mode) (cs : List Char) : Option Mode :=
  let on := cs.takeWhile (· ≠ '-')
  let off := cs.drop (on.length + 1)
  let letters := on ++ off
  if letters.all flagLetters.contains ∧ letters.Nodup ∧ cs.getLast? ≠ some '-' then
    some ((m.switch true on).switch false off)
  else none

end Mode

/-! ### Escapes -/

/-- What an escape stands for. -/
inductive Escape where
  | char (c : Char)
  /-- One of several characters. -/
  | set
  /-- A place in the text. -/
  | place

/-- A character that has no meaning of its own after a backslash. -/
def isEscapable (c : Char) : Bool :=
  c.toNat < 128 && !c.isAlphanum && c != '<' && c != '>'

/-- Letters that stand for a character. -/
def letterEscapes : List (Char × Char) :=
  [('a', Char.ofNat 7), ('f', Char.ofNat 12), ('t', '\t'), ('n', '\n'), ('r', '\r'),
    ('v', Char.ofNat 11)]

/-- The number of hexadecimal digits after a letter. -/
def hexEscapes : List (Char × Nat) := [('x', 2), ('u', 4), ('U', 8)]

/-- The character whose code has `count` hexadecimal digits. -/
def hexChar? (count : Nat) (cs : List Char) : Option (Escape × List Char) := do
  if (cs.take count).length < count then none
  else
    let code ← natural? 16 (cs.take count)
    if code.isValidChar then return (.char (Char.ofNat code), cs.drop count) else none

/-- The escape after a backslash. -/
def escape? (m : Mode) : List Char → Option (Escape × List Char)
  | []        => none
  | c :: rest =>
    if isEscapable c then some (.char c, rest)
    else if c = 'd' ∨ c = 's' ∨ c = 'w' then if m.onlyAscii then some (.set, rest) else none
    else if c = 'A' ∨ c = 'z' then some (.place, rest)
    else
      match letterEscapes.lookup c, hexEscapes.lookup c with
      | some x, _        => some (.char x, rest)
      | none, some count => hexChar? count rest
      | none, none       => none

/-! ### Classes -/

def classNames : List String :=
  ["alnum", "alpha", "ascii", "blank", "cntrl", "digit", "graph", "lower", "print", "punct",
    "space", "upper", "word", "xdigit"]

/-- The rest after a class that is given by its name between colons. -/
def namedClass? : List Char → Option (List Char)
  | ':' :: rest =>
    let rest := if rest.head? = some '^' then rest.drop 1 else rest
    let name := rest.takeWhile Char.isAlpha
    match rest.drop name.length with
    | ':' :: ']' :: after => if classNames.contains (String.ofList name) then some after else none
    | _                   => none
  | _ => none

/-- The rest after the characters that have no meaning at the start of a class. -/
def classStart? (m : Mode) (cs : List Char) : Option (List Char) :=
  let cs' := if cs.head? = some '^' then cs.drop 1 else cs
  let rest := cs'.dropWhile (· == '-')
  if cs.head? = some '^' ∧ m.onlyAscii then none
  else if rest.length = cs'.length ∧ rest.head? = some ']' then some (rest.drop 1)
  else some rest

/-- One member of a class. -/
def classItem? (m : Mode) : List Char → Option (Escape × List Char)
  | []           => none
  | '\\' :: rest =>
    match escape? m rest with
    | some (.place, _) => none
    | found            => found
  | c :: rest => if m.onlyAscii ∧ 128 ≤ c.toNat then none else some (.char c, rest)

/-- The rest after a member or a range of a class. -/
def classRange? (m : Mode) (cs : List Char) : Option (List Char) := do
  let (first, rest) ← classItem? m cs
  match rest with
  | '-' :: ']' :: _ | '-' :: '-' :: _ => return rest
  | '-' :: rest =>
    let (last, rest) ← classItem? m rest
    match first, last with
    | .char a, .char b => if a.toNat ≤ b.toNat then return rest else none
    | _, _             => none
  | _ => return rest

/-- The rest after a class, from inside of it; `depth` further classes are open around it. -/
def classEnd? (m : Mode) : Nat → Nat → List Char → Option (List Char)
  | 0, _, _             => none
  | fuel + 1, depth, cs =>
    match cs with
    | [] => none
    | '[' :: rest =>
      match namedClass? rest with
      | some rest => classEnd? m fuel depth rest
      | none      => (classStart? m rest).bind (classEnd? m fuel (depth + 1))
    | ']' :: rest => if depth = 0 then some rest else classEnd? m fuel (depth - 1) rest
    | '&' :: '&' :: rest | '-' :: '-' :: rest | '~' :: '~' :: rest => classEnd? m fuel depth rest
    | _ => (classRange? m cs).bind (classEnd? m fuel depth)

/-- The rest after a class, from behind its opening bracket. -/
def class? (m : Mode) (cs : List Char) : Option (List Char) :=
  if m.admitsChar then (classStart? m cs).bind (classEnd? m (cs.length + 1) 0) else none

/-! ### Groups -/

/-- What the start of a group is. -/
inductive GroupStart where
  /-- A group with a mode inside. -/
  | group (m : Mode)
  | named (name : List Char)
  /-- Only a mode for what follows. -/
  | flags (m : Mode)

def isNameChar (first : Bool) (c : Char) : Bool :=
  c == '_' ||
    if first then isAlphanumeric c && !c.isDigit
    else c == '.' || c == '[' || c == ']' || isAlphanumeric c

/-- The name of a group. -/
def groupName? (cs : List Char) : Option (GroupStart × List Char) :=
  let name := cs.takeWhile (· ≠ '>')
  match name, cs.drop name.length with
  | c :: more, '>' :: rest =>
    if isNameChar true c ∧ more.all (isNameChar false) then some (.named name, rest) else none
  | _, _ => none

/-- What follows a bracket that opens a group. -/
def groupStart? (m : Mode) : List Char → Option (GroupStart × List Char)
  | '?' :: 'P' :: '<' :: rest => groupName? rest
  | '?' :: '<' :: rest        => groupName? rest
  | '?' :: rest               =>
    let flags := rest.takeWhile fun c => c ≠ ':' ∧ c ≠ ')'
    match m.withFlags? flags, rest.drop flags.length with
    | some inside, ':' :: after => some (.group inside, after)
    | some inside, ')' :: after => if flags = [] then none else some (.flags inside, after)
    | _, _                      => none
  | rest => some (.group m, rest)

/-! ### Patterns -/

/-- What is known where a part of a pattern starts. -/
structure Place where
  mode   : Mode := {}
  /-- The modes around the open groups. -/
  around : List Mode := []
  /-- The names of the groups so far. -/
  names  : List (List Char) := []
  /-- A repetition may follow. -/
  repeatable : Bool := false

/-- The place after a part that can be repeated. -/
def Place.past (p : Place) : Place := { p with repeatable := true }

/-- The place inside a group. -/
def Place.inside (p : Place) (m : Mode) : Place :=
  { p with mode := m, around := p.mode :: p.around, repeatable := false }

/-- The rest of a pattern is well formed. -/
def wellFormed : Nat → Place → List Char → Bool
  | 0, _, _           => false
  | fuel + 1, p, cs =>
    match cs with
    | []          => p.around.isEmpty
    | '|' :: rest => wellFormed fuel { p with repeatable := false } rest
    | '(' :: rest =>
      match groupStart? p.mode rest with
      | some (.group m, rest)    => wellFormed fuel (p.inside m) rest
      | some (.flags m, rest)    => wellFormed fuel { p with mode := m, repeatable := false } rest
      | some (.named name, rest) =>
        !p.names.contains name &&
          wellFormed fuel { p.inside p.mode with names := name :: p.names } rest
      | none => false
    | ')' :: rest  =>
      match p.around with
      | m :: around => wellFormed fuel { p.past with mode := m, around } rest
      | []          => false
    | '\x7b' :: _  => false
    | '[' :: rest  =>
      match class? p.mode rest with
      | some rest => wellFormed fuel p.past rest
      | none      => false
    | '\\' :: rest =>
      match escape? p.mode rest with
      | some (.char _, rest) => p.mode.admitsChar && wellFormed fuel p.past rest
      | some (_, rest)       => wellFormed fuel p.past rest
      | none                 => false
    | '.' :: rest => !p.mode.onlyAscii && wellFormed fuel p.past rest
    | c :: rest   =>
      if c = '?' ∨ c = '*' ∨ c = '+' then
        p.repeatable &&
          wellFormed fuel p.past (if rest.head? = some '?' then rest.drop 1 else rest)
      else (c = '^' || c = '$' || p.mode.admitsChar) && wellFormed fuel p.past rest

end Pattern

/-- The text is a pattern. -/
def isPattern (cs : List Char) : Bool := Pattern.wellFormed (cs.length + 1) {} cs

end Courier.Text
