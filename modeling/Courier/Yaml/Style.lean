import Courier.Binary64.Text
import Courier.Yaml.Cursor

/-!
# Courier — Styles of YAML texts

How a text is written so that it stands out from the marks of YAML and from other types.  A text
that would read as null, a flag or a number is quoted; one with line breaks is a block; others are
plain where their characters allow it, then single-quoted, then double-quoted.
-/

namespace Courier.Yaml

/-! ### Other types -/

def withoutSign : List Char → List Char
  | '+' :: cs => cs
  | '-' :: cs => cs
  | cs        => cs

def startsWithSign : List Char → Bool
  | c :: _ => c == '+' || c == '-'
  | []     => false

/-- A numeral that starts with a needless zero. -/
def isPadded (cs : List Char) : Bool :=
  match withoutSign cs with
  | '0' :: d :: ds => (d :: ds).all Char.isDigit
  | _              => false

/-- The base of a numeral, and its digits. -/
def markedDigits? : List Char → Option (Nat × List Char)
  | '0' :: 'x' :: cs => some (16, cs)
  | '0' :: 'o' :: cs => some (8, cs)
  | '0' :: 'b' :: cs => some (2, cs)
  | _                => none

/-- An integer of at most 128 bits, with a mark of its base or without. -/
def looksInteger (cs : List Char) : Bool :=
  let marked (bound : Nat) (cs : List Char) : Bool :=
    match markedDigits? cs with
    | some (base, ds) => (Text.natural? base ds).any (· < bound)
    | none            => false
  let plain (bound : Nat) (cs : List Char) : Bool := (Text.natural? 10 cs).any (· < bound)
  match cs with
  | '-' :: cs =>
    marked (Nat.pow 2 127 + 1) cs || (!isPadded cs && plain (Nat.pow 2 127 + 1) cs)
  | '+' :: cs => marked (Nat.pow 2 128) cs || (!isPadded cs && plain (Nat.pow 2 128) cs)
  | cs        => marked (Nat.pow 2 128) cs || (!isPadded cs && plain (Nat.pow 2 128) cs)

/-- A floating-point number that is finite or stands under its special name. -/
def looksReal (cs : List Char) : Bool :=
  let unsigned := match cs with
    | '+' :: rest => rest
    | cs          => cs
  let named := [".inf", ".Inf", ".INF"].contains (String.ofList unsigned) ||
    ["-.inf", "-.Inf", "-.INF", ".nan", ".NaN", ".NAN"].contains (String.ofList cs)
  let plus := cs.head? == some '+' && startsWithSign unsigned
  named || (!plus && (Binary64.ofText? unsigned).any Binary64.isFinite)

def wordsOfOtherTypes : List String :=
  ["", "~", "null", "Null", "NULL", "true", "True", "TRUE", "false", "False", "FALSE"]

/-- The text would read as null, a flag or a number. -/
def readsAsOther (s : String) : Bool :=
  wordsOfOtherTypes.contains s || looksInteger s.toList || isPadded s.toList ||
    looksReal s.toList

/-! ### Characters -/

/-- A character that stands for itself outside of double quotes. -/
def isPrintable (c : Char) : Bool :=
  let n := c.toNat
  n == 0xA || (0x20 ≤ n && n ≤ 0x7E) || (0xA0 ≤ n && n != 0xFEFF && n != 0xFFFE && n != 0xFFFF)

/-- A character that ends a line for a writer, which takes a wider view than a reader. -/
def breaksLine (c : Char) : Bool :=
  let n := c.toNat
  isBreak c || n == 0x85 || n == 0x2028 || n == 0x2029

/-- White space for a writer. -/
def isWrittenBlank (c : Char) : Bool := isBlank c || breaksLine c || c == endMark

/-- White space or the end of the text comes next. -/
def blankNext : List Char → Bool
  | c :: _ => isWrittenBlank c
  | []     => true

/-- The first characters that only a quoted text may have. -/
def firstMarks : List Char :=
  ['#', ',', '[', ']', '\x7b', '\x7d', '&', '*', '!', '|', '>', '\'', '\x22', '%', '@', '\x60']

/-- A mark at the start of the text. -/
def startsWithMark : List Char → Bool
  | []      => false
  | c :: cs =>
    firstMarks.contains c ||
      ((c == '?' || c == ':' || c == '-') && blankNext cs) ||
      (c :: cs).take 3 == ['-', '-', '-'] || (c :: cs).take 3 == ['.', '.', '.']

/-- A colon before white space, or a hash after it, later in the text; `blank` tells that white
space stands before the list. -/
def holdsMark (blank : Bool) : List Char → Bool
  | []      => false
  | c :: cs =>
    (c == ':' && blankNext cs) || (c == '#' && blank) ||
      holdsMark (isWrittenBlank c) cs

/-- One character after another, the first and the second as given. -/
def holdsPair (first second : Char → Bool) : List Char → Bool
  | a :: b :: cs => (first a && second b) || holdsPair first second (b :: cs)
  | _            => false

def isSpaceChar (c : Char) : Bool := c == ' '

/-- A space or a line break at an end. -/
def hasBlankEnd (cs : List Char) : Bool :=
  let blank (c : Char) := isSpaceChar c || breaksLine c
  cs.head?.any blank || cs.getLast?.any blank

/-! ### Choice -/

inductive Style where
  | plain
  | singleQuoted
  | doubleQuoted
  | block
  deriving DecidableEq

/-- Only double quotes can hold the text. -/
def needsEscapes (cs : List Char) : Bool :=
  cs.any (fun c => !isPrintable c) || holdsPair isSpaceChar breaksLine cs

def blockAllowed (cs : List Char) : Bool :=
  !needsEscapes cs && !cs.isEmpty && !cs.getLast?.any isSpaceChar

def singleQuotedAllowed (cs : List Char) : Bool :=
  !needsEscapes cs && !holdsPair breaksLine isSpaceChar cs

def plainAllowed (cs : List Char) : Bool :=
  singleQuotedAllowed cs && !cs.any breaksLine && !hasBlankEnd cs && !startsWithMark cs &&
    !holdsMark false (cs.drop 1)

/-- The style that a text is written in. -/
def styleOf (s : String) : Style :=
  let cs := s.toList
  let quoted := if singleQuotedAllowed cs then Style.singleQuoted else .doubleQuoted
  if cs.contains '\n' then if blockAllowed cs then .block else .doubleQuoted
  else if readsAsOther s then quoted
  else if plainAllowed cs then .plain
  else quoted

/-! ### Writing -/

def upperHex (width n : Nat) : List Char :=
  let ds := (Nat.toDigits 16 n).map Char.toUpper
  List.replicate (width - ds.length) '0' ++ ds

/-- The escapes that have a letter of their own. -/
def letterEscapes : List (Nat × Char) :=
  [(0x0, '0'), (0x7, 'a'), (0x8, 'b'), (0x9, 't'), (0xA, 'n'), (0xB, 'v'), (0xC, 'f'), (0xD, 'r'),
   (0x1B, 'e'), (0x22, '\x22'), (0x5C, '\\'), (0x85, 'N'), (0xA0, '_'), (0x2028, 'L'),
   (0x2029, 'P')]

/-- A character between double quotes. -/
def writeEscaped (c : Char) : List Char :=
  let n := c.toNat
  if isPrintable c ∧ ¬ breaksLine c ∧ c ≠ '\x22' ∧ c ≠ '\\' then [c]
  else
    match letterEscapes.lookup n with
    | some letter => ['\\', letter]
    | none =>
      if n ≤ 0xFF then '\\' :: 'x' :: upperHex 2 n
      else if n ≤ 0xFFFF then '\\' :: 'u' :: upperHex 4 n
      else '\\' :: 'U' :: upperHex 8 n

/-- Lines of text, each with `pad` before it; `fresh` tells that a line starts here. -/
def padLines (pad : List Char) (fresh : Bool) (write : Char → List Char) : List Char → List Char
  | []      => []
  | c :: cs =>
    if breaksLine c then c :: padLines pad true write cs
    else (if fresh then pad else []) ++ write c ++ padLines pad false write cs

/-- A text between single quotes. -/
def writeSingleQuoted (pad cs : List Char) : List Char :=
  let write (c : Char) := if c = '\'' then ['\'', '\''] else [c]
  let ending := if cs.getLast?.any breaksLine then pad else []
  '\'' :: padLines pad false write cs ++ ending ++ ['\'']

/-- The marks of a block: the indentation if the text starts with a blank, and a sign unless the
text ends in exactly one line break. -/
def blockHeader (cs : List Char) : List Char :=
  let indentation := if (cs.head?.any fun c => isSpaceChar c || breaksLine c) then ['2'] else []
  let sign :=
    match cs.reverse with
    | []       => ['-']
    | [c]      => if breaksLine c then ['+'] else ['-']
    | c :: d :: _ =>
      if ¬ breaksLine c then ['-'] else if breaksLine d then ['+'] else []
  '|' :: indentation ++ sign

/-- A block, without the line break that ends its last line. -/
def writeBlock (pad cs : List Char) : List Char :=
  blockHeader cs ++ '\n' :: padLines pad true (fun c => [c]) cs

/-- The text as it stands after a key or a hyphen, in a block with lines that start with `pad`;
a line break comes after it. -/
def writeText (pad : List Char) (s : String) : List Char :=
  let cs := s.toList
  match styleOf s with
  | .plain        => cs ++ ['\n']
  | .singleQuoted => writeSingleQuoted pad cs ++ ['\n']
  | .doubleQuoted => '\x22' :: cs.flatMap writeEscaped ++ ['\x22', '\n']
  | .block        =>
    let written := writeBlock pad cs
    if cs.getLast?.any breaksLine then written else written ++ ['\n']

end Courier.Yaml
