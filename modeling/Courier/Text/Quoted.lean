import Courier.Text.Shapeless

/-!
# Courier — Quoted text

A character or a text between quotes, as messages and descriptions show it: the quote and the
backslash have a backslash before them, four control characters have a letter, and characters
without a shape of their own are written as their number.
-/

namespace Courier.Text

/-- The control characters that have a letter. -/
def controlLetters : List (Char × Char) :=
  [(Char.ofNat 0, '0'), ('\t', 't'), ('\n', 'n'), ('\r', 'r')]

/-- A character between two of `quote`. -/
def escapedFor (quote c : Char) : List Char :=
  match controlLetters.lookup c with
  | some letter => ['\\', letter]
  | none =>
    if c = quote ∨ c = '\\' then ['\\', c]
    else if isShapeless c then '\\' :: 'u' :: '\x7b' :: Nat.toDigits 16 c.toNat ++ ['\x7d']
    else [c]

def quotedWith (quote : Char) (cs : List Char) : String :=
  String.ofList (quote :: cs.flatMap (escapedFor quote) ++ [quote])

/-- A character between single quotes. -/
def quotedChar (c : Char) : String := quotedWith '\'' [c]

/-- A text between double quotes. -/
def quoted (s : String) : String := quotedWith '\x22' s.toList

end Courier.Text
