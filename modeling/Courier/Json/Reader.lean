import Courier.Json

/-!
# Courier — Reading JSON

JSON text as a value.  The whole text has to be one value with white space around it.  A string
may hold every character but quotes, backslashes and control characters; two escapes that name
the halves of a surrogate pair give one character, and a half alone is refused.  A number that
starts with a needless zero is refused, and `-0` is no integer.
-/

namespace Courier.Json

def isSpace (c : Char) : Bool := c == ' ' || c == '\n' || c == '\r' || c == '\t'

/-- `cs` after its leading white space. -/
def skipSpace (cs : List Char) : List Char := cs.dropWhile isSpace

/-! ### Strings -/

/-- Four hexadecimal digits. -/
def hexFour? : List Char → Option (Nat × List Char)
  | a :: b :: c :: d :: rest => (Text.natural? 16 [a, b, c, d]).map fun n => (n, rest)
  | _ => none

/-- The character of an escape, from the character after the backslash on. -/
def escaped? : List Char → Option (Char × List Char)
  | '\x22' :: rest => some ('\x22', rest)
  | '\\' :: rest => some ('\\', rest)
  | '/' :: rest => some ('/', rest)
  | 'b' :: rest => some (Char.ofNat 8, rest)
  | 'f' :: rest => some (Char.ofNat 12, rest)
  | 'n' :: rest => some ('\n', rest)
  | 'r' :: rest => some ('\r', rest)
  | 't' :: rest => some ('\t', rest)
  | 'u' :: rest =>
    match hexFour? rest with
    | none => none
    | some (n, rest) =>
      if 0xD800 ≤ n ∧ n < 0xDC00 then
        match rest with
        | '\\' :: 'u' :: rest =>
          match hexFour? rest with
          | some (m, rest) =>
            if 0xDC00 ≤ m ∧ m < 0xE000 then
              some (Char.ofNat (0x10000 + (n - 0xD800) * 1024 + (m - 0xDC00)), rest)
            else none
          | none => none
        | _ => none
      else if 0xDC00 ≤ n ∧ n < 0xE000 then none
      else some (Char.ofNat n, rest)
  | _ => none

/-- The rest of a string after its opening quote; `acc` holds what was read, last first. -/
def stringFrom (acc : List Char) : Nat → List Char → Option (String × List Char)
  | 0, _ => none
  | fuel + 1, cs =>
    match cs with
    | [] => none
    | '\x22' :: rest => some (String.ofList acc.reverse, rest)
    | '\\' :: rest =>
      match escaped? rest with
      | some (c, rest) => stringFrom (c :: acc) fuel rest
      | none           => none
    | c :: rest => if c.toNat < 32 then none else stringFrom (c :: acc) fuel rest

/-! ### Numbers -/

/-- The digits after the point: how many, and all digits together as one number. -/
def fraction? (whole : Nat) : List Char → Option (Nat × Nat × List Char)
  | '.' :: rest =>
    let digits := rest.takeWhile Char.isDigit
    (Text.digitsFrom 10 whole digits).bind fun n =>
      if digits.isEmpty then none else some (digits.length, n, rest.drop digits.length)
  | rest => some (0, whole, rest)

/-- The power of ten, if one is written. -/
def exponent? (cs : List Char) : Option (Option Int × List Char) :=
  let signed (rest : List Char) : Option (Option Int × List Char) :=
    let (minus, rest) := match rest with
      | '-' :: rest => (true, rest)
      | '+' :: rest => (false, rest)
      | rest => (false, rest)
    let digits := rest.takeWhile Char.isDigit
    (Text.natural? 10 digits).map fun n =>
      (some (if minus then -(n : Int) else n), rest.drop digits.length)
  match cs with
  | 'e' :: rest => signed rest
  | 'E' :: rest => signed rest
  | rest        => some (none, rest)

/-- A number after its sign. -/
def number? (minus : Bool) (cs : List Char) : Option (Json × List Char) := do
  let digits := cs.takeWhile Char.isDigit
  let whole ← Text.natural? 10 digits
  let rest := cs.drop digits.length
  if digits.head? = some '0' ∧ 1 < digits.length then none
  else
    let (places, all, rest) ← fraction? whole rest
    let (power, rest) ← exponent? rest
    let value : Int := if minus then -(all : Int) else all
    if places = 0 ∧ power = none ∧ ¬ (minus ∧ all = 0) then some (int value, rest)
    else some (decimal value (power.getD 0 - places), rest)

/-! ### Values -/

/-- The rest of `cs` after `word`. -/
def word? (word : String) (cs : List Char) : Option (List Char) :=
  if word.toList.isPrefixOf cs then some (cs.drop word.length) else none

mutual

/-- One value, with white space before it. -/
def valueFrom : Nat → List Char → Option (Json × List Char)
  | 0, _ => none
  | fuel + 1, cs =>
    match skipSpace cs with
    | '\x22' :: rest => (stringFrom [] (rest.length + 1) rest).map fun (s, rest) => (str s, rest)
    | '[' :: rest =>
      match skipSpace rest with
      | ']' :: rest => some (arr [], rest)
      | _           => itemsFrom [] fuel rest
    | '\x7b' :: rest =>
      match skipSpace rest with
      | '\x7d' :: rest => some (obj [], rest)
      | _              => membersFrom [] fuel rest
    | 'n' :: rest => (word? "ull" rest).map fun rest => (null, rest)
    | 't' :: rest => (word? "rue" rest).map fun rest => (bool true, rest)
    | 'f' :: rest => (word? "alse" rest).map fun rest => (bool false, rest)
    | '-' :: rest => number? true rest
    | rest        => number? false rest

/-- The rest of an array, after its bracket or a comma. -/
def itemsFrom (acc : List Json) : Nat → List Char → Option (Json × List Char)
  | 0, _ => none
  | fuel + 1, cs =>
    match valueFrom fuel cs with
    | none => none
    | some (v, rest) =>
      match skipSpace rest with
      | ',' :: rest => itemsFrom (v :: acc) fuel rest
      | ']' :: rest => some (arr (v :: acc).reverse, rest)
      | _           => none

/-- The rest of an object, after its brace or a comma. -/
def membersFrom (acc : List (String × Json)) : Nat → List Char → Option (Json × List Char)
  | 0, _ => none
  | fuel + 1, cs =>
    match skipSpace cs with
    | '\x22' :: rest =>
      match stringFrom [] (rest.length + 1) rest with
      | none => none
      | some (name, rest) =>
        match skipSpace rest with
        | ':' :: rest =>
          match valueFrom fuel rest with
          | none => none
          | some (v, rest) =>
            let acc := setMember name v acc
            match skipSpace rest with
            | ',' :: rest    => membersFrom acc fuel rest
            | '\x7d' :: rest => some (obj acc, rest)
            | _              => none
        | _ => none
    | _ => none

end

/-- The value that a text is. -/
def parse? (s : String) : Option Json :=
  let cs := s.toList
  match valueFrom (2 * cs.length + 2) cs with
  | some (v, rest) => if (skipSpace rest).isEmpty then some v else none
  | none           => none

end Courier.Json
