/-!
# Courier — UTF-8 with replacement

Bytes of a file as text.  Every maximal part of a well-formed sequence that is cut short, and
every byte that starts none, becomes one U+FFFD; a byte order mark at the start is dropped.
-/

namespace Courier.Text

def replacement : Char := Char.ofNat 0xFFFD

def isContinuation (b : UInt8) : Bool := 0x80 ≤ b && b ≤ 0xBF

/-- The second bytes allowed after a first byte of a three byte sequence. -/
def secondOfThree (b c : UInt8) : Bool :=
  if b = 0xE0 then 0xA0 ≤ c && c ≤ 0xBF
  else if b = 0xED then 0x80 ≤ c && c ≤ 0x9F
  else isContinuation c

/-- The second bytes allowed after a first byte of a four byte sequence. -/
def secondOfFour (b c : UInt8) : Bool :=
  if b = 0xF0 then 0x90 ≤ c && c ≤ 0xBF
  else if b = 0xF4 then 0x80 ≤ c && c ≤ 0x8F
  else isContinuation c

/-- The character that starts with `b` and how many of the bytes after `b` belong to it. -/
def decodeOne (b : UInt8) (rest : List UInt8) : Char × Nat :=
  let low (c : UInt8) : Nat := c.toNat % 64
  if b < 0x80 then (Char.ofNat b.toNat, 0)
  else if 0xC2 ≤ b ∧ b ≤ 0xDF then
    match rest with
    | c :: _ =>
      if isContinuation c then (Char.ofNat ((b.toNat % 32) * 64 + low c), 1) else (replacement, 0)
    | [] => (replacement, 0)
  else if 0xE0 ≤ b ∧ b ≤ 0xEF then
    match rest with
    | c :: d :: _ =>
      if secondOfThree b c then
        if isContinuation d then
          (Char.ofNat ((b.toNat % 16) * 4096 + low c * 64 + low d), 2)
        else (replacement, 1)
      else (replacement, 0)
    | [c] => (replacement, if secondOfThree b c then 1 else 0)
    | []  => (replacement, 0)
  else if 0xF0 ≤ b ∧ b ≤ 0xF4 then
    match rest with
    | c :: d :: e :: _ =>
      if secondOfFour b c then
        if isContinuation d then
          if isContinuation e then
            (Char.ofNat ((b.toNat % 8) * 262144 + low c * 4096 + low d * 64 + low e), 3)
          else (replacement, 2)
        else (replacement, 1)
      else (replacement, 0)
    | [c, d] =>
      (replacement, if secondOfFour b c then if isContinuation d then 2 else 1 else 0)
    | [c] => (replacement, if secondOfFour b c then 1 else 0)
    | []  => (replacement, 0)
  else (replacement, 0)

/-- Decodes from the first byte that is not among the `skip` leading ones; `acc` holds the
characters read so far, last first. -/
def decodeFrom (acc : List Char) : Nat → List UInt8 → List Char
  | _, []               => acc.reverse
  | skip + 1, _ :: rest => decodeFrom acc skip rest
  | 0, b :: rest        =>
    let (c, skip) := decodeOne b rest
    decodeFrom (c :: acc) skip rest

/-- The text of a file. -/
def decodeFile (bytes : ByteArray) : List Char :=
  match decodeFrom [] 0 bytes.toList with
  | c :: cs => if c.toNat = 0xFEFF then cs else c :: cs
  | []      => []

end Courier.Text
