import Courier.Text.Numeral
import Courier.Text.Quoted

/-!
# Courier — Hexadecimal text

Bytes as pairs of hexadecimal digits.  Writing uses small letters; reading takes both cases.  A
text is read as its bytes: an odd number of bytes is refused before any digit is looked at, and
otherwise the first byte that is no digit is named with its position.
-/

namespace Courier.Text

def hexDigit (n : Nat) : Char := Nat.digitChar n

def hexOfByte (b : UInt8) : List Char := [hexDigit (b.toNat / 16), hexDigit (b.toNat % 16)]

def hexChars (bs : List UInt8) : List Char := bs.flatMap hexOfByte

/-- The bytes as lower case hexadecimal text. -/
def hexOfBytes (bs : List UInt8) : String := String.ofList (hexChars bs)

inductive HexError where
  | oddLength
  | invalidByte (byte : UInt8) (position : Nat)
  deriving DecidableEq

def HexError.message : HexError → String
  | .oddLength          => "Odd number of digits"
  | .invalidByte b position =>
    "Invalid character " ++ quotedChar (Char.ofNat b.toNat) ++ " at position " ++ toString position

def nibble? (b : UInt8) : Option Nat := digitValue? 16 (Char.ofNat b.toNat)

/-- Reads pairs of digits from `position` on; `acc` holds the bytes read so far, last first. -/
def pairsFrom (acc : List UInt8) (position : Nat) : List UInt8 → Except HexError (List UInt8)
  | hi :: lo :: rest =>
    match nibble? hi, nibble? lo with
    | some h, some l => pairsFrom (UInt8.ofNat (16 * h + l) :: acc) (position + 2) rest
    | none, _        => .error (.invalidByte hi position)
    | some _, none   => .error (.invalidByte lo (position + 1))
  | _ => .ok acc.reverse

/-- Reads hexadecimal text. -/
def bytesOfHex (s : String) : Except HexError (List UInt8) :=
  let bs := s.toUTF8.toList
  if bs.length % 2 = 1 then .error .oddLength else pairsFrom [] 0 bs

end Courier.Text
