/-!
# Courier — White space

The Unicode characters with the property `White_Space`, and trimming by them.  A name is blank
when it holds nothing else (`isBlankText`), and the end of a fixed-width field is trimmed by
`trimEnd`.
-/

namespace Courier.Text

/-- `c` has the Unicode property `White_Space`. -/
def isBlank (c : Char) : Bool :=
  let n := c.toNat
  (9 ≤ n && n ≤ 13) || n == 0x20 || n == 0x85 || n == 0xA0 || n == 0x1680 ||
    (0x2000 ≤ n && n ≤ 0x200A) || n == 0x2028 || n == 0x2029 || n == 0x202F || n == 0x205F ||
    n == 0x3000

/-- `cs` without its trailing white space. -/
def trimEndChars (cs : List Char) : List Char := (cs.reverse.dropWhile isBlank).reverse

/-- `cs` without its leading white space. -/
def trimStartChars (cs : List Char) : List Char := cs.dropWhile isBlank

def trimEnd (s : String) : String := String.ofList (trimEndChars s.toList)

/-- `s` is empty or all white space. -/
def isBlankText (s : String) : Bool := s.toList.all isBlank

/-! ### Small laws -/

theorem trimEndChars_append_blank {cs ws : List Char} (h : ws.all isBlank) :
    trimEndChars (cs ++ ws) = trimEndChars cs := by
  simp only [trimEndChars, List.reverse_append]
  rw [List.dropWhile_append_of_pos]
  simpa using h

end Courier.Text
