/-!
# Courier — Parts of a text by bytes

Places in a text counted in the bytes of its UTF-8 form.  A place inside a character is none.
-/

namespace Courier.Text

/-- The bytes that a text takes. -/
def byteLength : List Char → Nat
  | []      => 0
  | c :: cs => c.utf8Size + byteLength cs

/-- What follows the first `n` bytes. -/
def dropBytes? (n : Nat) : List Char → Option (List Char)
  | []      => if n = 0 then some [] else none
  | c :: cs =>
    if n = 0 then some (c :: cs)
    else if c.utf8Size ≤ n then dropBytes? (n - c.utf8Size) cs
    else none

/-- The first `n` bytes. -/
def takeBytes? (n : Nat) : List Char → Option (List Char)
  | []      => if n = 0 then some [] else none
  | c :: cs =>
    if n = 0 then some []
    else if c.utf8Size ≤ n then (takeBytes? (n - c.utf8Size) cs).map (c :: ·)
    else none

/-- What stands from byte `start` up to byte `stop`. -/
def cut? (start stop : Nat) (cs : List Char) : Option (List Char) :=
  (dropBytes? start cs).bind (takeBytes? (stop - start))

/-! ### Small laws -/

theorem dropBytes?_byteLength_append (cs ds : List Char) :
    dropBytes? (byteLength cs) (cs ++ ds) = some ds := by
  induction cs with
  | nil => cases ds <;> simp [byteLength, dropBytes?]
  | cons c cs ih =>
    have pos : c.utf8Size ≠ 0 := by have := c.utf8Size_pos; omega
    simp [byteLength, dropBytes?, pos, ih]

theorem takeBytes?_byteLength_append (cs ds : List Char) :
    takeBytes? (byteLength cs) (cs ++ ds) = some cs := by
  induction cs with
  | nil => cases ds <;> simp [byteLength, takeBytes?]
  | cons c cs ih =>
    have pos : c.utf8Size ≠ 0 := by have := c.utf8Size_pos; omega
    simp [byteLength, takeBytes?, pos, ih]

end Courier.Text
