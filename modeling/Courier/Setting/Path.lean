import Courier.Setting

/-!
# Courier — Paths to settings

A path names a place inside tables and lists: a name, and further names after dots and positions
in brackets.  Putting a value at a path makes the tables and lists on the way, in place of
whatever else is there.
-/

namespace Courier.Setting

/-- One step down. -/
inductive Step where
  | entry (name : String)
  | position (i : Int)
  deriving DecidableEq

abbrev Path := List Step

/-! ### Reading -/

def isNameChar (c : Char) : Bool := c.isAlphanum || c == '_' || c == '-'

/-- A position: an integer without a plus sign, with spaces and tabs around it. -/
def position? (cs : List Char) : Option Int :=
  let isBlank (c : Char) : Bool := c == ' ' || c == '\t'
  match ((cs.dropWhile isBlank).reverse.dropWhile isBlank).reverse with
  | '+' :: _ => none
  | digits   => Text.signed? 64 10 digits

/-- Some steps after the first. -/
def stepsFrom? : Nat → List Char → Option Path
  | _, []                 => some []
  | 0, _                  => none
  | fuel + 1, '.' :: rest =>
    let name := rest.takeWhile isNameChar
    if name.isEmpty then none
    else (stepsFrom? fuel (rest.drop name.length)).map (.entry (String.ofList name) :: ·)
  | fuel + 1, '[' :: rest =>
    let inside := rest.takeWhile (· ≠ ']')
    match rest.drop inside.length with
    | ']' :: rest => do
      let i ← position? inside
      return .position i :: (← stepsFrom? fuel rest)
    | _ => none
  | _, _ => none

/-- The path that a text is. -/
def path? (cs : List Char) : Option Path :=
  let name := cs.takeWhile isNameChar
  if name.isEmpty then none
  else (stepsFrom? cs.length (cs.drop name.length)).map (.entry (String.ofList name) :: ·)

/-- The path that a text is; a text that is none names one entry. -/
def pathOf (name : String) : Path := (path? name.toList).getD [.entry name]

/-! ### Putting -/

/-- Changes the item at a position.  Negative positions count from the end; nulls fill the list
up to a position outside of it. -/
def updateItem (i : Int) (f : Setting → Setting) (vs : List Setting) : List Setting :=
  let (vs, n) : List Setting × Nat :=
    if 0 ≤ i then (vs ++ List.replicate (i.toNat + 1 - vs.length) null, i.toNat)
    else
      let back := (-i).toNat
      (List.replicate (back - vs.length) null ++ vs, vs.length - back)
  vs.modify n f

/-- `value` laid over what is at the path. -/
def put (value : Setting) : Path → Setting → Setting
  | [], v                  => merge value v
  | .entry name :: path, v => table (updateEntry name (put value path) v.entries)
  | .position i :: path, v => list (updateItem i (put value path) v.items)

/-- Lays named values over a setting, each at the path that its name is. -/
def overlay (source : List (String × Setting)) (v : Setting) : Setting :=
  source.foldl (fun v (name, value) => put value (pathOf name) v) v

end Courier.Setting
