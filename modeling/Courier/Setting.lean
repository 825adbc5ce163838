import Courier.Yaml.Node

/-!
# Courier — Settings

The values that a configuration source gives before they are converted to the types of the
fields.  Sources are laid over one another by `Setting.merge`: tables entry by entry, everything
else as a whole, the later value winning.
-/

namespace Courier

inductive Setting where
  | null
  | flag (b : Bool)
  | int (n : Int)
  | real (x : Binary64)
  | text (s : String)
  | list (items : List Setting)
  | table (entries : List (String × Setting))

namespace Setting

/-- The entries of a table; a value of another kind has none. -/
def entries : Setting → List (String × Setting)
  | table es => es
  | _        => []

/-- The items of a list; a value of another kind has none. -/
def items : Setting → List Setting
  | list vs => vs
  | _       => []

/-- Changes the entry of that name, or adds one made from null. -/
def updateEntry (name : String) (f : Setting → Setting) :
    List (String × Setting) → List (String × Setting)
  | []           => [(name, f null)]
  | (n, v) :: es => if n = name then (n, f v) :: es else (n, v) :: updateEntry name f es

/-! ### Laying over -/

mutual

/-- `incoming` laid over `v`. -/
def merge (incoming v : Setting) : Setting :=
  match incoming with
  | table es => table (mergeEntries es v.entries)
  | other    => other

def mergeEntries (incoming entries : List (String × Setting)) : List (String × Setting) :=
  match incoming with
  | []           => entries
  | (n, v) :: es => mergeEntries es (updateEntry n (merge v) entries)

end

/-! ### From YAML -/

mutual

/-- The setting of a YAML value; a number that no text of a number stands for is refused. -/
def ofYaml? : Yaml.Node → Option Setting
  | .null             => some null
  | .unfit            => some null
  | .flag b           => some (flag b)
  | .int n            => some (int n)
  | .text s           => some (text s)
  | .real s           => (Binary64.ofText? s.toList).map real
  | .sequence items   => (ofYamlItems? items).map list
  | .mapping entries  => (ofYamlEntries? [] entries).map table

def ofYamlItems? : List Yaml.Node → Option (List Setting)
  | []      => some []
  | v :: vs => do return (← ofYaml? v) :: (← ofYamlItems? vs)

/-- The entries by the names of the keys; of two keys with one name the later counts. -/
def ofYamlEntries? (done : List (String × Setting)) :
    List (Yaml.Key × Yaml.Node) → Option (List (String × Setting))
  | []           => some done
  | (k, v) :: es => do
    let v ← ofYaml? v
    ofYamlEntries? (updateEntry k.name (fun _ => v) done) es

end

end Setting

end Courier
