import Courier.Yaml.Node
import Courier.Yaml.Style

/-!
# Courier — Writing YAML

A YAML value as text.  Mappings and sequences are blocks, indented by two columns inside a
mapping or a sequence; a sequence that is the value of a key stands in the column of the key.
Empty ones are written with brackets or braces.
-/

namespace Courier.Yaml

namespace Node

def padding (column : Nat) : List Char := List.replicate column ' '

/-- A key, quoted if it has to be. -/
def writeKey (k : Key) : List Char :=
  match k with
  | .text s => (writeText (padding 2) s).dropLast
  | k       => k.name.toList

mutual

/-- The value of a key in `column`, from the character after the colon on. -/
def afterKey (column : Nat) : Node → List Char
  | null             => " null\n".toList
  | unfit            => " null\n".toList
  | flag b           => if b then " true\n".toList else " false\n".toList
  | int n            => ' ' :: (toString n).toList ++ ['\n']
  | real s           => ' ' :: s.toList ++ ['\n']
  | text s           => ' ' :: writeText (padding (column + 2)) s
  | sequence []      => " []\n".toList
  | sequence (v :: vs) => '\n' :: padding column ++ writeItems column (v :: vs)
  | mapping []       => " \x7b\x7d\n".toList
  | mapping (e :: es)  => '\n' :: padding (column + 2) ++ writeEntries (column + 2) (e :: es)

/-- The item after a hyphen in `column`. -/
def afterHyphen (column : Nat) : Node → List Char
  | sequence (v :: vs) => ' ' :: writeItems (column + 2) (v :: vs)
  | mapping (e :: es)  => ' ' :: writeEntries (column + 2) (e :: es)
  | v                  => afterKey column v

/-- Items of a sequence in `column`, the first without its indentation. -/
def writeItems (column : Nat) : List Node → List Char
  | []           => []
  | [v]          => '-' :: afterHyphen column v
  | v :: w :: vs => '-' :: afterHyphen column v ++ padding column ++ writeItems column (w :: vs)

/-- Entries of a mapping in `column`, the first without its indentation. -/
def writeEntries (column : Nat) : List (Key × Node) → List Char
  | []               => []
  | [(k, v)]         => writeKey k ++ ':' :: afterKey column v
  | (k, v) :: e :: es =>
    writeKey k ++ ':' :: afterKey column v ++ padding column ++ writeEntries column (e :: es)

end

/-- A mapping as the text of a document. -/
def writeDocument (entries : List (Key × Node)) : String := String.ofList (writeEntries 0 entries)

end Node

end Courier.Yaml
