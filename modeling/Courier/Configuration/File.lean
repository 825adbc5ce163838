import Courier.Failure
import Courier.Files
import Courier.Setting
import Courier.Text.Utf8
import Courier.Yaml.Node.Reader

/-!
# Courier — Configuration files

A configuration file holds one YAML mapping, or no document at all.  It is the file at the path
itself or else, with an ending added, the first that is there (`Configuration.filePaths`).
-/

namespace Courier.Configuration

/-! ### Finding the file -/

/-- The path without slashes and dots at its end that name the same file. -/
def trimPath : Nat → List Char → List Char
  | 0, cs        => cs
  | fuel + 1, cs =>
    match cs.reverse with
    | '/' :: rest        => trimPath fuel rest.reverse
    | '.' :: '/' :: rest => trimPath fuel rest.reverse
    | _                  => cs

/-- The name has an ending of its own: a dot, not as its first character. -/
def hasEnding (name : List Char) : Bool := (name.drop 1).contains '.'

/-- The path that endings are added to; a path that ends in no name has none.  Where the name has
an ending of its own the path is taken as it stands, so that a slash after the name leaves no file
to be named. -/
def endingBase? (path : String) : Option String :=
  let cs := trimPath path.length path.toList
  let name := (cs.reverse.takeWhile (· ≠ '/')).reverse
  if name = [] ∨ name = ['.'] ∨ name = ['.', '.'] then none
  else if ¬ hasEnding name then some (String.ofList cs)
  else if path.toList.getLast? = some '/' then none
  else some path

def endings : List String := [".yaml", ".yml"]

/-- Where the file of a path may be, first choice first. -/
def filePaths (path : String) : List String :=
  path ::
    match endingBase? path with
    | some base => endings.map (base ++ ·)
    | none      => []

/-- The bytes of the first file that is there. -/
def firstFile? (files : Files) : List String → Option ByteArray
  | []            => none
  | path :: paths =>
    match files path with
    | .ok bytes => some bytes
    | .error _  => firstFile? files paths

/-! ### Reading it -/

/-- The settings of a text: those of its one document, or none. -/
def settingsOfText? (text : List Char) : Option (List (String × Setting)) := do
  match ← Yaml.Node.documents? text with
  | []  => return []
  | [v] =>
    match ← Setting.ofYaml? v with
    | .table entries => return entries
    | _              => none
  | _ => none

/-- The settings of the file at a path. -/
def fileSettings (files : Files) (path : String) :
    Except ConfigurationError (List (String × Setting)) :=
  match firstFile? files (filePaths path) with
  | none => .error (.parsing (s!"configuration file {path} not found"))
  | some bytes =>
    match settingsOfText? (Text.decodeFile bytes) with
    | none          => .error (.parsing (s!"configuration file {path} is not valid"))
    | some settings => .ok settings

end Courier.Configuration
