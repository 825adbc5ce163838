import Courier.CommandError
import Courier.Message
import Courier.Text.Hex

/-!
# Courier — Where a body comes from

The body of a message can be given as a text, as bytes in hexadecimal digits, or as a file.  Of
several sources the text comes first and the file last.
-/

namespace Courier

structure BodySources where
  text : Option String := none
  hex  : Option String := none
  file : Option String := none
  deriving DecidableEq

namespace BodySources

/-- The body from the first source that is given. -/
def resolve (files : Files) (s : BodySources) : Except CommandError Body :=
  match s.text, s.hex, s.file with
  | some content, _, _       => .ok (.text (some content))
  | none, some digits, _     =>
    match Text.bytesOfHex digits with
    | .ok bytes => .ok (.bytes ⟨bytes.toArray⟩)
    | .error e  => .error (.invalidArgument "hex" e.message)
  | none, none, some path    =>
    match files path with
    | .ok bytes => .ok (.bytes bytes)
    | .error e  => .error (.io e)
  | none, none, none         =>
    .error (.invalidArgument "body" "one of --text, --hex or --file is required")

end BodySources

end Courier
