import Courier.Json.Codec
import Courier.Queue

/-!
# Courier — Queues as JSON

A queue stands in JSON as its bare name.  A text that is read is checked like any other name, and
the rule that it breaks is told.
-/

namespace Courier.Queue

def toJson (q : Queue) : Json := .str q.name

/-- The queue of that name, or the first rule that the name breaks, if there is a name. -/
def ofJson? (v : Json) : Option (Except ValidationError Queue) := v.text?.map ofName

end Courier.Queue
