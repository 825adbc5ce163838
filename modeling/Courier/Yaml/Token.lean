/-!
# Courier — YAML tokens

The parts of a YAML text, with the blocks that indentation makes written out: a block starts with
`blockSequence` or `blockMapping` and ends with `blockEnd`, and every key of a mapping has `key`
before it, also where the text shows it only by the colon that follows.
-/

namespace Courier.Yaml

inductive Token where
  | version
  | tagDirective (handle expansion : String)
  | documentStart
  | documentEnd
  | blockSequence
  | blockMapping
  | blockEnd
  | flowSequence
  | flowSequenceEnd
  | flowMapping
  | flowMappingEnd
  | blockEntry
  | flowEntry
  | key
  | value
  | alias (name : String)
  | anchor (name : String)
  | tag (handle suffix : String)
  /-- A text; `plain` tells that it stands there without quotes and is no block. -/
  | scalar (plain : Bool) (content : String)
  deriving DecidableEq

end Courier.Yaml
