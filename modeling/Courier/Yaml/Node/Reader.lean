import Courier.Yaml.Node
import Courier.Yaml.Token.Lexer

/-!
# Courier — YAML values from tokens

Tokens as values, and a text as the values of its documents (`Node.documents?`).  A name is known
from its anchor on, and its value from the end of the value on; tags matter for texts without
quotes only.
-/

namespace Courier.Yaml

/-! ### State -/

/-- The tokens to come and the names known so far. -/
structure Reading where
  tokens  : List Token
  /-- Names and the numbers of their anchors, last first. -/
  anchors : List (String × Nat) := []
  /-- The values of the anchors by number. -/
  values  : List (Nat × Node) := []
  /-- What the handles of tags stand for. -/
  handles : List (String × String) := []

/-- The anchor of a value, and the type that a tag marks it with: a type of YAML's own, or one
that is not known here. -/
structure Properties where
  anchor : Option Nat := none
  tag    : Option (Option String) := none

namespace Reading

def goTo (tokens : List Token) (r : Reading) : Reading := { r with tokens }

/-- Passes one token. -/
def pass (r : Reading) : Reading := { r with tokens := r.tokens.drop 1 }

/-- The next token is one of those. -/
def atAny (ts : List Token) (r : Reading) : Bool :=
  match r.tokens with
  | t :: _ => ts.contains t
  | []     => false

def anchor (name : String) (r : Reading) : Nat × Reading :=
  let n := r.anchors.length + 1
  (n, { r with anchors := (name, n) :: r.anchors })

def coreTypes : String := "tag:yaml.org,2002:"

/-- What a handle stands for; one with a name has to be declared. -/
def expand? (r : Reading) (handle : String) : Option String :=
  match r.handles.lookup handle with
  | some expansion => some expansion
  | none =>
    if handle = "!!" then some coreTypes
    else if handle = "" ∨ handle = "!" then some handle
    else none

def typeOf? (r : Reading) (handle suffix : String) : Option (Option String) :=
  (r.expand? handle).map fun expansion => if expansion = coreTypes then some suffix else none

/-- An anchor and a tag, in either order. -/
def properties? (r : Reading) : Option (Properties × Reading) :=
  match r.tokens with
  | .anchor name :: .tag handle suffix :: rest => do
    let (n, r) := r.anchor name
    return (⟨some n, some (← r.typeOf? handle suffix)⟩, r.goTo rest)
  | .tag handle suffix :: .anchor name :: rest => do
    let type ← r.typeOf? handle suffix
    let (n, r) := r.anchor name
    return (⟨some n, some type⟩, r.goTo rest)
  | .anchor name :: rest =>
    let (n, r) := r.anchor name
    some (⟨some n, none⟩, r.goTo rest)
  | .tag handle suffix :: rest => do
    return (⟨none, some (← r.typeOf? handle suffix)⟩, r.goTo rest)
  | _ => some ({}, r)

/-- Takes note of the value of an anchor. -/
def finish (p : Properties) (v : Node) (r : Reading) : Node × Reading :=
  match p.anchor with
  | some n => (v, { r with values := (n, v) :: r.values })
  | none   => (v, r)

/-- The value of a text. -/
def scalar (p : Properties) (plain : Bool) (content : String) : Node :=
  if ¬ plain then .text content
  else
    match p.tag with
    | none             => .ofPlain content
    | some (some type) => .ofTagged type content
    | some none        => .text content

/-! ### Values -/

mutual

/-- A value.  `block` allows block collections, and `indentless` a sequence whose entries stand
in the column of the key before it. -/
def node? (block indentless : Bool) : Nat → Reading → Option (Node × Reading)
  | 0, _        => none
  | fuel + 1, r =>
    match r.tokens with
    | .alias name :: rest => do
      let n ← r.anchors.lookup name
      return ((r.values.lookup n).getD .unfit, r.goTo rest)
    | _ => do
      let (p, r) ← r.properties?
      match r.tokens with
      | .scalar plain content :: rest => return (r.goTo rest).finish p (scalar p plain content)
      | .flowSequence :: rest =>
        let (items, r) ← flowItems? true fuel (r.goTo rest)
        return r.finish p (.sequence items)
      | .flowMapping :: rest =>
        let (entries, r) ← flowEntries? true fuel (r.goTo rest)
        return r.finish p (.mapping (← Node.entries? entries))
      | .blockSequence :: rest =>
        if block then
          let (items, r) ← blockItems? fuel (r.goTo rest)
          return r.finish p (.sequence items)
        else absent p r
      | .blockMapping :: rest =>
        if block then
          let (entries, r) ← blockEntries? fuel (r.goTo rest)
          return r.finish p (.mapping (← Node.entries? entries))
        else absent p r
      | .blockEntry :: _ =>
        if indentless then
          let (items, r) ← indentlessItems? fuel r
          return r.finish p (.sequence items)
        else absent p r
      | _ => absent p r

/-- A value that is only an anchor or a tag. -/
def absent (p : Properties) (r : Reading) : Option (Node × Reading) :=
  if p.anchor.isSome ∨ p.tag.isSome then some (r.finish p (scalar p true "")) else none

/-- A value, or null before one of the tokens `ends`. -/
def valueBefore? (ends : List Token) (block indentless : Bool) :
    Nat → Reading → Option (Node × Reading)
  | 0, _        => none
  | fuel + 1, r => if r.atAny ends then some (.null, r) else node? block indentless fuel r

/-- The entries of a block sequence. -/
def blockItems? : Nat → Reading → Option (List Node × Reading)
  | 0, _        => none
  | fuel + 1, r =>
    match r.tokens with
    | .blockEnd :: rest   => some ([], r.goTo rest)
    | .blockEntry :: rest => do
      let (v, r) ← valueBefore? [.blockEntry, .blockEnd] true false fuel (r.goTo rest)
      let (vs, r) ← blockItems? fuel r
      return (v :: vs, r)
    | _ => none

/-- The entries of a sequence in the column of its key. -/
def indentlessItems? : Nat → Reading → Option (List Node × Reading)
  | 0, _        => none
  | fuel + 1, r =>
    match r.tokens with
    | .blockEntry :: rest => do
      let (v, r) ←
        valueBefore? [.blockEntry, .key, .value, .blockEnd] true false fuel (r.goTo rest)
      let (vs, r) ← indentlessItems? fuel r
      return (v :: vs, r)
    | _ => some ([], r)

/-- The value after a key, or null. -/
def valuePart? (ends : List Token) (block : Bool) : Nat → Reading → Option (Node × Reading)
  | 0, _        => none
  | fuel + 1, r =>
    match r.tokens with
    | .value :: rest => valueBefore? ends block block fuel (r.goTo rest)
    | _              => some (.null, r)

/-- The keys and values of a block mapping in turn. -/
def blockEntries? : Nat → Reading → Option (List Node × Reading)
  | 0, _        => none
  | fuel + 1, r =>
    match r.tokens with
    | .blockEnd :: rest => some ([], r.goTo rest)
    | .key :: rest      => do
      let (k, r) ← valueBefore? [.key, .value, .blockEnd] true true fuel (r.goTo rest)
      let (v, r) ← valuePart? [.key, .value, .blockEnd] true fuel r
      let (vs, r) ← blockEntries? fuel r
      return (k :: v :: vs, r)
    | .value :: _ => do
      let (v, r) ← valuePart? [.key, .value, .blockEnd] true fuel r
      let (vs, r) ← blockEntries? fuel r
      return (.null :: v :: vs, r)
    | _ => none

/-- The entries of a flow sequence, after its bracket or an entry. -/
def flowItems? (first : Bool) : Nat → Reading → Option (List Node × Reading)
  | 0, _        => none
  | fuel + 1, r =>
    if r.atAny [.flowSequenceEnd] then some ([], r.pass)
    else if ¬ first ∧ ¬ r.atAny [.flowEntry] then none
    else
      let r := if first then r else r.pass
      match r.tokens with
      | .flowSequenceEnd :: rest => some ([], r.goTo rest)
      | .key :: rest => do
        let (entry, r) ← pair? fuel (r.goTo rest)
        let (vs, r) ← flowItems? false fuel r
        return (.mapping (← Node.entries? entry) :: vs, r)
      | _ => do
        let (v, r) ← node? false false fuel r
        let (vs, r) ← flowItems? false fuel r
        return (v :: vs, r)

/-- A key and a value inside a flow sequence. -/
def pair? : Nat → Reading → Option (List Node × Reading)
  | 0, _        => none
  | fuel + 1, r => do
    let (k, r) ←
      if r.atAny [.value, .flowEntry, .flowSequenceEnd] then some (.null, r.pass)
      else node? false false fuel r
    let (v, r) ← valuePart? [.flowEntry, .flowSequenceEnd] false fuel r
    return ([k, v], r)

/-- The keys and values of a flow mapping in turn, after its brace or an entry. -/
def flowEntries? (first : Bool) : Nat → Reading → Option (List Node × Reading)
  | 0, _        => none
  | fuel + 1, r =>
    if r.atAny [.flowMappingEnd] then some ([], r.pass)
    else if ¬ first ∧ ¬ r.atAny [.flowEntry] then none
    else
      let r := if first then r else r.pass
      match r.tokens with
      | .flowMappingEnd :: rest => some ([], r.goTo rest)
      | .key :: rest => do
        let (k, r) ←
          valueBefore? [.value, .flowEntry, .flowMappingEnd] false false fuel (r.goTo rest)
        let (v, r) ← valuePart? [.flowEntry, .flowMappingEnd] false fuel r
        let (vs, r) ← flowEntries? false fuel r
        return (k :: v :: vs, r)
      | .value :: _ => do
        let (v, r) ← valuePart? [.flowEntry, .flowMappingEnd] false fuel r
        let (vs, r) ← flowEntries? false fuel r
        return (.null :: v :: vs, r)
      | _ => do
        let (k, r) ← node? false false fuel r
        let (vs, r) ← flowEntries? false fuel r
        return (k :: .null :: vs, r)

end

/-! ### Documents -/

/-- The declarations before a document; the last tag directive counts. -/
def directives? (version : Bool) : List Token → Reading → Option Reading
  | .version :: rest, r =>
    if version then none else directives? true rest { r with handles := [] }
  | .tagDirective handle expansion :: rest, r =>
    directives? version rest { r with handles := [(handle, expansion)] }
  | rest, r => some (r.goTo rest)

/-- The value of a document: null for one without content. -/
def document? (fuel : Nat) (r : Reading) : Option (Node × Reading) :=
  let ended := match r.tokens with
    | [] | .version :: _ | .tagDirective _ _ :: _ | .documentStart :: _ | .documentEnd :: _ => true
    | _ => false
  if ended then some (.null, r) else node? true false fuel r

def startsDocument : List Token → Bool
  | .version :: _ | .tagDirective _ _ :: _ | .documentStart :: _ => true
  | _ => false

def startsDirective : List Token → Bool
  | .version :: _ | .tagDirective _ _ :: _ => true
  | _ => false

/-- The documents to come.  The first one, and one after an end marker, needs no start marker;
directives after a document need an end marker before them. -/
def documentsFrom? (valueFuel : Nat) : Nat → Bool → List Token → Option (List Node)
  | 0, _, _ => none
  | fuel + 1, bare, tokens =>
    let tokens := tokens.dropWhile (· = .documentEnd)
    if tokens.isEmpty then some []
    else do
      let (v, r) ←
        if startsDocument tokens then
          match directives? false tokens { tokens } with
          | some r =>
            match r.tokens with
            | .documentStart :: rest => document? valueFuel (r.goTo rest)
            | _                      => none
          | none => none
        else if bare then node? true false valueFuel { tokens }
        else none
      let vs ←
        if r.atAny [.documentEnd] then documentsFrom? valueFuel fuel true (r.tokens.drop 1)
        else if startsDirective r.tokens then none
        else documentsFrom? valueFuel fuel false r.tokens
      return v :: vs

end Reading

/-- The values of the documents of a text. -/
def Node.documents? (text : List Char) : Option (List Node) := do
  let tokens ← Token.ofText? text
  Reading.documentsFrom? (4 * tokens.length + 8) (tokens.length + 1) true tokens

end Courier.Yaml
