import Courier.Program
import Courier.Proofs.CommandLine.Reading

/-!
# Courier — Proofs — The source of a body on the command line

The body of a message can be given in three ways, and where more than one of them is given there is
an order of priority (`BodySources.resolve_eq_resolveIn`).  A command line never gives more than one
and never none: its arguments spell options, each of them once, and of the three options for a body
exactly one is among them (`CommandLine.parseSend_eq_ok_iff`,
`CommandLine.exists_source_of_sendOptions`).  Which options they are is all that matters, not their
order and not how they are spelled.

**The source of a body** (`sole_source_of_send`): a command line that asks for a send gives one
source, with a value that may be empty.  So the body is what that source gives, whatever the order
of priority is, and it is never missing.
-/

namespace Courier

/-! ### Sources of a body -/

/-- The ways to give a body. -/
inductive BodySource where
  | text
  | hex
  | file
  deriving DecidableEq

namespace BodySource

/-- The order of priority. -/
def all : List BodySource := [text, hex, file]

/-- The option that gives it. -/
def name : BodySource → String
  | text => "text"
  | hex  => "hex"
  | file => "file"

/-- The body that the value of a source stands for. -/
def read (files : Files) (value : String) : BodySource → Except CommandError Body
  | text => .ok (.text (some value))
  | hex  =>
    match Text.bytesOfHex value with
    | .ok bytes => .ok (.bytes ⟨bytes.toArray⟩)
    | .error e  => .error (.invalidArgument "hex" e.message)
  | file =>
    match files value with
    | .ok bytes => .ok (.bytes bytes)
    | .error e  => .error (.io e)

/-- This source and no other. -/
def only (value : String) : BodySource → BodySources
  | text => { text := some value }
  | hex  => { hex := some value }
  | file => { file := some value }

/-- A source can fail in its own ways only: nothing is said about a body that is not given. -/
theorem read_ne_missing (source : BodySource) (files : Files) (value message : String) :
    source.read files value ≠ .error (.invalidArgument "body" message) := by
  cases source with
  | text => exact nofun
  | hex =>
      simp only [read]
      split <;> simp
  | file =>
      simp only [read]
      split <;> simp

theorem mem_all (source : BodySource) : source ∈ all := by
  cases source <;> decide

end BodySource

namespace BodySources

def value? (s : BodySources) : BodySource → Option String
  | .text => s.text
  | .hex  => s.hex
  | .file => s.file

/-- The body from the first source of `order` that is given. -/
def resolveIn (order : List BodySource) (files : Files) (s : BodySources) :
    Except CommandError Body :=
  match order.findSome? fun source => (s.value? source).map (source.read files) with
  | some body => body
  | none      => .error (.invalidArgument "body" "one of --text, --hex or --file is required")

theorem resolve_eq_resolveIn (s : BodySources) (files : Files) :
    s.resolve files = s.resolveIn BodySource.all files := by
  obtain ⟨text, hex, file⟩ := s
  cases text with
  | some content => rfl
  | none =>
      cases hex with
      | some digits => rfl
      | none => cases file <;> rfl

theorem value?_only (source source' : BodySource) (value : String) :
    (source.only value).value? source' = if source' = source then some value else none := by
  cases source <;> cases source' <;> rfl

/-- Of one source the order does not matter. -/
theorem resolveIn_only {order : List BodySource} {source : BodySource} (h : source ∈ order)
    (files : Files) (value : String) :
    (source.only value).resolveIn order files = source.read files value := by
  have first : (order.findSome? fun source' =>
      ((source.only value).value? source').map (source'.read files)) =
        some (source.read files value) := by
    simp only [value?_only]
    induction order with
    | nil => cases h
    | cons source' order ih =>
        rw [List.findSome?_cons]
        by_cases same : source' = source
        · subst same
          simp
        · rw [if_neg same, Option.map_none]
          exact ih ((List.mem_cons.mp h).resolve_left (Ne.symm same))
  rw [resolveIn, first]

/-- Of three values exactly one is given. -/
theorem exists_only {text hex file : Option String}
    (one : [text.isSome, hex.isSome, file.isSome].count true = 1) :
    ∃ (source : BodySource) (value : String),
      (⟨text, hex, file⟩ : BodySources) = source.only value := by
  match text, hex, file with
  | some content, none, none => exact ⟨.text, content, rfl⟩
  | none, some digits, none => exact ⟨.hex, digits, rfl⟩
  | none, none, some path => exact ⟨.file, path, rfl⟩
  | none, none, none | some _, some _, none | some _, none, some _ | none, some _, some _
  | some _, some _, some _ => cases one

theorem resolve_only (source : BodySource) (files : Files) (value : String) :
    (source.only value).resolve files = source.read files value := by
  rw [resolve_eq_resolveIn, resolveIn_only source.mem_all]

end BodySources

/-! ### The options of a send -/

namespace CommandLine

variable {args : List String} {found found' : List (String × String)} {o : SendOptions}

/-- **Sends.**  The arguments of a send are accepted exactly if they spell options that fit, all
different, and the options of a send can be made of these. -/
theorem parseSend_eq_ok_iff :
    parseSend args = .ok o ↔
      ∃ gs, Spells sendSpecs none args gs ∧ (∀ g ∈ gs, g.Fits) ∧
        ((gs.map Given.entry).map (·.1)).Nodup ∧
        sendOptions ⟨gs.map Given.entry, none⟩ = .ok o := by
  have names (gs : List Given) : (gs.map Given.entry).map (·.1) = gs.map (·.spec.name) := by
    rw [List.map_map]; rfl
  have taken (gs : List Given) (s : Scan) : ({} : Scan).takeAll gs = .ok s ↔
      (∀ g ∈ gs, g.Fits) ∧ ((gs.map Given.entry).map (·.1)).Nodup ∧
        s = ⟨gs.map Given.entry, none⟩ := by
    rw [Scan.takeAll_eq_ok_iff, names]
    simp [Scan.has]
  have parts : parseSend args = .ok o ↔
      ∃ stop, scan sendSpecs [] args {} = .ok stop ∧ sendOptions stop.scan = .ok o :=
    bind_eq_ok_iff
  simp only [parts, scan_eq_ok_iff, taken]
  constructor
  · rintro ⟨stop, ⟨-, gs, spells, fits, once, scanned⟩, ok⟩
    exact ⟨gs, spells, fits, once, scanned ▸ ok⟩
  · rintro ⟨gs, spells, fits, once, ok⟩
    exact ⟨⟨_, none⟩, ⟨rfl, gs, spells, fits, once, rfl⟩, ok⟩

/-- The options of a send depend on the values of options alone, not on the order of reading. -/
theorem sendOptions_perm (once : (found.map (·.1)).Nodup) (h : found.Perm found') :
    sendOptions ⟨found, none⟩ = sendOptions ⟨found', none⟩ := by
  have same (name : String) :
      Scan.value? name ⟨found, none⟩ = Scan.value? name ⟨found', none⟩ := lookup_perm once h name
  have given (name : String) : Scan.has name ⟨found, none⟩ = Scan.has name ⟨found', none⟩ :=
    congrArg Option.isSome (same name)
  simp only [sendOptions, bodyCount, number?, same, given]
  rfl

/-- The options that give a body, among those that were read. -/
def bodyEntries (found : List (String × String)) : List (String × String) :=
  found.filter fun e => e.1 ∈ BodySource.all.map BodySource.name

/-- One source alone has a value, so it is the only option that gives a body. -/
theorem bodyEntries_eq (once : (found.map (·.1)).Nodup) {source : BodySource} {value : String}
    (given : ∀ source' : BodySource,
      found.lookup source'.name = (source.only value).value? source') :
    bodyEntries found = [(source.name, value)] := by
  refine List.perm_singleton.mp ((List.perm_ext_iff_of_nodup ?_ (List.nodup_singleton _)).mpr ?_)
  · exact once.of_map.filter _
  · rintro ⟨name, v⟩
    rw [bodyEntries, List.mem_filter, decide_eq_true_eq, List.mem_singleton]
    constructor
    · rintro ⟨mem, named⟩
      obtain ⟨source', -, rfl⟩ := List.mem_map.mp named
      have value := given source'
      rw [lookup_of_mem once mem, BodySources.value?_only] at value
      split at value
      · rename_i same
        cases value
        rw [same]
      · cases value
    · intro eq
      cases eq
      have value := given source
      rw [BodySources.value?_only, if_pos rfl] at value
      exact ⟨mem_of_lookup value, List.mem_map_of_mem source.mem_all⟩

/-- **One source.**  The options of a send can be made only if exactly one option gives the body. -/
theorem exists_source_of_sendOptions (once : (found.map (·.1)).Nodup)
    (ok : sendOptions ⟨found, none⟩ = .ok o) :
    ∃ (source : BodySource) (value : String),
      bodyEntries found = [(source.name, value)] ∧ o.body = source.only value := by
  have one : bodyCount ⟨found, none⟩ = 1 ∧
      o.body = ⟨found.lookup "text", found.lookup "hex", found.lookup "file"⟩ := by
    unfold sendOptions at ok
    split at ok
    · cases ok
    · split at ok
      · cases ok
      · split at ok
        · cases ok
        · cases ok
          exact ⟨by omega, rfl⟩
  obtain ⟨count, body⟩ := one
  obtain ⟨source, value, only⟩ := BodySources.exists_only count
  refine ⟨source, value, bodyEntries_eq once fun source' => ?_, body.trans only⟩
  rw [← only]
  cases source' <;> rfl

/-! ### The whole line -/

theorem parseCommand_eq_send_iff {name : String} :
    parseCommand name args = .ok (.send o) ↔ name = "send" ∧ parseSend args = .ok o := by
  unfold parseCommand
  split
  · rename_i send
    simp [map_eq_ok_iff, send]
  · rename_i other
    split
    · simp [map_eq_ok_iff, other]
    · simp [other]

/-- A line that asks for a send has the command between the options of the program and those of the
send, and both are spelled. -/
theorem exists_of_parse {configPath : Option String} {i : Invocation}
    (asked : parse configPath args = .ok i) (sends : i.command = .send o) :
    ∃ front rest before, args = front ++ "send" :: rest ∧ Spells globalSpecs none front before ∧
      parseSend rest = .ok o := by
  obtain ⟨stop, read, next⟩ := bind_eq_ok_iff.mp asked
  obtain ⟨front, before, spells, behind, -⟩ := spells_of_scan read
  unfold Stop.Behind at behind
  split at next
  · obtain ⟨_, -, failed⟩ := bind_eq_ok_iff.mp next
    cases failed
  · rename_i name rest reached
    obtain ⟨command, parsed, more⟩ := bind_eq_ok_iff.mp next
    obtain ⟨settled, -, made⟩ := bind_eq_ok_iff.mp more
    cases made
    subst sends
    obtain ⟨rfl, sent⟩ := parseCommand_eq_send_iff.mp parsed
    rw [reached] at behind
    exact ⟨front, rest, before, behind.1, spells, sent⟩

end CommandLine

open CommandLine

/-- The arguments of a send give the options `o`, with the body from one source. -/
structure SendOptions.HasSource (args : List String) (o : SendOptions) (source : BodySource)
    (value : String) : Prop where
  /-- Of the options that the arguments spell, one gives the body. -/
  spelled   : ∃ gs, Spells sendSpecs none args gs ∧
    bodyEntries (gs.map Given.entry) = [(source.name, value)] ∧
    -- the same options in another order or another spelling are the same
    ∀ args' gs', Spells sendSpecs none args' gs' → gs'.Perm gs → parseSend args' = .ok o
  only      : o.body = source.only value
  present   : ∀ source', (o.body.value? source').isSome ↔ source' = source
  resolved  : ∀ files, o.body.resolve files = source.read files value
  neverMissing : ∀ files message,
    o.body.resolve files ≠ .error (.invalidArgument "body" message)
  anyOrder  : ∀ order files, order.Perm BodySource.all →
    o.body.resolveIn order files = o.body.resolve files

theorem SendOptions.exists_hasSource {args : List String} {o : SendOptions}
    (parsed : parseSend args = .ok o) :
    ∃ (source : BodySource) (value : String), o.HasSource args source value := by
  obtain ⟨gs, spells, fits, once, made⟩ := parseSend_eq_ok_iff.mp parsed
  obtain ⟨source, value, one, only⟩ := exists_source_of_sendOptions once made
  have resolved (files : Files) : o.body.resolve files = source.read files value := by
    rw [only, BodySources.resolve_only]
  refine ⟨source, value, ⟨gs, spells, one, fun args' gs' spells' same => ?_⟩, only,
    fun source' => ?_, resolved, fun files message => ?_, fun order files same => ?_⟩
  · have entries := (same.map Given.entry).symm
    refine parseSend_eq_ok_iff.mpr ⟨gs', spells', fun g hg => fits g (same.mem_iff.mp hg), ?_, ?_⟩
    · exact (entries.map _).nodup_iff.mp once
    · rw [← sendOptions_perm once entries, made]
  · rw [only, BodySources.value?_only]
    split <;> simp_all
  · rw [resolved]
    exact source.read_ne_missing files value message
  · rw [resolved, only]
    exact BodySources.resolveIn_only (same.mem_iff.mpr source.mem_all) files value

/-- **The source of a body.**  A command line that asks for a send has options of the program, the
command, and arguments that give the body from exactly one source.  So resolving the body reads that
source, whatever the order of priority, and does not find that none is given. -/
theorem sole_source_of_send {env : Configuration.Environment} {args : List String} {i : Invocation}
    {o : SendOptions} (asked : Program.invocation env args = .ok i)
    (sends : i.command = .send o) :
    ∃ front rest before source value, args = front ++ "send" :: rest ∧
      Spells globalSpecs none front before ∧ o.HasSource rest source value := by
  obtain ⟨front, rest, before, line, spells, parsed⟩ := exists_of_parse asked sends
  obtain ⟨source, value, has⟩ := SendOptions.exists_hasSource parsed
  exact ⟨front, rest, before, source, value, line, spells, has⟩

/-- An empty text is a source too, and what looks like a source in the value of another option is
none. -/
theorem sole_source_of_empty_text :
    let env : Configuration.Environment := [("MQJMS_CONFIG", "c.yaml")]
    let args := ["--json-logs", "-linfo", "send", "--ttl", "-5", "--text=", "-qDEV.QUEUE.1",
      "--correlation-id=--hex=00", "--persistent"]
    let o : SendOptions :=
      { queue := "DEV.QUEUE.1", body := { text := some "" }, persistent := true,
        timeToLive := some (-5), correlationId := some "--hex=00" }
    let i : Invocation := ⟨⟨some "c.yaml", "info", true⟩, .send o⟩
    Program.invocation env args = .ok i ∧ i.command = .send o ∧
      (∃ front rest before source value, args = front ++ "send" :: rest ∧
        Spells globalSpecs none front before ∧ o.HasSource rest source value) ∧
      ∀ files, o.body.resolve files = .ok (.text (some "")) := by
  intro env args o i
  have asked : Program.invocation env args = .ok i := rfl
  exact ⟨asked, rfl, sole_source_of_send asked rfl, fun files => rfl⟩

end Courier
