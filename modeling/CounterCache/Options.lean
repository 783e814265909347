import CounterCache.Error
import CounterCache.Json.Reader

/-!
# Options

How a store is opened and how long its work may take: whether a missing directory is created,
whether writes go to a journal and are synced, the journal size that triggers a checkpoint, the
lifetime of counter hashes, and the time limits of an operation and of a script.

`Options.ofJson?` reads options from a JSON document. The document is an object whose known
fields set options and whose other fields are read and ignored, or a list giving the options in
their order; a missing option keeps its default, and a field given twice is a fault. The options
are then checked: the counter lifetime and the operation time limit must be positive.

Main statements: `ofJson?_empty` says that the empty object gives the defaults, and
`validate_ok_iff` when options pass the check.
-/

namespace CounterCache

/-- How a store is opened and how long its work may take. -/
structure Options where
  /-- Create the store's directory when it is missing. -/
  createIfMissing : Bool := true
  /-- Journal every committed unit; without a journal the store lives in memory only. -/
  useJournal : Bool := true
  /-- Sync the journal after every append. -/
  syncJournal : Bool := false
  /-- The journal size, in bytes, that triggers a checkpoint; `0` for none. -/
  checkpointThreshold : Nat := 16 * 1024 * 1024
  /-- The lifetime of a counter hash, in seconds. -/
  counterTtlSecs : Nat := 1800
  /-- How long an operation waits for the store, in milliseconds. -/
  opTimeoutMs : Nat := 500
  /-- The time limit of a script, in milliseconds; `0` for none. -/
  scriptTimeoutMs : Nat := 5000
  deriving DecidableEq, Repr, Inhabited

namespace Options

/-- The time limit of a script, if it has one. -/
def scriptTimeout (o : Options) : Option Nat :=
  if o.scriptTimeoutMs = 0 then none else some o.scriptTimeoutMs

/-- Checks the options: the counter lifetime and the operation time limit must be positive. -/
def validate (o : Options) : Except Error Unit :=
  if o.counterTtlSecs = 0 then .error (.invalidArgument "counter_ttl_secs must be > 0")
  else if o.opTimeoutMs = 0 then .error (.invalidArgument "op_timeout_ms must be > 0")
  else .ok ()

theorem validate_ok_iff (o : Options) :
    o.validate = .ok () ↔ 0 < o.counterTtlSecs ∧ 0 < o.opTimeoutMs := by
  unfold validate
  by_cases h1 : o.counterTtlSecs = 0 <;> by_cases h2 : o.opTimeoutMs = 0 <;> simp [h1, h2] <;>
    omega

/-- An option of the document, named by its field. -/
inductive Field where
  | createIfMissing
  | useJournal
  | syncJournal
  | checkpointThreshold
  | counterTtlSecs
  | opTimeoutMs
  | scriptTimeoutMs
  deriving DecidableEq, Repr

/-- The fields in their order. -/
def Field.all : List Field :=
  [.createIfMissing, .useJournal, .syncJournal, .checkpointThreshold, .counterTtlSecs,
    .opTimeoutMs, .scriptTimeoutMs]

/-- The name of a field in the document. -/
def Field.name : Field → String
  | .createIfMissing => "create_if_missing"
  | .useJournal => "use_journal"
  | .syncJournal => "sync_journal"
  | .checkpointThreshold => "checkpoint_threshold"
  | .counterTtlSecs => "counter_ttl_secs"
  | .opTimeoutMs => "op_timeout_ms"
  | .scriptTimeoutMs => "script_timeout_ms"

/-- The field of a name. -/
def Field.ofName? (s : String) : Option Field := Field.all.find? (·.name == s)

/-- A field's value: a flag or a count. -/
inductive Setting where
  | flag (b : Bool)
  | count (n : Nat)

/-- Reads a field's value. -/
def Field.read : Field → Json.ReadM Setting
  | .createIfMissing | .useJournal | .syncJournal => do return .flag (← Json.readBool)
  | _ => do return .count (← Json.readWord)

/-- Sets a field. -/
def set (o : Options) : Field → Setting → Options
  | .createIfMissing, .flag b => { o with createIfMissing := b }
  | .useJournal, .flag b => { o with useJournal := b }
  | .syncJournal, .flag b => { o with syncJournal := b }
  | .checkpointThreshold, .count n => { o with checkpointThreshold := n }
  | .counterTtlSecs, .count n => { o with counterTtlSecs := n }
  | .opTimeoutMs, .count n => { o with opTimeoutMs := n }
  | .scriptTimeoutMs, .count n => { o with scriptTimeoutMs := n }
  | _, _ => o

open Json in
/-- Reads the colon between a key and its value. -/
def readColon : ReadM Unit := do
  match ← skipBlank with
  | some 58 => eat
  | some _ => failAhead .expectedColon
  | none => failAhead .eofObject

open Json in
/-- Reads the next key of an object: none at the closing brace, which is left to read. -/
def readKey (first : Bool) : ReadM (Option String) := do
  match ← skipBlank with
  | some 125 => return none
  | none => failAhead .eofObject
  | some b =>
    let b ← if b == 44 && !first then do eat; skipBlank
      else if first then pure (some b)
      else failAhead .expectedObjectCommaOrEnd
    match b with
    | some 34 => do eat; return some (← readString)
    | some 125 => failAhead .trailingComma
    | some _ => failAhead .keyMustBeString
    | none => failAhead .eofValue

open Json in
/-- A field named twice: the fault is placed after the blanks that follow the key, and after a
closing brace there. -/
def duplicate {α : Type} (f : Field) : ReadM α := do
  let c ← get
  let rest := c.rest.dropWhile isBlank
  let skipped := c.rest.length - rest.length + (if rest.head? == some 125 then 1 else 0)
  throw ⟨.duplicateField f.name, c.offset + skipped⟩

open Json in
/-- Reads an object's entries after its opening brace, up to its closing brace, not read: the
options set, and the fields seen. -/
def readEntries (o : Options) (seen : List Field) (first : Bool) :
    (fuel : Nat) → ReadM Options
  | 0 => failAhead .eofObject
  | fuel + 1 => do
    match ← readKey first with
    | none => return o
    | some key =>
      match Field.ofName? key with
      | some f =>
        if seen.contains f then duplicate f
        else
          readColon
          let v ← f.read
          readEntries (o.set f v) (f :: seen) false fuel
      | none =>
        readColon
        skipValue (← skipFuel)
        readEntries o seen false fuel

open Json in
/-- Reads the next element of a list: none at the closing bracket, which is left to read. -/
def readElement (f : Field) (first : Bool) : ReadM (Option Setting) := do
  match ← skipBlank with
  | some 93 => return none
  | none => failAhead .eofList
  | some b =>
    let b ← if b == 44 && !first then do eat; skipBlank
      else if first then pure (some b)
      else failAhead .expectedListCommaOrEnd
    match b with
    | some 93 => failAhead .trailingComma
    | some _ => return some (← f.read)
    | none => failAhead .eofValue

open Json in
/-- Reads the options of a list, in field order, after its opening bracket. -/
def readElements (o : Options) (first : Bool) : List Field → ReadM Options
  | [] => pure o
  | f :: fs => do
    match ← readElement f first with
    | some v => readElements (o.set f v) false fs
    | none => readElements o first fs

open Json in
/-- Reads the closing bracket of a list of options. -/
def closeList : ReadM Unit := do
  match ← skipBlank with
  | some 93 => eat
  | some 44 => do
    eat
    match ← skipBlank with
    | some 93 => failAhead .trailingComma
    | _ => failAhead .trailingCharacters
  | some _ => failAhead .trailingCharacters
  | none => failAhead .eofList

open Json in
/-- Reads options from the document: an object or a list. -/
def read : ReadM Options := do
  match ← skipBlank with
  | none => failAhead .eofValue
  | some 123 => do
    eat
    let o ← readEntries {} [] true ((← get).rest.length + 1)
    -- the closing brace
    eat
    return o
  | some 91 => do
    eat
    let o ← readElements {} true Field.all
    closeList
    return o
  | some _ => unexpected "struct Options"

/-- Reads options from a JSON document and checks them. -/
def ofJson? (doc : String) : Except Error Options := do
  let o ← (Json.readDocument doc read).mapError Error.serialization
  o.validate
  return o

theorem ofJson?_empty : ofJson? "\x7b\x7d" = .ok {} := by
  rfl

end Options

end CounterCache
