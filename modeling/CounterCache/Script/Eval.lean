import CounterCache.Lua.Run
import CounterCache.Store.Transaction
import CounterCache.Text.Utf8

/-!
# Lua scripts against the store

A script runs inside a transaction. It finds its keys in the global sequence `KEYS`, its
arguments in `ARGV`, and reaches the store through `redis.call`, which runs a command and fails
the script with the command's error, and `redis.pcall`, which answers a failed command with a
table `{err = message}`. `redis.status_reply` and `redis.error_reply` build the tables
`{ok = text}` and `{err = text}`.

Command arguments are strings (valid UTF-8), integers (their decimal text) and doubles: one
with no fraction becomes the nearest integer, clamped to 64 bits, and any other is written with
the fewest digits that read back, positionally, or as `inf`, `-inf` or `NaN`. Replies come back
as Lua values: nothing as `false`, a status as `{ok = text}`, a list as a sequence.

The script's first result becomes the reply: `nil` and `false` give nothing, `true` the integer
`1`, a double its integer part clamped to 64 bits (NaN gives `0`), a string a bulk reply, and a
table its `err` field as a failure, else its `ok` field as a status, else its elements from `1`
up to the first `nil` as a list. Anything else gives nothing.

A script fails with `Lua script failed: ` and Lua's report of the failure; the transaction then
fails, so none of the script's writes survive.

The machine holds the transaction as a `Session`: the transaction with the fact that the
commands the script sent brought it there from the one the script started on (`Reached`). The
interpreter can only pass sessions along, so whatever a script does to its transaction, it does
through commands.
-/

namespace CounterCache.Script

open CounterCache.Lua
open CounterCache.Decimal

/-- The functions of the `redis` table, numbered as the machine sees them. -/
inductive RedisFn where
  | call | pcall | statusReply | errorReply
  deriving DecidableEq, Repr

/-- The number of a `redis` function. -/
def RedisFn.id : RedisFn → Nat
  | .call => 0 | .pcall => 1 | .statusReply => 2 | .errorReply => 3

/-- The `redis` function with a number. -/
def RedisFn.ofId? : Nat → Option RedisFn
  | 0 => some .call | 1 => some .pcall | 2 => some .statusReply | 3 => some .errorReply
  | _ => none

/-- The text of a conversion of invalid UTF-8 to a borrowed string. -/
def invalidText (e : Text.Utf8Error) : String :=
  "error converting Lua string to &str (" ++ e.message ++ ")"

/-- A Lua string as text, when it is valid UTF-8. -/
def utf8Text (s : ByteArray) : Except String String :=
  match Text.decodeUtf8 s.data.toList with
  | .ok t => .ok t
  | .error e => .error (invalidText e)

/-- A Lua string as an owned string, when it is valid UTF-8. -/
def ownedText (s : ByteArray) : Except String String :=
  match Text.decodeUtf8 s.data.toList with
  | .ok t => .ok t
  | .error e => .error ("error converting Lua string to String (" ++ e.message ++ ")")

/-- The type name a conversion error gives a value. -/
def conversionTypeName : Lua.Value → String
  | .int _ => "integer"
  | .failure _ => "error"
  | v => v.typeName

/-- A command argument from a Lua value. -/
def argText (v : Lua.Value) : Except Error String :=
  match v with
  | .str s =>
    match utf8Text s with
    | .ok t => .ok t
    | .error msg => .error (.script msg)
  | .int n => .ok (toString n)
  | .num f =>
    match Float.toInt? f.toFloat with
    | some n => .ok (toString (Text.clampI64 n))
    | none => .ok (shortestPositional f.toFloat)
  | other => .error (.script ("Lua redis lib command arguments must be strings or integers, got " ++
      conversionTypeName other))

/-- Runs a command given as Lua values. -/
def dispatch (args : List Lua.Value) : TxnM Reply := do
  let argv ← liftM (m := Except Error) (args.mapM argText)
  let cmd ← liftM (m := Except Error) (Command.parse argv)
  Transaction.execute cmd

/-- The transaction a finished step leaves, whether it answered or failed. -/
def stateAfter {α : Type} : EStateM.Result Error Transaction α → Transaction
  | .ok _ t | .error _ t => t

/-- The transactions a script brings its transaction to from `t₀`: each command it sends runs
from where the one before left the transaction. -/
inductive Reached (t₀ : Transaction) : Transaction → Prop
  | start : Reached t₀ t₀
  | call {t : Transaction} (args : List Lua.Value) :
      Reached t₀ t → Reached t₀ (stateAfter ((dispatch args).run t))

/-- What a script's machine holds of the embedding program: the transaction, as its commands
have brought it from `t₀`. -/
def Session (t₀ : Transaction) : Type := {t : Transaction // Reached t₀ t}

variable {t₀ : Transaction}

/-- A table with one text field. -/
def fieldTable {σ : Type} (name text : String) : LuaM σ Lua.Value := do
  return .table (← Machine.newTable (({} : Table).set (.ofString name) (.ofString text)))

/-- A reply as a Lua value. -/
def replyValue {σ : Type} : Reply → LuaM σ Lua.Value
  | .nil => pure (.bool false)
  | .int n => pure (.int n)
  | .bulk s => pure (.ofString s)
  | .status s => fieldTable "ok" s
  | .array items => do
    let vs ← items.attach.mapM fun ⟨r, _⟩ => replyValue r
    return .table (← Machine.newTable (Table.ofSeq vs))

/-- Runs a command in the machine's transaction: its reply, or its error, the transaction kept
as the command left it. -/
def runCommand (args : List Lua.Value) : LuaM (Session t₀) (Except Error Reply) := do
  let s ← Machine.hostState
  let r := (dispatch args).run s.val
  Machine.setHostState ⟨stateAfter r, .call args s.property⟩
  match r with
  | .ok reply _ => return .ok reply
  | .error e _ => return .error e

/-- A text argument as the `redis` helpers read it: a string that is valid UTF-8, or a number's
text. -/
def textArg (v : Lua.Value) : Except String String :=
  let bad (from_ : String) : String :=
    "bad argument #1: error converting Lua " ++ from_ ++ " to String (expected string or number)"
  match v with
  | .str s =>
    match ownedText s with
    | .ok t => .ok t
    | .error msg => .error ("bad argument #1: " ++ msg)
  | .int n => .ok (Numeral.int n).text
  | .num f => .ok (Numeral.flt f).text
  | other => .error (bad (conversionTypeName other))

/-- The `redis` functions. -/
def redisHost : Host (Session t₀) where
  call id args := do
    match RedisFn.ofId? id with
    | some .call =>
      match ← runCommand args with
      | .ok reply => return [← replyValue reply]
      | .error e => Machine.throwValue (.failure ("runtime error: " ++ e.message))
    | some .pcall =>
      match ← runCommand args with
      | .ok reply => return [← replyValue reply]
      | .error e => return [← fieldTable "err" e.message]
    | some .statusReply =>
      match textArg (args.headD .nil) with
      | .ok t => return [← fieldTable "ok" t]
      | .error msg => Machine.throwValue (.failure msg)
    | some .errorReply =>
      match textArg (args.headD .nil) with
      | .ok t => return [← fieldTable "err" t]
      | .error msg => Machine.throwValue (.failure msg)
    | none => return []

/-- The text a failure of the script is reported with: an error of the embedding program by its
own text, any other error value as `runtime error: ` and the value's text. -/
def failureText (e : Lua.Value) (m : Machine (Session t₀)) : String :=
  match e with
  | .failure msg => msg
  | v =>
    match runValues redisHost (do return [.str (← Machine.toText v)]) m with
    | (.ok [.str s], _) => "runtime error: " ++ lossyText s
    | _ => "runtime error: " ++ lossyText v.rawText

/-- Reads `t[key]` with metamethods, as the embedding program reads a result table. -/
def readField (t key : Lua.Value) (m : Machine (Session t₀)) :
    Except String Lua.Value × Machine (Session t₀) :=
  match runValues redisHost (do return [← Machine.index t key .none]) m with
  | (.ok vs, m') => (.ok (vs.headD .nil), m')
  | (.error e, m') => (.error (failureText e m'), m')

/-- An optional text field of a result table: a string or a number's text. -/
def textField (v : Lua.Value) : Except String (Option String) :=
  match v with
  | .nil => .ok none
  | .str s => (ownedText s).map some
  | .int n => .ok (some (Numeral.int n).text)
  | .num f => .ok (some (Numeral.flt f).text)
  | other => .error ("error converting Lua " ++ conversionTypeName other ++
      " to String (expected string or number)")

/-- A double's integer part, clamped to 64 bits; NaN gives zero. -/
def truncClamp (f : Float) : Int :=
  match classify f with
  | .nan _ => 0
  | .infinite neg => if neg then Text.i64Min else Text.i64Max
  | .finite neg m e =>
    let (n, d) := dyadicRatio m e
    let q : Int := n / d
    Text.clampI64 (if neg then -q else q)

/-- How deep a script's result is read: one level for each table of the heap and one for the
value itself, so that only a table that holds itself, directly or through others, runs out. -/
def replyFuel {σ : Type} (m : Machine σ) : Nat := m.heap.tables.size + 1

/-- How many elements past a result table's slots are read at most. -/
def maxSequence : Nat := 100000000

/-- How many elements of a result table are read at most: as many as it has slots, in its
array part and its hash part, and `maxSequence` more. -/
def sequenceSteps {σ : Type} (v : Lua.Value) (m : Machine σ) : Nat :=
  match v with
  | .table id =>
    let t := m.heap.tables.getD id {}
    t.array.size + t.nodes.size + maxSequence + 1
  | _ => maxSequence + 1

mutual

/-- The reply of a script's result value: `nil` and `false` give nothing, `true` one, numbers
their integer part, strings a bulk reply, and a table its `err` field as a failure, else its
`ok` field as a status, else its elements `t[1], t[2], …` before the first `nil` as a list.
Fields are read with metamethods. -/
def resultReply : (fuel : Nat) → Lua.Value → Machine (Session t₀) →
    Except String Reply × Machine (Session t₀)
  | 0, _, m => (.error "runtime error: stack overflow", m)
  | fuel + 1, v, m =>
    match v with
    | .nil | .bool false => (.ok .nil, m)
    | .bool true => (.ok (.int 1), m)
    | .int n => (.ok (.int n), m)
    | .num f => (.ok (.int (truncClamp f.toFloat)), m)
    | .str s => ((utf8Text s).map Reply.bulk, m)
    | .table _ =>
      match readField v (.ofString "err") m with
      | (.error e, m) => (.error e, m)
      | (.ok errV, m) =>
        match textField errV with
        | .error e => (.error e, m)
        | .ok (some err) => (.error ("runtime error: " ++ err), m)
        | .ok none =>
          match readField v (.ofString "ok") m with
          | (.error e, m) => (.error e, m)
          | (.ok okV, m) =>
            match textField okV with
            | .error e => (.error e, m)
            | .ok (some ok) => (.ok (.status ok), m)
            | .ok none =>
              match sequenceReplies fuel v 1 #[] m (sequenceSteps v m) with
              | (.ok items, m) => (.ok (.array items.toList), m)
              | (.error e, m) => (.error e, m)
    | _ => (.ok .nil, m)

/-- The replies of `t[i], t[i + 1], …` up to the first `nil`, after those already made. -/
def sequenceReplies : (fuel : Nat) → Lua.Value → Nat → Array Reply → Machine (Session t₀) →
    (steps : Nat) → Except String (Array Reply) × Machine (Session t₀)
  | _, _, _, acc, m, 0 => (.ok acc, m)
  | fuel, t, i, acc, m, steps + 1 =>
    match readField t (.int i) m with
    | (.error e, m) => (.error e, m)
    | (.ok .nil, m) => (.ok acc, m)
    | (.ok item, m) =>
      match resultReply fuel item m with
      | (.ok r, m) => sequenceReplies fuel t (i + 1) (acc.push r) m steps
      | (.error e, m) => (.error e, m)

end

/-- The step budget of a time limit in milliseconds. -/
def stepsPerMillisecond : Nat := 10000

/-- The name a script is loaded under: the place in the embedding program that loads it. -/
def scriptSource : String := "/root/workspace/src/src/script/lua_executor.rs:132:29"

/-- Compiles a script's source, first as `return <source>`, so that a script that is one
expression answers its value, then as it stands: the function and the number of upvalues its
closure gets. A source that starts with the escape byte is then a binary chunk, read back as
`load` reads one, and a chunk it refuses is a syntax error. -/
def compileEval (src : List UInt8) : Except Code.CompileError (Code.Proto × Nat) :=
  match Code.compile ("return ".toUTF8.toList ++ src) scriptSource.toUTF8 with
  | .ok p => .ok (p, p.upvals.size)
  | .error _ =>
    match src with
    | 0x1B :: _ =>
      match Code.Proto.undump ⟨src.toArray⟩ with
      | .ok r => .ok r
      | .error why =>
        .error (.malformed (Library.binaryName scriptSource.toUTF8 ++
          ": bad binary format (" ++ why ++ ")"))
    | _ => (Code.compile src scriptSource.toUTF8).map fun p => (p, p.upvals.size)

/-- The marker before the traceback that a failure's text carries. -/
def tracebackMarker : List Char := "\nstack traceback:".toList

/-- The text before the first traceback marker, or all of it. -/
def dropTraceback (cs : List Char) : List Char :=
  go cs [] cs.length
where
  /-- Keeps characters of `cs` after `acc` (reversed) until the marker; `fuel` bounds the
  characters left. -/
  go (cs acc : List Char) : (fuel : Nat) → List Char
    | 0 => acc.reverse ++ cs
    | fuel + 1 =>
      match cs with
      | [] => acc.reverse
      | c :: rest => if tracebackMarker.isPrefixOf cs then acc.reverse else go rest (c :: acc) fuel

/-- A failure's text as the service reports it: the text before its traceback, every chunk
name `[string "…"]` shown as `[string "script"]`. -/
def reportText (s : String) : String :=
  let cs := dropTraceback s.toList
  String.ofList (go cs [] cs.length)
where
  /-- The chunk name's opening. -/
  opening : List Char := "[string \"".toList
  /-- Rewrites from the start of `cs` after `acc`, reversed; `fuel` bounds the characters
  left. -/
  go (cs acc : List Char) : (fuel : Nat) → List Char
    | 0 => acc.reverse ++ cs
    | fuel + 1 =>
      match cs with
      | [] => acc.reverse
      | c :: rest =>
        if opening.isPrefixOf cs then
          match closing (cs.drop opening.length) with
          | some after => go after ("[string \"script\"]".toList.reverse ++ acc) fuel
          | none => go rest (c :: acc) fuel
        else go rest (c :: acc) fuel
  /-- The text after the first `"]` of a line, if the line has one. -/
  closing : List Char → Option (List Char)
    | [] => none
    | '\n' :: _ => none
    | '"' :: ']' :: after => some after
    | _ :: rest => closing rest

/-- Runs a script's source against the transaction with its keys and arguments and an optional
time limit in milliseconds: the reply of its first result. The source is read first as
`return <source>`, so a script that is one expression answers its value. -/
def eval (src : String) (keys args : List String) (limitMs : Option Nat) : TxnM Reply := do
  let t ← get
  let budget := limitMs.map (· * stepsPerMillisecond)
  let seq (xs : List String) : Table :=
    xs.zipIdx.foldl (fun t (x, i) => t.set (.int (i + 1)) (.ofString x)) {}
  let setup : LuaM (Session t) Unit := do
    Library.openLibraries
    let g := (← get).globals
    Machine.rawSet g (.ofString "KEYS") (.table (← Machine.newTable (seq keys)))
    Machine.rawSet g (.ofString "ARGV") (.table (← Machine.newTable (seq args)))
    let redis : Table := [("call", RedisFn.call), ("pcall", .pcall),
        ("status_reply", .statusReply), ("error_reply", .errorReply)].foldl
      (fun t (name, f) => t.set (.ofString name) (.host f.id)) {}
    Machine.rawSet g (.ofString "redis") (.table (← Machine.newTable redis))
  let (_, m) := runLuaM setup (Machine.init (⟨t, .start⟩ : Session t) budget)
  let fail {α : Type} (msg : String) : TxnM α :=
    throw (.script ("Lua script failed: " ++ reportText msg))
  match compileEval src.toUTF8.toList with
  | .error (.malformed msg) => fail ("syntax error: " ++ msg)
  | .error .overflow => fail "runtime error: C stack overflow"
  | .ok (p, nupvals) =>
    let (result, m) := runProto redisHost p nupvals m
    set m.state.val
    match result with
    | .error e => fail (failureText e m)
    | .ok vals =>
      let (reply, m) := resultReply (replyFuel m) (vals.headD .nil) m
      set m.state.val
      match reply with
      | .ok r => pure r
      | .error e => fail e

end CounterCache.Script
