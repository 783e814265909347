import CounterCache.Lua.Machine

/-!
# Raising errors

An error of a running script is a value raised at some call in progress, and where it is raised
decides its message and what happens to it before the stack unwinds.

* An error of the machine itself (an operation on a wrong value, a stack overflow) is placed at
  the running Lua function's current instruction, as `source:line: `, with `?` and `-1` for a
  function that keeps no source or lines; raised while a library function runs, it has no place.
  An error a library function raises is placed at the line of the Lua code that called it, when
  that code keeps lines.
* The running coroutine's message handler sees every raised error first. Inside `xpcall` the
  handler's result replaces the error; outside any protected call the error becomes its text
  followed by a traceback of the calls in progress; inside `pcall` or a coroutine it is left
  alone. Errors of the embedding program are never given a traceback. A handler runs as a
  nested call: at the nesting limit the call fails with `C stack overflow`, which the handler
  sees in turn, and a tenth beyond the limit the error becomes `error in error handling`.
* A traceback lists the calls from the innermost, starting with the handler itself: each with
  its place and a name — the global that holds the function, else what the calling code calls
  it, else `main chunk` or the function's own place. A call that replaced its caller by a tail
  call is marked, and a long stack shows its first ten and last eleven levels.

The text of a value, as `tostring` gives it, lives here too: the traceback needs it.
-/

namespace CounterCache.Lua

/-- Bytes as message text. -/
def lossyText (s : ByteArray) : String := Text.decodeUtf8Lossy s.data.toList

/-- Bytes up to the first zero byte, as a C string reads them. -/
def cBytes (s : ByteArray) : ByteArray := ⟨(s.data.toList.takeWhile (· != 0)).toArray⟩

/-- Bytes up to the first zero byte as message text: a name or a value that Lua's messages take
in as a C string ends there. -/
def cText (s : ByteArray) : String := lossyText (cBytes s)

/-- A call in progress replaced its caller by a tail call. -/
def CallInfo.isTail : CallInfo → Bool
  | .lua fr => fr.tail
  | .native .. => false

/-- The function a call in progress runs. -/
def CallInfo.function : CallInfo → Value
  | .lua fr => .closure fr.closure
  | .native f _ _ => f

namespace Machine

variable {σ : Type}

/-- The message an error of the machine gets: placed at the running Lua function's current
instruction, if a Lua function is running. -/
def runMessage (m : Machine σ) (msg : String) : String :=
  match m.calls with
  | .lua fr :: _ => fr.errorPos.text ++ msg
  | _ => msg

/-- What the calling code calls the function of the innermost of `calls`: a kind such as
`global` or `method` and a name, read from the instruction that made the call. A function that
replaced its caller, or that library code called, has none. -/
def callName : List CallInfo → Option (String × String)
  | ci :: .lua caller :: _ => if ci.isTail then none else caller.proto.callName caller.pc
  | _ => none

/-- The global name of a function, as tracebacks and argument errors give it: a library
function by where the library tables hold it, any other by a field of the global table that
holds it. -/
def globalName (f : Value) : LuaM σ (Option String) := do
  match f with
  | .builtin b => return if b.qualifiedName == "?" then none else some b.qualifiedName
  | .closure _ | .native _ | .host _ =>
    let g ← table (← get).globals
    let found := g.nodes.toList.find? fun n => n.val.rawEq f && match n.key with
      | .str _ => true
      | _ => false
    return match found with
      | some n => match n.key with
        | .str s => some (cText s)
        | _ => none
      | none => none
  | _ => return none

/-- The line of a traceback for a call in progress: its place, then the global name of its
function, else the name the calling code gives it, else `main chunk`, a Lua function's own place
or `?`; a call that replaced its caller gets a note. -/
def traceEntry (ci : CallInfo) (global : Option String) (name : Option (String × String)) :
    String :=
  let (place, fallback) : String × String := match ci with
    | .lua fr =>
      let src := fr.proto.shortSource
      let place := match fr.currentLine with
        | some l => if l > 0 then src ++ ":" ++ toString l else src
        | none => src
      (place, if fr.proto.lineDefined == 0 then "main chunk"
        else "function <" ++ src ++ ":" ++ toString fr.proto.lineDefined ++ ">")
    | .native .. => ("[C]", "?")
  let what := match global, name with
    | some g, _ => "function '" ++ g ++ "'"
    | none, some (kind, n) => kind ++ " '" ++ n ++ "'"
    | none, none => fallback
  "\n\t" ++ place ++ ": in " ++ what ++ (if ci.isTail then "\n\t(...tail calls...)" else "")

/-- The levels a traceback of levels `0 … last` shows: all of them, or for more than 22 the first
ten and the last eleven, with the count it reports skipped. -/
def shownLevels (last : Nat) : List Nat × Option Nat :=
  if last > 21 then ((List.range 10) ++ (List.range 11).map (· + (last - 10)), some (last - 21))
  else (List.range (last + 1), none)

/-- A traceback of the calls in progress, as a message handler at level zero sees them: the
handler itself (a library function that no table holds), then each call from the innermost. -/
def traceback : LuaM σ String := do
  let calls := (← get).calls
  let (levels, skipped) := shownLevels calls.length
  let mut out := "stack traceback:"
  for level in levels do
    if level == 10 then
      if let some n := skipped then out := out ++ "\n\t...\t(skipping " ++ toString n ++ " levels)"
    match level with
    | 0 =>
      let name := match calls with
        | .lua caller :: _ => caller.proto.callName caller.pc
        | _ => none
      out := out ++ traceEntry (.native .nil 0 0) none name
    | k + 1 =>
      match calls.drop k with
      | ci :: rest =>
        let g ← globalName ci.function
        out := out ++ traceEntry ci g (callName (ci :: rest))
      | [] => pure ()
  return out

/-- The text `error in error handling` that an error becomes when handling it nests too deep. -/
def errorInHandling : Value := .ofString "error in error handling"

/-- The nesting depth at which a call made while handling an error fails outright. -/
def handlingLimit : Nat := maxCLevel / 10 * 11

/-- Fuel for raising an error: more than a message handler can nest before the limit stops it. -/
def raiseFuel : Nat := handlingLimit + 2

mutual

/-- Raises an error value after the running coroutine's message handler has seen it. -/
def throwWith {α : Type} : Nat → Value → LuaM σ α
  | 0, e => throw e
  | fuel + 1, e => do throw (← handleWith fuel e)

/-- What the running coroutine's message handler makes of a raised error. -/
def handleWith : Nat → Value → LuaM σ Value
  | 0, e => pure e
  | fuel + 1, e => do
    match (← get).handler with
    | .none => pure e
    | .traceback =>
      match e with
      | .failure _ => pure e
      | _ => runHandler fuel do
        let s ← textWith fuel e
        let tb ← traceback
        return .str (s ++ ("\n" ++ tb).toUTF8)
    | .call h => runHandler fuel do
      return (← callValue h [e]).headD .nil

/-- Runs a message handler as a nested call that cannot suspend the coroutine. At the nesting
limit the handler is not run: the overflow is raised instead, itself handled one level deeper. -/
def runHandler : Nat → LuaM σ Value → LuaM σ Value
  | 0, _ => throw errorInHandling
  | fuel + 1, act => do
    let m ← get
    let level := m.cLevel + 1
    if level ≥ handlingLimit then throw errorInHandling
    let restore : LuaM σ Unit := modify fun m' =>
      { m' with cLevel := m.cLevel, nonYieldable := m.nonYieldable }
    set { m with cLevel := level, nonYieldable := m.nonYieldable + 1 }
    if level == maxCLevel then
      let e ← handleWith fuel (.ofString (runMessage m "C stack overflow"))
      restore
      throw e
    let r ← tryCatch act fun e => do restore; throw e
    restore
    return r

/-- The text of a value as `tostring` gives it: its `__tostring` metamethod's result, which must
be a string or a number; else for a value whose metatable has a string `__name`, that name and
the value's address; else its plain text. -/
def textWith : Nat → Value → LuaM σ ByteArray
  | 0, v => pure v.rawText
  | fuel + 1, v => do
    let h ← metafield v "__tostring"
    if !h.isNil then
      let r := (← nestedWith fuel false (callValue h [v])).headD .nil
      match r.bytes? with
      | some s => return s
      | none =>
        let m ← get
        throwWith fuel (.ofString (whereText (m.levelPos 1) ++ "'__tostring' must return a string"))
    match v with
    | .table id =>
      match ← metafield v "__name" with
      | .str s => return cBytes s ++ (": " ++ heapAddress 0 id).toUTF8
      | _ => return v.rawText
    | _ => return v.rawText

/-- Runs a call made by library code or an operator, which counts against the limit of nested
calls; `yieldable` says whether the callee may suspend the coroutine. A call made at the limit
fails with `C stack overflow`; one made a tenth beyond it, while that failure is handled, with
`error in error handling`. -/
def nestedWith {α : Type} : Nat → Bool → LuaM σ α → LuaM σ α
  | 0, _, _ => throw errorInHandling
  | fuel + 1, yieldable, act => do
    let m ← get
    let level := m.cLevel + 1
    if level == maxCLevel then throwWith fuel (.ofString (runMessage m "C stack overflow"))
    if level ≥ handlingLimit then throw errorInHandling
    let ny := if yieldable then 0 else 1
    let restore : LuaM σ Unit := modify fun m' =>
      { m' with cLevel := m'.cLevel - 1, nonYieldable := m'.nonYieldable - ny }
    modify fun m' => { m' with cLevel := level, nonYieldable := m'.nonYieldable + ny }
    let r ← tryCatch act fun e => do restore; throw e
    restore
    return r

end

/-- What the running coroutine's message handler makes of an error raised while a library function
runs. -/
def handle (e : Value) : LuaM σ Value := handleWith raiseFuel e

/-- Raises an error value: the running coroutine's message handler sees it first. -/
def throwValue {α : Type} (e : Value) : LuaM σ α := throwWith raiseFuel e

/-- Raises an error message. -/
def raise {α : Type} (msg : String) : LuaM σ α := throwValue (.ofString msg)

/-- Raises an error message at a place of the source, when there is one. -/
def raiseAt {α : Type} (pos : Option Pos) (msg : String) : LuaM σ α :=
  raise (whereText pos ++ msg)

/-- Raises an error from a library function: the message placed at its caller's line. -/
def raiseHere {α : Type} (msg : String) : LuaM σ α := do
  raiseAt (← callerPos) msg

/-- Raises an error of the machine: the message placed at the running Lua function's current
instruction. -/
def runError {α : Type} (msg : String) : LuaM σ α := do
  raise (runMessage (← get) msg)

/-- Runs a call made by library code or an operator, counting against the limit of nested
calls. -/
def nested {α : Type} (yieldable : Bool) (act : LuaM σ α) : LuaM σ α :=
  nestedWith raiseFuel yieldable act

/-- Calls a function from library code: it cannot suspend the coroutine. -/
def callFromLibrary (f : Value) (args : List Value) : LuaM σ (List Value) :=
  nested false (callValue f args)

/-- The text of a value as `tostring` gives it. -/
def toText (v : Value) : LuaM σ ByteArray := textWith raiseFuel v

theorem shownLevels_short (last : Nat) (h : last ≤ 21) :
    shownLevels last = (List.range (last + 1), none) := by
  simp [shownLevels]; omega

end Machine

end CounterCache.Lua
