import CounterCache.Lua.Library.Args

/-!
# The `coroutine` library

A coroutine is suspended before it starts and after each yield, running while it runs, normal
while a coroutine it resumed runs, and dead once its function has returned or failed. The
scheduler does the switching: `resume` and `yield` hand it their values, and it answers with the
values passed the other way or with the error the coroutine died of. A function made by
`coroutine.wrap` resumes its coroutine and raises its error, a string error getting the place of
the caller in front. A coroutine that fails keeps its to-be-closed variables pending until it is
closed, by `coroutine.close` or by the function `coroutine.wrap` made.
-/

namespace CounterCache.Lua

namespace Library

variable {σ : Type}

open Machine

/-- Requires a coroutine argument; a failure names the type `what` expected. -/
def checkThread (c : LibCall) (i : Nat) (what : String := "coroutine") : LuaM σ Nat :=
  match c.arg i with
  | .thread id => pure id
  | _ => c.typeError i what

/-- `coroutine.create`. -/
def coCreate (c : LibCall) : LuaM σ (List Value) := do
  let f ← c.checkFunction 0
  return [← newThread f]

/-- `coroutine.resume`: `true` and the values the coroutine yields or returns, or `false` and
its error. -/
def coResume (c : LibCall) : LuaM σ (List Value) := do
  let co ← checkThread c 0
  match ← attempt (resumeThread co (.ok (c.args.toList.drop 1))) with
  | .ok vs => return .bool true :: vs
  | .error e => return [.bool false, e]

/-- Closes the to-be-closed variables a dead or suspended coroutine left pending, each with the
error the coroutine died of (`nil` if it did not fail): the error the closing ends with, if any.
The coroutine is dead afterwards. The closing runs as the coroutine would, with no message
handler, so an error in it is not given the caller's traceback. -/
def closeThread (co : Nat) : LuaM σ (Option Value) := do
  let t ← thread co
  modifyThread co fun t => { t with status := .dead, failure := none, saved := {} }
  let m ← get
  set { m with tbc := t.saved.tbc, handler := .none }
  let r ← closePendingWith 0 t.failure
  modify fun m' => { m' with tbc := m.tbc, handler := m.handler }
  return r

/-- `coroutine.wrap`: a function that resumes a new coroutine. -/
def coWrap (c : LibCall) : LuaM σ (List Value) := do
  let f ← c.checkFunction 0
  let co ← newThread f
  return [← newNative { fn := .wrapStep, upvals := #[co] }]

/-- The function `coroutine.wrap` makes, with its coroutine as upvalue: resumes it and returns
what it yields, or raises its error. -/
def wrapStep (id : Nat) (c : LibCall) : LuaM σ (List Value) := do
  let f ← native id
  let co := match f.upvals.getD 0 .nil with
    | .thread co => co
    | _ => 0
  match ← attempt (resumeThread co (.ok c.args.toList)) with
  | .ok vs => return vs
  | .error e =>
    let e ← if (← thread co).failure.isSome then pure ((← closeThread co).getD e) else pure e
    match e with
    | .str s => throwValue (.str ((whereText (← callerPos)).toUTF8 ++ s))
    | e => throwValue e

/-- `coroutine.yield`: suspends the running coroutine. -/
def coYield (c : LibCall) : LuaM σ (List Value) := do
  let m ← get
  if m.current == 0 then runError "attempt to yield from outside a coroutine"
  if m.nonYieldable > 0 then runError "attempt to yield across a C-call boundary"
  yieldValues c.args.toList

/-- The status of a coroutine as `coroutine.status` names it. -/
def threadStatusName (co : Nat) : LuaM σ String := do
  if co == (← get).current then return "running"
  match (← thread co).status with
  | .suspended => return "suspended"
  | .running => return "running"
  | .normal => return "normal"
  | .dead => return "dead"

/-- `coroutine.status`, which names the type it expects `thread`. -/
def coStatus (c : LibCall) : LuaM σ (List Value) := do
  let co ← checkThread c 0 "thread"
  return [.ofString (← threadStatusName co)]

/-- `coroutine.running`: the running coroutine, and whether it is the main one. -/
def coRunning (_ : LibCall) : LuaM σ (List Value) := do
  let cur := (← get).current
  return [.thread cur, .bool (cur == 0)]

/-- `coroutine.isyieldable`: whether a coroutine (the running one by default) may yield. -/
def coIsYieldable (c : LibCall) : LuaM σ (List Value) := do
  let co ← if c.has 0 then checkThread c 0 else pure (← get).current
  if co == 0 then return [.bool false]
  if co == (← get).current then return [.bool ((← get).nonYieldable == 0)]
  return [.bool ((← thread co).saved.nonYieldable == 0)]

/-- `coroutine.close`: kills a suspended or dead coroutine; `false` and the error it died of,
if it failed. -/
def coClose (c : LibCall) : LuaM σ (List Value) := do
  let co ← checkThread c 0
  let name ← threadStatusName co
  if name == "suspended" ∨ name == "dead" then
    match ← closeThread co with
    | some e => return [.bool false, e]
    | none => return [.bool true]
  raiseHere ("cannot close a " ++ name ++ " coroutine")

end Library

end CounterCache.Lua
