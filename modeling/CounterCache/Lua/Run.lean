import CounterCache.Lua.Execute

/-!
# Running Lua: the scheduler

A computation in `LuaM` stops at every call it cannot make itself, every resume and every
yield, and hands the scheduler a request with its continuation. The machine runs Lua functions
calling Lua functions on its own; what reaches the scheduler are the calls that library code
and operators make (a metamethod, a protected call, the function of a coroutine). The
scheduler keeps the continuations of those calls on a stack of pending frames, so they nest on
that stack rather than in the evaluator's recursion, and a coroutine is a segment of the stack
that can be set aside and put back:

* a call pushes a frame holding the caller's continuation and what the callee may change (the
  calls in progress, the message handler, the first free stack slot), starts the callee there,
  and when the callee finishes pops the frame, cuts the stack back and feeds the callee's
  results or error to the continuation;
* resuming a coroutine pushes a frame for the resumer holding its own state, switches to the
  coroutine's state, and either calls the coroutine's function or puts back the frames it
  left when it yielded;
* yielding takes the frames above the nearest resumer frame, parks them with the yield's
  continuation, and answers the resumer;
* a coroutine whose function returns or fails pops its resumer frame: it is dead, and the
  resumer gets its results or error. A coroutine that fails keeps its to-be-closed variables
  for whoever closes it.

Each call through the scheduler costs a few steps of the time limit, beyond the instructions
it runs.
-/

namespace CounterCache.Lua

variable {σ : Type}

open Machine

/-- The continuation of a caller, waiting for the callee's results or error. -/
abbrev Waiting (σ : Type) := Except Value (List Value) → Machine σ → Step σ (List Value)

/-- What a call through the scheduler restores when it finishes: the caller's calls in progress
and message handler, and the slot where the callee was placed, above which nothing of the
caller lives. -/
structure CallSave where
  calls : List CallInfo
  handler : Handler
  func : Nat

/-- A frame of the scheduler's stack. -/
inductive Pending (σ : Type) where
  /-- A call in progress: the caller's continuation and what to restore for it. -/
  | call (k : Waiting σ) (saved : CallSave)
  /-- A resumer waiting for coroutine `co`: its continuation, its number and its state. -/
  | resumer (k : Waiting σ) (co : Nat) (self : Nat) (saved : ThreadState)

/-- A suspended coroutine's part of the stack, with the continuation of its yield. -/
structure Parked (σ : Type) where
  frames : List (Pending σ)
  k : Waiting σ

/-- What the scheduler keeps besides the running step: the pending frames and the parked
coroutines by number. -/
structure Sched (σ : Type) where
  frames : List (Pending σ) := []
  parked : Array (Option (Parked σ)) := #[]

/-- The continuation that ends an activation with its results. -/
def finishWith : Waiting σ := fun r m => .ofExcept r m

/-- The state a coroutine leaves when another takes over. -/
def Machine.threadState (m : Machine σ) : ThreadState :=
  { stack := m.stack, calls := m.calls, tbc := m.tbc, cLevel := m.cLevel,
    nonYieldable := m.nonYieldable, handler := m.handler, hookCount := m.hookCount }

/-- Takes up a coroutine's saved state. -/
def Machine.enter (m : Machine σ) (co : Nat) (s : ThreadState) : Machine σ :=
  { m with
    current := co
    stack := s.stack
    calls := s.calls
    tbc := s.tbc
    cLevel := s.cLevel
    nonYieldable := s.nonYieldable
    handler := s.handler
    hookCount := s.hookCount }

/-- Sets a coroutine's status. -/
def Machine.setStatus (m : Machine σ) (co : Nat) (st : ThreadStatus) : Machine σ :=
  { m with heap := { m.heap with
    threads := m.heap.threads.modify co fun t => { t with status := st } } }

/-- Changes a coroutine's record. -/
def Machine.updateThread (m : Machine σ) (co : Nat) (f : Thread → Thread) : Machine σ :=
  { m with heap := { m.heap with threads := m.heap.threads.modify co f } }

/-- Counts the cost of a call through the scheduler against the time limit. -/
def Machine.chargeCall (m : Machine σ) : Machine σ :=
  if m.timed then { m with stepsLeft := m.stepsLeft - callCost } else m

/-- The frames above the nearest resumer frame, and that frame with the ones below it. -/
def splitAtResumer : List (Pending σ) → List (Pending σ) × List (Pending σ)
  | [] => ([], [])
  | f@(.resumer ..) :: rest => ([], f :: rest)
  | f :: rest => let (a, b) := splitAtResumer rest; (f :: a, b)

/-- Why a resume cannot go ahead, if it cannot. -/
def resumeProblem (m : Machine σ) (co : Nat) : Option String :=
  if co == m.current then some "cannot resume non-suspended coroutine"
  else
    match (m.heap.threads.getD co default).status with
    | .dead => some "cannot resume dead coroutine"
    | .running | .normal => some "cannot resume non-suspended coroutine"
    | .suspended =>
      if m.cLevel ≥ maxCLevel then some "C stack overflow" else none

/-- What the scheduler does when the running activation ends with a result or an error: the
outermost activation's answer when no frame is pending, else the step and frames to go on with.
A finished coroutine goes back to its resumer, dead, keeping the variables it left to close if
it failed. -/
def finishActivation (r : Except Value (List Value)) (m : Machine σ) (s : Sched σ) :
    (Except Value (List Value) × Machine σ) ⊕ (Step σ (List Value) × Sched σ) :=
  match s.frames with
  | [] => .inl (r, m)
  | .call k saved :: rest =>
    let m := { m with
      stack := m.stack.shrink saved.func, calls := saved.calls, handler := saved.handler }
    .inr (k r m, { s with frames := rest })
  | .resumer k co self saved :: rest =>
    let (failure, left) := match r with
      | .error e => (some e, ({ tbc := m.tbc } : ThreadState))
      | .ok _ => (none, {})
    let m := (m.updateThread co fun t =>
      { t with status := .dead, failure, saved := left }).enter self saved
    let m := m.setStatus self .running
    .inr (k r m, { s with frames := rest })

/-- Runs the scheduler from a step until the stack of frames is empty: the outermost
activation's results or error, and the machine. -/
def drive (host : Host σ) : (fuel : Nat) → Step σ (List Value) → Sched σ →
    Except Value (List Value) × Machine σ
  | 0, cur, _ => (.error Execute.timeoutError, cur.machine)
  | fuel + 1, cur, s =>
    match cur with
    | .ok a m =>
      match finishActivation (.ok a) m s with
      | .inl answer => answer
      | .inr (next, s) => drive host fuel next s
    | .err e m =>
      match finishActivation (.error e) m s with
      | .inl answer => answer
      | .inr (next, s) => drive host fuel next s
    | .call f args m k =>
      let m := m.chargeCall
      let frame := Pending.call k { calls := m.calls, handler := m.handler, func := callTop m }
      drive host fuel (Execute.callFunction host f args m) { s with frames := frame :: s.frames }
    | .resume co args m k =>
      match resumeProblem m co with
      | some msg => drive host fuel (k (.error (.ofString msg)) m) s
      | none =>
        let t := m.heap.threads.getD co default
        let self := m.current
        let frame := Pending.resumer k co self m.threadState
        let level := m.cLevel + 1
        let m := (m.setStatus self .normal).setStatus co .running
        if !t.started then
          let m := m.enter co { stack := #[.val .nil], cLevel := level }
          let m := m.updateThread co fun t => { t with started := true }
          match args with
          | .ok vals =>
            drive host fuel (.call t.body vals m finishWith) { s with frames := frame :: s.frames }
          | .error e => drive host fuel (.err e m) { s with frames := frame :: s.frames }
        else
          let m := m.enter co { t.saved with cLevel := level, nonYieldable := 0 }
          match s.parked.getD co none with
          | some p =>
            drive host fuel (p.k args m)
              { frames := p.frames ++ frame :: s.frames, parked := s.parked.set! co none }
          | none => drive host fuel (.ok [] m) { s with frames := frame :: s.frames }
    | .yield vals m k =>
      match splitAtResumer s.frames with
      | (inner, .resumer rk _ self saved :: rest) =>
        let co := m.current
        let parked := if co < s.parked.size then s.parked
          else s.parked ++ Array.replicate (co + 1 - s.parked.size) none
        let parked := parked.set! co (some { frames := inner, k })
        let m := m.updateThread co fun t => { t with status := .suspended, saved := m.threadState }
        let m := (m.enter self saved).setStatus self .running
        drive host fuel (rk (.ok vals) m) { frames := rest, parked }
      | _ =>
        drive host fuel (k (.error (.ofString "attempt to yield from outside a coroutine")) m) s

/-- Steps for the scheduler: more than any run can use. -/
@[noinline] def schedulerFuel : Nat := Nat.pow 2 50

/-- Runs a computation that makes no requests of the scheduler. -/
def runLuaM {α : Type} (act : LuaM σ α) (m : Machine σ) :
    Except Value α × Machine σ :=
  match act m with
  | .ok a m' => (.ok a, m')
  | .err e m' => (.error e, m')
  | _ => (.error (.ofString "unexpected suspension"), m)

/-- A fresh machine: the main coroutine running at nesting level one, its stack holding the
slot of the embedding program's call and of its message handler, the libraries not yet
open. -/
def Machine.init (state : σ) (budget : Option Nat) : Machine σ :=
  { heap := { threads := #[{ body := .nil, status := .running, started := true }] },
    stack := #[.val .nil, .val .nil], cLevel := 1, timed := budget.isSome,
    stepsLeft := budget.getD 0, state }

/-- Runs a computation that gives values through the scheduler, so that it may call
functions. -/
def runValues (host : Host σ) (act : LuaM σ (List Value)) (m : Machine σ) :
    Except Value (List Value) × Machine σ :=
  drive host schedulerFuel (act m) {}

/-- Calls a function from the embedding program with arguments, as a protected call whose
message handler adds a traceback to the error: the results or the error, after the
to-be-closed variables the error left pending are closed. -/
def callFunction (host : Host σ) (f : Value) (args : List Value) (m : Machine σ) :
    Except Value (List Value) × Machine σ :=
  let level := callTop m
  let call : LuaM σ (List Value) := do
    modify fun m => { m with handler := .traceback }
    let r ← attempt (callValue f args)
    let r ← match r with
      | .ok vs => pure (Except.ok vs)
      | .error e => do pure (Except.error (← closePendingAfter level e))
    modify fun m => { m with handler := .none }
    rethrow r
  runValues host call m

/-- Runs a compiled chunk with no arguments, its closure given `nupvals` upvalues, the first
of them its `_ENV`, the global table. -/
def runProto (host : Host σ) (p : Code.Proto) (nupvals : Nat) (m : Machine σ) :
    Except Value (List Value) × Machine σ :=
  match runLuaM (Library.closeChunk p nupvals (.table m.globals)) m with
  | (.ok f, m) => callFunction host f [] m
  | (.error e, m) => (.error e, m)

end CounterCache.Lua
