import CounterCache.Script.Template
import CounterCache.Store.Transaction

/-!
# Running a template on a transaction

`Template.run` checks the key and argument counts, then runs the steps in order on a
transaction. A frame carries the loop's current key, the changed-flag of the last step and the
status to answer.

A floor-guarded decrement compares the current value with the delta and then adds the delta's
negation, taken in the signed 64-bit range: the least integer is its own negation there.
-/

namespace CounterCache

/-- What a template run carries from step to step. -/
structure Frame where
  /-- The key of the enclosing per-key loop. -/
  current : Option String := none
  /-- The previous step changed something. -/
  last : Bool := false
  /-- The status answered at the end. -/
  status : Int := 0
  deriving Repr, Inhabited

/-- How a step ends: on to the next step, or a final code. -/
inductive Flow where
  | next
  | ret (code : Int)
  deriving DecidableEq, Repr, Inhabited

/-- The keys and arguments a template runs with. -/
structure Invocation where
  keys : List String
  args : List String
  deriving Repr, Inhabited

namespace Invocation

/-- The key at a slot. -/
def key (inv : Invocation) (f : Frame) : KeySlot → Except Error String
  | .slot i => match inv.keys[i]? with
    | some k => .ok k
    | none => .error (.internal ("unbound key slot At(" ++ toString i ++ ")"))
  | .current => match f.current with
    | some k => .ok k
    | none => .error (.internal "unbound key slot Current")

/-- The argument at a position. -/
def arg (inv : Invocation) (i : Nat) : Except Error String :=
  match inv.args[i]? with
  | some a => .ok a
  | none => .error (.internal ("unbound argument " ++ toString i))

/-- The text of an operand. -/
def value (inv : Invocation) : Operand → Except Error String
  | .arg i => inv.arg i
  | .lit s => .ok s
  | .int n => .ok (toString n)
  | .argSuffix i suffix => return (← inv.arg i) ++ suffix

/-- The integer of an operand, read as a command operand is. -/
def int (inv : Invocation) (o : Operand) : Except Error Int := do
  parseInt (← inv.value o)

end Invocation

namespace Template

open Transaction in
mutual
/-- Runs steps in order until one answers a final code. -/
def runSteps (inv : Invocation) : List Step → Frame → TxnM (Flow × Frame)
  | [], f => pure (.next, f)
  | s :: rest, f => do
    let (flow, f) ← runStep inv s f
    match flow with
    | .ret c => pure (.ret c, f)
    | .next => runSteps inv rest f
  termination_by steps => (sizeOf steps, 0)

/-- Runs one step. -/
def runStep (inv : Invocation) : Step → Frame → TxnM (Flow × Frame)
  | .hsetnx key field value, f => do
    let k ← inv.key f key
    let fl ← inv.value field
    let v ← inv.value value
    pure (.next, { f with last := ← hsetnx k fl v })
  | .hset key field value, f => do
    let k ← inv.key f key
    let fl ← inv.value field
    let v ← inv.value value
    let _ ← hset k fl v
    pure (.next, { f with last := true })
  | .hincrIfExists key field delta, f => do
    let k ← inv.key f key
    let present ← exists? k
    if present then
      let _ ← hincrby k (← inv.value field) (← inv.int delta)
    pure (.next, { f with last := present })
  | .hdecrFloor key field delta, f => do
    let k ← inv.key f key
    let fl ← inv.value field
    let d ← inv.int delta
    let current ← match ← hget k fl with
      | some v => liftM (m := Except Error) (parseInt v)
      | none => pure 0
    let go := (← exists? k) && decide (current ≥ d)
    if go then
      let _ ← hincrby k fl (Text.negI64 d)
    pure (.next, { f with last := go })
  | .expire key seconds, f => do
    let k ← inv.key f key
    pure (.next, { f with last := ← expire k (← inv.int seconds) })
  | .zadd key member score nx, f => do
    let k ← inv.key f key
    let m ← inv.value member
    pure (.next, { f with last := ← zadd k m (← inv.int score) nx })
  | .zincrIfMember key member delta, f => do
    let k ← inv.key f key
    let m ← inv.value member
    let present := (← zscore k m).isSome
    if present then
      let _ ← zincrby k m (← inv.int delta)
    pure (.next, { f with last := present })
  | .zdecrFloor key member delta, f => do
    let k ← inv.key f key
    let m ← inv.value member
    let d ← inv.int delta
    let go := match ← zscore k m with
      | some s => decide (s ≥ d)
      | none => false
    if go then
      let _ ← zincrby k m (Text.negI64 d)
    pure (.next, { f with last := go })
  | .zrem key member, f => do
    let k ← inv.key f key
    pure (.next, { f with last := ← zrem k (← inv.value member) })
  | .sadd key member, f => do
    let k ← inv.key f key
    pure (.next, { f with last := ← sadd k (← inv.value member) })
  | .srem key member, f => do
    let k ← inv.key f key
    pure (.next, { f with last := ← srem k (← inv.value member) })
  | .del key, f => do
    let k ← inv.key f key
    pure (.next, { f with last := ← del k })
  | .ret code, f => pure (.ret code, f)
  | .setStatus code, f => pure (.next, { f with status := code })
  | .when cond body, f => do
    let holds ← match cond with
      | .argEq i lit => pure ((← inv.value (.arg i)) == lit)
      | .changed => pure f.last
      | .unchanged => pure !f.last
      | .present key => do exists? (← inv.key f key)
      | .absent key => do
        let present ← exists? (← inv.key f key)
        pure !present
    if holds then runSteps inv body f else pure (.next, f)
  | .forEachKey first body, f => do
    let (flow, f') ← runForEach inv body (inv.keys.drop first) f
    pure (flow, { f' with current := f.current })
  termination_by step => (sizeOf step, 0)

/-- Runs a loop body once per key, binding the loop's current key. -/
def runForEach (inv : Invocation) (body : List Step) :
    List String → Frame → TxnM (Flow × Frame)
  | [], f => pure (.next, f)
  | k :: ks, f => do
    let (flow, f) ← runSteps inv body { f with current := some k }
    match flow with
    | .ret c => pure (.ret c, f)
    | .next => runForEach inv body ks f
  termination_by ks => (sizeOf body, ks.length + 1)
end

/-- Runs a template natively: the key and argument counts are checked, then the steps run; the
answer is the first final code reached, or the status. -/
def run (t : Template) (keys args : List String) : TxnM Int := do
  liftM (m := Except Error) (t.checkArity keys args)
  let (flow, f) ← runSteps ⟨keys, args⟩ t.steps {}
  pure <| match flow with
    | .ret c => c
    | .next => f.status

end Template

end CounterCache
