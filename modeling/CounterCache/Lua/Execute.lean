import CounterCache.Lua.Library.Registry

/-!
# Running compiled functions

The register machine that runs a Lua function's instructions. A running Lua function owns a
frame of the coroutine's stack: its registers start after the slot of the function itself, a
function taking extra arguments keeps them just below its registers, and the calls it makes
place the called function and the arguments in its own free registers. The machine runs one
frame at a time, at one instruction:

* A call of a Lua function opens the callee's frame above the caller's and runs it in the same
  loop; its return moves the results down to where the called function was and takes up the
  caller at the instruction after the call. A tail call replaces the running frame. A call of a
  library function runs it directly, with its own entry on the call stack.
* A value that is neither a function nor has a `__call` metamethod cannot be called; one that
  has is called with the value in front of the arguments.
* A call that would take the stack beyond a million slots fails with `stack overflow`: a Lua
  function needs room for its arguments and registers, a library function twenty slots.
* Operations on tables without metatables and arithmetic on numbers are done in place; anything
  that may call a metamethod or fail runs as a computation of the machine, with the frame on the
  call stack at its current instruction, so that a failure is placed and named by it. When such
  a computation needs the scheduler (a metamethod is a call like any other), the frame stops,
  and the continuation of the request takes it up again.
* Local variables that closures capture become cells shared with the closures; when their
  scope ends, the slots get their values back. A to-be-closed variable is remembered with its
  slot, and its `__close` metamethod runs when its scope ends.

Every instruction counts as a step of the running coroutine; every thousand steps the time
limit is checked, and once it has passed the script fails with the time-limit error, again at
every later check.
-/

namespace CounterCache.Lua

namespace Execute

variable {σ : Type}

open Machine
open Code (Proto Op Instr)

/-- What the machine does after an instruction: go on running a frame at an instruction, or
stop and hand a step to whoever runs the machine (a result, an error, a request). -/
inductive Next (σ : Type) where
  | cont (fr : LuaFrame) (pc : Nat) (m : Machine σ)
  | stop (s : Step σ (List Value))

/-- What runs a frame from an instruction: the machine's loop, given to the instructions that
must stop and be taken up again later. -/
abbrev Resume (σ : Type) := LuaFrame → Nat → Machine σ → Step σ (List Value)

/-! ## Registers, constants and upvalues -/

/-- A register's value. -/
@[inline] def reg (m : Machine σ) (fr : LuaFrame) (r : Nat) : Value := slotValue m (fr.base + r)

/-- Assigns a register, into its cell if a closure shares it. -/
@[inline] def setReg (m : Machine σ) (fr : LuaFrame) (r : Nat) (v : Value) : Machine σ :=
  setSlot m (fr.base + r) v

/-- Assigns consecutive registers from `r`. -/
def setRegs (m : Machine σ) (fr : LuaFrame) (r : Nat) : List Value → Machine σ
  | [] => m
  | v :: vs => setRegs (setReg m fr r v) fr (r + 1) vs

/-- Puts a value in a stack slot as a value of its own, whatever the slot held. -/
def putSlot (m : Machine σ) (i : Nat) (v : Value) : Machine σ :=
  if i < m.stack.size then { m with stack := m.stack.set! i (.val v) }
  else { m with stack := (growStack m.stack (i + 1)).set! i (.val v) }

/-- Puts values in consecutive stack slots from `i`. -/
def putSlots (m : Machine σ) (i : Nat) : List Value → Machine σ
  | [] => m
  | v :: vs => putSlots (putSlot m i v) (i + 1) vs

/-- Empties the slots of a stack from `lo` up to `hi`, growing it to hold them. -/
def clearRange (stack : Array Slot) (lo hi : Nat) : Array Slot :=
  go (growStack stack hi) lo (hi - lo)
where
  /-- Empties `k` slots from `i`. -/
  go (s : Array Slot) (i : Nat) : Nat → Array Slot
    | 0 => s
    | k + 1 => go (s.set! i (.val .nil)) (i + 1) k

/-- Empties the stack slots from `lo` up to `hi`: a new frame's registers start as `nil`. -/
def clearSlots (m : Machine σ) (lo hi : Nat) : Machine σ :=
  { m with stack := clearRange m.stack lo hi }

/-- The values of `n` consecutive registers from `r`. -/
def regs (m : Machine σ) (fr : LuaFrame) (r n : Nat) : List Value :=
  (List.range n).map fun i => reg m fr (r + i)

/-- A constant of the running function. -/
@[inline] def konst (fr : LuaFrame) (i : Nat) : Value := fr.proto.consts.getD i .nil

/-- A register or a constant, as the instruction's flag says. -/
@[inline] def rk (m : Machine σ) (fr : LuaFrame) (k : Bool) (c : Nat) : Value :=
  if k then konst fr c else reg m fr c

/-- An upvalue's value. -/
@[inline] def upval (m : Machine σ) (fr : LuaFrame) (i : Nat) : Value :=
  m.heap.cells.getD (fr.upvals.getD i 0) .nil

/-- Assigns an upvalue. -/
def setUpval (m : Machine σ) (fr : LuaFrame) (i : Nat) (v : Value) : Machine σ :=
  { m with heap := { m.heap with cells := m.heap.cells.set! (fr.upvals.getD i 0) v } }

/-- The cell a closure captures for a stack slot: the slot's cell, made on first capture. -/
def captureSlot (m : Machine σ) (i : Nat) : Nat × Machine σ :=
  match m.stack[i]? with
  | some (.cell c) => (c, m)
  | _ =>
    let v := slotValue m i
    let c := m.heap.cells.size
    let m := { m with heap := { m.heap with cells := m.heap.cells.push v } }
    let m := putSlot m i v
    (c, { m with stack := m.stack.set! i (.cell c) })

/-- Detaches the slots from `lo` up to `hi` from the closures that share them: each slot that
is a cell gets the cell's value back. -/
def closeCells (m : Machine σ) (lo hi : Nat) : Machine σ :=
  (List.range (hi - lo)).foldl (fun m i =>
    match m.stack[lo + i]? with
    | some (.cell c) => { m with stack := m.stack.set! (lo + i) (.val (m.heap.cells.getD c .nil)) }
    | _ => m) m

/-- Values adjusted to `n`: cut, or padded with `nil`. -/
def adjust (vs : List Value) (n : Nat) : List Value :=
  (vs.take n) ++ List.replicate (n - vs.length) .nil

/-! ## Tables without metamethods -/

/-- The key `__index`. -/
def indexKey : Value := .ofString "__index"

/-- Reads a table field without metamethods, with the table's metatable; an integer read may
move the table's length hint. -/
def lookupRaw (m : Machine σ) (id : Nat) (k : Value) : Value × Option Nat × Machine σ :=
  let t := m.heap.tables.getD id {}
  let (p, l) := t.place k
  let v := t.valueAt p
  let mt := t.metatable
  match l with
  | none => (v, mt, m)
  | some _ =>
    (v, mt, { m with heap := { m.heap with tables := m.heap.tables.modify id (·.withLimit l) } })

/-- Reads `t[k]` (`k` normalized) when no metamethod can be involved: a present field of a
table, or an absent one of a table whose metatable has no `__index`. None when a metamethod may
be involved; the machine is handed back either way, so that it stays the only reference to its
parts. -/
def fastGet (m : Machine σ) (t k : Value) : Option Value × Machine σ :=
  match t with
  | .table id =>
    let (v, mt, m) := lookupRaw m id k
    if !v.isNil then (some v, m)
    else
      match mt with
      | none => (some .nil, m)
      | some mt =>
        if ((m.heap.tables.getD mt {}).get indexKey).isNil then (some .nil, m) else (none, m)
  | _ => (none, m)

/-- Stores `t[k] = v` when no metamethod can be involved: into a table without a metatable (the
key neither `nil` nor NaN), or over a present field. Whether it stored; the machine is handed
back either way. -/
def fastSet (m : Machine σ) (t k v : Value) : Bool × Machine σ :=
  match t with
  | .table id =>
    let mt := (m.heap.tables.getD id {}).metatable
    let valid := match k with
      | .nil => false
      | .num f => !f.isNaN
      | _ => true
    let k := k.normKey
    let store (m : Machine σ) : Machine σ :=
      { m with heap := { m.heap with tables := m.heap.tables.modify id (·.set k v) } }
    match mt with
    | none => if valid then (true, store m) else (false, m)
    | some _ =>
      let (x, _, m) := lookupRaw m id k
      if x.isNil then (false, m) else (true, store m)
  | _ => (false, m)

/-- Stores positional values at `start + 1, start + 2, …` of a table, directly in its array
part, which grows to hold them. -/
def storeList (m : Machine σ) (id start : Nat) (vals : List Value) : Machine σ :=
  { m with heap := { m.heap with tables := m.heap.tables.modify id fun t =>
    let last := start + vals.length
    let t := if last > t.array.size then t.resizeArray last else t
    let array := (vals.foldl (fun (a, i) v => (a.set! i v, i + 1)) (t.array, start)).1
    { t with array } } }

/-! ## Numbers -/

/-- An arithmetic or bitwise operator on two numbers, when no metamethod is needed: bitwise
operators on integers (or doubles equal to one), arithmetic ones on any numbers. -/
def arithNumbers (op : ArithOp) (x y : Value) : Option (Except ArithError Value) :=
  if op.isBitwise then
    match x.toInteger?, y.toInteger? with
    | some i, some j => some (.ok (.int (bitwise op i j)))
    | _, _ => none
  else
    match x.numeral?, y.numeral? with
    | some a, some b => some ((arith op a b).map Value.ofNumeral)
    | _, _ => none

/-- `arithNumbers`, with the wrapping sum, difference and product of two integers taken
directly. -/
@[inline] def arithFast (op : ArithOp) (x y : Value) : Option (Except ArithError Value) :=
  match op, x, y with
  | .add, .int i, .int j => some (.ok (.int (wrap64 (i + j))))
  | .sub, .int i, .int j => some (.ok (.int (wrap64 (i - j))))
  | .mul, .int i, .int j => some (.ok (.int (wrap64 (i * j))))
  | _, _, _ => arithNumbers op x y

theorem arithFast_eq (op : ArithOp) (x y : Value) : arithFast op x y = arithNumbers op x y := by
  unfold arithFast
  split <;> simp [arithNumbers, ArithOp.isBitwise, Value.numeral?, arith, Except.map,
    Value.ofNumeral]

/-- The value of a small integer operand: an integer, or a double when the instruction says. -/
def immediate (sb : Int) (isFloat : Bool) : Value :=
  if isFloat then .num (Numeral.int sb).toDouble else .int sb

/-! ## Steps and the time limit -/

/-- The error the time limit raises. -/
def timeoutError : Value := .failure ("runtime error: " ++ timeoutMessage)

/-- Counts an instruction: a step of the time budget, and one of the running coroutine's
thousand before the time limit is checked. -/
@[inline] def countInstruction (m : Machine σ) : Machine σ :=
  let stepsLeft := if m.timed then m.stepsLeft - 1 else m.stepsLeft
  if m.hookCount ≤ 1 then { m with hookCount := hookPeriod, stepsLeft }
  else { m with hookCount := m.hookCount - 1, stepsLeft }

/-- Whether counting the next instruction checks the time limit and finds it passed. -/
@[inline] def timeIsUp (m : Machine σ) : Bool :=
  m.hookCount ≤ 1 && m.timed && m.stepsLeft == 0

/-! ## Calls -/

/-- What a call reaches once `__call` metamethods are followed: a Lua function or another
function with the arguments it gets (and whether they moved), a value that cannot be called, or
a stack too full for the next `__call`. -/
inductive Callee where
  | lua (id : Nat) (cl : Closure) (args : List Value) (shifted : Bool)
  | native (f : Value) (args : List Value) (shifted : Bool)
  | notCallable (f : Value)
  | overflow

/-- A field of a value's metatable, read directly. -/
def metaOf (m : Machine σ) (v : Value) (event : Value) : Value :=
  let mt := match v with
    | .table id => (m.heap.tables.getD id {}).metatable
    | .str _ => some m.stringMeta
    | .file _ => some m.fileMeta
    | _ => none
  match mt with
  | some mt => (m.heap.tables.getD mt {}).get event
  | none => .nil

/-- The key `__call`. -/
def callKey : Value := .ofString "__call"

/-- Follows `__call` metamethods from a called value with arguments ending at stack slot `top`:
each one is called with the value in front of the arguments, which takes one more slot. -/
def resolveCallee (m : Machine σ) : (fuel : Nat) → (top : Nat) → Value → List Value → Bool → Callee
  | 0, _, _, _, _ => .overflow
  | fuel + 1, top, f, args, shifted =>
    match f with
    | .closure id => .lua id (m.heap.closures.getD id default) args shifted
    | .builtin _ | .native _ | .host _ => .native f args shifted
    | _ =>
      if top + 1 > maxStack then .overflow
      else
        let h := metaOf m f callKey
        if h.isNil then .notCallable f
        else resolveCallee m fuel (top + 1) h (f :: args) true

/-- The failure of calling a value that cannot be called, named by the instruction that made
the call. -/
def callError {α : Type} (f : Value) : LuaM σ α := do
  let m ← get
  let name := match m.calls with
    | .lua fr :: _ => fr.proto.callName fr.pc
    | _ => none
  runError ("attempt to call a " ++ (← typeNameOf f) ++ " value" ++ varInfo name)

/-- Runs a library function or a function of the embedding program. -/
def callNative (host : Host σ) (f : Value) (args : List Value) : LuaM σ (List Value) :=
  match f with
  | .builtin b => Library.call { fn := b, args := args.toArray }
  | .native id => Library.callNative id args
  | .host id => host.call id args
  | _ => pure []

/-- The frame of a Lua function called with its function at stack slot `func`. -/
def newFrame (id : Nat) (cl : Closure) (func nargs : Nat) (nresults : Int) : LuaFrame :=
  { closure := id, proto := cl.proto, upvals := cl.upvals, func, base := func + 1,
    top := func + 1 + max nargs cl.proto.numParams, nresults }

/-- Places a Lua function's frame at stack slot `func`: the function and its arguments (unless
they are there already), and its other registers empty. -/
def placeFrame (m : Machine σ) (id : Nat) (p : Proto) (func : Nat) (args : List Value)
    (placed : Bool) : Machine σ :=
  let m := if placed then m else putSlots m func (.closure id :: args)
  clearSlots m (func + 1 + args.length) (func + 1 + max args.length p.maxStack)

/-- Moves results to where the called function was: as many as the caller wants (`-1`: all),
padded with `nil`. -/
def placeResults (m : Machine σ) (func : Nat) (vs : List Value) (wanted : Int) : Machine σ :=
  if wanted < 0 then putSlots m func vs else putSlots m func (adjust vs wanted.toNat)

/-! ## Running instructions -/

section Instructions

variable (host : Host σ) (resume : Resume σ)

/-- Goes on from a `Next` inside a continuation: runs the frame again, or hands on the step. -/
@[inline] def proceed (n : Next σ) : Step σ (List Value) :=
  match n with
  | .cont fr pc m => resume fr pc m
  | .stop s => s

/-- Runs a computation for the running frame, which stands on the call stack at its current
instruction while the computation runs, then goes on as `k` says with the result. -/
@[inline] def slow {α : Type} (fr : LuaFrame) (pc : Nat) (m : Machine σ) (act : LuaM σ α)
    (k : α → Machine σ → Next σ) : Next σ :=
  match act { m with calls := .lua { fr with pc } :: m.calls } with
  | .ok a m' => k a { m' with calls := m'.calls.tail }
  | .err e m' => .stop (.err e m')
  | s => .stop (s.andThen fun a m' => proceed resume (k a { m' with calls := m'.calls.tail }))

/-- Raises an error at the running frame's current instruction. -/
def fail (fr : LuaFrame) (pc : Nat) (m : Machine σ) (act : LuaM σ Unit) : Next σ :=
  slow resume fr pc m act fun _ m => .stop (.err .nil m)

/-- Ends the running frame with results: the scheduler gets them if it started the frame, else
they go where the caller wants them, and the caller goes on after its call. -/
def returnFrom (fr : LuaFrame) (m : Machine σ) (vs : List Value) : Next σ :=
  if fr.fresh then .stop (.ok vs m)
  else
    match m.calls with
    | .lua caller :: rest =>
      let m := placeResults { m with calls := rest } fr.func vs fr.nresults
      let caller := if fr.nresults < 0 then { caller with top := fr.func + vs.length } else caller
      .cont caller (caller.pc + 1) m
    | _ => .stop (.ok vs m)

/-- Goes on after a library function called from the running frame at instruction `pc`, from
stack slot `func`, returned `vs`: its call entry and the caller's are taken off the call stack,
and the results end the running frame for a tail call, else go where the caller wants them. -/
def nativeDone (fr : LuaFrame) (pc func : Nat) (nresults : Int) (tail : Bool)
    (vs : List Value) (m : Machine σ) : Next σ :=
  let m := { m with calls := m.calls.drop 2 }
  if tail then returnFrom fr m vs
  else
    let m := placeResults m func vs nresults
    let fr := if nresults < 0 then { fr with top := func + vs.length } else fr
    .cont fr (pc + 1) m

/-- Calls a function from the running frame at instruction `pc`, its value at stack slot
`func` followed by its arguments: a Lua function runs in a frame of its own above the caller's
(in place of the caller for a tail call); any other function runs directly and its results go
to the caller, or for a tail call end the running frame. -/
def invoke (fr : LuaFrame) (pc : Nat) (m : Machine σ) (func : Nat) (f : Value)
    (args : List Value) (nresults : Int) (tail : Bool) : Next σ :=
  let nargs := args.length
  match resolveCallee m maxStack (func + 1 + nargs) f args false with
  | .notCallable g => fail resume fr pc m (callError g)
  | .overflow => fail resume fr pc m (runError "stack overflow")
  | .lua id cl args shifted =>
    let p := cl.proto
    let nargs := args.length
    let room := if tail then p.maxStack - (fr.base - 1 - fr.func) else p.maxStack
    if func + 1 + nargs + room > maxStack then fail resume fr pc m (runError "stack overflow")
    else if tail then
      let m := placeFrame m id p fr.func args false
      let callee := { newFrame id cl fr.func nargs fr.nresults with tail := true, fresh := fr.fresh }
      .cont callee 0 m
    else
      let m := placeFrame m id p func args (!shifted)
      .cont (newFrame id cl func nargs nresults) 0 { m with calls := .lua { fr with pc } :: m.calls }
  | .native g args _ =>
    let nargs := args.length
    if func + 1 + nargs + minStack > maxStack then fail resume fr pc m (runError "stack overflow")
    else
      let m := { m with calls := .native g func (func + 1 + nargs) :: .lua { fr with pc } :: m.calls }
      match callNative host g args m with
      | .ok vs m => nativeDone fr pc func nresults tail vs m
      | .err e m => .stop (.err e m)
      | s => .stop (s.andThen fun vs m => proceed resume (nativeDone fr pc func nresults tail vs m))

/-- Where a test at `pc` goes on: to the instruction after its jump when the test fails (the
condition differs from `k`), else to the jump's target. -/
@[inline] def testTarget (fr : LuaFrame) (pc : Nat) (cond k : Bool) : Nat :=
  if cond != k then pc + 2
  else ((pc + 2 : Int) + (fr.proto.code.getD (pc + 1) Instr.invalid).sJ).toNat

/-- Goes to the instruction after a test's jump when the test fails, or takes the jump. -/
def condJump (fr : LuaFrame) (pc : Nat) (m : Machine σ) (cond k : Bool) : Next σ :=
  .cont fr (testTarget fr pc cond k) m

/-- The integer a `for` limit clips to, for a loop from `init` by `step`; none when the loop does
not run. -/
def forLimit (init step : Int) (lim : Numeral) : Option Int :=
  let limit : Option Int := match lim with
    | .int l => some l
    | .flt f =>
      match (if step < 0 then Float.ceilInt? f.toFloat else Float.floorInt? f.toFloat) with
      | some l =>
        if InRange l then some l
        else if l > 0 then (if step < 0 then none else some (Int.pow 2 63 - 1))
        else (if step > 0 then none else some (-(Int.pow 2 63)))
      | none =>
        if 0 < f then (if step < 0 then none else some (Int.pow 2 63 - 1))
        else (if step > 0 then none else some (-(Int.pow 2 63)))
  match limit with
  | some l => if (if step > 0 then init > l else init < l) then none else some l
  | none => none

/-- Why a numeric `for` loop cannot start: a control value that is not a number (which one, and
the value), or a zero step. -/
inductive ForError where
  | notNumber (what : String) (v : Value)
  | zeroStep

/-- Starts a numeric `for` loop from its start, limit and step: on integers when the start and
step are integers (the limit replaced by the number of rounds left, as an unsigned count), else on
doubles. The values of the loop's four registers (internal index, limit or count, step, control
variable) for the first round, none when the loop does not run, or its failure. -/
def forStart (init lim step : Value) : Except ForError (Option (Value × Value × Value × Value)) :=
  match init, step with
  | .int i, .int s =>
    if s == 0 then .error .zeroStep
    else
      match lim.toNumeral? with
      | none => .error (.notNumber "limit" lim)
      | some l =>
        match forLimit i s l with
        | none => .ok none
        | some limit =>
          let count : Nat :=
            if s > 0 then ((limit - i) / s).toNat
            else ((i - limit) / (-(s + 1) + 1)).toNat
          .ok (some (.int i, .int (wrap64 count), .int s, .int i))
  | _, _ =>
    match lim.toNumeral? with
    | none => .error (.notNumber "limit" lim)
    | some l =>
      match step.toNumeral? with
      | none => .error (.notNumber "step" step)
      | some st =>
        match init.toNumeral? with
        | none => .error (.notNumber "initial value" init)
        | some ini =>
          let (ini, l, st) := (ini.toDouble, l.toDouble, st.toDouble)
          if st == 0 then .error .zeroStep
          else if (if 0 < st then l < ini else ini < l) then .ok none
          else .ok (some (.num ini, .num l, .num st, .num ini))

/-- One more round of a numeric `for` loop, from its internal index, count or limit, and step:
the new values of the index, the count or limit, and the control variable, or none when the
loop ends. -/
def forNext (idx lim step : Value) : Option (Value × Value × Value) :=
  match step with
  | .int s =>
    let count := match lim with
      | .int c => (c % Int.pow 2 64).toNat
      | _ => 0
    if count == 0 then none
    else
      let next := match idx with
        | .int i => wrap64 (i + s)
        | _ => 0
      some (.int next, .int (wrap64 (count - 1)), .int next)
  | .num s =>
    match idx, lim with
    | .num i, .num limit =>
      let next := i + s
      if (if 0 < s then next ≤ limit else limit ≤ next) then some (.num next, lim, .num next)
      else none
    | _, _ => none
  | _ => none

/-- Marks register `r` as a to-be-closed variable: `nil` and `false` need no closing, anything
else must have a `__close` metamethod. -/
def markToClose (fr : LuaFrame) (pc : Nat) (m : Machine σ) (r : Nat) : Next σ :=
  let v := reg m fr r
  if !v.truthy then .cont fr (pc + 1) m
  else if (metaOf m v (.ofString "__close")).isNil then
    let name := (fr.proto.localName (r + 1) pc).getD "?"
    fail resume fr pc m (runError ("variable '" ++ name ++ "' got a non-closable value"))
  else .cont fr (pc + 1) { m with tbc := (fr.base + r, v) :: m.tbc }

/-- Ends the scope of the variables from stack slot `level` up: closures no longer share them,
and the to-be-closed ones among them are closed. -/
def closeFrom (fr : LuaFrame) (pc : Nat) (m : Machine σ) (level : Nat)
    (k : Machine σ → Next σ) : Next σ :=
  let m := closeCells m level (fr.base + fr.proto.maxStack)
  match m.tbc with
  | (l, _) :: _ => if l ≥ level then slow resume fr pc m (closePending level) fun _ m => k m else k m
  | [] => k m

/-- Runs the instruction at `pc` of the running frame. -/
def step (fr : LuaFrame) (pc : Nat) (m : Machine σ) : Next σ :=
  let ops := fr.proto.ops
  if h : pc < ops.size then
  match ops[pc] with
  | .move a b => .cont fr (pc + 1) (setReg m fr a (reg m fr b))
  | .loadI a sbx => .cont fr (pc + 1) (setReg m fr a (.int sbx))
  | .loadF a sbx => .cont fr (pc + 1) (setReg m fr a (immediate sbx true))
  | .loadK a bx => .cont fr (pc + 1) (setReg m fr a (konst fr bx))
  | .loadKX a =>
    let ax := (fr.proto.code.getD (pc + 1) Instr.invalid).ax
    .cont fr (pc + 2) (setReg m fr a (konst fr ax))
  | .loadFalse a => .cont fr (pc + 1) (setReg m fr a (.bool false))
  | .lFalseSkip a => .cont fr (pc + 2) (setReg m fr a (.bool false))
  | .loadTrue a => .cont fr (pc + 1) (setReg m fr a (.bool true))
  | .loadNil a b => .cont fr (pc + 1) (setRegs m fr a (List.replicate (b + 1) .nil))
  | .getUpval a b => .cont fr (pc + 1) (setReg m fr a (upval m fr b))
  | .setUpval a b => .cont fr (pc + 1) (setUpval m fr b (reg m fr a))
  | .getTabUp a b c =>
    let t := upval m fr b
    let key := konst fr c
    match fastGet m t key with
    | (some v, m) => .cont fr (pc + 1) (setReg m fr a v)
    | (none, m) => slow resume fr pc m (index t key (.upval b)) fun v m => .cont fr (pc + 1) (setReg m fr a v)
  | .getTable a b c =>
    let t := reg m fr b
    let key := reg m fr c
    match fastGet m t key.normKey with
    | (some v, m) => .cont fr (pc + 1) (setReg m fr a v)
    | (none, m) => slow resume fr pc m (index t key (.reg b)) fun v m => .cont fr (pc + 1) (setReg m fr a v)
  | .getI a b c =>
    let t := reg m fr b
    match fastGet m t (.int c) with
    | (some v, m) => .cont fr (pc + 1) (setReg m fr a v)
    | (none, m) => slow resume fr pc m (index t (.int c) (.reg b)) fun v m => .cont fr (pc + 1) (setReg m fr a v)
  | .getField a b c =>
    let t := reg m fr b
    let key := konst fr c
    match fastGet m t key with
    | (some v, m) => .cont fr (pc + 1) (setReg m fr a v)
    | (none, m) => slow resume fr pc m (index t key (.reg b)) fun v m => .cont fr (pc + 1) (setReg m fr a v)
  | .setTabUp a b c k =>
    let t := upval m fr a
    let key := konst fr b
    let v := rk m fr k c
    match fastSet m t key v with
    | (true, m) => .cont fr (pc + 1) m
    | (false, m) => slow resume fr pc m (setIndex t key v (.upval a)) fun _ m => .cont fr (pc + 1) m
  | .setTable a b c k =>
    let t := reg m fr a
    let key := reg m fr b
    let v := rk m fr k c
    match fastSet m t key v with
    | (true, m) => .cont fr (pc + 1) m
    | (false, m) => slow resume fr pc m (setIndex t key v (.reg a)) fun _ m => .cont fr (pc + 1) m
  | .setI a b c k =>
    let t := reg m fr a
    let v := rk m fr k c
    match fastSet m t (.int b) v with
    | (true, m) => .cont fr (pc + 1) m
    | (false, m) => slow resume fr pc m (setIndex t (.int b) v (.reg a)) fun _ m => .cont fr (pc + 1) m
  | .setField a b c k =>
    let t := reg m fr a
    let key := konst fr b
    let v := rk m fr k c
    match fastSet m t key v with
    | (true, m) => .cont fr (pc + 1) m
    | (false, m) => slow resume fr pc m (setIndex t key v (.reg a)) fun _ m => .cont fr (pc + 1) m
  | .newTable a b c k =>
    let hash := if b > 0 then Nat.pow 2 (b - 1) else 0
    let size := if k then c + (fr.proto.code.getD (pc + 1) Instr.invalid).ax * (Code.maxArgC + 1)
      else c
    let id := m.heap.tables.size
    let m := { m with heap := { m.heap with tables := m.heap.tables.push (Table.create size hash) } }
    .cont fr (pc + 2) (setReg m fr a (.table id))
  | .method a b c k =>
    let t := reg m fr b
    let key := rk m fr k c
    let m := setReg m fr (a + 1) t
    match fastGet m t key with
    | (some v, m) => .cont fr (pc + 1) (setReg m fr a v)
    | (none, m) => slow resume fr pc m (index t key (.reg b)) fun v m => .cont fr (pc + 1) (setReg m fr a v)
  | .addI a b sc =>
    match arithFast .add (reg m fr b) (.int sc) with
    | some (.ok v) => .cont fr (pc + 2) (setReg m fr a v)
    | some (.error e) => fail resume fr pc m (runError e.message)
    | none => .cont fr (pc + 1) m
  | .arithK op a b c =>
    match arithFast op (reg m fr b) (konst fr c) with
    | some (.ok v) => .cont fr (pc + 2) (setReg m fr a v)
    | some (.error e) => fail resume fr pc m (runError e.message)
    | none => .cont fr (pc + 1) m
  | .shrI a b sc =>
    match (reg m fr b).toInteger? with
    | some i => .cont fr (pc + 2) (setReg m fr a (.int (bitwise .shr i sc)))
    | none => .cont fr (pc + 1) m
  | .shlI a b sc =>
    match (reg m fr b).toInteger? with
    | some i => .cont fr (pc + 2) (setReg m fr a (.int (bitwise .shl sc i)))
    | none => .cont fr (pc + 1) m
  | .arith op a b c =>
    match arithFast op (reg m fr b) (reg m fr c) with
    | some (.ok v) => .cont fr (pc + 2) (setReg m fr a v)
    | some (.error e) => fail resume fr pc m (runError e.message)
    | none => .cont fr (pc + 1) m
  | .mmBin a b c =>
    let target := (fr.proto.code.getD (pc - 1) Instr.invalid).a
    let op := ArithOp.ofIndex (c - 6)
    slow resume fr pc m (arithMeta op (reg m fr a) (reg m fr b) (.reg a) (.reg b)) fun v m =>
      .cont fr (pc + 1) (setReg m fr target v)
  | .mmBinI a sb c flip =>
    let target := (fr.proto.code.getD (pc - 1) Instr.invalid).a
    let op := ArithOp.ofIndex (c - 6)
    let x := reg m fr a
    let act := if flip then arithMeta op (.int sb) x .none (.reg a)
      else arithMeta op x (.int sb) (.reg a) .none
    slow resume fr pc m act fun v m => .cont fr (pc + 1) (setReg m fr target v)
  | .mmBinK a b c flip =>
    let target := (fr.proto.code.getD (pc - 1) Instr.invalid).a
    let op := ArithOp.ofIndex (c - 6)
    let x := reg m fr a
    let kv := konst fr b
    let act := if flip then arithMeta op kv x .none (.reg a) else arithMeta op x kv (.reg a) .none
    slow resume fr pc m act fun v m => .cont fr (pc + 1) (setReg m fr target v)
  | .unm a b =>
    match reg m fr b with
    | .int i => .cont fr (pc + 1) (setReg m fr a (.int (wrap64 (-i))))
    | .num f => .cont fr (pc + 1) (setReg m fr a (.num f.neg))
    | v => slow resume fr pc m (negateValue v (.reg b)) fun r m => .cont fr (pc + 1) (setReg m fr a r)
  | .bnot a b =>
    let v := reg m fr b
    match v.toInteger? with
    | some i => .cont fr (pc + 1) (setReg m fr a (.int (complement i)))
    | none => slow resume fr pc m (complementValue v (.reg b)) fun r m => .cont fr (pc + 1) (setReg m fr a r)
  | .lnot a b => .cont fr (pc + 1) (setReg m fr a (.bool !(reg m fr b).truthy))
  | .len a b =>
    match reg m fr b with
    | .str s => .cont fr (pc + 1) (setReg m fr a (.int s.size))
    | v => slow resume fr pc m (lengthOf v (.reg b)) fun r m => .cont fr (pc + 1) (setReg m fr a r)
  | .concat a n =>
    let vals := regs m fr a n
    match vals.mapM Value.bytes? with
    | some parts =>
      .cont fr (pc + 1) (setReg m fr a (.str (parts.foldl (· ++ ·) .empty)))
    | none =>
      let ops := (List.range n).map fun i => Operand.reg (a + i)
      slow resume fr pc m (concatValues vals.toArray ops.toArray) fun r m =>
        .cont fr (pc + 1) (setReg m fr a r)
  | .close a => closeFrom resume fr pc m (fr.base + a) fun m => .cont fr (pc + 1) m
  | .tbc a => markToClose resume fr pc m a
  | .jmp sj => .cont fr ((pc + 1 : Int) + sj).toNat m
  | .eq a b k =>
    let x := reg m fr a
    let y := reg m fr b
    match x, y with
    | .table i, .table j =>
      if i == j then condJump fr pc m true k
      else slow resume fr pc m (valuesEqual x y) fun c m => condJump fr pc m c k
    | _, _ => condJump fr pc m (x.rawEq y) k
  | .lt a b k =>
    match reg m fr a, reg m fr b with
    | .int i, .int j => condJump fr pc m (decide (i < j)) k
    | x, y =>
    match x.numeral?, y.numeral?, x, y with
    | some p, some q, _, _ => condJump fr pc m (Numeral.lt p q) k
    | _, _, .str s, .str t => condJump fr pc m (bytesLt s t) k
    | _, _, _, _ => slow resume fr pc m (lessThan x y) fun c m => condJump fr pc m c k
  | .le a b k =>
    match reg m fr a, reg m fr b with
    | .int i, .int j => condJump fr pc m (decide (i ≤ j)) k
    | x, y =>
    match x.numeral?, y.numeral?, x, y with
    | some p, some q, _, _ => condJump fr pc m (Numeral.le p q) k
    | _, _, .str s, .str t => condJump fr pc m (!bytesLt t s) k
    | _, _, _, _ => slow resume fr pc m (lessEqual x y) fun c m => condJump fr pc m c k
  | .eqK a b k => condJump fr pc m ((reg m fr a).rawEq (konst fr b)) k
  | .eqI a sb k =>
    let cond := match reg m fr a with
      | .int i => i == sb
      | .num f => f == (Numeral.int sb).toDouble
      | _ => false
    condJump fr pc m cond k
  | .ltI a sb isF k =>
    match reg m fr a with
    | .int i => condJump fr pc m (decide (i < sb)) k
    | x =>
    match x.numeral? with
    | some p => condJump fr pc m (Numeral.lt p (.int sb)) k
    | none => slow resume fr pc m (lessThan x (immediate sb isF)) fun c m => condJump fr pc m c k
  | .leI a sb isF k =>
    match reg m fr a with
    | .int i => condJump fr pc m (decide (i ≤ sb)) k
    | x =>
    match x.numeral? with
    | some p => condJump fr pc m (Numeral.le p (.int sb)) k
    | none => slow resume fr pc m (lessEqual x (immediate sb isF)) fun c m => condJump fr pc m c k
  | .gtI a sb isF k =>
    match reg m fr a with
    | .int i => condJump fr pc m (decide (sb < i)) k
    | x =>
    match x.numeral? with
    | some p => condJump fr pc m (Numeral.lt (.int sb) p) k
    | none => slow resume fr pc m (lessThan (immediate sb isF) x) fun c m => condJump fr pc m c k
  | .geI a sb isF k =>
    match reg m fr a with
    | .int i => condJump fr pc m (decide (sb ≤ i)) k
    | x =>
    match x.numeral? with
    | some p => condJump fr pc m (Numeral.le (.int sb) p) k
    | none => slow resume fr pc m (lessEqual (immediate sb isF) x) fun c m => condJump fr pc m c k
  | .test a k => condJump fr pc m (reg m fr a).truthy k
  | .testSet a b k =>
    let v := reg m fr b
    if v.truthy != k then .cont fr (pc + 2) m
    else
      let sj := (fr.proto.code.getD (pc + 1) Instr.invalid).sJ
      .cont fr ((pc + 2 : Int) + sj).toNat (setReg m fr a v)
  | .call a b c =>
    let func := fr.base + a
    let nargs := if b != 0 then b - 1 else fr.top - func - 1
    invoke host resume fr pc m func (reg m fr a) (regs m fr (a + 1) nargs) ((c : Int) - 1) false
  | .tailCall a b _ k =>
    let func := fr.base + a
    let nargs := if b != 0 then b - 1 else fr.top - func - 1
    let f := reg m fr a
    let args := regs m fr (a + 1) nargs
    let m := if k then closeCells m fr.base (fr.base + fr.proto.maxStack) else m
    invoke host resume fr pc m func f args fr.nresults true
  | .ret a b _ k =>
    let n := if b != 0 then b - 1 else fr.top - (fr.base + a)
    let vs := regs m fr a n
    if k then closeFrom resume fr pc m fr.base fun m => returnFrom fr m vs
    else returnFrom fr m vs
  | .ret0 => returnFrom fr m []
  | .ret1 a => returnFrom fr m [reg m fr a]
  | .forLoop a bx =>
    match reg m fr (a + 2), reg m fr (a + 1), reg m fr a with
    | .int s, .int c, .int i =>
      if c == 0 then .cont fr (pc + 1) m
      else
        let next := Value.int (wrap64 (i + s))
        .cont fr (pc + 1 - bx)
          (setReg (setReg (setReg m fr a next) fr (a + 1) (.int (wrap64 (c - 1)))) fr (a + 3) next)
    | st, l, i =>
    match forNext i l st with
    | some (i, l, v) =>
      .cont fr (pc + 1 - bx) (setReg (setReg (setReg m fr a i) fr (a + 1) l) fr (a + 3) v)
    | none => .cont fr (pc + 1) m
  | .forPrep a bx =>
    match forStart (reg m fr a) (reg m fr (a + 1)) (reg m fr (a + 2)) with
    | .ok (some (i, l, st, v)) =>
      .cont fr (pc + 1) (setRegs m fr a [i, l, st, v])
    | .ok none => .cont fr (pc + 2 + bx) m
    | .error .zeroStep => fail resume fr pc m (runError "'for' step is zero")
    | .error (.notNumber what v) => fail resume fr pc m do
      runError ("bad 'for' " ++ what ++ " (number expected, got " ++ (← typeNameOf v) ++ ")")
  | .tforPrep a bx =>
    match markToClose resume fr pc m (a + 3) with
    | .cont fr _ m => .cont fr (pc + 1 + bx) m
    | n => n
  | .tforCall a c =>
    let f := reg m fr a
    let args := [reg m fr (a + 1), reg m fr (a + 2)]
    slow resume fr pc m (nested true (callValue f args)) fun vs m =>
      .cont fr (pc + 1) (setRegs m fr (a + 4) (adjust vs c))
  | .tforLoop a bx =>
    let v := reg m fr (a + 4)
    if v.isNil then .cont fr (pc + 1) m
    else .cont fr (pc + 1 - bx) (setReg m fr (a + 2) v)
  | .setList a b c k =>
    let n := if b != 0 then b else fr.top - (fr.base + a) - 1
    let start := if k then c + (fr.proto.code.getD (pc + 1) Instr.invalid).ax * (Code.maxArgC + 1)
      else c
    let next := if k then pc + 2 else pc + 1
    match reg m fr a with
    | .table id => .cont fr next (storeList m id start (regs m fr (a + 1) n))
    | _ => .cont fr next m
  | .closure a bx =>
    let p := fr.proto.protos.getD bx default
    let (cells, m) := p.upvals.foldl (fun (acc : Array Nat × Machine σ) u =>
      let (cells, m) := acc
      if u.inStack then
        let (c, m) := captureSlot m (fr.base + u.index)
        (cells.push c, m)
      else (cells.push (fr.upvals.getD u.index 0), m)) (#[], m)
    let id := m.heap.closures.size
    let m := { m with heap := { m.heap with
      closures := m.heap.closures.push { proto := p, upvals := cells } } }
    .cont fr (pc + 1) (setReg m fr a (.closure id))
  | .vararg a c =>
    let n := fr.nextra
    let vs := (List.range n).map fun i => slotValue m (fr.base - 1 - n + i)
    if c == 0 then
      if fr.base + fr.proto.maxStack + n > maxStack then fail resume fr pc m (runError "stack overflow")
      else .cont { fr with top := fr.base + a + n } (pc + 1) (setRegs m fr a vs)
    else .cont fr (pc + 1) (setRegs m fr a (adjust vs (c - 1)))
  | .varargPrep np =>
    let actual := fr.top - fr.func - 1
    if fr.top + fr.proto.maxStack + 1 > maxStack then fail resume fr pc m (runError "stack overflow")
    else
      let newFunc := fr.func + actual + 1
      let params := (List.range np).map fun i => slotValue m (fr.func + 1 + i)
      let m := putSlots m newFunc (.closure fr.closure :: params)
      let m := clearSlots m (newFunc + 1 + np) (newFunc + 1 + fr.proto.maxStack)
      .cont { fr with base := newFunc + 1, nextra := actual - np } (pc + 1) m
  | .extraArg _ => .cont fr (pc + 1) m
  | .invalid _ => .cont fr (pc + 1) m
  else returnFrom fr m []

end Instructions

/-- Raises the time-limit error at the running frame's current instruction. -/
def timeUp (fr : LuaFrame) (pc : Nat) (m : Machine σ) : Step σ (List Value) :=
  match (throwValue timeoutError : LuaM σ Unit) { m with calls := .lua { fr with pc } :: m.calls } with
  | .ok _ m => .err timeoutError m
  | s => s.andThen fun _ m => .err timeoutError m

/-! ## The main loop

The loop holds the running coroutine's stack, and its count of instructions to the next check of
the time limit, itself rather than in the machine, and runs the common cases of the most frequent
instructions on them directly, as `step` runs them: moves and loads, jumps and tests, comparisons
and arithmetic on integers, numeric `for` loops, and table reads and writes that need no
metamethod, into registers that no closure shares. Anything else goes through `step` with the
machine made whole again, and so does every thousandth instruction, after the time limit is
checked.
-/

/-- The machine made whole again: the stack the loop holds put back, and the instructions run
since the machine last counted (its hook count down to `hc`) counted as steps. -/
@[inline] def settle (m : Machine σ) (hc : Nat) (stack : Array Slot) : Machine σ :=
  { m with stack, hookCount := hc,
           stepsLeft := if m.timed then m.stepsLeft - (m.hookCount - hc) else m.stepsLeft }

/-- Register `r` of the running frame, read from the stack the loop holds. -/
@[inline] def regIn (stack : Array Slot) (m : Machine σ) (fr : LuaFrame) (r : Nat) : Value :=
  match stack.getD (fr.base + r) (.val .nil) with
  | .val v => v
  | .cell c => m.heap.cells.getD c .nil

/-- The `n` registers of the running frame from register `r`, read from the stack the loop
holds. -/
def regsIn (stack : Array Slot) (m : Machine σ) (fr : LuaFrame) (r n : Nat) : Array Value :=
  go n (Array.mkEmpty n)
where
  /-- Adds the `k` registers that remain. -/
  go : Nat → Array Value → Array Value
    | 0, acc => acc
    | k + 1, acc => go k (acc.push (regIn stack m fr (r + (n - (k + 1)))))

/-- Puts values in consecutive slots of a stack from `i`, as values of their own, growing the
stack to hold them. -/
def putIn (stack : Array Slot) (i : Nat) : List Value → Array Slot
  | [] => stack
  | v :: vs =>
    putIn ((if i < stack.size then stack else growStack stack (i + 1)).set! i (.val v)) (i + 1) vs

/-- Whether stack slot `i` exists and holds a value of its own, which the loop may overwrite in
place. -/
@[inline] def ownSlot (stack : Array Slot) (i : Nat) : Bool :=
  match stack[i]? with
  | some (.val _) => true
  | _ => false

/-- Runs frames from an instruction until the frame the scheduler started returns, an error is
raised, or a request for the scheduler comes up; `resume` takes the run up again after such a
request. The loop holds the stack and the hook count `hc`; every instruction is counted against
the time limit. -/
def loop (host : Host σ) (resume : Resume σ) :
    Nat → Nat → LuaFrame → Nat → Array Slot → Machine σ → Step σ (List Value)
  | 0, hc, _, _, stack, m => .err timeoutError (settle m hc stack)
  | n + 1, hc, fr, pc, stack, m =>
    if hc ≤ 1 then
      let m := settle m hc stack
      if timeIsUp m then timeUp fr pc (countInstruction m)
      else
        loop host resume n (hookPeriod + 1) fr pc m.stack
          { m with stack := #[], hookCount := hookPeriod + 1 }
    else
    let general (_ : Unit) : Step σ (List Value) :=
      match step host resume fr pc (settle m (hc - 1) stack) with
      | .cont fr pc m => loop host resume n m.hookCount fr pc m.stack { m with stack := #[] }
      | .stop s => s
    let hc := hc - 1
    let ops := fr.proto.ops
    if h : pc < ops.size then
    let ra := fr.base
    match ops[pc] with
    | .move a b =>
      if ownSlot stack (ra + a) then
        loop host resume n hc fr (pc + 1) (stack.set! (ra + a) (.val (regIn stack m fr b))) m
      else general ()
    | .loadI a sbx =>
      if ownSlot stack (ra + a) then
        loop host resume n hc fr (pc + 1) (stack.set! (ra + a) (.val (.int sbx))) m
      else general ()
    | .loadK a bx =>
      if ownSlot stack (ra + a) then
        loop host resume n hc fr (pc + 1) (stack.set! (ra + a) (.val (konst fr bx))) m
      else general ()
    | .loadFalse a =>
      if ownSlot stack (ra + a) then
        loop host resume n hc fr (pc + 1) (stack.set! (ra + a) (.val (.bool false))) m
      else general ()
    | .loadTrue a =>
      if ownSlot stack (ra + a) then
        loop host resume n hc fr (pc + 1) (stack.set! (ra + a) (.val (.bool true))) m
      else general ()
    | .getUpval a b =>
      if ownSlot stack (ra + a) then
        loop host resume n hc fr (pc + 1) (stack.set! (ra + a) (.val (upval m fr b))) m
      else general ()
    | .jmp sj => loop host resume n hc fr ((pc + 1 : Int) + sj).toNat stack m
    | .test a k => loop host resume n hc fr (testTarget fr pc (regIn stack m fr a).truthy k) stack m
    | .eqK a b k =>
      loop host resume n hc fr (testTarget fr pc ((regIn stack m fr a).rawEq (konst fr b)) k) stack m
    | .eqI a sb k =>
      match regIn stack m fr a with
      | .int i => loop host resume n hc fr (testTarget fr pc (i == sb) k) stack m
      | _ => general ()
    | .eq a b k =>
      match regIn stack m fr a, regIn stack m fr b with
      | .table _, .table _ => general ()
      | x, y => loop host resume n hc fr (testTarget fr pc (x.rawEq y) k) stack m
    | .lt a b k =>
      match regIn stack m fr a, regIn stack m fr b with
      | .int i, .int j => loop host resume n hc fr (testTarget fr pc (decide (i < j)) k) stack m
      | _, _ => general ()
    | .le a b k =>
      match regIn stack m fr a, regIn stack m fr b with
      | .int i, .int j => loop host resume n hc fr (testTarget fr pc (decide (i ≤ j)) k) stack m
      | _, _ => general ()
    | .ltI a sb _ k =>
      match regIn stack m fr a with
      | .int i => loop host resume n hc fr (testTarget fr pc (decide (i < sb)) k) stack m
      | _ => general ()
    | .leI a sb _ k =>
      match regIn stack m fr a with
      | .int i => loop host resume n hc fr (testTarget fr pc (decide (i ≤ sb)) k) stack m
      | _ => general ()
    | .gtI a sb _ k =>
      match regIn stack m fr a with
      | .int i => loop host resume n hc fr (testTarget fr pc (decide (sb < i)) k) stack m
      | _ => general ()
    | .geI a sb _ k =>
      match regIn stack m fr a with
      | .int i => loop host resume n hc fr (testTarget fr pc (decide (sb ≤ i)) k) stack m
      | _ => general ()
    | .addI a b sc =>
      match regIn stack m fr b with
      | .int i =>
        if ownSlot stack (ra + a) then
          loop host resume n hc fr (pc + 2) (stack.set! (ra + a) (.val (.int (wrap64 (i + sc))))) m
        else general ()
      | _ => general ()
    | .arith op a b c =>
      match arithFast op (regIn stack m fr b) (regIn stack m fr c) with
      | some (.ok v) =>
        if ownSlot stack (ra + a) then
          loop host resume n hc fr (pc + 2) (stack.set! (ra + a) (.val v)) m
        else general ()
      | _ => general ()
    | .arithK op a b c =>
      match arithFast op (regIn stack m fr b) (konst fr c) with
      | some (.ok v) =>
        if ownSlot stack (ra + a) then
          loop host resume n hc fr (pc + 2) (stack.set! (ra + a) (.val v)) m
        else general ()
      | _ => general ()
    | .forLoop a bx =>
      match regIn stack m fr (a + 2), regIn stack m fr (a + 1), regIn stack m fr a with
      | .int s, .int c, .int i =>
        if c == 0 then loop host resume n hc fr (pc + 1) stack m
        else if ownSlot stack (ra + a) && ownSlot stack (ra + a + 1) && ownSlot stack (ra + a + 3)
        then
          let next := Value.int (wrap64 (i + s))
          let stack := stack.set! (ra + a) (.val next)
          let stack := stack.set! (ra + a + 1) (.val (.int (wrap64 (c - 1))))
          loop host resume n hc fr (pc + 1 - bx) (stack.set! (ra + a + 3) (.val next)) m
        else general ()
      | _, _, _ => general ()
    | .tforLoop a bx =>
      let v := regIn stack m fr (a + 4)
      if v.isNil then loop host resume n hc fr (pc + 1) stack m
      else if ownSlot stack (ra + a + 2) then
        loop host resume n hc fr (pc + 1 - bx) (stack.set! (ra + a + 2) (.val v)) m
      else general ()
    | .getField a b c =>
      if ownSlot stack (ra + a) then
        match fastGet m (regIn stack m fr b) (konst fr c) with
        | (some v, m) => loop host resume n hc fr (pc + 1) (stack.set! (ra + a) (.val v)) m
        | (none, m') =>
          match step host resume fr pc (settle m' hc stack) with
          | .cont fr pc m => loop host resume n m.hookCount fr pc m.stack { m with stack := #[] }
          | .stop s => s
      else general ()
    | .getTabUp a b c =>
      if ownSlot stack (ra + a) then
        match fastGet m (upval m fr b) (konst fr c) with
        | (some v, m) => loop host resume n hc fr (pc + 1) (stack.set! (ra + a) (.val v)) m
        | (none, m') =>
          match step host resume fr pc (settle m' hc stack) with
          | .cont fr pc m => loop host resume n m.hookCount fr pc m.stack { m with stack := #[] }
          | .stop s => s
      else general ()
    | .getTable a b c =>
      if ownSlot stack (ra + a) then
        match fastGet m (regIn stack m fr b) (regIn stack m fr c).normKey with
        | (some v, m) => loop host resume n hc fr (pc + 1) (stack.set! (ra + a) (.val v)) m
        | (none, m') =>
          match step host resume fr pc (settle m' hc stack) with
          | .cont fr pc m => loop host resume n m.hookCount fr pc m.stack { m with stack := #[] }
          | .stop s => s
      else general ()
    | .getI a b c =>
      if ownSlot stack (ra + a) then
        match fastGet m (regIn stack m fr b) (.int c) with
        | (some v, m) => loop host resume n hc fr (pc + 1) (stack.set! (ra + a) (.val v)) m
        | (none, m') =>
          match step host resume fr pc (settle m' hc stack) with
          | .cont fr pc m => loop host resume n m.hookCount fr pc m.stack { m with stack := #[] }
          | .stop s => s
      else general ()
    | .setField a b c k =>
      let v := if k then konst fr c else regIn stack m fr c
      match fastSet m (regIn stack m fr a) (konst fr b) v with
      | (true, m) => loop host resume n hc fr (pc + 1) stack m
      | (false, m') =>
        match step host resume fr pc (settle m' hc stack) with
        | .cont fr pc m => loop host resume n m.hookCount fr pc m.stack { m with stack := #[] }
        | .stop s => s
    | .setTable a b c k =>
      let v := if k then konst fr c else regIn stack m fr c
      match fastSet m (regIn stack m fr a) (regIn stack m fr b) v with
      | (true, m) => loop host resume n hc fr (pc + 1) stack m
      | (false, m') =>
        match step host resume fr pc (settle m' hc stack) with
        | .cont fr pc m => loop host resume n m.hookCount fr pc m.stack { m with stack := #[] }
        | .stop s => s
    | .setI a b c k =>
      let v := if k then konst fr c else regIn stack m fr c
      match fastSet m (regIn stack m fr a) (.int b) v with
      | (true, m) => loop host resume n hc fr (pc + 1) stack m
      | (false, m') =>
        match step host resume fr pc (settle m' hc stack) with
        | .cont fr pc m => loop host resume n m.hookCount fr pc m.stack { m with stack := #[] }
        | .stop s => s
    | .call a b c =>
      match regIn stack m fr a with
      | .closure id =>
        let func := ra + a
        let nargs := if b != 0 then b - 1 else fr.top - func - 1
        let cl := m.heap.closures.getD id default
        if func + 1 + nargs + cl.proto.maxStack > maxStack then general ()
        else
          let stack := clearRange stack (func + 1 + nargs) (func + 1 + max nargs cl.proto.maxStack)
          loop host resume n hc (newFrame id cl func nargs ((c : Int) - 1)) 0 stack
            { m with calls := .lua { fr with pc } :: m.calls }
      | .builtin g =>
        let func := ra + a
        let nargs := if b != 0 then b - 1 else fr.top - func - 1
        if func + 1 + nargs + minStack > maxStack then general ()
        else
          let args := regsIn stack m fr (a + 1) nargs
          let m := settle m hc stack
          let m := { m with
            calls := .native (.builtin g) func (func + 1 + nargs) :: .lua { fr with pc } :: m.calls }
          match Library.call { fn := g, args } m with
          | .ok vs m =>
            let stack := putIn m.stack func (if c == 0 then vs else adjust vs (c - 1))
            let fr := if c == 0 then { fr with top := func + vs.length } else fr
            loop host resume n m.hookCount fr (pc + 1) stack
              { m with stack := #[], calls := m.calls.drop 2 }
          | .err e m => .err e m
          | s => s.andThen fun vs m => proceed resume (nativeDone fr pc func ((c : Int) - 1) false vs m)
      | _ => general ()
    | .ret0 =>
      if fr.fresh then general ()
      else
        match m.calls with
        | .lua caller :: rest =>
          if fr.nresults < 0 then
            loop host resume n hc { caller with top := fr.func } (caller.pc + 1) stack
              { m with calls := rest }
          else if fr.nresults == 0 then
            loop host resume n hc caller (caller.pc + 1) stack { m with calls := rest }
          else general ()
        | _ => general ()
    | .ret1 a =>
      if fr.fresh then general ()
      else
        match m.calls with
        | .lua caller :: rest =>
          let v := regIn stack m fr a
          if fr.nresults < 0 then
            loop host resume n hc { caller with top := fr.func + 1 } (caller.pc + 1)
              (stack.set! fr.func (.val v)) { m with calls := rest }
          else if fr.nresults == 0 then
            loop host resume n hc caller (caller.pc + 1) stack { m with calls := rest }
          else if fr.nresults == 1 then
            loop host resume n hc caller (caller.pc + 1) (stack.set! fr.func (.val v))
              { m with calls := rest }
          else general ()
        | _ => general ()
    | _ => general ()
    else general ()

/-- Fuel for the machine's loop: more instructions than any run can execute. -/
@[noinline] def runFuel : Nat := Nat.pow 2 60

/-- Runs frames from an instruction, as `loop` does; each time the run is taken up again after a
request for the scheduler counts against the fuel. -/
def run (host : Host σ) : Nat → LuaFrame → Nat → Machine σ → Step σ (List Value)
  | 0, _, _, m => .err timeoutError m
  | fuel + 1, fr, pc, m =>
    loop host (run host fuel) runFuel m.hookCount fr pc m.stack { m with stack := #[] }

/-- Calls a function on arguments from whatever runs on top of the call stack, placing it at the
first free slot: a Lua function runs in a frame of its own until it returns, any other function
runs directly with its own entry on the call stack, and a value with a `__call` metamethod is
called through it. -/
def callFunction (host : Host σ) (f : Value) (args : List Value) : LuaM σ (List Value) := fun m =>
  let func := callTop m
  match resolveCallee m maxStack (func + 1 + args.length) f args false with
  | .notCallable g => (callError g : LuaM σ (List Value)) m
  | .overflow => (runError "stack overflow" : LuaM σ (List Value)) m
  | .lua id cl args _ =>
    let nargs := args.length
    if func + 1 + nargs + cl.proto.maxStack > maxStack then
      (runError "stack overflow" : LuaM σ (List Value)) m
    else
      let m := { m with stack := growStack (m.stack.shrink func) func }
      let m := placeFrame m id cl.proto func args false
      run host runFuel { newFrame id cl func nargs (-1) with fresh := true } 0 m
  | .native g args _ =>
    let nargs := args.length
    if func + 1 + nargs + minStack > maxStack then
      (runError "stack overflow" : LuaM σ (List Value)) m
    else
      callNative host g args
        { m with calls := .native g func (func + 1 + nargs) :: m.calls }

end Execute

end CounterCache.Lua
