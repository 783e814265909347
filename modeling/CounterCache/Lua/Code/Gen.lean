import CounterCache.Lua.Code.State

/-!
# Code generation

The instructions of a function are emitted one by one, each filed under the line of the last
token read. Expressions stay descriptions until their value is needed somewhere: then they are
*discharged* into a register, a constant operand, or a test that jumps.

Registers are a stack: locals take the lowest, and temporaries are taken from the first free
register and given back in reverse order. A function may use at most 254 of them.

Constants are shared within a function: the compiler remembers where each constant was placed
(in any function of the chunk) and reuses that index when it holds the same value in the
function being compiled.

Conditions compile to a test followed by a jump. A jump whose target is not yet known is
chained to the other jumps waiting for the same target through its own offset field, and the
chain is patched when the target is reached. A test that produces a value (`TESTSET`, for `and`
and `or` used as values) can be turned into a plain test when the value is not needed.

Arithmetic on two numeric constants is folded, except when it would fail at run time (division
by zero, bitwise operations on non-integers) or give NaN or zero. Small integer operands are
encoded in the instruction itself, other numeric constants as constant operands. Each
arithmetic instruction is followed by one that calls the metamethod when the fast path does
not apply.
-/

namespace CounterCache.Lua.Code

open C

/-- Binary operators, in Lua's order: arithmetic and bitwise (as `ArithOp`), concatenation,
comparisons, `and`, `or`. -/
inductive BinOpr where
  | arith (op : ArithOp)
  | concat | eq | lt | le | ne | gt | ge | and | or
  deriving DecidableEq, Inhabited

/-- Unary operators. -/
inductive UnOpr where
  | minus | bnot | not | len
  deriving DecidableEq, Inhabited

/-- The largest index of a constant operand. -/
def maxIndexRK : Nat := maxArgB

/-- The most registers a function may use, plus one. -/
def maxRegs : Nat := 255

/-- Instructions between two absolute lines at most. -/
def maxSinceAbs : Nat := 128

namespace Gen

/-! ## Emitting instructions and their lines -/

/-- The instruction at a position. -/
def instrAt (pc : Nat) : C Instr := do return (← fs).f.code.getD pc Instr.invalid

/-- Replaces the instruction at a position. -/
def setInstr (pc : Nat) (i : Instr) : C Unit :=
  modifyProto fun f => { f with code := f.code.set! pc i }

/-- Files the last instruction under `line`: as a difference from the line before, or as an
absolute line when the difference does not fit in a byte or too many instructions have passed
since the last absolute one. -/
def saveLineInfo (line : Nat) : C Unit := modifyFs fun fs =>
  let pc := fs.f.code.size - 1
  let dif : Int := line - fs.previousLine
  let absolute := dif.natAbs ≥ 128 || fs.sinceAbs ≥ maxSinceAbs
  if absolute then
    { fs with
      f := { fs.f with
        absLineInfo := fs.f.absLineInfo.push (pc, line)
        lineInfo := fs.f.lineInfo.push absLineMark }
      sinceAbs := 1
      previousLine := line }
  else
    { fs with
      f := { fs.f with lineInfo := fs.f.lineInfo.push dif }
      sinceAbs := fs.sinceAbs + 1
      previousLine := line }

/-- Removes the line of the last instruction; if it was absolute, the next one will be too. -/
def removeLastLineInfo : C Unit := modifyFs fun fs =>
  let d := fs.f.lineInfo.back?.getD 0
  if d != absLineMark then
    { fs with
      f := { fs.f with lineInfo := fs.f.lineInfo.pop }
      previousLine := fs.previousLine - d
      sinceAbs := fs.sinceAbs - 1 }
  else
    { fs with
      f := { fs.f with lineInfo := fs.f.lineInfo.pop, absLineInfo := fs.f.absLineInfo.pop }
      sinceAbs := maxSinceAbs + 1 }

/-- Removes the last instruction. -/
def removeLastInstruction : C Unit := do
  removeLastLineInfo
  modifyProto fun f => { f with code := f.code.pop }

/-- Files the last instruction under another line. -/
def fixLine (line : Nat) : C Unit := do
  removeLastLineInfo
  saveLineInfo line

/-- Emits an instruction: its position. -/
def code (i : Instr) : C Nat := do
  let line := (← get).lastLine
  modifyProto fun f => { f with code := f.code.push i }
  saveLineInfo line
  return (← pc) - 1

/-- Emits an instruction of layout `iABC`. -/
def codeABC (o : OpCode) (a b c : Nat) (k : Bool := false) : C Nat := code (Instr.ofABC o a b c k)

/-- Emits an instruction of layout `iABx`. -/
def codeABx (o : OpCode) (a bx : Nat) : C Nat := code (Instr.ofABx o a bx)

/-- Emits an instruction of layout `iAsBx`. -/
def codeAsBx (o : OpCode) (a : Nat) (sbx : Int) : C Nat := code (Instr.ofAsBx o a sbx)

/-- Emits an extra argument. -/
def codeExtraArg (ax : Nat) : C Nat := code (Instr.ofAx .extraArg ax)

/-- Loads constant `k` into a register. -/
def codeK (reg k : Nat) : C Nat := do
  if k ≤ maxArgBx then codeABx .loadK reg k
  else
    let p ← codeABx .loadKX reg 0
    let _ ← codeExtraArg k
    return p

/-- The instruction before the next one, unless a jump may land between them. -/
def previousInstruction : C Instr := do
  let fs ← fs
  if fs.f.code.size > fs.lastTarget then return fs.f.code.getD (fs.f.code.size - 1) Instr.invalid
  else return Instr.invalid

/-- Marks the next position as a jump target: its position. -/
def getLabel : C Nat := do
  let p ← pc
  modifyFs fun fs => { fs with lastTarget := p }
  return p

/-! ## Registers -/

/-- Makes sure `n` more registers fit, keeping the function's largest frame. -/
def checkStack (n : Nat) : C Unit := do
  let fs ← fs
  let newStack := fs.freeReg + n
  if newStack > fs.f.maxStack then
    if newStack ≥ maxRegs then syntaxError "function or expression needs too many registers"
    modifyProto fun f => { f with maxStack := newStack }

/-- Takes `n` registers. -/
def reserveRegs (n : Nat) : C Unit := do
  checkStack n
  modifyFs fun fs => { fs with freeReg := fs.freeReg + n }

/-- Gives back a register that holds a temporary. -/
def freeReg (reg : Nat) : C Unit := do
  if reg ≥ (← nvarstack) then modifyFs fun fs => { fs with freeReg := fs.freeReg - 1 }

/-- Gives back two registers, the higher first. -/
def freeRegs (r1 r2 : Nat) : C Unit := do
  if r1 > r2 then freeReg r1; freeReg r2
  else freeReg r2; freeReg r1

/-- Gives back the register of an expression. -/
def freeExp (e : ExpDesc) : C Unit := do
  match e.kind with
  | .nonReloc r => freeReg r
  | _ => pure ()

/-- Gives back the registers of two expressions, the higher first. -/
def freeExps (e1 e2 : ExpDesc) : C Unit := do
  match e1.kind, e2.kind with
  | .nonReloc r1, .nonReloc r2 => freeRegs r1 r2
  | .nonReloc r1, _ => freeReg r1
  | _, .nonReloc r2 => freeReg r2
  | _, _ => pure ()

/-! ## Constants -/

/-- Constants that Lua counts as the same: of one type and equal. -/
def sameConstant : Value → Value → Bool
  | .nil, .nil => true
  | .bool a, .bool b => a == b
  | .int a, .int b => a == b
  | .num a, .num b => a.toFloat == b.toFloat
  | .str a, .str b => a.data == b.data
  | _, _ => false

/-- The cache key of a double, as a table key: an integer-valued double is its integer. -/
def floatKey (d : Double) : ConstKey :=
  match (Numeral.flt d).toInteger? with
  | some n => .int n
  | none => .flt d.bits

/-- Places a constant under a cache key: the index it already has in the function, or a new
one. -/
def addK (key : ConstKey) (v : Value) : C Nat := do
  let s ← get
  let f := s.fs.f
  match s.kcache[key]? with
  | some k =>
    if sameConstant (f.consts.getD k .nil) v && k < f.consts.size then return k
  | none => pure ()
  let k := f.consts.size
  set { s with
    kcache := s.kcache.insert key k
    fs := { s.fs with f := { f with consts := f.consts.push v } } }
  return k

/-- Places a string constant. -/
def stringK (s : ByteArray) : C Nat := addK (.str s.data.toList) (.str s)

/-- Places an integer constant. -/
def intK (n : Int) : C Nat := addK (.int n) (.int n)

/-- Places a double constant. An integer-valued double is cached under a nearby value that is
not an integer, so that it does not meet the integer of the same value. -/
def numberK (r : Double) : C Nat := do
  match (Numeral.flt r).toInteger? with
  | none => addK (floatKey r) (.num r)
  | some ik =>
    let q : Float := 1.0 / 4503599627370496.0
    let k : Float := if ik == 0 then q else r.toFloat + r.toFloat * q
    addK (floatKey (Double.ofFloat k)) (.num r)

/-- Places `false`. -/
def boolF : C Nat := addK (.bool false) (.bool false)

/-- Places `true`. -/
def boolT : C Nat := addK (.bool true) (.bool true)

/-- Places `nil`. -/
def nilK : C Nat := addK .nil .nil

/-- The integer fits in a signed byte operand. -/
def fitsC (i : Int) : Bool := -(offsetSC : Int) ≤ i ∧ i ≤ (maxArgC - offsetSC : Nat)

/-- The integer fits in `sBx`. -/
def fitsBx (i : Int) : Bool := -(offsetSBx : Int) ≤ i ∧ i ≤ (maxArgBx - offsetSBx : Nat)

/-- Loads an integer into a register. -/
def loadInt (reg : Nat) (i : Int) : C Unit := do
  if fitsBx i then let _ ← codeAsBx .loadI reg i
  else let _ ← codeK reg (← intK i)

/-- Loads a double into a register. -/
def loadFloat (reg : Nat) (f : Double) : C Unit := do
  match (Numeral.flt f).toInteger? with
  | some fi => if fitsBx fi then let _ ← codeAsBx .loadF reg fi; return
  | none => pure ()
  let _ ← codeK reg (← numberK f)

/-- Sets `n` registers from `first` to `nil`, widening the instruction before when it already
does so for an adjacent range. -/
def loadNil (first n : Nat) : C Unit := do
  let l := first + n - 1
  let prev ← previousInstruction
  if prev.is .loadNil then
    let pfirst := prev.a
    let pl := pfirst + prev.b
    if (pfirst ≤ first ∧ first ≤ pl + 1) ∨ (first ≤ pfirst ∧ pfirst ≤ l + 1) then
      let first' := min first pfirst
      let l' := max l pl
      setInstr ((← pc) - 1) ((prev.setA first').setB (l' - first'))
      return
  let _ ← codeABC .loadNil first (n - 1) 0

/-! ## Jumps -/

/-- Where the jump at `pc` goes, or the end of its list. -/
def getJump (pc : Nat) : C Int := do
  let off := (← instrAt pc).sJ
  if off == noJump then return noJump else return (pc : Int) + 1 + off

/-- Points the jump at `pc` to `dest`. -/
def fixJump (pc : Nat) (dest : Nat) : C Unit := do
  let off : Int := (dest : Int) - (pc + 1)
  if !(-(offsetSJ : Int) ≤ off ∧ off ≤ (maxArgAx - offsetSJ : Nat)) then
    syntaxError "control structure too long"
  setInstr pc ((← instrAt pc).setSJ off)

/-- The last jump of a list. -/
def lastJump (list : Nat) : (fuel : Nat) → C Nat
  | 0 => pure list
  | fuel + 1 => do
    let next ← getJump list
    if next == noJump then return list else lastJump next.toNat fuel

/-- Appends jump list `l2` to `l1`. -/
def concatJumps (l1 l2 : Int) : C Int := do
  if l2 == noJump then return l1
  if l1 == noJump then return l2
  let last ← lastJump l1.toNat ((← pc) + 1)
  fixJump last l2.toNat
  return l1

/-- Emits a jump to be patched later. -/
def jump : C Nat := code (Instr.ofSJ .jmp noJump)

/-- Emits a return of `nret` values from register `first` (`-1`: all values up to the top). -/
def ret (first : Nat) (nret : Int) : C Unit := do
  let o := match nret with
    | 0 => OpCode.ret0
    | 1 => .ret1
    | _ => .ret
  let _ ← codeABC o first (nret + 1).toNat 0

/-- Emits a test and the jump it guards: the jump's position. -/
def condJump (o : OpCode) (a b c : Nat) (k : Bool) : C Nat := do
  let _ ← codeABC o a b c k
  jump

/-- The position of the instruction that decides the jump at `pc`: the test before it, or the
jump itself. -/
def jumpControl (pc : Nat) : C Nat := do
  if pc ≥ 1 then
    match (← instrAt (pc - 1)).op? with
    | some o => if o.isTest then return pc - 1
    | none => pure ()
  return pc

/-- Gives the value-producing test of the jump at `node` its target register, or turns it into
a plain test when there is none to give (or the value is already there); false when the jump
is not guarded by such a test. -/
def patchTestReg (node : Nat) (reg : Option Nat) : C Bool := do
  let p ← jumpControl node
  let i ← instrAt p
  if !i.is .testSet then return false
  match reg with
  | some r =>
    if r != i.b then setInstr p (i.setA r)
    else setInstr p (Instr.ofABC .test i.b 0 0 i.k)
  | none => setInstr p (Instr.ofABC .test i.b 0 0 i.k)
  return true

/-- Makes every test of a list produce no value. -/
def removeValues (list : Int) : (fuel : Nat) → C Unit
  | 0 => pure ()
  | fuel + 1 => do
    if list == noJump then return
    let _ ← patchTestReg list.toNat none
    removeValues (← getJump list.toNat) fuel

/-- Patches a list: value-producing tests jump to `vtarget` with their value in `reg`, the
others to `dtarget`. -/
def patchListAux (list : Int) (vtarget : Nat) (reg : Option Nat) (dtarget : Nat) :
    (fuel : Nat) → C Unit
  | 0 => pure ()
  | fuel + 1 => do
    if list == noJump then return
    let next ← getJump list.toNat
    if ← patchTestReg list.toNat reg then fixJump list.toNat vtarget
    else fixJump list.toNat dtarget
    patchListAux next vtarget reg dtarget fuel

/-- Points every jump of a list to `target`. -/
def patchList (list : Int) (target : Nat) : C Unit := do
  patchListAux list target none target ((← pc) + 1)

/-- Points every jump of a list to the next position. -/
def patchToHere (list : Int) : C Unit := do
  let here ← getLabel
  patchList list here

/-- Emits a jump back to `target`. -/
def jumpTo (target : Nat) : C Unit := do
  patchList (← jump) target

/-! ## Discharging expressions -/

/-- The value of a constant expression, if it is one. -/
def exp2const (e : ExpDesc) : C (Option Value) := do
  if e.hasJumps then return none
  match e.kind with
  | .falseConst => return some (.bool false)
  | .trueConst => return some (.bool true)
  | .nil => return some .nil
  | .kstr s => return some (.str s)
  | .constLocal i => return some ((← get).actvar.getD i default).value
  | .kint n => return some (.int n)
  | .kflt f => return some (.num f)
  | _ => return none

/-- The expression of a constant value. -/
def constExp : Value → ExpKind
  | .int n => .kint n
  | .num f => .kflt f
  | .bool false => .falseConst
  | .bool true => .trueConst
  | .str s => .kstr s
  | _ => .nil

/-- Sets how many results a call or `...` gives (`-1`: all). -/
def setReturns (e : ExpDesc) (nresults : Int) : C Unit := do
  match e.kind with
  | .call p => setInstr p ((← instrAt p).setC (nresults + 1).toNat)
  | .vararg p =>
    let fr := (← fs).freeReg
    setInstr p (((← instrAt p).setC (nresults + 1).toNat).setA fr)
    reserveRegs 1
  | _ => pure ()

/-- Makes a call or `...` give one result. -/
def setOneRet (e : ExpDesc) : C ExpDesc := do
  match e.kind with
  | .call p => return { e with kind := .nonReloc (← instrAt p).a }
  | .vararg p =>
    setInstr p ((← instrAt p).setC 2)
    return { e with kind := .reloc p }
  | _ => return e

/-- Makes sure an expression is not a variable: a variable's value is fetched by an instruction
whose target register is left open. -/
def dischargeVars (e : ExpDesc) : C ExpDesc := do
  match e.kind with
  | .constLocal i => return { e with kind := constExp ((← get).actvar.getD i default).value }
  | .localVar _ r => return { e with kind := .nonReloc r }
  | .upval idx => return { e with kind := .reloc (← codeABC .getUpval 0 idx 0) }
  | .indexUp t key => return { e with kind := .reloc (← codeABC .getTabUp 0 t key) }
  | .indexInt t key =>
    freeReg t
    return { e with kind := .reloc (← codeABC .getI 0 t key) }
  | .indexStr t key =>
    freeReg t
    return { e with kind := .reloc (← codeABC .getField 0 t key) }
  | .indexed t key =>
    freeRegs t key
    return { e with kind := .reloc (← codeABC .getTable 0 t key) }
  | .vararg _ | .call _ => setOneRet e
  | _ => return e

/-- Puts an expression's value into register `reg` (its jumps stay pending). -/
def discharge2reg (e : ExpDesc) (reg : Nat) : C ExpDesc := do
  let e ← dischargeVars e
  match e.kind with
  | .nil => loadNil reg 1
  | .falseConst => let _ ← codeABC .loadFalse reg 0 0
  | .trueConst => let _ ← codeABC .loadTrue reg 0 0
  | .kstr s => let _ ← codeK reg (← stringK s)
  | .k idx => let _ ← codeK reg idx
  | .kflt f => loadFloat reg f
  | .kint n => loadInt reg n
  | .reloc p => setInstr p ((← instrAt p).setA reg)
  | .nonReloc r => if reg != r then let _ ← codeABC .move reg r 0
  | _ => return e
  return { e with kind := .nonReloc reg }

/-- Puts an expression's value into some register. -/
def discharge2anyreg (e : ExpDesc) : C ExpDesc := do
  match e.kind with
  | .nonReloc _ => return e
  | _ =>
    reserveRegs 1
    discharge2reg e ((← fs).freeReg - 1)

/-- Emits a boolean load that may be a jump target. -/
def codeLoadBool (a : Nat) (o : OpCode) : C Nat := do
  let _ ← getLabel
  codeABC o a 0 0

/-- Some jump of the list is guarded by a test that produces no value. -/
def needValue (list : Int) : (fuel : Nat) → C Bool
  | 0 => pure false
  | fuel + 1 => do
    if list == noJump then return false
    let i ← instrAt (← jumpControl list.toNat)
    if !i.is .testSet then return true
    needValue (← getJump list.toNat) fuel

/-- Puts an expression's whole value, its jumps included, into register `reg`. -/
def exp2reg (e : ExpDesc) (reg : Nat) : C ExpDesc := do
  let e ← discharge2reg e reg
  let e ← match e.kind with
    | .jmp p => do
      let t ← concatJumps e.t p
      pure { e with t }
    | _ => pure e
  if e.hasJumps then
    let fuel := (← pc) + 1
    let mut pf : Nat := 0
    let mut pt : Nat := 0
    if (← needValue e.t fuel) || (← needValue e.f fuel) then
      let fj : Int ← match e.kind with
        | .jmp _ => pure noJump
        | _ => do
          let j ← jump
          pure (j : Int)
      pf ← codeLoadBool reg .lFalseSkip
      pt ← codeLoadBool reg .loadTrue
      patchToHere fj
    let final ← getLabel
    patchListAux e.f final (some reg) pf (fuel + 2)
    patchListAux e.t final (some reg) pt (fuel + 2)
  return { kind := .nonReloc reg }

/-- Puts an expression's value into the next free register. -/
def exp2nextreg (e : ExpDesc) : C ExpDesc := do
  let e ← dischargeVars e
  freeExp e
  reserveRegs 1
  exp2reg e ((← fs).freeReg - 1)

/-- Puts an expression's value into some register: its register and the expression. -/
def exp2anyreg (e : ExpDesc) : C (Nat × ExpDesc) := do
  let e ← dischargeVars e
  match e.kind with
  | .nonReloc r =>
    if !e.hasJumps then return (r, e)
    if r ≥ (← nvarstack) then
      let e ← exp2reg e r
      return (r, e)
  | _ => pure ()
  let e ← exp2nextreg e
  match e.kind with
  | .nonReloc r => return (r, e)
  | _ => return (0, e)

/-- Puts an expression's value into a register or leaves it in an upvalue. -/
def exp2anyregup (e : ExpDesc) : C ExpDesc := do
  match e.kind with
  | .upval _ => if !e.hasJumps then return e
  | _ => pure ()
  return (← exp2anyreg e).2

/-- Puts an expression's value into a register or leaves it a constant. -/
def exp2val (e : ExpDesc) : C ExpDesc := do
  if e.hasJumps then return (← exp2anyreg e).2 else dischargeVars e

/-- Makes a constant expression a constant operand, when its index fits. -/
def exp2K (e : ExpDesc) : C (Option ExpDesc) := do
  if e.hasJumps then return none
  let info? : Option Nat ← match e.kind with
    | .trueConst => some <$> boolT
    | .falseConst => some <$> boolF
    | .nil => some <$> nilK
    | .kint n => some <$> intK n
    | .kflt f => some <$> numberK f
    | .kstr s => some <$> stringK s
    | .k i => pure (some i)
    | _ => pure none
  match info? with
  | some info => if info ≤ maxIndexRK then return some { e with kind := .k info } else return none
  | none => return none

/-- Makes an expression a constant operand or puts it in a register: the operand, whether it is
a constant, and the expression. -/
def exp2RK (e : ExpDesc) : C (Nat × Bool × ExpDesc) := do
  match ← exp2K e with
  | some e' =>
    match e'.kind with
    | .k i => return (i, true, e')
    | _ => return (0, true, e')
  | none =>
    let (r, e) ← exp2anyreg e
    return (r, false, e)

/-- Emits an instruction whose `C` is a register or constant operand. -/
def codeABRK (o : OpCode) (a b : Nat) (ec : ExpDesc) : C ExpDesc := do
  let (c, isK, ec) ← exp2RK ec
  let _ ← codeABC o a b c isK
  return ec

/-- Stores an expression's value into a variable. -/
def storeVar (var ex : ExpDesc) : C Unit := do
  match var.kind with
  | .localVar _ r =>
    freeExp ex
    let _ ← exp2reg ex r
    return
  | .upval idx =>
    let (e, ex) ← exp2anyreg ex
    let _ ← codeABC .setUpval e idx 0
    freeExp ex
  | .indexUp t key => let ex ← codeABRK .setTabUp t key ex; freeExp ex
  | .indexInt t key => let ex ← codeABRK .setI t key ex; freeExp ex
  | .indexStr t key => let ex ← codeABRK .setField t key ex; freeExp ex
  | .indexed t key => let ex ← codeABRK .setTable t key ex; freeExp ex
  | _ => freeExp ex

/-- `e:key(`: the method and the object in two new registers. -/
def selfOp (e key : ExpDesc) : C ExpDesc := do
  let (ereg, e) ← exp2anyreg e
  freeExp e
  let base := (← fs).freeReg
  reserveRegs 2
  let key ← codeABRK .method base ereg key
  freeExp key
  return { e with kind := .nonReloc base }

/-- Negates the comparison that decides the jump of a test expression. -/
def negateCondition (e : ExpDesc) : C Unit := do
  match e.kind with
  | .jmp p =>
    let c ← jumpControl p
    let i ← instrAt c
    setInstr c (i.setK !i.k)
  | _ => pure ()

/-- Emits a jump taken when an expression's truth is `cond`; a `not` just emitted is folded
into the test. -/
def jumpOnCond (e : ExpDesc) (cond : Bool) : C Nat := do
  match e.kind with
  | .reloc p =>
    let ie ← instrAt p
    if ie.is .lnot then
      removeLastInstruction
      return ← condJump .test ie.b 0 0 !cond
  | _ => pure ()
  let e ← discharge2anyreg e
  freeExp e
  match e.kind with
  | .nonReloc r => condJump .testSet maxArgA r 0 cond
  | _ => condJump .testSet maxArgA 0 0 cond

/-- Goes on when the expression is true, jumps (through its false list) otherwise. -/
def goIfTrue (e : ExpDesc) : C ExpDesc := do
  let e ← dischargeVars e
  let p : Int ← match e.kind with
    | .jmp p => do negateCondition e; pure p
    | .k _ | .kflt _ | .kint _ | .kstr _ | .trueConst => pure noJump
    | _ => do
      let j ← jumpOnCond e false
      pure (j : Int)
  let f ← concatJumps e.f p
  patchToHere e.t
  return { e with f, t := noJump }

/-- Goes on when the expression is false, jumps (through its true list) otherwise. -/
def goIfFalse (e : ExpDesc) : C ExpDesc := do
  let e ← dischargeVars e
  let p : Int ← match e.kind with
    | .jmp p => pure p
    | .nil | .falseConst => pure noJump
    | _ => do
      let j ← jumpOnCond e true
      pure (j : Int)
  let t ← concatJumps e.t p
  patchToHere e.f
  return { e with t, f := noJump }

/-- `not e`, folded on constants. -/
def codeNot (e : ExpDesc) : C ExpDesc := do
  let e ← match e.kind with
    | .nil | .falseConst => pure { e with kind := .trueConst }
    | .k _ | .kflt _ | .kint _ | .kstr _ | .trueConst => pure { e with kind := .falseConst }
    | .jmp _ => do negateCondition e; pure e
    | .reloc _ | .nonReloc _ => do
      let e ← discharge2anyreg e
      freeExp e
      let r := match e.kind with
        | .nonReloc r => r
        | _ => 0
      pure { e with kind := .reloc (← codeABC .lnot 0 r 0) }
    | _ => pure e
  let e := { e with t := e.f, f := e.t }
  let fuel := (← pc) + 1
  removeValues e.f fuel
  removeValues e.t fuel
  return e

/-- The expression is a string constant operand that fits in `B`. -/
def isKstr (e : ExpDesc) : C Bool := do
  match e.kind with
  | .k i =>
    if e.hasJumps || i > maxArgB then return false
    match (← fs).f.consts[i]? with
    | some (.str s) => return s.size ≤ 40
    | _ => return false
  | _ => return false

/-- The expression is an integer constant. -/
def isKint (e : ExpDesc) : Bool :=
  match e.kind with
  | .kint _ => !e.hasJumps
  | _ => false

/-- The expression is an integer constant that fits in `C`. -/
def isCint (e : ExpDesc) : Bool :=
  match e.kind with
  | .kint n => !e.hasJumps && 0 ≤ n && n ≤ maxArgC
  | _ => false

/-- The expression is an integer constant that fits in a signed byte. -/
def isSCint (e : ExpDesc) : Bool :=
  match e.kind with
  | .kint n => !e.hasJumps && fitsC n
  | _ => false

/-- The expression is a double with an integer value. Such an operand marks a comparison as
made on a double, also when it is not encoded in the instruction. -/
def isIntegralFloat (e : ExpDesc) : Bool :=
  match e.kind with
  | .kflt f => ((Numeral.flt f).toInteger?).isSome
  | _ => false

/-- The expression is a number that fits in a signed byte: its stored operand. -/
def isSCnumber (e : ExpDesc) : Option Nat :=
  let v? : Option Int := match e.kind with
    | .kint n => some n
    | .kflt f => (Numeral.flt f).toInteger?
    | _ => none
  match v? with
  | some i => if !e.hasJumps && fitsC i then some (i + offsetSC).toNat else none
  | none => none

/-- `t[k]`: `t` is in a register or an upvalue, `k` any expression. -/
def indexed (t k : ExpDesc) : C ExpDesc := do
  let k ← match k.kind with
    | .kstr s => do
      let ki ← stringK s
      pure { k with kind := .k ki }
    | _ => pure k
  let t ← match t.kind with
    | .upval _ => do if !(← isKstr k) then pure (← exp2anyreg t).2 else pure t
    | _ => pure t
  match t.kind with
  | .upval idx =>
    match k.kind with
    | .k ki => return { t with kind := .indexUp idx ki }
    | _ => return t
  | _ =>
    let treg := match t.kind with
      | .localVar _ r => r
      | .nonReloc r => r
      | _ => 0
    if ← isKstr k then
      match k.kind with
      | .k ki => return { t with kind := .indexStr treg ki }
      | _ => return t
    else if isCint k then
      match k.kind with
      | .kint n => return { t with kind := .indexInt treg n.toNat }
      | _ => return t
    else
      let (kr, _) ← exp2anyreg k
      return { t with kind := .indexed treg kr }

/-! ## Operators -/

/-- Folding cannot fail at run time: bitwise operands are integers, divisors are not zero. -/
def validOp (op : ArithOp) (v1 v2 : Numeral) : Bool :=
  if op.isBitwise then v1.toInteger?.isSome && v2.toInteger?.isSome
  else match op with
    | .div | .idiv | .mod => !Numeral.eq v2 (.int 0)
    | _ => true

/-- The folded value of an operator on two numbers. -/
def foldArith (op : ArithOp) (v1 v2 : Numeral) : Option Numeral :=
  if op.isBitwise then
    match v1.toInteger?, v2.toInteger? with
    | some x, some y => some (.int (bitwise op x y))
    | _, _ => none
  else
    match arith op v1 v2 with
    | .ok r => some r
    | .error _ => none

/-- The result of folding, when it is an integer or a double other than NaN and zero. -/
def foldedExp (r : Numeral) (e1 : ExpDesc) : Option ExpDesc :=
  match r with
  | .int n => some { e1 with kind := .kint n }
  | .flt f =>
    if f.isNaN || f.toFloat == 0 then none else some { e1 with kind := .kflt f }

/-- Folds a binary operator on two numeric constants. -/
def constFolding (op : ArithOp) (e1 e2 : ExpDesc) : Option ExpDesc :=
  match e1.numeral?, e2.numeral? with
  | some v1, some v2 =>
    if !validOp op v1 v2 then none
    else (foldArith op v1 v2).bind (foldedExp · e1)
  | _, _ => none

/-- Emits a unary operator on a register. -/
def codeUnExpVal (o : OpCode) (e : ExpDesc) (line : Nat) : C ExpDesc := do
  let (r, e) ← exp2anyreg e
  freeExp e
  let p ← codeABC o 0 r 0
  fixLine line
  return { e with kind := .reloc p }

/-- Emits a binary operation and the metamethod call that follows it. -/
def finishBinExpVal (e1 e2 : ExpDesc) (o : OpCode) (v2 : Nat) (flip : Bool) (line : Nat)
    (mmop : OpCode) (event : Event) : C ExpDesc := do
  let (v1, e1) ← exp2anyreg e1
  let p ← codeABC o 0 v1 v2
  freeExps e1 e2
  fixLine line
  let _ ← codeABC mmop v1 v2 event.number flip
  fixLine line
  return { e1 with kind := .reloc p }

/-- The operation of an arithmetic operator on two registers. -/
def arithOpCode (op : ArithOp) : OpCode := (OpCode.all.getD (op.index + OpCode.add.code) .add)

/-- The operation of an arithmetic operator with a constant operand. -/
def arithKOpCode (op : ArithOp) : OpCode := (OpCode.all.getD (op.index + OpCode.addK.code) .addK)

/-- A binary operation on two registers. -/
def codeBinExpVal (op : ArithOp) (e1 e2 : ExpDesc) (line : Nat) : C ExpDesc := do
  let (v2, e2) ← exp2anyreg e2
  finishBinExpVal e1 e2 (arithOpCode op) v2 false line .mmBin (Event.ofArith op)

/-- A binary operation with an immediate integer operand. -/
def codeBinI (o : OpCode) (e1 e2 : ExpDesc) (flip : Bool) (line : Nat) (event : Event) :
    C ExpDesc := do
  let v2 := match e2.kind with
    | .kint n => (n + offsetSC).toNat
    | _ => 0
  finishBinExpVal e1 e2 o v2 flip line .mmBinI event

/-- A binary operation with a constant operand. -/
def codeBinK (op : ArithOp) (e1 e2 : ExpDesc) (flip : Bool) (line : Nat) : C ExpDesc := do
  let v2 := match e2.kind with
    | .k i => i
    | _ => 0
  finishBinExpVal e1 e2 (arithKOpCode op) v2 flip line .mmBinK (Event.ofArith op)

/-- Codes `e1 op e2` as `e1 op' (-e2)` for a small integer `e2`, the metamethod still seeing
`e2`. -/
def finishBinExpNeg (e1 e2 : ExpDesc) (o : OpCode) (line : Nat) (event : Event) :
    C (Option ExpDesc) := do
  if !isKint e2 then return none
  match e2.kind with
  | .kint i2 =>
    if !(fitsC i2 && fitsC (-i2)) then return none
    let e1 ← finishBinExpVal e1 e2 o ((-i2) + offsetSC).toNat false line .mmBinI event
    let last := (← pc) - 1
    setInstr last ((← instrAt last).setB (i2 + offsetSC).toNat)
    return some e1
  | _ => return none

/-- A binary operation with no constant operand; `flip` says the operands were swapped. -/
def codeBinNoK (op : ArithOp) (e1 e2 : ExpDesc) (flip : Bool) (line : Nat) : C ExpDesc :=
  if flip then codeBinExpVal op e2 e1 line else codeBinExpVal op e1 e2 line

/-- An arithmetic operation, with a constant operand when the second operand is a number that
fits. -/
def codeArith (op : ArithOp) (e1 e2 : ExpDesc) (flip : Bool) (line : Nat) : C ExpDesc := do
  if e2.numeral?.isSome then
    if let some e2' ← exp2K e2 then return ← codeBinK op e1 e2' flip line
  codeBinNoK op e1 e2 flip line

/-- A commutative operation (`+`, `*`): a numeric first operand is swapped to second. -/
def codeCommutative (op : ArithOp) (e1 e2 : ExpDesc) (line : Nat) : C ExpDesc := do
  let (e1, e2, flip) := if e1.numeral?.isSome then (e2, e1, true) else (e1, e2, false)
  if op == ArithOp.add && isSCint e2 then codeBinI .addI e1 e2 flip line .add
  else codeArith op e1 e2 flip line

/-- A bitwise operation: an integer first operand is swapped to second. -/
def codeBitwise (op : ArithOp) (e1 e2 : ExpDesc) (line : Nat) : C ExpDesc := do
  let (e1, e2, flip) := match e1.kind with
    | .kint _ => (e2, e1, true)
    | _ => (e1, e2, false)
  match e2.kind with
  | .kint _ =>
    if let some e2' ← exp2K e2 then return ← codeBinK op e1 e2' flip line
  | _ => pure ()
  codeBinNoK op e1 e2 flip line

/-- An order comparison (`<`, `<=`), with an immediate operand when one side is a small
number. -/
def codeOrder (isLt : Bool) (e1 e2 : ExpDesc) : C ExpDesc := do
  let (r1, r2, isFloat, o, e1, e2) ← match isSCnumber e2, isSCnumber e1 with
    | some im, _ => do
      let (r1, e1) ← exp2anyreg e1
      pure (r1, im, isIntegralFloat e2, if isLt then OpCode.ltI else .leI, e1, e2)
    | none, some im => do
      let (r1, e2) ← exp2anyreg e2
      pure (r1, im, isIntegralFloat e2 || isIntegralFloat e1,
        if isLt then OpCode.gtI else .geI, e1, e2)
    | none, none => do
      let isFloat := isIntegralFloat e2 || isIntegralFloat e1
      let (r1, e1) ← exp2anyreg e1
      let (r2, e2) ← exp2anyreg e2
      pure (r1, r2, isFloat, if isLt then OpCode.lt else .le, e1, e2)
  freeExps e1 e2
  let j ← condJump o r1 r2 (if isFloat then 1 else 0) true
  return { kind := .jmp j }

/-- An equality comparison; the first operand is already a register or a constant. -/
def codeEq (isEq : Bool) (e1 e2 : ExpDesc) : C ExpDesc := do
  let (e1, e2) := match e1.kind with
    | .nonReloc _ => (e1, e2)
    | _ => (e2, e1)
  let (r1, e1) ← exp2anyreg e1
  let isFloat := isIntegralFloat e2
  let (o, r2, e2) ← match isSCnumber e2 with
    | some im => pure (OpCode.eqI, im, e2)
    | none => do
      let (c, isK, e2) ← exp2RK e2
      if isK then pure (OpCode.eqK, c, e2)
      else pure (OpCode.eq, c, e2)
  freeExps e1 e2
  let j ← condJump o r1 r2 (if isFloat then 1 else 0) isEq
  return { kind := .jmp j }

/-- A unary operator on an expression. -/
def prefixOp (op : UnOpr) (e : ExpDesc) (line : Nat) : C ExpDesc := do
  let e ← dischargeVars e
  match op with
  | .minus =>
    match e.numeral? with
    | some v =>
      match foldedExp (negate v) e with
      | some e' => return e'
      | none => codeUnExpVal .unm e line
    | none => codeUnExpVal .unm e line
  | .bnot =>
    match e.numeral?.bind Numeral.toInteger? with
    | some n => return { e with kind := .kint (complement n) }
    | none => codeUnExpVal .bnot e line
  | .len => codeUnExpVal .len e line
  | .not => codeNot e

/-- Prepares the first operand of a binary operator before the second is read. -/
def infixOp (op : BinOpr) (v : ExpDesc) : C ExpDesc := do
  let v ← dischargeVars v
  match op with
  | .and => goIfTrue v
  | .or => goIfFalse v
  | .concat => exp2nextreg v
  | .arith _ => if v.numeral?.isSome then return v else return (← exp2anyreg v).2
  | .eq | .ne => if v.numeral?.isSome then return v else return (← exp2RK v).2.2
  | .lt | .le | .gt | .ge =>
    if (isSCnumber v).isSome then return v else return (← exp2anyreg v).2

/-- `e1 .. e2`: a concatenation into the second operand's concatenation joins it. -/
def codeConcat (e1 e2 : ExpDesc) (line : Nat) : C ExpDesc := do
  let ie2 ← previousInstruction
  let r1 := match e1.kind with
    | .nonReloc r => r
    | _ => 0
  if ie2.is .concat then
    let n := ie2.b
    freeExp e2
    setInstr ((← pc) - 1) ((ie2.setA r1).setB (n + 1))
  else
    let _ ← codeABC .concat r1 2 0
    freeExp e2
    fixLine line
  return e1

/-- Finishes a binary operator once both operands are read. -/
def posfixOp (op : BinOpr) (e1 e2 : ExpDesc) (line : Nat) : C ExpDesc := do
  let e2 ← dischargeVars e2
  if let .arith a := op then
    if let some e := constFolding a e1 e2 then return e
  match op with
  | .and =>
    let f ← concatJumps e2.f e1.f
    return { e2 with f }
  | .or =>
    let t ← concatJumps e2.t e1.t
    return { e2 with t }
  | .concat =>
    let e2 ← exp2nextreg e2
    codeConcat e1 e2 line
  | .arith a =>
    match a with
    | .add | .mul => codeCommutative a e1 e2 line
    | .sub =>
      match ← finishBinExpNeg e1 e2 .addI line .sub with
      | some e => return e
      | none => codeArith .sub e1 e2 false line
    | .div | .idiv | .mod | .pow => codeArith a e1 e2 false line
    | .band | .bor | .bxor => codeBitwise a e1 e2 line
    | .shl =>
      if isSCint e1 then codeBinI .shlI e2 e1 true line .shl
      else match ← finishBinExpNeg e1 e2 .shrI line .shl with
        | some e => return e
        | none => codeBinExpVal .shl e1 e2 line
    | .shr =>
      if isSCint e2 then codeBinI .shrI e1 e2 false line .shr
      else codeBinExpVal .shr e1 e2 line
  | .eq => codeEq true e1 e2
  | .ne => codeEq false e1 e2
  | .gt => codeOrder true e2 e1
  | .ge => codeOrder false e2 e1
  | .lt => codeOrder true e1 e2
  | .le => codeOrder false e1 e2

/-! ## Tables and the end of a function -/

/-- The least `n` with `2 ^ n ≥ x`. -/
def hashSizeLog (x : Nat) : Nat := go 0 (x + 1)
where
  go (n : Nat) : Nat → Nat
    | 0 => n
    | fuel + 1 => if Nat.pow 2 n ≥ x then n else go (n + 1) fuel

/-- Fills in the sizes of the table made at `pc`: the array size split between `C` and an extra
argument, the hash size as a logarithm. -/
def setTableSize (pc ra asize hsize : Nat) : C Unit := do
  let rb := if hsize != 0 then hashSizeLog hsize + 1 else 0
  let extra := asize / (maxArgC + 1)
  let rc := asize % (maxArgC + 1)
  setInstr pc (Instr.ofABC .newTable ra rb rc (extra > 0))
  setInstr (pc + 1) (Instr.ofAx .extraArg extra)

/-- Stores the values in the registers after `base` into the table in `base`, the last of them
at position `nelems`; `tostore` of them, or all up to the top when it is `-1`. -/
def setList (base nelems : Nat) (tostore : Int) : C Unit := do
  let tostore := if tostore == -1 then 0 else tostore.toNat
  if nelems ≤ maxArgC then let _ ← codeABC .setList base tostore nelems
  else
    let extra := nelems / (maxArgC + 1)
    let _ ← codeABC .setList base tostore (nelems % (maxArgC + 1)) true
    let _ ← codeExtraArg extra
  modifyFs fun fs => { fs with freeReg := base + 1 }

/-- The final target of a jump, following jumps to jumps (at most 100). -/
def finalTarget (code : Array Instr) (i : Nat) : Nat :=
  go i 100
where
  go (i : Nat) : Nat → Nat
    | 0 => i
    | n + 1 =>
      let ins := code.getD i Instr.invalid
      if !ins.is .jmp then i else go ((i : Int) + ins.sJ + 1).toNat n

/-- The last pass over a function's code: returns that must close upvalues or that leave a
function with extra arguments get their flags, and jumps go straight to their final
targets. -/
def finish : C Unit := do
  let fs ← fs
  let p := fs.f
  for i in List.range p.code.size do
    let ins ← instrAt i
    let flagged (ins : Instr) : Instr :=
      let ins := if fs.needClose then ins.setK true else ins
      if p.isVararg then ins.setC (p.numParams + 1) else ins
    if ins.is .ret0 || ins.is .ret1 then
      if fs.needClose || p.isVararg then setInstr i (flagged (ins.setOp .ret))
    else if ins.is .ret || ins.is .tailCall then
      setInstr i (flagged ins)
    else if ins.is .jmp then
      let target := finalTarget (← C.fs).f.code i
      fixJump i target

end Gen

end CounterCache.Lua.Code
