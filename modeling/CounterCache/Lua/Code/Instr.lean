import CounterCache.Lua.Operator
/-!
# Lua 5.4 instructions

A Lua function compiles to 32-bit instruction words. The low seven bits name the operation and
the rest hold its operands in one of five layouts:

* `iABC`: `A` in the 8 bits from bit 7, the flag `k` at bit 15, `B` in the 8 bits from bit 16
  and `C` in the 8 bits from bit 24;
* `iABx`: `A`, and an unsigned `Bx` in the 17 bits from bit 15;
* `iAsBx`: `A`, and a signed `sBx` stored as `Bx` less `65535`;
* `iAx`: an unsigned `Ax` in the 25 bits from bit 7;
* `isJ`: a signed jump offset `sJ` in the 25 bits from bit 7, stored less `16777215`.

A signed byte operand (`sB`, `sC`) is stored as the byte less `127`.

`Instr` is the encoded word: the code generator builds and patches it field by field, and binary
chunks hold it. `Op` is an instruction decoded once, with its operands named, as the machine
runs it.
-/

namespace CounterCache.Lua.Code

/-- The operations, in the order of their codes. -/
inductive OpCode where
  | move | loadI | loadF | loadK | loadKX | loadFalse | lFalseSkip | loadTrue | loadNil
  | getUpval | setUpval | getTabUp | getTable | getI | getField
  | setTabUp | setTable | setI | setField | newTable | method
  | addI | addK | subK | mulK | modK | powK | divK | idivK | bandK | borK | bxorK | shrI | shlI
  | add | sub | mul | mod | pow | div | idiv | band | bor | bxor | shl | shr
  | mmBin | mmBinI | mmBinK
  | unm | bnot | lnot | len | concat | close | tbc | jmp
  | eq | lt | le | eqK | eqI | ltI | leI | gtI | geI | test | testSet
  | call | tailCall | ret | ret0 | ret1
  | forLoop | forPrep | tforPrep | tforCall | tforLoop
  | setList | closure | vararg | varargPrep | extraArg
  deriving DecidableEq, Repr, Inhabited

namespace OpCode

/-- Every operation, in the order of their codes. -/
def all : Array OpCode :=
  #[.move, .loadI, .loadF, .loadK, .loadKX, .loadFalse, .lFalseSkip, .loadTrue, .loadNil,
    .getUpval, .setUpval, .getTabUp, .getTable, .getI, .getField,
    .setTabUp, .setTable, .setI, .setField, .newTable, .method,
    .addI, .addK, .subK, .mulK, .modK, .powK, .divK, .idivK, .bandK, .borK, .bxorK, .shrI, .shlI,
    .add, .sub, .mul, .mod, .pow, .div, .idiv, .band, .bor, .bxor, .shl, .shr,
    .mmBin, .mmBinI, .mmBinK,
    .unm, .bnot, .lnot, .len, .concat, .close, .tbc, .jmp,
    .eq, .lt, .le, .eqK, .eqI, .ltI, .leI, .gtI, .geI, .test, .testSet,
    .call, .tailCall, .ret, .ret0, .ret1,
    .forLoop, .forPrep, .tforPrep, .tforCall, .tforLoop,
    .setList, .closure, .vararg, .varargPrep, .extraArg]

/-- The code of an operation. -/
def code : OpCode → Nat
  | .move => 0 | .loadI => 1 | .loadF => 2 | .loadK => 3 | .loadKX => 4 | .loadFalse => 5
  | .lFalseSkip => 6 | .loadTrue => 7 | .loadNil => 8 | .getUpval => 9 | .setUpval => 10
  | .getTabUp => 11 | .getTable => 12 | .getI => 13 | .getField => 14 | .setTabUp => 15
  | .setTable => 16 | .setI => 17 | .setField => 18 | .newTable => 19 | .method => 20
  | .addI => 21 | .addK => 22 | .subK => 23 | .mulK => 24 | .modK => 25 | .powK => 26
  | .divK => 27 | .idivK => 28 | .bandK => 29 | .borK => 30 | .bxorK => 31 | .shrI => 32
  | .shlI => 33 | .add => 34 | .sub => 35 | .mul => 36 | .mod => 37 | .pow => 38 | .div => 39
  | .idiv => 40 | .band => 41 | .bor => 42 | .bxor => 43 | .shl => 44 | .shr => 45
  | .mmBin => 46 | .mmBinI => 47 | .mmBinK => 48 | .unm => 49 | .bnot => 50 | .lnot => 51
  | .len => 52 | .concat => 53 | .close => 54 | .tbc => 55 | .jmp => 56 | .eq => 57 | .lt => 58
  | .le => 59 | .eqK => 60 | .eqI => 61 | .ltI => 62 | .leI => 63 | .gtI => 64 | .geI => 65
  | .test => 66 | .testSet => 67 | .call => 68 | .tailCall => 69 | .ret => 70 | .ret0 => 71
  | .ret1 => 72 | .forLoop => 73 | .forPrep => 74 | .tforPrep => 75 | .tforCall => 76
  | .tforLoop => 77 | .setList => 78 | .closure => 79 | .vararg => 80 | .varargPrep => 81
  | .extraArg => 82

/-- The operation of a code, if it names one. -/
def ofCode? (n : Nat) : Option OpCode := all[n]?

/-- The operation is a test, which the next instruction, a jump, completes. -/
def isTest : OpCode → Bool
  | .eq | .lt | .le | .eqK | .eqI | .ltI | .leI | .gtI | .geI | .test | .testSet => true
  | _ => false

/-- The operation sets register `A`. -/
def setsA : OpCode → Bool
  | .setUpval | .setTabUp | .setTable | .setI | .setField | .mmBin | .mmBinI | .mmBinK
  | .close | .tbc | .jmp | .eq | .lt | .le | .eqK | .eqI | .ltI | .leI | .gtI | .geI | .test
  | .ret | .ret0 | .ret1 | .tforPrep | .tforCall | .setList | .extraArg => false
  | _ => true

/-- The operation calls a metamethod for the arithmetic instruction before it. -/
def isMetaBin : OpCode → Bool
  | .mmBin | .mmBinI | .mmBinK => true
  | _ => false

theorem ofCode?_code_move : ofCode? OpCode.move.code = some .move := rfl

end OpCode

/-- The largest value of the 8-bit operands `A`, `B` and `C`. -/
def maxArgA : Nat := 255

/-- The largest value of `B`. -/
def maxArgB : Nat := 255

/-- The largest value of `C`. -/
def maxArgC : Nat := 255

/-- The largest value of the 17-bit operand `Bx`. -/
def maxArgBx : Nat := Nat.pow 2 17 - 1

/-- What `sBx` is stored plus. -/
def offsetSBx : Nat := maxArgBx / 2

/-- The largest value of the 25-bit operands `Ax` and `sJ`. -/
def maxArgAx : Nat := Nat.pow 2 25 - 1

/-- What `sJ` is stored plus. -/
def offsetSJ : Nat := maxArgAx / 2

/-- What a signed byte operand is stored plus. -/
def offsetSC : Nat := maxArgC / 2

/-- An encoded instruction. -/
structure Instr where
  bits : UInt32
  deriving BEq, Inhabited

namespace Instr

/-- The code of the operation. -/
def opCode (i : Instr) : Nat := (i.bits &&& 0x7F).toNat

/-- The operation, if the code names one. -/
def op? (i : Instr) : Option OpCode := OpCode.ofCode? i.opCode

/-- The instruction's operation is `o`. -/
def is (i : Instr) (o : OpCode) : Bool := i.opCode == o.code

/-- Operand `A`. -/
def a (i : Instr) : Nat := ((i.bits >>> 7) &&& 0xFF).toNat

/-- The flag `k`. -/
def k (i : Instr) : Bool := (i.bits >>> 15) &&& 1 == 1

/-- Operand `B`. -/
def b (i : Instr) : Nat := ((i.bits >>> 16) &&& 0xFF).toNat

/-- Operand `C`. -/
def c (i : Instr) : Nat := ((i.bits >>> 24) &&& 0xFF).toNat

/-- Operand `B` read as a signed byte. -/
def sB (i : Instr) : Int := (i.b : Int) - offsetSC

/-- Operand `C` read as a signed byte. -/
def sC (i : Instr) : Int := (i.c : Int) - offsetSC

/-- Operand `Bx`. -/
def bx (i : Instr) : Nat := (i.bits >>> 15).toNat

/-- Operand `sBx`. -/
def sBx (i : Instr) : Int := (i.bx : Int) - offsetSBx

/-- Operand `Ax`. -/
def ax (i : Instr) : Nat := (i.bits >>> 7).toNat

/-- The jump offset `sJ`. -/
def sJ (i : Instr) : Int := (i.ax : Int) - offsetSJ

/-- Replaces the bits under `mask` at `pos` by `v`. -/
def setField (i : Instr) (pos : UInt32) (mask : UInt32) (v : Nat) : Instr :=
  ⟨(i.bits &&& ~~~(mask <<< pos)) ||| ((v.toUInt32 &&& mask) <<< pos)⟩

/-- Sets the operation. -/
def setOp (i : Instr) (o : OpCode) : Instr := i.setField 0 0x7F o.code

/-- Sets `A`. -/
def setA (i : Instr) (v : Nat) : Instr := i.setField 7 0xFF v

/-- Sets `B`. -/
def setB (i : Instr) (v : Nat) : Instr := i.setField 16 0xFF v

/-- Sets `C`. -/
def setC (i : Instr) (v : Nat) : Instr := i.setField 24 0xFF v

/-- Sets the flag `k`. -/
def setK (i : Instr) (v : Bool) : Instr := i.setField 15 1 (if v then 1 else 0)

/-- Sets `Bx`. -/
def setBx (i : Instr) (v : Nat) : Instr := i.setField 15 0x1FFFF v

/-- Sets the jump offset `sJ`. -/
def setSJ (i : Instr) (v : Int) : Instr := i.setField 7 0x1FFFFFF (v + offsetSJ).toNat

/-- An instruction of layout `iABC`. -/
def ofABC (o : OpCode) (a b c : Nat) (k : Bool := false) : Instr :=
  (((((⟨0⟩ : Instr).setOp o).setA a).setB b).setC c).setK k

/-- An instruction of layout `iABx`. -/
def ofABx (o : OpCode) (a bx : Nat) : Instr := (((⟨0⟩ : Instr).setOp o).setA a).setBx bx

/-- An instruction of layout `iAsBx`. -/
def ofAsBx (o : OpCode) (a : Nat) (sbx : Int) : Instr := ofABx o a (sbx + offsetSBx).toNat

/-- An instruction of layout `iAx`. -/
def ofAx (o : OpCode) (ax : Nat) : Instr := ((⟨0⟩ : Instr).setOp o).setField 7 0x1FFFFFF ax

/-- An instruction of layout `isJ`. The flag `k` shares its bit with the offset, so it is only
ever added, as Lua's own encoding does. -/
def ofSJ (o : OpCode) (sj : Int) (k : Bool := false) : Instr :=
  let i := ((⟨0⟩ : Instr).setOp o).setSJ sj
  if k then i.setK true else i

/-- The word with every bit set, which no operation has: what an optimisation sees in place of
an instruction that may not come before. -/
def invalid : Instr := ⟨0xFFFFFFFF⟩

theorem a_ofABC_move : (ofABC .move 3 4 0).a = 3 := by decide

end Instr

/-- The events of metamethods, in the order of their numbers. -/
inductive Event where
  | index | newindex | gc | mode | len | eq
  | add | sub | mul | mod | pow | div | idiv | band | bor | bxor | shl | shr
  | unm | bnot | lt | le | concat | call | close
  deriving DecidableEq, Repr, Inhabited

namespace Event

/-- The events in order. -/
def all : Array Event :=
  #[.index, .newindex, .gc, .mode, .len, .eq, .add, .sub, .mul, .mod, .pow, .div, .idiv, .band,
    .bor, .bxor, .shl, .shr, .unm, .bnot, .lt, .le, .concat, .call, .close]

/-- The name of an event, without its leading underscores. -/
def name : Event → String
  | .index => "index" | .newindex => "newindex" | .gc => "gc" | .mode => "mode" | .len => "len"
  | .eq => "eq" | .add => "add" | .sub => "sub" | .mul => "mul" | .mod => "mod" | .pow => "pow"
  | .div => "div" | .idiv => "idiv" | .band => "band" | .bor => "bor" | .bxor => "bxor"
  | .shl => "shl" | .shr => "shr" | .unm => "unm" | .bnot => "bnot" | .lt => "lt" | .le => "le"
  | .concat => "concat" | .call => "call" | .close => "close"

/-- The number of an event. -/
def number (e : Event) : Nat := (all.findIdx? (· == e)).getD 0

/-- The event of a number. -/
def ofNumber (n : Nat) : Event := all.getD n .index

/-- The event of an arithmetic operator. -/
def ofArith (op : ArithOp) : Event := ofNumber (op.index + 6)

theorem name_ofArith_add : (ofArith .add).name = "add" := by decide

end Event

/-- A decoded instruction, operands named as the machine reads them: `a`, `b`, `c` registers,
upvalues or constants as the operation says, `k` its flag, `sb`/`sc` signed bytes, `bx` an
unsigned and `sbx`/`sj` signed wide operands. -/
inductive Op where
  | move (a b : Nat)
  | loadI (a : Nat) (sbx : Int)
  | loadF (a : Nat) (sbx : Int)
  | loadK (a bx : Nat)
  | loadKX (a : Nat)
  | loadFalse (a : Nat)
  | lFalseSkip (a : Nat)
  | loadTrue (a : Nat)
  | loadNil (a b : Nat)
  | getUpval (a b : Nat)
  | setUpval (a b : Nat)
  | getTabUp (a b c : Nat)
  | getTable (a b c : Nat)
  | getI (a b c : Nat)
  | getField (a b c : Nat)
  | setTabUp (a b c : Nat) (k : Bool)
  | setTable (a b c : Nat) (k : Bool)
  | setI (a b c : Nat) (k : Bool)
  | setField (a b c : Nat) (k : Bool)
  | newTable (a b c : Nat) (k : Bool)
  | method (a b c : Nat) (k : Bool)
  | addI (a b : Nat) (sc : Int)
  | arithK (op : ArithOp) (a b c : Nat)
  | shrI (a b : Nat) (sc : Int)
  | shlI (a b : Nat) (sc : Int)
  | arith (op : ArithOp) (a b c : Nat)
  | mmBin (a b c : Nat)
  | mmBinI (a : Nat) (sb : Int) (c : Nat) (k : Bool)
  | mmBinK (a b c : Nat) (k : Bool)
  | unm (a b : Nat)
  | bnot (a b : Nat)
  | lnot (a b : Nat)
  | len (a b : Nat)
  | concat (a b : Nat)
  | close (a : Nat)
  | tbc (a : Nat)
  | jmp (sj : Int)
  | eq (a b : Nat) (k : Bool)
  | lt (a b : Nat) (k : Bool)
  | le (a b : Nat) (k : Bool)
  | eqK (a b : Nat) (k : Bool)
  | eqI (a : Nat) (sb : Int) (k : Bool)
  | ltI (a : Nat) (sb : Int) (isFloat : Bool) (k : Bool)
  | leI (a : Nat) (sb : Int) (isFloat : Bool) (k : Bool)
  | gtI (a : Nat) (sb : Int) (isFloat : Bool) (k : Bool)
  | geI (a : Nat) (sb : Int) (isFloat : Bool) (k : Bool)
  | test (a : Nat) (k : Bool)
  | testSet (a b : Nat) (k : Bool)
  | call (a b c : Nat)
  | tailCall (a b c : Nat) (k : Bool)
  | ret (a b c : Nat) (k : Bool)
  | ret0
  | ret1 (a : Nat)
  | forLoop (a bx : Nat)
  | forPrep (a bx : Nat)
  | tforPrep (a bx : Nat)
  | tforCall (a c : Nat)
  | tforLoop (a bx : Nat)
  | setList (a b c : Nat) (k : Bool)
  | closure (a bx : Nat)
  | vararg (a c : Nat)
  | varargPrep (a : Nat)
  | extraArg (ax : Nat)
  /-- A word whose code names no operation. -/
  | invalid (code : Nat)
  deriving Inhabited

namespace Instr

/-- Decodes an instruction. -/
def decode (i : Instr) : Op :=
  match i.op? with
  | none => .invalid i.opCode
  | some o =>
    match o with
    | .move => .move i.a i.b
    | .loadI => .loadI i.a i.sBx
    | .loadF => .loadF i.a i.sBx
    | .loadK => .loadK i.a i.bx
    | .loadKX => .loadKX i.a
    | .loadFalse => .loadFalse i.a
    | .lFalseSkip => .lFalseSkip i.a
    | .loadTrue => .loadTrue i.a
    | .loadNil => .loadNil i.a i.b
    | .getUpval => .getUpval i.a i.b
    | .setUpval => .setUpval i.a i.b
    | .getTabUp => .getTabUp i.a i.b i.c
    | .getTable => .getTable i.a i.b i.c
    | .getI => .getI i.a i.b i.c
    | .getField => .getField i.a i.b i.c
    | .setTabUp => .setTabUp i.a i.b i.c i.k
    | .setTable => .setTable i.a i.b i.c i.k
    | .setI => .setI i.a i.b i.c i.k
    | .setField => .setField i.a i.b i.c i.k
    | .newTable => .newTable i.a i.b i.c i.k
    | .method => .method i.a i.b i.c i.k
    | .addI => .addI i.a i.b i.sC
    | .addK => .arithK .add i.a i.b i.c
    | .subK => .arithK .sub i.a i.b i.c
    | .mulK => .arithK .mul i.a i.b i.c
    | .modK => .arithK .mod i.a i.b i.c
    | .powK => .arithK .pow i.a i.b i.c
    | .divK => .arithK .div i.a i.b i.c
    | .idivK => .arithK .idiv i.a i.b i.c
    | .bandK => .arithK .band i.a i.b i.c
    | .borK => .arithK .bor i.a i.b i.c
    | .bxorK => .arithK .bxor i.a i.b i.c
    | .shrI => .shrI i.a i.b i.sC
    | .shlI => .shlI i.a i.b i.sC
    | .add => .arith .add i.a i.b i.c
    | .sub => .arith .sub i.a i.b i.c
    | .mul => .arith .mul i.a i.b i.c
    | .mod => .arith .mod i.a i.b i.c
    | .pow => .arith .pow i.a i.b i.c
    | .div => .arith .div i.a i.b i.c
    | .idiv => .arith .idiv i.a i.b i.c
    | .band => .arith .band i.a i.b i.c
    | .bor => .arith .bor i.a i.b i.c
    | .bxor => .arith .bxor i.a i.b i.c
    | .shl => .arith .shl i.a i.b i.c
    | .shr => .arith .shr i.a i.b i.c
    | .mmBin => .mmBin i.a i.b i.c
    | .mmBinI => .mmBinI i.a i.sB i.c i.k
    | .mmBinK => .mmBinK i.a i.b i.c i.k
    | .unm => .unm i.a i.b
    | .bnot => .bnot i.a i.b
    | .lnot => .lnot i.a i.b
    | .len => .len i.a i.b
    | .concat => .concat i.a i.b
    | .close => .close i.a
    | .tbc => .tbc i.a
    | .jmp => .jmp i.sJ
    | .eq => .eq i.a i.b i.k
    | .lt => .lt i.a i.b i.k
    | .le => .le i.a i.b i.k
    | .eqK => .eqK i.a i.b i.k
    | .eqI => .eqI i.a i.sB i.k
    | .ltI => .ltI i.a i.sB (i.c != 0) i.k
    | .leI => .leI i.a i.sB (i.c != 0) i.k
    | .gtI => .gtI i.a i.sB (i.c != 0) i.k
    | .geI => .geI i.a i.sB (i.c != 0) i.k
    | .test => .test i.a i.k
    | .testSet => .testSet i.a i.b i.k
    | .call => .call i.a i.b i.c
    | .tailCall => .tailCall i.a i.b i.c i.k
    | .ret => .ret i.a i.b i.c i.k
    | .ret0 => .ret0
    | .ret1 => .ret1 i.a
    | .forLoop => .forLoop i.a i.bx
    | .forPrep => .forPrep i.a i.bx
    | .tforPrep => .tforPrep i.a i.bx
    | .tforCall => .tforCall i.a i.c
    | .tforLoop => .tforLoop i.a i.bx
    | .setList => .setList i.a i.b i.c i.k
    | .closure => .closure i.a i.bx
    | .vararg => .vararg i.a i.c
    | .varargPrep => .varargPrep i.a
    | .extraArg => .extraArg i.ax

end Instr

end CounterCache.Lua.Code
