import CounterCache.Lua.Code.Proto

/-!
# Names of values in messages

When an operation fails on a value, Lua's message says what the value was in the source: a
local, an upvalue, a global, a field, a method, a constant. The compiled code is all there is to
go on, so the name is found by reading it backwards: a register that holds a live local is that
local; otherwise the last instruction before the failing one that set the register tells where
its value came from — a copy of another register, an upvalue, a constant, or a field of a table
(a global when the table is `_ENV`). An instruction that a jump may have skipped tells nothing.

The name of a called function is found the same way from the instruction that made the call;
a call made by an operator is its metamethod, named after the event.
-/

namespace CounterCache.Lua.Code

namespace Proto

/-- The instruction at a position; an invalid word past the end. -/
def instrAt (p : Proto) (pc : Nat) : Instr := p.code.getD pc Instr.invalid

/-- The last instruction before `lastPc` that set register `reg`, unless a jump before
`lastPc` may skip it. The metamethod call after an arithmetic instruction does not count as
run. -/
def findSetReg (p : Proto) (lastPc reg : Nat) : Option Nat :=
  let lastPc := if (p.instrAt lastPc).op?.any OpCode.isMetaBin then lastPc - 1 else lastPc
  let step (acc : Option Nat × Int) (pc : Nat) : Option Nat × Int :=
    let (setReg, jmpTarget) := acc
    let i := p.instrAt pc
    let a := i.a
    let (change, jmpTarget) : Bool × Int := match i.op? with
      | some .loadNil => (a ≤ reg && reg ≤ a + i.b, jmpTarget)
      | some .tforCall => (reg ≥ a + 2, jmpTarget)
      | some .call | some .tailCall => (reg ≥ a, jmpTarget)
      | some .jmp =>
        let dest : Int := (pc : Int) + 1 + i.sJ
        (false, if dest ≤ lastPc && dest > jmpTarget then dest else jmpTarget)
      | some o => (o.setsA && reg == a, jmpTarget)
      | none => (false, jmpTarget)
    if change then (if (pc : Int) < jmpTarget then none else some pc, jmpTarget)
    else (setReg, jmpTarget)
  ((List.range lastPc).foldl step (none, 0)).1

/-- A constant as a name: a string constant is its text up to its first zero byte; any other
is `?`, and no kind. -/
def kname (p : Proto) (idx : Nat) : Option String × String :=
  match p.consts[idx]? with
  | some (.str s) => (some "constant", Text.decodeUtf8Lossy (cString s.data.toList))
  | _ => (none, "?")

/-- What simple code says register `reg` holds at `pc`: a local, an upvalue, a constant or a
copy of a lower register; with the instruction that set it, when one was found. -/
def basicName (p : Proto) : (pc reg : Nat) → (fuel : Nat) → Option String × Option String × Option Nat
  | pc, _, 0 => (none, none, some pc)
  | pc, reg, fuel + 1 =>
    match p.localName (reg + 1) pc with
    | some n => (some "local", some n, some pc)
    | none =>
      match p.findSetReg pc reg with
      | none => (none, none, none)
      | some spc =>
        let i := p.instrAt spc
        match i.op? with
        | some .move => if i.b < i.a then p.basicName spc i.b fuel else (none, none, some spc)
        | some .getUpval => (some "upvalue", some (p.upvalName i.b), some spc)
        | some .loadK => let (k, n) := p.kname i.bx; (k, some n, some spc)
        | some .loadKX => let (k, n) := p.kname (p.instrAt (spc + 1)).ax; (k, some n, some spc)
        | _ => (none, none, some spc)

/-- The name of a key register: the constant it holds, else `?`. -/
def rname (p : Proto) (pc reg : Nat) : String :=
  match p.basicName pc reg p.code.size with
  | (some "constant", some n, _) => n
  | _ => "?"

/-- The name of a key that is a constant or a register, as the flag of `i` says. -/
def rkname (p : Proto) (pc : Nat) (i : Instr) : String :=
  if i.k then (p.kname i.c).2 else p.rname pc i.c

/-- Whether the table an indexing instruction reads is `_ENV`: its key is then a global. -/
def tableKind (p : Proto) (pc : Nat) (i : Instr) (isUp : Bool) : String :=
  let name := if isUp then some (p.upvalName i.b) else (p.basicName pc i.b p.code.size).2.1
  if name == some "_ENV" then "global" else "field"

/-- What register `reg` holds at instruction `pc`, for messages: a kind and a name. -/
def objName (p : Proto) (pc reg : Nat) : Option (String × String) :=
  match p.basicName pc reg p.code.size with
  | (some kind, some name, _) => some (kind, name)
  | (some kind, none, _) => some (kind, "?")
  | (none, _, none) => none
  | (none, _, some spc) =>
    let i := p.instrAt spc
    match i.op? with
    | some .getTabUp => some (p.tableKind spc i true, (p.kname i.c).2)
    | some .getTable => some (p.tableKind spc i false, p.rname spc i.c)
    | some .getI => some ("field", "integer index")
    | some .getField => some (p.tableKind spc i false, (p.kname i.c).2)
    | some .method => some ("method", p.rkname spc i)
    | _ => none

/-- The name of the function called by instruction `pc`: the called register's name for a
call, `for iterator` for a generic loop's call, or the metamethod of an operator. -/
def callName (p : Proto) (pc : Nat) : Option (String × String) :=
  let i := p.instrAt pc
  let viaMeta (e : String) : Option (String × String) := some ("metamethod", e)
  match i.op? with
  | some .call | some .tailCall => p.objName pc i.a
  | some .tforCall => some ("for iterator", "for iterator")
  | some .method | some .getTabUp | some .getTable | some .getI | some .getField => viaMeta "index"
  | some .setTabUp | some .setTable | some .setI | some .setField => viaMeta "newindex"
  | some .mmBin | some .mmBinI | some .mmBinK => viaMeta (Event.ofNumber i.c).name
  | some .unm => viaMeta "unm"
  | some .bnot => viaMeta "bnot"
  | some .len => viaMeta "len"
  | some .concat => viaMeta "concat"
  | some .eq => viaMeta "eq"
  | some .lt | some .ltI | some .gtI => viaMeta "lt"
  | some .le | some .leI | some .geI => viaMeta "le"
  | some .close | some .ret => viaMeta "close"
  | _ => none

/-- The chunk name of the function as messages show it, `?` when it was not kept. -/
def shortSource (p : Proto) : String :=
  match p.source with
  | some s => chunkId s
  | none => "?"

end Proto

end CounterCache.Lua.Code
