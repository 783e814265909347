import CounterCache.Lua.Code.Proto
import CounterCache.Lua.Lexer
import Std.Data.HashMap

/-!
# The compiler's state

What the compiler keeps while it reads a chunk: the tokens and the position in them; the line
of the last token read, which every instruction it emits is filed under; the functions being
compiled, innermost first; the local variables in scope, the labels and the pending `goto`s of
all of them; and the constants already placed, so that a constant is placed once per function.

A function being compiled (`FuncState`) is a prototype that grows instruction by instruction,
with the blocks open in it, its count of active locals and its first free register.

An expression being compiled (`ExpDesc`) is not yet code: it says where its value is or how to
get it (a constant, a register, a variable, a table field, the result of an instruction whose
target register is still open), with two lists of jumps still to patch, taken when it is true
and when it is false.
-/

namespace CounterCache.Lua.Code

/-- Why a chunk does not compile: a syntax error with its whole message, or syntax nested so
deeply that it reaches the limit of the interpreter's recursion. -/
inductive CompileError where
  | malformed (msg : String)
  | overflow
  deriving Inhabited

/-- The text of a compile failure, as a load reports it. -/
def CompileError.message : CompileError → String
  | .malformed msg => msg
  | .overflow => "C stack overflow"

/-- The kind of a local variable: a regular one, a `<const>` one held in a register, a
`<close>` one, or a `<const>` one whose value is known when compiling and takes no register. -/
inductive VarKind where
  | regular | readOnly | toClose | compileTime
  deriving DecidableEq, Repr, Inhabited

/-- The byte a kind is stored as. -/
def VarKind.byte : VarKind → Nat
  | .regular => 0 | .readOnly => 1 | .toClose => 2 | .compileTime => 3

/-- A local variable in scope: its name, kind, register, entry in the debugging information,
and its value when known at compile time. -/
structure LocalDesc where
  name : String
  kind : VarKind := .regular
  reg : Nat := 0
  debugIndex : Nat := 0
  value : Value := .nil
  deriving Inhabited

/-- A label, or a `goto` (or `break`) waiting for its label: the name, the position of its code,
its line, the number of active locals there, and whether a jump to it must close upvalues. -/
structure LabelDesc where
  name : String
  pc : Int
  line : Nat
  nactvar : Nat
  close : Bool := false
  deriving Inhabited

/-- An open block: where its labels and pending `goto`s start, the locals active outside it,
whether one of its variables is captured by a closure, whether it is a loop, and whether a
to-be-closed variable is in scope. -/
structure BlockCnt where
  firstLabel : Nat
  firstGoto : Nat
  nactvar : Nat
  upval : Bool := false
  isLoop : Bool
  insideTbc : Bool
  deriving Inhabited

/-- Where an expression's value is, or how to get it. -/
inductive ExpKind where
  /-- No value: an empty expression list. -/
  | void
  | nil
  | trueConst
  | falseConst
  /-- A constant of the function, by index. -/
  | k (idx : Nat)
  | kflt (f : Double)
  | kint (n : Int)
  | kstr (s : ByteArray)
  /-- A value in a fixed register. -/
  | nonReloc (reg : Nat)
  /-- A local variable: its index among the function's locals and its register. -/
  | localVar (vidx reg : Nat)
  | upval (idx : Nat)
  /-- A compile-time constant local, by its index among all locals in scope. -/
  | constLocal (idx : Nat)
  /-- `t[k]`, table and key in registers. -/
  | indexed (t key : Nat)
  /-- `t[k]`, table an upvalue and key a string constant. -/
  | indexUp (t key : Nat)
  /-- `t[k]`, table in a register and key a small integer. -/
  | indexInt (t key : Nat)
  /-- `t[k]`, table in a register and key a string constant. -/
  | indexStr (t key : Nat)
  /-- A test, whose jump is at `pc`. -/
  | jmp (pc : Nat)
  /-- The result of the instruction at `pc`, whose target register is still to set. -/
  | reloc (pc : Nat)
  /-- A call at `pc`. -/
  | call (pc : Nat)
  /-- `...` at `pc`. -/
  | vararg (pc : Nat)
  deriving Inhabited

/-- The end of a jump list. -/
def noJump : Int := -1

/-- An expression being compiled, with its lists of jumps to patch when it is true and when it
is false. -/
structure ExpDesc where
  kind : ExpKind
  t : Int := noJump
  f : Int := noJump
  deriving Inhabited

/-- The expression has jumps still to patch. -/
def ExpDesc.hasJumps (e : ExpDesc) : Bool := e.t != e.f

/-- The number an expression is, if it is a numeric constant. -/
def ExpDesc.numeral? (e : ExpDesc) : Option Numeral :=
  if e.hasJumps then none
  else match e.kind with
    | .kint n => some (.int n)
    | .kflt f => some (.flt f)
    | _ => none

/-- The key a constant is cached under: numbers by value, with an integer-valued double under
its integer, strings by their bytes. -/
inductive ConstKey where
  | nil
  | bool (b : Bool)
  | int (n : Int)
  | flt (bits : UInt64)
  | str (s : List UInt8)
  deriving BEq, Hashable, Inhabited

/-- A function being compiled. -/
structure FuncState where
  f : Proto
  /-- The open blocks, innermost first. -/
  blocks : List BlockCnt := []
  /-- The last position that is a jump target. -/
  lastTarget : Nat := 0
  /-- The line of the last instruction. -/
  previousLine : Int
  /-- Instructions since the last absolute line. -/
  sinceAbs : Nat := 0
  /-- Where the function's locals start among all locals in scope. -/
  firstLocal : Nat
  /-- Where the function's labels start. -/
  firstLabel : Nat
  /-- The number of active locals. -/
  nactvar : Nat := 0
  /-- The first free register. -/
  freeReg : Nat := 0
  /-- Whether a return must close upvalues or to-be-closed variables. -/
  needClose : Bool := false
  deriving Inhabited

/-- The compiler's state. -/
structure CompileState where
  toks : Array Token
  pos : Nat := 0
  /-- Whether the token after the current one has been looked at. -/
  peeked : Bool := false
  /-- The line of the last token read. -/
  lastLine : Nat := 1
  /-- The function being compiled. -/
  fs : FuncState
  /-- The functions it is nested in, innermost first. -/
  outer : List FuncState := []
  /-- The locals in scope, of all functions being compiled, and above them those that went
  out of scope last (a block's pending jumps still read them when it closes). -/
  actvar : Array LocalDesc := #[]
  /-- How many of `actvar` are in scope. -/
  nlocals : Nat := 0
  /-- The pending `goto`s. -/
  gotos : Array LabelDesc := #[]
  /-- The visible labels. -/
  labels : Array LabelDesc := #[]
  /-- The constants placed: where each was last placed. -/
  kcache : Std.HashMap ConstKey Nat := {}
  /-- The depth of nested calls, as the interpreter counts them. -/
  level : Nat := 0
  /-- The chunk name. -/
  source : ByteArray
  /-- The chunk name as messages show it. -/
  sourceId : String

/-- The compiler monad. -/
abbrev C := StateT CompileState (Except CompileError)

/-- The deepest nesting of the interpreter's own recursion. -/
def maxCalls : Nat := 200

namespace C

/-- The function being compiled. -/
@[inline] def fs : C FuncState := do return (← get).fs

/-- Changes the function being compiled. -/
@[inline] def modifyFs (g : FuncState → FuncState) : C Unit :=
  modify fun s => { s with fs := g s.fs }

/-- Changes the prototype being built. -/
@[inline] def modifyProto (g : Proto → Proto) : C Unit :=
  modifyFs fun fs => { fs with f := g fs.f }

/-- The position of the next instruction. -/
@[inline] def pc : C Nat := do return (← fs).f.code.size

/-- The current token. -/
def current : C Token := do
  let s ← get
  return s.toks.getD s.pos ⟨.eof, s.lastLine, "<eof>"⟩

/-- The line the lexer stands on: after the current token, or after the next one once that has
been looked at. -/
def lexLine : C Nat := do
  let s ← get
  let i := if s.peeked then s.pos + 1 else s.pos
  return (s.toks.getD i ⟨.eof, s.lastLine, "<eof>"⟩).line

/-- An error message at a line. -/
def failAt {α : Type} (line : Nat) (msg : String) : C α := do
  throw (.malformed ((← get).sourceId ++ ":" ++ toString line ++ ": " ++ msg))

/-- A lexical error. -/
def lexFail {α : Type} (e : LexError) : C α := failAt e.line e.msg

/-- A syntax error near the current token. -/
def syntaxError {α : Type} (msg : String) : C α := do
  failAt (← lexLine) (msg ++ " near " ++ (← current).text)

/-- An error at the lexer's line that names no token. -/
def semError {α : Type} (msg : String) : C α := do
  failAt (← lexLine) msg

/-- Moves to the next token, raising a lexical error found there. -/
def advance : C Unit := do
  let line ← lexLine
  modify fun s => { s with lastLine := line, pos := s.pos + 1, peeked := false }
  match (← current).tok with
  | .error e => lexFail e
  | _ => pure ()

/-- The token after the current one, raising a lexical error found there. -/
def lookahead : C Tok := do
  let s ← get
  match (s.toks.getD (s.pos + 1) ⟨.eof, s.lastLine, "<eof>"⟩).tok with
  | .error e => lexFail e
  | t => set { s with peeked := true }; return t

/-- The current token is the symbol `x`. -/
def isSym (x : String) : C Bool := do
  match (← current).tok with
  | .sym y => return x == y
  | _ => return false

/-- The current token is the reserved word `w`. -/
def isWord (w : String) : C Bool := do
  match (← current).tok with
  | .word y => return w == y
  | _ => return false

/-- Skips the symbol `x` if it is current. -/
def testSym (x : String) : C Bool := do
  if ← isSym x then advance; return true else return false

/-- Skips the reserved word `w` if it is current. -/
def testWord (w : String) : C Bool := do
  if ← isWord w then advance; return true else return false

/-- Requires the symbol `x` and skips it. -/
def checkSym (x : String) : C Unit := do
  unless ← testSym x do syntaxError ("'" ++ x ++ "' expected")

/-- Requires the reserved word `w` and skips it. -/
def checkWord (w : String) : C Unit := do
  unless ← testWord w do syntaxError ("'" ++ w ++ "' expected")

/-- Requires a token closing the construct `who` opened on line `line`: `test` skips it when it
is there, `what` is how it is written. -/
def checkMatch (test : C Bool) (what who : String) (line : Nat) : C Unit := do
  unless ← test do
    if (← lexLine) == line then syntaxError (what ++ " expected")
    else syntaxError (what ++ " expected (to close " ++ who ++ " at line " ++ toString line ++ ")")

/-- Requires a name and skips it. -/
def checkName : C String := do
  match (← current).tok with
  | .name n => advance; return n
  | _ => syntaxError "<name> expected"

/-- Enters a level of nesting, failing at the limit of the interpreter's recursion. -/
def enterLevel : C Unit := do
  let s ← get
  if s.level + 1 == maxCalls then throw .overflow
  set { s with level := s.level + 1 }

/-- Leaves a level of nesting. -/
def leaveLevel : C Unit := modify fun s => { s with level := s.level - 1 }

/-- A local in scope of the function being compiled, by its index in the function. -/
def localDesc (vidx : Nat) : C LocalDesc := do
  let s ← get
  return s.actvar.getD (s.fs.firstLocal + vidx) default

/-- Changes a local in scope of the function being compiled. -/
def modifyLocal (vidx : Nat) (g : LocalDesc → LocalDesc) : C Unit :=
  modify fun s => { s with actvar := s.actvar.modify (s.fs.firstLocal + vidx) g }

/-- The first register above the locals below local `nvar`: one past the register of the
highest of them that has one. -/
def regLevel (nvar : Nat) : C Nat := do
  let s ← get
  let rec go : Nat → Nat
    | 0 => 0
    | n + 1 =>
      let d := s.actvar.getD (s.fs.firstLocal + n) default
      if d.kind != .compileTime then d.reg + 1 else go n
  return go nvar

/-- The number of registers the active locals take. -/
def nvarstack : C Nat := do regLevel (← fs).nactvar

end C

end CounterCache.Lua.Code
