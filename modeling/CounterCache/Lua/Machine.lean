import CounterCache.Lua.Table
import CounterCache.Lua.Code.Names

/-!
# The Lua machine

The state a running script changes: the heap of tables, shared variable cells, closures, library
functions with upvalues and coroutines; the global table, the metatable of strings and the table
of loaded modules; the time left before the time limit; the state of the running coroutine; the
random generator; and the state of the embedding program.

A coroutine runs on a stack of value slots, one million at most, shared by its calls: a Lua
function's registers start after the slot of the function being called, and a call's arguments
are the first registers of the callee. The calls in progress, innermost first, say for a Lua
function which instruction it is at and where its registers are, and for a library function
where its arguments are; error positions, levels, function names and tracebacks are all read
from them. A coroutine also keeps the variables waiting for their `__close` metamethod, its
count of nested calls made by library code or metamethods, and what happens to an error before
it unwinds (nothing, a traceback, or a message handler).

A computation in `LuaM` runs on the machine until it ends with a result or an error value, or
until it needs something only the scheduler can give: a call of a function, the resumption of
a coroutine, or a yield to the coroutine's resumer. It then hands the scheduler its request with
a continuation that takes the answer. Binding computations threads these continuations through,
so a coroutine can be suspended in the middle of any computation.

Time is counted in steps: one for each instruction, and more for each call the scheduler makes.
Every thousand instructions of a coroutine the time is checked, and once it has run out the
script fails with `Script execution timeout`, at every later check again, so a script that
catches the failure cannot run on for long.
-/

namespace CounterCache.Lua

open Code (Proto)

/-- A place in the source: the chunk name messages show, and a line (`-1` when the function
keeps no lines). -/
structure Pos where
  source : String
  line : Int
  deriving Inhabited

/-- The prefix a message gets for a place. -/
def Pos.text (p : Pos) : String := p.source ++ ":" ++ toString p.line ++ ": "

/-- The prefix a message gets for an optional place: nothing when there is none. -/
def whereText : Option Pos → String
  | some p => p.text
  | none => ""

/-- A Lua function: its prototype and the heap cells of its upvalues. -/
structure Closure where
  proto : Proto
  upvals : Array Nat
  deriving Inhabited

/-- A call of a Lua function in progress: the closure and its prototype, the slot of the called
function and the first register, the instruction being run, the top of the values a call or
`...` left in registers, how many results the caller wants (`-1`: all), the extra arguments of a
function that takes any number, whether a tail call made it, and whether it was started by the
scheduler rather than by a call in Lua code (its return then ends the run of the machine). -/
structure LuaFrame where
  closure : Nat
  proto : Proto
  upvals : Array Nat
  func : Nat
  base : Nat
  pc : Nat := 0
  top : Nat := 0
  nresults : Int := -1
  nextra : Nat := 0
  tail : Bool := false
  fresh : Bool := false
  deriving Inhabited

/-- A call in progress: of a Lua function, or of a library or embedding program function with
the slot it was called from and the top of its arguments. -/
inductive CallInfo where
  | lua (fr : LuaFrame)
  | native (fn : Value) (func top : Nat)
  deriving Inhabited

namespace LuaFrame

/-- The line of the instruction being run, when the function keeps lines. -/
def currentLine (fr : LuaFrame) : Option Int := fr.proto.lineAt fr.pc

/-- The place the frame is at, as a library error names it: none when the function keeps no
lines. -/
def pos (fr : LuaFrame) : Option Pos :=
  match fr.currentLine with
  | some l => if l > 0 then some ⟨fr.proto.shortSource, l⟩ else none
  | none => none

/-- The place an error of the machine itself names: `?` and `-1` for what was not kept. -/
def errorPos (fr : LuaFrame) : Pos := ⟨fr.proto.shortSource, fr.currentLine.getD (-1)⟩

end LuaFrame

/-- The place a call in progress is at, for a library error. -/
def CallInfo.pos : CallInfo → Option Pos
  | .lua fr => fr.pos
  | .native .. => none

/-- What happens to an error before it unwinds: nothing (in a protected call or a coroutine), a
traceback added (outside any protected call), or a message handler called (`xpcall`). -/
inductive Handler where
  | none
  | traceback
  | call (h : Value)
  deriving Inhabited

/-- Where a coroutine stands. -/
inductive ThreadStatus where
  | suspended | running | normal | dead
  deriving DecidableEq, Repr, Inhabited

/-- Instructions of a coroutine between two checks of the time limit. -/
def hookPeriod : Nat := 1000

/-- What a coroutine keeps of its own while another one runs: its stack, its calls in progress,
its variables waiting to be closed (their slots and values, innermost first), its count of
nested calls made by library code or metamethods and of those that cannot be suspended, what
happens to its errors, and its instructions left until the next check of the time limit. -/
structure ThreadState where
  stack : Array Slot := #[]
  calls : List CallInfo := []
  tbc : List (Nat × Value) := []
  cLevel : Nat := 0
  nonYieldable : Nat := 0
  handler : Handler := .none
  hookCount : Nat := hookPeriod
  deriving Inhabited

/-- A coroutine: the function it runs, its status, whether it has started, what it keeps while
another runs, and the error it died with. -/
structure Thread where
  body : Value
  status : ThreadStatus := .suspended
  started : Bool := false
  saved : ThreadState := {}
  failure : Option Value := none
  deriving Inhabited

/-- The heap, each object named by its index. -/
structure Heap where
  tables : Array Table := #[]
  cells : Array Value := #[]
  closures : Array Closure := #[]
  natives : Array NativeFn := #[]
  threads : Array Thread := #[]
  deriving Inhabited

/-- What a script can set of the garbage collector: whether it is stopped, whether it runs in
generational mode, and its parameters as it stores them, each in a byte: the pause, the step
multiplier and the major multiplier in quarters of the percentages given, the step size as the
logarithm of bytes, the minor multiplier as given. -/
structure Collector where
  stopped : Bool := false
  generational : Bool := false
  pause : UInt8 := 50
  stepMul : UInt8 := 25
  stepSize : UInt8 := 13
  minorMul : UInt8 := 20
  majorMul : UInt8 := 25
  deriving Inhabited

/-- The categories of the C library's locale, in the order of its category numbers: character
classes, numbers, times, collation, money, messages, paper, names, addresses, telephone numbers,
measurement and identification. -/
def localeCategories : List String :=
  ["LC_CTYPE", "LC_NUMERIC", "LC_TIME", "LC_COLLATE", "LC_MONETARY", "LC_MESSAGES", "LC_PAPER",
   "LC_NAME", "LC_ADDRESS", "LC_TELEPHONE", "LC_MEASUREMENT", "LC_IDENTIFICATION"]

/-- The state of a running script, over the embedding program's state `σ`. -/
structure Machine (σ : Type) where
  heap : Heap := {}
  /-- The global table. -/
  globals : Nat := 0
  /-- The metatable of strings. -/
  stringMeta : Nat := 0
  /-- The metatable of files. -/
  fileMeta : Nat := 0
  /-- The default output and input files. -/
  output : Stream := .stdout
  input : Stream := .stdin
  /-- The table of loaded modules. -/
  loaded : Nat := 0
  /-- Whether a time limit holds. -/
  timed : Bool := false
  /-- Steps left before the time limit, when one holds. -/
  stepsLeft : Nat := 0
  /-- The running coroutine. -/
  current : Nat := 0
  stack : Array Slot := #[]
  calls : List CallInfo := []
  tbc : List (Nat × Value) := []
  cLevel : Nat := 0
  nonYieldable : Nat := 0
  handler : Handler := .none
  hookCount : Nat := hookPeriod
  /-- The calls in progress when the error being unwound was raised, until it is caught. -/
  errorCalls : Option (List CallInfo) := none
  /-- The state of the pseudo-random generator: at first the state that seeding with zero
  gives, so that an unseeded generator does not stay at zero as the all-zero state would. -/
  random : Array UInt64 :=
    #[0xc4e5dc5a2a80f13a, 0xca305206fdc9963b, 0x8dafad280965941a, 0x673b6126b21db35c]
  /-- The garbage collector's settings. -/
  collector : Collector := {}
  /-- The name of the locale of each category, in the order of `localeCategories`. -/
  locale : Array String := Array.replicate 12 "C"
  /-- The embedding program's state. -/
  state : σ

/-- What a computation leads to: a result or an error value, or a request to the scheduler with
the continuation that takes its answer. -/
inductive Step (σ α : Type) where
  /-- A result. -/
  | ok (a : α) (m : Machine σ)
  /-- An error value. -/
  | err (e : Value) (m : Machine σ)
  /-- Call a function with arguments. -/
  | call (f : Value) (args : List Value) (m : Machine σ)
      (k : Except Value (List Value) → Machine σ → Step σ α)
  /-- Resume a coroutine with values, or with an error that unwinds it. -/
  | resume (co : Nat) (args : Except Value (List Value)) (m : Machine σ)
      (k : Except Value (List Value) → Machine σ → Step σ α)
  /-- Suspend the running coroutine, handing values to its resumer. -/
  | yield (vals : List Value) (m : Machine σ)
      (k : Except Value (List Value) → Machine σ → Step σ α)

namespace Step

variable {σ α β : Type}

/-- The step that ends with a result or an error value. -/
@[inline] def ofExcept (r : Except Value α) (m : Machine σ) : Step σ α :=
  match r with
  | .ok a => .ok a m
  | .error e => .err e m

/-- Continues a step with a function of its result; errors pass through. -/
def andThen (s : Step σ α) (f : α → Machine σ → Step σ β) : Step σ β :=
  match s with
  | .ok a m => f a m
  | .err e m => .err e m
  | .call fn args m k => .call fn args m fun r m' => (k r m').andThen f
  | .resume co args m k => .resume co args m fun r m' => (k r m').andThen f
  | .yield vs m k => .yield vs m fun r m' => (k r m').andThen f

/-- Handles the error a step ends with. -/
def orElse (s : Step σ α) (h : Value → Machine σ → Step σ α) : Step σ α :=
  match s with
  | .err e m => h e m
  | .ok a m => .ok a m
  | .call fn args m k => .call fn args m fun r m' => (k r m').orElse h
  | .resume co args m k => .resume co args m fun r m' => (k r m').orElse h
  | .yield vs m k => .yield vs m fun r m' => (k r m').orElse h

/-- The machine a step stands at. -/
def machine : Step σ α → Machine σ
  | .ok _ m | .err _ m | .call _ _ m _ | .resume _ _ m _ | .yield _ m _ => m

end Step

/-- Computations of a script. -/
def LuaM (σ α : Type) : Type := Machine σ → Step σ α

namespace LuaM

variable {σ α β : Type}

/-- Runs one computation, then another on its result. -/
@[always_inline, inline]
protected def bind (x : LuaM σ α) (f : α → LuaM σ β) : LuaM σ β := fun m =>
  match x m with
  | .ok a m' => f a m'
  | s => s.andThen f

/-- A result. -/
@[always_inline, inline]
protected def pure (a : α) : LuaM σ α := fun m => .ok a m

@[always_inline]
instance : Monad (LuaM σ) where
  pure := LuaM.pure
  bind := LuaM.bind

instance : MonadStateOf (Machine σ) (LuaM σ) where
  get := fun m => .ok m m
  set m' := fun _ => .ok () m'
  modifyGet f := fun m => let (a, m') := f m; .ok a m'

instance : MonadExceptOf Value (LuaM σ) where
  throw e := fun m => .err e m
  tryCatch x h := fun m => (x m).orElse fun e m' => h e m'

instance : Inhabited (LuaM σ α) := ⟨fun m => .err .nil m⟩

theorem pure_run (a : α) (m : Machine σ) : (pure a : LuaM σ α) m = .ok a m := rfl

end LuaM

namespace Value

/-- The value is a number. -/
def isNumber : Value → Bool
  | .int _ | .num _ => true
  | _ => false

/-- The integer a number stands for, without reading strings: a double only when it equals an
integer in range. -/
def toInteger? : Value → Option Int
  | .int n => some n
  | .num f => (Numeral.flt f).toInteger?
  | _ => none

/-- The bytes of a string, or a number's text: what concatenation accepts. -/
def bytes? : Value → Option ByteArray
  | .str s => some s
  | .int n => some (Numeral.int n).text.toUTF8
  | .num f => some (Numeral.flt f).text.toUTF8
  | _ => none

end Value

/-- The embedding program's functions, by number. -/
structure Host (σ : Type) where
  call : Nat → List Value → LuaM σ (List Value)

/-- The text of the time-limit failure. -/
def timeoutMessage : String := "Script execution timeout"

/-- The deepest nesting of calls made by library code and metamethods, and of syntax while
compiling. -/
def maxCLevel : Nat := 200

/-- The most slots a coroutine's stack may have. -/
def maxStack : Nat := 1000000

/-- Slots a library function may use beyond its arguments. -/
def minStack : Nat := 20

/-- Steps a call made through the scheduler costs, beyond the instructions it runs. -/
def callCost : Nat := 20

namespace Machine

variable {σ : Type}

/-- Reads the machine. -/
@[inline] def read {α : Type} (f : Machine σ → α) : LuaM σ α := fun m => .ok (f m) m

/-- A table by number (an empty one for a number never given out). -/
@[inline] def table (id : Nat) : LuaM σ Table := read fun m => m.heap.tables.getD id {}

/-- Changes a table. -/
def modifyTable (id : Nat) (f : Table → Table) : LuaM σ Unit :=
  modify fun m => { m with heap := { m.heap with tables := m.heap.tables.modify id f } }

/-- Makes a table. -/
def newTable (t : Table := {}) : LuaM σ Nat :=
  modifyGet fun m =>
    (m.heap.tables.size, { m with heap := { m.heap with tables := m.heap.tables.push t } })

/-- A cell's value. -/
@[inline] def readCell (id : Nat) : LuaM σ Value := read fun m => m.heap.cells.getD id .nil

/-- Stores into a cell. -/
@[inline] def writeCell (id : Nat) (v : Value) : LuaM σ Unit :=
  modify fun m => { m with heap := { m.heap with cells := m.heap.cells.set! id v } }

/-- Makes a cell holding a value. -/
def newCell (v : Value) : LuaM σ Nat :=
  modifyGet fun m =>
    (m.heap.cells.size, { m with heap := { m.heap with cells := m.heap.cells.push v } })

/-- Makes a closure. -/
def newClosure (c : Closure) : LuaM σ Value :=
  modifyGet fun m =>
    (.closure m.heap.closures.size,
      { m with heap := { m.heap with closures := m.heap.closures.push c } })

/-- A closure by number. -/
def closure (id : Nat) : LuaM σ Closure := read fun m => m.heap.closures.getD id default

/-- Makes a library function with upvalues. -/
def newNative (f : NativeFn) : LuaM σ Value :=
  modifyGet fun m =>
    (.native m.heap.natives.size,
      { m with heap := { m.heap with natives := m.heap.natives.push f } })

/-- A library function with upvalues, by number. -/
def native (id : Nat) : LuaM σ NativeFn := read fun m => m.heap.natives.getD id default

/-- Changes an upvalue of a library function. -/
def setNativeUpval (id i : Nat) (v : Value) : LuaM σ Unit :=
  modify fun m => { m with heap := { m.heap with
    natives := m.heap.natives.modify id fun f => { f with upvals := f.upvals.set! i v } } }

/-- Makes a coroutine. -/
def newThread (body : Value) : LuaM σ Value :=
  modifyGet fun m =>
    (.thread m.heap.threads.size,
      { m with heap := { m.heap with threads := m.heap.threads.push { body } } })

/-- A coroutine by number. -/
def thread (id : Nat) : LuaM σ Thread := read fun m => m.heap.threads.getD id default

/-- Changes a coroutine. -/
def modifyThread (id : Nat) (f : Thread → Thread) : LuaM σ Unit :=
  modify fun m => { m with heap := { m.heap with threads := m.heap.threads.modify id f } }

/-- The embedding program's state. -/
def hostState : LuaM σ σ := read (·.state)

/-- Changes the embedding program's state. -/
def setHostState (s : σ) : LuaM σ Unit :=
  modify fun m => { m with state := s }

/-- The metatable of a value: a table's own, the string metatable for every string, and the
file metatable for every file. -/
def metatableOf (v : Value) : LuaM σ (Option Nat) := read fun m =>
  match v with
  | .table id => (m.heap.tables.getD id {}).metatable
  | .str _ => some m.stringMeta
  | .file _ => some m.fileMeta
  | _ => none

/-- A field of a table read without metamethods. -/
def rawField (id : Nat) (name : String) : LuaM σ Value :=
  read fun m => (m.heap.tables.getD id {}).get (.ofString name)

/-- A field of a value's metatable, `nil` when it has none. -/
def metafield (v : Value) (event : String) : LuaM σ Value := do
  match ← metatableOf v with
  | some mt => rawField mt event
  | none => pure .nil

/-- The value of a stack slot: through its cell once a closure shares it. -/
def slotValue (m : Machine σ) (i : Nat) : Value :=
  match m.stack.getD i (.val .nil) with
  | .val v => v
  | .cell c => m.heap.cells.getD c .nil

/-- The stack grown with `nil` slots to at least `n` slots. -/
def growStack (stack : Array Slot) (n : Nat) : Array Slot :=
  if stack.size < n then stack ++ Array.replicate (n - stack.size) (Slot.val .nil) else stack

/-- Assigns to a stack slot, into its cell once a closure shares it; the stack grows to hold
the slot. -/
def setSlot (m : Machine σ) (i : Nat) (v : Value) : Machine σ :=
  if h : i < m.stack.size then
    match m.stack[i] with
    | .cell c => { m with heap := { m.heap with cells := m.heap.cells.set! c v } }
    | .val _ => { m with stack := m.stack.set i (.val v) h }
  else { m with stack := (growStack m.stack (i + 1)).set! i (.val v) }

/-- The first free slot above the running call: what a Lua function's frame or a library
function's arguments leave free, where a function it calls is placed. -/
def callTop (m : Machine σ) : Nat :=
  match m.calls with
  | .lua fr :: _ => fr.base + fr.proto.maxStack
  | .native _ _ top :: _ => top
  | [] => m.stack.size

/-- Whether `n` more values fit on the stack above the running call. -/
def roomFor (n : Nat) : LuaM σ Bool := read fun m => callTop m + n ≤ maxStack

/-- The place of the call in progress `level` calls out from the running one (which is level
zero), when that is a Lua function that keeps lines. -/
def levelPos (m : Machine σ) (level : Nat) : Option Pos := (m.calls[level]?).bind CallInfo.pos

/-- The place of the Lua code that called the running library function, if Lua code called
it. -/
def callerPos : LuaM σ (Option Pos) := read fun m => m.levelPos 1

/-- Calls a function: the scheduler runs it and answers with its results or its error. -/
def callValue (f : Value) (args : List Value) : LuaM σ (List Value) :=
  fun m => .call f args m fun r m' => .ofExcept r m'

/-- Resumes a coroutine with values, or with an error that unwinds it. -/
def resumeThread (co : Nat) (args : Except Value (List Value)) : LuaM σ (List Value) :=
  fun m => .resume co args m fun r m' => .ofExcept r m'

/-- Suspends the running coroutine with values for its resumer: the values it is resumed with
next. -/
def yieldValues (vals : List Value) : LuaM σ (List Value) :=
  fun m => .yield vals m fun r m' => .ofExcept r m'

/-- Runs a computation and gives its result or its error value, keeping what it changed. -/
def attempt {α : Type} (act : LuaM σ α) : LuaM σ (Except Value α) :=
  tryCatch (do return .ok (← act)) fun e => pure (.error e)

/-- Raises an error value as it stands: an error already raised, passed on. -/
def rethrow {α : Type} : Except Value α → LuaM σ α
  | .ok a => pure a
  | .error e => throw e

end Machine

/-- The text `tostring` gives a value that has no `__tostring` or `__name` metafield. -/
def Value.rawText : Value → ByteArray
  | .nil => "nil".toUTF8
  | .bool b => (if b then "true" else "false").toUTF8
  | .int n => (Numeral.int n).text.toUTF8
  | .num f => (Numeral.flt f).text.toUTF8
  | .str s => s
  | .table id => ("table: " ++ heapAddress 0 id).toUTF8
  | .closure id => ("function: " ++ heapAddress 1 id).toUTF8
  | .builtin b => ("function: " ++ heapAddress 2 b.ordinal).toUTF8
  | .native id => ("function: " ++ heapAddress 3 id).toUTF8
  | .host id => ("function: " ++ heapAddress 4 id).toUTF8
  | .thread id => ("thread: " ++ heapAddress 5 id).toUTF8
  | .failure msg => msg.toUTF8
  | .file f => ("file (" ++ heapAddress 7 f.index ++ ")").toUTF8

end CounterCache.Lua
