import CounterCache.Lua.Arith
import CounterCache.Lua.Builtin

/-!
# Lua values

A Lua value is `nil`, a boolean, a number (integer or double), a byte string, or a reference to
an object of the heap: a table, a Lua function (a closure), a library function with upvalues, or
a coroutine. Library functions without upvalues and the functions of the embedding program are
named by their number. An error raised by the embedding program is a value of its own kind (a
userdata) carrying the error's text.

Equality without metamethods compares numbers by value, strings by their bytes and every other
value by identity. A table key is a value other than `nil` and NaN, and a double key that equals
an integer is that integer.
-/

namespace CounterCache.Lua

/-- The standard streams, the only files a script can reach. -/
inductive Stream where
  | stdin | stdout | stderr
  deriving DecidableEq, Repr, Inhabited

/-- A number for each stream. -/
def Stream.index : Stream → Nat
  | .stdin => 0 | .stdout => 1 | .stderr => 2

/-- Lua values. -/
inductive Value where
  | nil
  | bool (b : Bool)
  /-- An integer, in the signed 64-bit range. -/
  | int (n : Int)
  | num (f : Double)
  | str (s : ByteArray)
  | table (id : Nat)
  | closure (id : Nat)
  | builtin (b : Builtin)
  /-- A library function with upvalues, held in the heap. -/
  | native (id : Nat)
  /-- A function of the embedding program. -/
  | host (id : Nat)
  | thread (id : Nat)
  /-- An error of the embedding program, with its whole text, caught by a protected call. -/
  | failure (msg : String)
  /-- A file: one of the standard streams. -/
  | file (s : Stream)
  deriving Inhabited

namespace Value

/-- A string value of text. -/
def ofString (s : String) : Value := .str s.toUTF8

/-- The type name Lua reports. -/
def typeName : Value → String
  | .nil => "nil"
  | .bool _ => "boolean"
  | .int _ | .num _ => "number"
  | .str _ => "string"
  | .table _ => "table"
  | .closure _ | .builtin _ | .native _ | .host _ => "function"
  | .thread _ => "thread"
  | .failure _ | .file _ => "userdata"

/-- Everything but `nil` and `false` counts as true. -/
def truthy : Value → Bool
  | .nil | .bool false => false
  | _ => true

/-- The value is `nil`. -/
def isNil : Value → Bool
  | .nil => true
  | _ => false

/-- The value is a function. -/
def isFunction : Value → Bool
  | .closure _ | .builtin _ | .native _ | .host _ => true
  | _ => false

/-- The number a value is, without reading strings. -/
def numeral? : Value → Option Numeral
  | .int n => some (.int n)
  | .num f => some (.flt f)
  | _ => none

/-- The number a value is or a string reads as. -/
def toNumeral? : Value → Option Numeral
  | .int n => some (.int n)
  | .num f => some (.flt f)
  | .str s => readNumeral? s.data.toList
  | _ => none

/-- A number as a value. -/
def ofNumeral : Numeral → Value
  | .int n => .int n
  | .flt f => .num f

/-- Primitive equality: numbers by value, strings by content, everything else by identity. -/
def rawEq : Value → Value → Bool
  | .nil, .nil => true
  | .bool a, .bool b => a == b
  | .int a, .int b => a == b
  | .num a, .num b => a == b
  | .int a, .num b | .num b, .int a => cmpIntFloat a b.toFloat == some .eq
  | .str a, .str b => a == b
  | .table a, .table b | .closure a, .closure b | .host a, .host b | .thread a, .thread b
  | .native a, .native b => a == b
  | .builtin a, .builtin b => a == b
  | .failure a, .failure b => a == b
  | .file a, .file b => a == b
  | _, _ => false

/-- A key as a table stores it: a double that equals an integer in range is that integer. -/
def normKey : Value → Value
  | .num f =>
    match (Numeral.flt f).toInteger? with
    | some n => .int n
    | none => .num f
  | v => v

theorem rawEq_nil : rawEq .nil .nil = true := rfl

end Value

/-- A made-up address for a heap object's text: distinct objects get distinct addresses. -/
def heapAddress (kind id : Nat) : String :=
  let n := 0x55a4c8e2f000 + kind * 0x1000000 + id * 0x40
  "0x" ++ String.ofList (Nat.toDigits 16 n)

/-- A slot of a frame: a value of its own, or a cell of the heap that closures share once one
of them has captured the variable. -/
inductive Slot where
  | val (v : Value)
  | cell (id : Nat)
  deriving Inhabited

/-- A library function with upvalues, which it may change. -/
structure NativeFn where
  fn : Builtin
  upvals : Array Value
  deriving Inhabited

end CounterCache.Lua
