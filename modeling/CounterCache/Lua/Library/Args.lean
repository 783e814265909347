import CounterCache.Lua.Ops

/-!
# Arguments of library functions

A library function receives its arguments and the way it was called. It checks each argument
as Lua's auxiliary library does and fails with Lua's messages: `bad argument #n to 'name'
(number expected, got nil)`. The name is the one the calling code used (a global, a field, a
method, a local, a metamethod event or `for iterator`); for a method call the argument numbers
skip the receiver, and a bad receiver is reported as `calling 'name' on bad self`. A function
called by other library code has no such name and is named by where the library tables hold it,
such as `string.rep`, or `?` when they do not hold it.

A failure raised by a library function names the place of the Lua code that called it, when
Lua code did.
-/

namespace CounterCache.Lua

/-- A call of a library function: which function and its arguments. -/
structure LibCall where
  fn : Builtin
  args : Array Value

namespace LibCall

variable {σ : Type}

open Machine

/-- The argument at a position counted from zero; `nil` past the end. -/
def arg (c : LibCall) (i : Nat) : Value := c.args.getD i .nil

/-- There is an argument at a position, `nil` or not. -/
def has (c : LibCall) (i : Nat) : Bool := i < c.args.size

/-- The argument at a position is missing or `nil`. -/
def isNoneOrNil (c : LibCall) (i : Nat) : Bool := (c.arg i).isNil

/-- The name a failure gives the running function, and whether it was called as a method: the
name the calling code gives it, else where the library tables hold it. -/
def calleeName (c : LibCall) : LuaM σ (String × Bool) := do
  match callName (← get).calls with
  | some ("method", name) => return (name, true)
  | some (_, name) => return (name, false)
  | none => return (c.fn.qualifiedName, false)

/-- Fails for argument `n` (counted from one) with a reason. -/
def argError {α : Type} (c : LibCall) (n : Nat) (extra : String) : LuaM σ α := do
  let (name, isMethod) ← c.calleeName
  if isMethod ∧ n = 1 then raiseHere ("calling '" ++ name ++ "' on bad self (" ++ extra ++ ")")
  else
    let n := if isMethod then n - 1 else n
    raiseHere ("bad argument #" ++ toString n ++ " to '" ++ name ++ "' (" ++ extra ++ ")")

/-- The type name a failure gives argument `i` (from zero): `__name` of its metatable when that
is a string, `no value` when it is missing. -/
def typeNameAt (c : LibCall) (i : Nat) : LuaM σ String := do
  if !c.has i then return "no value"
  let v := c.arg i
  match ← metafield v "__name" with
  | .str s => return cText s
  | _ => return v.typeName

/-- Fails because argument `i` (from zero) is not of the expected type. -/
def typeError {α : Type} (c : LibCall) (i : Nat) (expected : String) : LuaM σ α := do
  c.argError (i + 1) (expected ++ " expected, got " ++ (← c.typeNameAt i))

/-- Requires an argument, of any value. -/
def checkAny (c : LibCall) (i : Nat) : LuaM σ Value :=
  if c.has i then pure (c.arg i) else c.argError (i + 1) "value expected"

/-- Requires a table argument. -/
def checkTable (c : LibCall) (i : Nat) : LuaM σ Nat :=
  match c.arg i with
  | .table id => pure id
  | _ => c.typeError i "table"

/-- Requires a number argument; numeric strings count. -/
def checkNumber (c : LibCall) (i : Nat) : LuaM σ Numeral :=
  match (c.arg i).toNumeral? with
  | some n => pure n
  | none => c.typeError i "number"

/-- An optional number argument. -/
def optNumber (c : LibCall) (i : Nat) (dflt : Numeral) : LuaM σ Numeral :=
  if c.isNoneOrNil i then pure dflt else c.checkNumber i

/-- Requires an argument that is an integer, or a double or numeric string equal to one. -/
def checkInteger (c : LibCall) (i : Nat) : LuaM σ Int :=
  match (c.arg i).toNumeral? with
  | some n =>
    match n.toInteger? with
    | some k => pure k
    | none => c.argError (i + 1) "number has no integer representation"
  | none => c.typeError i "number"

/-- An optional integer argument. -/
def optInteger (c : LibCall) (i : Nat) (dflt : Int) : LuaM σ Int :=
  if c.isNoneOrNil i then pure dflt else c.checkInteger i

/-- Requires a string argument; numbers are converted to their text. -/
def checkString (c : LibCall) (i : Nat) : LuaM σ ByteArray :=
  match (c.arg i).bytes? with
  | some s => pure s
  | none => c.typeError i "string"

/-- An optional string argument. -/
def optString (c : LibCall) (i : Nat) (dflt : ByteArray) : LuaM σ ByteArray :=
  if c.isNoneOrNil i then pure dflt else c.checkString i

/-- Requires a function argument. -/
def checkFunction (c : LibCall) (i : Nat) : LuaM σ Value :=
  if (c.arg i).isFunction then pure (c.arg i) else c.typeError i "function"

/-- Requires a string argument naming one of the options (the default when missing): its
position among them. The name is read as a C string, up to its first zero byte. -/
def checkOption (c : LibCall) (i : Nat) (dflt : Option String) (opts : List String) :
    LuaM σ Nat := do
  let name ← match dflt with
    | some d => if c.isNoneOrNil i then pure d.toUTF8 else c.checkString i
    | none => c.checkString i
  let name := cBytes name
  match opts.findIdx? (·.toUTF8.data == name.data) with
  | some k => pure k
  | none => c.argError (i + 1) ("invalid option '" ++ lossyText name ++ "'")

end LibCall

/-- The byte at a position; zero past the end, as a C string reads its terminator. -/
def byteAt (s : ByteArray) (i : Nat) : UInt8 := if h : i < s.size then s[i] else 0

/-- Bytes as a string value. -/
def bytesValue (bs : List UInt8) : Value := .str (ByteArray.mk bs.toArray)

/-- A start position relative to a length: negative counts from the end, clipped to `1`. -/
def startPos (pos : Int) (len : Nat) : Nat :=
  if pos > 0 then pos.toNat
  else if pos = 0 then 1
  else if pos < -(len : Int) then 1
  else (len + pos + 1).toNat

/-- An end position relative to a length: negative counts from the end, clipped to the
string. -/
def endPos (pos : Int) (len : Nat) : Nat :=
  if pos > len then len
  else if pos ≥ 0 then pos.toNat
  else if pos < -(len : Int) then 0
  else (len + pos + 1).toNat

/-- A position relative to a length for the searching functions: negative counts from the end,
zero and below the start become `0`. -/
def relPos (pos : Int) (len : Nat) : Int :=
  if pos ≥ 0 then pos
  else if (-pos).toNat > len then 0
  else len + pos + 1

/-- The most values a library function counts out in one go: the largest C `int`. -/
def maxCount : Nat := Nat.pow 2 31 - 1

end CounterCache.Lua
