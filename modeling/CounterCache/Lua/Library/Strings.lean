import CounterCache.Lua.Library.Args
import CounterCache.Lua.Code.Binary

/-!
# The `string` library: bytes, case, repetition and binary packing

`string.byte`, `char`, `len`, `lower`, `upper`, `rep`, `reverse` and `sub` work on bytes, with
positions relative to the string's length as Lua's are: negative positions count from the end
and out-of-range ones are clipped. Case changes follow the C locale.

`string.pack`, `string.unpack` and `string.packsize` read a format of options: `<`, `>` and `=`
set the byte order (native is little-endian), `!n` the largest alignment; `b B h H i[n] I[n] l
L j J T` are integers of their sizes, `f d n` floating-point numbers, `s[n]` a string after its
length, `z` a zero-terminated string, `c n` a fixed-size string, `x` a padding byte and `X op`
alignment to the size of the option that follows. Integers wider than eight bytes are sign- or
zero-extended, and on reading must fit in a Lua integer.

`string.dump` writes a Lua function out as a binary chunk that `load` accepts back.
-/

namespace CounterCache.Lua

namespace Library

variable {σ : Type}

open Machine
open Code (leBytes ofLeBytes)

/-- ASCII upper case of a byte. -/
def upperByte (c : UInt8) : UInt8 := if 0x61 ≤ c ∧ c ≤ 0x7A then c - 0x20 else c

/-- ASCII lower case of a byte. -/
def lowerByte (c : UInt8) : UInt8 := if 0x41 ≤ c ∧ c ≤ 0x5A then c + 0x20 else c

/-- The largest size a string may reach. -/
def maxStringSize : Nat := 2147483647

/-- `string.len`. -/
def strLen (c : LibCall) : LuaM σ (List Value) := do
  return [.int (← c.checkString 0).size]

/-- `string.sub`: the bytes from position `i` to `j`, both included. -/
def strSub (c : LibCall) : LuaM σ (List Value) := do
  let s ← c.checkString 0
  let start := startPos (← c.checkInteger 1) s.size
  let stop := endPos (← c.optInteger 2 (-1)) s.size
  if start > stop then return [.str .empty]
  return [.str (s.extract (start - 1) stop)]

/-- `string.upper`. -/
def strUpper (c : LibCall) : LuaM σ (List Value) := do
  return [.str ⟨(← c.checkString 0).data.map upperByte⟩]

/-- `string.lower`. -/
def strLower (c : LibCall) : LuaM σ (List Value) := do
  return [.str ⟨(← c.checkString 0).data.map lowerByte⟩]

/-- `string.reverse`. -/
def strReverse (c : LibCall) : LuaM σ (List Value) := do
  return [.str ⟨(← c.checkString 0).data.reverse⟩]

/-- `string.rep`: `n` copies of a string with a separator between them. -/
def strRep (c : LibCall) : LuaM σ (List Value) := do
  let s ← c.checkString 0
  let n ← c.checkInteger 1
  let sep ← c.optString 2 .empty
  if n ≤ 0 then return [.str .empty]
  let unit := s.size + sep.size
  if unit == 0 then return [.str .empty]
  if unit > maxStringSize / n.toNat then raiseHere "resulting string too large"
  let piece := s ++ sep
  let body := (List.replicate (n.toNat - 1) piece).foldl (· ++ ·) ByteArray.empty
  return [.str (body ++ s)]

/-- `string.byte`: the bytes from position `i` to `j`, as integers. -/
def strByte (c : LibCall) : LuaM σ (List Value) := do
  let s ← c.checkString 0
  let i ← c.optInteger 1 1
  let start := startPos i s.size
  let stop := endPos (← c.optInteger 2 i) s.size
  if start > stop then return []
  let n := stop - start + 1
  if n > maxCount then raiseHere "string slice too long"
  if !(← roomFor n) then raiseHere "stack overflow (string slice too long)"
  return ((s.extract (start - 1) stop).data.toList.map fun b => .int b.toNat)

/-- `string.char`: the bytes given as integers. -/
def strChar (c : LibCall) : LuaM σ (List Value) := do
  let mut out := ByteArray.empty
  for i in List.range c.args.size do
    let k ← c.checkInteger i
    if k < 0 ∨ k > 255 then c.argError (i + 1) "value out of range"
    out := out.push k.toNat.toUInt8
  return [.str out]

/-! ## Writing functions out -/

/-- `string.dump`: a Lua function as a binary chunk, without its debugging information when the
second argument is true. -/
def strDump (c : LibCall) : LuaM σ (List Value) := do
  let f ← c.checkFunction 0
  match f with
  | .closure id =>
    let cl ← closure id
    return [.str (cl.proto.dump cl.proto.upvals.size (c.arg 1).truthy)]
  | _ => raiseHere "unable to dump given function"

/-! ## Binary packing -/

/-- One option of a packing format. -/
inductive PackOpt where
  | int (signed : Bool)
  | float
  | double
  | char
  | string
  | zstr
  | padding
  | paddAlign
  | nop
  deriving DecidableEq

/-- The state of reading a packing format: the byte order and the largest alignment. -/
structure PackHeader where
  little : Bool := true
  maxAlign : Nat := 1

/-- The largest integer size of an option. -/
def maxIntSize : Nat := 16

/-- A number in a format: its digits from `i`, or the default when there are none. -/
def formatNumber (fmt : ByteArray) (i : Nat) (dflt : Nat) : Nat × Nat :=
  if !isDigit (byteAt fmt i) then (dflt, i)
  else
    let rec go (i acc : Nat) : (fuel : Nat) → Nat × Nat
      | 0 => (acc, i)
      | fuel + 1 =>
        if isDigit (byteAt fmt i) && acc ≤ (maxStringSize - 9) / 10 then
          go (i + 1) (acc * 10 + ((byteAt fmt i).toNat - 0x30)) fuel
        else (acc, i)
    go i 0 (fmt.size + 1)

/-- A size in a format, which must lie in `[1, 16]`. -/
def formatLimit (fmt : ByteArray) (i : Nat) (dflt : Nat) : LuaM σ (Nat × Nat) := do
  let (n, i) := formatNumber fmt i dflt
  if n > maxIntSize ∨ n = 0 then
    raiseHere ("integral size (" ++ toString n ++ ") out of limits [1," ++ toString maxIntSize ++ "]")
  return (n, i)

/-- Reads one option at `i`: the option, its size, where the format goes on, and the header
it leaves. -/
def readOption (h : PackHeader) (fmt : ByteArray) (i : Nat) :
    LuaM σ (PackOpt × Nat × Nat × PackHeader) := do
  let opt := byteAt fmt i
  let i := i + 1
  match opt.toNat with
  | 0x62 => return (.int true, 1, i, h)
  | 0x42 => return (.int false, 1, i, h)
  | 0x68 => return (.int true, 2, i, h)
  | 0x48 => return (.int false, 2, i, h)
  | 0x6C | 0x6A => return (.int true, 8, i, h)
  | 0x4C | 0x4A | 0x54 => return (.int false, 8, i, h)
  | 0x66 => return (.float, 4, i, h)
  | 0x6E | 0x64 => return (.double, 8, i, h)
  | 0x69 => let (n, i) ← formatLimit fmt i 4; return (.int true, n, i, h)
  | 0x49 => let (n, i) ← formatLimit fmt i 4; return (.int false, n, i, h)
  | 0x73 => let (n, i) ← formatLimit fmt i 8; return (.string, n, i, h)
  | 0x63 =>
    if !isDigit (byteAt fmt i) then raiseHere "missing size for format option 'c'"
    let (n, i) := formatNumber fmt i 0
    return (.char, n, i, h)
  | 0x7A => return (.zstr, 0, i, h)
  | 0x78 => return (.padding, 1, i, h)
  | 0x58 => return (.paddAlign, 0, i, h)
  | 0x20 => return (.nop, 0, i, h)
  | 0x3C | 0x3D => return (.nop, 0, i, { h with little := true })
  | 0x3E => return (.nop, 0, i, { h with little := false })
  | 0x21 =>
    let (n, i) ← formatLimit fmt i 8
    return (.nop, 0, i, { h with maxAlign := n })
  | _ => raiseHere ("invalid format option '" ++ lossyText ⟨#[opt]⟩ ++ "'")

/-- Reads one option with its alignment: the option, its size, the padding before it, where
the format goes on, and the header. The option `X` takes its alignment from the option after it,
which it uses up. -/
def readDetails (c : LibCall) (h : PackHeader) (total : Nat) (fmt : ByteArray) (i : Nat) :
    LuaM σ (PackOpt × Nat × Nat × Nat × PackHeader) := do
  let (opt, size, i, h) ← readOption h fmt i
  let mut i := i
  let mut align := size
  if opt == .paddAlign then
    if i ≥ fmt.size then c.argError 1 "invalid next option for option 'X'"
    let (next, nsize, j, _) ← readOption h fmt i
    if next == .char ∨ nsize == 0 then c.argError 1 "invalid next option for option 'X'"
    align := nsize
    i := j
  if align ≤ 1 ∨ opt == .char then return (opt, size, 0, i, h)
  let al := min align h.maxAlign
  if al &&& (al - 1) != 0 then c.argError 1 "format asks for alignment not power of 2"
  let pad := (al - total % al) % al
  return (opt, size, pad, i, h)

/-- The bytes of an integer of `size` bytes in a byte order; past eight bytes a signed integer
is sign-extended and an unsigned one zero-extended. -/
def packInt (n : Int) (signed : Bool) (little : Bool) (size : Nat) : ByteArray :=
  let bits := toBits64 n
  let low := leBytes bits (min size 8)
  let ext := List.replicate (size - min size 8) (if signed ∧ n < 0 then (0xFF : UInt8) else 0)
  let bs := low ++ ext
  ⟨(if little then bs else bs.reverse).toArray⟩

/-- The integer `size` bytes stand for, or the size when it does not fit a Lua integer. -/
def unpackInt (bs : ByteArray) (little : Bool) (signed : Bool) : Except Nat Int :=
  let size := bs.size
  let le := if little then bs.data.toList else bs.data.toList.reverse
  let low := le.take 8
  let v := ofLeBytes low
  if size < 8 then
    if signed ∧ v ≥ Nat.pow 2 (size * 8 - 1) then .ok (v - Int.pow 2 (size * 8)) else .ok v
  else
    let r := ofBits64 v
    let mask : UInt8 := if !signed ∨ r ≥ 0 then 0 else 0xFF
    if (le.drop 8).all (· == mask) then .ok r else .error size

/-- Checks argument `i` (from zero) of `string.pack`, which fails as `check` does for a given
argument. Past the arguments, the stack holds what packing pushes: a `nil`, then the buffer, a
light userdata until the output passes 1024 bytes and a box named `_UBOX*` after; past those
there is no value. -/
def packArg {α : Type} (c : LibCall) (i outSize : Nat) (expected : String) (check : LuaM σ α) :
    LuaM σ α :=
  if i < c.args.size then check
  else if i == c.args.size then c.argError (i + 1) (expected ++ " expected, got nil")
  else if i == c.args.size + 1 then
    c.argError (i + 1)
      (expected ++ " expected, got " ++ if outSize > 1024 then "_UBOX*" else "light userdata")
  else c.typeError i expected

/-- `string.pack`. -/
def strPack (c : LibCall) : LuaM σ (List Value) := do
  let fmt ← c.checkString 0
  let fmt := fmt.extract 0 ((fmt.data.toList.findIdx? (· == 0)).getD fmt.size)
  let rec go (h : PackHeader) (i arg total : Nat) (out : ByteArray) :
      (fuel : Nat) → LuaM σ ByteArray
    | 0 => pure out
    | fuel + 1 => do
      if i ≥ fmt.size then return out
      let (opt, size, pad, i, h) ← readDetails c h total fmt i
      let out := out ++ ⟨Array.replicate pad 0⟩
      let total := total + pad + size
      match opt with
      | .int signed =>
        let n ← packArg c arg out.size "number" (c.checkInteger arg)
        if size < 8 then
          if signed then
            let lim : Int := Nat.pow 2 (size * 8 - 1)
            if !(-lim ≤ n ∧ n < lim) then c.argError (arg + 1) "integer overflow"
          else if toBits64 n ≥ Nat.pow 2 (size * 8) then c.argError (arg + 1) "unsigned overflow"
        go h i (arg + 1) total (out ++ packInt n signed h.little size) fuel
      | .float =>
        let x := (← packArg c arg out.size "number" (c.checkNumber arg)).toDouble
        let bs := leBytes x.toFloat32Bits.toNat 4
        go h i (arg + 1) total (out ++ ⟨(if h.little then bs else bs.reverse).toArray⟩) fuel
      | .double =>
        let x := (← packArg c arg out.size "number" (c.checkNumber arg)).toDouble
        let bs := leBytes x.bits.toNat 8
        go h i (arg + 1) total (out ++ ⟨(if h.little then bs else bs.reverse).toArray⟩) fuel
      | .char =>
        let s ← packArg c arg out.size "string" (c.checkString arg)
        if s.size > size then c.argError (arg + 1) "string longer than given size"
        go h i (arg + 1) total (out ++ s ++ ⟨Array.replicate (size - s.size) 0⟩) fuel
      | .string =>
        let s ← packArg c arg out.size "string" (c.checkString arg)
        if size < 8 ∧ s.size ≥ Nat.pow 2 (size * 8) then
          c.argError (arg + 1) "string length does not fit in given size"
        go h i (arg + 1) (total + s.size) (out ++ packInt s.size false h.little size ++ s) fuel
      | .zstr =>
        let s ← packArg c arg out.size "string" (c.checkString arg)
        if s.data.contains 0 then c.argError (arg + 1) "string contains zeros"
        go h i (arg + 1) (total + s.size + 1) ((out ++ s).push 0) fuel
      | .padding => go h i arg total (out.push 0) fuel
      | .paddAlign | .nop => go h i arg total out fuel
  return [.str (← go {} 0 1 0 .empty (fmt.size + 1))]

/-- `string.packsize`: the size of a format without variable-length options. -/
def strPackSize (c : LibCall) : LuaM σ (List Value) := do
  let fmt ← c.checkString 0
  let fmt := fmt.extract 0 ((fmt.data.toList.findIdx? (· == 0)).getD fmt.size)
  let rec go (h : PackHeader) (i total : Nat) : (fuel : Nat) → LuaM σ Nat
    | 0 => pure total
    | fuel + 1 => do
      if i ≥ fmt.size then return total
      let (opt, size, pad, i, h) ← readDetails c h total fmt i
      if opt == .string ∨ opt == .zstr then c.argError 1 "variable-length format"
      let size := size + pad
      if total > maxStringSize - size then c.argError 1 "format result too large"
      go h i (total + size) fuel
  return [.int (← go {} 0 0 (fmt.size + 1))]

/-- `string.unpack`: the values packed in a string, then the position after them. -/
def strUnpack (c : LibCall) : LuaM σ (List Value) := do
  let fmt ← c.checkString 0
  let fmt := fmt.extract 0 ((fmt.data.toList.findIdx? (· == 0)).getD fmt.size)
  let data ← c.checkString 1
  let pos := startPos (← c.optInteger 2 1) data.size - 1
  if pos > data.size then c.argError 3 "initial position out of string"
  let rec go (h : PackHeader) (i pos : Nat) (acc : Array Value) :
      (fuel : Nat) → LuaM σ (Array Value × Nat)
    | 0 => pure (acc, pos)
    | fuel + 1 => do
      if i ≥ fmt.size then return (acc, pos)
      let (opt, size, pad, i, h) ← readDetails c h pos fmt i
      if pad + size > data.size - pos then c.argError 2 "data string too short"
      let pos := pos + pad
      let bytes := data.extract pos (pos + size)
      let ordered := if h.little then bytes.data.toList else bytes.data.toList.reverse
      match opt with
      | .int signed =>
        match unpackInt bytes h.little signed with
        | .ok n => go h i (pos + size) (acc.push (.int n)) fuel
        | .error k =>
          raiseHere (toString k ++ "-byte integer does not fit into Lua Integer")
      | .float =>
        let x := Double.ofFloat32Bits (ofLeBytes ordered).toUInt32
        go h i (pos + size) (acc.push (.num x)) fuel
      | .double =>
        go h i (pos + size) (acc.push (.num ⟨(ofLeBytes ordered).toUInt64⟩)) fuel
      | .char => go h i (pos + size) (acc.push (.str bytes)) fuel
      | .string =>
        let len ← match unpackInt bytes h.little false with
          | .ok n => pure (toBits64 n)
          | .error k => raiseHere (toString k ++ "-byte integer does not fit into Lua Integer")
        if len > data.size - pos - size then c.argError 2 "data string too short"
        go h i (pos + size + len) (acc.push (.str (data.extract (pos + size) (pos + size + len))))
          fuel
      | .zstr =>
        let rest := (data.extract pos data.size).data.toList
        let len := (rest.findIdx? (· == 0)).getD rest.length
        if pos + len ≥ data.size then c.argError 2 "unfinished string for format 'z'"
        go h i (pos + len + 1) (acc.push (.str (data.extract pos (pos + len)))) fuel
      | .paddAlign | .padding | .nop => go h i (pos + size) acc fuel
  let (vals, pos) ← go {} 0 pos #[] (fmt.size + 1)
  return vals.toList ++ [.int (pos + 1)]

end Library

end CounterCache.Lua
