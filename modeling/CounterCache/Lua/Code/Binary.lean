import CounterCache.Lua.Code.Proto

/-!
# Binary chunks

A compiled function written out as bytes, and read back. A chunk is a fixed header, the number
of upvalues of the function, and the function: its source name, the lines it spans, its
parameter count, whether it takes extra arguments, its register count, its code, its constants,
its upvalue descriptions, the functions nested in it (written the same way), and its debugging
information (relative and absolute lines, locals and upvalue names).

Counts and string lengths take as many bytes as they need, seven bits to a byte, most
significant first, the last byte marked by its high bit; a string is written as its length plus
one, so that zero stands for no string. Numbers, integers and instructions are written in
little-endian order. A function stripped of debugging information keeps no source name, lines,
local names or upvalue names; a nested function whose source is its parent's writes none either.

Reading checks the header byte by byte and fails with the reason Lua gives: a mismatched part of
the header, a count too large for the reader, a missing constant string, or a chunk that ends too
soon.
-/

namespace CounterCache.Lua.Code

/-- The header of every binary chunk: the signature, version 5.4, format 0, six check bytes,
the sizes of an instruction, an integer and a double, then the integer `0x5678` and the double
`370.5` that show their layouts. -/
def chunkHeader : ByteArray :=
  ⟨#[0x1B, 0x4C, 0x75, 0x61, 0x54, 0x00, 0x19, 0x93, 0x0D, 0x0A, 0x1A, 0x0A, 0x04, 0x08, 0x08,
    0x78, 0x56, 0, 0, 0, 0, 0, 0, 0, 0, 0, 0, 0, 0x28, 0x77, 0x40]⟩

/-- The little-endian bytes of a number, `size` of them. -/
def leBytes (n : Nat) : (size : Nat) → List UInt8
  | 0 => []
  | k + 1 => (n % 256).toUInt8 :: leBytes (n / 256) k

/-- The number that little-endian bytes stand for. -/
def ofLeBytes (bs : List UInt8) : Nat := bs.foldr (fun b acc => acc * 256 + b.toNat) 0

/-- The seven-bit groups of a number, most significant first. -/
def sevenBitGroups (x : Nat) : List Nat := go x [] 11
where
  go (x : Nat) (acc : List Nat) : Nat → List Nat
    | 0 => x % 128 :: acc
    | fuel + 1 => if x < 128 then x :: acc else go (x / 128) (x % 128 :: acc) fuel

/-- A count or length as a chunk writes it: its seven-bit groups, the last marked. -/
def sizeBytes (x : Nat) : List UInt8 :=
  let gs := sevenBitGroups x
  (gs.dropLast.map Nat.toUInt8) ++ [(gs.getLastD 0 + 128).toUInt8]

theorem sizeBytes_zero : sizeBytes 0 = [0x80] := by decide

/-- An optional string as a chunk writes it: its length plus one and its bytes, or zero. -/
def stringBytes : Option ByteArray → List UInt8
  | none => sizeBytes 0
  | some s => sizeBytes (s.size + 1) ++ s.data.toList

/-- A constant as a chunk writes it: its type tag and its value. Strings of up to 40 bytes are
short strings, longer ones long strings. -/
def constantBytes : Value → List UInt8
  | .bool false => [1]
  | .bool true => [17]
  | .int n => 3 :: leBytes (n % Int.pow 2 64).toNat 8
  | .num f => 19 :: leBytes f.bits.toNat 8
  | .str s => (if s.size ≤ 40 then 4 else 20) :: stringBytes (some s)
  | _ => [0]

/-- The bytes of a function, its source written unless `strip` or the same as `parent`'s. -/
def functionBytes (strip : Bool) (parent : Option ByteArray) (p : Proto) : List UInt8 :=
  let sameSource := match p.source, parent with
    | some a, some b => a.data == b.data
    | none, none => true
    | _, _ => false
  let source := if strip || sameSource then stringBytes none else stringBytes p.source
  let header := sizeBytes p.lineDefined ++ sizeBytes p.lastLineDefined ++
    [p.numParams.toUInt8, (if p.isVararg then 1 else 0), p.maxStack.toUInt8]
  let code := sizeBytes p.code.size ++ p.code.toList.flatMap (fun i => leBytes i.bits.toNat 4)
  let consts := sizeBytes p.consts.size ++ p.consts.toList.flatMap constantBytes
  let upvals := sizeBytes p.upvals.size ++
    p.upvals.toList.flatMap fun u => [(if u.inStack then 1 else 0), u.index.toUInt8, u.kind.toUInt8]
  let protos := sizeBytes p.protos.size ++
    (p.protos.attach.toList.flatMap fun ⟨q, _⟩ => functionBytes strip p.source q)
  let lines := if strip then sizeBytes 0 else
    sizeBytes p.lineInfo.size ++ p.lineInfo.toList.map fun d => (d % 256).toNat.toUInt8
  let absLines := if strip then sizeBytes 0 else
    sizeBytes p.absLineInfo.size ++
      p.absLineInfo.toList.flatMap fun (pc, line) => sizeBytes pc ++ sizeBytes line
  let locals := if strip then sizeBytes 0 else
    sizeBytes p.locVars.size ++ p.locVars.toList.flatMap fun v =>
      stringBytes (v.name.map String.toUTF8) ++ sizeBytes v.startPc ++ sizeBytes v.endPc
  let upNames := if strip then sizeBytes 0 else
    sizeBytes p.upvals.size ++ p.upvals.toList.flatMap fun u => stringBytes (u.name.map String.toUTF8)
  source ++ header ++ code ++ consts ++ upvals ++ protos ++ lines ++ absLines ++ locals ++ upNames
termination_by sizeOf p
decreasing_by
  have h1 := Array.sizeOf_lt_of_mem (by assumption : q ∈ p.protos)
  have h2 : sizeOf p.protos < sizeOf p := by cases p; simp; omega
  omega

/-- A function with `nupvals` upvalues as a binary chunk. -/
def Proto.dump (p : Proto) (nupvals : Nat) (strip : Bool) : ByteArray :=
  chunkHeader ++ ⟨(nupvals.toUInt8 :: functionBytes strip none p).toArray⟩

/-! ## Reading a chunk back -/

/-- Reading a chunk: the position in its bytes, failing with a reason. -/
abbrev Reader := StateT Nat (Except String)

namespace Reader

/-- The next byte. -/
def byte (data : ByteArray) : Reader UInt8 := do
  let pos ← get
  match data[pos]? with
  | some b => set (pos + 1); return b
  | none => throw "truncated chunk"

/-- The next `n` bytes. -/
def bytes (data : ByteArray) (n : Nat) : Reader ByteArray := do
  let pos ← get
  if pos + n > data.size then throw "truncated chunk"
  set (pos + n)
  return data.extract pos (pos + n)

/-- A count in the variable-length form, below `limit`. -/
def unsigned (data : ByteArray) (limit : Nat) : Reader Nat := go 0 (data.size + 1)
where
  go (x : Nat) : Nat → Reader Nat
    | 0 => throw "truncated chunk"
    | fuel + 1 => do
      let b ← byte data
      if x ≥ limit / 128 then throw "integer overflow"
      let x := x * 128 + (b &&& 0x7F).toNat
      if b &&& 0x80 == 0 then go x fuel else return x

/-- A count that fits in an `int`. -/
def int (data : ByteArray) : Reader Nat := unsigned data (Nat.pow 2 31 - 1)

/-- A length that fits in a `size_t`. -/
def size (data : ByteArray) : Reader Nat := unsigned data (Nat.pow 2 64 - 1)

/-- A little-endian word of `n` bytes. -/
def word (data : ByteArray) (n : Nat) : Reader Nat := do
  return ofLeBytes (← bytes data n).data.toList

/-- An optional string. -/
def string? (data : ByteArray) : Reader (Option ByteArray) := do
  let n ← size data
  if n == 0 then return none
  return some (← bytes data (n - 1))

/-- A string that must be there. -/
def string (data : ByteArray) : Reader ByteArray := do
  match ← string? data with
  | some s => return s
  | none => throw "bad format for constant string"

/-- A 64-bit integer. -/
def integer (data : ByteArray) : Reader Int := do
  let n ← word data 8
  return if n ≥ Nat.pow 2 63 then (n : Int) - Int.pow 2 64 else n

/-- `n` items read one after another. -/
def many {α : Type} (n : Nat) (item : Reader α) : Reader (Array α) := do
  let mut out : Array α := #[]
  for _ in [0:n] do
    out := out.push (← item)
  return out

/-- A constant. An unknown tag stands for `nil`. -/
def constant (data : ByteArray) : Reader Value := do
  match (← byte data).toNat with
  | 1 => return .bool false
  | 17 => return .bool true
  | 19 => return .num ⟨(← word data 8).toUInt64⟩
  | 3 => return .int (← integer data)
  | 4 | 20 => return .str (← string data)
  | _ => return .nil

/-- A string as text. -/
def text (s : ByteArray) : String := Text.decodeUtf8Lossy s.data.toList

/-- A function, its source defaulting to its parent's. -/
def function (data : ByteArray) : (fuel : Nat) → Option ByteArray → Reader Proto
  | 0, _ => throw "truncated chunk"
  | fuel + 1, parent => do
    let source := (← string? data).orElse fun _ => parent
    let lineDefined ← int data
    let lastLineDefined ← int data
    let numParams := (← byte data).toNat
    let isVararg := (← byte data) != 0
    let maxStack := (← byte data).toNat
    let ncode ← int data
    let code ← many ncode (do return Instr.mk (← word data 4).toUInt32)
    let nk ← int data
    let consts ← many nk (constant data)
    let nups ← int data
    let upvals ← many nups do
      let inStack := (← byte data) != 0
      let index := (← byte data).toNat
      let kind := (← byte data).toNat
      return ({ inStack, index, kind } : UpvalDesc)
    let np ← int data
    let protos ← many np (function data fuel source)
    let nl ← int data
    let lineInfo ← many nl do
      let b := (← byte data).toNat
      return ((if b ≥ 128 then (b : Int) - 256 else b) : Int)
    let na ← int data
    let absLineInfo ← many na do
      let pc ← int data
      let line ← int data
      return (pc, line)
    let nv ← int data
    let locVars ← many nv do
      let name ← string? data
      let startPc ← int data
      let endPc ← int data
      return ({ name := name.map text, startPc, endPc } : LocVar)
    let nn ← int data
    let nn := if nn != 0 then upvals.size else 0
    let mut upvals := upvals
    for i in [0:nn] do
      let name ← string? data
      upvals := upvals.modify i fun u => { u with name := name.map text }
    return Proto.withOps
      { source, lineDefined, lastLineDefined, numParams, isVararg, maxStack, code, consts,
        upvals, protos, lineInfo, absLineInfo, locVars }

/-- Checks a fixed part of the header. -/
def literal (data : ByteArray) (expected : List UInt8) (why : String) : Reader Unit := do
  let got ← bytes data expected.length
  if got.data.toList != expected then throw why

/-- Checks one byte of the header. -/
def fixedByte (data : ByteArray) (expected : Nat) (why : String) : Reader Unit := do
  if (← byte data).toNat != expected then throw why

/-- The header, after the first byte. -/
def header (data : ByteArray) : Reader Unit := do
  set 1
  literal data [0x4C, 0x75, 0x61] "not a binary chunk"
  fixedByte data 0x54 "version mismatch"
  fixedByte data 0 "format mismatch"
  literal data [0x19, 0x93, 0x0D, 0x0A, 0x1A, 0x0A] "corrupted chunk"
  fixedByte data 4 "Instruction size mismatch"
  fixedByte data 8 "lua_Integer size mismatch"
  fixedByte data 8 "lua_Number size mismatch"
  if (← integer data) != 0x5678 then throw "integer format mismatch"
  if (← word data 8) != 0x4077280000000000 then throw "float format mismatch"

end Reader

/-- Reads a binary chunk: its function and the number of upvalues its closure gets, or why the
chunk is refused. -/
def Proto.undump (data : ByteArray) : Except String (Proto × Nat) :=
  let read : Reader (Proto × Nat) := do
    Reader.header data
    let nupvals := (← Reader.byte data).toNat
    let p ← Reader.function data (data.size + 1) none
    return (p, nupvals)
  read.run' 0

end CounterCache.Lua.Code
