import CounterCache.Lua.Library.Args
import CounterCache.Lua.Lexer

/-!
# The `utf8` library

Decoding accepts the extended form of UTF-8 that reaches `2 ^ 31 - 1` in up to six bytes and
refuses overlong forms; strict decoding also refuses code points past `U+10FFFF` and surrogates,
and the functions that take a `lax` flag skip those checks when it is set. `utf8.char` encodes
in the same extended form.
-/

namespace CounterCache.Lua

namespace Library

variable {σ : Type}

open Machine

/-- The largest Unicode code point. -/
def maxUnicode : Nat := 0x10FFFF

/-- The largest code point of the extended form. -/
def maxUtf : Nat := 0x7FFFFFFF

/-- A continuation byte. -/
def isContByte (b : UInt8) : Bool := b &&& 0xC0 == 0x80

/-- The pattern `utf8.charpattern` that matches one encoded character. -/
def charPattern : ByteArray :=
  ⟨#[0x5B, 0x00, 0x2D, 0x7F, 0xC2, 0x2D, 0xFD, 0x5D, 0x5B, 0x80, 0x2D, 0xBF, 0x5D, 0x2A]⟩

/-- The smallest code point of each encoded length, against overlong forms. -/
def minOfLength : List Nat := [0x80, 0x800, 0x10000, 0x200000, 0x4000000]

/-- Decodes the character at byte `i`: its code point and the position after it. Positions past
the end read as a zero byte. -/
def decodeAt (s : ByteArray) (i : Nat) (strict : Bool) : Option (Nat × Nat) :=
  let c := (byteAt s i).toNat
  let r : Option (Nat × Nat) :=
    if c < 0x80 then some (c, i + 1)
    else
      -- count the continuation bytes the leading byte asks for
      let rec more (c res count : Nat) : (fuel : Nat) → Option (Nat × Nat × Nat)
        | 0 => none
        | fuel + 1 =>
          if c &&& 0x40 == 0 then some (c, res, count)
          else
            let cc := byteAt s (i + count + 1)
            if !isContByte cc then none
            else more ((c <<< 1) &&& 0xFF) ((res <<< 6) ||| (cc &&& 0x3F).toNat) (count + 1) fuel
      match more c 0 0 7 with
      | none => none
      | some (c', res, count) =>
        let res := res ||| ((c' &&& 0x7F) <<< (count * 5))
        if count > 5 ∨ count = 0 ∨ res > maxUtf ∨ res < minOfLength.getD (count - 1) 0 then none
        else some (res, i + count + 1)
  match r with
  | some (code, next) =>
    if strict ∧ (code > maxUnicode ∨ (0xD800 ≤ code ∧ code ≤ 0xDFFF)) then none
    else some (code, next)
  | none => none

/-- A position relative to a length: negative counts from the end, past the start becomes `0`. -/
def utfPos (pos : Int) (len : Nat) : Int :=
  if pos ≥ 0 then pos
  else if (-pos).toNat > len then 0
  else len + pos + 1

/-- `utf8.char`. -/
def utfChar (c : LibCall) : LuaM σ (List Value) := do
  let mut out : List UInt8 := []
  for i in List.range c.args.size do
    let k ← c.checkInteger i
    let code := toBits64 k
    if code > maxUtf then c.argError (i + 1) "value out of range"
    out := out ++ utf8Bytes code
  return [bytesValue out]

/-- `utf8.len`: the number of characters that start between two positions, or `fail` and the
position of the first invalid byte. -/
def utfLen (c : LibCall) : LuaM σ (List Value) := do
  let s ← c.checkString 0
  let posi := utfPos (← c.optInteger 1 1) s.size
  let posj := utfPos (← c.optInteger 2 (-1)) s.size
  let lax := (c.arg 3).truthy
  if !(1 ≤ posi ∧ posi - 1 ≤ s.size) then c.argError 2 "initial position out of bounds"
  if !(posj - 1 < s.size) then c.argError 3 "final position out of bounds"
  let rec go (i : Nat) (n : Nat) : (fuel : Nat) → List Value
    | 0 => [.int n]
    | fuel + 1 =>
      if (i : Int) > posj - 1 then [.int n]
      else
        match decodeAt s i !lax with
        | none => [.nil, .int (i + 1)]
        | some (_, next) => go next (n + 1) fuel
  return go (posi - 1).toNat 0 (s.size + 1)

/-- `utf8.codepoint`: the code points of the characters that start between two positions. -/
def utfCodepoint (c : LibCall) : LuaM σ (List Value) := do
  let s ← c.checkString 0
  let posi := utfPos (← c.optInteger 1 1) s.size
  let pose := utfPos (← c.optInteger 2 posi) s.size
  let lax := (c.arg 3).truthy
  if posi < 1 then c.argError 2 "out of bounds"
  if pose > s.size then c.argError 3 "out of bounds"
  if posi > pose then return []
  if pose - posi ≥ maxCount then raiseHere "string slice too long"
  if !(← roomFor (pose - posi + 1).toNat) then raiseHere "stack overflow (string slice too long)"
  let rec go (i : Nat) (acc : Array Value) : (fuel : Nat) → LuaM σ (List Value)
    | 0 => pure acc.toList
    | fuel + 1 => do
      if i ≥ pose.toNat then return acc.toList
      match decodeAt s i !lax with
      | none => raiseHere "invalid UTF-8 code"
      | some (code, next) => go next (acc.push (.int code)) fuel
  go (posi - 1).toNat #[] (s.size + 1)

/-- `utf8.offset`: the position where the `n`-th character from position `i` starts. -/
def utfOffset (c : LibCall) : LuaM σ (List Value) := do
  let s ← c.checkString 0
  let n ← c.checkInteger 1
  let dflt : Int := if n ≥ 0 then 1 else s.size + 1
  let posi := utfPos (← c.optInteger 2 dflt) s.size
  if !(1 ≤ posi ∧ posi - 1 ≤ s.size) then c.argError 3 "position out of bounds"
  let posi := (posi - 1).toNat
  let cont (i : Nat) : Bool := isContByte (byteAt s i)
  -- the start of the character before `i`
  let rec back (i : Nat) : (fuel : Nat) → Nat
    | 0 => i
    | fuel + 1 => if i > 0 ∧ cont i then back (i - 1) fuel else i
  -- the start of the character after `i`
  let rec fwd (i : Nat) : (fuel : Nat) → Nat
    | 0 => i
    | fuel + 1 => if cont (i + 1) then fwd (i + 1) fuel else i + 1
  if n == 0 then
    return [.int (back posi (s.size + 1) + 1)]
  if cont posi then raiseHere "initial position is a continuation byte"
  if n < 0 then
    let rec goBack (i : Nat) (n : Int) : (fuel : Nat) → Nat × Int
      | 0 => (i, n)
      | fuel + 1 =>
        if n < 0 ∧ i > 0 then goBack (back (i - 1) (s.size + 1)) (n + 1) fuel else (i, n)
    let (i, n) := goBack posi n (s.size + 1)
    return [if n == 0 then .int (i + 1) else .nil]
  else
    let rec goFwd (i : Nat) (n : Int) : (fuel : Nat) → Nat × Int
      | 0 => (i, n)
      | fuel + 1 =>
        if n > 0 ∧ i < s.size then goFwd (fwd i (s.size + 1)) (n - 1) fuel else (i, n)
    let (i, n) := goFwd posi (n - 1) (s.size + 1)
    return [if n == 0 then .int (i + 1) else .nil]

/-- One step of the `utf8.codes` iterator: the position and code point of the character after
the control position. -/
def codesStep (lax : Bool) (c : LibCall) : LuaM σ (List Value) := do
  let s ← c.checkString 0
  let n0 := match c.arg 1 with
    | .int k => toBits64 k
    | v => match v.toNumeral? with
      | some k => toBits64 (k.toInteger?.getD 0)
      | none => 0
  let rec skip (n : Nat) : (fuel : Nat) → Nat
    | 0 => n
    | fuel + 1 => if isContByte (byteAt s n) then skip (n + 1) fuel else n
  let n := if n0 < s.size then skip n0 (s.size + 1) else n0
  if n ≥ s.size then return []
  match decodeAt s n !lax with
  | some (code, next) =>
    if isContByte (byteAt s next) then raiseHere "invalid UTF-8 code"
    return [.int (n + 1), .int code]
  | none => raiseHere "invalid UTF-8 code"

/-- `utf8.codes`: the iterator over a string's characters, the string and the start. -/
def utfCodes (c : LibCall) : LuaM σ (List Value) := do
  let lax := (c.arg 1).truthy
  let s ← c.checkString 0
  if isContByte (byteAt s 0) then c.argError 1 "invalid UTF-8 code"
  return [.builtin (.codesStep lax), .str s, .int 0]

end Library

end CounterCache.Lua
