import CounterCache.Lua.Double

/-!
# Lua numerals

Reading a number from bytes, as Lua does for numerals in source text, for `tonumber` and for
strings used in arithmetic. Blanks around the number are allowed. A numeral is first read as an
integer: decimal digits whose value fits in 64 bits, or hexadecimal digits after `0x`, whose
value wraps around modulo `2 ^ 64`; either may carry a sign. Otherwise it is read as a float, the
double nearest to a decimal numeral with optional fraction and exponent (`e`), or to a
hexadecimal one with optional fraction and binary exponent (`p`). The words `inf` and `nan`
are not numerals, and neither is anything with bytes left over.
-/

namespace CounterCache.Lua

open CounterCache.Decimal

/-- A number as read: an integer or a float. -/
inductive Numeral where
  | int (n : Int)
  | flt (f : Double)
  deriving Repr, Inhabited

/-- Blank bytes: space, tab, newline, vertical tab, form feed, carriage return. -/
def isSpace (b : UInt8) : Bool := b == 0x20 || (0x09 ≤ b && b ≤ 0x0D)

/-- ASCII decimal digit. -/
def isDigit (b : UInt8) : Bool := 0x30 ≤ b && b ≤ 0x39

/-- The value of a hexadecimal digit. -/
def hexValue? (b : UInt8) : Option Nat :=
  if isDigit b then some (b.toNat - 0x30)
  else if 0x61 ≤ b && b ≤ 0x66 then some (b.toNat - 0x61 + 10)
  else if 0x41 ≤ b && b ≤ 0x46 then some (b.toNat - 0x41 + 10)
  else none

/-- Wraps an integer into the signed 64-bit range. An integer already in the range is kept as it
is, without computing a remainder. -/
def wrap64 (n : Int) : Int :=
  if n.natAbs < 4294967295 then n
  else if -9223372036854775808 ≤ n ∧ n < 9223372036854775808 then n else Int.bmod n (Nat.pow 2 64)

/-- Wrapping is the balanced remainder modulo `2 ^ 64`. -/
theorem wrap64_eq_bmod (n : Int) : wrap64 n = Int.bmod n (Nat.pow 2 64) := by
  unfold wrap64
  rw [Nat.pow_eq]
  split
  · next h => exact (Int.bmod_eq_of_le (by omega) (by omega)).symm
  · split
    · next h => exact (Int.bmod_eq_of_le (by omega) (by omega)).symm
    · rfl

/-- Drops leading blanks. -/
def skipSpaces (bs : List UInt8) : List UInt8 := bs.dropWhile isSpace

/-- An optional sign: whether it is `-`, and the rest. -/
def readSign (bs : List UInt8) : Bool × List UInt8 :=
  match bs with
  | 0x2D :: rest => (true, rest)
  | 0x2B :: rest => (false, rest)
  | _ => (false, bs)

/-- Hexadecimal digits: their value, their count and the rest. -/
def hexDigits (acc count : Nat) : List UInt8 → Nat × Nat × List UInt8
  | b :: rest =>
    match hexValue? b with
    | some d => hexDigits (acc * 16 + d) (count + 1) rest
    | none => (acc, count, b :: rest)
  | [] => (acc, count, [])

/-- Decimal digits: their value, their count and the rest. -/
def decDigits (acc count : Nat) : List UInt8 → Nat × Nat × List UInt8
  | b :: rest =>
    if isDigit b then decDigits (acc * 10 + (b.toNat - 0x30)) (count + 1) rest
    else (acc, count, b :: rest)
  | [] => (acc, count, [])

/-- Is `0x` or `0X` at the front. -/
def hexPrefix? : List UInt8 → Option (List UInt8)
  | 0x30 :: 0x78 :: rest | 0x30 :: 0x58 :: rest => some rest
  | _ => none

/-- Reads an integer numeral; decimal ones out of the 64-bit range are refused. -/
def readInt? (bs : List UInt8) : Option Int :=
  let (neg, bs) := readSign (skipSpaces bs)
  let (value, count, rest, wraps) := match hexPrefix? bs with
    | some r => let (v, c, r) := hexDigits 0 0 r; (v, c, r, true)
    | none => let (v, c, r) := decDigits 0 0 bs; (v, c, r, false)
  if count = 0 ∨ !(skipSpaces rest).isEmpty then none
  else
    let n : Int := if neg then -(value : Int) else value
    if wraps then some (wrap64 n)
    else if n < -(Int.pow 2 63) ∨ n ≥ Int.pow 2 63 then none
    else some n

/-- An optional exponent after a marker: its value (zero when absent) and the rest. -/
def readExponent (marks : List UInt8) (bs : List UInt8) : Int × List UInt8 :=
  match bs with
  | m :: rest =>
    if marks.contains m then
      let (neg, r) := readSign rest
      let (v, c, r) := decDigits 0 0 r
      if c = 0 then (0, bs) else ((if neg then -(v : Int) else v), r)
    else (0, bs)
  | [] => (0, [])

/-- Reads a float numeral: digits with an optional point and exponent, decimal or after `0x`. -/
def readFloat? (bs : List UInt8) : Option Float :=
  let (neg, bs) := readSign (skipSpaces bs)
  let hex := hexPrefix? bs
  let body := hex.getD bs
  let digits := if hex.isSome then hexDigits else decDigits
  let (whole, c1, rest) := digits 0 0 body
  let (frac, c2, rest) := match rest with
    | 0x2E :: r => digits whole 0 r
    | _ => (whole, 0, rest)
  let (e, rest) := readExponent (if hex.isSome then [0x70, 0x50] else [0x65, 0x45]) rest
  if c1 + c2 = 0 ∨ !(skipSpaces rest).isEmpty then none
  else if hex.isSome then
    let exp := e - 4 * (c2 : Int)
    -- far outside the range of doubles the value is zero or infinite
    if frac ≠ 0 ∧ exp + (Nat.log2 frac : Int) > 1100 then some (infinity neg)
    else if exp < -1200 - (Nat.log2 frac : Int) then some (ofRatio neg 0 1)
    else some (ofDyadic neg frac exp)
  else
    let exp := e - (c2 : Int)
    let size : Int := (toString frac).length
    if frac ≠ 0 ∧ exp + size > 330 then some (infinity neg)
    else if exp + size < -330 then some (ofRatio neg 0 1)
    else some (ofDecimal neg frac exp)

/-- Reads a numeral: an integer if it is one, else a float. -/
def readNumeral? (bs : List UInt8) : Option Numeral :=
  if bs.contains 0 then none
  else
    match readInt? bs with
    | some n => some (.int n)
    | none =>
      -- a float spelled with the letter n, such as inf or nan, is refused
      let special := bs.find? fun b => b == 0x2E || b == 0x78 || b == 0x58 || b == 0x6E || b == 0x4E
      if special == some 0x6E || special == some 0x4E then none
      else (readFloat? bs).map fun f => .flt (Double.ofFloat f)

theorem wrap64_zero : wrap64 0 = 0 := by decide

end CounterCache.Lua
