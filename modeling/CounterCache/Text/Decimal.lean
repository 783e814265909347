/-!
# Decimal integers

Reading and writing 64-bit integers as decimal text. A signed integer is an optional `+` or `-`
followed by one or more ASCII digits, with a value inside the signed 64-bit range; an unsigned one
is an optional `+` and digits inside the unsigned range. Nothing else is accepted: no blanks, no
underscores, no empty digit string.
-/

namespace CounterCache.Text

/-- The least signed 64-bit integer. -/
def i64Min : Int := -9223372036854775808

/-- The greatest signed 64-bit integer. -/
def i64Max : Int := 9223372036854775807

/-- The greatest unsigned 64-bit integer. -/
def u64Max : Nat := 18446744073709551615

/-- The value of a nonempty string of ASCII digits. -/
def digitsValue? : List Char → Option Nat
  | [] => none
  | cs => cs.foldl (fun acc c => acc.bind fun n =>
      if c.isDigit then some (10 * n + (c.toNat - '0'.toNat)) else none) (some 0)

/-- Reads a signed 64-bit integer. -/
def parseI64? (s : String) : Option Int :=
  match s.toList with
  | '-' :: ds => (digitsValue? ds).bind fun n =>
      if (n : Int) ≤ -i64Min then some (-(n : Int)) else none
  | '+' :: ds => (digitsValue? ds).bind fun n => if (n : Int) ≤ i64Max then some n else none
  | ds => (digitsValue? ds).bind fun n => if (n : Int) ≤ i64Max then some n else none

/-- Reads an unsigned 64-bit integer. -/
def parseU64? (s : String) : Option Nat :=
  match s.toList with
  | '+' :: ds => (digitsValue? ds).bind fun n => if n ≤ u64Max then some n else none
  | ds => (digitsValue? ds).bind fun n => if n ≤ u64Max then some n else none

/-- Clamps an integer into the signed 64-bit range. -/
def clampI64 (n : Int) : Int := max i64Min (min i64Max n)

/-- Negation of a signed 64-bit integer with the wrap of two's complement: the least integer has
no opposite in the range and is its own negation. -/
def negI64 (n : Int) : Int := if n = i64Min then i64Min else -n

/-- Wraps an integer into the signed 64-bit range, as two's complement addition does. -/
def wrapI64 (n : Int) : Int := Int.bmod n (Nat.pow 2 64)

/-- An integer is inside the signed 64-bit range. -/
def InI64 (n : Int) : Prop := i64Min ≤ n ∧ n ≤ i64Max

instance (n : Int) : Decidable (InI64 n) := inferInstanceAs (Decidable (_ ∧ _))

theorem parseI64?_zero : parseI64? "0" = some 0 := by decide

end CounterCache.Text
