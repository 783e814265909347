import CounterCache.Lua.Numeral
import CounterCache.Lua.Operator
import CounterCache.Decimal.Text

/-!
# Lua numbers

Lua has two kinds of number: 64-bit integers, whose arithmetic wraps around, and doubles. An
operation on two integers stays an integer, except `/` and `^`, which always give a double; an
operation with a double operand converts the other operand to the nearest double. Floor
division and modulo round toward minus infinity, so the remainder has the divisor's sign; on
integers a zero divisor is an error, on doubles it gives an infinity or NaN.

Comparisons between an integer and a double are exact: the integer is never rounded. Bitwise
operators work on integers; a double takes part only when it equals an integer in range.

A number's text is its decimal digits for an integer, and `%.14g` for a double, with `.0`
added when that looks like an integer.

A NaN made from operands that are not NaN has its sign bit set, as the processors this runs
on make it; an operand that is NaN is passed on (`Double.settle`).
-/

namespace CounterCache.Lua

open CounterCache.Decimal

/-- The signed 64-bit range. -/
def InRange (n : Int) : Prop := -(Int.pow 2 63) ≤ n ∧ n < Int.pow 2 63

instance (n : Int) : Decidable (InRange n) := inferInstanceAs (Decidable (_ ∧ _))

/-- The exact value of a finite double as a ratio `num / den`, `den` a power of two. -/
def exactRatio (neg : Bool) (m : Nat) (e : Int) : Int × Nat :=
  let (n, d) := dyadicRatio m e
  ((if neg then -(n : Int) else n), d)

/-- The integer a whole double below `2 ^ 53` in magnitude equals. -/
def smallFloatInt (f : Float) : Int :=
  let n : Int := f.abs.toUInt64.toNat
  if f < 0 then -n else n

/-- The limit below which doubles are read through 64-bit words: `2 ^ 53`. -/
@[noinline] def smallFloatLimit : Float := 9007199254740992.0

/-- The integer a double equals, if it equals one. -/
def Float.toInt? (f : Float) : Option Int :=
  if f.abs < smallFloatLimit then
    if f.floor == f then some (smallFloatInt f) else none
  else
    match classify f with
    | .finite neg m e =>
      let (n, d) := exactRatio neg m e
      if n % d = 0 then some (n / d) else none
    | _ => none

/-- The greatest integer not above a finite double. -/
def Float.floorInt? (f : Float) : Option Int :=
  if f.abs < smallFloatLimit then some (smallFloatInt f.floor)
  else
    match classify f with
    | .finite neg m e => let (n, d) := exactRatio neg m e; some (n / d)
    | _ => none

/-- The least integer not below a finite double. -/
def Float.ceilInt? (f : Float) : Option Int :=
  if f.abs < smallFloatLimit then some (smallFloatInt f.ceil)
  else
    match classify f with
    | .finite neg m e => let (n, d) := exactRatio neg m e; some (-((-n) / d))
    | _ => none

/-- The double nearest to an integer. -/
def intToDouble (n : Int) : Double := Double.ofFloat (ofInt n)

/-- The integers below this bound in magnitude are doubles exactly. -/
@[noinline] def exactIntBound : Nat := Nat.pow 2 53

/-- Compares an integer with a double exactly; nothing for a NaN. An integer below `2 ^ 53` in
magnitude is a double itself and is compared as one. -/
def cmpIntFloat (i : Int) (f : Float) : Option Ordering :=
  if i.natAbs < exactIntBound then
    let x := ofInt i
    if x < f then some .lt else if x == f then some .eq else if f < x then some .gt else none
  else
  match classify f with
  | .nan _ => none
  | .infinite neg => some (if neg then .gt else .lt)
  | .finite neg m e =>
    let (n, d) := exactRatio neg m e
    some (compare (i * d) n)

namespace Numeral

/-- The number as a double. -/
def toDouble : Numeral → Double
  | .int n => intToDouble n
  | .flt f => f

/-- The number as an integer, when it equals one in range. -/
def toInteger? : Numeral → Option Int
  | .int n => some n
  | .flt f => (Float.toInt? f.toFloat).filter fun n => decide (InRange n)

/-- Numeric equality: an integer and a double are equal when they are the same number. -/
def eq : Numeral → Numeral → Bool
  | .int a, .int b => a == b
  | .flt a, .flt b => a == b
  | .int a, .flt b | .flt b, .int a => cmpIntFloat a b.toFloat == some .eq

/-- Numeric `<`. -/
def lt : Numeral → Numeral → Bool
  | .int a, .int b => decide (a < b)
  | .flt a, .flt b => decide (a < b)
  | .int a, .flt b => cmpIntFloat a b.toFloat == some .lt
  | .flt a, .int b => cmpIntFloat b a.toFloat == some .gt

/-- Numeric `≤`. -/
def le : Numeral → Numeral → Bool
  | .int a, .int b => decide (a ≤ b)
  | .flt a, .flt b => decide (a ≤ b)
  | .int a, .flt b => cmpIntFloat a b.toFloat == some .lt || cmpIntFloat a b.toFloat == some .eq
  | .flt a, .int b => cmpIntFloat b a.toFloat == some .gt || cmpIntFloat b a.toFloat == some .eq

/-- The text of a number: decimal digits for an integer; `%.14g` for a double, followed by
`.0` when that text has only a sign and digits. -/
def text : Numeral → String
  | .int n => toString n
  | .flt f =>
    let s := general 14 f.classify
    if s.all fun c => c == '-' || c.isDigit then s ++ ".0" else s

end Numeral

/-- Why an arithmetic operation fails on numbers. -/
inductive ArithError where
  /-- Integer modulo by zero. -/
  | modByZero
  /-- Integer floor division by zero. -/
  | divByZero
  /-- A bitwise operand is a double that is not an integer in range. -/
  | noInteger
  deriving DecidableEq, Repr

/-- The message of an arithmetic failure. -/
def ArithError.message : ArithError → String
  | .modByZero => "attempt to perform 'n%0'"
  | .divByZero => "attempt to divide by zero"
  | .noInteger => "number has no integer representation"

/-- Float remainder with the sign of the dividend, computed exactly: `a - b · trunc (a / b)`;
a zero divisor or an infinite dividend gives a NaN. -/
def truncRem (a b : Double) : Double :=
  match a.classify, b.classify with
  | .finite na ma ea, .finite _ mb eb =>
    if mb = 0 then Double.defaultNaN
    else
      let low := min ea eb
      let x := ma * Nat.pow 2 (ea - low).toNat
      let y := mb * Nat.pow 2 (eb - low).toNat
      Double.ofFloat (ofDyadic na (x % y) low)
  | .finite .., .infinite _ => a
  | _, _ => Double.nanOf a b

/-- Float modulo with the divisor's sign: the remainder of `truncRem`, plus the divisor when the
two have different signs. -/
def floatMod (a b : Double) : Double :=
  let m := truncRem a b
  if (if m > 0 then b < 0 else m < 0 && b > 0) then m + b else m

/-- An arithmetic operation on two numbers: `+ - * / // % ^`. Other operators give zero. -/
def arith (op : ArithOp) (a b : Numeral) : Except ArithError Numeral :=
  let flt (f : Double → Double → Double) : Numeral := .flt (f a.toDouble b.toDouble)
  match op, a, b with
  | .add, .int x, .int y => .ok (.int (wrap64 (x + y)))
  | .sub, .int x, .int y => .ok (.int (wrap64 (x - y)))
  | .mul, .int x, .int y => .ok (.int (wrap64 (x * y)))
  | .idiv, .int x, .int y =>
    if y = 0 then .error .divByZero else .ok (.int (wrap64 (Int.fdiv x y)))
  | .mod, .int x, .int y =>
    if y = 0 then .error .modByZero else .ok (.int (Int.fmod x y))
  | .add, _, _ => .ok (flt (· + ·))
  | .sub, _, _ => .ok (flt (· - ·))
  | .mul, _, _ => .ok (flt (· * ·))
  | .div, _, _ => .ok (flt (· / ·))
  | .pow, _, _ => .ok (flt Double.pow)
  | .idiv, _, _ => .ok (flt fun x y => (x / y).map Float.floor)
  | .mod, _, _ => .ok (flt floatMod)
  | _, _, _ => .ok (.int 0)

/-- Negation: integers wrap, so the least integer is its own negation. -/
def negate : Numeral → Numeral
  | .int n => .int (wrap64 (-n))
  | .flt f => .flt f.neg

/-- An integer as 64 bits. -/
def toBits64 (n : Int) : Nat := n.toInt64.toUInt64.toNat

/-- 64 bits as a signed integer. -/
def ofBits64 (b : Nat) : Int := wrap64 b

/-- A logical shift left by `s` bits, right when `s` is negative; 64 or more bits give zero. -/
def shiftLeft (x s : Int) : Int :=
  if s ≤ -64 ∨ s ≥ 64 then 0
  else if s ≥ 0 then (x.toInt64.toUInt64 <<< s.toNat.toUInt64).toInt64.toInt
  else (x.toInt64.toUInt64 >>> (-s).toNat.toUInt64).toInt64.toInt

/-- A bitwise operation on integers: `& | ~ << >>`. Other operators give zero. -/
def bitwise (op : ArithOp) (x y : Int) : Int :=
  match op with
  | .band => (x.toInt64 &&& y.toInt64).toInt
  | .bor => (x.toInt64 ||| y.toInt64).toInt
  | .bxor => (x.toInt64 ^^^ y.toInt64).toInt
  | .shl => shiftLeft x y
  | .shr => shiftLeft x (-y)
  | _ => 0

/-- Bitwise complement. -/
def complement (x : Int) : Int := wrap64 (-x - 1)

theorem arith_add_int (x y : Int) : arith .add (.int x) (.int y) = .ok (.int (wrap64 (x + y))) :=
  rfl

end CounterCache.Lua
