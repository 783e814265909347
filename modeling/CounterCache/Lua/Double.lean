import CounterCache.Decimal.Binary

/-!
# Doubles that keep the sign of a NaN

Lua's floats are IEEE doubles, held here as their 64 bits. A NaN has a sign like any other
double, and Lua shows it: the text of a NaN is `nan` or `-nan` by its sign bit, and packing a
double writes all its bits.

Arithmetic runs on `Float`, and its result is settled by the rules of the processors Lua runs on:
a NaN operand is passed on, made quiet, the first one first; a NaN made from operands that are
not NaN is the default NaN, quiet with the sign bit set. So `0/0` is `-nan`, and `-(0/0)` is
`nan`. Negation flips the sign bit and absolute value clears it, NaN or not.

Equality and order are those of IEEE: a NaN equals nothing, and `-0.0` equals `0.0`.
-/

namespace CounterCache.Lua

open CounterCache.Decimal

/-- A double, as its 64 bits. -/
structure Double where
  bits : UInt64
  deriving Inhabited, Repr

namespace Double

/-- The NaN of an invalid operation: quiet, with the sign bit set. -/
def defaultNaN : Double := ⟨0xFFF8000000000000⟩

/-- The double as a `Float`. -/
def toFloat (d : Double) : Float := Float.ofBits d.bits

/-- A double computed on `Float`; a NaN is the default NaN. -/
def ofFloat (f : Float) : Double := if f.isNaN then defaultNaN else ⟨f.toBits⟩

/-- What the double is: finite, infinite or NaN, with its sign. -/
def classify (d : Double) : Binary64 := classifyBits d.bits

/-- Whether the double is a NaN. -/
def isNaN (d : Double) : Bool :=
  match d.classify with
  | .nan _ => true
  | _ => false

/-- A NaN made quiet: the leading bit of its fraction set. -/
def quiet (d : Double) : Double := ⟨d.bits ||| 0x0008000000000000⟩

/-- Whether the sign bit is set. -/
def signBit (d : Double) : Bool := d.bits ≥ 0x8000000000000000

/-- The NaN an operation on `a` and `b` gives: a NaN operand made quiet, the first one first,
or the default NaN when neither is one. -/
def nanOf (a b : Double) : Double :=
  if a.isNaN then a.quiet else if b.isNaN then b.quiet else defaultNaN

/-- The result of an operation on `a` and `b` computed as `r`: `r` if it is not NaN, else the NaN
the operation gives. -/
def settle (r : Float) (a b : Double) : Double :=
  if r.isNaN then nanOf a b else ofFloat r

/-- A function of one double computed on `Float`. -/
def map (f : Float → Float) (a : Double) : Double := settle (f a.toFloat) a a

/-- A function of two doubles computed on `Float`. -/
def map₂ (f : Float → Float → Float) (a b : Double) : Double :=
  settle (f a.toFloat b.toFloat) a b

/-- The bits of the single-precision float nearest to the double; a NaN keeps its sign and the
leading bits of its fraction, and is made quiet. -/
def toFloat32Bits (d : Double) : UInt32 :=
  if d.isNaN then
    let sign : UInt32 := if d.signBit then 0x80000000 else 0
    let frac : UInt32 := (d.bits >>> (29 : UInt64)).toUInt32 &&& 0x003FFFFF
    sign ||| 0x7FC00000 ||| frac
  else d.toFloat.toFloat32.toBits

/-- The double a single-precision float's bits stand for; a NaN keeps its sign and fraction, and
is made quiet. -/
def ofFloat32Bits (b : UInt32) : Double :=
  if b &&& 0x7F800000 == 0x7F800000 && b &&& 0x007FFFFF != 0 then
    let sign : UInt64 := if b ≥ 0x80000000 then 0x8000000000000000 else 0
    let frac : UInt64 := (b &&& 0x007FFFFF).toUInt64 <<< (29 : UInt64)
    ⟨sign ||| 0x7FF8000000000000 ||| frac⟩
  else ofFloat (Float32.ofBits b).toFloat

/-- Negation: the sign bit flipped. -/
def neg (d : Double) : Double := ⟨d.bits ^^^ 0x8000000000000000⟩

/-- Absolute value: the sign bit cleared. -/
def abs (d : Double) : Double := ⟨d.bits &&& 0x7FFFFFFFFFFFFFFF⟩

/-- Whether the double is an odd integer. -/
def isOddInteger (d : Double) : Bool :=
  match d.classify with
  | .finite _ m e =>
    if e > 0 then false
    else
      let k := (-e).toNat
      m % Nat.pow 2 k == 0 && (m / Nat.pow 2 k) % 2 == 1
  | _ => false

/-- Whether the double is zero, of either sign. -/
def isZero (d : Double) : Bool :=
  match d.classify with
  | .finite _ 0 _ => true
  | _ => false

/-- Power as the C library computes it. A zero exponent and a base of one give one, NaN or not.
A NaN base is otherwise passed on, its sign flipped for an odd integer exponent: the library
squares the base and negates the square for odd powers of a base with the sign bit set. -/
def pow (a b : Double) : Double :=
  if b.isZero || a.bits == 0x3FF0000000000000 then ofFloat 1.0
  else if a.isNaN then
    if a.signBit && b.isOddInteger then a.quiet.neg else a.quiet
  else settle (a.toFloat.pow b.toFloat) a b

instance : OfScientific Double := ⟨fun m s e => ofFloat (OfScientific.ofScientific m s e)⟩

instance {n : Nat} : OfNat Double n := ⟨ofFloat (OfNat.ofNat n)⟩

instance : Neg Double := ⟨neg⟩

instance : Add Double := ⟨map₂ (· + ·)⟩

instance : Sub Double := ⟨map₂ (· - ·)⟩

instance : Mul Double := ⟨map₂ (· * ·)⟩

instance : Div Double := ⟨map₂ (· / ·)⟩

/-- IEEE equality. -/
instance : BEq Double := ⟨fun a b => a.toFloat == b.toFloat⟩

instance : LT Double := ⟨fun a b => a.toFloat < b.toFloat⟩

instance : LE Double := ⟨fun a b => a.toFloat ≤ b.toFloat⟩

instance (a b : Double) : Decidable (a < b) := inferInstanceAs (Decidable (a.toFloat < b.toFloat))

instance (a b : Double) : Decidable (a ≤ b) := inferInstanceAs (Decidable (a.toFloat ≤ b.toFloat))

theorem neg_neg (d : Double) : d.neg.neg = d := by
  cases d
  simp only [neg, UInt64.xor_assoc, UInt64.xor_self, UInt64.xor_zero]

end Double

end CounterCache.Lua
