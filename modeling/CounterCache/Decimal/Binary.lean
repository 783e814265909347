/-!
# Doubles as exact numbers

A double is read off its 64 bits: a sign, an 11-bit biased exponent and a 52-bit fraction. A
finite double is exactly `± mant · 2 ^ exp` with `mant < 2 ^ 53`; the exponent field `0` holds
zero and the subnormals, the field `2047` the infinities and NaNs.

In the other direction, `ofRatio` gives the double nearest to a positive ratio of naturals, a
tie going to the even mantissa, as IEEE 754 rounds; ratios past the largest double round to
infinity. Reading decimal or hexadecimal text needs nothing more.
-/

namespace CounterCache.Decimal

/-- What a double is. -/
inductive Binary64 where
  /-- `(-1) ^ neg · mant · 2 ^ exp`. -/
  | finite (neg : Bool) (mant : Nat) (exp : Int)
  | infinite (neg : Bool)
  | nan (neg : Bool)
  deriving DecidableEq, Repr, Inhabited

/-- The weight of a normal double's hidden bit, `2 ^ 52`. -/
@[noinline] def hiddenBit : Nat := Nat.pow 2 52

/-- The least integer that is not always a double exactly, `2 ^ 53`. -/
@[noinline] def exactLimit : Nat := Nat.pow 2 53

/-- Reads the 64 bits of a double. -/
def classifyBits (b : UInt64) : Binary64 :=
  let neg := b ≥ 0x8000000000000000
  let field : Nat := ((b >>> 52) &&& 0x7FF).toNat
  let frac : Nat := (b &&& 0xFFFFFFFFFFFFF).toNat
  if field = 2047 then (if frac = 0 then .infinite neg else .nan neg)
  else if field = 0 then .finite neg frac (-1074)
  else .finite neg (frac + hiddenBit) ((field : Int) - 1075)

/-- Reads a double's bits. -/
def classify (f : Float) : Binary64 := classifyBits f.toBits

/-- `n / d` rounded to the nearest natural, a tie going to the even one. -/
def roundHalfEven (n d : Nat) : Nat :=
  let q := n / d
  let r := n % d
  if 2 * r > d ∨ (2 * r = d ∧ q % 2 = 1) then q + 1 else q

/-- `n / d` compared with `2 ^ t`, for `t` of either sign: whether the ratio is at least it. -/
def atLeastPow2 (n d : Nat) (t : Int) : Bool :=
  if t ≥ 0 then n ≥ d * Nat.pow 2 t.toNat else n * Nat.pow 2 (-t).toNat ≥ d

/-- The binary exponent of a positive ratio: the `t` with `2 ^ t ≤ n / d < 2 ^ (t + 1)`. -/
def log2Ratio (n d : Nat) : Int :=
  let t : Int := (Nat.log2 n : Int) - (Nat.log2 d : Int)
  if atLeastPow2 n d t then t else t - 1

/-- `n / (d · 2 ^ s)` rounded to the nearest natural, ties to even. -/
def roundScaled (n d : Nat) (s : Int) : Nat :=
  if s ≥ 0 then roundHalfEven n (d * Nat.pow 2 s.toNat) else roundHalfEven (n * Nat.pow 2 (-s).toNat) d

/-- The bits of the double nearest to a positive ratio `n / d`. -/
def ratioBits (n d : Nat) : Nat :=
  if n = 0 ∨ d = 0 then 0
  else
    let t := log2Ratio n d
    if t < -1022 then
      -- subnormal range: a multiple of 2 ^ -1074; reaching 2 ^ 52 is the least normal
      roundScaled n d (-1074)
    else
      let q := roundScaled n d (t - 52)
      let (q, t) := if q = Nat.pow 2 53 then (Nat.pow 2 52, t + 1) else (q, t)
      if t > 1023 then 2047 * Nat.pow 2 52
      else (t + 1075 - 52).toNat * Nat.pow 2 52 + (q - Nat.pow 2 52)

/-- The double nearest to `n / d`, negated when `neg` holds. -/
def ofRatio (neg : Bool) (n d : Nat) : Float :=
  Float.ofBits (ratioBits n d + (if neg then Nat.pow 2 63 else 0)).toUInt64

/-- Infinity of the given sign. -/
def infinity (neg : Bool) : Float :=
  Float.ofBits (2047 * Nat.pow 2 52 + (if neg then Nat.pow 2 63 else 0) : Nat).toUInt64

/-- The double nearest to `m · 2 ^ e`. -/
def ofDyadic (neg : Bool) (m : Nat) (e : Int) : Float :=
  if e ≥ 0 then ofRatio neg (m * Nat.pow 2 e.toNat) 1 else ofRatio neg m (Nat.pow 2 (-e).toNat)

/-- The double nearest to `m · 10 ^ e`. -/
def ofDecimal (neg : Bool) (m : Nat) (e : Int) : Float :=
  if e ≥ 0 then ofRatio neg (m * Nat.pow 10 e.toNat) 1 else ofRatio neg m (Nat.pow 10 (-e).toNat)

/-- The double nearest to an integer. Below `2 ^ 53` in magnitude the integer is a double
itself, and the conversion of 64-bit words gives it. -/
def ofInt (i : Int) : Float :=
  if i.natAbs < exactLimit then
    let x := i.natAbs.toUInt64.toFloat
    if i < 0 then -x else x
  else ofRatio (i < 0) i.natAbs 1

theorem roundHalfEven_exact (q d : Nat) (h : 0 < d) : roundHalfEven (q * d) d = q := by
  simp [roundHalfEven, Nat.mul_div_cancel _ h, Nat.mul_mod_left]
  omega

end CounterCache.Decimal
