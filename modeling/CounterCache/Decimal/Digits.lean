import CounterCache.Decimal.Binary

/-!
# Decimal digits of a double

Two ways to write a positive double `m · 2 ^ e` in decimal, both computed exactly over naturals:

* `roundSig` gives the `n` significant digits nearest to the value, a tie going to the even last
  digit: the digits a `printf`-style `%.*g` conversion prints.
* `shortest` gives the fewest significant digits that read back as the same double, and of those
  the decimal nearest to it. A decimal reads back as the double when it lies in the double's
  rounding interval: halfway to the neighbouring doubles on either side, the ends included only
  when the mantissa is even, since a tie rounds to the even mantissa.

Both answer a pair `(c, p)` meaning `c · 10 ^ p`.
-/

namespace CounterCache.Decimal

/-- A positive dyadic `m · 2 ^ e` as a ratio of naturals. -/
def dyadicRatio (m : Nat) (e : Int) : Nat × Nat :=
  if e ≥ 0 then (m * Nat.pow 2 e.toNat, 1) else (m, Nat.pow 2 (-e).toNat)

/-- Number of decimal digits of a natural (one for zero). -/
def digitCount (n : Nat) : Nat := (Nat.toDigits 10 n).length

/-- Whether `n / d ≥ 10 ^ t`, for `t` of either sign. -/
def atLeastPow10 (n d : Nat) (t : Int) : Bool :=
  if t ≥ 0 then n ≥ d * Nat.pow 10 t.toNat else n * Nat.pow 10 (-t).toNat ≥ d

/-- The decimal exponent of a positive ratio: the `k` with `10 ^ k ≤ n / d < 10 ^ (k + 1)`. -/
def log10Ratio (n d : Nat) : Int :=
  let t : Int := (digitCount n : Int) - (digitCount d : Int)
  if atLeastPow10 n d t then t else t - 1

/-- `c · 10 ^ p` as a ratio of naturals. -/
def decimalRatio (c : Nat) (p : Int) : Nat × Nat :=
  if p ≥ 0 then (c * Nat.pow 10 p.toNat, 1) else (c, Nat.pow 10 (-p).toNat)

/-- Compares two ratios. -/
def cmpRatio (a b : Nat × Nat) : Ordering := compare (a.1 * b.2) (b.1 * a.2)

/-- The `n` significant digits nearest to the positive ratio `vn / vd`, a tie going to the even
digit: `(c, p)` with `10 ^ (n - 1) ≤ c < 10 ^ n`. -/
def roundSig (vn vd n : Nat) : Nat × Int :=
  let k := log10Ratio vn vd
  let p := k - n + 1
  let c := if p ≥ 0 then roundHalfEven vn (vd * Nat.pow 10 p.toNat)
    else roundHalfEven (vn * Nat.pow 10 (-p).toNat) vd
  if c = Nat.pow 10 n then (Nat.pow 10 (n - 1), p + 1) else (c, p)

/-- Removes trailing zero digits, raising the exponent to match. -/
def stripZeros (c : Nat) (p : Int) : (fuel : Nat) → Nat × Int
  | 0 => (c, p)
  | fuel + 1 => if c ≠ 0 ∧ c % 10 = 0 then stripZeros (c / 10) (p + 1) fuel else (c, p)

/-- The shortest decimal in the rounding interval of the positive double `m · 2 ^ e`, and of
those the nearest to it, a tie going up. Trailing zeros are removed. -/
def shortest (m : Nat) (e : Int) : Nat × Int :=
  -- The interval, in units of 2 ^ (e - 2): below the value by a half gap to the lower neighbour
  -- (a quarter unit when the mantissa is the least of its binade), above by a half unit.
  let lowGap := if m = Nat.pow 2 52 ∧ e > -1074 then 1 else 2
  let incl := m % 2 = 0
  let v := dyadicRatio (4 * m) (e - 2)
  let lo := dyadicRatio (4 * m - lowGap) (e - 2)
  let hi := dyadicRatio (4 * m + 2) (e - 2)
  let k := log10Ratio v.1 v.2
  let inside (c : Nat) (p : Int) : Bool :=
    let x := decimalRatio c p
    let a := cmpRatio lo x
    let b := cmpRatio x hi
    (a == .lt || (incl && a == .eq)) && (b == .lt || (incl && b == .eq))
  let rec search (n : Nat) : (fuel : Nat) → Nat × Int
    | 0 => roundSig v.1 v.2 17
    | fuel + 1 =>
      let p := k - n + 1
      let below := if p ≥ 0 then v.1 / (v.2 * Nat.pow 10 p.toNat) else (v.1 * Nat.pow 10 (-p).toNat) / v.2
      let above := below + 1
      match inside below p, inside above p with
      | true, true =>
        -- both read back: the nearer wins, a tie goes up; `v - below < above - v` exactly
        -- when `2 v < below + above`
        if cmpRatio (2 * v.1, v.2) (decimalRatio (below + above) p) == .lt then (below, p)
        else (above, p)
      | true, false => (below, p)
      | false, true => (above, p)
      | false, false => search (n + 1) fuel
  let (c, p) := search 1 17
  stripZeros c p 400

end CounterCache.Decimal
