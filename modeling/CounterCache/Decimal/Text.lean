import CounterCache.Decimal.Digits

/-!
# Doubles as decimal text

Two spellings of a double, both built from the exact digits of `Decimal.Digits`:

* `general prec` is the `%.{prec}g` conversion of C's `printf`: the value rounded to `prec`
  significant digits, written positionally when its decimal exponent `x` has
  `-4 ≤ x < prec` and as `d.ddde±xx` otherwise, trailing zeros of the fraction removed.
* `shortestPositional` writes the fewest digits that read back as the same double, always
  positionally, however large or small the value: `1e21` is a one and twenty-one zeros.

Infinities are `inf` and `-inf`. `general` spells a NaN `nan` or `-nan` by its sign bit;
`shortestPositional` spells every NaN `NaN`.
-/

namespace CounterCache.Decimal

/-- Removes trailing `0` characters. -/
def dropTrailingZeros (s : String) : String :=
  String.ofList (s.toList.reverse.dropWhile (· == '0')).reverse

/-- The digits of `c · 10 ^ p` written positionally, with no trailing zeros after the point
and no point when nothing follows it. -/
def positional (c : Nat) (p : Int) : String :=
  let s := toString c
  if p ≥ 0 then s ++ String.ofList (List.replicate p.toNat '0')
  else
    let shift := (-p).toNat
    let padded := String.ofList (List.replicate (shift + 1 - min (shift + 1) s.length) '0') ++ s
    let whole := String.ofList (padded.toList.take (padded.length - shift))
    let frac := dropTrailingZeros (String.ofList (padded.toList.drop (padded.length - shift)))
    if frac.isEmpty then whole else whole ++ "." ++ frac

/-- The sign of a negative value. -/
def signText (neg : Bool) : String := if neg then "-" else ""

/-- An exponent as `printf` writes it: a sign and at least two digits. -/
def exponentText (x : Int) : String :=
  let digits := toString x.natAbs
  (if x < 0 then "e-" else "e+") ++ (if digits.length < 2 then "0" ++ digits else digits)

/-- `%.{prec}g` of a positive double `m · 2 ^ e` with `m > 0`. -/
def generalPositive (prec : Nat) (m : Nat) (e : Int) : String :=
  let prec := max prec 1
  let (vn, vd) := dyadicRatio m e
  let (c, p) := roundSig vn vd prec
  -- the decimal exponent of the leading digit
  let x := p + prec - 1
  if -4 ≤ x ∧ x < prec then positional c p
  else
    let s := toString c
    let frac := dropTrailingZeros (String.ofList (s.toList.drop 1))
    String.ofList (s.toList.take 1) ++ (if frac.isEmpty then "" else "." ++ frac) ++ exponentText x

/-- The `%.{prec}g` conversion of `printf`, of a double read off its bits. -/
def general (prec : Nat) (x : Binary64) : String :=
  match x with
  | .finite neg 0 _ => signText neg ++ "0"
  | .finite neg m e => signText neg ++ generalPositive prec m e
  | .infinite neg => signText neg ++ "inf"
  | .nan neg => signText neg ++ "nan"

/-- The fewest digits that read back as the same double, written positionally. -/
def shortestPositional (f : Float) : String :=
  match classify f with
  | .finite neg 0 _ => signText neg ++ "0"
  | .finite neg m e =>
    let (c, p) := shortest m e
    signText neg ++ positional c p
  | .infinite neg => signText neg ++ "inf"
  | .nan _ => "NaN"

/-- `%.{prec}f` of a non-negative finite double `m · 2 ^ e`: `prec` digits after the point, the
last rounded to nearest with a tie to even; `alt` keeps the point when no digit follows it. -/
def fixedText (prec : Nat) (alt : Bool) (m : Nat) (e : Int) : String :=
  let (vn, vd) := dyadicRatio m e
  let scaled := roundHalfEven (vn * Nat.pow 10 prec) vd
  let whole := toString (scaled / Nat.pow 10 prec)
  let fracDigits := toString (scaled % Nat.pow 10 prec)
  let frac := String.ofList (List.replicate (prec - fracDigits.length) '0') ++ fracDigits
  if prec = 0 then (if alt then whole ++ "." else whole) else whole ++ "." ++ frac

/-- `%.{prec}e` of a non-negative finite double `m · 2 ^ e`: one digit, the point, `prec`
digits and the exponent. -/
def scientificText (prec : Nat) (alt : Bool) (m : Nat) (e : Int) : String :=
  let (c, x) : Nat × Int :=
    if m = 0 then (0, 0)
    else
      let (vn, vd) := dyadicRatio m e
      let (c, p) := roundSig vn vd (prec + 1)
      (c, p + prec)
  let s := toString c
  let s := if m = 0 then String.ofList (List.replicate (prec + 1) '0') else s
  let head := String.ofList (s.toList.take 1)
  let tail := String.ofList (s.toList.drop 1)
  (if prec = 0 then (if alt then head ++ "." else head) else head ++ "." ++ tail) ++ exponentText x

/-- `%.{prec}g` of a non-negative finite double `m · 2 ^ e`; `alt` keeps trailing zeros. -/
def generalText (prec : Nat) (alt : Bool) (m : Nat) (e : Int) : String :=
  let prec := max prec 1
  let x : Int :=
    if m = 0 then 0
    else
      let (vn, vd) := dyadicRatio m e
      let (_, p) := roundSig vn vd prec
      p + prec - 1
  let trim (s : String) : String :=
    if alt || !s.contains '.' then s
    else
      let t := dropTrailingZeros s
      if t.endsWith "." then String.ofList (t.toList.dropLast) else t
  if -4 ≤ x ∧ x < prec then trim (fixedText (prec - 1 - x).toNat alt m e)
  else
    let s := scientificText (prec - 1) alt m e
    let mant := String.ofList (s.toList.takeWhile (· != 'e'))
    let expo := String.ofList (s.toList.dropWhile (· != 'e'))
    trim mant ++ expo

theorem positional_zero_exp (c : Nat) : positional c 0 = toString c := by
  simp [positional]

end CounterCache.Decimal
