import CounterCache.Lua.Library.Args

/-!
# The `math` library

Integer arguments stay integers where Lua keeps them (`abs`, `floor`, `ceil`, `fmod`, `modf` of
an integer, `tointeger`), and a rounded double that fits an integer becomes one. `min` and `max`
compare with `<`, metamethods included, so mixing strings and numbers fails as in Lua.

`math.random` is the xoshiro256** generator that Lua 5.4 uses, seeded the same way, so a seeded
script draws the same numbers as in Lua: a double from the top 53 bits, an integer in a range by
masking to the next power of two and drawing again while out of range.
-/

namespace CounterCache.Lua

namespace Library

variable {σ : Type}

open Machine

/-- A double as a value: an integer when it is one that fits. -/
def integralValue (x : Double) (r : Float → Option Int) (g : Float → Float) : Value :=
  match r x.toFloat with
  | some n => if -(Int.pow 2 63) ≤ n ∧ n < Int.pow 2 63 then .int n else .num (x.map g)
  | none => .num (x.map g)

/-- A function of one double. -/
def floatFn (c : LibCall) (f : Float → Float) : LuaM σ (List Value) := do
  return [.num ((← c.checkNumber 0).toDouble.map f)]

/-- `math.abs`. -/
def mathAbs (c : LibCall) : LuaM σ (List Value) := do
  match c.arg 0 with
  | .int n => return [.int (wrap64 n.natAbs)]
  | _ => return [.num (← c.checkNumber 0).toDouble.abs]

/-- `math.floor`. -/
def mathFloor (c : LibCall) : LuaM σ (List Value) := do
  match c.arg 0 with
  | .int n => return [.int n]
  | _ => return [integralValue (← c.checkNumber 0).toDouble Float.floorInt? Float.floor]

/-- `math.ceil`. -/
def mathCeil (c : LibCall) : LuaM σ (List Value) := do
  match c.arg 0 with
  | .int n => return [.int n]
  | _ => return [integralValue (← c.checkNumber 0).toDouble Float.ceilInt? Float.ceil]

/-- `math.fmod`: the remainder of a division rounded toward zero. -/
def mathFmod (c : LibCall) : LuaM σ (List Value) := do
  match c.arg 0, c.arg 1 with
  | .int a, .int d =>
    if d = 0 then c.argError 2 "zero"
    else if d = -1 then return [.int 0]
    else return [.int (Int.tmod a d)]
  | _, _ =>
    let a ← c.checkNumber 0
    let d ← c.checkNumber 1
    return [.num (truncRem a.toDouble d.toDouble)]

/-- `math.modf`: the integral part, rounded toward zero, and the fractional part. -/
def mathModf (c : LibCall) : LuaM σ (List Value) := do
  match c.arg 0 with
  | .int n => return [.int n, .num 0.0]
  | _ =>
    let x := (← c.checkNumber 0).toDouble
    let ip := x.map fun f => if f < 0 then f.ceil else f.floor
    let ipv := integralValue ip Float.toInt? id
    return [ipv, .num (if x == ip then 0.0 else x - ip)]

/-- `math.log`, in base `e` or another. -/
def mathLog (c : LibCall) : LuaM σ (List Value) := do
  let x := (← c.checkNumber 0).toDouble
  if c.isNoneOrNil 1 then return [.num (x.map Float.log)]
  let b := (← c.checkNumber 1).toDouble
  if b == 2.0 then return [.num (x.map Float.log2)]
  if b == 10.0 then return [.num (x.map Float.log10)]
  return [.num (x.map Float.log / b.map Float.log)]

/-- `math.atan`, of `y / x` in the right quadrant; of two NaN arguments the second is passed
on. -/
def mathAtan (c : LibCall) : LuaM σ (List Value) := do
  let y := (← c.checkNumber 0).toDouble
  let x := (← c.optNumber 1 (.flt 1.0)).toDouble
  return [.num (Double.settle (Float.atan2 y.toFloat x.toFloat) x y)]

/-- `math.min` and `math.max`: the first argument not beaten by a later one. -/
def mathPick (c : LibCall) (isMax : Bool) : LuaM σ (List Value) := do
  if c.args.size == 0 then c.argError 1 "value expected"
  let pick (best v : Value) : LuaM σ Value := do
    let better ← if isMax then lessThan best v else lessThan v best
    pure (if better then v else best)
  let best ← c.args.toList.tail.foldlM pick (c.arg 0)
  return [best]

/-- `math.tointeger`: an integer, a double or a numeric string equal to an integer. -/
def mathToInteger (c : LibCall) : LuaM σ (List Value) := do
  match (c.arg 0).toNumeral? with
  | some n =>
    match n.toInteger? with
    | some k => return [.int k]
    | none => return [.nil]
  | none => let _ ← c.checkAny 0; return [.nil]

/-- `math.type`. -/
def mathType (c : LibCall) : LuaM σ (List Value) := do
  match c.arg 0 with
  | .int _ => return [.ofString "integer"]
  | .num _ => return [.ofString "float"]
  | _ => let _ ← c.checkAny 0; return [.nil]

/-- `math.ult`: unsigned comparison of integers. -/
def mathUlt (c : LibCall) : LuaM σ (List Value) := do
  let x ← c.checkInteger 0
  let y ← c.checkInteger 1
  return [.bool (toBits64 x < toBits64 y)]

/-- `math.frexp`: a mantissa in `[0.5, 1)` and a power of two. -/
def mathFrexp (c : LibCall) : LuaM σ (List Value) := do
  let x := (← c.checkNumber 0).toDouble
  let (m, e) := x.toFloat.frExp
  return [.num (Double.settle m x x), .int e]

/-- `math.ldexp`: `x · 2 ^ e`. -/
def mathLdexp (c : LibCall) : LuaM σ (List Value) := do
  let x := (← c.checkNumber 0).toDouble
  let e ← c.checkInteger 1
  let e := Int.bmod e (Nat.pow 2 32)
  return [.num (x.map (·.scaleB e))]

/-! ## Pseudo-random numbers -/

/-- Rotates a 64-bit word left. -/
def rotl (x : UInt64) (n : UInt64) : UInt64 := (x <<< n) ||| (x >>> (64 - n))

/-- One step of xoshiro256**: the next word and the new state. -/
def nextRandom (s : Array UInt64) : UInt64 × Array UInt64 :=
  let s0 := s.getD 0 0
  let s1 := s.getD 1 0
  let s2 := s.getD 2 0 ^^^ s0
  let s3 := s.getD 3 0 ^^^ s1
  let res := rotl (s1 * 5) 7 * 9
  (res, #[s0 ^^^ s3, s1 ^^^ s2, s2 ^^^ (s1 <<< 17), rotl s3 45])

/-- The state a seed gives: the two seed words spread by sixteen discarded draws. -/
def seedState (n1 n2 : UInt64) : Array UInt64 :=
  (List.range 16).foldl (fun s _ => (nextRandom s).2) #[n1, 0xff, n2, 0]

/-- Draws the next word. -/
def drawRandom : LuaM σ UInt64 :=
  modifyGet fun m => let (r, s) := nextRandom m.random; (r, { m with random := s })

/-- Projects a random word into `[0, n]`: masks to the smallest `2 ^ b - 1` not below `n` and
draws again while the result is above `n`. -/
def project (ran n : UInt64) : LuaM σ UInt64 := do
  if n &&& (n + 1) == 0 then return ran &&& n
  let lim := ([1, 2, 4, 8, 16, 32] : List UInt64).foldl (fun l k => l ||| (l >>> k)) n
  let rec go (r : UInt64) : (fuel : Nat) → LuaM σ UInt64
    | 0 => pure (r &&& lim)
    | fuel + 1 => do
      let r := r &&& lim
      if r ≤ n then return r
      go (← drawRandom) fuel
  go ran 10000

/-- `math.random`: a double in `[0, 1)`, or an integer in `[1, m]` or `[m, n]`. -/
def mathRandom (c : LibCall) : LuaM σ (List Value) := do
  let rv ← drawRandom
  let (low, up) ← match c.args.size with
    | 0 => return [.num (Double.ofFloat ((rv >>> 11).toNat.toFloat / 9007199254740992.0))]
    | 1 =>
      let up ← c.checkInteger 0
      if up == 0 then return [.int (ofBits64 rv.toNat)]
      pure ((1 : Int), up)
    | 2 => pure (← c.checkInteger 0, ← c.checkInteger 1)
    | _ => raiseHere "wrong number of arguments"
  if !(low ≤ up) then c.argError 1 "interval is empty"
  let p ← project rv (up - low).toNat.toUInt64
  return [.int (ofBits64 (p.toNat + toBits64 low))]

/-- `math.randomseed`: seeds the generator, returning the two seed words. -/
def mathRandomSeed (c : LibCall) : LuaM σ (List Value) := do
  let (n1, n2) ← if c.args.size == 0 then pure ((0 : Int), (0 : Int))
    else pure (← c.checkInteger 0, ← c.optInteger 1 0)
  modify fun m => { m with random := seedState (toBits64 n1).toUInt64 (toBits64 n2).toUInt64 }
  return [.int n1, .int n2]

end Library

end CounterCache.Lua
