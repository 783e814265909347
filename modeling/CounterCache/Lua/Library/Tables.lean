import CounterCache.Lua.Library.Args

/-!
# The `table` library

The functions read and write elements as Lua code would, through `__index`, `__newindex` and
`__len`, so they also work on values that only behave like tables: a value that is not a table
is accepted when its metatable has the metamethods the function needs.

`table.sort` is Lua's quicksort, step for step: the median of three as pivot, the same
comparisons and the same exchanges, so that a comparison function that fails, or one that is
not a strict order, leaves the table in the same state as in Lua and fails with the same
message.
-/

namespace CounterCache.Lua

namespace Library

variable {σ : Type}

open Machine

/-- What a function needs of a table argument: reading, writing, its length. -/
structure TableNeeds where
  read : Bool := false
  write : Bool := false
  length : Bool := false

/-- Requires a table argument, or a value whose metatable has the needed metamethods. -/
def checkTableLike (c : LibCall) (i : Nat) (needs : TableNeeds) : LuaM σ Unit := do
  match c.arg i with
  | .table _ => pure ()
  | v =>
    let ok ← match ← metatableOf v with
      | some mt => do
        let has (e : String) : LuaM σ Bool := do return !(← rawField mt e).isNil
        pure ((!needs.read || (← has "__index")) && (!needs.write || (← has "__newindex")) &&
          (!needs.length || (← has "__len")))
      | none => pure false
    if !ok then c.typeError i "table"

/-- The length of a value as the library reads it: `#v`, which must be an integer. -/
def lengthOfArg (v : Value) : LuaM σ Int := do
  match ← lengthOf v .none with
  | .int n => pure n
  | .num f =>
    match (Numeral.flt f).toInteger? with
    | some n => pure n
    | none => raiseHere "object length is not an integer"
  | .str s =>
    match readNumeral? s.data.toList |>.bind Numeral.toInteger? with
    | some n => pure n
    | none => raiseHere "object length is not an integer"
  | _ => raiseHere "object length is not an integer"

/-- The length of a table argument. -/
def tableLength (c : LibCall) (i : Nat) (needs : TableNeeds) : LuaM σ Int := do
  checkTableLike c i { needs with length := true }
  lengthOfArg (c.arg i)

/-- `t[i]`, through metamethods. -/
def getAt (t : Value) (i : Int) : LuaM σ Value := index t (.int i) .none

/-- `t[i] = v`, through metamethods. -/
def setAt (t : Value) (i : Int) (v : Value) : LuaM σ Unit := setIndex t (.int i) v .none

/-- Moves `t[i - 1]` to `t[i]` for `i` from `hi` down to `lo + 1`. -/
def shiftUp (t : Value) (lo : Int) : (hi : Int) → (fuel : Nat) → LuaM σ Unit
  | _, 0 => pure ()
  | hi, fuel + 1 => do
    if hi > lo then
      setAt t hi (← getAt t (hi - 1))
      shiftUp t lo (hi - 1) fuel

/-- Moves `t[i + 1]` to `t[i]` for `i` from `lo` up to `hi - 1`; the position reached. -/
def shiftDown (t : Value) (hi : Int) : (lo : Int) → (fuel : Nat) → LuaM σ Int
  | lo, 0 => pure lo
  | lo, fuel + 1 => do
    if lo < hi then
      setAt t lo (← getAt t (lo + 1))
      shiftDown t hi (lo + 1) fuel
    else pure lo

/-- `table.insert`. -/
def tblInsert (c : LibCall) : LuaM σ (List Value) := do
  let t := c.arg 0
  let e := wrap64 ((← tableLength c 0 { read := true, write := true }) + 1)
  match c.args.size with
  | 2 => setAt t e (c.arg 1); return []
  | 3 =>
    let pos ← c.checkInteger 1
    if !(toBits64 (pos - 1) < toBits64 e) then c.argError 2 "position out of bounds"
    shiftUp t pos e (e - pos).toNat
    setAt t pos (c.arg 2)
    return []
  | _ => raiseHere "wrong number of arguments to 'insert'"

/-- `table.remove`. -/
def tblRemove (c : LibCall) : LuaM σ (List Value) := do
  let t := c.arg 0
  let size ← tableLength c 0 { read := true, write := true }
  let pos ← c.optInteger 1 size
  if pos ≠ size ∧ !(toBits64 (pos - 1) ≤ toBits64 size) then
    c.argError 2 "position out of bounds"
  let v ← getAt t pos
  let last ← shiftDown t size pos (size - pos).toNat
  setAt t last .nil
  return [v]

/-- `table.move`: copies `a1[f..e]` to `a2[t..]`, in the order that keeps overlapping ranges
intact. -/
def tblMove (c : LibCall) : LuaM σ (List Value) := do
  let f ← c.checkInteger 1
  let e ← c.checkInteger 2
  let t ← c.checkInteger 3
  let tt := if !c.isNoneOrNil 4 then 4 else 0
  checkTableLike c 0 { read := true }
  checkTableLike c tt { write := true }
  let src := c.arg 0
  let dst := c.arg tt
  if e ≥ f then
    if !(f > 0 ∨ e < Int.pow 2 63 - 1 + f) then c.argError 3 "too many elements to move"
    let n := e - f + 1
    if !(t ≤ Int.pow 2 63 - 1 - n + 1) then c.argError 4 "destination wrap around"
    let same := tt == 0 || (← valuesEqual src dst)
    if t > e ∨ t ≤ f ∨ !same then
      for i in List.range n.toNat do
        setAt dst (t + i) (← getAt src (f + i))
    else
      for i in (List.range n.toNat).reverse do
        setAt dst (t + i) (← getAt src (f + i))
  return [dst]

/-- `table.concat`: the elements from `i` to `j`, strings or numbers, joined by a separator. -/
def tblConcat (c : LibCall) : LuaM σ (List Value) := do
  let t := c.arg 0
  let last ← tableLength c 0 { read := true }
  let sep ← c.optString 1 .empty
  let i ← c.optInteger 2 1
  let last ← c.optInteger 3 last
  let field (k : Int) : LuaM σ ByteArray := do
    let v ← getAt t k
    match v.bytes? with
    | some s => pure s
    | none =>
      raiseHere ("invalid value (" ++ v.typeName ++ ") at index " ++ toString k ++
        " in table for 'concat'")
  let rec go (k : Int) (acc : ByteArray) : (fuel : Nat) → LuaM σ ByteArray
    | 0 => pure acc
    | fuel + 1 => do
      if k < last then go (k + 1) (acc ++ (← field k) ++ sep) fuel
      else if k == last then return acc ++ (← field k)
      else return acc
  return [.str (← go i .empty ((last - i).toNat + 2))]

/-- `table.pack`: the arguments in a new table, with their count in field `n`. The table is
made with an array part of one slot per argument, so that its length is the count when the last
argument is not `nil`. -/
def tblPack (c : LibCall) : LuaM σ (List Value) := do
  let t : Table := (c.args.toList.zipIdx).foldr (fun (v, i) t => t.set (.int (i + 1)) v)
    (Table.create c.args.size 1)
  let t := t.set (.ofString "n") (.int c.args.size)
  return [.table (← newTable t)]

/-- `table.unpack`: the elements from `i` to `j`. -/
def tblUnpack (c : LibCall) : LuaM σ (List Value) := do
  let t := c.arg 0
  let i ← c.optInteger 1 1
  let e ← if c.isNoneOrNil 2 then lengthOfArg t else c.checkInteger 2
  if i > e then return []
  let n := e - i + 1
  if n > maxCount || !(← roomFor n.toNat) then raiseHere "too many results to unpack"
  (List.range (e - i + 1).toNat).mapM fun (k : Nat) => getAt t (i + k)

/-! ## Sorting -/

/-- The order of a sort: the comparison function, or `<`. -/
def sortLess (cmp : Value) (a b : Value) : LuaM σ Bool := do
  if cmp.isNil then lessThan a b
  else return ((← callFromLibrary cmp [a, b]).headD .nil).truthy

/-- The partition step: with the pivot `p` at `up - 1`, moves the elements below it to its left
and those above to its right, and puts it in its place, which it returns. -/
def partition (t cmp p : Value) (lo up : Nat) : LuaM σ Nat :=
  outer lo (up - 1) (up - lo + 2)
where
  /-- Raised when the comparisons contradict each other. -/
  invalid {α : Type} : LuaM σ α := raiseHere "invalid order function for sorting"
  /-- Advances `i` while `a[i] < P`. -/
  upward (i : Nat) : (fuel : Nat) → LuaM σ (Nat × Value)
    | 0 => invalid
    | fuel + 1 => do
      let v ← getAt t (i + 1)
      if ← sortLess cmp v p then
        if i + 1 == up - 1 then invalid
        upward (i + 1) fuel
      else pure (i + 1, v)
  /-- Moves `j` down while `P < a[j]`. -/
  downward (i j : Nat) : (fuel : Nat) → LuaM σ (Nat × Value)
    | 0 => invalid
    | fuel + 1 => do
      let v ← getAt t (j - 1 : Nat)
      if ← sortLess cmp p v then
        if j - 1 < i then invalid
        downward i (j - 1) fuel
      else pure (j - 1, v)
  /-- Exchanges out-of-place pairs until the scans meet. -/
  outer (i j : Nat) : (fuel : Nat) → LuaM σ Nat
    | 0 => invalid
    | fuel + 1 => do
      let (i, ai) ← upward i (up - lo + 2)
      let (j, aj) ← downward i j (up - lo + 2)
      if j < i then
        setAt t (up - 1 : Nat) ai
        setAt t i p
        return i
      setAt t i aj
      setAt t j ai
      outer i j fuel

/-- Sorts `t[lo..up]`: orders the ends and the middle, partitions around the median, sorts the
smaller part and goes on with the larger. -/
def auxSort (t cmp : Value) : (lo up : Nat) → (fuel : Nat) → LuaM σ Unit
  | _, _, 0 => pure ()
  | lo, up, fuel + 1 => do
    if lo ≥ up then return
    let alo ← getAt t lo
    let aup ← getAt t up
    if ← sortLess cmp aup alo then
      setAt t lo aup
      setAt t up alo
    if up - lo == 1 then return
    let p := (lo + up) / 2
    let ap ← getAt t p
    let alo ← getAt t lo
    if ← sortLess cmp ap alo then
      setAt t p alo
      setAt t lo ap
    else
      let aup ← getAt t up
      if ← sortLess cmp aup ap then
        setAt t p aup
        setAt t up ap
    if up - lo == 2 then return
    let pivot ← getAt t p
    let below ← getAt t (up - 1 : Nat)
    setAt t p below
    setAt t (up - 1 : Nat) pivot
    let p ← partition t cmp pivot lo up
    if p - lo < up - p then
      auxSort t cmp lo (p - 1) fuel
      auxSort t cmp (p + 1) up fuel
    else
      auxSort t cmp (p + 1) up fuel
      auxSort t cmp lo (p - 1) fuel

/-- `table.sort`. -/
def tblSort (c : LibCall) : LuaM σ (List Value) := do
  let n ← tableLength c 0 { read := true, write := true }
  if n > 1 then
    if n ≥ 2147483647 then c.argError 1 "array too big"
    if !c.isNoneOrNil 1 then
      let _ ← c.checkFunction 1
    auxSort (c.arg 0) (c.arg 1) 1 n.toNat (n.toNat + 1)
  return []

end Library

end CounterCache.Lua
