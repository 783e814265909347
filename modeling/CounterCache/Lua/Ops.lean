import CounterCache.Lua.Raise

/-!
# Operators and metamethods

The operations of the language on values, each with Lua 5.4's fallback to metamethods:
indexing and assignment through `__index` and `__newindex` chains (at most 2000 links), the
arithmetic and bitwise operators (`__add` … `__shr`, `__unm`, `__bnot`), order (`__lt`,
`__le`, and `not (b < a)` for `a <= b` when only `__lt` exists), equality of tables (`__eq`),
concatenation (`__concat`) and length (`__len`).

An operation runs either for the Lua function running on top of the call stack or for a library
function. For Lua code, a failure is placed at the current instruction and names the variable
involved, which the function's code tells from where the operand was (`Operand`), and a
metamethod it calls may suspend the running coroutine; for a library function, failures name
neither, and the metamethods it calls cannot suspend. Each metamethod call counts one nested call
against the limit of 200, past which the script fails with `C stack overflow`.
-/

namespace CounterCache.Lua

/-- What an error message says a value is: a kind such as `local` or `global`, and a name. -/
abbrev VarDesc := Option (String × String)

/-- The suffix a message gets for a described value. -/
def varInfo : VarDesc → String
  | some (kind, name) => " (" ++ kind ++ " '" ++ name ++ "')"
  | none => ""

/-- Where an operand of a failing operation was, for the description the message gives it: a
register or an upvalue of the running Lua function, or nowhere the code can name (a constant, an
operand of library code). -/
inductive Operand where
  | none
  | reg (r : Nat)
  | upval (i : Nat)
  deriving Inhabited

/-- The longest chain of `__index` or `__newindex` tables followed. -/
def maxTagLoop : Nat := 2000


/-- Byte-wise order of strings. -/
def bytesLt (a b : ByteArray) : Bool := go 0 (min a.size b.size)
where
  /-- Compares from position `i`, with `n` bytes of both left; equal up to there, the shorter
  string is the lesser. -/
  go (i : Nat) : Nat → Bool
    | 0 => a.size < b.size
    | n + 1 =>
      let x := a.get! i
      let y := b.get! i
      if x < y then true else if y < x then false else go (i + 1) n

namespace Machine

variable {σ : Type}

/-- What the running Lua function's code says an operand is. -/
def describe (o : Operand) : LuaM σ VarDesc := read fun m =>
  match m.calls, o with
  | .lua fr :: _, .reg r => fr.proto.objName fr.pc r
  | .lua fr :: _, .upval i => some ("upvalue", fr.proto.upvalName i)
  | _, _ => none

/-- The type name messages give a value: the `__name` field of the metatable of a table or a
file when that is a string, else the type's name. -/
def typeNameOf (v : Value) : LuaM σ String := do
  match v with
  | .table _ | .file _ =>
    match ← metafield v "__name" with
    | .str s => pure (cText s)
    | _ => pure v.typeName
  | _ => pure v.typeName

/-- Lua code is running on top of the call stack. -/
def luaRunning : LuaM σ Bool := read fun m =>
  match m.calls with
  | .lua _ :: _ => true
  | _ => false

/-- Calls a metamethod: from Lua code it may suspend the coroutine, from library code not. -/
def callMeta (f : Value) (args : List Value) : LuaM σ (List Value) := do
  nested (← luaRunning) (callValue f args)

/-- The first result of a metamethod call. -/
def callMeta1 (f : Value) (args : List Value) : LuaM σ Value := do
  return (← callMeta f args).headD .nil

/-- Reads a table field without metamethods, with the table's metatable; an integer read may
move the table's length hint. -/
def rawLookup (id : Nat) (k : Value) : LuaM σ (Value × Option Nat) := fun m =>
  let t := m.heap.tables.getD id {}
  let (p, l) := t.place k
  let v := t.valueAt p
  let mt := t.metatable
  match l with
  | none => .ok (v, mt) m
  | some _ =>
    .ok (v, mt)
      { m with heap := { m.heap with tables := m.heap.tables.modify id (·.withLimit l) } }

/-- Reads a field without metamethods. -/
def rawGet (id : Nat) (k : Value) : LuaM σ Value := do
  return (← rawLookup id k.normKey).1

/-- Stores into a table without metamethods; a `nil` or NaN key fails. -/
def rawSet (id : Nat) (k v : Value) : LuaM σ Unit := do
  match k with
  | .nil => runError "table index is nil"
  | .num f => if f.isNaN then runError "table index is NaN"
  | _ => pure ()
  let k := k.normKey
  modify fun m =>
    { m with heap := { m.heap with tables := m.heap.tables.modify id (·.set k v) } }

/-- The failure of an operation on an unsuitable value. -/
def typeError {α : Type} (what : String) (v : Value) (o : Operand) : LuaM σ α := do
  runError ("attempt to " ++ what ++ " a " ++ (← typeNameOf v) ++ " value" ++
    varInfo (← describe o))

/-- Reads `obj[key]`, following `__index`: a function is called with the object and the key, a
table or other value is indexed in turn. -/
def index (obj key : Value) (o : Operand) : LuaM σ Value :=
  go maxTagLoop obj o
where
  go : Nat → Value → Operand → LuaM σ Value
  | 0, _, _ => runError "'__index' chain too long; possible loop"
  | n + 1, v, o => do
    let h ← match v with
      | .table id => do
        let (x, mt) ← rawLookup id key.normKey
        if !x.isNil then return x
        match mt with
        | some mt => rawField mt "__index"
        | none => return .nil
      | _ => do
        let h ← metafield v "__index"
        if h.isNil then typeError "index" v o
        pure h
    if h.isNil then return .nil
    if h.isFunction then callMeta1 h [v, key]
    else go n h .none

/-- Stores `obj[key] = val`, following `__newindex` when the key is absent: a function is
called with the object, the key and the value, a table or other value is assigned in turn. -/
def setIndex (obj key val : Value) (o : Operand) : LuaM σ Unit :=
  go maxTagLoop obj o
where
  go : Nat → Value → Operand → LuaM σ Unit
  | 0, _, _ => runError "'__newindex' chain too long; possible loop"
  | n + 1, v, o => do
    let h ← match v with
      | .table id => do
        let (x, mt) ← rawLookup id key.normKey
        if !x.isNil then return ← rawSet id key val
        match mt with
        | some mt => rawField mt "__newindex"
        | none => pure .nil
      | _ => do
        let h ← metafield v "__newindex"
        if h.isNil then typeError "index" v o
        pure h
    match v, h with
    | .table id, .nil => rawSet id key val
    | _, _ =>
      if h.isFunction then do let _ ← callMeta h [v, key, val]
      else go n h .none

/-- The metamethod of a binary event: the first operand's, else the second's. -/
def binaryHandler (a b : Value) (event : String) : LuaM σ Value := do
  let h ← metafield a ("__" ++ event)
  if h.isNil then metafield b ("__" ++ event) else pure h

/-- The failure of an arithmetic or bitwise operator: the first operand is blamed unless it is
a number. -/
def operandError {α : Type} (what : String) (a b : Value) (oa ob : Operand) : LuaM σ α :=
  if a.isNumber then typeError what b ob else typeError what a oa

/-- The failure of a bitwise operator on a number that is not an integer, naming that operand. -/
def integerError {α : Type} (a : Value) (oa ob : Operand) : LuaM σ α := do
  let o := if a.toInteger?.isNone then oa else ob
  runError ("number" ++ varInfo (← describe o) ++ " has no integer representation")

/-- An operator's metamethod call, or its failure when neither operand has one. -/
def arithMeta (op : ArithOp) (a b : Value) (oa ob : Operand) : LuaM σ Value := do
  let h ← binaryHandler a b op.event
  if !h.isNil then return ← callMeta1 h [a, b]
  if op.isBitwise then
    if a.isNumber && b.isNumber then integerError a oa ob
    else operandError "perform bitwise operation on" a b oa ob
  else operandError "perform arithmetic on" a b oa ob

/-- An arithmetic or bitwise operator on two values: on numbers directly, else through the
operands' metamethods. -/
def arithValues (op : ArithOp) (a b : Value) (oa ob : Operand) : LuaM σ Value := do
  if op.isBitwise then
    match a.toInteger?, b.toInteger? with
    | some x, some y => return .int (bitwise op x y)
    | _, _ => arithMeta op a b oa ob
  else
    match a.numeral?, b.numeral? with
    | some x, some y =>
      match arith op x y with
      | .ok r => return .ofNumeral r
      | .error e => runError e.message
    | _, _ => arithMeta op a b oa ob

/-- Unary minus: on numbers directly, else through `__unm`. -/
def negateValue (a : Value) (o : Operand) : LuaM σ Value := do
  match a.numeral? with
  | some x => return .ofNumeral (negate x)
  | none =>
    let h ← metafield a "__unm"
    if !h.isNil then callMeta1 h [a, a]
    else typeError "perform arithmetic on" a o

/-- Bitwise complement: on integers directly, else through `__bnot`. -/
def complementValue (a : Value) (o : Operand) : LuaM σ Value := do
  match a.toInteger? with
  | some x => return .int (complement x)
  | none =>
    let h ← metafield a "__bnot"
    if !h.isNil then callMeta1 h [a, a]
    else if a.isNumber then integerError a o o
    else typeError "perform bitwise operation on" a o

/-- The failure of an order comparison. -/
def orderError {α : Type} (a b : Value) : LuaM σ α := do
  let ta ← typeNameOf a
  let tb ← typeNameOf b
  if ta == tb then runError ("attempt to compare two " ++ ta ++ " values")
  else runError ("attempt to compare " ++ ta ++ " with " ++ tb)

/-- `a < b`: numbers by value, strings byte-wise, else through `__lt`. -/
def lessThan (a b : Value) : LuaM σ Bool := do
  match a.numeral?, b.numeral?, a, b with
  | some x, some y, _, _ => return Numeral.lt x y
  | _, _, .str x, .str y => return bytesLt x y
  | _, _, _, _ =>
    let h ← binaryHandler a b "lt"
    if h.isNil then orderError a b
    return (← callMeta1 h [a, b]).truthy

/-- `a <= b`: numbers by value, strings byte-wise, else through `__le`, else as
`not (b < a)` through `__lt`. -/
def lessEqual (a b : Value) : LuaM σ Bool := do
  match a.numeral?, b.numeral?, a, b with
  | some x, some y, _, _ => return Numeral.le x y
  | _, _, .str x, .str y => return !bytesLt y x
  | _, _, _, _ =>
    let h ← binaryHandler a b "le"
    if !h.isNil then return (← callMeta1 h [a, b]).truthy
    let h ← binaryHandler b a "lt"
    if h.isNil then orderError a b
    return !(← callMeta1 h [b, a]).truthy

/-- `a == b`: primitive equality, and for two distinct tables their `__eq` metamethod. -/
def valuesEqual (a b : Value) : LuaM σ Bool := do
  match a, b with
  | .table x, .table y =>
    if x == y then return true
    let h ← binaryHandler a b "eq"
    if h.isNil then return false
    return (← callMeta1 h [a, b]).truthy
  | _, _ => return a.rawEq b

/-- Concatenates the values of an expression `v₁ .. v₂ .. … .. vₙ` from the right: runs of
strings and numbers join at once, any other pair goes to `__concat`. A failure names the
operand where the failing value was first computed. -/
def concatValues (vals : Array Value) (ops : Array Operand) : LuaM σ Value :=
  go vals.size vals vals.size
where
  go (total : Nat) (vs : Array Value) : Nat → LuaM σ Value
  | 0 => return vs.getD 0 .nil
  | fuel + 1 => do
    if total ≤ 1 then return vs.getD 0 .nil
    let top := total
    let a := vs.getD (top - 2) .nil
    let b := vs.getD (top - 1) .nil
    match a.bytes?, b.bytes? with
    | some sa, some sb =>
      if sb.isEmpty then go (total - 1) (vs.set! (top - 2) (.str sa)) fuel
      else if sa.isEmpty then go (total - 1) (vs.set! (top - 2) (.str sb)) fuel
      else
        -- the longest run of strings and numbers ending at the top
        let (n, joined) := collect vs top 1 total
        go (total - (n - 1)) (vs.set! (top - n) (.str joined)) fuel
    | _, _ =>
      let h ← binaryHandler a b "concat"
      if h.isNil then
        if a.bytes?.isSome then typeError "concatenate" b (ops.getD (top - 1) .none)
        else typeError "concatenate" a (ops.getD (top - 2) .none)
      let r ← callMeta1 h [a, b]
      go (total - 1) (vs.set! (top - 2) r) fuel
  /-- How many values below `top` form a run of strings and numbers (at least `n`, at most
  `total`), and their bytes joined. -/
  collect (vs : Array Value) (top n total : Nat) : Nat × ByteArray :=
    let count := countRun vs top n total (total - n)
    let parts := (List.range count).map fun i => ((vs.getD (top - count + i) .nil).bytes?).getD .empty
    (count, parts.foldl (· ++ ·) .empty)
  countRun (vs : Array Value) (top n total : Nat) : (fuel : Nat) → Nat
    | 0 => n
    | fuel + 1 =>
      if n < total ∧ (vs.getD (top - n - 1) .nil).bytes?.isSome then
        countRun vs top (n + 1) total fuel
      else n

/-- The length `#v`: a string's byte count, a table's border unless it has `__len`, else through
`__len`. -/
def lengthOf (v : Value) (o : Operand) : LuaM σ Value := do
  match v with
  | .str s => return .int s.size
  | .table id =>
    let h ← match ← metatableOf v with
      | some mt => rawField mt "__len"
      | none => pure .nil
    if !h.isNil then return ← callMeta1 h [v, v]
    modifyGet fun m =>
      let (n, t) := (m.heap.tables.getD id {}).length
      (.int n, { m with heap := { m.heap with tables := m.heap.tables.set! id t } })
  | _ =>
    let h ← metafield v "__len"
    if h.isNil then typeError "get length of" v o
    callMeta1 h [v, v]

/-! ## To-be-closed variables -/

/-- Calls the `__close` metamethod of a to-be-closed value with an error value (`nil` when its
scope ends normally). -/
def callClose (yieldable : Bool) (v err : Value) : LuaM σ Unit := do
  let h ← metafield v "__close"
  let _ ← nested yieldable (callValue h [v, err])

/-- Takes the innermost pending to-be-closed value if its slot is at or above `level`. -/
def popPending (level : Nat) : LuaM σ (Option Value) := modifyGet fun m =>
  match m.tbc with
  | (l, v) :: rest => if l ≥ level then (some v, { m with tbc := rest }) else (none, m)
  | [] => (none, m)

/-- Fuel for closing variables: more than a script can leave pending. -/
@[noinline] def closeFuel : Nat := Nat.pow 2 32

/-- Closes the pending to-be-closed variables at or above stack slot `level`, innermost first,
as their scope ends normally: each `__close` gets `nil`. An error it raises goes on unwinding,
and the variables left are closed by whatever catches it. -/
def closePending (level : Nat) : LuaM σ Unit := go closeFuel
where
  go : Nat → LuaM σ Unit
    | 0 => pure ()
    | fuel + 1 => do
      match ← popPending level with
      | some v => callClose true v .nil; go fuel
      | none => pure ()

/-- Closes the pending to-be-closed variables at or above stack slot `level`, innermost first,
when an error `err` (none: a coroutine closed while suspended) ends their scope. Each `__close`
gets the error, or `nil`; an error it raises becomes the error the rest get. The error the
closing ends with. -/
def closePendingWith (level : Nat) (err : Option Value) : LuaM σ (Option Value) :=
  go closeFuel err
where
  go : Nat → Option Value → LuaM σ (Option Value)
    | 0, err => pure err
    | fuel + 1, err => do
      match ← popPending level with
      | some v =>
        match ← attempt (callClose false v (err.getD .nil)) with
        | .ok () => go fuel err
        | .error e => go fuel (some e)
      | none => pure err

/-- Closes the pending to-be-closed variables at or above `level` after an error: the error the
closing ends with. -/
def closePendingAfter (level : Nat) (e : Value) : LuaM σ Value := do
  return (← closePendingWith level (some e)).getD e

end Machine

end CounterCache.Lua
