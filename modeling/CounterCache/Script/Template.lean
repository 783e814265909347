import CounterCache.Error

/-!
# Script templates

A template is a named script over positional keys and arguments, built from a small vocabulary
of counter steps: existence-gated increments, floor-guarded decrements, sorted-set and set
updates, and conditions. Every step records in a flag whether it changed anything, and later
conditions may test that flag. A template answers its status (0 unless set), or the code of the
first `ret` step reached.

The same template runs natively on a transaction (`Template/Run`) and renders to Lua source
(`Template/Render`).
-/

namespace CounterCache

/-- A key position: a fixed slot, or the key of the enclosing per-key loop. -/
inductive KeySlot where
  | slot (i : Nat)
  | current
  deriving DecidableEq, Repr, Inhabited

/-- A value position. -/
inductive Operand where
  /-- The i-th argument (from 0). -/
  | arg (i : Nat)
  /-- A literal text. -/
  | lit (s : String)
  /-- A literal integer. -/
  | int (n : Int)
  /-- The i-th argument followed by a literal suffix. -/
  | argSuffix (i : Nat) (suffix : String)
  deriving DecidableEq, Repr, Inhabited

/-- A condition of a `when` step. -/
inductive Cond where
  /-- The i-th argument equals a literal. -/
  | argEq (i : Nat) (lit : String)
  /-- The previous step changed something. -/
  | changed
  /-- The previous step changed nothing. -/
  | unchanged
  /-- The key holds a live entry. -/
  | present (k : KeySlot)
  /-- The key holds no live entry. -/
  | absent (k : KeySlot)
  deriving DecidableEq, Repr, Inhabited

/-- One step of a template. -/
inductive Step where
  /-- Sets a hash field only if it is absent. -/
  | hsetnx (key : KeySlot) (field value : Operand)
  /-- Sets a hash field. -/
  | hset (key : KeySlot) (field value : Operand)
  /-- Adds to a hash field only if the key exists. -/
  | hincrIfExists (key : KeySlot) (field delta : Operand)
  /-- Subtracts from a hash field only if the key exists and the field is at least `delta`. -/
  | hdecrFloor (key : KeySlot) (field delta : Operand)
  /-- Sets the key's lifetime in seconds. -/
  | expire (key : KeySlot) (seconds : Operand)
  /-- Adds a sorted-set member; with `nx` an existing score is kept. -/
  | zadd (key : KeySlot) (member score : Operand) (nx : Bool)
  /-- Adds to a member's score only if it is a member. -/
  | zincrIfMember (key : KeySlot) (member delta : Operand)
  /-- Subtracts from a member's score only if the score is at least `delta`. -/
  | zdecrFloor (key : KeySlot) (member delta : Operand)
  /-- Removes a sorted-set member. -/
  | zrem (key : KeySlot) (member : Operand)
  /-- Adds a set member. -/
  | sadd (key : KeySlot) (member : Operand)
  /-- Removes a set member. -/
  | srem (key : KeySlot) (member : Operand)
  /-- Deletes the key. -/
  | del (key : KeySlot)
  /-- Stops and answers a code. -/
  | ret (code : Int)
  /-- Sets the status answered at the end. -/
  | setStatus (code : Int)
  /-- Runs the body only if the condition holds. -/
  | when (cond : Cond) (body : List Step)
  /-- Runs the body once per key from slot `first` to the last key. -/
  | forEachKey (first : Nat) (body : List Step)
  deriving Repr, Inhabited

/-- A named script with its key and argument slots. -/
structure Template where
  name : String
  /-- Names of the fixed key slots. -/
  keys : List String
  /-- Any number of extra keys may follow the fixed ones. -/
  variadicKeys : Bool
  /-- Names of the argument slots. -/
  args : List String
  steps : List Step
  deriving Repr, Inhabited

namespace Template

/-- The key and argument counts fit the template: exactly its argument count, and its key
count (at least that many for a variadic template). -/
def arityOk (t : Template) (keyCount argCount : Nat) : Bool :=
  (if t.variadicKeys then t.keys.length ≤ keyCount else keyCount == t.keys.length) &&
    argCount == t.args.length

/-- Rejects key and argument counts that do not fit the template. -/
def checkArity (t : Template) (keys args : List String) : Except Error Unit :=
  if t.arityOk keys.length args.length then .ok ()
  else .error (.invalidArgument (t.name ++ " expects " ++ toString t.keys.length ++
    (if t.variadicKeys then "+" else "") ++ " keys and " ++ toString t.args.length ++
    " args, got " ++ toString keys.length ++ " keys and " ++ toString args.length ++ " args"))

end Template

end CounterCache
