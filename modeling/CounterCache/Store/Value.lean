import CounterCache.Data.KeyMap
import CounterCache.Data.KeySet
import CounterCache.Store.SortedSet

/-!
# Stored values

Every key of the store holds an `Entry`: a typed value and an optional deadline in unix
milliseconds. An entry whose deadline is not after the current time is expired; expired entries
stay stored until a write to their key or a purge removes them, but no read sees them.
-/

namespace CounterCache

/-- A stored value: a string, a hash of fields, a sorted set or a set. -/
inductive Value where
  | str (s : String)
  | hash (h : KeyMap String)
  | zset (z : SortedSet)
  | set (s : KeySet)
  deriving DecidableEq, Repr, Inhabited

namespace Value

/-- The type's name as commands and dumps show it. -/
def typeName : Value → String
  | .str _ => "string"
  | .hash _ => "hash"
  | .zset _ => "zset"
  | .set _ => "set"

/-- A container with no elements; a string is never empty in this sense. -/
def isEmptyContainer : Value → Bool
  | .str _ => false
  | .hash h => h.isEmpty
  | .zset z => z.isEmpty
  | .set s => s.isEmpty

end Value

/-- A stored value with its deadline, if any. -/
structure Entry where
  value : Value
  expiresAt : Option Nat := none
  deriving DecidableEq, Repr, Inhabited

namespace Entry

/-- The deadline has been reached: a deadline equal to the current time counts as passed. -/
def isExpired (e : Entry) (now : Nat) : Bool :=
  match e.expiresAt with
  | some d => d ≤ now
  | none => false

theorem not_expired_of_none (v : Value) (now : Nat) : (Entry.mk v none).isExpired now = false :=
  rfl

end Entry

end CounterCache
