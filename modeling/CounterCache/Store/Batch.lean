import CounterCache.Store.Value

/-!
# Write operations and batches

A write operation states the effect of a write, not the command that caused it: the final
value of a field, the final score of a member, the deadline of a key. A batch is the list of
operations of one unit of work, stamped with the time the unit ran at; replaying a batch at its
own time reproduces the unit's effect, expiry included.
-/

namespace CounterCache

/-- One effect-level write. -/
inductive WriteOp where
  /-- Stores a plain string, clearing any deadline. -/
  | set (key value : String)
  /-- Sets one hash field, creating the hash if needed. -/
  | hset (key field value : String)
  /-- Removes one hash field. -/
  | hdel (key field : String)
  /-- Sets a member's score, creating the sorted set if needed. -/
  | zset (key member : String) (score : Int)
  /-- Removes a sorted-set member. -/
  | zrem (key member : String)
  /-- Adds a set member, creating the set if needed. -/
  | sadd (key member : String)
  /-- Removes a set member. -/
  | srem (key member : String)
  /-- Removes a key. -/
  | delete (key : String)
  /-- Sets or clears a key's deadline. -/
  | expireAt (key : String) (at? : Option Nat)
  /-- Replaces a key with a whole entry. -/
  | restore (key : String) (entry : Entry)
  deriving DecidableEq, Repr, Inhabited

namespace WriteOp

/-- The key an operation writes. -/
def key : WriteOp → String
  | .set k _ | .hset k _ _ | .hdel k _ | .zset k _ _ | .zrem k _ | .sadd k _ | .srem k _
  | .delete k | .expireAt k _ | .restore k _ => k

end WriteOp

/-- The operations of one unit of work and the time, in unix milliseconds, it ran at. -/
structure WriteBatch where
  timestamp : Nat
  ops : List WriteOp := []
  deriving DecidableEq, Repr, Inhabited

end CounterCache
