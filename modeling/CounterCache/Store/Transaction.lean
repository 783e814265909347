import CounterCache.Store.Keyspace
import CounterCache.Store.Command
import CounterCache.Store.Reply

/-!
# Transactions

A transaction is one unit of work on the keyspace. Its writes are applied in place at once, so
later reads of the same transaction see them, and each write is also recorded as an
effect-level operation. Before a write is applied, the transaction notes how to take it back:
one hash field, sorted-set member, set member or deadline when the write touches only that,
and the whole entry of the key otherwise (a write to an expired or absent key, a removal that
empties its container, a write of another type). On success the keyspace and the recorded
batch are committed together; on failure, or when the transaction is dropped, the notes are
replayed latest first and the batch is forgotten.

A computation on a transaction keeps what it did when it fails: a failure caught inside a
script continues from the transaction as the failing command left it.

Main statements: `commit` and `rollback` are the two ends of a transaction; `execute` is the
meaning of a command.
-/

namespace CounterCache

/-- How to take back one write. -/
inductive Undo where
  /-- Put back the key's whole stored entry, or remove the key. -/
  | key (k : String) (prev : Option Entry)
  /-- Put back one hash field, or remove it. -/
  | hfield (k f : String) (prev : Option String)
  /-- Put back one sorted-set member's score, or remove the member. -/
  | zmember (k m : String) (prev : Option Int)
  /-- Put back one set member, or remove it. -/
  | smember (k m : String) (wasMember : Bool)
  /-- Put back the key's deadline. -/
  | expiry (k : String) (prev : Option Nat)
  deriving DecidableEq, Repr

namespace Undo

/-- How to take back `op`, given the key's stored entry before it at time `now`. A field,
member or deadline is put back alone only when the key holds a live container of the write's
type that the write leaves non-empty; a removal that might empty its container, and every other
write, puts back the whole entry. -/
def forWrite (current : Option Entry) (op : WriteOp) (now : Nat) : Undo :=
  let k := op.key
  match current with
  | none => .key k none
  | some e =>
    if e.isExpired now then .key k (some e)
    else
      let whole := Undo.key k (some e)
      match op with
      | .hset _ f _ =>
        match e.value with
        | .hash h => .hfield k f (h.find? f)
        | _ => whole
      | .hdel _ f =>
        match e.value with
        | .hash h => if h.size > 1 || !h.contains f then .hfield k f (h.find? f) else whole
        | _ => whole
      | .zset _ m _ =>
        match e.value with
        | .zset z => .zmember k m (z.score? m)
        | _ => whole
      | .zrem _ m =>
        match e.value with
        | .zset z => if z.card > 1 || (z.score? m).isNone then .zmember k m (z.score? m) else whole
        | _ => whole
      | .sadd _ m =>
        match e.value with
        | .set s => .smember k m (s.contains m)
        | _ => whole
      | .srem _ m =>
        match e.value with
        | .set s => if s.size > 1 || !s.contains m then .smember k m (s.contains m) else whole
        | _ => whole
      | .expireAt .. => .expiry k e.expiresAt
      | _ => whole

/-- Takes back one write. A field, member or deadline note acts only on a stored entry of the
matching type, and leaves the entry in place even if its container becomes empty. -/
def apply (ks : Keyspace) : Undo → Keyspace
  | .key k prev => ks.restoreRaw k prev
  | .hfield k f prev =>
    match ks.raw? k with
    | some ⟨.hash h, d⟩ =>
      ks.put k ⟨.hash (match prev with | some v => h.insert f v | none => h.erase f), d⟩
    | _ => ks
  | .zmember k m prev =>
    match ks.raw? k with
    | some ⟨.zset z, d⟩ =>
      ks.put k ⟨.zset (match prev with | some s => z.insert m s | none => z.erase m), d⟩
    | _ => ks
  | .smember k m wasMember =>
    match ks.raw? k with
    | some ⟨.set s, d⟩ => ks.put k ⟨.set (if wasMember then s.insert m else s.erase m), d⟩
    | _ => ks
  | .expiry k prev =>
    match ks.raw? k with
    | some e => ks.put k { e with expiresAt := prev }
    | none => ks

end Undo

/-- A unit of work in progress. -/
structure Transaction where
  /-- The keyspace with the unit's writes applied. -/
  keyspace : Keyspace
  /-- The time, in unix milliseconds, the unit runs at. -/
  now : Nat
  /-- How to take back the writes so far, the latest first. -/
  undo : List Undo := []
  /-- The writes recorded so far, in order. -/
  ops : List WriteOp := []
  deriving Repr, Inhabited

/-- A step of a transaction that may fail; a failure keeps the transaction it reached. -/
abbrev TxnM := EStateM Error Transaction

namespace Transaction

/-- Opens a transaction on a keyspace at a time. -/
def begin (ks : Keyspace) (now : Nat) : Transaction := ⟨ks, now, [], []⟩

/-- The batch the transaction has recorded. -/
def batch (t : Transaction) : WriteBatch := ⟨t.now, t.ops⟩

/-- Takes back every write, the latest first, and forgets the recorded batch. -/
def revert (t : Transaction) : Transaction :=
  { t with keyspace := t.undo.foldl Undo.apply t.keyspace, undo := [], ops := [] }

/-- The keyspace left by a transaction that is rolled back, or dropped without a commit. -/
def rollback (t : Transaction) : Keyspace := t.revert.keyspace

/-- The keyspace and batch of a transaction that commits. -/
def commit (t : Transaction) : Keyspace × WriteBatch := (t.keyspace, t.batch)

/-- Fails with the error, or gives the value. -/
def ofExcept {α : Type} : Except Error α → TxnM α
  | .ok a => pure a
  | .error e => throw e

instance : MonadLift (Except Error) TxnM := ⟨ofExcept⟩

/-- Applies and records one write, noting first how to take it back. -/
def write (op : WriteOp) : TxnM Unit := do
  let t ← get
  let u := Undo.forWrite (t.keyspace.raw? op.key) op t.now
  let ks ← ofExcept (t.keyspace.apply op t.now)
  set { t with keyspace := ks, undo := u :: t.undo, ops := t.ops ++ [op] }

/-- The key holds a live entry. -/
def exists? (k : String) : TxnM Bool := do
  let t ← get
  pure (t.keyspace.contains k t.now)

/-- Deletes a live key; says whether there was one. -/
def del (k : String) : TxnM Bool := do
  if !(← exists? k) then return false
  write (.delete k)
  pure true

/-- Gives a live key a lifetime in seconds; a lifetime of zero or less deletes it. The deadline
is `now + 1000 * seconds`, saturating at the largest unsigned 64-bit integer. -/
def expire (k : String) (seconds : Int) : TxnM Bool := do
  if !(← exists? k) then return false
  if seconds ≤ 0 then return ← del k
  let t ← get
  let deadline := min (t.now + seconds.toNat * 1000) Text.u64Max
  write (.expireAt k (some deadline))
  pure true

/-- Remaining lifetime in seconds, rounded to nearest (`Keyspace.roundedSeconds`): `-2` for no
live key, `-1` for a key without a deadline. -/
def ttl (k : String) : TxnM Int := do
  let t ← get
  pure <| match t.keyspace.ttlMillis? k t.now with
    | none => -2
    | some none => -1
    | some (some ms) => (Keyspace.roundedSeconds ms : Nat)

/-- The live string of a key. -/
def getString (k : String) : TxnM (Option String) := do
  let t ← get
  ofExcept (t.keyspace.string? k t.now)

/-- Stores a string, replacing the key's entry and deadline. -/
def setString (k v : String) : TxnM Unit := write (.set k v)

/-- A field of a live hash. -/
def hget (k f : String) : TxnM (Option String) := do
  let t ← get
  let h ← ofExcept (t.keyspace.hash? k t.now)
  pure (h.bind (·.find? f))

/-- All fields of a live hash; none when the key is absent. -/
def hgetall (k : String) : TxnM (KeyMap String) := do
  let t ← get
  let h ← ofExcept (t.keyspace.hash? k t.now)
  pure (h.getD KeyMap.empty)

/-- Sets a hash field; says whether the field is new. -/
def hset (k f v : String) : TxnM Bool := do
  let existed := (← hget k f).isSome
  write (.hset k f v)
  pure !existed

/-- Sets a hash field only if it is absent; says whether it was set. -/
def hsetnx (k f v : String) : TxnM Bool := do
  if (← hget k f).isSome then return false
  hset k f v

/-- Adds to an integer hash field (absent reads as 0) and returns the new value. The stored text
must read as a signed 64-bit integer with no blanks; the sum must stay in that range. -/
def hincrby (k f : String) (delta : Int) : TxnM Int := do
  let current ← match ← hget k f with
    | some v =>
      match Text.parseI64? v with
      | some n => pure n
      | none => throw (Error.notInteger (k ++ " " ++ f))
    | none => pure 0
  let next := current + delta
  if !(decide (Text.InI64 next)) then
    throw (Error.invalidArgument "increment or decrement would overflow")
  let _ ← hset k f (toString next)
  pure next

/-- Removes a hash field; says whether it was there. -/
def hdel (k f : String) : TxnM Bool := do
  if (← hget k f).isNone then return false
  write (.hdel k f)
  pure true

/-- The live sorted set of a key. -/
def sortedSet? (k : String) : TxnM (Option SortedSet) := do
  let t ← get
  ofExcept (t.keyspace.sortedSet? k t.now)

/-- A member's score. -/
def zscore (k m : String) : TxnM (Option Int) := do
  pure ((← sortedSet? k).bind (·.score? m))

/-- Sets a member's score (with `nx`, only for a new member); says whether the member is new. -/
def zadd (k m : String) (score : Int) (nx : Bool) : TxnM Bool := do
  let existed := (← zscore k m).isSome
  if existed && nx then return false
  write (.zset k m score)
  pure !existed

/-- Adds to a member's score (absent reads as 0) and returns the new score, which must stay in
the signed 64-bit range. -/
def zincrby (k m : String) (delta : Int) : TxnM Int := do
  let score := ((← zscore k m).getD 0) + delta
  if !(decide (Text.InI64 score)) then
    throw (Error.invalidArgument "increment would overflow")
  write (.zset k m score)
  pure score

/-- Removes a sorted-set member; says whether it was there. -/
def zrem (k m : String) : TxnM Bool := do
  if (← zscore k m).isNone then return false
  write (.zrem k m)
  pure true

/-- Number of members of a live sorted set. -/
def zcard (k : String) : TxnM Nat := do
  pure ((← sortedSet? k).map (·.card) |>.getD 0)

/-- A descending range of a live sorted set; see `SortedSet.revRange`. -/
def zrevrange (k : String) (start stop : Int) : TxnM (List Scored) := do
  pure ((← sortedSet? k).map (·.revRange start stop) |>.getD [])

/-- The live set of a key. -/
def set? (k : String) : TxnM (Option KeySet) := do
  let t ← get
  ofExcept (t.keyspace.set? k t.now)

/-- Set membership. -/
def sismember (k m : String) : TxnM Bool := do
  pure ((← set? k).map (·.contains m) |>.getD false)

/-- Number of members of a live set. -/
def scard (k : String) : TxnM Nat := do
  pure ((← set? k).map (·.size) |>.getD 0)

/-- Adds a set member; says whether it is new. -/
def sadd (k m : String) : TxnM Bool := do
  if ← sismember k m then return false
  write (.sadd k m)
  pure true

/-- Removes a set member; says whether it was there. -/
def srem (k m : String) : TxnM Bool := do
  if !(← sismember k m) then return false
  write (.srem k m)
  pure true

/-- Counts the `true` answers of an action run on each item in turn. -/
def countTrue {β : Type} (f : β → TxnM Bool) : List β → TxnM Nat
  | [] => pure 0
  | x :: xs => do
    let hit ← f x
    let rest ← countTrue f xs
    pure (rest + if hit then 1 else 0)

/-- The reply of a boolean answer. -/
def flag (b : Bool) : Reply := .int (if b then 1 else 0)

/-- Runs a command and returns its reply. Multi-key and multi-member commands act on their
operands in order; `HSET`, `ZADD` and `SADD` check the key's type before the first write. -/
def execute : Command → TxnM Reply
  | .get k => return (← getString k).elim .nil .bulk
  | .set k v => do setString k v; pure Reply.ok
  | .del ks => return .int (← countTrue del ks)
  | .exist ks => do
    let t ← get
    pure (.int (ks.filter (t.keyspace.contains · t.now)).length)
  | .expire k s => return flag (← expire k s)
  | .ttl k => return .int (← ttl k)
  | .hget k f => return (← hget k f).elim .nil .bulk
  | .hset k pairs => do
    let _ ← hgetall k
    return .int (← countTrue (fun p => hset k p.1 p.2) pairs)
  | .hsetnx k f v => return flag (← hsetnx k f v)
  | .hincrby k f d => return .int (← hincrby k f d)
  | .hdel k fs => return .int (← countTrue (hdel k) fs)
  | .hgetall k => do
    let h ← hgetall k
    pure (.array (h.entries.flatMap fun e => [.bulk e.1, .bulk e.2]))
  | .hexists k f => return flag (← hget k f).isSome
  | .zadd k nx members => do
    let _ ← sortedSet? k
    return .int (← countTrue (fun p => zadd k p.2 p.1 nx) members)
  | .zincrby k d m => return .bulk (toString (← zincrby k m d))
  | .zrem k ms => return .int (← countTrue (zrem k) ms)
  | .zscore k m => return (← zscore k m).elim .nil (fun s => .bulk (toString s))
  | .zcard k => return .int (← zcard k)
  | .zrevrange k a b withScores => do
    let items ← zrevrange k a b
    pure (.array (items.flatMap fun e =>
      if withScores then [.bulk e.1, .bulk (toString e.2)] else [.bulk e.1]))
  | .sadd k ms => do
    let _ ← set? k
    return .int (← countTrue (sadd k) ms)
  | .srem k ms => return .int (← countTrue (srem k) ms)
  | .sismember k m => return flag (← sismember k m)
  | .scard k => return .int (← scard k)

/-- Runs an action as a unit of work: on success its value and recorded batch with the new
keyspace, on failure the error with the keyspace rolled back. -/
def atomically {α : Type} (ks : Keyspace) (now : Nat) (act : TxnM α) :
    Except Error (α × WriteBatch) × Keyspace :=
  match act.run (begin ks now) with
  | .ok a t => (.ok (a, t.batch), t.keyspace)
  | .error e t => (.error e, t.rollback)

end Transaction

end CounterCache
