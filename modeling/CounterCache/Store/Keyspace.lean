import CounterCache.Error
import CounterCache.Store.Batch

/-!
# The keyspace

Every key of the store and its entry. Expiry is lazy: an expired entry is invisible to every
read and is removed by the next write that touches its key, or by `purgeExpired`.

Main statements: `apply` is the meaning of a write operation; `applyBatch` applies a batch's
operations in order at the batch's own time and stops at the first failure, keeping the writes
before it.
-/

namespace CounterCache

/-- All stored entries by key, expired ones included until they are evicted. -/
structure Keyspace where
  entries : KeyMap Entry := {}
  deriving DecidableEq, Repr, Inhabited

namespace Keyspace

/-- The keyspace with no keys. -/
def empty : Keyspace := {}

/-- Number of stored entries, expired ones included. -/
def size (ks : Keyspace) : Nat := ks.entries.size

/-- The stored entry of a key, expired or not. -/
def raw? (ks : Keyspace) (k : String) : Option Entry := ks.entries.find? k

/-- The live entry of a key. -/
def get? (ks : Keyspace) (k : String) (now : Nat) : Option Entry :=
  match ks.raw? k with
  | some e => if e.isExpired now then none else some e
  | none => none

/-- The key holds a live entry. -/
def contains (ks : Keyspace) (k : String) (now : Nat) : Bool := (ks.get? k now).isSome

/-- The live string of a key; another type is a type error. -/
def string? (ks : Keyspace) (k : String) (now : Nat) : Except Error (Option String) :=
  match ((ks.get? k now).map (·.value) : Option Value) with
  | none => .ok none
  | some (.str s) => .ok (some s)
  | some _ => .error (.wrongType k)

/-- The live hash of a key; another type is a type error. -/
def hash? (ks : Keyspace) (k : String) (now : Nat) : Except Error (Option (KeyMap String)) :=
  match ((ks.get? k now).map (·.value) : Option Value) with
  | none => .ok none
  | some (.hash h) => .ok (some h)
  | some _ => .error (.wrongType k)

/-- The live sorted set of a key; another type is a type error. -/
def sortedSet? (ks : Keyspace) (k : String) (now : Nat) : Except Error (Option SortedSet) :=
  match ((ks.get? k now).map (·.value) : Option Value) with
  | none => .ok none
  | some (.zset z) => .ok (some z)
  | some _ => .error (.wrongType k)

/-- The live set of a key; another type is a type error. -/
def set? (ks : Keyspace) (k : String) (now : Nat) : Except Error (Option KeySet) :=
  match ((ks.get? k now).map (·.value) : Option Value) with
  | none => .ok none
  | some (.set s) => .ok (some s)
  | some _ => .error (.wrongType k)

/-- Remaining lifetime of a live key: `none` if absent, `some none` if it has no deadline. -/
def ttlMillis? (ks : Keyspace) (k : String) (now : Nat) : Option (Option Nat) :=
  (ks.get? k now).map fun e => e.expiresAt.map (· - now)

/-- Whole seconds in a number of milliseconds, rounded to nearest, as the unsigned 64-bit sum
`ms + 500` gives them: past the largest such integer the sum wraps around. -/
def roundedSeconds (ms : Nat) : Nat := (ms + 500) % (Text.u64Max + 1) / 1000

/-- Stores an entry under a key. -/
def put (ks : Keyspace) (k : String) (e : Entry) : Keyspace := ⟨ks.entries.insert k e⟩

/-- Removes a key. -/
def remove (ks : Keyspace) (k : String) : Keyspace := ⟨ks.entries.erase k⟩

/-- Puts an entry back under a key verbatim, or removes the key. -/
def restoreRaw (ks : Keyspace) (k : String) : Option Entry → Keyspace
  | some e => ks.put k e
  | none => ks.remove k

/-- Stores a container, or removes the key if the container is empty. -/
def putOrRemove (ks : Keyspace) (k : String) (e : Entry) : Keyspace :=
  if e.value.isEmptyContainer then ks.remove k else ks.put k e

/-- Removes the key's entry if it is stored but expired. -/
def evictExpired (ks : Keyspace) (k : String) (now : Nat) : Keyspace :=
  match ks.raw? k with
  | some e => if e.isExpired now then ks.remove k else ks
  | none => ks

/-- Applies one write operation at time `now`. An expired entry of the key is evicted first;
a write of one type to a live entry of another type is a type error and changes nothing. -/
def apply (ks : Keyspace) (op : WriteOp) (now : Nat) : Except Error Keyspace :=
  let ks := ks.evictExpired op.key now
  match op with
  | .set k v => .ok (ks.put k ⟨.str v, none⟩)
  | .hset k f v =>
    match ks.raw? k with
    | none => .ok (ks.put k ⟨.hash (KeyMap.empty.insert f v), none⟩)
    | some ⟨.hash h, d⟩ => .ok (ks.put k ⟨.hash (h.insert f v), d⟩)
    | some _ => .error (.wrongType k)
  | .hdel k f =>
    match ks.raw? k with
    | none => .ok ks
    | some ⟨.hash h, d⟩ => .ok (ks.putOrRemove k ⟨.hash (h.erase f), d⟩)
    | some _ => .error (.wrongType k)
  | .zset k m s =>
    match ks.raw? k with
    | none => .ok (ks.put k ⟨.zset (SortedSet.empty.insert m s), none⟩)
    | some ⟨.zset z, d⟩ => .ok (ks.put k ⟨.zset (z.insert m s), d⟩)
    | some _ => .error (.wrongType k)
  | .zrem k m =>
    match ks.raw? k with
    | none => .ok ks
    | some ⟨.zset z, d⟩ => .ok (ks.putOrRemove k ⟨.zset (z.erase m), d⟩)
    | some _ => .error (.wrongType k)
  | .sadd k m =>
    match ks.raw? k with
    | none => .ok (ks.put k ⟨.set (KeySet.empty.insert m), none⟩)
    | some ⟨.set s, d⟩ => .ok (ks.put k ⟨.set (s.insert m), d⟩)
    | some _ => .error (.wrongType k)
  | .srem k m =>
    match ks.raw? k with
    | none => .ok ks
    | some ⟨.set s, d⟩ => .ok (ks.putOrRemove k ⟨.set (s.erase m), d⟩)
    | some _ => .error (.wrongType k)
  | .delete k => .ok (ks.remove k)
  | .expireAt k at? =>
    match ks.raw? k with
    | none => .ok ks
    | some e => .ok (ks.put k { e with expiresAt := at? })
  | .restore k e => .ok (ks.put k e)

/-- Applies operations in order at time `now`, stopping at the first failure. The keyspace
returned holds the writes made before the failure. -/
def applyOps (ks : Keyspace) (now : Nat) : List WriteOp → Keyspace × Option Error
  | [] => (ks, none)
  | op :: rest =>
    match ks.apply op now with
    | .ok ks' => applyOps ks' now rest
    | .error e => (ks, some e)

/-- Applies a batch at its own time; see `applyOps`. -/
def applyBatch (ks : Keyspace) (b : WriteBatch) : Keyspace × Option Error :=
  ks.applyOps b.timestamp b.ops

/-- Removes every expired entry and says how many were removed. -/
def purgeExpired (ks : Keyspace) (now : Nat) : Keyspace × Nat :=
  let kept := ks.entries.filter fun _ e => !e.isExpired now
  (⟨kept⟩, ks.size - kept.size)

/-- The live entries in key order. -/
def live (ks : Keyspace) (now : Nat) : List (String × Entry) :=
  ks.entries.entries.filter fun e => !e.2.isExpired now

/-- A batch that rebuilds the live entries from nothing: one restore per live key, in key
order, stamped with `now`. -/
def snapshot (ks : Keyspace) (now : Nat) : WriteBatch :=
  ⟨now, (ks.live now).map fun e => .restore e.1 e.2⟩

theorem applyOps_nil (ks : Keyspace) (now : Nat) : ks.applyOps now [] = (ks, none) := rfl

/-! ## Stored entries after a change -/

@[simp] theorem raw?_put_self (ks : Keyspace) (k : String) (e : Entry) :
    (ks.put k e).raw? k = some e := by
  unfold put raw?
  simp

theorem raw?_put_ne (ks : Keyspace) {k k2 : String} (e : Entry) (h : k ≠ k2) :
    (ks.put k e).raw? k2 = ks.raw? k2 := by
  unfold put raw?
  simp [KeyMap.find?_insert_ne _ _ _ _ h]

@[simp] theorem raw?_remove_self (ks : Keyspace) (k : String) : (ks.remove k).raw? k = none := by
  unfold remove raw?
  simp

theorem raw?_remove_ne (ks : Keyspace) {k k2 : String} (h : k ≠ k2) :
    (ks.remove k).raw? k2 = ks.raw? k2 := by
  unfold remove raw?
  simp [KeyMap.find?_erase_ne _ _ _ h]

@[simp] theorem raw?_restoreRaw_self (ks : Keyspace) (k : String) (prev : Option Entry) :
    (ks.restoreRaw k prev).raw? k = prev := by
  cases prev <;> simp [restoreRaw]

theorem raw?_restoreRaw_ne (ks : Keyspace) {k k2 : String} (prev : Option Entry) (h : k ≠ k2) :
    (ks.restoreRaw k prev).raw? k2 = ks.raw? k2 := by
  cases prev with
  | none => exact raw?_remove_ne ks h
  | some e => exact raw?_put_ne ks e h

/-- Two keyspaces that store the same entry under every key are equal. -/
theorem ext_raw? {ks ks' : Keyspace} (h : ∀ k, ks.raw? k = ks'.raw? k) : ks = ks' := by
  obtain ⟨m⟩ := ks
  obtain ⟨m'⟩ := ks'
  have hm : m = m' := KeyMap.ext_find? h
  rw [hm]

/-- Storing the entry a key already holds changes nothing. -/
theorem put_of_raw? {ks : Keyspace} {k : String} {e : Entry} (h : ks.raw? k = some e) :
    ks.put k e = ks := by
  unfold put
  rw [KeyMap.insert_of_find? h]

/-- Removing a key that holds nothing changes nothing. -/
theorem remove_of_raw?_none {ks : Keyspace} {k : String} (h : ks.raw? k = none) :
    ks.remove k = ks := by
  unfold remove
  rw [KeyMap.erase_of_find?_none h]

@[simp] theorem put_put (ks : Keyspace) (k : String) (e e' : Entry) :
    (ks.put k e).put k e' = ks.put k e' := by
  unfold put
  simp

end Keyspace

end CounterCache
