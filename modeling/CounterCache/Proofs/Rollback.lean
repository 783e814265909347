import Mathlib
import CounterCache.Proofs.Undo

/-!
# Rolling a transaction back restores its keyspace

A transaction keeps, beside its keyspace, the notes that take its writes back, latest first.
The invariant of a transaction opened on `K` is `RestoresTo K`: replaying its notes over its
keyspace gives `K`. It holds when the transaction opens, with no notes, and every call a script
makes keeps it, whether the call answers or fails. A write keeps it because its note is exact
(`Undo.apply_forWrite`); the removals, the only writes whose note needs more than that, are
written only after a read has found the field or member they remove, so the container they act
on is not empty.

Each call gets a Hoare triple whose pre- and postconditions are `RestoresTo K`, on the answer
and on the failure alike; `mvcgen` splits each call's body into the writes and reads it makes.

Main statement: `rollback_performAll`: after any sequence of calls, any of which may fail,
rolling back gives the keyspace the transaction opened on, every entry and deadline as before,
expired entries included, and forgets the recorded batch.
-/

namespace CounterCache

namespace Transaction

open Std.Do

set_option mvcgen.warning false

/-- Replaying the notes of `t`, latest first, over its keyspace gives `K`. -/
def RestoresTo (K : Keyspace) (t : Transaction) : Prop :=
  t.undo.foldl Undo.apply t.keyspace = K

theorem restoresTo_begin (K : Keyspace) (now : Nat) : RestoresTo K (begin K now) := rfl

/-- The transaction a finished step leaves, whether it answered or failed. -/
def afterRun {α : Type} : EStateM.Result Error Transaction α → Transaction
  | .ok _ t => t
  | .error _ t => t

/-- What a finished step says: `P` of its answer and transaction when it answered, `E` of its
error and transaction when it failed. -/
def Outcome {α : Type} (P : α → Transaction → Prop) (E : Error → Transaction → Prop) :
    EStateM.Result Error Transaction α → Prop
  | .ok a t => P a t
  | .error e t => E e t

/-- A step that keeps `RestoresTo K` leaves a transaction that restores `K`. -/
theorem restoresTo_afterRun {α : Type} {K : Keyspace} {act : TxnM α}
    (h : ⦃fun t => ⌜RestoresTo K t⌝⦄ act
      ⦃post⟨fun _ t => ⌜RestoresTo K t⌝, fun _ t => ⌜RestoresTo K t⌝⟩⦄)
    {t : Transaction} (ht : RestoresTo K t) : RestoresTo K (afterRun (act.run t)) := by
  refine EStateM.of_wp_run_eq (P := fun r => RestoresTo K (afterRun r)) rfl ?_
  exact fun _ => h t ht

/-! ## Removals find their container non-empty -/

theorem not_removesFromEmpty {ks : Keyspace} {op : WriteOp} {now : Nat}
    (h : op.removes = false) : ¬ RemovesFromEmpty ks op now :=
  fun hr => Bool.false_ne_true (h.symm.trans hr.1)

/-- An empty hash has no fields. -/
theorem KeyMap.find?_of_isEmpty {m : KeyMap String} (h : m.isEmpty = true) (f : String) :
    m.find? f = none := by
  simp only [KeyMap.isEmpty, List.isEmpty_iff] at h
  simp [KeyMap.find?, h, KeyMap.lookup]

/-- An empty sorted set has no members. -/
theorem SortedSet.score?_of_isEmpty {z : SortedSet} (h : z.isEmpty = true) (m : String) :
    z.score? m = none := by
  simp only [SortedSet.isEmpty, List.isEmpty_iff] at h
  simp [SortedSet.score?, h, SortedSet.scoreIn]

/-- An empty set has no members. -/
theorem KeySet.contains_of_isEmpty {s : KeySet} (h : s.isEmpty = true) (m : String) :
    s.contains m = false := by
  simp only [KeySet.isEmpty, List.isEmpty_iff] at h
  simp [KeySet.contains, h]

/-- A hash in which a field was found is not empty. -/
theorem removesFromEmpty_hdel {ks : Keyspace} {k f : String} {now : Nat}
    {a : Option (KeyMap String)} (hread : ks.hash? k now = .ok a)
    (hfound : ¬ (a.bind (·.find? f)).isNone = true) :
    ¬ RemovesFromEmpty ks (.hdel k f) now := by
  rintro ⟨-, ⟨v, d⟩, hget, hempty⟩
  dsimp only [WriteOp.key] at hget
  cases v with
  | hash hs =>
    simp only [Keyspace.hash?, hget, Option.map_some, Except.ok.injEq] at hread
    subst hread
    simp [KeyMap.find?_of_isEmpty hempty] at hfound
  | str _ | zset _ | set _ => simp [Keyspace.hash?, hget] at hread

/-- A sorted set in which a member was found is not empty. -/
theorem removesFromEmpty_zrem {ks : Keyspace} {k m : String} {now : Nat}
    {a : Option SortedSet} (hread : ks.sortedSet? k now = .ok a)
    (hfound : ¬ (a.bind (·.score? m)).isNone = true) :
    ¬ RemovesFromEmpty ks (.zrem k m) now := by
  rintro ⟨-, ⟨v, d⟩, hget, hempty⟩
  dsimp only [WriteOp.key] at hget
  cases v with
  | zset z =>
    simp only [Keyspace.sortedSet?, hget, Option.map_some, Except.ok.injEq] at hread
    subst hread
    simp [SortedSet.score?_of_isEmpty hempty] at hfound
  | str _ | hash _ | set _ => simp [Keyspace.sortedSet?, hget] at hread

/-- A set in which a member was found is not empty. -/
theorem removesFromEmpty_srem {ks : Keyspace} {k m : String} {now : Nat}
    {a : Option KeySet} (hread : ks.set? k now = .ok a)
    (hfound : ((a.map (·.contains m)).getD false) = true) :
    ¬ RemovesFromEmpty ks (.srem k m) now := by
  rintro ⟨-, ⟨v, d⟩, hget, hempty⟩
  dsimp only [WriteOp.key] at hget
  cases v with
  | set st =>
    simp only [Keyspace.set?, hget, Option.map_some, Except.ok.injEq] at hread
    subst hread
    simp [KeySet.contains_of_isEmpty hempty] at hfound
  | str _ | hash _ | zset _ => simp [Keyspace.set?, hget] at hread

/-! ## Every call keeps the invariant -/

section Calls

variable (K : Keyspace)

-- `mvcgen` opens the reads a call makes, and the lifting of their answers, wherever they occur
attribute [local spec] ofExcept exists? hget sortedSet? zscore set? sismember

@[spec] theorem write_spec (op : WriteOp) :
    ⦃fun t => ⌜RestoresTo K t ∧ ¬ RemovesFromEmpty t.keyspace op t.now⌝⦄ write op
    ⦃post⟨fun _ t => ⌜RestoresTo K t⌝, fun _ t => ⌜RestoresTo K t⌝⟩⦄ := by
  mvcgen [write]
  · -- the write went through: its note, replayed first, gives back the keyspace before it
    rename_i t hinv _ ks happly
    simp only [RestoresTo, List.foldl_cons]
    rw [Undo.apply_forWrite happly hinv.2]
    exact hinv.1
  · rename_i t hinv _ _ _
    exact hinv.1

@[spec] theorem del_spec (k : String) :
    ⦃fun t => ⌜RestoresTo K t⌝⦄ del k
    ⦃post⟨fun _ t => ⌜RestoresTo K t⌝, fun _ t => ⌜RestoresTo K t⌝⟩⦄ := by
  mvcgen [del]
  exact ⟨‹_›, not_removesFromEmpty rfl⟩

@[spec] theorem expire_spec (k : String) (seconds : Int) :
    ⦃fun t => ⌜RestoresTo K t⌝⦄ expire k seconds
    ⦃post⟨fun _ t => ⌜RestoresTo K t⌝, fun _ t => ⌜RestoresTo K t⌝⟩⦄ := by
  mvcgen [expire]
  exact ⟨‹_›, not_removesFromEmpty rfl⟩

@[spec] theorem setString_spec (k v : String) :
    ⦃fun t => ⌜RestoresTo K t⌝⦄ setString k v
    ⦃post⟨fun _ t => ⌜RestoresTo K t⌝, fun _ t => ⌜RestoresTo K t⌝⟩⦄ := by
  mvcgen [setString]
  exact ⟨‹_›, not_removesFromEmpty rfl⟩

@[spec] theorem hset_spec (k f v : String) :
    ⦃fun t => ⌜RestoresTo K t⌝⦄ hset k f v
    ⦃post⟨fun _ t => ⌜RestoresTo K t⌝, fun _ t => ⌜RestoresTo K t⌝⟩⦄ := by
  mvcgen [hset]
  exact ⟨‹_›, not_removesFromEmpty rfl⟩

@[spec] theorem hdel_spec (k f : String) :
    ⦃fun t => ⌜RestoresTo K t⌝⦄ hdel k f
    ⦃post⟨fun _ t => ⌜RestoresTo K t⌝, fun _ t => ⌜RestoresTo K t⌝⟩⦄ := by
  mvcgen [hdel]
  rename_i hinv _ hread hfound
  exact ⟨hinv, removesFromEmpty_hdel hread hfound⟩

@[spec] theorem hsetnx_spec (k f v : String) :
    ⦃fun t => ⌜RestoresTo K t⌝⦄ hsetnx k f v
    ⦃post⟨fun _ t => ⌜RestoresTo K t⌝, fun _ t => ⌜RestoresTo K t⌝⟩⦄ := by
  mvcgen [hsetnx]

@[spec] theorem hincrby_spec (k f : String) (delta : Int) :
    ⦃fun t => ⌜RestoresTo K t⌝⦄ hincrby k f delta
    ⦃post⟨fun _ t => ⌜RestoresTo K t⌝, fun _ t => ⌜RestoresTo K t⌝⟩⦄ := by
  mvcgen [hincrby]

@[spec] theorem zadd_spec (k m : String) (score : Int) (nx : Bool) :
    ⦃fun t => ⌜RestoresTo K t⌝⦄ zadd k m score nx
    ⦃post⟨fun _ t => ⌜RestoresTo K t⌝, fun _ t => ⌜RestoresTo K t⌝⟩⦄ := by
  mvcgen [zadd]
  exact ⟨‹_›, not_removesFromEmpty rfl⟩

@[spec] theorem zincrby_spec (k m : String) (delta : Int) :
    ⦃fun t => ⌜RestoresTo K t⌝⦄ zincrby k m delta
    ⦃post⟨fun _ t => ⌜RestoresTo K t⌝, fun _ t => ⌜RestoresTo K t⌝⟩⦄ := by
  mvcgen [zincrby]
  exact ⟨‹_›, not_removesFromEmpty rfl⟩

@[spec] theorem zrem_spec (k m : String) :
    ⦃fun t => ⌜RestoresTo K t⌝⦄ zrem k m
    ⦃post⟨fun _ t => ⌜RestoresTo K t⌝, fun _ t => ⌜RestoresTo K t⌝⟩⦄ := by
  mvcgen [zrem]
  rename_i hinv _ hread hfound
  exact ⟨hinv, removesFromEmpty_zrem hread hfound⟩

@[spec] theorem sadd_spec (k m : String) :
    ⦃fun t => ⌜RestoresTo K t⌝⦄ sadd k m
    ⦃post⟨fun _ t => ⌜RestoresTo K t⌝, fun _ t => ⌜RestoresTo K t⌝⟩⦄ := by
  mvcgen [sadd]
  exact ⟨‹_›, not_removesFromEmpty rfl⟩

@[spec] theorem srem_spec (k m : String) :
    ⦃fun t => ⌜RestoresTo K t⌝⦄ srem k m
    ⦃post⟨fun _ t => ⌜RestoresTo K t⌝, fun _ t => ⌜RestoresTo K t⌝⟩⦄ := by
  mvcgen [srem]
  rename_i hinv _ hread hfound
  exact ⟨hinv, removesFromEmpty_srem hread (by simpa using hfound)⟩

/-- Running a call that keeps the invariant on each item in turn keeps it. -/
@[spec] theorem countTrue_spec {β : Type} (f : β → TxnM Bool)
    (hf : ∀ x, ⦃fun t => ⌜RestoresTo K t⌝⦄ f x
      ⦃post⟨fun _ t => ⌜RestoresTo K t⌝, fun _ t => ⌜RestoresTo K t⌝⟩⦄) (xs : List β) :
    ⦃fun t => ⌜RestoresTo K t⌝⦄ countTrue f xs
    ⦃post⟨fun _ t => ⌜RestoresTo K t⌝, fun _ t => ⌜RestoresTo K t⌝⟩⦄ := by
  induction xs with
  | nil => mvcgen [countTrue]
  | cons x xs ih => mvcgen [countTrue, hf, ih]

@[spec] theorem execute_spec (c : Command) :
    ⦃fun t => ⌜RestoresTo K t⌝⦄ execute c
    ⦃post⟨fun _ t => ⌜RestoresTo K t⌝, fun _ t => ⌜RestoresTo K t⌝⟩⦄ := by
  cases c <;> mvcgen [execute, getString, ttl, hgetall, zcard, zrevrange, scard]

end Calls

/-! ## Whole sessions -/

/-- A call a script makes on its transaction, with its arguments. -/
inductive Call
  | del (k : String)
  | expire (k : String) (seconds : Int)
  | set (k v : String)
  | hset (k f v : String)
  | hsetnx (k f v : String)
  | hincrby (k f : String) (delta : Int)
  | hdel (k f : String)
  | zadd (k m : String) (score : Int) (nx : Bool)
  | zincrby (k m : String) (delta : Int)
  | zrem (k m : String)
  | sadd (k m : String)
  | srem (k m : String)
  | execute (c : Command)
  deriving Repr

/-- Makes a call; its answer is dropped. -/
def Call.run : Call → TxnM Unit
  | .del k => do let _ ← Transaction.del k
  | .expire k seconds => do let _ ← Transaction.expire k seconds
  | .set k v => setString k v
  | .hset k f v => do let _ ← Transaction.hset k f v
  | .hsetnx k f v => do let _ ← Transaction.hsetnx k f v
  | .hincrby k f delta => do let _ ← Transaction.hincrby k f delta
  | .hdel k f => do let _ ← Transaction.hdel k f
  | .zadd k m score nx => do let _ ← Transaction.zadd k m score nx
  | .zincrby k m delta => do let _ ← Transaction.zincrby k m delta
  | .zrem k m => do let _ ← Transaction.zrem k m
  | .sadd k m => do let _ ← Transaction.sadd k m
  | .srem k m => do let _ ← Transaction.srem k m
  | .execute c => do let _ ← Transaction.execute c

/-- Makes the calls in turn; a call that fails leaves the transaction as it reached it, and the
next call goes on from there. -/
def performAll (t : Transaction) (cs : List Call) : Transaction :=
  cs.foldl (fun t c => afterRun (c.run.run t)) t

theorem Call.run_spec (K : Keyspace) (c : Call) :
    ⦃fun t => ⌜RestoresTo K t⌝⦄ c.run
    ⦃post⟨fun _ t => ⌜RestoresTo K t⌝, fun _ t => ⌜RestoresTo K t⌝⟩⦄ := by
  cases c <;> mvcgen [Call.run]

/-- Run lemma: every call keeps the invariant, so a whole session does. -/
theorem restoresTo_performAll {K : Keyspace} {t : Transaction} (ht : RestoresTo K t)
    (cs : List Call) : RestoresTo K (t.performAll cs) := by
  induction cs generalizing t with
  | nil => exact ht
  | cons c cs ih => exact ih (restoresTo_afterRun (Call.run_spec K c) ht)

/-- Rolling back a session, whatever calls it made and whichever of them failed, gives back the
keyspace it opened on, expired entries and deadlines included, and records no write. -/
theorem rollback_performAll (K : Keyspace) (now : Nat) (cs : List Call) :
    ((begin K now).performAll cs).rollback = K ∧
      ((begin K now).performAll cs).revert.batch.ops = [] :=
  ⟨restoresTo_performAll (restoresTo_begin K now) cs, rfl⟩

end Transaction

end CounterCache
