import Mathlib
import CounterCache.Proofs.TemplateRuns
import CounterCache.Script.Eval

/-!
# No empty container is stored

A hash, sorted set or set without elements is never stored. A removal that empties its container
drops the key (`Keyspace.putOrRemove`); every other write leaves a container holding at least
the element it wrote, or leaves the value alone. Only the restore of a whole entry could store an
empty container, and nothing but a checkpoint image writes one: the image of a keyspace holds its
live entries, none of them empty.

The keyspaces a store holds (`Reachable`) come from the empty one by units of work (`Work`: the
calls of a transaction, commands among them, a catalog template run natively, a Lua script) that
commit or roll back, by purges of expired entries, and by replaying the batches those units
record and checkpoint images. Each step keeps `Keyspace.NoEmptyContainer`:

* every call writes edits only, never a whole entry (`Transaction.EditsOnly`), so it keeps the
  transaction's keyspace free of empty containers (`Transaction.Filled`), and its recorded batch
  keeps any keyspace free of them when it is replayed;
* a unit rolled back leaves the keyspace it opened on (`Transaction.RestoresTo`);
* a Lua script changes its transaction only through the commands it sends (`Script.Reached`), so
  what every command keeps, every script keeps.

Main statement: `reachable_noEmptyContainer`.
-/

namespace CounterCache

open Std.Do

set_option mvcgen.warning false

namespace WriteOp

/-- The operation puts back a whole entry whose value is an empty container. -/
def restoresEmpty : WriteOp → Bool
  | .restore _ e => e.value.isEmptyContainer
  | _ => false

theorem restoresEmpty_of_isRestore {op : WriteOp} (h : op.isRestore = false) :
    op.restoresEmpty = false := by
  cases op <;> simp_all [isRestore, restoresEmpty]

end WriteOp

/-! ## A container an element was written to is not empty -/

theorem KeyMap.isEmpty_insert (m : KeyMap String) (k v : String) :
    (m.insert k v).isEmpty = false := by
  have hfind := KeyMap.find?_insert_self m k v
  cases h : (m.insert k v).entries with
  | nil => simp [KeyMap.find?, h, KeyMap.lookup] at hfind
  | cons e es => simp [KeyMap.isEmpty, h]

theorem SortedSet.isEmpty_insert (z : SortedSet) (m : String) (s : Int) :
    (z.insert m s).isEmpty = false := by
  have hscore := SortedSet.score?_insert_self z m s
  cases h : (z.insert m s).entries with
  | nil => simp [SortedSet.score?, SortedSet.scoreIn, h] at hscore
  | cons e es => simp [SortedSet.isEmpty, h]

theorem KeySet.isEmpty_insert (s : KeySet) (m : String) : (s.insert m).isEmpty = false := by
  have hmem := (KeySet.mem_insert s m m).2 (.inl rfl)
  cases h : (s.insert m).members with
  | nil => simp [KeySet.contains, h] at hmem
  | cons x xs => simp [KeySet.isEmpty, h]

namespace Keyspace

/-! ## Keyspaces without empty containers -/

/-- No stored entry holds a hash, sorted set or set without elements, expired entries
included. -/
def NoEmptyContainer (ks : Keyspace) : Prop :=
  ∀ k e, ks.raw? k = some e → e.value.isEmptyContainer = false

/-- An optional entry that is absent or not an empty container. -/
def Filled (o : Option Entry) : Prop := ∀ e, o = some e → e.value.isEmptyContainer = false

variable {ks ks' : Keyspace} {k : String} {now : Nat}

@[simp] theorem filled_none : Filled none := fun _ h => by cases h

@[simp] theorem filled_some {e : Entry} : Filled (some e) ↔ e.value.isEmptyContainer = false :=
  ⟨fun h => h e rfl, fun h _ he => Option.some.inj he ▸ h⟩

theorem noEmptyContainer_empty : Keyspace.empty.NoEmptyContainer := by
  intro k e h
  simp [raw?, Keyspace.empty, KeyMap.find?, KeyMap.lookup] at h

theorem NoEmptyContainer.restoreRaw (h : ks.NoEmptyContainer) {o : Option Entry}
    (ho : Filled o) : (ks.restoreRaw k o).NoEmptyContainer := by
  intro k2 e he
  by_cases hk : k = k2
  · subst hk
    rw [raw?_restoreRaw_self] at he
    exact ho e he
  · rw [raw?_restoreRaw_ne _ _ hk] at he
    exact h k2 e he

theorem NoEmptyContainer.get? (h : ks.NoEmptyContainer) : Filled (ks.get? k now) := by
  intro e he
  rw [get?_eq_filter] at he
  exact h k e (Option.filter_eq_some_iff.1 he).1

theorem filled_nonEmpty (e : Entry) : Filled (nonEmpty e) := by
  intro e' he'
  unfold nonEmpty at he'
  split at he'
  · cases he'
  · rename_i hne
    cases he'
    simpa using hne

/-- A write other than the restore of an empty container leaves its key absent or holding a
value that is no empty container, given that it found it so. -/
theorem applyTo_filled {op : WriteOp} (hop : op.restoresEmpty = false) {o o' : Option Entry}
    (ho : Filled o) (h : op.applyTo o = .ok o') : Filled o' := by
  cases op <;> rcases o with _ | ⟨_ | _ | _ | _, d⟩ <;>
    simp only [WriteOp.applyTo, reduceCtorEq, Except.ok.injEq] at h <;> subst h <;>
    simp_all [filled_nonEmpty, Value.isEmptyContainer, KeyMap.isEmpty_insert,
      SortedSet.isEmpty_insert, KeySet.isEmpty_insert, WriteOp.restoresEmpty]

/-- Step lemma for keyspaces: a write that restores no empty container keeps the keyspace free
of them. -/
theorem NoEmptyContainer.apply (h : ks.NoEmptyContainer) {op : WriteOp}
    (hop : op.restoresEmpty = false) (ha : ks.apply op now = .ok ks') :
    ks'.NoEmptyContainer := by
  rw [apply_eq_applyTo] at ha
  cases ho : op.applyTo (ks.get? op.key now) with
  | error e => simp [ho, Except.map] at ha
  | ok o' =>
    simp only [ho, Except.map, Except.ok.injEq] at ha
    subst ha
    exact h.restoreRaw (applyTo_filled hop h.get? ho)

/-- Run lemma: replaying operations that restore no empty container, up to the first that
fails, keeps the keyspace free of them. -/
theorem NoEmptyContainer.applyOps (h : ks.NoEmptyContainer) {ops : List WriteOp}
    (hops : ∀ op ∈ ops, op.restoresEmpty = false) : (ks.applyOps now ops).1.NoEmptyContainer := by
  induction ops generalizing ks with
  | nil => exact h
  | cons op ops ih =>
    have hop := hops op List.mem_cons_self
    have hrest := fun o ho => hops o (List.mem_cons_of_mem op ho)
    simp only [Keyspace.applyOps]
    split
    · rename_i ks' ha
      exact ih (h.apply hop ha) hrest
    · exact h

theorem NoEmptyContainer.purgeExpired (h : ks.NoEmptyContainer) :
    (ks.purgeExpired now).1.NoEmptyContainer := by
  intro k e he
  simp only [raw?, Keyspace.purgeExpired, KeyMap.find?_filter] at he
  exact h k e (Option.filter_eq_some_iff.1 he).1

/-- A checkpoint image restores the live entries of its keyspace, none of them an empty
container. -/
theorem NoEmptyContainer.snapshot (h : ks.NoEmptyContainer) :
    ∀ op ∈ (ks.snapshot now).ops, op.restoresEmpty = false := by
  intro op hop
  simp only [Keyspace.snapshot, List.mem_map] at hop
  obtain ⟨e, he, rfl⟩ := hop
  have hmem : e ∈ ks.entries.entries := (List.mem_filter.1 he).1
  have hraw : ks.raw? e.1 = some e.2 := (KeyMap.mem_iff_lookup ks.entries.ascending e).1 hmem
  exact h e.1 e.2 hraw

end Keyspace

namespace Transaction

/-! ## Calls keep a transaction free of empty containers -/

/-- The transaction's keyspace holds no empty container. -/
def Filled (t : Transaction) : Prop := t.keyspace.NoEmptyContainer

/-- The transaction has recorded edits only, never a whole entry put back. -/
def EditsOnly (t : Transaction) : Prop := ∀ op ∈ t.ops, op.isRestore = false

theorem write_filled (op : WriteOp) (hop : op.isRestore = false) :
    ⦃fun t => ⌜Filled t ∧ ¬ RemovesFromEmpty t.keyspace op t.now⌝⦄ write op
    ⦃post⟨fun _ t => ⌜Filled t⌝, fun _ t => ⌜Filled t⌝⟩⦄ := by
  mvcgen [write, ofExcept, -write_spec]
  · rename_i t hinv _ _ happly
    exact hinv.1.apply (WriteOp.restoresEmpty_of_isRestore hop) happly
  · exact ‹Filled _ ∧ _›.1

theorem write_editsOnly (op : WriteOp) (hop : op.isRestore = false) :
    ⦃fun t => ⌜EditsOnly t ∧ ¬ RemovesFromEmpty t.keyspace op t.now⌝⦄ write op
    ⦃post⟨fun _ t => ⌜EditsOnly t⌝, fun _ t => ⌜EditsOnly t⌝⟩⦄ := by
  mvcgen [write, ofExcept, -write_spec]
  · rename_i t hinv _ _ _
    intro o ho
    rcases List.mem_append.1 ho with ho | ho
    · exact hinv.1 o ho
    · rw [List.mem_singleton.1 ho]
      exact hop
  · exact ‹EditsOnly _ ∧ _›.1

end Transaction

namespace Script

/-! ## A script changes its transaction through commands only -/

section Commands

variable (I : Transaction → Prop)
  (hexec : ∀ c, ⦃fun t => ⌜I t⌝⦄ Transaction.execute c
    ⦃post⟨fun _ t => ⌜I t⌝, fun _ t => ⌜I t⌝⟩⦄)
include hexec

/-- A command sent through `redis.call` keeps what every command keeps: arguments that do not
convert or do not parse leave the transaction alone. -/
theorem dispatch_keeps (args : List Lua.Value) :
    ⦃fun t => ⌜I t⌝⦄ dispatch args ⦃post⟨fun _ t => ⌜I t⌝, fun _ t => ⌜I t⌝⟩⦄ := by
  mvcgen [dispatch, Transaction.monadLift_eq_ofExcept, Transaction.ofExcept, hexec,
    -Transaction.execute_spec]

/-- Run lemma: what every command keeps holds of every transaction a script reaches. -/
theorem Reached.keeps {t₀ t : Transaction} (h : Reached t₀ t) (h₀ : I t₀) : I t := by
  induction h with
  | start => exact h₀
  | call args _ ih =>
    exact EStateM.of_wp_run_eq (P := fun r => I (stateAfter r)) rfl
      (fun _ => dispatch_keeps I hexec args _ ih)

end Commands

/-- A script leaves its transaction where the commands it sent brought it, whether it answers or
fails. -/
theorem eval_reached (src : String) (keys args : List String) (limitMs : Option Nat)
    (t₀ : Transaction) :
    ⦃fun t => ⌜t = t₀⌝⦄ eval src keys args limitMs
    ⦃post⟨fun _ t => ⌜Reached t₀ t⌝, fun _ t => ⌜Reached t₀ t⌝⟩⦄ := by
  mvcgen [eval]
  all_goals subst_vars
  -- a source that does not compile fails before the machine runs
  case vc1.h_1 | vc2.h_2 => exact .start
  -- otherwise the transaction is the one the machine's session holds
  all_goals exact Subtype.property _

theorem reached_eval (src : String) (keys args : List String) (limitMs : Option Nat)
    (t₀ : Transaction) : Reached t₀ (stateAfter ((eval src keys args limitMs).run t₀)) :=
  EStateM.of_wp_run_eq (P := fun r => Reached t₀ (stateAfter r)) rfl
    (fun _ => eval_reached src keys args limitMs t₀ t₀ rfl)

end Script

/-! ## Units of work -/

/-- A unit of work a store runs in one transaction: calls of the transaction, direct commands
among them; a catalog template run natively; or a Lua script, a template's Lua rendering among
them. -/
inductive Work where
  | calls (cs : List Transaction.Call)
  | template (tm : Template) (keys args : List String)
  | script (src : String) (keys args : List String) (limitMs : Option Nat)

/-- The transaction a unit of work leaves, opened on `ks` at `now`, whether it answered or
failed. -/
def Work.finish : Work → Keyspace → Nat → Transaction
  | .calls cs, ks, now => (Transaction.begin ks now).performAll cs
  | .template tm keys args, ks, now =>
    Transaction.afterRun ((tm.run keys args).run (Transaction.begin ks now))
  | .script src keys args limitMs, ks, now =>
    Transaction.afterRun ((Script.eval src keys args limitMs).run (Transaction.begin ks now))

theorem afterRun_eq_stateAfter {α : Type} (r : EStateM.Result Error Transaction α) :
    Transaction.afterRun r = Script.stateAfter r := by
  cases r <;> rfl

/-- Every unit of work keeps what every edit keeps. -/
theorem Work.finish_keeps (I : Transaction → Prop)
    (hw : ∀ op, op.isRestore = false →
      ⦃fun t => ⌜I t ∧ ¬ RemovesFromEmpty t.keyspace op t.now⌝⦄ Transaction.write op
      ⦃post⟨fun _ t => ⌜I t⌝, fun _ t => ⌜I t⌝⟩⦄)
    (w : Work) {ks : Keyspace} {now : Nat} (h : I (Transaction.begin ks now)) :
    I (w.finish ks now) := by
  cases w with
  | calls cs => exact Transaction.performAll_keeps I hw h cs
  | template tm keys args =>
    exact EStateM.of_wp_run_eq (P := fun r => I (Transaction.afterRun r)) rfl
      (fun _ => Template.run_keeps_of_write I hw tm keys args _ h)
  | script src keys args limitMs =>
    rw [Work.finish, afterRun_eq_stateAfter]
    exact (Script.reached_eval src keys args limitMs _).keeps I
      (Transaction.execute_keeps I hw) h

namespace Work

variable (w : Work) {ks : Keyspace} {now : Nat}

theorem finish_noEmptyContainer (h : ks.NoEmptyContainer) :
    (w.finish ks now).keyspace.NoEmptyContainer :=
  w.finish_keeps Transaction.Filled Transaction.write_filled h

/-- A unit of work rolled back leaves the keyspace it opened on. -/
theorem finish_rollback (ks : Keyspace) (now : Nat) : (w.finish ks now).rollback = ks :=
  w.finish_keeps (Transaction.RestoresTo ks) (fun op _ => Transaction.write_spec ks op)
    (Transaction.restoresTo_begin ks now)

/-- The batch a unit of work records restores no entry. -/
theorem batch_restoresEmpty (ks : Keyspace) (now : Nat) :
    ∀ op ∈ (w.finish ks now).batch.ops, op.restoresEmpty = false := by
  have hedits : Transaction.EditsOnly (w.finish ks now) :=
    w.finish_keeps Transaction.EditsOnly Transaction.write_editsOnly (fun _ h => by cases h)
  exact fun op hop => WriteOp.restoresEmpty_of_isRestore (hedits op hop)

end Work

/-! ## The keyspaces a store holds -/

/-- The keyspaces a store holds: the empty one; what a unit of work leaves when it commits or
rolls back; a purge of expired entries; and the replay, onto a keyspace held, of the batch a unit
of work recorded or of a checkpoint image of a keyspace held. -/
inductive Reachable : Keyspace → Prop
  | empty : Reachable Keyspace.empty
  | commit {ks : Keyspace} (w : Work) (now : Nat) :
      Reachable ks → Reachable (w.finish ks now).keyspace
  | rollback {ks : Keyspace} (w : Work) (now : Nat) :
      Reachable ks → Reachable (w.finish ks now).rollback
  | purge {ks : Keyspace} (now : Nat) : Reachable ks → Reachable (ks.purgeExpired now).1
  | replayBatch {ks₀ ks : Keyspace} (w : Work) (now : Nat) :
      Reachable ks₀ → Reachable ks → Reachable (ks.applyBatch (w.finish ks₀ now).batch).1
  | replayImage {ks₀ ks : Keyspace} (now : Nat) :
      Reachable ks₀ → Reachable ks → Reachable (ks.applyBatch (ks₀.snapshot now)).1

/-- No keyspace a store holds stores a hash, sorted set or set without elements, expired entries
included; so no read, existence check or dump meets an empty container as a present key. -/
theorem reachable_noEmptyContainer {ks : Keyspace} (h : Reachable ks) : ks.NoEmptyContainer := by
  induction h with
  | empty => exact Keyspace.noEmptyContainer_empty
  | commit w now _ ih => exact w.finish_noEmptyContainer ih
  | rollback w now _ ih =>
    rw [w.finish_rollback]
    exact ih
  | purge now _ ih => exact ih.purgeExpired
  | replayBatch w now _ _ _ ih => exact ih.applyOps (w.batch_restoresEmpty _ now)
  | replayImage now _ _ ih₀ ih => exact ih.applyOps ih₀.snapshot

/-- A script that writes a hash's only field and removes it, committed on the empty keyspace. -/
theorem reachable_noEmptyContainer_emptied_hash :
    let w := Work.script
      "redis.call('HSET', KEYS[1], 'f', 'v') return redis.call('HDEL', KEYS[1], 'f')" ["h"] [] none
    Reachable (w.finish Keyspace.empty 0).keyspace ∧
      (w.finish Keyspace.empty 0).keyspace.NoEmptyContainer := by
  intro w
  have h : Reachable (w.finish Keyspace.empty 0).keyspace := .commit w 0 .empty
  exact ⟨h, reachable_noEmptyContainer h⟩

end CounterCache
