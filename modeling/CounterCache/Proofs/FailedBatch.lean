import Mathlib
import CounterCache.Proofs.StoreReplay

/-!
# Replaying a batch that fails part way

Replay applies a batch's operations in place, one after the other, at the batch's time, and
stops at the first that fails. The failing operation itself changes nothing, but the operations
before it stay: a batch is skipped from its failing operation on, not as a whole.

`Keyspace.applyOps_eq_error` says where a failing run stops: after a prefix that applied in
full, at the first operation that fails. `Store.replay_failed_batch_keeps_prefix` lifts it to
replay: a journal record of a batch whose operation fails after `pre` applied replays as `pre`
alone, and replay goes on from there.
-/

namespace CounterCache

namespace Keyspace

variable {ks ks' : Keyspace} {now : Nat} {op : WriteOp} {ops : List WriteOp} {e : Error}

/-- The operations before a failing one are applied in full, the failing one changes nothing,
and the ones after it are not applied. -/
theorem applyOps_prefix_error {pre : List WriteOp} (post : List WriteOp)
    (hpre : ks.applyOps now pre = (ks', none)) (hop : ks'.apply op now = .error e) :
    ks.applyOps now (pre ++ op :: post) = (ks', some e) := by
  rw [Transaction.applyOps_append hpre, applyOps_cons_error hop]

/-- A run that ends in an error stopped at the first operation that failed, after the
operations before it applied in full. -/
theorem applyOps_eq_error (h : ks.applyOps now ops = (ks', some e)) :
    ∃ pre op post, ops = pre ++ op :: post ∧ ks.applyOps now pre = (ks', none) ∧
      ks'.apply op now = .error e := by
  induction ops generalizing ks with
  | nil => cases h
  | cons op rest ih =>
    cases hop : ks.apply op now with
    | error e' =>
      -- the first operation fails: nothing before it, and the keyspace is untouched
      rw [applyOps_cons_error hop, Prod.mk.injEq] at h
      obtain ⟨rfl, he⟩ := h
      cases he
      exact ⟨[], op, rest, rfl, rfl, hop⟩
    | ok ks₁ =>
      rw [applyOps_cons_ok hop] at h
      obtain ⟨pre, op', post, hrest, hpre, hop'⟩ := ih h
      refine ⟨op :: pre, op', post, by rw [hrest, List.cons_append], ?_, hop'⟩
      rw [applyOps_cons_ok hop, hpre]

end Keyspace

namespace Store

open Journal

/-- A batch record replays its batch, and replay goes on from the keyspace it leaves, whether
the batch applied in full or not. -/
theorem replay_batchRecord_cons (ks : Keyspace) {b : WriteBatch} (hfits : b.Fits)
    (rs : List Record) : replay ks (batchRecord b :: rs) = replay (ks.applyBatch b).1 rs := by
  rw [← List.singleton_append, replay_append (replay_batchRecord ks hfits)]

/-- Replay skips a failing batch only from its failing operation on. A batch whose operation
`op` fails, once the operations `pre` before it applied to `ks` and gave `ks'`, replays to `ks'`:
the writes of `pre` stay, and the records after the batch replay from there. -/
theorem replay_failed_batch_keeps_prefix {ks ks' : Keyspace} {b : WriteBatch}
    {pre post : List WriteOp} {op : WriteOp} {e : Error} (rs : List Record) (hfits : b.Fits)
    (hops : b.ops = pre ++ op :: post) (hpre : ks.applyOps b.timestamp pre = (ks', none))
    (hop : ks'.apply op b.timestamp = .error e) :
    replay ks (batchRecord b :: rs) = replay ks' rs := by
  have happly : ks.applyBatch b = (ks', some e) := by
    rw [Keyspace.applyBatch, hops]
    exact Keyspace.applyOps_prefix_error post hpre hop
  rw [replay_batchRecord_cons ks hfits, happly]

/-- A hash field written, then a sorted-set member at the same key: the second write fails on
the hash, and the first stays. -/
theorem replay_failed_batch_keeps_prefix_example :
    let b : WriteBatch := ⟨0, [.hset "h" "f" "v", .zset "h" "m" 1]⟩
    let ks' : Keyspace := Keyspace.empty.put "h" ⟨.hash (KeyMap.empty.insert "f" "v"), none⟩
    b.Fits ∧ b.ops = [.hset "h" "f" "v"] ++ [.zset "h" "m" 1] ∧
      Keyspace.empty.applyOps b.timestamp [.hset "h" "f" "v"] = (ks', none) ∧
      ks'.apply (.zset "h" "m" 1) b.timestamp = .error (.wrongType "h") ∧
      replay Keyspace.empty [batchRecord b] = replay ks' [] := by
  intro b ks'
  have hfits : b.Fits := by decide +kernel
  have hpre : Keyspace.empty.applyOps b.timestamp [.hset "h" "f" "v"] = (ks', none) := rfl
  have hop : ks'.apply (.zset "h" "m" 1) b.timestamp = .error (.wrongType "h") := rfl
  exact ⟨hfits, rfl, hpre, hop, replay_failed_batch_keeps_prefix [] hfits rfl hpre hop⟩

/-- The journal of one batch that writes a hash field and then fails on a sorted-set member at
the same key replays to a keyspace holding the hash field, not to the empty keyspace that
skipping the batch whole would give. -/
theorem replay_keeps_write_before_failure :
    let b : WriteBatch := ⟨0, [.hset "h" "f" "v", .zset "h" "m" 1]⟩
    (Keyspace.empty.applyBatch b).2 = some (.wrongType "h") ∧
      replay Keyspace.empty [batchRecord b] =
        .ok (Keyspace.empty.put "h" ⟨.hash (KeyMap.empty.insert "f" "v"), none⟩) ∧
      (Keyspace.empty.put "h" ⟨.hash (KeyMap.empty.insert "f" "v"), none⟩).get? "h" 0 ≠ none := by
  intro b
  have hfits : b.Fits := by decide +kernel
  refine ⟨rfl, ?_, by simp [Keyspace.get?, Keyspace.raw?_put_self, Entry.isExpired]⟩
  rw [replay_batchRecord Keyspace.empty hfits]
  rfl

end Store

end CounterCache
