import Mathlib
import CounterCache.Proofs.Rollback

/-!
# Replaying a committed batch

A transaction applies its writes in place and records each one as an effect-level operation.
Replaying the recorded batch at the transaction's time reproduces the transaction's keyspace
exactly: the invariant `Transaction.Replays K` (the operations recorded so far, applied to the
keyspace the transaction opened on, give its current keyspace) holds when it opens and is kept
by every call, whether the call answers or fails (`Transaction.applyBatch_commit`).

Replay after a restart does not start from the keyspace the store had: a checkpoint image
leaves out the entries expired at its time, and a purge removes them from the store alone. The
two keyspaces then agree on their live entries only. `Keyspace.LiveAgree u R S` says that every
key has the same live entry at time `u` in both. It survives every write at time `u`, since a
write evicts its key's expired entry first and then depends on the key's live entry alone
(`Keyspace.apply_eq_applyTo`), and it survives the passing of time, since an entry that is
expired stays expired.
-/

namespace CounterCache

namespace KeyMap

variable {α : Type}

theorem find?_filter (m : KeyMap α) (p : String → α → Bool) (k : String) :
    (m.filter p).find? k = (m.find? k).filter (p k) := by
  apply Option.ext
  intro v
  have hmem := mem_iff_lookup (m.filter p).ascending (k, v)
  rw [Option.filter_eq_some_iff, find?, ← hmem, find?, ← mem_iff_lookup m.ascending (k, v)]
  simp [filter]

end KeyMap

namespace Keyspace

/-! ## A write depends on its key's live entry alone -/

theorem get?_eq_filter (ks : Keyspace) (k : String) (now : Nat) :
    ks.get? k now = (ks.raw? k).filter fun e => !e.isExpired now := by
  unfold get?
  cases ks.raw? k with
  | none => rfl
  | some e => cases h : e.isExpired now <;> simp [h, Option.filter]

@[simp] theorem restoreRaw_restoreRaw (ks : Keyspace) (k : String) (a b : Option Entry) :
    (ks.restoreRaw k a).restoreRaw k b = ks.restoreRaw k b := by
  apply ext_raw?
  intro k2
  by_cases hk : k = k2
  · subst hk
    simp
  · rw [raw?_restoreRaw_ne _ _ hk, raw?_restoreRaw_ne _ _ hk, raw?_restoreRaw_ne _ _ hk]

/-- Evicting an expired entry leaves the key with its live entry, or nothing. -/
theorem evictExpired_eq_restoreRaw (ks : Keyspace) (k : String) (now : Nat) :
    ks.evictExpired k now = ks.restoreRaw k (ks.get? k now) := by
  unfold evictExpired get?
  cases hraw : ks.raw? k with
  | none => simp [restoreRaw, remove_of_raw?_none hraw]
  | some e =>
    cases h : e.isExpired now
    · simp [restoreRaw, h, put_of_raw? hraw]
    · simp [restoreRaw, h]

/-- What a container becomes after a removal: dropped when it is left empty. -/
def nonEmpty (e : Entry) : Option Entry :=
  if e.value.isEmptyContainer then none else some e

theorem putOrRemove_eq_restoreRaw (ks : Keyspace) (k : String) (e : Entry) :
    ks.putOrRemove k e = ks.restoreRaw k (nonEmpty e) := by
  unfold putOrRemove nonEmpty
  split <;> rfl

end Keyspace

namespace WriteOp

/-- The entry a write leaves under its key, given the key's live entry before it; a write of one
type to an entry of another type is a type error. -/
def applyTo : WriteOp → Option Entry → Except Error (Option Entry)
  | .set _ v, _ => .ok (some ⟨.str v, none⟩)
  | .hset _ f v, none => .ok (some ⟨.hash (KeyMap.empty.insert f v), none⟩)
  | .hset _ f v, some ⟨.hash h, d⟩ => .ok (some ⟨.hash (h.insert f v), d⟩)
  | .hset k _ _, some _ => .error (.wrongType k)
  | .hdel _ _, none => .ok none
  | .hdel _ f, some ⟨.hash h, d⟩ => .ok (Keyspace.nonEmpty ⟨.hash (h.erase f), d⟩)
  | .hdel k _, some _ => .error (.wrongType k)
  | .zset _ m s, none => .ok (some ⟨.zset (SortedSet.empty.insert m s), none⟩)
  | .zset _ m s, some ⟨.zset z, d⟩ => .ok (some ⟨.zset (z.insert m s), d⟩)
  | .zset k _ _, some _ => .error (.wrongType k)
  | .zrem _ _, none => .ok none
  | .zrem _ m, some ⟨.zset z, d⟩ => .ok (Keyspace.nonEmpty ⟨.zset (z.erase m), d⟩)
  | .zrem k _, some _ => .error (.wrongType k)
  | .sadd _ m, none => .ok (some ⟨.set (KeySet.empty.insert m), none⟩)
  | .sadd _ m, some ⟨.set s, d⟩ => .ok (some ⟨.set (s.insert m), d⟩)
  | .sadd k _, some _ => .error (.wrongType k)
  | .srem _ _, none => .ok none
  | .srem _ m, some ⟨.set s, d⟩ => .ok (Keyspace.nonEmpty ⟨.set (s.erase m), d⟩)
  | .srem k _, some _ => .error (.wrongType k)
  | .delete _, _ => .ok none
  | .expireAt _ _, none => .ok none
  | .expireAt _ at?, some e => .ok (some { e with expiresAt := at? })
  | .restore _ e, _ => .ok (some e)

end WriteOp

namespace Keyspace

/-- A run of operations applies the first, and goes on from the keyspace it gives or stops at it
with its error. -/
theorem applyOps_cons (ks : Keyspace) (now : Nat) (op : WriteOp) (ops : List WriteOp) :
    ks.applyOps now (op :: ops) =
      match ks.apply op now with
      | .ok ks' => ks'.applyOps now ops
      | .error e => (ks, some e) := rfl

theorem applyOps_cons_ok {ks ks₁ : Keyspace} {now : Nat} {op : WriteOp}
    (h : ks.apply op now = .ok ks₁) (ops : List WriteOp) :
    ks.applyOps now (op :: ops) = ks₁.applyOps now ops := by
  rw [applyOps_cons, h]

theorem applyOps_cons_error {ks : Keyspace} {now : Nat} {op : WriteOp} {e : Error}
    (h : ks.apply op now = .error e) (ops : List WriteOp) :
    ks.applyOps now (op :: ops) = (ks, some e) := by
  rw [applyOps_cons, h]

theorem put_eq_restoreRaw (ks : Keyspace) (k : String) (e : Entry) :
    ks.put k e = ks.restoreRaw k (some e) := rfl

theorem remove_eq_restoreRaw (ks : Keyspace) (k : String) : ks.remove k = ks.restoreRaw k none :=
  rfl

/-- A write reads its key's live entry, and leaves every other key as it was. -/
theorem apply_eq_applyTo (ks : Keyspace) (op : WriteOp) (now : Nat) :
    ks.apply op now = (op.applyTo (ks.get? op.key now)).map (ks.restoreRaw op.key) := by
  have hraw : (ks.evictExpired op.key now).raw? op.key = ks.get? op.key now := by
    rw [evictExpired_eq_restoreRaw, raw?_restoreRaw_self]
  have hstore : ∀ o, (ks.evictExpired op.key now).restoreRaw op.key o = ks.restoreRaw op.key o :=
    fun o => by rw [evictExpired_eq_restoreRaw, restoreRaw_restoreRaw]
  have hsame := evictExpired_eq_restoreRaw ks op.key now
  -- each branch of `apply` either fails on the entry's type or stores what `applyTo` gives
  cases op <;> simp only [WriteOp.key] at hraw hstore hsame <;>
    simp only [apply, WriteOp.key, hraw, put_eq_restoreRaw, remove_eq_restoreRaw,
      putOrRemove_eq_restoreRaw, hstore] <;>
    rcases hg : ks.get? _ now with _ | ⟨_ | _ | _ | _, _⟩ <;>
    simp [WriteOp.applyTo, Except.map, hsame, hg]

/-! ## Agreeing on the live entries -/

/-- `R` and `S` hold the same live entry under every key at time `u`; they may differ in entries
expired by then. -/
def LiveAgree (u : Nat) (R S : Keyspace) : Prop := ∀ k, R.get? k u = S.get? k u

namespace LiveAgree

variable {u : Nat} {R S T : Keyspace}

theorem refl (u : Nat) (R : Keyspace) : LiveAgree u R R := fun _ => rfl

theorem symm (h : LiveAgree u R S) : LiveAgree u S R := fun k => (h k).symm

theorem trans (h₁ : LiveAgree u R S) (h₂ : LiveAgree u S T) : LiveAgree u R T :=
  fun k => (h₁ k).trans (h₂ k)

/-- An entry live at a time was live at every earlier time. -/
theorem get?_of_le {ks : Keyspace} {k : String} {u v : Nat} {e : Entry} (huv : u ≤ v)
    (h : ks.get? k v = some e) : ks.get? k u = some e := by
  rw [get?_eq_filter, Option.filter_eq_some_iff] at h ⊢
  refine ⟨h.1, ?_⟩
  -- a deadline not reached at `v` was not reached at `u` either
  have hlive := h.2
  unfold Entry.isExpired at hlive ⊢
  cases hd : e.expiresAt with
  | none => rfl
  | some d =>
    simp only [hd, Bool.not_eq_eq_eq_not, Bool.not_true, decide_eq_false_iff_not, Nat.not_le] at hlive ⊢
    omega

/-- Agreement lasts: an entry expired at `u` is still expired later. -/
theorem mono (h : LiveAgree u R S) {v : Nat} (huv : u ≤ v) : LiveAgree v R S := by
  intro k
  -- an entry live at `v` in either keyspace was live at `u`, so the other holds it too
  have hlive : ∀ {A B : Keyspace}, LiveAgree u A B → ∀ e, A.get? k v = some e →
      B.get? k v = some e := by
    intro A B hab e he
    have hu := hab k ▸ get?_of_le huv he
    rw [get?_eq_filter, Option.filter_eq_some_iff] at he hu ⊢
    exact ⟨hu.1, he.2⟩
  apply Option.ext
  intro e
  exact ⟨hlive h e, hlive h.symm e⟩

/-- Storing the same entry, or nothing, under a key keeps the agreement. -/
theorem restoreRaw (h : LiveAgree u R S) (k : String) (o : Option Entry) :
    LiveAgree u (R.restoreRaw k o) (S.restoreRaw k o) := by
  intro k2
  by_cases hk : k = k2
  · subst hk
    simp only [get?_eq_filter, raw?_restoreRaw_self]
  · rw [get?_eq_filter, get?_eq_filter, raw?_restoreRaw_ne _ _ hk, raw?_restoreRaw_ne _ _ hk,
      ← get?_eq_filter, ← get?_eq_filter]
    exact h k2

/-- A write at the time of agreement fails on both keyspaces alike, or succeeds on both and
keeps them agreeing. -/
theorem apply (h : LiveAgree u R S) (op : WriteOp) :
    (∃ e, R.apply op u = .error e ∧ S.apply op u = .error e) ∨
      ∃ R' S', R.apply op u = .ok R' ∧ S.apply op u = .ok S' ∧ LiveAgree u R' S' := by
  rw [apply_eq_applyTo, apply_eq_applyTo, h op.key]
  cases op.applyTo (S.get? op.key u) with
  | error e => exact .inl ⟨e, rfl, rfl⟩
  | ok o => exact .inr ⟨_, _, rfl, rfl, h.restoreRaw op.key o⟩

/-- Operations at the time of agreement stop at the same failure on both keyspaces and leave
them agreeing. -/
theorem applyOps (h : LiveAgree u R S) (ops : List WriteOp) :
    (R.applyOps u ops).2 = (S.applyOps u ops).2 ∧
      LiveAgree u (R.applyOps u ops).1 (S.applyOps u ops).1 := by
  induction ops generalizing R S with
  | nil => exact ⟨rfl, h⟩
  | cons op ops ih =>
    rcases h.apply op with ⟨e, hR, hS⟩ | ⟨R', S', hR, hS, h'⟩
    · rw [applyOps_cons_error hR, applyOps_cons_error hS]
      exact ⟨rfl, h⟩
    · rw [applyOps_cons_ok hR, applyOps_cons_ok hS]
      exact ih h'

end LiveAgree

/-- Purging removes only entries expired at the purge's time. -/
theorem liveAgree_purgeExpired (ks : Keyspace) (u : Nat) :
    LiveAgree u (ks.purgeExpired u).1 ks := by
  intro k
  simp only [get?_eq_filter, raw?, purgeExpired, KeyMap.find?_filter, Option.filter_filter,
    Bool.and_self]

/-- Keyspaces that agree at `u` have the same live entries at `u`, in the same key order. -/
theorem LiveAgree.live_eq {u : Nat} {R S : Keyspace} (h : LiveAgree u R S) : R.live u = S.live u := by
  have hmem : ∀ (ks : Keyspace) (e : String × Entry), e ∈ ks.live u ↔ ks.get? e.1 u = some e.2 := by
    intro ks e
    rw [live, List.mem_filter, KeyMap.mem_iff_lookup ks.entries.ascending, get?_eq_filter,
      Option.filter_eq_some_iff]
    rfl
  refine eq_of_pairwise_of_mem_iff (fun hab => String.lt_asymm hab)
    (R.entries.ascending.filter _) (S.entries.ascending.filter _) fun e => ?_
  rw [hmem, hmem, h e.1]

end Keyspace

/-! ## Every call keeps an invariant that every write keeps -/

namespace Transaction

open Std.Do

set_option mvcgen.warning false

-- `mvcgen` opens the reads a call makes, and the lifting of their answers, wherever they occur
attribute [local spec] ofExcept exists? hget sortedSet? zscore set? sismember

section Keeps

/- The calls of a session change their transaction only through `write`, and read it otherwise;
a removal is written only after a read found its field or member, so its container is not
empty, and no call writes a whole entry back. An invariant that every such write keeps is
therefore kept by every call. -/
variable (I : Transaction → Prop)
  (hw : ∀ op, op.isRestore = false →
    ⦃fun t => ⌜I t ∧ ¬ RemovesFromEmpty t.keyspace op t.now⌝⦄ write op
    ⦃post⟨fun _ t => ⌜I t⌝, fun _ t => ⌜I t⌝⟩⦄)
include hw

/- The triples registered for `RestoresTo` are set aside in each proof: `mvcgen` would prefer
them to the ones given here. -/

theorem del_keeps (k : String) :
    ⦃fun t => ⌜I t⌝⦄ del k ⦃post⟨fun _ t => ⌜I t⌝, fun _ t => ⌜I t⌝⟩⦄ := by
  have hwrite := hw (.delete k) rfl
  mvcgen [del, hwrite, -write_spec, -del_spec]
  exact ⟨‹_›, not_removesFromEmpty rfl⟩

theorem expire_keeps (k : String) (seconds : Int) :
    ⦃fun t => ⌜I t⌝⦄ expire k seconds ⦃post⟨fun _ t => ⌜I t⌝, fun _ t => ⌜I t⌝⟩⦄ := by
  have hdel := del_keeps I hw
  have hwrite := fun d => hw (.expireAt k (some d)) rfl
  mvcgen [expire, hwrite, hdel, -write_spec, -del_spec, -expire_spec]
  exact ⟨‹_›, not_removesFromEmpty rfl⟩

theorem setString_keeps (k v : String) :
    ⦃fun t => ⌜I t⌝⦄ setString k v ⦃post⟨fun _ t => ⌜I t⌝, fun _ t => ⌜I t⌝⟩⦄ := by
  have hwrite := hw (.set k v) rfl
  mvcgen [setString, hwrite, -write_spec, -setString_spec]
  exact ⟨‹_›, not_removesFromEmpty rfl⟩

theorem hset_keeps (k f v : String) :
    ⦃fun t => ⌜I t⌝⦄ hset k f v ⦃post⟨fun _ t => ⌜I t⌝, fun _ t => ⌜I t⌝⟩⦄ := by
  have hwrite := hw (.hset k f v) rfl
  mvcgen [hset, hwrite, -write_spec, -hset_spec]
  exact ⟨‹_›, not_removesFromEmpty rfl⟩

theorem hdel_keeps (k f : String) :
    ⦃fun t => ⌜I t⌝⦄ hdel k f ⦃post⟨fun _ t => ⌜I t⌝, fun _ t => ⌜I t⌝⟩⦄ := by
  have hwrite := hw (.hdel k f) rfl
  mvcgen [hdel, hwrite, -write_spec, -hdel_spec]
  rename_i hinv _ hread hfound
  exact ⟨hinv, removesFromEmpty_hdel hread hfound⟩

theorem hsetnx_keeps (k f v : String) :
    ⦃fun t => ⌜I t⌝⦄ hsetnx k f v ⦃post⟨fun _ t => ⌜I t⌝, fun _ t => ⌜I t⌝⟩⦄ := by
  have hhset := hset_keeps I hw
  mvcgen [hsetnx, hhset, -hset_spec, -hsetnx_spec]

theorem hincrby_keeps (k f : String) (delta : Int) :
    ⦃fun t => ⌜I t⌝⦄ hincrby k f delta ⦃post⟨fun _ t => ⌜I t⌝, fun _ t => ⌜I t⌝⟩⦄ := by
  have hhset := hset_keeps I hw
  mvcgen [hincrby, hhset, -hset_spec, -hincrby_spec]

theorem zadd_keeps (k m : String) (score : Int) (nx : Bool) :
    ⦃fun t => ⌜I t⌝⦄ zadd k m score nx ⦃post⟨fun _ t => ⌜I t⌝, fun _ t => ⌜I t⌝⟩⦄ := by
  have hwrite := hw (.zset k m score) rfl
  mvcgen [zadd, hwrite, -write_spec, -zadd_spec]
  exact ⟨‹_›, not_removesFromEmpty rfl⟩

theorem zincrby_keeps (k m : String) (delta : Int) :
    ⦃fun t => ⌜I t⌝⦄ zincrby k m delta ⦃post⟨fun _ t => ⌜I t⌝, fun _ t => ⌜I t⌝⟩⦄ := by
  have hwrite := fun s => hw (.zset k m s) rfl
  mvcgen [zincrby, hwrite, -write_spec, -zincrby_spec]
  exact ⟨‹_›, not_removesFromEmpty rfl⟩

theorem zrem_keeps (k m : String) :
    ⦃fun t => ⌜I t⌝⦄ zrem k m ⦃post⟨fun _ t => ⌜I t⌝, fun _ t => ⌜I t⌝⟩⦄ := by
  have hwrite := hw (.zrem k m) rfl
  mvcgen [zrem, hwrite, -write_spec, -zrem_spec]
  rename_i hinv _ hread hfound
  exact ⟨hinv, removesFromEmpty_zrem hread hfound⟩

theorem sadd_keeps (k m : String) :
    ⦃fun t => ⌜I t⌝⦄ sadd k m ⦃post⟨fun _ t => ⌜I t⌝, fun _ t => ⌜I t⌝⟩⦄ := by
  have hwrite := hw (.sadd k m) rfl
  mvcgen [sadd, hwrite, -write_spec, -sadd_spec]
  exact ⟨‹_›, not_removesFromEmpty rfl⟩

theorem srem_keeps (k m : String) :
    ⦃fun t => ⌜I t⌝⦄ srem k m ⦃post⟨fun _ t => ⌜I t⌝, fun _ t => ⌜I t⌝⟩⦄ := by
  have hwrite := hw (.srem k m) rfl
  mvcgen [srem, hwrite, -write_spec, -srem_spec]
  rename_i hinv _ hread hfound
  exact ⟨hinv, removesFromEmpty_srem hread (by simpa using hfound)⟩

omit hw in
theorem countTrue_keeps {β : Type} (f : β → TxnM Bool)
    (hf : ∀ x, ⦃fun t => ⌜I t⌝⦄ f x ⦃post⟨fun _ t => ⌜I t⌝, fun _ t => ⌜I t⌝⟩⦄) (xs : List β) :
    ⦃fun t => ⌜I t⌝⦄ countTrue f xs ⦃post⟨fun _ t => ⌜I t⌝, fun _ t => ⌜I t⌝⟩⦄ := by
  induction xs with
  | nil => mvcgen [countTrue, -countTrue_spec]
  | cons x xs ih => mvcgen [countTrue, hf, ih, -countTrue_spec]

theorem execute_keeps (c : Command) :
    ⦃fun t => ⌜I t⌝⦄ execute c ⦃post⟨fun _ t => ⌜I t⌝, fun _ t => ⌜I t⌝⟩⦄ := by
  have hdel := del_keeps I hw
  have hexpire := expire_keeps I hw
  have hsetString := setString_keeps I hw
  have hhset := hset_keeps I hw
  have hhdel := hdel_keeps I hw
  have hhsetnx := hsetnx_keeps I hw
  have hhincrby := hincrby_keeps I hw
  have hzadd := zadd_keeps I hw
  have hzincrby := zincrby_keeps I hw
  have hzrem := zrem_keeps I hw
  have hsadd := sadd_keeps I hw
  have hsrem := srem_keeps I hw
  have hcount := @countTrue_keeps I
  cases c <;> mvcgen [execute, getString, ttl, hgetall, zcard, zrevrange, scard, hdel, hexpire,
    hsetString, hhset, hhdel, hhsetnx, hhincrby, hzadd, hzincrby, hzrem, hsadd, hsrem, hcount, -write_spec, -del_spec, -expire_spec,
    -setString_spec, -hset_spec, -hdel_spec, -hsetnx_spec, -hincrby_spec, -zadd_spec,
    -zincrby_spec, -zrem_spec, -sadd_spec, -srem_spec, -countTrue_spec, -execute_spec]

theorem Call.run_keeps (c : Call) :
    ⦃fun t => ⌜I t⌝⦄ c.run ⦃post⟨fun _ t => ⌜I t⌝, fun _ t => ⌜I t⌝⟩⦄ := by
  have hdel := del_keeps I hw
  have hexpire := expire_keeps I hw
  have hsetString := setString_keeps I hw
  have hhset := hset_keeps I hw
  have hhdel := hdel_keeps I hw
  have hhsetnx := hsetnx_keeps I hw
  have hhincrby := hincrby_keeps I hw
  have hzadd := zadd_keeps I hw
  have hzincrby := zincrby_keeps I hw
  have hzrem := zrem_keeps I hw
  have hsadd := sadd_keeps I hw
  have hsrem := srem_keeps I hw
  have hexecute := execute_keeps I hw
  cases c <;> mvcgen [Call.run, hdel, hexpire, hsetString, hhset, hhdel, hhsetnx, hhincrby, hzadd,
    hzincrby, hzrem, hsadd, hsrem, hexecute, -del_spec, -expire_spec, -setString_spec, -hset_spec,
    -hdel_spec, -hsetnx_spec, -hincrby_spec, -zadd_spec, -zincrby_spec, -zrem_spec, -sadd_spec,
    -srem_spec, -execute_spec]

/-- Run lemma: a whole session keeps the invariant, whichever of its calls fail. -/
theorem performAll_keeps {t : Transaction} (ht : I t) (cs : List Call) : I (t.performAll cs) := by
  induction cs generalizing t with
  | nil => exact ht
  | cons c cs ih =>
    apply ih
    exact EStateM.of_wp_run_eq (P := fun r => I (afterRun r)) rfl (fun _ => Call.run_keeps I hw c t ht)

end Keeps

/-! ## The recorded batch replays the transaction -/

/-- Applying the operations recorded so far to `K`, at the transaction's time, gives the
transaction's keyspace. -/
def Replays (K : Keyspace) (t : Transaction) : Prop :=
  K.applyOps t.now t.ops = (t.keyspace, none)

theorem replays_begin (K : Keyspace) (now : Nat) : Replays K (begin K now) := rfl

theorem applyOps_append {K ks : Keyspace} {now : Nat} {ops : List WriteOp}
    (h : K.applyOps now ops = (ks, none)) (more : List WriteOp) :
    K.applyOps now (ops ++ more) = ks.applyOps now more := by
  induction ops generalizing K with
  | nil =>
    rw [Keyspace.applyOps_nil, Prod.mk.injEq] at h
    rw [List.nil_append, h.1]
  | cons op ops ih =>
    cases hop : K.apply op now with
    | ok K' =>
      rw [Keyspace.applyOps_cons_ok hop] at h
      rw [List.cons_append, Keyspace.applyOps_cons_ok hop]
      exact ih h
    | error e =>
      rw [Keyspace.applyOps_cons_error hop] at h
      cases h

/-- A write that goes through is recorded after the others, and replays to the keyspace it
leaves. -/
theorem write_replays (K : Keyspace) (op : WriteOp) :
    ⦃fun t => ⌜Replays K t ∧ ¬ RemovesFromEmpty t.keyspace op t.now⌝⦄ write op
    ⦃post⟨fun _ t => ⌜Replays K t⌝, fun _ t => ⌜Replays K t⌝⟩⦄ := by
  mvcgen [write, -write_spec]
  · rename_i t hinv _ ks happly
    simp only [Replays]
    rw [applyOps_append hinv.1, Keyspace.applyOps_cons_ok happly]
    rfl
  · rename_i t hinv _ _ _
    exact hinv.1

/-- A session keeps the time it opened with. -/
theorem now_performAll (t : Transaction) (cs : List Call) : (t.performAll cs).now = t.now := by
  refine performAll_keeps (fun t' => t'.now = t.now) (fun op _ => ?_) rfl cs
  mvcgen [write, -write_spec]
  all_goals exact ‹_ ∧ _›.1

theorem replays_performAll (K : Keyspace) (now : Nat) (cs : List Call) :
    Replays K ((begin K now).performAll cs) :=
  performAll_keeps (Replays K) (fun op _ => write_replays K op) (replays_begin K now) cs

/-- The batch a session commits, applied to the keyspace the session opened on, succeeds and
gives exactly the keyspace it commits, whichever of its calls failed. -/
theorem applyBatch_commit (K : Keyspace) (now : Nat) (cs : List Call) :
    K.applyBatch ((begin K now).performAll cs).commit.2 =
      (((begin K now).performAll cs).commit.1, none) :=
  replays_performAll K now cs

end Transaction

end CounterCache
