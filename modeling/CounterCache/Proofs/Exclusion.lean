import Mathlib
import CounterCache.Proofs.TemplateRuns

/-!
# Keeping entries and members out of a keyspace

An `Exclusion` names what a keyspace must not hold: a live entry at some keys, and some members
of the sorted sets at some keys. `Keyspace.Excludes ks now x` says that at time `now` the
keyspace holds none of it. It is a condition on each key's live entry alone
(`Exclusion.Allows`), so a write keeps it unless the write puts in what is excluded
(`WriteOp.Spares`), and it lasts while time passes, a key is removed or expired entries are
purged.

A leaf step of a template that writes only where the exclusion allows (`Step.Spares`) keeps it.
The existence-gated and membership-gated steps keep every exclusion: they write only to a key
that holds an entry, or to a member already ranked. By `Template.runSteps_keeps` every run whose
leaf steps spare an exclusion keeps it (`Template.run_excludes`), and a catalog script run
natively either keeps it or fails and changes nothing (`Store.invoke_excludes`).

Two calls also establish an exclusion: `del` leaves no entry at its key, and `zrem` leaves no
such member (`Transaction.del_clears`, `Transaction.zrem_clears`).
-/

namespace CounterCache

/-- What a keyspace must not hold: a live entry at any of `keys`, and the member `m` in the
sorted set at `k` for each `(k, m)` in `members`. -/
structure Exclusion where
  keys : Set String
  members : Set (String × String)

namespace Exclusion

instance : Max Exclusion := ⟨fun x y => ⟨x.keys ∪ y.keys, x.members ∪ y.members⟩⟩

instance : LE Exclusion := ⟨fun x y => x.keys ⊆ y.keys ∧ x.members ⊆ y.members⟩

@[simp] theorem keys_sup (x y : Exclusion) : (x ⊔ y).keys = x.keys ∪ y.keys := rfl

@[simp] theorem members_sup (x y : Exclusion) : (x ⊔ y).members = x.members ∪ y.members := rfl

/-- No live entry at one key. -/
def key (k : String) : Exclusion := ⟨{k}, ∅⟩

/-- No member `m` in the sorted set at `k`. -/
def member (k m : String) : Exclusion := ⟨∅, {(k, m)}⟩

/-- What the exclusion allows the live entry of key `k` to be: nothing at an excluded key, and
no excluded member in a sorted set. -/
def Allows (x : Exclusion) (k : String) : Option Entry → Prop
  | none => True
  | some e => k ∉ x.keys ∧ ∀ z, e.value = .zset z → ∀ m, (k, m) ∈ x.members → z.score? m = none

variable {x y : Exclusion} {k : String}

theorem Allows.filter {o : Option Entry} (h : x.Allows k o) (p : Entry → Bool) :
    x.Allows k (o.filter p) := by
  cases o with
  | none => trivial
  | some e =>
    simp only [Option.filter]
    split
    · exact h
    · trivial

theorem Allows.mono {o : Option Entry} (hle : x ≤ y) (h : y.Allows k o) : x.Allows k o := by
  cases o with
  | none => trivial
  | some e => exact ⟨fun hk => h.1 (hle.1 hk), fun z hz m hm => h.2 z hz m (hle.2 hm)⟩

theorem allows_sup {o : Option Entry} : (x ⊔ y).Allows k o ↔ x.Allows k o ∧ y.Allows k o := by
  cases o with
  | none => exact ⟨fun _ => ⟨trivial, trivial⟩, fun _ => trivial⟩
  | some e =>
    simp only [Allows, keys_sup, members_sup, Set.mem_union, not_or]
    constructor
    · rintro ⟨⟨hx, hy⟩, hz⟩
      exact ⟨⟨hx, fun z he m hm => hz z he m (.inl hm)⟩, ⟨hy, fun z he m hm => hz z he m (.inr hm)⟩⟩
    · rintro ⟨⟨hx, hzx⟩, ⟨hy, hzy⟩⟩
      exact ⟨⟨hx, hy⟩, fun z he m hm => hm.elim (hzx z he m) (hzy z he m)⟩

end Exclusion

namespace Keyspace

/-- The member is ranked in the live sorted set at the key. -/
def Ranks (ks : Keyspace) (now : Nat) (k m : String) : Prop :=
  ∃ s, ks.scoreAt now k m = .ok (some s)

/-- At time `now` the keyspace holds nothing the exclusion rules out. -/
def Excludes (ks : Keyspace) (now : Nat) (x : Exclusion) : Prop :=
  ∀ k, x.Allows k (ks.get? k now)

variable {ks ks' : Keyspace} {now : Nat} {x y : Exclusion}

theorem ranks_iff {k m : String} : ks.Ranks now k m ↔
    ∃ e z, ks.get? k now = some e ∧ e.value = .zset z ∧ (z.score? m).isSome := by
  unfold Ranks scoreAt sortedSet?
  cases hg : ks.get? k now with
  | none => simp [Except.map]
  | some e =>
    cases hv : e.value <;> simp [hv, Except.map, Option.isSome_iff_exists]

theorem Excludes.get?_eq_none (h : ks.Excludes now x) {k : String} (hk : k ∈ x.keys) :
    ks.get? k now = none := by
  have hk' := h k
  cases hg : ks.get? k now with
  | none => rfl
  | some e => exact absurd hk (by rw [hg] at hk'; exact hk'.1)

theorem Excludes.not_ranks (h : ks.Excludes now x) {k m : String} (hm : (k, m) ∈ x.members) :
    ¬ ks.Ranks now k m := by
  rw [ranks_iff]
  rintro ⟨e, z, hg, hz, hs⟩
  have hk := h k
  rw [hg] at hk
  rw [hk.2 z hz m hm] at hs
  exact Bool.false_ne_true hs

/-- An entry at a key the exclusion forbids would be live. -/
theorem Excludes.not_mem_keys (h : ks.Excludes now x) {k : String}
    (hc : ks.contains k now = true) : k ∉ x.keys := by
  intro hk
  simp [contains, h.get?_eq_none hk] at hc

/-- A member ranked now is neither at a forbidden key nor forbidden itself. -/
theorem Excludes.not_mem_of_ranks (h : ks.Excludes now x) {k m : String}
    (hr : ks.Ranks now k m) : k ∉ x.keys ∧ (k, m) ∉ x.members := by
  obtain ⟨e, z, hg, -, -⟩ := ranks_iff.1 hr
  refine ⟨fun hk => ?_, fun hm => h.not_ranks hm hr⟩
  rw [h.get?_eq_none hk] at hg
  cases hg

theorem excludes_iff : ks.Excludes now x ↔
    (∀ k ∈ x.keys, ks.get? k now = none) ∧ ∀ p ∈ x.members, ¬ ks.Ranks now p.1 p.2 := by
  refine ⟨fun h => ⟨fun k hk => h.get?_eq_none hk, fun p hp => h.not_ranks hp⟩, ?_⟩
  rintro ⟨hkeys, hmembers⟩ k
  cases hg : ks.get? k now with
  | none => trivial
  | some e =>
    simp only [Exclusion.Allows]
    constructor
    · intro hk
      rw [hkeys k hk] at hg
      cases hg
    · intro z hz m hm
      by_contra hs
      exact hmembers (k, m) hm (ranks_iff.2 ⟨e, z, hg, hz, Option.isSome_iff_ne_none.2 hs⟩)

theorem Excludes.mono (h : ks.Excludes now y) (hle : x ≤ y) : ks.Excludes now x :=
  fun k => (h k).mono hle

theorem excludes_sup : ks.Excludes now (x ⊔ y) ↔ ks.Excludes now x ∧ ks.Excludes now y :=
  ⟨fun h => ⟨fun k => (Exclusion.allows_sup.1 (h k)).1, fun k => (Exclusion.allows_sup.1 (h k)).2⟩,
    fun h k => Exclusion.allows_sup.2 ⟨h.1 k, h.2 k⟩⟩

theorem excludes_key {k : String} : ks.Excludes now (.key k) ↔ ks.get? k now = none := by
  rw [excludes_iff]
  simp [Exclusion.key]

theorem excludes_member {k m : String} : ks.Excludes now (.member k m) ↔ ¬ ks.Ranks now k m := by
  rw [excludes_iff]
  simp [Exclusion.member]

/-! ## Time, removals and purges -/

/-- An exclusion lasts while time passes: an entry live later was live before. -/
theorem Excludes.later (h : ks.Excludes now x) {now' : Nat} (hle : now ≤ now') :
    ks.Excludes now' x := by
  intro k
  cases hg : ks.get? k now' with
  | none => trivial
  | some e =>
    have hk := h k
    rwa [LiveAgree.get?_of_le hle hg] at hk

theorem get?_remove (ks : Keyspace) (k k' : String) (now : Nat) :
    (ks.remove k).get? k' now = if k' = k then none else ks.get? k' now := by
  split
  · subst k'
    simp [get?_eq_filter]
  · rw [get?_eq_filter, get?_eq_filter, raw?_remove_ne ks (Ne.symm ‹_›)]

theorem Excludes.remove (h : ks.Excludes now x) (k : String) : (ks.remove k).Excludes now x := by
  intro k'
  rw [get?_remove]
  split
  · trivial
  · exact h k'

theorem Excludes.purgeExpired (h : ks.Excludes now x) : (ks.purgeExpired now).1.Excludes now x :=
  fun k => by rw [liveAgree_purgeExpired ks now k]; exact h k

end Keyspace

/-! ## Writes -/

namespace WriteOp

/-- The write puts in nothing the exclusion rules out: no entry at an excluded key, and no
excluded member. -/
def Spares (x : Exclusion) : WriteOp → Prop
  | .set k _ | .hset k _ _ | .sadd k _ => k ∉ x.keys
  | .zset k m _ => k ∉ x.keys ∧ (k, m) ∉ x.members
  | .restore k e => x.Allows k (some e)
  | .hdel .. | .zrem .. | .srem .. | .delete _ | .expireAt .. => True

theorem allows_of_not_zset {x : Exclusion} {k : String} {e : Entry} (hk : k ∉ x.keys)
    (hv : ∀ z, e.value ≠ .zset z) : x.Allows k (some e) :=
  ⟨hk, fun z hz => absurd hz (hv z)⟩

theorem allows_nonEmpty {x : Exclusion} {k : String} {e : Entry} (h : x.Allows k (some e)) :
    x.Allows k (Keyspace.nonEmpty e) := by
  unfold Keyspace.nonEmpty
  split
  · trivial
  · exact h

/-- A write that spares an exclusion leaves its key's entry allowed. -/
theorem allows_applyTo {x : Exclusion} {op : WriteOp} {o o' : Option Entry}
    (ha : x.Allows op.key o) (hs : op.Spares x) (h : op.applyTo o = .ok o') :
    x.Allows op.key o' := by
  cases op with
  | set k v =>
    simp only [applyTo, Except.ok.injEq] at h
    subst h
    exact allows_of_not_zset hs (by simp)
  | hset k f v =>
    rcases o with _ | ⟨_ | _ | _ | _, d⟩ <;>
      simp only [applyTo, Except.ok.injEq, reduceCtorEq] at h <;> subst h <;>
      exact allows_of_not_zset hs (by simp)
  | sadd k m =>
    rcases o with _ | ⟨_ | _ | _ | _, d⟩ <;>
      simp only [applyTo, Except.ok.injEq, reduceCtorEq] at h <;> subst h <;>
      exact allows_of_not_zset hs (by simp)
  | hdel k f =>
    rcases o with _ | ⟨_ | _ | _ | _, d⟩ <;>
      simp only [applyTo, Except.ok.injEq, reduceCtorEq] at h <;> subst h
    · trivial
    · exact allows_nonEmpty (allows_of_not_zset ha.1 (by simp))
  | srem k m =>
    rcases o with _ | ⟨_ | _ | _ | _, d⟩ <;>
      simp only [applyTo, Except.ok.injEq, reduceCtorEq] at h <;> subst h
    · trivial
    · exact allows_nonEmpty (allows_of_not_zset ha.1 (by simp))
  | zset k m s =>
    -- every excluded member differs from the one written, so keeps its absent score
    have hne : ∀ m', (k, m') ∈ x.members → m ≠ m' := fun m' hm' hmm => hs.2 (hmm ▸ hm')
    rcases o with _ | ⟨_ | _ | _ | _, d⟩ <;>
      simp only [applyTo, Except.ok.injEq, reduceCtorEq] at h <;> subst h
    · refine ⟨hs.1, fun z hz m' hm' => ?_⟩
      cases hz
      rw [SortedSet.score?_insert_ne _ _ (hne m' hm')]
      rfl
    · rename_i z
      refine ⟨hs.1, fun z' hz m' hm' => ?_⟩
      cases hz
      rw [SortedSet.score?_insert_ne _ _ (hne m' hm')]
      exact ha.2 z rfl m' hm'
  | zrem k m =>
    rcases o with _ | ⟨_ | _ | _ | _, d⟩ <;>
      simp only [applyTo, Except.ok.injEq, reduceCtorEq] at h <;> subst h
    · trivial
    · rename_i z
      refine allows_nonEmpty ⟨ha.1, fun z' hz m' hm' => ?_⟩
      cases hz
      by_cases hmm : m = m'
      · subst hmm
        exact SortedSet.score?_erase_self z m
      · rw [SortedSet.score?_erase_ne _ hmm]
        exact ha.2 z rfl m' hm'
  | delete k =>
    simp only [applyTo, Except.ok.injEq] at h
    subst h
    trivial
  | expireAt k d =>
    rcases o with _ | e <;> simp only [applyTo, Except.ok.injEq] at h <;> subst h
    · trivial
    · exact ⟨ha.1, fun z hz => ha.2 z hz⟩
  | restore k e =>
    simp only [applyTo, Except.ok.injEq] at h
    subst h
    exact hs

end WriteOp

namespace Keyspace

variable {ks ks' : Keyspace} {now : Nat} {x : Exclusion}

theorem get?_restoreRaw (ks : Keyspace) (k k' : String) (o : Option Entry) (now : Nat) :
    (ks.restoreRaw k o).get? k' now =
      if k' = k then o.filter (fun e => !e.isExpired now) else ks.get? k' now := by
  split
  · subst k'
    rw [get?_eq_filter, raw?_restoreRaw_self]
  · rw [get?_eq_filter, get?_eq_filter, raw?_restoreRaw_ne _ _ (Ne.symm ‹_›)]

/-- A write that spares an exclusion keeps it. -/
theorem Excludes.apply (hx : ks.Excludes now x) {op : WriteOp} (hs : op.Spares x)
    (h : ks.apply op now = .ok ks') : ks'.Excludes now x := by
  rw [apply_eq_applyTo] at h
  cases ho : op.applyTo (ks.get? op.key now) with
  | error e => simp [ho, Except.map] at h
  | ok o =>
    simp only [ho, Except.map, Except.ok.injEq] at h
    subst h
    intro k
    rw [get?_restoreRaw]
    split
    · subst k
      exact (WriteOp.allows_applyTo (hx _) hs ho).filter _
    · exact hx k

/-- A deletion leaves no live entry at its key. -/
theorem get?_of_apply_delete {k : String} (h : ks.apply (.delete k) now = .ok ks') :
    ks'.get? k now = none := by
  simp only [apply, Except.ok.injEq] at h
  subst h
  simp [get?_eq_filter]

/-- A member removal leaves the member unranked at its key. -/
theorem not_ranks_of_apply_zrem {k m : String} (h : ks.apply (.zrem k m) now = .ok ks') :
    ¬ ks'.Ranks now k m := by
  rw [apply_eq_applyTo] at h
  rw [ranks_iff]
  rintro ⟨e, z, hg, hz, hs⟩
  cases ho : (WriteOp.zrem k m).applyTo (ks.get? k now) with
  | error err => simp [WriteOp.key, ho, Except.map] at h
  | ok o =>
    simp only [WriteOp.key, ho, Except.map, Except.ok.injEq] at h
    subst h
    rw [get?_restoreRaw, if_pos rfl] at hg
    -- the entry left is the sorted set less the member, if anything is left
    rcases hprev : ks.get? k now with _ | ⟨_ | _ | z' | _, d⟩ <;>
      simp only [hprev, WriteOp.applyTo, Except.ok.injEq, reduceCtorEq] at ho <;> subst ho
    · cases hg
    · simp only [nonEmpty] at hg
      split at hg
      · cases hg
      · simp only [Option.filter] at hg
        split at hg
        · cases hg
          cases hz
          simp at hs
        · cases hg

end Keyspace

/-! ## Transactions -/

namespace Transaction

open Std.Do

set_option mvcgen.warning false

/-- The transaction's keyspace holds nothing the exclusion rules out, at its own time. -/
def Excludes (x : Exclusion) (t : Transaction) : Prop := t.keyspace.Excludes t.now x

variable (x : Exclusion)

/- The triples registered for `RestoresTo` are set aside in each proof: `mvcgen` would prefer
them to the ones given here. A failure needs nothing: the store rolls it back. -/

theorem write_excludes (op : WriteOp) :
    ⦃fun t => ⌜t.Excludes x ∧ op.Spares x⌝⦄ write op
    ⦃post⟨fun _ t => ⌜t.Excludes x⌝, fun _ _ => ⌜True⌝⟩⦄ := by
  mvcgen [write, ofExcept, -write_spec]
  rename_i t hpre _ ks happly
  exact hpre.1.apply hpre.2 happly

theorem del_excludes (k : String) :
    ⦃fun t => ⌜t.Excludes x⌝⦄ del k ⦃post⟨fun _ t => ⌜t.Excludes x⌝, fun _ _ => ⌜True⌝⟩⦄ := by
  have hwrite := write_excludes x
  mvcgen [del, exists?, hwrite, -write_spec, -del_spec]

theorem expire_excludes (k : String) (seconds : Int) :
    ⦃fun t => ⌜t.Excludes x⌝⦄ expire k seconds
    ⦃post⟨fun _ t => ⌜t.Excludes x⌝, fun _ _ => ⌜True⌝⟩⦄ := by
  have hdel := del_excludes x
  have hwrite := write_excludes x
  mvcgen [expire, exists?, hdel, hwrite, -write_spec, -del_spec, -expire_spec]

theorem zrem_excludes (k m : String) :
    ⦃fun t => ⌜t.Excludes x⌝⦄ zrem k m ⦃post⟨fun _ t => ⌜t.Excludes x⌝, fun _ _ => ⌜True⌝⟩⦄ := by
  have hwrite := write_excludes x
  mvcgen [zrem, zscore_eq, ofExcept, hwrite, -write_spec, -zrem_spec]

theorem srem_excludes (k m : String) :
    ⦃fun t => ⌜t.Excludes x⌝⦄ srem k m ⦃post⟨fun _ t => ⌜t.Excludes x⌝, fun _ _ => ⌜True⌝⟩⦄ := by
  have hwrite := write_excludes x
  mvcgen [srem, sismember, set?, ofExcept, hwrite, -write_spec, -srem_spec]

theorem hset_excludes (k f v : String) :
    ⦃fun t => ⌜t.Excludes x ∧ k ∉ x.keys⌝⦄ hset k f v
    ⦃post⟨fun _ t => ⌜t.Excludes x⌝, fun _ _ => ⌜True⌝⟩⦄ := by
  have hwrite := write_excludes x
  mvcgen [hset, hget_eq, ofExcept, hwrite, -write_spec, -hset_spec]

theorem hsetnx_excludes (k f v : String) :
    ⦃fun t => ⌜t.Excludes x ∧ k ∉ x.keys⌝⦄ hsetnx k f v
    ⦃post⟨fun _ t => ⌜t.Excludes x⌝, fun _ _ => ⌜True⌝⟩⦄ := by
  have hhset := hset_excludes x
  mvcgen [hsetnx, hget_eq, ofExcept, hhset, -hset_spec, -hsetnx_spec]
  exact ‹_ ∧ _›.1

theorem sadd_excludes (k m : String) :
    ⦃fun t => ⌜t.Excludes x ∧ k ∉ x.keys⌝⦄ sadd k m
    ⦃post⟨fun _ t => ⌜t.Excludes x⌝, fun _ _ => ⌜True⌝⟩⦄ := by
  have hwrite := write_excludes x
  mvcgen [sadd, sismember, set?, ofExcept, hwrite, -write_spec, -sadd_spec]
  exact ‹_ ∧ _›.1

theorem zadd_excludes (k m : String) (score : Int) (nx : Bool) :
    ⦃fun t => ⌜t.Excludes x ∧ k ∉ x.keys ∧ (k, m) ∉ x.members⌝⦄ zadd k m score nx
    ⦃post⟨fun _ t => ⌜t.Excludes x⌝, fun _ _ => ⌜True⌝⟩⦄ := by
  have hwrite := write_excludes x
  mvcgen [zadd, zscore_eq, ofExcept, hwrite, -write_spec, -zadd_spec]
  exact ‹_ ∧ _›.1

theorem hincrby_excludes (k f : String) (delta : Int) :
    ⦃fun t => ⌜t.Excludes x ∧ k ∉ x.keys⌝⦄ hincrby k f delta
    ⦃post⟨fun _ t => ⌜t.Excludes x⌝, fun _ _ => ⌜True⌝⟩⦄ := by
  have hhset := hset_excludes x
  mvcgen [hincrby, hget_eq, ofExcept, hhset, -hset_spec, -hincrby_spec]

theorem zincrby_excludes (k m : String) (delta : Int) :
    ⦃fun t => ⌜t.Excludes x ∧ k ∉ x.keys ∧ (k, m) ∉ x.members⌝⦄ zincrby k m delta
    ⦃post⟨fun _ t => ⌜t.Excludes x⌝, fun _ _ => ⌜True⌝⟩⦄ := by
  have hwrite := write_excludes x
  mvcgen [zincrby, zscore_eq, ofExcept, hwrite, -write_spec, -zincrby_spec]

variable {x} in
/-- A key that holds an entry is not excluded. -/
theorem Excludes.not_mem_of_contains {t : Transaction} (h : t.Excludes x) {k : String}
    (hc : t.keyspace.contains k t.now = true) : k ∉ x.keys :=
  Keyspace.Excludes.not_mem_keys h hc

variable {x} in
/-- A member whose score reads back is ranked, so neither it nor its key is excluded. -/
theorem Excludes.not_mem_of_memberScore? {t : Transaction} (h : t.Excludes x) {k m : String}
    {o : Option Int} (hs : t.keyspace.memberScore? t.now k m = .ok o) (ho : o.isSome = true) :
    k ∉ x.keys ∧ (k, m) ∉ x.members := by
  obtain ⟨s, rfl⟩ := Option.isSome_iff_exists.1 ho
  exact Keyspace.Excludes.not_mem_of_ranks h ⟨s, hs⟩

/-- `DEL` leaves no entry at its key. -/
theorem del_clears (k : String) :
    ⦃fun t => ⌜t.Excludes x⌝⦄ del k
    ⦃post⟨fun _ t => ⌜t.Excludes (x ⊔ .key k)⌝, fun _ _ => ⌜True⌝⟩⦄ := by
  mvcgen [del, exists?, write, ofExcept, -write_spec, -del_spec]
  · rename_i t hx habsent
    unfold Excludes at hx ⊢
    refine Keyspace.excludes_sup.2 ⟨hx, Keyspace.excludes_key.2 ?_⟩
    simpa [Keyspace.contains] using habsent
  · rename_i t hx _ _ ks happly
    unfold Excludes at hx ⊢
    exact Keyspace.excludes_sup.2 ⟨hx.apply (show (WriteOp.delete k).Spares x from trivial) happly,
      Keyspace.excludes_key.2 (Keyspace.get?_of_apply_delete happly)⟩

/-- `ZREM` leaves no such member at its key. -/
theorem zrem_clears (k m : String) :
    ⦃fun t => ⌜t.Excludes x⌝⦄ zrem k m
    ⦃post⟨fun _ t => ⌜t.Excludes (x ⊔ .member k m)⌝, fun _ _ => ⌜True⌝⟩⦄ := by
  mvcgen [zrem, zscore_eq, write, ofExcept, -write_spec, -zrem_spec]
  · rename_i t hx o hread hnone
    unfold Excludes at hx ⊢
    refine Keyspace.excludes_sup.2 ⟨hx, Keyspace.excludes_member.2 ?_⟩
    -- the score read is the ranking's score, and it was absent
    rintro ⟨s, hs⟩
    have hscore : t.keyspace.memberScore? t.now k m = t.keyspace.scoreAt t.now k m := rfl
    rw [hscore, hs, Except.ok.injEq] at hread
    subst hread
    simp at hnone
  · rename_i t hx _ _ _ _ ks happly
    unfold Excludes at hx ⊢
    exact Keyspace.excludes_sup.2 ⟨hx.apply (show (WriteOp.zrem k m).Spares x from trivial) happly,
      Keyspace.excludes_member.2 (Keyspace.not_ranks_of_apply_zrem happly)⟩

end Transaction

/-! ## Template steps -/

namespace Invocation

/-- A slot names its key from the loop key in force alone. -/
theorem key_current (inv : Invocation) (f : Frame) (slot : KeySlot) :
    inv.key f slot = inv.key { current := f.current } slot := by
  cases slot <;> rfl

end Invocation

namespace Step

/-- A leaf step spares an exclusion when each key it may create an entry at is not excluded, and
each member it may add is not excluded either, with the loop key `cur` in force. The gated steps
and the removals spare every exclusion. -/
def Spares (inv : Invocation) (x : Exclusion) (cur : Option String) : Step → Prop
  | .hsetnx key _ _ | .hset key _ _ | .sadd key _ =>
    ∀ k, inv.key { current := cur } key = .ok k → k ∉ x.keys
  | .zadd key member _ _ => ∀ k, inv.key { current := cur } key = .ok k →
    k ∉ x.keys ∧ ∀ m, inv.value member = .ok m → (k, m) ∉ x.members
  | _ => True

end Step

namespace Template

open Std.Do Transaction

set_option mvcgen.warning false

variable (x : Exclusion)

/-- A leaf step that spares an exclusion keeps it. The existence-gated steps write to a key only
once it holds an entry, and the membership-gated ones to a member only once it is ranked; what
is live is not excluded. -/
theorem runStep_excludes (inv : Invocation) (s : Step) (f : Frame) (hs : s.IsLeaf)
    (hsp : s.Spares inv x f.current) :
    ⦃fun t => ⌜t.Excludes x⌝⦄ runStep inv s f
    ⦃post⟨fun r t => ⌜t.Excludes x ∧ r.1 = .next ∧ r.2.current = f.current⌝,
      fun _ _ => ⌜True⌝⟩⦄ := by
  cases s <;> simp only [Step.IsLeaf] at hs <;> simp only [Step.Spares] at hsp <;>
    simp only [runStep]
  case hsetnx key field value =>
    rw [← Invocation.key_current] at hsp
    have hhsetnx := hsetnx_excludes x
    mvcgen [Transaction.ofExcept, monadLift_eq_ofExcept, hhsetnx, -hsetnx_spec]
    exact ⟨‹_›, hsp _ ‹_›⟩
  case hset key field value =>
    rw [← Invocation.key_current] at hsp
    have hhset := hset_excludes x
    mvcgen [Transaction.ofExcept, monadLift_eq_ofExcept, hhset, -hset_spec]
    exact ⟨‹_›, hsp _ ‹_›⟩
  case sadd key member =>
    rw [← Invocation.key_current] at hsp
    have hsadd := sadd_excludes x
    mvcgen [Transaction.ofExcept, monadLift_eq_ofExcept, hsadd, -sadd_spec]
    exact ⟨‹_›, hsp _ ‹_›⟩
  case zadd key member score nx =>
    rw [← Invocation.key_current] at hsp
    have hzadd := zadd_excludes x
    mvcgen [Transaction.ofExcept, monadLift_eq_ofExcept, hzadd, -zadd_spec]
    rename_i t hx k hk m hm _ _
    exact ⟨hx, (hsp k hk).1, (hsp k hk).2 m hm⟩
  case hincrIfExists key field delta =>
    have hhincrby := hincrby_excludes x
    mvcgen [Transaction.ofExcept, monadLift_eq_ofExcept, Transaction.exists?, hhincrby,
      -hincrby_spec]
    exact ⟨‹_›, Excludes.not_mem_of_contains ‹_› ‹_›⟩
  case hdecrFloor key field delta =>
    have hhincrby := hincrby_excludes x
    mvcgen [Transaction.ofExcept, monadLift_eq_ofExcept, liftM_eq_ofExcept, Transaction.exists?,
      hget_eq, hhincrby, -hincrby_spec]
    -- the decrement goes ahead only where the key holds an entry
    all_goals exact ⟨‹_›, Excludes.not_mem_of_contains ‹_› (Bool.and_eq_true_iff.1 ‹(_ && _) = true›).1⟩
  case zincrIfMember key member delta =>
    have hzincrby := zincrby_excludes x
    mvcgen [Transaction.ofExcept, monadLift_eq_ofExcept, zscore_eq, hzincrby,
      -zincrby_spec]
    exact ⟨‹_›, Excludes.not_mem_of_memberScore? ‹_› ‹_› ‹_›⟩
  case zdecrFloor key member delta =>
    mvcgen [Transaction.ofExcept, monadLift_eq_ofExcept, zscore_eq]
    -- the guard is a match on the score read; a ranked member is not excluded
    rename_i t hx k _ m _ d _ o hread
    split
    next s =>
      split
      · have hzincrby := zincrby_excludes x
        mvcgen [hzincrby, -zincrby_spec]
        exact ⟨hx, hx.not_mem_of_memberScore? hread rfl⟩
      · mvcgen
    next => mvcgen
  case expire key seconds =>
    have hexpire := expire_excludes x
    mvcgen [Transaction.ofExcept, monadLift_eq_ofExcept, hexpire, -expire_spec]
  case zrem key member =>
    have hzrem := zrem_excludes x
    mvcgen [Transaction.ofExcept, monadLift_eq_ofExcept, hzrem, -zrem_spec]
  case srem key member =>
    have hsrem := srem_excludes x
    mvcgen [Transaction.ofExcept, monadLift_eq_ofExcept, hsrem, -srem_spec]
  case del key =>
    have hdel := del_excludes x
    mvcgen [Transaction.ofExcept, monadLift_eq_ofExcept, hdel, -del_spec]
  case setStatus code => mvcgen

/-- A run whose leaf steps spare an exclusion keeps it. -/
theorem run_excludes (tm : Template) (keys args : List String)
    (h : Step.ListLeaves ⟨keys, args⟩ (Step.Spares ⟨keys, args⟩ x) none tm.steps) :
    ⦃fun t => ⌜t.Excludes x⌝⦄ tm.run keys args
    ⦃post⟨fun _ t => ⌜t.Excludes x⌝, fun _ _ => ⌜True⌝⟩⦄ :=
  run_keeps (Step.Spares ⟨keys, args⟩ x) (Transaction.Excludes x) (fun _ => True)
    (fun _ _ => trivial) tm keys args (fun s f hs hsp => runStep_excludes x _ s f hs hsp) h

end Template

namespace Store

open Std.Do

/-- A catalog script run natively whose template takes an exclusion `x` to `x'` either commits a
keyspace that excludes `x'`, which it does whenever it answers, or changes nothing. -/
theorem invoke_excludes {s : Store} {now : Nat} {name : String} {keys args : List String}
    {tm : Template} {x x' : Exclusion} (hlookup : Catalog.lookup name = .ok tm)
    (hrun : ⦃fun t => ⌜t.Excludes x⌝⦄ tm.run keys args
      ⦃post⟨fun _ t => ⌜t.Excludes x'⌝, fun _ _ => ⌜True⌝⟩⦄)
    (hx : s.keyspace.Excludes now x) :
    (∀ st, (s.invoke now .native name keys args).1 = .ok st →
      (s.invoke now .native name keys args).2.keyspace.Excludes now x') ∧
    ((s.invoke now .native name keys args).2.keyspace.Excludes now x' ∨
      (s.invoke now .native name keys args).2.keyspace = s.keyspace) := by
  have hbegin : (Transaction.begin s.keyspace now).Excludes x := hx
  cases hr : (tm.run keys args).run (Transaction.begin s.keyspace now) with
  | ok a t =>
    -- the run answered: its keyspace is committed, at the time it began
    have hpost : t.Excludes x' :=
      EStateM.of_wp_run_eq (P := Transaction.Outcome (fun _ t => t.Excludes x') (fun _ _ => True))
        hr (fun _ => hrun _ hbegin)
    have hnow : t.now = now :=
      EStateM.of_wp_run_eq (P := fun r => (Transaction.afterRun r).now = now) hr
        (fun _ => Template.run_now now tm keys args _ rfl)
    have hks : (s.invoke now .native name keys args).2.keyspace = t.keyspace := by
      simp only [invoke, runNamed, hlookup, atomically, Transaction.atomically, hr,
        keyspace_maybeCheckpoint]
    have hx' : t.keyspace.Excludes now x' := hnow ▸ hpost
    rw [hks]
    exact ⟨fun _ _ => hx', .inl hx'⟩
  | error e t =>
    -- the run failed: it answers nothing and the store rolls it back
    have hrestore : Transaction.RestoresTo s.keyspace t :=
      EStateM.of_wp_run_eq (P := fun r => Transaction.RestoresTo s.keyspace (Transaction.afterRun r))
        hr (fun _ => Template.run_restoresTo s.keyspace tm keys args _ rfl)
    have hinvoke : s.invoke now .native name keys args =
        (.error e, { s with keyspace := t.rollback }) := by
      simp only [invoke, runNamed, hlookup, atomically, Transaction.atomically, hr, Except.map,
        Except.bind]
    rw [hinvoke]
    refine ⟨fun _ h => ?_, .inr hrestore⟩
    cases h

end Store

end CounterCache
