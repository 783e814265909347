import CounterCache.Store.Transaction

/-!
# An undo note takes its write back

Before a transaction applies a write it notes how to take the write back (`Undo.forWrite`):
the key's whole entry, or only the hash field, sorted-set member, set member or deadline the
write touches. This module proves the note exact. Applied to the keyspace the write produced, it
gives back the keyspace from before the write, entry for entry, expired entries included, for
every write the keyspace accepts, with one exception: a removal from a live container that is
already empty drops the key, and the field-level note then finds nothing to put back.

The proof has three parts: a write changes only its own key (`apply_agreeOff`); a note that
puts back the whole entry therefore restores the keyspace (`restoreRaw_of_agreeOff`); and a
field-, member- or deadline-level note is taken only over a live container of the write's type
(`forWrite_hfield` and its siblings invert the choice), which the write leaves in place with
only that field, member or deadline changed.

Main statement: `apply_forWrite`.
-/

namespace CounterCache

namespace WriteOp

/-- The operation removes a hash field or a member. -/
def removes : WriteOp → Bool
  | .hdel .. | .zrem .. | .srem .. => true
  | _ => false

/-- The operation puts back a whole entry, as a checkpoint image does; the calls of a transaction
never write one. -/
def isRestore : WriteOp → Bool
  | .restore .. => true
  | _ => false

end WriteOp

/-- A removal of a field or member from a live container that is already empty: the one write
whose note cannot take it back. -/
def RemovesFromEmpty (ks : Keyspace) (op : WriteOp) (now : Nat) : Prop :=
  op.removes = true ∧ ∃ e, ks.get? op.key now = some e ∧ e.value.isEmptyContainer = true

namespace Keyspace

/-- `ks'` stores what `ks` stores under every key but `k`. -/
def AgreeOff (k : String) (ks ks' : Keyspace) : Prop :=
  ∀ k2, k ≠ k2 → ks'.raw? k2 = ks.raw? k2

theorem AgreeOff.refl (k : String) (ks : Keyspace) : AgreeOff k ks ks := fun _ _ => rfl

theorem AgreeOff.trans {k : String} {ks ks' ks'' : Keyspace} (h₁ : AgreeOff k ks ks')
    (h₂ : AgreeOff k ks' ks'') : AgreeOff k ks ks'' :=
  fun k2 hk => (h₂ k2 hk).trans (h₁ k2 hk)

theorem agreeOff_put (ks : Keyspace) (k : String) (e : Entry) : AgreeOff k ks (ks.put k e) :=
  fun _ hk => raw?_put_ne ks e hk

theorem agreeOff_remove (ks : Keyspace) (k : String) : AgreeOff k ks (ks.remove k) :=
  fun _ hk => raw?_remove_ne ks hk

theorem agreeOff_restoreRaw (ks : Keyspace) (k : String) (prev : Option Entry) :
    AgreeOff k ks (ks.restoreRaw k prev) :=
  fun _ hk => raw?_restoreRaw_ne ks prev hk

theorem agreeOff_putOrRemove (ks : Keyspace) (k : String) (e : Entry) :
    AgreeOff k ks (ks.putOrRemove k e) := by
  unfold putOrRemove
  split
  · exact agreeOff_remove ks k
  · exact agreeOff_put ks k e

theorem agreeOff_evictExpired (ks : Keyspace) (k : String) (now : Nat) :
    AgreeOff k ks (ks.evictExpired k now) := by
  unfold evictExpired
  split
  · split
    · exact agreeOff_remove ks k
    · exact AgreeOff.refl k ks
  · exact AgreeOff.refl k ks

/-- Putting back the entry a key had before a change confined to that key undoes the change. -/
theorem restoreRaw_of_agreeOff {k : String} {ks ks' : Keyspace} (h : AgreeOff k ks ks') :
    ks'.restoreRaw k (ks.raw? k) = ks := by
  apply ext_raw?
  intro k2
  by_cases hk : k = k2
  · subst hk
    exact raw?_restoreRaw_self ks' k _
  · rw [raw?_restoreRaw_ne ks' _ hk]
    exact h k2 hk

/-- A write changes only the entry of its own key. -/
theorem apply_agreeOff {ks ks' : Keyspace} {op : WriteOp} {now : Nat}
    (h : ks.apply op now = .ok ks') : AgreeOff op.key ks ks' := by
  have hev := agreeOff_evictExpired ks op.key now
  -- every successful branch of `apply` is the evicted keyspace, changed at most at the key
  cases op with
  | set k v | delete k | restore k e =>
    simp only [apply, Except.ok.injEq] at h
    subst h
    first
      | exact hev.trans (agreeOff_put _ _ _)
      | exact hev.trans (agreeOff_remove _ _)
  | hset k f v | zset k f v | sadd k f =>
    simp only [apply] at h
    split at h <;> simp only [reduceCtorEq, Except.ok.injEq] at h <;> subst h <;>
      exact hev.trans (agreeOff_put _ _ _)
  | hdel k f | zrem k f | srem k f =>
    simp only [apply] at h
    split at h <;> simp only [reduceCtorEq, Except.ok.injEq] at h <;> subst h
    · exact hev
    · exact hev.trans (agreeOff_putOrRemove _ _ _)
  | expireAt k at? =>
    simp only [apply] at h
    split at h <;> simp only [Except.ok.injEq] at h <;> subst h
    · exact hev
    · exact hev.trans (agreeOff_put _ _ _)

/-- A live entry is not evicted. -/
theorem evictExpired_of_live {ks : Keyspace} {k : String} {e : Entry} {now : Nat}
    (hraw : ks.raw? k = some e) (hlive : e.isExpired now = false) : ks.evictExpired k now = ks := by
  simp [evictExpired, hraw, hlive]

theorem get?_of_live {ks : Keyspace} {k : String} {e : Entry} {now : Nat}
    (hraw : ks.raw? k = some e) (hlive : e.isExpired now = false) : ks.get? k now = some e := by
  simp [get?, hraw, hlive]

/-- A container that keeps something after a removal is stored, not dropped. -/
theorem putOrRemove_of_nonempty (ks : Keyspace) (k : String) {e : Entry}
    (h : e.value.isEmptyContainer = false) : ks.putOrRemove k e = ks.put k e := by
  simp [putOrRemove, h]

/-! Writes to a key whose entry is live act on that entry, with nothing evicted first. -/

section LiveWrites

variable {ks : Keyspace} {k : String} {d : Option Nat} {now : Nat}

theorem apply_hset_of_live {hs : KeyMap String} (hraw : ks.raw? k = some ⟨.hash hs, d⟩)
    (hlive : (Entry.mk (.hash hs) d).isExpired now = false) (f v : String) :
    ks.apply (.hset k f v) now = .ok (ks.put k ⟨.hash (hs.insert f v), d⟩) := by
  unfold apply WriteOp.key
  simp only [evictExpired_of_live hraw hlive, hraw]

theorem apply_hdel_of_live {hs : KeyMap String} {f : String}
    (hraw : ks.raw? k = some ⟨.hash hs, d⟩)
    (hlive : (Entry.mk (.hash hs) d).isExpired now = false) (hne : (hs.erase f).isEmpty = false) :
    ks.apply (.hdel k f) now = .ok (ks.put k ⟨.hash (hs.erase f), d⟩) := by
  unfold apply WriteOp.key
  simp only [evictExpired_of_live hraw hlive, hraw,
    putOrRemove_of_nonempty (e := ⟨.hash (hs.erase f), d⟩) _ _ hne]

theorem apply_zset_of_live {z : SortedSet} (hraw : ks.raw? k = some ⟨.zset z, d⟩)
    (hlive : (Entry.mk (.zset z) d).isExpired now = false) (m : String) (sc : Int) :
    ks.apply (.zset k m sc) now = .ok (ks.put k ⟨.zset (z.insert m sc), d⟩) := by
  unfold apply WriteOp.key
  simp only [evictExpired_of_live hraw hlive, hraw]

theorem apply_zrem_of_live {z : SortedSet} {m : String} (hraw : ks.raw? k = some ⟨.zset z, d⟩)
    (hlive : (Entry.mk (.zset z) d).isExpired now = false) (hne : (z.erase m).isEmpty = false) :
    ks.apply (.zrem k m) now = .ok (ks.put k ⟨.zset (z.erase m), d⟩) := by
  unfold apply WriteOp.key
  simp only [evictExpired_of_live hraw hlive, hraw,
    putOrRemove_of_nonempty (e := ⟨.zset (z.erase m), d⟩) _ _ hne]

theorem apply_sadd_of_live {st : KeySet} (hraw : ks.raw? k = some ⟨.set st, d⟩)
    (hlive : (Entry.mk (.set st) d).isExpired now = false) (m : String) :
    ks.apply (.sadd k m) now = .ok (ks.put k ⟨.set (st.insert m), d⟩) := by
  unfold apply WriteOp.key
  simp only [evictExpired_of_live hraw hlive, hraw]

theorem apply_srem_of_live {st : KeySet} {m : String} (hraw : ks.raw? k = some ⟨.set st, d⟩)
    (hlive : (Entry.mk (.set st) d).isExpired now = false) (hne : (st.erase m).isEmpty = false) :
    ks.apply (.srem k m) now = .ok (ks.put k ⟨.set (st.erase m), d⟩) := by
  unfold apply WriteOp.key
  simp only [evictExpired_of_live hraw hlive, hraw,
    putOrRemove_of_nonempty (e := ⟨.set (st.erase m), d⟩) _ _ hne]

theorem apply_expireAt_of_live {e : Entry} (hraw : ks.raw? k = some e)
    (hlive : e.isExpired now = false) (at? : Option Nat) :
    ks.apply (.expireAt k at?) now = .ok (ks.put k { e with expiresAt := at? }) := by
  unfold apply WriteOp.key
  simp only [evictExpired_of_live hraw hlive, hraw]

end LiveWrites

end Keyspace

/-- Dropping the entries of one key from a list of entries with distinct keys leaves something
when the list has two entries or more. -/
theorem isEmpty_filter_of_one_lt {β : Type} (key : β → String) {l : List β}
    (hl : l.Pairwise fun a b => key a ≠ key b) (h2 : 1 < l.length) (x : String) :
    (l.filter fun a => key a != x).isEmpty = false := by
  match l, hl, h2 with
  | a :: b :: rest, hl, _ =>
    have hab : key a ≠ key b := (List.pairwise_cons.1 hl).1 b List.mem_cons_self
    rw [Bool.eq_false_iff]
    intro hemp
    rw [List.isEmpty_iff, List.filter_eq_nil_iff] at hemp
    have ha : key a = x := by simpa using hemp a List.mem_cons_self
    have hb : key b = x := by simpa using hemp b (List.mem_cons_of_mem _ List.mem_cons_self)
    exact hab (ha.trans hb.symm)

/-- The removal a field-level note is taken for leaves its container non-empty. -/
theorem KeyMap.isEmpty_erase_of_guard {hs : KeyMap String} {f : String}
    (hguard : (hs.size > 1 || !hs.contains f) = true) (hne : hs.isEmpty = false) :
    (hs.erase f).isEmpty = false := by
  rcases Bool.or_eq_true_iff.1 hguard with hsize | habsent
  · exact isEmpty_filter_of_one_lt (fun e : String × String => e.1)
      (hs.ascending.imp String.ne_of_lt) (by simpa [KeyMap.size] using hsize) f
  · have hnone : hs.find? f = none := by simpa [KeyMap.contains] using habsent
    rw [KeyMap.erase_of_find?_none hnone]
    exact hne

theorem SortedSet.isEmpty_erase_of_guard {z : SortedSet} {m : String}
    (hguard : (z.card > 1 || (z.score? m).isNone) = true) (hne : z.isEmpty = false) :
    (z.erase m).isEmpty = false := by
  rcases Bool.or_eq_true_iff.1 hguard with hsize | habsent
  · exact isEmpty_filter_of_one_lt (fun e : Scored => e.1) (z.ordered.imp And.right)
      (by simpa [SortedSet.card] using hsize) m
  · have hnone : z.score? m = none := by simpa using habsent
    rw [SortedSet.erase_of_score?_none hnone]
    exact hne

theorem KeySet.isEmpty_erase_of_guard {st : KeySet} {m : String}
    (hguard : (st.size > 1 || !st.contains m) = true) (hne : st.isEmpty = false) :
    (st.erase m).isEmpty = false := by
  rcases Bool.or_eq_true_iff.1 hguard with hsize | habsent
  · exact isEmpty_filter_of_one_lt id (st.ascending.imp String.ne_of_lt)
      (by simpa [KeySet.size] using hsize) m
  · rw [KeySet.erase_of_not_contains (by simpa using habsent)]
    exact hne

namespace Undo

/-! ## Which note a write gets -/

/-- A whole-entry note holds the entry the key had. -/
theorem forWrite_key {cur : Option Entry} {op : WriteOp} {now : Nat} {k : String}
    {prev : Option Entry} (h : forWrite cur op now = .key k prev) : k = op.key ∧ prev = cur := by
  unfold forWrite at h
  rcases cur with _ | e
  · cases h
    exact ⟨rfl, rfl⟩
  · cases hexp : e.isExpired now
    · obtain ⟨v, d⟩ := e
      -- split every match before simplifying, so that each one is on a constructor
      cases op <;> cases v <;> simp only [hexp, Bool.false_eq_true, ↓reduceIte] at h <;>
        (try split at h) <;> simp only [key.injEq, reduceCtorEq] at h <;>
        exact ⟨h.1.symm, h.2.symm⟩
    · simp only [hexp, ↓reduceIte, key.injEq] at h
      exact ⟨h.1.symm, h.2.symm⟩

/-- A hash-field note is taken only for a field write to a live hash, and for a removal only
when the hash keeps another field or lacks this one. -/
theorem forWrite_hfield {cur : Option Entry} {op : WriteOp} {now : Nat} {k f : String}
    {prev : Option String} (h : forWrite cur op now = .hfield k f prev) :
    ∃ hs d, cur = some ⟨.hash hs, d⟩ ∧ (Entry.mk (.hash hs) d).isExpired now = false ∧
      prev = hs.find? f ∧
      ((∃ v, op = .hset k f v) ∨ (op = .hdel k f ∧ (hs.size > 1 || !hs.contains f) = true)) := by
  unfold forWrite at h
  rcases cur with _ | ⟨v, d⟩
  · cases h
  · cases hlive : (Entry.mk v d).isExpired now
    · cases op <;> cases v <;> simp only [hlive, Bool.false_eq_true, ↓reduceIte] at h <;>
        (try split at h) <;> simp only [hfield.injEq, reduceCtorEq] at h
      · obtain ⟨rfl, rfl, rfl⟩ := h
        exact ⟨_, d, rfl, hlive, rfl, .inl ⟨_, rfl⟩⟩
      · obtain ⟨rfl, rfl, rfl⟩ := h
        rename_i hguard
        exact ⟨_, d, rfl, hlive, rfl, .inr ⟨rfl, hguard⟩⟩
    · simp only [hlive, ↓reduceIte, ↓reduceCtorEq] at h

/-- A sorted-set member note is taken only for a member write to a live sorted set, and for a
removal only when the set keeps another member or lacks this one. -/
theorem forWrite_zmember {cur : Option Entry} {op : WriteOp} {now : Nat} {k m : String}
    {prev : Option Int} (h : forWrite cur op now = .zmember k m prev) :
    ∃ z d, cur = some ⟨.zset z, d⟩ ∧ (Entry.mk (.zset z) d).isExpired now = false ∧
      prev = z.score? m ∧
      ((∃ s, op = .zset k m s) ∨ (op = .zrem k m ∧ (z.card > 1 || (z.score? m).isNone) = true)) := by
  unfold forWrite at h
  rcases cur with _ | ⟨v, d⟩
  · cases h
  · cases hlive : (Entry.mk v d).isExpired now
    · cases op <;> cases v <;> simp only [hlive, Bool.false_eq_true, ↓reduceIte] at h <;>
        (try split at h) <;> simp only [zmember.injEq, reduceCtorEq] at h
      · obtain ⟨rfl, rfl, rfl⟩ := h
        exact ⟨_, d, rfl, hlive, rfl, .inl ⟨_, rfl⟩⟩
      · obtain ⟨rfl, rfl, rfl⟩ := h
        rename_i hguard
        exact ⟨_, d, rfl, hlive, rfl, .inr ⟨rfl, hguard⟩⟩
    · simp only [hlive, ↓reduceIte, ↓reduceCtorEq] at h

/-- A set member note is taken only for a member write to a live set, and for a removal only
when the set keeps another member or lacks this one. -/
theorem forWrite_smember {cur : Option Entry} {op : WriteOp} {now : Nat} {k m : String}
    {was : Bool} (h : forWrite cur op now = .smember k m was) :
    ∃ st d, cur = some ⟨.set st, d⟩ ∧ (Entry.mk (.set st) d).isExpired now = false ∧
      was = st.contains m ∧
      (op = .sadd k m ∨ (op = .srem k m ∧ (st.size > 1 || !st.contains m) = true)) := by
  unfold forWrite at h
  rcases cur with _ | ⟨v, d⟩
  · cases h
  · cases hlive : (Entry.mk v d).isExpired now
    · cases op <;> cases v <;> simp only [hlive, Bool.false_eq_true, ↓reduceIte] at h <;>
        (try split at h) <;> simp only [smember.injEq, reduceCtorEq] at h
      · obtain ⟨rfl, rfl, rfl⟩ := h
        exact ⟨_, d, rfl, hlive, rfl, .inl rfl⟩
      · obtain ⟨rfl, rfl, rfl⟩ := h
        rename_i hguard
        exact ⟨_, d, rfl, hlive, rfl, .inr ⟨rfl, hguard⟩⟩
    · simp only [hlive, ↓reduceIte, ↓reduceCtorEq] at h

/-- A deadline note is taken only for a deadline write to a live entry. -/
theorem forWrite_expiry {cur : Option Entry} {op : WriteOp} {now : Nat} {k : String}
    {prev : Option Nat} (h : forWrite cur op now = .expiry k prev) :
    ∃ e, cur = some e ∧ e.isExpired now = false ∧ prev = e.expiresAt ∧
      ∃ at?, op = .expireAt k at? := by
  unfold forWrite at h
  rcases cur with _ | ⟨v, d⟩
  · cases h
  · cases hlive : (Entry.mk v d).isExpired now
    · cases op <;> cases v <;> simp only [hlive, Bool.false_eq_true, ↓reduceIte] at h <;>
        (try split at h) <;> simp only [expiry.injEq, reduceCtorEq] at h
      all_goals
        obtain ⟨rfl, rfl⟩ := h
        exact ⟨_, rfl, hlive, rfl, _, rfl⟩
    · simp only [hlive, ↓reduceIte, ↓reduceCtorEq] at h

/-! ## A field-level note over the container a write left -/

theorem apply_hfield_put (ks : Keyspace) (k f : String) (hs : KeyMap String) (d : Option Nat)
    (prev : Option String) :
    (hfield k f prev).apply (ks.put k ⟨.hash hs, d⟩) =
      ks.put k ⟨.hash (prev.elim (hs.erase f) (hs.insert f ·)), d⟩ := by
  unfold apply
  cases prev <;> simp

theorem apply_zmember_put (ks : Keyspace) (k m : String) (z : SortedSet) (d : Option Nat)
    (prev : Option Int) :
    (zmember k m prev).apply (ks.put k ⟨.zset z, d⟩) =
      ks.put k ⟨.zset (prev.elim (z.erase m) (z.insert m ·)), d⟩ := by
  unfold apply
  cases prev <;> simp

theorem apply_smember_put (ks : Keyspace) (k m : String) (st : KeySet) (d : Option Nat)
    (was : Bool) :
    (smember k m was).apply (ks.put k ⟨.set st, d⟩) =
      ks.put k ⟨.set (if was then st.insert m else st.erase m), d⟩ := by
  unfold apply
  simp

theorem apply_expiry_put (ks : Keyspace) (k : String) (e : Entry) (prev : Option Nat) :
    (expiry k prev).apply (ks.put k e) = ks.put k { e with expiresAt := prev } := by
  unfold apply
  simp

/-! ## The note is exact -/

/-- A removal that the keyspace accepts and that is not from an empty container leaves a
container it started from non-empty. -/
theorem nonempty_of_safe {ks : Keyspace} {op : WriteOp} {now : Nat} {e : Entry}
    (hsafe : ¬ RemovesFromEmpty ks op now) (hrm : op.removes = true)
    (hget : ks.get? op.key now = some e) : e.value.isEmptyContainer = false := by
  cases hempty : e.value.isEmptyContainer with
  | false => rfl
  | true => exact absurd ⟨hrm, e, hget, hempty⟩ hsafe

section Exact

variable {ks ks' : Keyspace} {op : WriteOp} {now : Nat}

theorem apply_forWrite_hfield {k f : String} {prev : Option String}
    (happly : ks.apply op now = .ok ks') (hsafe : ¬ RemovesFromEmpty ks op now)
    (hu : forWrite (ks.raw? op.key) op now = .hfield k f prev) : (hfield k f prev).apply ks' = ks := by
  obtain ⟨hs, d, hcur, hlive, rfl, hop⟩ := forWrite_hfield hu
  rcases hop with ⟨v, rfl⟩ | ⟨rfl, hguard⟩
  · -- a field write: the note puts the old value back, or erases a field the write added
    change ks.raw? k = _ at hcur
    rw [Keyspace.apply_hset_of_live hcur hlive, Except.ok.injEq] at happly
    subst happly
    rw [apply_hfield_put]
    cases hf : hs.find? f with
    | some v0 =>
      rw [Option.elim_some, KeyMap.insert_insert, KeyMap.insert_of_find? hf]
      exact Keyspace.put_of_raw? hcur
    | none =>
      rw [Option.elim_none, KeyMap.erase_insert_of_find?_none v hf]
      exact Keyspace.put_of_raw? hcur
  · -- a removal the note's guard allows leaves the hash non-empty, so the hash stays stored
    have hne := nonempty_of_safe hsafe rfl (Keyspace.get?_of_live hcur hlive)
    change ks.raw? k = _ at hcur
    rw [Keyspace.apply_hdel_of_live hcur hlive (KeyMap.isEmpty_erase_of_guard hguard hne),
      Except.ok.injEq] at happly
    subst happly
    rw [apply_hfield_put]
    cases hf : hs.find? f with
    | some v0 =>
      rw [Option.elim_some, KeyMap.insert_erase_of_find? hf]
      exact Keyspace.put_of_raw? hcur
    | none =>
      rw [Option.elim_none, KeyMap.erase_of_find?_none hf, KeyMap.erase_of_find?_none hf]
      exact Keyspace.put_of_raw? hcur

theorem apply_forWrite_zmember {k m : String} {prev : Option Int}
    (happly : ks.apply op now = .ok ks') (hsafe : ¬ RemovesFromEmpty ks op now)
    (hu : forWrite (ks.raw? op.key) op now = .zmember k m prev) :
    (zmember k m prev).apply ks' = ks := by
  obtain ⟨z, d, hcur, hlive, rfl, hop⟩ := forWrite_zmember hu
  rcases hop with ⟨sc, rfl⟩ | ⟨rfl, hguard⟩
  · change ks.raw? k = _ at hcur
    rw [Keyspace.apply_zset_of_live hcur hlive, Except.ok.injEq] at happly
    subst happly
    rw [apply_zmember_put]
    cases hm : z.score? m with
    | some s0 =>
      rw [Option.elim_some, SortedSet.insert_insert, SortedSet.insert_of_score? hm]
      exact Keyspace.put_of_raw? hcur
    | none =>
      rw [Option.elim_none, SortedSet.erase_insert_of_score?_none sc hm]
      exact Keyspace.put_of_raw? hcur
  · have hne := nonempty_of_safe hsafe rfl (Keyspace.get?_of_live hcur hlive)
    change ks.raw? k = _ at hcur
    rw [Keyspace.apply_zrem_of_live hcur hlive (SortedSet.isEmpty_erase_of_guard hguard hne),
      Except.ok.injEq] at happly
    subst happly
    rw [apply_zmember_put]
    cases hm : z.score? m with
    | some s0 =>
      rw [Option.elim_some, SortedSet.insert_erase_of_score? hm]
      exact Keyspace.put_of_raw? hcur
    | none =>
      rw [Option.elim_none, SortedSet.erase_of_score?_none hm, SortedSet.erase_of_score?_none hm]
      exact Keyspace.put_of_raw? hcur

theorem apply_forWrite_smember {k m : String} {was : Bool}
    (happly : ks.apply op now = .ok ks') (hsafe : ¬ RemovesFromEmpty ks op now)
    (hu : forWrite (ks.raw? op.key) op now = .smember k m was) :
    (smember k m was).apply ks' = ks := by
  obtain ⟨st, d, hcur, hlive, rfl, hop⟩ := forWrite_smember hu
  rcases hop with rfl | ⟨rfl, hguard⟩
  · change ks.raw? k = _ at hcur
    rw [Keyspace.apply_sadd_of_live hcur hlive, Except.ok.injEq] at happly
    subst happly
    rw [apply_smember_put]
    cases hm : st.contains m with
    | true =>
      rw [if_pos rfl, KeySet.insert_of_contains hm, KeySet.insert_of_contains hm]
      exact Keyspace.put_of_raw? hcur
    | false =>
      rw [if_neg Bool.false_ne_true, KeySet.erase_insert_of_not_contains hm]
      exact Keyspace.put_of_raw? hcur
  · have hne := nonempty_of_safe hsafe rfl (Keyspace.get?_of_live hcur hlive)
    change ks.raw? k = _ at hcur
    rw [Keyspace.apply_srem_of_live hcur hlive (KeySet.isEmpty_erase_of_guard hguard hne),
      Except.ok.injEq] at happly
    subst happly
    rw [apply_smember_put]
    cases hm : st.contains m with
    | true =>
      rw [if_pos rfl, KeySet.insert_erase_of_contains hm]
      exact Keyspace.put_of_raw? hcur
    | false =>
      rw [if_neg Bool.false_ne_true, KeySet.erase_of_not_contains hm,
        KeySet.erase_of_not_contains hm]
      exact Keyspace.put_of_raw? hcur

theorem apply_forWrite_expiry {k : String} {prev : Option Nat}
    (happly : ks.apply op now = .ok ks')
    (hu : forWrite (ks.raw? op.key) op now = .expiry k prev) : (expiry k prev).apply ks' = ks := by
  obtain ⟨e, hcur, hlive, rfl, at?, rfl⟩ := forWrite_expiry hu
  change ks.raw? k = _ at hcur
  rw [Keyspace.apply_expireAt_of_live hcur hlive, Except.ok.injEq] at happly
  subst happly
  rw [apply_expiry_put]
  exact Keyspace.put_of_raw? hcur

/-- The note taken before a write, applied to the keyspace the write produced, gives back the
keyspace from before the write. -/
theorem apply_forWrite (happly : ks.apply op now = .ok ks') (hsafe : ¬ RemovesFromEmpty ks op now) :
    (forWrite (ks.raw? op.key) op now).apply ks' = ks := by
  cases hu : forWrite (ks.raw? op.key) op now with
  | key k prev =>
    -- a whole-entry note: the write changed nothing but its own key
    obtain ⟨rfl, rfl⟩ := forWrite_key hu
    exact Keyspace.restoreRaw_of_agreeOff (Keyspace.apply_agreeOff happly)
  | hfield k f prev => exact apply_forWrite_hfield happly hsafe hu
  | zmember k m prev => exact apply_forWrite_zmember happly hsafe hu
  | smember k m was => exact apply_forWrite_smember happly hsafe hu
  | expiry k prev => exact apply_forWrite_expiry happly hu

end Exact

end Undo

end CounterCache
