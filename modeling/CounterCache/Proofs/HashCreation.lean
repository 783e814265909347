import Mathlib
import CounterCache.Proofs.ContentRemoval

/-!
# Where a script may create a hash

A counter record lives in the cache as a hash. Only a few scripts may materialize one: creating
content, which writes the content's counter hash; a comment, which writes its own counter hash;
registering a user; and repopulating a record from the system of record. Every other script of
the catalog changes a hash only where it finds one.

`Keyspace.HashFree ks now S` says that no key of `S` holds a live hash. A write keeps it unless
it sets a field at a key of `S` (`WriteOp.SparesHashes`). The gated steps keep it whatever `S`
is: they set a field only after finding the key live, and a live key of `S` is not a hash, so the
write fails on its type. The steps that set a field unconditionally must aim outside `S`
(`Step.SparesHashes`); in the republish mode of content creation the one such step runs only
under a condition that the key is live.

Main statement: `gated_templates_create_no_hash`. It also says that a membership-gated step,
which moves a member's score, never adds a member to a sorted set.
-/

namespace CounterCache

/-! ## Hashes in a keyspace -/

namespace Entry

/-- The entry is a hash. -/
def IsHash (o : Option Entry) : Prop := ∃ e h, o = some e ∧ e.value = .hash h

theorem isHash_filter {o : Option Entry} {p : Entry → Bool} (h : IsHash (o.filter p)) :
    IsHash o := by
  obtain ⟨e, hh, he, hv⟩ := h
  exact ⟨e, hh, (Option.filter_eq_some_iff.1 he).1, hv⟩

end Entry

namespace Keyspace

/-- The key holds a live hash. -/
def HoldsHash (ks : Keyspace) (now : Nat) (k : String) : Prop := Entry.IsHash (ks.get? k now)

/-- No key of `S` holds a live hash. -/
def HashFree (ks : Keyspace) (now : Nat) (S : Set String) : Prop :=
  ∀ k ∈ S, ¬ ks.HoldsHash now k

variable {ks ks' : Keyspace} {now : Nat} {S : Set String} {k : String}

/-- A live key that reads as a hash holds one. -/
theorem holdsHash_of_hash? (hc : ks.contains k now = true) {o : Option (KeyMap String)}
    (h : ks.hash? k now = .ok o) : ks.HoldsHash now k := by
  obtain ⟨e, he⟩ := Option.isSome_iff_exists.1 hc
  unfold hash? at h
  rw [he, Option.map_some] at h
  cases hv : e.value with
  | hash m => exact ⟨e, m, he, hv⟩
  | str _ | zset _ | set _ => simp [hv] at h

/-- A live key whose field reads holds a hash. -/
theorem holdsHash_of_fieldText? (hc : ks.contains k now = true) {f : String} {o : Option String}
    (h : ks.fieldText? now k f = .ok o) : ks.HoldsHash now k := by
  unfold fieldText? at h
  cases hh : ks.hash? k now with
  | error e => simp [hh, Except.map] at h
  | ok m => exact holdsHash_of_hash? hc hh

/-- Keys that hold nothing live hold no hash. -/
theorem hashFree_of_absent (h : ∀ k ∈ S, ks.get? k now = none) : ks.HashFree now S := by
  intro k hk ⟨e, m, he, _⟩
  rw [h k hk] at he
  cases he

end Keyspace

namespace WriteOp

/-- The write creates no hash at a key of `S`: only setting a field, or restoring a whole hash,
creates one. -/
def SparesHashes (S : Set String) : WriteOp → Prop
  | .hset k _ _ => k ∉ S
  | .restore k e => k ∉ S ∨ ¬ Entry.IsHash (some e)
  | _ => True

/-- A write leaves a hash under its key only if it found one there, set a field or restored a
hash. -/
theorem isHash_applyTo {op : WriteOp} {o o' : Option Entry} (happ : op.applyTo o = .ok o')
    (hh : Entry.IsHash o') :
    Entry.IsHash o ∨ (∃ f v, op = .hset op.key f v) ∨
      ∃ e, op = .restore op.key e ∧ Entry.IsHash (some e) := by
  obtain ⟨e', h', rfl, hv⟩ := hh
  cases op with
  | hset k f v => exact .inr (.inl ⟨f, v, rfl⟩)
  | restore k e =>
    simp only [applyTo, Except.ok.injEq] at happ
    exact .inr (.inr ⟨e, rfl, e', h', happ, hv⟩)
  | hdel k f =>
    -- a field removal keeps the hash it found, or leaves nothing
    rcases o with _ | ⟨_ | h | _ | _, d⟩ <;>
      simp only [applyTo, Except.ok.injEq, reduceCtorEq] at happ
    exact .inl ⟨⟨.hash h, d⟩, h, rfl, rfl⟩
  | expireAt k at? =>
    rcases o with _ | e <;> simp only [applyTo, Except.ok.injEq, reduceCtorEq,
      Option.some.injEq] at happ
    subst happ
    exact .inl ⟨e, h', rfl, hv⟩
  | set k v | zset k m s | sadd k m | delete k =>
    -- these leave a string or a container of their own type, or nothing
    exfalso
    rcases o with _ | ⟨_ | _ | _ | _, d⟩ <;>
      simp only [applyTo, Except.ok.injEq, reduceCtorEq, Option.some.injEq] at happ <;>
      subst happ <;> simp at hv
  | zrem k m | srem k m =>
    -- a member removal keeps its container, or leaves nothing
    exfalso
    rcases o with _ | ⟨_ | _ | _ | _, d⟩ <;>
      simp only [applyTo, Except.ok.injEq, reduceCtorEq, Keyspace.nonEmpty] at happ
    split at happ
    · cases happ
    · simp only [Option.some.injEq] at happ
      subst happ
      simp at hv

end WriteOp

namespace Keyspace

variable {ks ks' : Keyspace} {now : Nat} {S : Set String}

/-- A write that spares the keys of `S` leaves them without a hash. -/
theorem HashFree.apply (hx : ks.HashFree now S) {op : WriteOp} (hs : op.SparesHashes S)
    (h : ks.apply op now = .ok ks') : ks'.HashFree now S := by
  rw [apply_eq_applyTo] at h
  cases ho : op.applyTo (ks.get? op.key now) with
  | error e => simp [ho, Except.map] at h
  | ok o =>
    simp only [ho, Except.map, Except.ok.injEq] at h
    subst h
    intro k hk hh
    unfold HoldsHash at hh
    rw [get?_restoreRaw] at hh
    split at hh
    · -- the written key: a hash there was found there or written by the write itself
      rename_i hkey
      subst hkey
      rcases WriteOp.isHash_applyTo ho (Entry.isHash_filter hh) with hb | ⟨f, v, hop⟩ |
        ⟨e, hop, he⟩
      · exact hx _ hk hb
      · rw [hop] at hs
        exact hs hk
      · rw [hop] at hs
        exact hs.elim (fun h => h hk) (fun h => h he)
    · exact hx k hk hh

end Keyspace

/-! ## Calls -/

namespace Transaction

open Std.Do

set_option mvcgen.warning false

/-- No key of `S` holds a live hash in the transaction's keyspace, at its time. -/
def HashFree (S : Set String) (t : Transaction) : Prop := t.keyspace.HashFree t.now S

variable (S : Set String)

/- As in `Exclusion`, the triples registered for `RestoresTo` are set aside in each proof, and a
failure needs nothing: the store rolls it back. -/

theorem write_hashFree (op : WriteOp) :
    ⦃fun t => ⌜t.HashFree S ∧ op.SparesHashes S⌝⦄ write op
    ⦃post⟨fun _ t => ⌜t.HashFree S⌝, fun _ _ => ⌜True⌝⟩⦄ := by
  mvcgen [write, ofExcept, -write_spec]
  rename_i t hpre _ ks happly
  exact hpre.1.apply hpre.2 happly

/-- Setting a field creates a hash only where the key held nothing live. At a live key of `S`,
which holds no hash, the read before the write fails on the type. -/
theorem hset_hashFree (k f v : String) :
    ⦃fun t => ⌜t.HashFree S ∧ (k ∉ S ∨ t.keyspace.contains k t.now = true)⌝⦄ hset k f v
    ⦃post⟨fun _ t => ⌜t.HashFree S⌝, fun _ _ => ⌜True⌝⟩⦄ := by
  have hwrite := write_hashFree S
  mvcgen [hset, hget_eq, ofExcept, hwrite, -write_spec, -hset_spec]
  rename_i t hpre _ hread _
  refine ⟨hpre.1, fun hk => ?_⟩
  exact hpre.1 k hk (Keyspace.holdsHash_of_fieldText? (hpre.2.resolve_left (not_not.2 hk)) hread)

theorem hsetnx_hashFree (k f v : String) :
    ⦃fun t => ⌜t.HashFree S ∧ (k ∉ S ∨ t.keyspace.contains k t.now = true)⌝⦄ hsetnx k f v
    ⦃post⟨fun _ t => ⌜t.HashFree S⌝, fun _ _ => ⌜True⌝⟩⦄ := by
  have hhset := hset_hashFree S
  mvcgen [hsetnx, hget_eq, ofExcept, hhset, -hset_spec, -hsetnx_spec]
  exact ‹_ ∧ _›.1

theorem hincrby_hashFree (k f : String) (delta : Int) :
    ⦃fun t => ⌜t.HashFree S ∧ (k ∉ S ∨ t.keyspace.contains k t.now = true)⌝⦄ hincrby k f delta
    ⦃post⟨fun _ t => ⌜t.HashFree S⌝, fun _ _ => ⌜True⌝⟩⦄ := by
  have hhset := hset_hashFree S
  mvcgen [hincrby, hget_eq, ofExcept, hhset, -hset_spec, -hincrby_spec]

theorem zadd_hashFree (k m : String) (score : Int) (nx : Bool) :
    ⦃fun t => ⌜t.HashFree S⌝⦄ zadd k m score nx
    ⦃post⟨fun _ t => ⌜t.HashFree S⌝, fun _ _ => ⌜True⌝⟩⦄ := by
  have hwrite := write_hashFree S
  mvcgen [zadd, zscore_eq, ofExcept, hwrite, -write_spec, -zadd_spec]

theorem zincrby_hashFree (k m : String) (delta : Int) :
    ⦃fun t => ⌜t.HashFree S⌝⦄ zincrby k m delta
    ⦃post⟨fun _ t => ⌜t.HashFree S⌝, fun _ _ => ⌜True⌝⟩⦄ := by
  have hwrite := write_hashFree S
  mvcgen [zincrby, zscore_eq, ofExcept, hwrite, -write_spec, -zincrby_spec]

theorem zrem_hashFree (k m : String) :
    ⦃fun t => ⌜t.HashFree S⌝⦄ zrem k m ⦃post⟨fun _ t => ⌜t.HashFree S⌝, fun _ _ => ⌜True⌝⟩⦄ := by
  have hwrite := write_hashFree S
  mvcgen [zrem, zscore_eq, ofExcept, hwrite, -write_spec, -zrem_spec]

theorem sadd_hashFree (k m : String) :
    ⦃fun t => ⌜t.HashFree S⌝⦄ sadd k m ⦃post⟨fun _ t => ⌜t.HashFree S⌝, fun _ _ => ⌜True⌝⟩⦄ := by
  have hwrite := write_hashFree S
  mvcgen [sadd, sismember, set?, ofExcept, hwrite, -write_spec, -sadd_spec]

theorem srem_hashFree (k m : String) :
    ⦃fun t => ⌜t.HashFree S⌝⦄ srem k m ⦃post⟨fun _ t => ⌜t.HashFree S⌝, fun _ _ => ⌜True⌝⟩⦄ := by
  have hwrite := write_hashFree S
  mvcgen [srem, sismember, set?, ofExcept, hwrite, -write_spec, -srem_spec]

theorem del_hashFree (k : String) :
    ⦃fun t => ⌜t.HashFree S⌝⦄ del k ⦃post⟨fun _ t => ⌜t.HashFree S⌝, fun _ _ => ⌜True⌝⟩⦄ := by
  have hwrite := write_hashFree S
  mvcgen [del, exists?, hwrite, -write_spec, -del_spec]

theorem expire_hashFree (k : String) (seconds : Int) :
    ⦃fun t => ⌜t.HashFree S⌝⦄ expire k seconds
    ⦃post⟨fun _ t => ⌜t.HashFree S⌝, fun _ _ => ⌜True⌝⟩⦄ := by
  have hdel := del_hashFree S
  have hwrite := write_hashFree S
  mvcgen [expire, exists?, hdel, hwrite, -write_spec, -del_spec, -expire_spec]

end Transaction

/-! ## Template steps -/

namespace Invocation

/-- A slot names the key at its position. -/
theorem key_slot_eq_ok {inv : Invocation} {f : Frame} {i : Nat} {k : String} :
    inv.key f (.slot i) = .ok k ↔ inv.keys[i]? = some k := by
  unfold key
  cases h : inv.keys[i]? <;> simp [h]

end Invocation

namespace Step

/-- A leaf step that sets a field whatever the key holds aims outside `S`, with the loop key
`cur` in force. The gated steps, which set a field only where the key is live, spare every `S`. -/
def SparesHashes (inv : Invocation) (S : Set String) (cur : Option String) : Step → Prop
  | .hsetnx key _ _ | .hset key _ _ => ∀ k, inv.key { current := cur } key = .ok k → k ∉ S
  | _ => True

end Step

-- the leaves a template reaches are read off its steps
attribute [local simp] Step.Leaves Step.ListLeaves Step.SparesHashes

namespace Template

open Std.Do Transaction

set_option mvcgen.warning false

variable (S : Set String)

/-- A leaf step that spares `S` leaves it without a hash. The existence-gated steps write to a
key only once it is live. -/
theorem runStep_hashFree (inv : Invocation) (s : Step) (f : Frame) (hs : s.IsLeaf)
    (hsp : s.SparesHashes inv S f.current) :
    ⦃fun t => ⌜t.HashFree S⌝⦄ runStep inv s f
    ⦃post⟨fun r t => ⌜t.HashFree S ∧ r.1 = .next ∧ r.2.current = f.current⌝,
      fun _ _ => ⌜True⌝⟩⦄ := by
  cases s <;> simp only [Step.IsLeaf] at hs <;> simp only [Step.SparesHashes] at hsp <;>
    simp only [runStep]
  case hsetnx key field value =>
    rw [← Invocation.key_current] at hsp
    have hhsetnx := hsetnx_hashFree S
    mvcgen [Transaction.ofExcept, monadLift_eq_ofExcept, hhsetnx, -hsetnx_spec]
    exact ⟨‹_›, .inl (hsp _ ‹_›)⟩
  case hset key field value =>
    rw [← Invocation.key_current] at hsp
    have hhset := hset_hashFree S
    mvcgen [Transaction.ofExcept, monadLift_eq_ofExcept, hhset, -hset_spec]
    exact ⟨‹_›, .inl (hsp _ ‹_›)⟩
  case hincrIfExists key field delta =>
    have hhincrby := hincrby_hashFree S
    mvcgen [Transaction.ofExcept, monadLift_eq_ofExcept, Transaction.exists?, hhincrby,
      -hincrby_spec]
    exact ⟨‹_›, .inr ‹_›⟩
  case hdecrFloor key field delta =>
    have hhincrby := hincrby_hashFree S
    mvcgen [Transaction.ofExcept, monadLift_eq_ofExcept, liftM_eq_ofExcept, Transaction.exists?,
      hget_eq, hhincrby, -hincrby_spec]
    -- the decrement goes ahead only where the key is live
    all_goals exact ⟨‹_›, .inr (Bool.and_eq_true_iff.1 ‹(_ && _) = true›).1⟩
  case zincrIfMember key member delta =>
    have hzincrby := zincrby_hashFree S
    mvcgen [Transaction.ofExcept, monadLift_eq_ofExcept, zscore_eq, hzincrby,
      -zincrby_spec]
  case zdecrFloor key member delta =>
    mvcgen [Transaction.ofExcept, monadLift_eq_ofExcept, zscore_eq]
    split
    next =>
      split
      · have hzincrby := zincrby_hashFree S
        mvcgen [hzincrby, -zincrby_spec]
      · mvcgen
    next => mvcgen
  case zadd key member score nx =>
    have hzadd := zadd_hashFree S
    mvcgen [Transaction.ofExcept, monadLift_eq_ofExcept, hzadd, -zadd_spec]
  case expire key seconds =>
    have hexpire := expire_hashFree S
    mvcgen [Transaction.ofExcept, monadLift_eq_ofExcept, hexpire, -expire_spec]
  case zrem key member =>
    have hzrem := zrem_hashFree S
    mvcgen [Transaction.ofExcept, monadLift_eq_ofExcept, hzrem, -zrem_spec]
  case sadd key member =>
    have hsadd := sadd_hashFree S
    mvcgen [Transaction.ofExcept, monadLift_eq_ofExcept, hsadd, -sadd_spec]
  case srem key member =>
    have hsrem := srem_hashFree S
    mvcgen [Transaction.ofExcept, monadLift_eq_ofExcept, hsrem, -srem_spec]
  case del key =>
    have hdel := del_hashFree S
    mvcgen [Transaction.ofExcept, monadLift_eq_ofExcept, hdel, -del_spec]
  case setStatus code => mvcgen

/-- A run whose leaf steps spare `S` leaves it without a hash. -/
theorem run_hashFree (tm : Template) (keys args : List String)
    (h : Step.ListLeaves ⟨keys, args⟩ (Step.SparesHashes ⟨keys, args⟩ S) none tm.steps) :
    ⦃fun t => ⌜t.HashFree S⌝⦄ tm.run keys args
    ⦃post⟨fun _ t => ⌜t.HashFree S⌝, fun _ _ => ⌜True⌝⟩⦄ :=
  run_keeps (Step.SparesHashes ⟨keys, args⟩ S) (Transaction.HashFree S) (fun _ => True)
    (fun _ _ => trivial) tm keys args (fun s f hs hsp => runStep_hashFree S _ s f hs hsp) h

/-- A leaf step that spares `S` and gives no final answer goes on, keeping `S` without a hash. -/
theorem runStep_hashFree_next (inv : Invocation) (s : Step) (f : Frame)
    (h : Step.Leaves inv (fun cur s => s.SparesHashes inv S cur ∧ ∀ c, s ≠ .ret c) f.current s) :
    ⦃fun t => ⌜t.HashFree S⌝⦄ runStep inv s f
    ⦃post⟨fun r t => ⌜t.HashFree S ∧ r.1 = .next ∧ r.2.current = f.current⌝,
      fun _ _ => ⌜True⌝⟩⦄ :=
  runStep_keeps inv _ (Transaction.HashFree S) (fun _ => True) (· = .next)
    (fun _ _ => trivial) rfl (fun _ c hc => absurd rfl (hc.2 c))
    (fun s f hs hsp => runStep_hashFree S inv s f hs hsp.1) s f h

section Republish

variable (inv : Invocation) {key : KeySlot} {f : Frame} {k : String}

/-- A block run only when argument `i` is `lit` does nothing when the argument is another text. -/
theorem runStep_argEq_skip {I : Transaction → Prop} (i : Nat) (lit : String) (body : List Step)
    (h : inv.args[i]? ≠ some lit) :
    ⦃fun t => ⌜I t⌝⦄ runStep inv (.when (.argEq i lit) body) f
    ⦃post⟨fun r t => ⌜I t ∧ r.1 = .next ∧ r.2.current = f.current⌝, fun _ _ => ⌜True⌝⟩⦄ := by
  simp only [runStep]
  cases ha : inv.args[i]? with
  | none =>
    -- a missing argument fails the run
    mvcgen [Invocation.value, Invocation.arg, ha, monadLift_eq_ofExcept, Transaction.ofExcept]
  | some a =>
    have hv : inv.value (.arg i) = .ok a := by simp [Invocation.value, Invocation.arg, ha]
    have hne : (a == lit) = false := by
      rw [ha] at h
      simpa using h
    mvcgen [hv, hne, monadLift_eq_ofExcept, Transaction.ofExcept]
    rename_i htrue
    rw [hne] at htrue
    cases htrue

/-- Setting a field of a key found live creates no hash. -/
theorem runStep_hset_live (field value : Operand) (hk : inv.key f key = .ok k) :
    ⦃fun t => ⌜t.HashFree S ∧ t.keyspace.contains k t.now = true⌝⦄
    runStep inv (.hset key field value) f
    ⦃post⟨fun r t => ⌜t.HashFree S ∧ r.1 = .next ∧ r.2.current = f.current⌝,
      fun _ _ => ⌜True⌝⟩⦄ := by
  simp only [runStep]
  have hhset := hset_hashFree S
  mvcgen [hk, Transaction.ofExcept, monadLift_eq_ofExcept, hhset, -hset_spec]
  exact ⟨‹_ ∧ _›.1, .inr ‹_ ∧ _›.2⟩

/-- The republish block sets the visibility flag, and renews the expiry, only once it has found
the key live: it creates no hash. -/
theorem runStep_present_hset_hashFree (field value secs : Operand) :
    ⦃fun t => ⌜t.HashFree S⌝⦄
    runStep inv (.when (.present key) [.hset key field value, .expire key secs]) f
    ⦃post⟨fun r t => ⌜t.HashFree S ∧ r.1 = .next ∧ r.2.current = f.current⌝,
      fun _ _ => ⌜True⌝⟩⦄ := by
  cases hk : inv.key f key with
  | error e =>
    simp only [runStep]
    mvcgen [hk, Transaction.ofExcept, monadLift_eq_ofExcept]
  | ok k =>
    -- under the condition the field is set on the live key, then the expiry goes on
    have hbody : ⦃fun t => ⌜t.HashFree S ∧ t.keyspace.contains k t.now = true⌝⦄
        runSteps inv [.hset key field value, .expire key secs] f
        ⦃post⟨fun r t => ⌜t.HashFree S ∧ r.1 = .next ∧ r.2.current = f.current⌝,
          fun _ _ => ⌜True⌝⟩⦄ := by
      apply runSteps_cons_next _ (runStep_hset_live S inv field value hk)
      intro f1 hf1
      apply runSteps_cons_next _ (runStep_hashFree S inv (.expire key secs) f1 trivial trivial)
      intro f2 hf2
      rw [runSteps_nil]
      mvcgen
      exact ⟨‹_›, trivial, hf2.trans hf1⟩
    simp only [runStep]
    mvcgen [hk, hbody, Transaction.exists?, Transaction.ofExcept, monadLift_eq_ofExcept]

/-- A block whose body goes on, keeping `I` and the loop key in force, does the same: its
condition only reads. -/
theorem runStep_when_next {I : Transaction → Prop} (c : Cond) (body : List Step)
    (hbody : ⦃fun t => ⌜I t⌝⦄ runSteps inv body f
      ⦃post⟨fun r t => ⌜I t ∧ r.1 = .next ∧ r.2.current = f.current⌝, fun _ _ => ⌜True⌝⟩⦄) :
    ⦃fun t => ⌜I t⌝⦄ runStep inv (.when c body) f
    ⦃post⟨fun r t => ⌜I t ∧ r.1 = .next ∧ r.2.current = f.current⌝, fun _ _ => ⌜True⌝⟩⦄ := by
  cases c <;> simp only [runStep] <;>
    mvcgen [hbody, Transaction.exists?, Transaction.ofExcept, monadLift_eq_ofExcept]

/-- Republishing: the flag and the expiry on a live key, or a status where the key is not live. -/
theorem runSteps_republish_hashFree (field value secs : Operand) (code : Int) :
    ⦃fun t => ⌜t.HashFree S⌝⦄
    runSteps inv [.when (.present key) [.hset key field value, .expire key secs],
      .when (.absent key) [.setStatus code]] f
    ⦃post⟨fun r t => ⌜t.HashFree S ∧ r.1 = .next ∧ r.2.current = f.current⌝,
      fun _ _ => ⌜True⌝⟩⦄ := by
  apply runSteps_cons_next _ (runStep_present_hset_hashFree S inv field value secs)
  intro f1 hf1
  apply runSteps_cons_next _ (runStep_hashFree_next S inv _ f1
    (by simp))
  intro f2 hf2
  rw [runSteps_nil]
  mvcgen
  exact ⟨‹_›, trivial, hf2.trans hf1⟩

end Republish

/-! ## The catalog -/

/-- The keys at which a run of the template may create a record's hash: any key for content
created in mode `create`, for registration and for repopulation; its own counter, slot 0, for a
comment. The other scripts of the catalog change a hash only where they find one. -/
def MayCreateHashAt (tm : Template) (keys args : List String) (k : String) : Prop :=
  (tm.name ∈ ["CreateArticleCache", "CreateColumnCache", "CreateTalkCache"] ∧
      args[3]? = some "create") ∨
    (tm.name = "CreateCommentCache" ∧ keys[0]? = some k) ∨
    tm.name ∈ ["CreateUserCache", "RehydrateContentCache", "RehydrateAchievementCache",
      "RehydrateCountCache", "RefreshContentCache", "RefreshAchievementCache", "RefreshCountCache"]

/-- Content creation in any mode but `create` creates no hash: the republish block sets the
visibility flag only on a live counter, and the listing blocks only rank and count. -/
theorem createContent_hashFree (name : String) (keys args : List String)
    (hmode : args[3]? ≠ some "create") :
    ⦃fun t => ⌜t.HashFree S⌝⦄ (Catalog.createContent name).run keys args
    ⦃post⟨fun _ t => ⌜t.HashFree S⌝, fun _ _ => ⌜True⌝⟩⦄ := by
  apply run_of_runSteps
  simp only [Catalog.createContent]
  apply runSteps_cons_next _ (runStep_argEq_skip ⟨keys, args⟩ 3 "create" _ hmode)
  intro f1 _
  apply runSteps_cons_next _ (runStep_when_next _ _ _ (runSteps_republish_hashFree S _ _ _ _ _))
  intro f2 _
  apply runSteps_cons_next _ (runStep_hashFree_next S _ _ f2
    (by simp))
  intro f3 _
  apply runSteps_cons_next _ (runStep_hashFree_next S _ _ f3
    (by simp))
  intro f4 _
  rw [runSteps_nil]
  mvcgen

/-- A script spares `S` when it creates content in a mode other than `create`, or when every
field it sets whatever the key holds lies outside `S`. -/
theorem run_hashFree_of_spares {tm : Template} {keys args : List String}
    (h : ((∃ name, tm = Catalog.createContent name) ∧ args[3]? ≠ some "create") ∨
      Step.ListLeaves ⟨keys, args⟩ (Step.SparesHashes ⟨keys, args⟩ S) none tm.steps) :
    ⦃fun t => ⌜t.HashFree S⌝⦄ tm.run keys args
    ⦃post⟨fun _ t => ⌜t.HashFree S⌝, fun _ _ => ⌜True⌝⟩⦄ := by
  rcases h with ⟨⟨name, rfl⟩, hmode⟩ | hleaves
  · exact createContent_hashFree S name keys args hmode
  · exact run_hashFree S tm keys args hleaves

/-- A script of the catalog creates no hash at a key where it may not create one. -/
theorem catalog_run_hashFree {tm : Template} (htm : tm ∈ Catalog.all) (keys args : List String)
    {k : String} (hk : ¬ tm.MayCreateHashAt keys args k) :
    ⦃fun t => ⌜t.HashFree {k}⌝⦄ tm.run keys args
    ⦃post⟨fun _ t => ⌜t.HashFree {k}⌝, fun _ _ => ⌜True⌝⟩⦄ := by
  apply run_hashFree_of_spares
  simp only [Catalog.all, List.mem_cons, List.not_mem_nil, or_false] at htm
  rcases htm with rfl | rfl | rfl | rfl | rfl | rfl | rfl | rfl | rfl | rfl | rfl | rfl | rfl |
    rfl | rfl | rfl | rfl | rfl | rfl | rfl | rfl | rfl | rfl | rfl | rfl | rfl | rfl <;>
    simp_all [MayCreateHashAt, Invocation.key_slot_eq_ok, Catalog.hincrIfExists, Catalog.hdecrFloor, Catalog.createContent, Catalog.createComment,
      Catalog.deleteContent, Catalog.deleteComment, Catalog.setAgree, Catalog.cancelAgree,
      Catalog.setView, Catalog.createCollection, Catalog.cancelCollection, Catalog.setComment,
      Catalog.cancelComment, Catalog.setFollow, Catalog.cancelFollow, Catalog.createUser,
      Catalog.rehydrate, Catalog.refresh, Catalog.refreshRanking, Catalog.incr, Catalog.decr,
      Catalog.rankingsIncr, Catalog.rankingsDecr, Catalog.initFields, Catalog.setIfAbsent,
      Catalog.k]
  -- the comment sets fields whatever its counter holds only there, at slot 0
  rintro k' hk' rfl
  exact hk hk'

/-- A property of the keyspace at the run's time that a run keeps holds of what the run done
atomically leaves: on success by the run, on failure by the rollback. -/
theorem atomically_keeps {Q : Keyspace → Nat → Prop} {K : Keyspace} {now : Nat} {tm : Template}
    {keys args : List String}
    (hrun : ⦃fun t => ⌜Q t.keyspace t.now⌝⦄ tm.run keys args
      ⦃post⟨fun _ t => ⌜Q t.keyspace t.now⌝, fun _ _ => ⌜True⌝⟩⦄)
    (hK : Q K now) : Q (Transaction.atomically K now (tm.run keys args)).2 now := by
  cases hr : (tm.run keys args).run (Transaction.begin K now) with
  | ok a t =>
    have hpost : Q t.keyspace t.now :=
      EStateM.of_wp_run_eq (P := Transaction.Outcome (fun _ t => Q t.keyspace t.now)
        (fun _ _ => True)) hr (fun _ => hrun _ hK)
    have hnow : t.now = now :=
      EStateM.of_wp_run_eq (P := fun r => (Transaction.afterRun r).now = now) hr
        (fun _ => run_now now tm keys args _ rfl)
    simp only [Transaction.atomically, hr]
    exact hnow ▸ hpost
  | error e t =>
    -- the rollback gives back the keyspace the run began with
    have hrestore : RestoresTo K t :=
      EStateM.of_wp_run_eq (P := fun r => RestoresTo K (Transaction.afterRun r)) hr
        (fun _ => run_restoresTo K tm keys args _ rfl)
    simp only [Transaction.atomically, hr]
    rw [show t.rollback = K from hrestore]
    exact hK

/-- A leaf step other than a plain sorted-set add ranks no new member: what it leaves ranked was
ranked before it. -/
theorem runStep_ranks_of_ranks (inv : Invocation) (s : Step) (f : Frame) (hs : s.IsLeaf)
    (hz : ∀ key member score nx, s ≠ .zadd key member score nx) {t t' : Transaction}
    {r : Flow × Frame} (h : (runStep inv s f).run t = .ok r t') {k m : String}
    (hr : t'.keyspace.Ranks t'.now k m) : t.keyspace.Ranks t.now k m := by
  -- the members unranked at the start form an exclusion the step spares
  let x : Exclusion := ⟨∅, {p | ¬ t.keyspace.Ranks t.now p.1 p.2}⟩
  have hsp : s.Spares inv x f.current := by
    cases s
    case zadd key member score nx => exact absurd rfl (hz key member score nx)
    all_goals simp [Step.Spares, x]
  have hx : t.Excludes x := Keyspace.excludes_iff.2 ⟨by simp [x], fun _ hp => hp⟩
  have hx' : t'.Excludes x :=
    (EStateM.of_wp_run_eq (P := Transaction.Outcome
      (fun r t' => t'.Excludes x ∧ r.1 = .next ∧ r.2.current = f.current) (fun _ _ => True))
      h (fun _ => runStep_excludes x inv s f hs hsp _ hx)).1
  by_contra hn
  exact (Keyspace.excludes_iff.1 hx').2 (k, m) hn hr

end Template

/-- The scripts of the catalog create a hash only where they may. Run atomically on any
keyspace, at any time, with any keys and arguments, a script leaves no hash at a key that held
nothing live unless it may create one there; so the republish mode of content creation never
creates the counter hash. A membership-gated step, which moves a ranked member's score, leaves
ranked only members that were ranked before it. -/
theorem gated_templates_create_no_hash :
    (∀ tm ∈ Catalog.all, ∀ (K : Keyspace) (now : Nat) (keys args : List String) (k : String),
      K.get? k now = none → ¬ tm.MayCreateHashAt keys args k →
      ¬ (Transaction.atomically K now (tm.run keys args)).2.HoldsHash now k) ∧
    (∀ (inv : Invocation) (key : KeySlot) (member delta : Operand) (f : Frame)
      (t t' : Transaction) (r : Flow × Frame),
      (Template.runStep inv (.zincrIfMember key member delta) f).run t = .ok r t' →
      ∀ k m, t'.keyspace.Ranks t'.now k m → t.keyspace.Ranks t.now k m) ∧
    (∀ (inv : Invocation) (key : KeySlot) (member delta : Operand) (f : Frame)
      (t t' : Transaction) (r : Flow × Frame),
      (Template.runStep inv (.zdecrFloor key member delta) f).run t = .ok r t' →
      ∀ k m, t'.keyspace.Ranks t'.now k m → t.keyspace.Ranks t.now k m) := by
  refine ⟨fun tm htm K now keys args k hk hmay => ?_, ?_, ?_⟩
  · have hfree : K.HashFree now {k} :=
      Keyspace.hashFree_of_absent fun k' hk' => (Set.mem_singleton_iff.1 hk') ▸ hk
    exact Template.atomically_keeps (Q := fun ks n => ks.HashFree n {k})
      (Template.catalog_run_hashFree htm keys args hmay) hfree k rfl
  · intro inv key member delta f t t' r h k m hr
    exact Template.runStep_ranks_of_ranks inv (.zincrIfMember key member delta) f trivial
      (fun _ _ _ _ h => by cases h) h hr
  · intro inv key member delta f t t' r h k m hr
    exact Template.runStep_ranks_of_ranks inv (.zdecrFloor key member delta) f trivial
      (fun _ _ _ _ h => by cases h) h hr

/-- Republishing an article the empty cache does not hold leaves no counter hash. -/
theorem gated_templates_create_no_hash_republish :
    let keys := ["article:1", "u1:article", "u1:article:visit", "article", "u1:counts"]
    let args := ["1", "u1", "0", "republish", "60", "article", "5"]
    Catalog.createContent "CreateArticleCache" ∈ Catalog.all ∧
      Keyspace.empty.get? "article:1" 0 = none ∧
      ¬ (Catalog.createContent "CreateArticleCache").MayCreateHashAt keys args "article:1" ∧
      ¬ (Transaction.atomically Keyspace.empty 0
        ((Catalog.createContent "CreateArticleCache").run keys args)).2.HoldsHash 0 "article:1" := by
  intro keys args
  have hmem : Catalog.createContent "CreateArticleCache" ∈ Catalog.all := by simp [Catalog.all]
  have habsent : Keyspace.empty.get? "article:1" 0 = none := rfl
  have hmay : ¬ (Catalog.createContent "CreateArticleCache").MayCreateHashAt keys args
      "article:1" := by
    simp [Template.MayCreateHashAt, Catalog.createContent, keys, args]
  exact ⟨hmem, habsent, hmay, gated_templates_create_no_hash.1 _ hmem _ _ keys args _ habsent hmay⟩

end CounterCache
