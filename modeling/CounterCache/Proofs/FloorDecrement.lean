import Mathlib
import CounterCache.Proofs.PrintedIntegers
import CounterCache.Proofs.FailedCommand
import CounterCache.Engine.Backend

/-!
# Floor-guarded decrements

A floor-guarded decrement reads the current value `c` of a hash field (of a sorted-set member's
score) and, only when `c ≥ d`, adds the negation of the delta `d`. The negation is taken in the
signed 64-bit range, where the least integer `-2^63` is its own negation.

For every other delta the write leaves `c - d ≥ 0`: a non-negative counter stays non-negative,
and a decrement that fails leaves the transaction as it found it. This holds of the hash step and
of the sorted-set step, of the `HDecrFloor` template and of the store's native `decrFloor`. Main
statement: `floorDecrement_keeps_nonneg`.

The least delta passes the guard for every value and then adds `-2^63`, so a counter of five
ends at `5 - 2^63` (`decrFloor_least_delta_negative`).
-/

namespace CounterCache

theorem Text.negI64_of_ne {n : Int} (h : n ≠ Text.i64Min) : Text.negI64 n = -n := if_neg h

namespace Keyspace

variable {ks ks' : Keyspace} {k : String} {now : Nat}

/-! ## What a read of a field or of a member finds -/

/-- The text of the field `f` of the live hash at `k`, as a read of the field finds it. -/
def fieldText? (ks : Keyspace) (now : Nat) (k f : String) : Except Error (Option String) :=
  (ks.hash? k now).map (·.bind (·.find? f))

/-- The field `f` of the live hash at `k` reads as the integer `n` for an increment: its text
read as a signed integer, or zero where the hash or the field is absent. -/
def FieldReads (ks : Keyspace) (now : Nat) (k f : String) (n : Int) : Prop :=
  match ks.fieldText? now k f with
  | .ok (some v) => Text.parseI64? v = some n
  | .ok none => n = 0
  | .error _ => False

/-- The field `f` of the hash at `k`, where there is one, holds a non-negative integer. -/
def FieldNonneg (ks : Keyspace) (now : Nat) (k f : String) : Prop :=
  ∀ v, ks.fieldText? now k f = .ok (some v) → ∃ n, Text.parseI64? v = some n ∧ 0 ≤ n

/-- The score of the member `m` of the live sorted set at `k`, as a read of the member finds
it. -/
def memberScore? (ks : Keyspace) (now : Nat) (k m : String) : Except Error (Option Int) :=
  (ks.sortedSet? k now).map (·.bind (·.score? m))

/-- The member `m` of the sorted set at `k`, where there is one, has a non-negative score. -/
def ScoreNonneg (ks : Keyspace) (now : Nat) (k m : String) : Prop :=
  ∀ s, ks.memberScore? now k m = .ok (some s) → 0 ≤ s

theorem fieldReads_some {f v : String} {n : Int} (h : ks.fieldText? now k f = .ok (some v)) :
    ks.FieldReads now k f n ↔ Text.parseI64? v = some n := by
  unfold FieldReads
  rw [h]

theorem fieldReads_none {f : String} {n : Int} (h : ks.fieldText? now k f = .ok none) :
    ks.FieldReads now k f n ↔ n = 0 := by
  unfold FieldReads
  rw [h]

/-- A field holding the printed form of a non-negative integer of the signed range is
non-negative. -/
theorem fieldNonneg_of_fieldText? {f : String} {r : Int}
    (h : ks.fieldText? now k f = .ok (some (toString r))) (h0 : 0 ≤ r) (hr : Text.InI64 r) :
    ks.FieldNonneg now k f := by
  intro v hv
  rw [h, Except.ok.injEq, Option.some.injEq] at hv
  exact ⟨r, by rw [← hv, Text.parseI64?_toString, if_pos hr], h0⟩

theorem scoreNonneg_of_memberScore? {m : String} {r : Int}
    (h : ks.memberScore? now k m = .ok (some r)) (h0 : 0 ≤ r) : ks.ScoreNonneg now k m := by
  intro s hs
  rw [h, Except.ok.injEq, Option.some.injEq] at hs
  exact hs ▸ h0

/-! ## A write of a field or a member is read back -/

/- Both writes act on the key's live entry (`raw?_evictExpired_self`) and keep its deadline, so
the entry they store is live at the same time. -/

theorem find?_of_apply_hset {f v : String} (h : ks.apply (.hset k f v) now = .ok ks') :
    ∃ hs, ks'.hash? k now = .ok (some hs) ∧ hs.find? f = some v := by
  simp only [apply, WriteOp.key, raw?_evictExpired_self] at h
  cases hg : ks.get? k now with
  | none =>
    rw [hg, Except.ok.injEq] at h
    subst h
    simp [hash?, Entry.isExpired_mk]
  | some e =>
    obtain ⟨val, d⟩ := e
    have hx := isExpired_of_get? hg
    rw [Entry.isExpired_mk] at hx
    cases val <;> simp only [hg, reduceCtorEq] at h
    rw [Except.ok.injEq] at h
    subst h
    simp [hash?, Entry.isExpired_mk, hx]

theorem fieldText?_of_apply_hset {f v : String} (h : ks.apply (.hset k f v) now = .ok ks') :
    ks'.fieldText? now k f = .ok (some v) := by
  obtain ⟨hs, hhs, hv⟩ := find?_of_apply_hset h
  simp [fieldText?, hhs, hv, Except.map]

theorem score?_of_apply_zset {m : String} {s : Int} (h : ks.apply (.zset k m s) now = .ok ks') :
    ∃ z, ks'.sortedSet? k now = .ok (some z) ∧ z.score? m = some s := by
  simp only [apply, WriteOp.key, raw?_evictExpired_self] at h
  cases hg : ks.get? k now with
  | none =>
    rw [hg, Except.ok.injEq] at h
    subst h
    simp [sortedSet?, Entry.isExpired_mk]
  | some e =>
    obtain ⟨val, d⟩ := e
    have hx := isExpired_of_get? hg
    rw [Entry.isExpired_mk] at hx
    cases val <;> simp only [hg, reduceCtorEq] at h
    rw [Except.ok.injEq] at h
    subst h
    simp [sortedSet?, Entry.isExpired_mk, hx]

theorem memberScore?_of_apply_zset {m : String} {s : Int}
    (h : ks.apply (.zset k m s) now = .ok ks') : ks'.memberScore? now k m = .ok (some s) := by
  obtain ⟨z, hz, hs⟩ := score?_of_apply_zset h
  unfold memberScore?
  simp [hz, hs, Except.map]

end Keyspace

/-! ## Reads and increments -/

namespace Transaction

open Std.Do

set_option mvcgen.warning false

theorem liftM_eq_ofExcept {α : Type} (x : Except Error α) :
    (liftM x : TxnM α) = ofExcept x := rfl

theorem monadLift_eq_ofExcept {α : Type} (x : Except Error α) :
    (MonadLift.monadLift x : TxnM α) = ofExcept x := rfl

theorem ofExcept_ok {α : Type} (a : α) : (ofExcept (.ok a) : TxnM α) = pure a := rfl

theorem hget_eq (k f : String) :
    hget k f = (do let t ← get; ofExcept (t.keyspace.fieldText? t.now k f)) := by
  unfold hget Keyspace.fieldText?
  congr 1
  funext t
  cases t.keyspace.hash? k t.now <;> rfl

theorem zscore_eq (k m : String) :
    zscore k m = (do let t ← get; ofExcept (t.keyspace.memberScore? t.now k m)) := by
  unfold Keyspace.memberScore?
  simp only [zscore, sortedSet?, bind_assoc]
  congr 1
  funext t
  cases t.keyspace.sortedSet? k t.now <;> rfl

/- The triples registered for `RestoresTo` are set aside in each proof: `mvcgen` would prefer
them to the ones given here. -/

/-- `HSET` leaves the field holding the text it wrote. -/
theorem hset_writes (k f v : String) (t₀ : Transaction) :
    ⦃fun t => ⌜t = t₀⌝⦄ hset k f v
    ⦃post⟨fun _ t => ⌜t.keyspace.fieldText? t₀.now k f = .ok (some v)⌝,
      fun _ t => ⌜t = t₀⌝⟩⦄ := by
  have hhget := hget_eq
  mvcgen [hset, hhget, write, ofExcept, -write_spec, -hset_spec]
  subst ‹_ = t₀›
  exact Keyspace.fieldText?_of_apply_hset ‹_›

/-- `HINCRBY` answers the integer the field read as plus `δ`, inside the signed 64-bit range,
and leaves the field holding its printed form. -/
theorem hincrby_writes (k f : String) (δ : Int) (t₀ : Transaction) :
    ⦃fun t => ⌜t = t₀⌝⦄ hincrby k f δ
    ⦃post⟨fun r t => ⌜t₀.keyspace.FieldReads t₀.now k f (r - δ) ∧ Text.InI64 r ∧
      t.keyspace.fieldText? t₀.now k f = .ok (some (toString r))⌝, fun _ t => ⌜t = t₀⌝⟩⦄ := by
  have hhset := hset_writes
  have hhget := hget_eq
  mvcgen [hhget, hincrby, hhset, ofExcept, -hset_spec, -hincrby_spec]
  case vc2 =>
    rename_i hst _ hread _ _ hv n hn next _ hin _ _ hnew
    subst hst
    refine ⟨?_, by simpa using hin, hnew⟩
    rw [hv] at hread
    rw [Keyspace.fieldReads_some hread]
    simpa [next] using hn
  case vc6 =>
    rename_i hst _ hread _ hv next _ hin _ _ hnew
    subst hst
    refine ⟨?_, by simpa using hin, hnew⟩
    rw [hv] at hread
    rw [Keyspace.fieldReads_none hread]
    simp [next]
  all_goals exact fun h => h.trans ‹_›

/-- `ZINCRBY` answers the member's score (zero when absent) plus `δ` and leaves the member
scored so. -/
theorem zincrby_writes (k m : String) (δ : Int) (t₀ : Transaction) :
    ⦃fun t => ⌜t = t₀⌝⦄ zincrby k m δ
    ⦃post⟨fun r t => ⌜(∃ o, t₀.keyspace.memberScore? t₀.now k m = .ok o ∧ o.getD 0 = r - δ) ∧
      t.keyspace.memberScore? t₀.now k m = .ok (some r)⌝, fun _ t => ⌜t = t₀⌝⟩⦄ := by
  have hzscore := zscore_eq
  mvcgen [hzscore, zincrby, write, ofExcept, -write_spec, -zincrby_spec]
  rename_i hst o hread score _ _ _ _ happly
  subst hst
  exact ⟨⟨o, hread, by simp [score]⟩, Keyspace.memberScore?_of_apply_zset happly⟩

end Transaction

/-! ## The two steps -/

namespace Template

open Std.Do Transaction

set_option mvcgen.warning false

-- `mvcgen` follows a run into its steps wherever it meets one
attribute [local spec] runStep runSteps

/- In both steps the delta is read before `mvcgen` runs: a hypothesis about the delta's reading
left in the context sends `mvcgen` into a slow search. -/

/-- The hash step either fails with the transaction it started from or leaves the field
non-negative, for every delta but the least integer. -/
theorem runStep_hdecrFloor_nonneg (inv : Invocation) (key : KeySlot) (field delta : Operand)
    (fr : Frame) {k fl : String} (hk : inv.key fr key = .ok k) (hf : inv.value field = .ok fl)
    (hd : inv.int delta ≠ .ok Text.i64Min) (t₀ : Transaction)
    (h₀ : t₀.keyspace.FieldNonneg t₀.now k fl) :
    ⦃fun t => ⌜t = t₀⌝⦄ runStep inv (.hdecrFloor key field delta) fr
    ⦃post⟨fun _ t => ⌜t.keyspace.FieldNonneg t₀.now k fl⌝, fun _ t => ⌜t = t₀⌝⟩⦄ := by
  cases hdelta : inv.int delta with
  | error e =>
    simp only [runStep, hk, hf, hdelta, liftM_eq_ofExcept, ofExcept_ok]
    mvcgen [Transaction.ofExcept]
  | ok d =>
    have hneg : Text.negI64 d = -d := Text.negI64_of_ne fun h => hd (h ▸ hdelta)
    clear hd
    have hw := fun δ => hincrby_writes k fl δ t₀
    simp only [runStep, hk, hf, hdelta, liftM_eq_ofExcept, ofExcept_ok]
    generalize hread : parseInt = readInt
    have hhget := hget_eq
    mvcgen [hhget, Transaction.exists?, Transaction.ofExcept, hw, -hincrby_spec]
    -- the field held text `v` reading as `c ≥ d`; the increment read the same `v`
    case vc2 =>
      rename_i t hst o htext v hv c hc hgo r t' hpost
      subst hst hv hread
      obtain ⟨hreads, hin, hnew⟩ := hpost
      rw [Keyspace.fieldReads_some htext, hneg, sub_neg_eq_add] at hreads
      have hcr : c = r + d := by
        have h := parseInt_of_parseI64? hreads
        rw [hc, Except.ok.injEq] at h
        exact h
      have hge : c ≥ d := by
        simp only [Bool.and_eq_true, decide_eq_true_eq] at hgo
        exact hgo.2
      exact Keyspace.fieldNonneg_of_fieldText? hnew (by omega) hin
    -- the field was absent and read as `0 ≥ d`
    case vc6 =>
      rename_i t hst o htext hv hgo r t' hpost
      subst hst hv
      obtain ⟨hreads, hin, hnew⟩ := hpost
      rw [Keyspace.fieldReads_none htext, hneg, sub_neg_eq_add] at hreads
      have hge : 0 ≥ d := by
        simp only [Bool.and_eq_true, decide_eq_true_eq] at hgo
        exact hgo.2
      exact Keyspace.fieldNonneg_of_fieldText? hnew (by omega) hin
    all_goals exact ‹_ = t₀› ▸ h₀

/-- The sorted-set step either fails with the transaction it started from or leaves the
member's score non-negative, for every delta but the least integer. -/
theorem runStep_zdecrFloor_nonneg (inv : Invocation) (key : KeySlot) (member delta : Operand)
    (fr : Frame) {k m : String} (hk : inv.key fr key = .ok k) (hm : inv.value member = .ok m)
    (hd : inv.int delta ≠ .ok Text.i64Min) (t₀ : Transaction)
    (h₀ : t₀.keyspace.ScoreNonneg t₀.now k m) :
    ⦃fun t => ⌜t = t₀⌝⦄ runStep inv (.zdecrFloor key member delta) fr
    ⦃post⟨fun _ t => ⌜t.keyspace.ScoreNonneg t₀.now k m⌝, fun _ t => ⌜t = t₀⌝⟩⦄ := by
  cases hdelta : inv.int delta with
  | error e =>
    simp only [runStep, hk, hm, hdelta, liftM_eq_ofExcept, ofExcept_ok]
    mvcgen [Transaction.ofExcept]
  | ok d =>
    have hneg : Text.negI64 d = -d := Text.negI64_of_ne fun h => hd (h ▸ hdelta)
    clear hd
    have hw := fun δ => zincrby_writes k m δ t₀
    simp only [runStep, hk, hm, hdelta, liftM_eq_ofExcept, ofExcept_ok]
    have hzscore := zscore_eq
    mvcgen [hzscore, Transaction.ofExcept, hw, -zincrby_spec]
    rename_i t hst o hread
    subst hst
    -- the guard is read off the member's score, so the cases follow that score
    cases o with
    | none =>
      simp only [Bool.false_eq_true, if_false]
      mvcgen
    | some s =>
      by_cases hge : s ≥ d
      · simp only [hge, decide_true, if_true]
        mvcgen [hw, -zincrby_spec]
        rename_i r t' hpost
        obtain ⟨⟨o, ho, hsum⟩, hnew⟩ := hpost
        rw [hread, Except.ok.injEq] at ho
        subst ho
        rw [Option.getD_some, hneg, sub_neg_eq_add] at hsum
        exact Keyspace.scoreNonneg_of_memberScore? hnew (by omega)
      · simp only [hge, decide_false, Bool.false_eq_true, if_false]
        mvcgen

/-! ## The `HDecrFloor` template -/

theorem runSteps_nil (inv : Invocation) (f : Frame) : runSteps inv [] f = pure (.next, f) := by
  rw [runSteps]

theorem runSteps_cons (inv : Invocation) (s : Step) (rest : List Step) (f : Frame) :
    runSteps inv (s :: rest) f = (do
      let (flow, f) ← runStep inv s f
      match flow with
      | .ret c => pure (.ret c, f)
      | .next => runSteps inv rest f) :=
  runSteps.eq_2 inv f s rest

/-- The template's other steps only read: an absent key answers 2, an unchanged field 1. -/
theorem run_hdecrFloor_nonneg (k f ds : String) (hd : parseInt ds ≠ .ok Text.i64Min)
    (t₀ : Transaction) (h₀ : t₀.keyspace.FieldNonneg t₀.now k f) :
    ⦃fun t => ⌜t = t₀⌝⦄ Catalog.hdecrFloor.run [k] [f, ds]
    ⦃post⟨fun _ t => ⌜t.keyspace.FieldNonneg t₀.now k f⌝, fun _ t => ⌜t = t₀⌝⟩⦄ := by
  -- the delta is the second argument, read as a command operand
  have hint : (⟨[k], [f, ds]⟩ : Invocation).int (.arg 1) = parseInt ds := by
    simp only [Invocation.int, Invocation.value, Invocation.arg, List.getElem?_cons_succ,
      List.getElem?_cons_zero, bind, Except.bind]
  have hstep := runStep_hdecrFloor_nonneg ⟨[k], [f, ds]⟩ (.slot 0) (.arg 0) (.arg 1) {} rfl rfl
    (hint ▸ hd) t₀ h₀
  clear hint hd
  have harity : Catalog.hdecrFloor.checkArity [k] [f, ds] = .ok () := rfl
  rw [run, harity]
  simp only [liftM_eq_ofExcept, ofExcept_ok, Catalog.hdecrFloor, Catalog.k, Catalog.a,
    runSteps_cons, runSteps_nil]
  have hlift := @monadLift_eq_ofExcept
  mvcgen [hstep, Transaction.exists?, Transaction.ofExcept, hlift, Invocation.key]
  exact ‹_ = t₀› ▸ h₀

end Template

/-! ## The store's decrement -/

namespace Store

open Std.Do

@[simp] theorem keyspace_maybeCheckpoint (s : Store) (now : Nat) :
    (s.maybeCheckpoint now).keyspace = s.keyspace := by
  unfold maybeCheckpoint
  split <;> rfl

/-- A unit of work whose action either keeps a condition on the keyspace or fails with the
transaction it began with leaves the store's keyspace in the condition: a failure is rolled
back. -/
theorem keyspace_atomically {α : Type} (s : Store) (now : Nat) (act : TxnM α)
    (P : Keyspace → Prop) (hP : P s.keyspace)
    (h : ⦃fun t => ⌜t = Transaction.begin s.keyspace now⌝⦄ act
      ⦃post⟨fun _ t => ⌜P t.keyspace⌝, fun _ t => ⌜t = Transaction.begin s.keyspace now⌝⟩⦄) :
    P (s.atomically now act).2.keyspace := by
  have hrun := fun {x} (hx : act.run (Transaction.begin s.keyspace now) = x) =>
    EStateM.of_wp_run_eq (P := Transaction.Outcome (fun _ t => P t.keyspace)
      (fun _ t => t = Transaction.begin s.keyspace now)) hx (fun _ => h _ rfl)
  cases hr : act.run (Transaction.begin s.keyspace now) with
  | ok a t =>
    have ht : P t.keyspace := hrun hr
    simp only [atomically, Transaction.atomically, hr, keyspace_maybeCheckpoint]
    exact ht
  | error e t =>
    have ht : t = Transaction.begin s.keyspace now := hrun hr
    subst ht
    simp only [atomically, Transaction.atomically, hr]
    exact hP

theorem lookup_decrFloorScript : Catalog.lookup decrFloorScript = .ok Catalog.hdecrFloor := rfl

/-- The native decrement keeps a non-negative counter non-negative for every delta but the least
integer. -/
theorem decrFloor_nonneg (s : Store) (now : Nat) (k f : String) (delta : Int)
    (hd : delta ≠ Text.i64Min) (h₀ : s.keyspace.FieldNonneg now k f) :
    (s.decrFloor now .native k f delta).2.keyspace.FieldNonneg now k f := by
  have hparse : parseInt (toString delta) ≠ .ok Text.i64Min := by
    rw [parseInt_toString]
    split_ifs <;> simp [hd]
  simp only [decrFloor, invoke, runNamed, lookup_decrFloorScript]
  exact keyspace_atomically s now _ (fun ks => ks.FieldNonneg now k f) h₀
    (Template.run_hdecrFloor_nonneg k f _ hparse _ h₀)

end Store

/-- A delta read as `δ` is not the least signed 64-bit integer when `δ` is not. -/
theorem ne_least_of_eq_ok {e : Except Error Int} {δ : Int} (he : e = .ok δ)
    (hδ : δ ≠ Text.i64Min) : e ≠ .ok Text.i64Min := by
  rw [he]
  exact fun h => hδ (Except.ok.inj h)

open Std.Do in
/-- Floor-guarded decrements keep non-negative counters non-negative for every delta `δ` but the
least signed 64-bit integer: the hash step and the sorted-set step, each of which fails only with
the transaction it started from, the `HDecrFloor` template and the store's native decrement. -/
theorem floorDecrement_keeps_nonneg (δ : Int) (hδ : δ ≠ Text.i64Min) :
    (∀ (inv : Invocation) (key : KeySlot) (field delta : Operand) (fr : Frame) (k fl : String)
      (t₀ : Transaction), inv.key fr key = .ok k → inv.value field = .ok fl →
      inv.int delta = .ok δ → t₀.keyspace.FieldNonneg t₀.now k fl →
      ⦃fun t => ⌜t = t₀⌝⦄ Template.runStep inv (.hdecrFloor key field delta) fr
      ⦃post⟨fun _ t => ⌜t.keyspace.FieldNonneg t₀.now k fl⌝, fun _ t => ⌜t = t₀⌝⟩⦄) ∧
    (∀ (inv : Invocation) (key : KeySlot) (member delta : Operand) (fr : Frame) (k m : String)
      (t₀ : Transaction), inv.key fr key = .ok k → inv.value member = .ok m →
      inv.int delta = .ok δ → t₀.keyspace.ScoreNonneg t₀.now k m →
      ⦃fun t => ⌜t = t₀⌝⦄ Template.runStep inv (.zdecrFloor key member delta) fr
      ⦃post⟨fun _ t => ⌜t.keyspace.ScoreNonneg t₀.now k m⌝, fun _ t => ⌜t = t₀⌝⟩⦄) ∧
    (∀ (k f ds : String) (t₀ : Transaction), parseInt ds = .ok δ →
      t₀.keyspace.FieldNonneg t₀.now k f →
      ⦃fun t => ⌜t = t₀⌝⦄ Catalog.hdecrFloor.run [k] [f, ds]
      ⦃post⟨fun _ t => ⌜t.keyspace.FieldNonneg t₀.now k f⌝, fun _ t => ⌜t = t₀⌝⟩⦄) ∧
    (∀ (s : Store) (now : Nat) (k f : String), s.keyspace.FieldNonneg now k f →
      (s.decrFloor now .native k f δ).2.keyspace.FieldNonneg now k f) :=
  ⟨fun inv key field delta fr _ _ t₀ hk hf hd h₀ =>
      Template.runStep_hdecrFloor_nonneg inv key field delta fr hk hf (ne_least_of_eq_ok hd hδ) t₀ h₀,
    fun inv key member delta fr _ _ t₀ hk hm hd h₀ =>
      Template.runStep_zdecrFloor_nonneg inv key member delta fr hk hm (ne_least_of_eq_ok hd hδ) t₀
        h₀,
    fun k f ds t₀ hd h₀ => Template.run_hdecrFloor_nonneg k f ds (ne_least_of_eq_ok hd hδ) t₀ h₀,
    fun s now k f h₀ => Store.decrFloor_nonneg s now k f δ hδ h₀⟩

open Std.Do in
/-- A hash field of five and a member scored five, each decremented by three. -/
theorem floorDecrement_keeps_nonneg_example :
    let ks : Keyspace := (Keyspace.empty.put "h" ⟨.hash (KeyMap.empty.insert "agree" "5"), none⟩).put
      "z" ⟨.zset (SortedSet.empty.insert "1" 5), none⟩
    let t₀ := Transaction.begin ks 0
    let inv : Invocation := ⟨["h", "z"], ["agree", "3", "1"]⟩
    (3 : Int) ≠ Text.i64Min ∧ ks.FieldNonneg 0 "h" "agree" ∧ ks.ScoreNonneg 0 "z" "1" ∧
      inv.int (.arg 1) = .ok 3 ∧ parseInt "3" = .ok 3 ∧
      ⦃fun t => ⌜t = t₀⌝⦄ Template.runStep inv (.hdecrFloor (.slot 0) (.arg 0) (.arg 1)) {}
      ⦃post⟨fun _ t => ⌜t.keyspace.FieldNonneg 0 "h" "agree"⌝, fun _ t => ⌜t = t₀⌝⟩⦄ ∧
      ⦃fun t => ⌜t = t₀⌝⦄ Template.runStep inv (.zdecrFloor (.slot 1) (.arg 2) (.arg 1)) {}
      ⦃post⟨fun _ t => ⌜t.keyspace.ScoreNonneg 0 "z" "1"⌝, fun _ t => ⌜t = t₀⌝⟩⦄ ∧
      ⦃fun t => ⌜t = t₀⌝⦄ Catalog.hdecrFloor.run ["h"] ["agree", "3"]
      ⦃post⟨fun _ t => ⌜t.keyspace.FieldNonneg 0 "h" "agree"⌝, fun _ t => ⌜t = t₀⌝⟩⦄ ∧
      (({ keyspace := ks } : Store).decrFloor 0 .native "h" "agree" 3).2.keyspace.FieldNonneg 0
        "h" "agree" := by
  intro ks t₀ inv
  have hf : ks.FieldNonneg 0 "h" "agree" :=
    Keyspace.fieldNonneg_of_fieldText? (r := 5) rfl (by decide) (by decide)
  have hz : ks.ScoreNonneg 0 "z" "1" := Keyspace.scoreNonneg_of_memberScore? (r := 5) rfl (by decide)
  have hthree : parseInt "3" = .ok 3 := rfl
  have hδ : (3 : Int) ≠ Text.i64Min := by simp [Text.i64Min]
  have hkeeps := floorDecrement_keeps_nonneg 3 hδ
  exact ⟨hδ, hf, hz, hthree, hthree,
    hkeeps.1 inv _ _ _ {} "h" "agree" t₀ rfl rfl hthree hf,
    hkeeps.2.1 inv _ _ _ {} "z" "1" t₀ rfl rfl hthree hz,
    hkeeps.2.2.1 "h" "agree" "3" t₀ hthree hf,
    hkeeps.2.2.2 { keyspace := ks } 0 "h" "agree" hf⟩

/-- The least delta passes the guard and drives a counter of five to `5 - 2^63`. -/
theorem decrFloor_least_delta_negative :
    let s : Store :=
      { keyspace := Keyspace.empty.put "h" ⟨.hash (KeyMap.empty.insert "agree" "5"), none⟩ }
    s.keyspace.FieldNonneg 0 "h" "agree" ∧
      (s.decrFloor 0 .native "h" "agree" Text.i64Min).2.keyspace.fieldText? 0 "h" "agree" =
        .ok (some "-9223372036854775803") ∧
      ¬ (s.decrFloor 0 .native "h" "agree" Text.i64Min).2.keyspace.FieldNonneg 0 "h" "agree" := by
  intro s
  have hafter : (s.decrFloor 0 .native "h" "agree" Text.i64Min).2.keyspace.fieldText? 0 "h"
      "agree" = .ok (some "-9223372036854775803") := by
    unfold Store.decrFloor Store.invoke Store.runNamed Store.atomically Transaction.atomically
      Template.run
    simp only [Store.lookup_decrFloorScript, Catalog.hdecrFloor, Template.runSteps_cons,
      Template.runSteps_nil, Template.runStep]
    rfl
  refine ⟨Keyspace.fieldNonneg_of_fieldText? (r := 5) rfl (by decide) (by decide), hafter,
    fun h => ?_⟩
  obtain ⟨n, hn, h0⟩ := h _ hafter
  have hread : Text.parseI64? "-9223372036854775803" = some (-9223372036854775803) := by decide
  rw [hread, Option.some.injEq] at hn
  omega

end CounterCache
