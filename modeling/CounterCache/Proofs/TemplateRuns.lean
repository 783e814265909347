import Mathlib
import CounterCache.Proofs.FloorDecrement
import CounterCache.Proofs.BatchReplay

/-!
# What a template run keeps

A template's steps nest: a `when` runs its body, and a per-key loop runs its body once per key,
with that key bound. The other steps, the leaf steps, are the ones that act on the transaction.
A property of transactions that every leaf step keeps, under a condition on the step and on the
loop key in force, is kept by every run of the template (`runSteps_keeps`, and `run_keeps` for a
whole run). `Step.ListLeaves` says that the condition holds of every leaf step a run can reach;
the proof follows the three functions of the runner.

The first use is atomicity. Every leaf step keeps `Transaction.RestoresTo`, so a native run of a
catalog script that fails leaves the store's keyspace as it found it (`runNamed_native_error`).
-/

namespace CounterCache

namespace Step

/-- A step that acts on the transaction and goes on to the next: neither a condition, nor a
loop, nor a final answer. -/
def IsLeaf : Step → Prop
  | .when .. | .forEachKey .. | .ret _ => False
  | _ => True

mutual
/-- `P cur s` holds of every leaf step `s` that running this step can reach, where `cur` is the
loop key bound when `s` runs. -/
def Leaves (inv : Invocation) (P : Option String → Step → Prop) (cur : Option String) :
    Step → Prop
  | .when _ body => ListLeaves inv P cur body
  | .forEachKey first body => ∀ k ∈ inv.keys.drop first, ListLeaves inv P (some k) body
  | s => P cur s

/-- `P` holds of every leaf step that running these steps can reach. -/
def ListLeaves (inv : Invocation) (P : Option String → Step → Prop) (cur : Option String) :
    List Step → Prop
  | [] => True
  | s :: rest => Leaves inv P cur s ∧ ListLeaves inv P cur rest
end

mutual
/-- A condition that holds of every step holds of every leaf step reached. -/
theorem leaves_of_forall {inv : Invocation} {P : Option String → Step → Prop}
    (hP : ∀ cur s, P cur s) (cur : Option String) (s : Step) : Leaves inv P cur s := by
  match s with
  | .when _ body => exact listLeaves_of_forall hP cur body
  | .forEachKey _ body => exact fun k _ => listLeaves_of_forall hP (some k) body
  | .hsetnx .. | .hset .. | .hincrIfExists .. | .hdecrFloor .. | .expire .. | .zadd ..
  | .zincrIfMember .. | .zdecrFloor .. | .zrem .. | .sadd .. | .srem .. | .del .. | .ret ..
  | .setStatus .. => exact hP cur _

theorem listLeaves_of_forall {inv : Invocation} {P : Option String → Step → Prop}
    (hP : ∀ cur s, P cur s) (cur : Option String) (steps : List Step) :
    ListLeaves inv P cur steps := by
  match steps with
  | [] => trivial
  | s :: rest => exact ⟨leaves_of_forall hP cur s, listLeaves_of_forall hP cur rest⟩
end

mutual
/-- A weaker condition holds of every leaf step reached where a stronger one does. -/
theorem leaves_mono {inv : Invocation} {P Q : Option String → Step → Prop}
    (hPQ : ∀ cur s, P cur s → Q cur s) (cur : Option String) (s : Step)
    (h : Leaves inv P cur s) : Leaves inv Q cur s := by
  match s, h with
  | .when _ body, h => exact listLeaves_mono hPQ cur body h
  | .forEachKey _ body, h => exact fun k hk => listLeaves_mono hPQ (some k) body (h k hk)
  | .hsetnx .., h | .hset .., h | .hincrIfExists .., h | .hdecrFloor .., h | .expire .., h
  | .zadd .., h | .zincrIfMember .., h | .zdecrFloor .., h | .zrem .., h | .sadd .., h
  | .srem .., h | .del .., h | .ret .., h | .setStatus .., h => exact hPQ cur _ h

theorem listLeaves_mono {inv : Invocation} {P Q : Option String → Step → Prop}
    (hPQ : ∀ cur s, P cur s → Q cur s) (cur : Option String) (steps : List Step)
    (h : ListLeaves inv P cur steps) : ListLeaves inv Q cur steps := by
  match steps, h with
  | [], _ => trivial
  | s :: rest, ⟨hs, hrest⟩ => exact ⟨leaves_mono hPQ cur s hs, listLeaves_mono hPQ cur rest hrest⟩
end

end Step

namespace Template

open Std.Do Transaction

set_option mvcgen.warning false

section Keeps

/- `I` is the property kept, `E` what holds when a run fails; a failure that changes nothing
leaves `E`, so `I` must imply it. The leaf steps keep `I` and the loop key in force, and go on.
`F` is what the way a run ends may be: going on, or a final answer that `P` allows. -/
variable (inv : Invocation) (P : Option String → Step → Prop) (I E : Transaction → Prop)
  (F : Flow → Prop) (hIE : ∀ t, I t → E t) (hnext : F .next)
  (hret : ∀ cur c, P cur (.ret c) → F (.ret c))
  (hleaf : ∀ s f, s.IsLeaf → P f.current s →
    ⦃fun t => ⌜I t⌝⦄ runStep inv s f
    ⦃post⟨fun r t => ⌜I t ∧ r.1 = .next ∧ r.2.current = f.current⌝, fun _ t => ⌜E t⌝⟩⦄)
include hIE hnext hret hleaf

set_option linter.unusedSectionVars false

mutual
/-- A run of steps keeps what their leaf steps keep, and the loop key in force. -/
theorem runSteps_keeps (steps : List Step) (f : Frame)
    (h : Step.ListLeaves inv P f.current steps) :
    ⦃fun t => ⌜I t⌝⦄ runSteps inv steps f
    ⦃post⟨fun r t => ⌜I t ∧ F r.1 ∧ r.2.current = f.current⌝, fun _ t => ⌜E t⌝⟩⦄ := by
  match steps, h with
  | [], _ =>
    rw [runSteps_nil]
    mvcgen
  | s :: rest, ⟨hs, hrest⟩ =>
    have hstep := runStep_keeps s f hs
    rw [runSteps_cons]
    mvcgen [hstep]
    · -- a final answer ends the run with the frame the first step left
      rename_i hflow _ hpost
      rw [hflow] at hpost
      exact hpost
    · -- the rest runs with the frame the first step left, whose loop key is the same
      intro t ht _ hcur
      rw [← hcur]
      exact runSteps_keeps rest _ (hcur ▸ hrest) t ht
termination_by (sizeOf steps, 0)

/-- One step keeps what the leaf steps it reaches keep; a loop binds its keys and then puts the
loop key in force back. -/
theorem runStep_keeps (s : Step) (f : Frame) (h : Step.Leaves inv P f.current s) :
    ⦃fun t => ⌜I t⌝⦄ runStep inv s f
    ⦃post⟨fun r t => ⌜I t ∧ F r.1 ∧ r.2.current = f.current⌝, fun _ t => ⌜E t⌝⟩⦄ := by
  match s, h with
  | .when c body, h =>
    have hbody := runSteps_keeps body f h
    -- the condition only reads; a failure to read it changes nothing
    cases c <;> simp only [runStep] <;>
      mvcgen [hbody, Transaction.exists?, Transaction.ofExcept, monadLift_eq_ofExcept]
    all_goals exact hIE _ ‹_›
  | .forEachKey first body, h =>
    have hloop := runForEach_keeps body (inv.keys.drop first) f h
    simp only [runStep]
    mvcgen [hloop]
    exact ‹_›
  | .ret c, h =>
    simp only [runStep]
    mvcgen
    exact ⟨‹_›, hret _ _ h⟩
  | .hsetnx .., h | .hset .., h | .hincrIfExists .., h | .hdecrFloor .., h | .expire .., h
  | .zadd .., h | .zincrIfMember .., h | .zdecrFloor .., h | .zrem .., h | .sadd .., h
  | .srem .., h | .del .., h | .setStatus .., h =>
    have hl := hleaf _ f (by trivial) h
    mvcgen [hl]
    intro hI hflow hcur
    exact ⟨hI, hflow ▸ hnext, hcur⟩
termination_by (sizeOf s, 0)

/-- A loop keeps what its body keeps for each key. -/
theorem runForEach_keeps (body : List Step) (ks : List String) (f : Frame)
    (h : ∀ k ∈ ks, Step.ListLeaves inv P (some k) body) :
    ⦃fun t => ⌜I t⌝⦄ runForEach inv body ks f
    ⦃post⟨fun r t => ⌜I t ∧ F r.1⌝, fun _ t => ⌜E t⌝⟩⦄ := by
  match ks, h with
  | [], _ =>
    rw [runForEach]
    mvcgen
  | k :: ks, h =>
    have hbody := runSteps_keeps body { f with current := some k } (h k List.mem_cons_self)
    rw [runForEach]
    mvcgen [hbody]
    · rename_i hflow _ hpost
      rw [hflow] at hpost
      exact ⟨hpost.1, hpost.2.1⟩
    · intro t ht _ _
      exact runForEach_keeps body ks _ (fun k hk => h k (List.mem_cons_of_mem _ hk)) t ht
termination_by (sizeOf body, ks.length + 1)
end

end Keeps

/-- A whole run keeps what the leaf steps of the template keep. -/
theorem run_keeps (P : Option String → Step → Prop) (I E : Transaction → Prop)
    (hIE : ∀ t, I t → E t) (tm : Template) (keys args : List String)
    (hleaf : ∀ s f, s.IsLeaf → P f.current s →
      ⦃fun t => ⌜I t⌝⦄ runStep ⟨keys, args⟩ s f
      ⦃post⟨fun r t => ⌜I t ∧ r.1 = .next ∧ r.2.current = f.current⌝, fun _ t => ⌜E t⌝⟩⦄)
    (h : Step.ListLeaves ⟨keys, args⟩ P none tm.steps) :
    ⦃fun t => ⌜I t⌝⦄ tm.run keys args ⦃post⟨fun _ t => ⌜I t⌝, fun _ t => ⌜E t⌝⟩⦄ := by
  have hsteps := runSteps_keeps ⟨keys, args⟩ P I E (fun _ => True) hIE trivial
    (fun _ _ _ => trivial) hleaf tm.steps {} h
  unfold run
  mvcgen [hsteps, monadLift_eq_ofExcept, Transaction.ofExcept]
  all_goals first | exact hIE _ ‹_› | exact ‹_ ∧ _›.1

/-! ## Properties every write keeps -/

section Writes

/- A property of transactions that every write keeps, the removals being written only after a
read found what they remove, is kept by every primitive call (`Transaction.del_keeps` and its
companions), hence by every leaf step and every run. -/
variable (I : Transaction → Prop)
  (hw : ∀ op, op.isRestore = false →
    ⦃fun t => ⌜I t ∧ ¬ RemovesFromEmpty t.keyspace op t.now⌝⦄ write op
    ⦃post⟨fun _ t => ⌜I t⌝, fun _ t => ⌜I t⌝⟩⦄)
include hw

theorem runStep_keeps_of_write (inv : Invocation) (s : Step) (f : Frame) (hs : s.IsLeaf) :
    ⦃fun t => ⌜I t⌝⦄ runStep inv s f
    ⦃post⟨fun r t => ⌜I t ∧ r.1 = .next ∧ r.2.current = f.current⌝, fun _ t => ⌜I t⌝⟩⦄ := by
  have hdel := del_keeps I hw
  have hexpire := expire_keeps I hw
  have hhset := hset_keeps I hw
  have hhsetnx := hsetnx_keeps I hw
  have hhincrby := hincrby_keeps I hw
  have hzadd := zadd_keeps I hw
  have hzincrby := zincrby_keeps I hw
  have hzrem := zrem_keeps I hw
  have hsadd := sadd_keeps I hw
  have hsrem := srem_keeps I hw
  cases s <;> simp only [Step.IsLeaf] at hs
  -- the sorted-set decrement's guard is a match on the score read, split by hand
  case zdecrFloor =>
    simp only [runStep]
    mvcgen [Transaction.ofExcept, monadLift_eq_ofExcept, zscore_eq]
    split
    next => split <;> mvcgen [hzincrby, -zincrby_spec]
    next => mvcgen
  all_goals simp only [runStep]
  all_goals mvcgen [Transaction.exists?, Transaction.ofExcept, monadLift_eq_ofExcept,
    liftM_eq_ofExcept, hget_eq, zscore_eq, hdel, hexpire, hhset, hhsetnx, hhincrby, hzadd,
    hzincrby, hzrem, hsadd, hsrem, -del_spec, -expire_spec, -hset_spec, -hsetnx_spec,
    -hincrby_spec, -zadd_spec, -zincrby_spec, -zrem_spec, -sadd_spec, -srem_spec]

theorem run_keeps_of_write (tm : Template) (keys args : List String) :
    ⦃fun t => ⌜I t⌝⦄ tm.run keys args ⦃post⟨fun _ t => ⌜I t⌝, fun _ t => ⌜I t⌝⟩⦄ :=
  run_keeps (fun _ _ => True) I I (fun _ h => h) tm keys args
    (fun s f hs _ => runStep_keeps_of_write I hw _ s f hs)
    (Step.listLeaves_of_forall (fun _ _ => trivial) none tm.steps)

end Writes

/-- A run of a template leaves notes that take all its writes back, whether it answers or
fails. -/
theorem run_restoresTo (K : Keyspace) (tm : Template) (keys args : List String) :
    ⦃fun t => ⌜RestoresTo K t⌝⦄ tm.run keys args
    ⦃post⟨fun _ t => ⌜RestoresTo K t⌝, fun _ t => ⌜RestoresTo K t⌝⟩⦄ :=
  run_keeps_of_write (RestoresTo K) (fun op _ => write_spec K op) tm keys args

/-- A run of a template keeps the time of its transaction. -/
theorem run_now (n : Nat) (tm : Template) (keys args : List String) :
    ⦃fun t => ⌜t.now = n⌝⦄ tm.run keys args
    ⦃post⟨fun _ t => ⌜t.now = n⌝, fun _ t => ⌜t.now = n⌝⟩⦄ := by
  refine run_keeps_of_write (fun t => t.now = n) (fun op _ => ?_) tm keys args
  mvcgen [write, Transaction.ofExcept, -write_spec]
  all_goals exact ‹_ ∧ _›.1

end Template

namespace Store

open Std.Do

/-- A native run of a catalog script that fails leaves the store's keyspace as it was: the
transaction is rolled back, and an unknown name runs nothing. -/
theorem runNamed_native_error {s s' : Store} {now : Nat} {name : String}
    {keys args : List String} {e : Error}
    (h : s.runNamed now .native name keys args = (.error e, s')) :
    s'.keyspace = s.keyspace := by
  unfold runNamed at h
  split at h
  · exact (Prod.mk.inj h).2 ▸ rfl
  · rename_i tm _
    have hrestore := fun {x} (hx : (tm.run keys args).run (Transaction.begin s.keyspace now) = x) =>
      EStateM.of_wp_run_eq (P := fun r => Transaction.RestoresTo s.keyspace (Transaction.afterRun r))
        hx (fun _ => Template.run_restoresTo s.keyspace tm keys args _ rfl)
    cases hr : (tm.run keys args).run (Transaction.begin s.keyspace now) with
    | ok a t =>
      simp only [atomically, Transaction.atomically, hr, Except.map] at h
      cases h
    | error e' t =>
      have ht : t.rollback = s.keyspace := hrestore hr
      simp only [atomically, Transaction.atomically, hr, Except.map, Prod.mk.injEq] at h
      rw [← h.2, ← ht]

end Store

end CounterCache
