import Mathlib
import CounterCache.Proofs.ScriptFootprints

/-!
# What removing content takes out of the cache

The deletion script deletes the counter hash and takes the id out of the owner index and every
ranking, and for visible content out of the visit index and the chronological index as well
(`Template.deleteContent_clears`): hidden content is never in those two. The comment deletion
script deletes the comment's counter hash (`Template.deleteComment_clears`). Creating or
republishing content as hidden takes its id out of the two views visitors read
(`Template.createContent_unlists`). Each script keeps every exclusion that its footprint leaves
alone, and adds what it removed.

The proofs follow the scripts step by step (`Template.runSteps_cons_next`): a removal adds what it
removed to the exclusion, a step that creates nothing keeps the exclusion, and every step goes on
to the next.
-/

namespace CounterCache

open Keys

namespace Exclusion

/-- The member `m` in none of the sorted sets at `ks`. -/
def absentFrom (ks : List String) (m : String) : Exclusion := ⟨∅, {p | p.1 ∈ ks ∧ p.2 = m}⟩

end Exclusion

namespace Keyspace

variable {ks : Keyspace} {now : Nat} {x : Exclusion} {k m : String} {l : List String}

theorem excludes_absentFrom : ks.Excludes now (.absentFrom l m) ↔ ∀ k ∈ l, ¬ ks.Ranks now k m := by
  rw [excludes_iff]
  simp [Exclusion.absentFrom]

theorem excludes_absentFrom_cons : ks.Excludes now (x ⊔ .member k m ⊔ .absentFrom l m) ↔
    ks.Excludes now (x ⊔ .absentFrom (k :: l) m) := by
  simp only [excludes_sup, excludes_absentFrom, excludes_member, List.mem_cons, forall_eq_or_imp,
    and_assoc]

end Keyspace

namespace Template

open Std.Do Transaction

set_option mvcgen.warning false

/-! ## Steps in sequence -/

section Sequence

variable (inv : Invocation)

/-- A step that goes on, with the loop key in force, hands its state to the rest of the steps. -/
theorem runSteps_cons_next {s : Step} {rest : List Step} {f : Frame} {I J : Transaction → Prop}
    {Φ : Flow × Frame → Transaction → Prop}
    (hs : ⦃fun t => ⌜I t⌝⦄ runStep inv s f
      ⦃post⟨fun r t => ⌜J t ∧ r.1 = .next ∧ r.2.current = f.current⌝, fun _ _ => ⌜True⌝⟩⦄)
    (hrest : ∀ f', f'.current = f.current →
      ⦃fun t => ⌜J t⌝⦄ runSteps inv rest f' ⦃post⟨fun r t => ⌜Φ r t⌝, fun _ _ => ⌜True⌝⟩⦄) :
    ⦃fun t => ⌜I t⌝⦄ runSteps inv (s :: rest) f ⦃post⟨fun r t => ⌜Φ r t⌝, fun _ _ => ⌜True⌝⟩⦄ := by
  rw [runSteps_cons]
  mvcgen [hs]
  · -- the step went on, so the run does not end here
    rename_i hret _ hpost
    rw [hpost.2.1] at hret
    cases hret
  · intro t hJ _ hcur
    exact hrest _ hcur t hJ

/-- A run's steps decide its exclusion; a script whose arguments do not fit fails. -/
theorem run_of_runSteps {tm : Template} {keys args : List String} {I J : Transaction → Prop}
    (h : ⦃fun t => ⌜I t⌝⦄ runSteps ⟨keys, args⟩ tm.steps {}
      ⦃post⟨fun _ t => ⌜J t⌝, fun _ _ => ⌜True⌝⟩⦄) :
    ⦃fun t => ⌜I t⌝⦄ tm.run keys args ⦃post⟨fun _ t => ⌜J t⌝, fun _ _ => ⌜True⌝⟩⦄ := by
  unfold run
  mvcgen [h, monadLift_eq_ofExcept, Transaction.ofExcept]

end Sequence

/-! ## Steps that remove -/

section Steps

variable (x : Exclusion) (inv : Invocation)

theorem runStep_excludes_next (s : Step) (f : Frame)
    (h : Step.Leaves inv (Step.SparesOn inv x) f.current s) :
    ⦃fun t => ⌜t.Excludes x⌝⦄ runStep inv s f
    ⦃post⟨fun r t => ⌜t.Excludes x ∧ r.1 = .next ∧ r.2.current = f.current⌝,
      fun _ _ => ⌜True⌝⟩⦄ :=
  runStep_keeps inv (Step.SparesOn inv x) (Transaction.Excludes x) (fun _ => True) (· = .next)
    (fun _ _ => trivial) rfl (fun _ c hc => absurd rfl (hc.2 c))
    (fun s f hs hsp => runStep_excludes x inv s f hs hsp.1) s f h

theorem runStep_del_clears (key : KeySlot) (f : Frame) {k : String} (hk : inv.key f key = .ok k) :
    ⦃fun t => ⌜t.Excludes x⌝⦄ runStep inv (.del key) f
    ⦃post⟨fun r t => ⌜t.Excludes (x ⊔ .key k) ∧ r.1 = .next ∧ r.2.current = f.current⌝,
      fun _ _ => ⌜True⌝⟩⦄ := by
  simp only [runStep]
  have hdel := del_clears x
  mvcgen [hk, Transaction.ofExcept, monadLift_eq_ofExcept, hdel, -del_spec]

theorem runStep_zrem_clears (key : KeySlot) (member : Operand) (f : Frame) {k m : String}
    (hk : inv.key f key = .ok k) (hm : inv.value member = .ok m) :
    ⦃fun t => ⌜t.Excludes x⌝⦄ runStep inv (.zrem key member) f
    ⦃post⟨fun r t => ⌜t.Excludes (x ⊔ .member k m) ∧ r.1 = .next ∧ r.2.current = f.current⌝,
      fun _ _ => ⌜True⌝⟩⦄ := by
  simp only [runStep]
  have hzrem := zrem_clears x
  mvcgen [hk, hm, Transaction.ofExcept, monadLift_eq_ofExcept, hzrem, -zrem_spec]

/-- A loop removing the member from every key takes it out of all of them. -/
theorem runForEach_zrem_clears (member : Operand) {m : String} (hm : inv.value member = .ok m)
    (ks : List String) (f : Frame) (x : Exclusion) :
    ⦃fun t => ⌜t.Excludes x⌝⦄ runForEach inv [.zrem .current member] ks f
    ⦃post⟨fun r t => ⌜t.Excludes (x ⊔ .absentFrom ks m) ∧ r.1 = .next⌝, fun _ _ => ⌜True⌝⟩⦄ := by
  induction ks generalizing f x with
  | nil =>
    rw [runForEach]
    mvcgen
    rename_i t hx
    exact Keyspace.excludes_sup.2 ⟨hx, Keyspace.excludes_absentFrom.2 (by simp)⟩
  | cons k ks ih =>
    have hzrem := runStep_zrem_clears x inv .current member { f with current := some k } rfl hm
    have hrest := fun f' => ih f' (x ⊔ .member k m)
    rw [runForEach]
    simp only [runSteps_cons, runSteps_nil]
    mvcgen [hzrem, hrest]
    · -- the removal went on to the next key
      rename_i hret _ hpost
      rw [hpost.2.1] at hret
      cases hret
    · exact ‹_ ∧ _›.1
    · intro hx hnext
      exact ⟨Keyspace.excludes_absentFrom_cons.1 hx, hnext⟩

theorem runStep_forEach_zrem_clears (first : Nat) (member : Operand) {m : String}
    (hm : inv.value member = .ok m) (f : Frame) :
    ⦃fun t => ⌜t.Excludes x⌝⦄ runStep inv (.forEachKey first [.zrem .current member]) f
    ⦃post⟨fun r t => ⌜t.Excludes (x ⊔ .absentFrom (inv.keys.drop first) m) ∧ r.1 = .next ∧
      r.2.current = f.current⌝, fun _ _ => ⌜True⌝⟩⦄ := by
  have hloop := runForEach_zrem_clears inv member hm (inv.keys.drop first) f x
  simp only [runStep]
  mvcgen [hloop]
  exact ‹_›

/-- Taking an id out of the visit index and the chronological index, keys 2 and 3, with the
owner's count of visible content decremented in between. -/
theorem runSteps_unlist_clears (field : Operand) (f : Frame) {visit chrono m : String}
    (hvisit : inv.keys[2]? = some visit) (hchrono : inv.keys[3]? = some chrono)
    (hm : inv.args[0]? = some m) :
    ⦃fun t => ⌜t.Excludes x⌝⦄
    runSteps inv [.zrem (.slot 2) (.arg 0), .when .changed [.hdecrFloor (.slot 4) field (.int 1)],
      .zrem (.slot 3) (.arg 0)] f
    ⦃post⟨fun r t => ⌜t.Excludes (x ⊔ .absentFrom [visit, chrono] m) ∧ r.1 = .next ∧
      r.2.current = f.current⌝, fun _ _ => ⌜True⌝⟩⦄ := by
  have hv : inv.value (.arg 0) = .ok m := by simp [Invocation.value, Invocation.arg, hm]
  apply runSteps_cons_next inv (runStep_zrem_clears x inv (.slot 2) (.arg 0) f (k := visit)
    (by simp [Invocation.key, hvisit]) hv)
  intro f1 hf1
  apply runSteps_cons_next inv (runStep_excludes_next _ inv _ f1
    (by simp [Step.Leaves, Step.ListLeaves, Step.SparesOn, Step.Spares]))
  intro f2 hf2
  apply runSteps_cons_next inv (runStep_zrem_clears _ inv (.slot 3) (.arg 0) f2 (k := chrono)
    (by simp [Invocation.key, hchrono]) hv)
  intro f3 hf3
  rw [runSteps_nil]
  mvcgen
  rename_i t hx
  refine ⟨Keyspace.excludes_absentFrom_cons.1 ?_, trivial, hf3.trans (hf2.trans hf1)⟩
  simpa only [Transaction.Excludes, Keyspace.excludes_sup, Keyspace.excludes_absentFrom,
    List.mem_singleton, forall_eq, Keyspace.excludes_member] using hx

/-- A block run only when argument `i` is `lit` unlists the id where it runs. -/
theorem runStep_when_unlist_clears (i : Nat) (lit : String) (field : Operand) (f : Frame)
    {visit chrono m a : String} (hvisit : inv.keys[2]? = some visit)
    (hchrono : inv.keys[3]? = some chrono) (hm : inv.args[0]? = some m)
    (ha : inv.args[i]? = some a) :
    ⦃fun t => ⌜t.Excludes x⌝⦄
    runStep inv (.when (.argEq i lit) [.zrem (.slot 2) (.arg 0),
      .when .changed [.hdecrFloor (.slot 4) field (.int 1)], .zrem (.slot 3) (.arg 0)]) f
    ⦃post⟨fun r t => ⌜t.Excludes (x ⊔ .absentFrom (if a = lit then [visit, chrono] else []) m) ∧
      r.1 = .next ∧ r.2.current = f.current⌝, fun _ _ => ⌜True⌝⟩⦄ := by
  have hblock := runSteps_unlist_clears x inv field f hvisit hchrono hm
  have hv : inv.value (.arg i) = .ok a := by simp [Invocation.value, Invocation.arg, ha]
  simp only [runStep]
  mvcgen [hv, hblock, monadLift_eq_ofExcept, Transaction.ofExcept]
  · -- the argument is `lit`: the block ran
    rename_i heq _ _
    rw [if_pos (beq_iff_eq.1 heq)]
    exact fun hx hnext hcur => ⟨hx, hnext, hcur⟩
  · -- it is not: nothing ran, and there is nothing more to exclude
    rename_i hx hne
    rw [if_neg (fun h => hne (beq_iff_eq.2 h))]
    exact Keyspace.excludes_sup.2 ⟨hx, Keyspace.excludes_absentFrom.2 (by simp)⟩

end Steps

/-! ## The scripts -/

section Scripts

variable (x : Exclusion)

/-- Deleting content deletes its counter hash and takes its id out of the owner index and every
ranking, and, for visible content, out of the visit index and the chronological index. -/
theorem deleteContent_clears (name : String) (kind : Kind) (id : Nat) (owner : String)
    (vis : Visibility) :
    ⦃fun t => ⌜t.Excludes x⌝⦄
    (Catalog.deleteContent name).run (contentKeys kind id owner ++ allRankingKeys kind)
      [toString id, vis.authFlag, kind.name]
    ⦃post⟨fun _ t => ⌜t.Excludes (x ⊔ .key (counter kind id) ⊔
      .absentFrom (ownerIndex owner kind :: allRankingKeys kind ++
        if vis = .visible then [visitIndex owner kind, chronological kind] else []) (toString id))⌝,
      fun _ _ => ⌜True⌝⟩⦄ := by
  apply run_of_runSteps
  simp only [Catalog.deleteContent, Catalog.k, Catalog.a]
  apply runSteps_cons_next _ (runStep_del_clears x _ (.slot 0) {} (k := counter kind id) rfl)
  intro f1 hf1
  apply runSteps_cons_next _ (runStep_zrem_clears _ _ (.slot 1) (.arg 0) f1
    (k := ownerIndex owner kind) (m := toString id) rfl rfl)
  intro f2 hf2
  apply runSteps_cons_next _ (runStep_excludes_next _ _ _ f2
    (by simp [Step.Leaves, Step.ListLeaves, Step.SparesOn, Step.Spares]))
  intro f3 hf3
  apply runSteps_cons_next _ (runStep_forEach_zrem_clears _ _ 5 (.arg 0) (m := toString id) rfl f3)
  intro f4 hf4
  apply runSteps_cons_next _ (runStep_when_unlist_clears _ _ 1 "0" _ f4
    (show _ = some (visitIndex owner kind) from rfl) (show _ = some (chronological kind) from rfl)
    (show _ = some (toString id) from rfl) (show _ = some vis.authFlag from rfl))
  intro f5 hf5
  rw [runSteps_nil]
  mvcgen
  rename_i t hx
  have hdrop : (contentKeys kind id owner ++ allRankingKeys kind).drop 5 = allRankingKeys kind := by
    simp [contentKeys]
  have hflag : vis.authFlag = "0" ↔ vis = .visible := by cases vis <;> simp [Visibility.authFlag]
  simp only [hdrop, hflag, Transaction.Excludes, Keyspace.excludes_sup, Keyspace.excludes_absentFrom,
    Keyspace.excludes_member, List.mem_cons, List.mem_append, or_imp, forall_and,
    forall_eq] at hx ⊢
  obtain ⟨⟨⟨hkept, hown⟩, hranks⟩, hvisible⟩ := hx
  exact ⟨hkept, ⟨hown, hranks⟩, hvisible⟩

/-- Deleting a comment deletes its counter hash. -/
theorem deleteComment_clears (cid : Nat) (rest args : List String) :
    ⦃fun t => ⌜t.Excludes x⌝⦄ Catalog.deleteComment.run (counter .comment cid :: rest) args
    ⦃post⟨fun _ t => ⌜t.Excludes (x ⊔ .key (counter .comment cid))⌝, fun _ _ => ⌜True⌝⟩⦄ := by
  apply run_of_runSteps
  simp only [Catalog.deleteComment, Catalog.k, Catalog.decr, Catalog.rankingsDecr]
  apply runSteps_cons_next _ (runStep_del_clears x _ (.slot 0) {} (k := counter .comment cid) rfl)
  -- the rest only decrements what is there
  intro f1 _
  apply runSteps_cons_next _ (runStep_excludes_next _ _ _ f1
    (by simp [Step.Leaves, Step.ListLeaves, Step.SparesOn, Step.Spares]))
  intro f2 _
  apply runSteps_cons_next _ (runStep_excludes_next _ _ _ f2
    (by simp [Step.Leaves, Step.SparesOn, Step.Spares]))
  intro f3 _
  apply runSteps_cons_next _ (runStep_excludes_next _ _ _ f3
    (by simp [Step.Leaves, Step.ListLeaves, Step.SparesOn, Step.Spares]))
  intro f4 _
  rw [runSteps_nil]
  mvcgen

/-- Creating or republishing content as hidden takes its id out of the visit index and the
chronological index, and keeps every exclusion its footprint leaves alone. -/
theorem createContent_unlists (name : String) (kind : Kind) (id : Nat)
    (owner mode ttl score : String) (hr : (KindSpec.of kind).ranked = true)
    (hc : counter kind id ∉ x.keys)
    (hv : ∀ k ∈ contentViews kind owner, k ∉ x.keys ∧ (k, toString id) ∉ x.members) :
    ⦃fun t => ⌜t.Excludes x⌝⦄
    (Catalog.createContent name).run (contentKeys kind id owner ++ allRankingKeys kind)
      [toString id, owner, Visibility.hidden.authFlag, mode, ttl, kind.name, score]
    ⦃post⟨fun _ t => ⌜t.Excludes (x ⊔
      .absentFrom [visitIndex owner kind, chronological kind] (toString id))⌝,
      fun _ _ => ⌜True⌝⟩⦄ := by
  have hleaves := Catalog.createContent_leaves x name kind id owner Visibility.hidden.authFlag mode
    ttl score hr hc hv
  apply run_of_runSteps
  simp only [Catalog.createContent] at hleaves ⊢
  -- creation, republish and listing spare the exclusion; the hidden block unlists
  apply runSteps_cons_next _ (runStep_excludes_next _ _ _ {} hleaves.1)
  intro f1 hf1
  apply runSteps_cons_next _ (runStep_excludes_next _ _ _ f1 (hf1 ▸ hleaves.2.1))
  intro f2 hf2
  apply runSteps_cons_next _ (runStep_excludes_next _ _ _ f2 ((hf2.trans hf1) ▸ hleaves.2.2.1))
  intro f3 hf3
  apply runSteps_cons_next _ (runStep_when_unlist_clears _ _ 2 "1" _ f3
    (show _ = some (visitIndex owner kind) from rfl) (show _ = some (chronological kind) from rfl)
    (show _ = some (toString id) from rfl) (show _ = some Visibility.hidden.authFlag from rfl))
  intro f4 hf4
  rw [runSteps_nil]
  mvcgen

end Scripts

end Template

end CounterCache
