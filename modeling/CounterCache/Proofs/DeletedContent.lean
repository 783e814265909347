import Mathlib
import CounterCache.Proofs.ContentLifecycle

/-!
# Deleted content stays out of the cache

Every write, read and passing of time from a clean controller gives a clean one, so by
induction over `Controller.Reachable` every controller reachable from an empty one is clean:
a deleted content record has no counter hash in the cache and its id is in none of the views
of its kind. Writes keep a deleted record deleted, except the one they create; adding a comment
again is such a write (`Controller.deleted_comment_readded`).
-/

namespace CounterCache

namespace Controller

open Std.Do SystemOfRecord Exclusion CounterRecord

set_option mvcgen.warning false

/-! ## Every write, read and passing of time -/

/-- What a triple from `P` says of a run from a controller satisfying `P`. -/
theorem post_of_run {α : Type} {prog : CtlM α} {P : Controller → Prop}
    {Q : α → Controller → Prop} {E : Error → Controller → Prop}
    (h : ⦃fun c => ⌜P c⌝⦄ prog ⦃post⟨fun a c => ⌜Q a c⌝, fun e c => ⌜E e c⌝⟩⦄)
    {c₀ c : Controller} (hp : P c₀) {res : Except Error α} (hrun : prog.run.run c₀ = (res, c)) :
    match res with
    | .ok a => Q a c
    | .error e => E e c := by
  have hwp := h c₀ hp
  simp only [wp, PredTrans.apply, PredTrans.pushExcept, PredTrans.pushArg] at hwp
  dsimp only [StateT.run] at hwp hrun
  rw [hrun] at hwp
  cases res <;> exact hwp

/-- A write the controller offers. -/
inductive Write where
  | registerUser (uuid : String)
  | createContent (kind : Kind) (id : Nat) (owner : String) (vis : Visibility)
  | republish (kind : Kind) (id : Nat) (vis : Visibility)
  | deleteContent (kind : Kind) (id : Nat)
  | agree (kind : Kind) (id : Nat) (user : String)
  | cancelAgree (kind : Kind) (id : Nat) (user : String)
  | collect (kind : Kind) (id : Nat) (user : String)
  | cancelCollect (kind : Kind) (id : Nat) (user : String)
  | view (kind : Kind) (id : Nat)
  | addComment (parentKind : Kind) (parentId commentId : Nat) (author : String)
  | removeComment (commentId : Nat)
  | follow (follower followed : String)
  | unfollow (follower followed : String)
  deriving DecidableEq, Repr

namespace Write

/-- The controller's operation for the write. -/
def run : Write → CtlM Outcome
  | registerUser uuid => Controller.registerUser uuid
  | createContent kind id owner vis => Controller.createContent kind id owner vis
  | republish kind id vis => Controller.republish kind id vis
  | deleteContent kind id => Controller.deleteContent kind id
  | agree kind id user => Controller.agree kind id user
  | cancelAgree kind id user => Controller.cancelAgree kind id user
  | collect kind id user => Controller.collect kind id user
  | cancelCollect kind id user => Controller.cancelCollect kind id user
  | view kind id => Controller.view kind id
  | addComment pk pid cid author => Controller.addComment pk pid cid author
  | removeComment cid => Controller.removeComment cid
  | follow follower followed => Controller.follow follower followed
  | unfollow follower followed => Controller.unfollow follower followed

/-- The content a write may bring back after its deletion: the content it creates. -/
def Revives : Write → Kind → Nat → Prop
  | createContent kind id _ _, k, i => k = kind ∧ i = id
  | addComment _ _ cid _, k, i => k = .comment ∧ i = cid
  | _, _, _ => False

end Write

/-- A read the controller offers. -/
inductive Read where
  | contentCounters (kind : Kind) (id : Nat)
  | achievement (uuid : String)
  | contentCounts (uuid : String)
  | ranking (kind : Kind) (view : String) (limit : Nat)
  | collections (user : String) (kind : Kind)
  | recordState (kind : Kind) (id : Nat)
  deriving DecidableEq, Repr

/-- The controller's operation for the read, its answer set aside. -/
def Read.run : Read → CtlM Unit
  | .contentCounters kind id => do let _ ← Controller.contentCounters kind id; pure ()
  | .achievement uuid => do let _ ← Controller.achievement uuid; pure ()
  | .contentCounts uuid => do let _ ← Controller.contentCounts uuid; pure ()
  | .ranking kind view limit => do let _ ← Controller.ranking kind view limit; pure ()
  | .collections user kind => do let _ ← Controller.collections user kind; pure ()
  | .recordState kind id => do let _ ← Controller.recordState kind id; pure ()

/-- The controllers reachable from an empty one, with scripts run natively, through writes
whose cache scripts do not fail, reads, the clock moving on, and the cache losing keys: a key
deleted from outside, or expired entries purged. -/
inductive Reachable : Controller → Prop where
  | empty (now : Nat) (dispatcher : Dispatcher) : Reachable { now, dispatcher }
  | write {c c' : Controller} {res : Except Error Outcome} (w : Write) (hc : Reachable c)
      (hrun : w.run.run.run c = (res, c'))
      (hok : ∀ o, res = .ok o → ∀ msg, o.cache ≠ .failed msg) : Reachable c'
  | read {c c' : Controller} {res : Except Error Unit} (q : Read) (hc : Reachable c)
      (hrun : q.run.run.run c = (res, c')) : Reachable c'
  | tick {c : Controller} {now : Nat} (hc : Reachable c) (hle : c.now ≤ now) :
      Reachable { c with now }
  | evict {c : Controller} (k : String) (hc : Reachable c) :
      Reachable { c with cache := { c.cache with keyspace := c.cache.keyspace.remove k } }
  | purge {c : Controller} (hc : Reachable c) :
      Reachable { c with cache := { c.cache with keyspace := (c.cache.keyspace.purgeExpired c.now).1 } }

section Steps

variable (c₀ : Controller) (hc : c₀.Clean)
include hc

/-- Keeping a clean controller's exclusions keeps it clean, and its deleted content deleted. -/
theorem settled_of_keeps {c : Controller} (h : c₀.Keeps c) :
    c.Clean ∧ ∀ k i, c₀.records.Deleted k i → c.records.Deleted k i :=
  ⟨hc.keeps h, fun _ _ ⟨_, hx, hd⟩ => h.deleted hx hd⟩

/-- An operation that keeps a clean controller's exclusions settles like a write that revives
nothing. -/
theorem settled_of_keepsSpec {op : CtlM Outcome} (R : Kind → Nat → Prop)
    (h : ⦃fun c => ⌜c₀.Keeps c⌝⦄ op ⦃post⟨fun _ c => ⌜c₀.Keeps c⌝, fun _ c => ⌜c₀.Keeps c⌝⟩⦄) :
    ⦃fun c => ⌜c = c₀⌝⦄ op
    ⦃post⟨fun o c => ⌜((∀ msg, o.cache ≠ .failed msg) → c.Clean) ∧
        ∀ k i, c₀.records.Deleted k i → c.records.Deleted k i ∨ R k i⌝,
      fun _ c => ⌜c.Clean ∧ ∀ k i, c₀.records.Deleted k i → c.records.Deleted k i⌝⟩⦄ := by
  mvcgen [h]
  all_goals subst_vars
  · exact Keeps.refl _
  · intro hk
    obtain ⟨hclean, hdel⟩ := settled_of_keeps _ hc hk
    exact ⟨fun _ => hclean, fun k i hd => .inl (hdel k i hd)⟩
  · exact settled_of_keeps _ hc

theorem Write.run_spec (w : Write) :
    ⦃fun c => ⌜c = c₀⌝⦄ w.run
    ⦃post⟨fun o c => ⌜((∀ msg, o.cache ≠ .failed msg) → c.Clean) ∧
        ∀ k i, c₀.records.Deleted k i → c.records.Deleted k i ∨ w.Revives k i⌝,
      fun _ c => ⌜c.Clean ∧ ∀ k i, c₀.records.Deleted k i → c.records.Deleted k i⌝⟩⦄ := by
  cases w with
  | registerUser uuid => exact settled_of_keepsSpec c₀ hc _ (registerUser_keeps c₀ hc uuid)
  | createContent kind id owner vis =>
    have h := createContent_clean c₀ kind id hc owner vis
    mvcgen [Write.run, h]
    all_goals subst_vars
    · -- only the created content may come back
      intro hclean hdel
      refine ⟨hclean, fun k i hd => ?_⟩
      by_cases he : (k, i) = (kind, id)
      · exact .inr (Prod.mk.inj he)
      · exact .inl (hdel k i he hd)
    · rintro rfl
      exact ⟨hc, fun _ _ h => h⟩
  | republish kind id vis =>
    have h := republish_clean c₀ kind id hc vis
    mvcgen [Write.run, h]
    all_goals subst_vars
    · exact fun hclean hdel => ⟨hclean, fun k i hd => .inl (hdel k i hd)⟩
    · rintro rfl
      exact ⟨hc, fun _ _ h => h⟩
  | deleteContent kind id =>
    have h := deleteContent_clean c₀ kind id hc
    mvcgen [Write.run, h]
    all_goals subst_vars
    · exact fun hclean hdel => ⟨hclean, fun k i hd => .inl (hdel k i hd)⟩
    · rintro rfl
      exact ⟨hc, fun _ _ h => h⟩
  | agree kind id user => exact settled_of_keepsSpec c₀ hc _ (agree_keeps c₀ hc kind id user)
  | cancelAgree kind id user =>
    exact settled_of_keepsSpec c₀ hc _ (cancelAgree_keeps c₀ hc kind id user)
  | collect kind id user => exact settled_of_keepsSpec c₀ hc _ (collect_keeps c₀ hc kind id user)
  | cancelCollect kind id user =>
    exact settled_of_keepsSpec c₀ hc _ (cancelCollect_keeps c₀ hc kind id user)
  | view kind id => exact settled_of_keepsSpec c₀ hc _ (view_keeps c₀ hc kind id)
  | addComment pk pid cid author =>
    have h := addComment_clean c₀ hc pk pid cid author
    mvcgen [Write.run, h]
    all_goals subst_vars
    · -- only the added comment may come back
      intro hclean hdel
      refine ⟨hclean, fun k i hd => ?_⟩
      by_cases he : (k, i) = (.comment, cid)
      · exact .inr (Prod.mk.inj he)
      · exact .inl (hdel k i he hd)
    · rintro rfl
      exact ⟨hc, fun _ _ h => h⟩
  | removeComment cid =>
    have h := removeComment_clean c₀ hc cid
    mvcgen [Write.run, h]
    all_goals subst_vars
    · exact fun hclean hdel => ⟨hclean, fun k i hd => .inl (hdel k i hd)⟩
    · rintro rfl
      exact ⟨hc, fun _ _ h => h⟩
  | follow follower followed =>
    exact settled_of_keepsSpec c₀ hc _ (followToggle_keeps c₀ hc follower followed true)
  | unfollow follower followed =>
    exact settled_of_keepsSpec c₀ hc _ (followToggle_keeps c₀ hc follower followed false)

theorem Read.run_keeps (q : Read) :
    ⦃fun c => ⌜c₀.Keeps c⌝⦄ q.run ⦃post⟨fun _ c => ⌜c₀.Keeps c⌝, fun _ c => ⌜c₀.Keeps c⌝⟩⦄ := by
  cases q with
  | contentCounters kind id =>
    have h := readThrough_keeps c₀ hc (.content kind id) ContentCounters.ofFields
      ContentCounters.ofRecord
    mvcgen [Read.run, Controller.contentCounters, h]
  | achievement uuid =>
    have h := readThrough_keeps c₀ hc (.achievement uuid) UserAchievement.ofFields
      UserAchievement.ofRecord
    mvcgen [Read.run, Controller.achievement, h]
  | contentCounts uuid =>
    have h := readThrough_keeps c₀ hc (.contentCounts uuid) UserContentCounts.ofFields
      UserContentCounts.ofRecord
    mvcgen [Read.run, Controller.contentCounts, h]
  | ranking kind view limit =>
    have h := ranking_keeps c₀ kind view limit
    mvcgen [Read.run, h]
  | collections user kind =>
    have h := collections_keeps c₀ user kind
    mvcgen [Read.run, h]
  | recordState kind id =>
    have h := recordState_keeps c₀ kind id
    mvcgen [Read.run, h]

/-- A write keeps the controller clean unless its cache script fails. -/
theorem Write.clean_of_run (w : Write) {c : Controller} {res : Except Error Outcome}
    (hrun : w.run.run.run c₀ = (res, c)) (hok : ∀ o, res = .ok o → ∀ msg, o.cache ≠ .failed msg) :
    c.Clean := by
  have h := post_of_run (Write.run_spec c₀ hc w) rfl hrun
  cases res with
  | ok o => exact h.1 (hok o rfl)
  | error e => exact h.1

/-- A write keeps deleted content deleted, except the content it creates. -/
theorem Write.keepsDeleted_of_run (w : Write) {c : Controller} {res : Except Error Outcome}
    (hrun : w.run.run.run c₀ = (res, c)) :
    ∀ k i, c₀.records.Deleted k i → c.records.Deleted k i ∨ w.Revives k i := by
  have h := post_of_run (Write.run_spec c₀ hc w) rfl hrun
  cases res with
  | ok o => exact h.2
  | error e => exact fun k i hd => .inl (h.2 k i hd)

theorem Read.clean_of_run (q : Read) {c : Controller} {res : Except Error Unit}
    (hrun : q.run.run.run c₀ = (res, c)) : c.Clean := by
  have h := post_of_run (Read.run_keeps c₀ hc q) (Keeps.refl c₀) hrun
  cases res <;> exact hc.keeps h

end Steps

/-! ## Time and lost keys -/

section Cache

variable {c : Controller} (hc : c.Clean)
include hc

theorem Clean.later {now : Nat} (hle : c.now ≤ now) : ({ c with now } : Controller).Clean :=
  ⟨hc.native, hc.tidy, fun kind id x hx => (hc.excludes kind id x hx).later hle⟩

theorem Clean.evict (k : String) :
    ({ c with cache := { c.cache with keyspace := c.cache.keyspace.remove k } } : Controller).Clean :=
  ⟨hc.native, hc.tidy, fun kind id x hx => (hc.excludes kind id x hx).remove k⟩

theorem Clean.purge :
    ({ c with cache := { c.cache with keyspace := (c.cache.keyspace.purgeExpired c.now).1 } } :
      Controller).Clean :=
  ⟨hc.native, hc.tidy, fun kind id x hx => (hc.excludes kind id x hx).purgeExpired⟩

/-- A clean controller's cache holds nothing of deleted content: no counter hash, and its id in
none of its views. -/
theorem Clean.deleted_absent {kind : Kind} {id : Nat} {x : CounterRecord}
    (hx : c.records.record? (.content kind id) = some x) (hd : x.deleted = true) :
    c.cache.keyspace.get? (Keys.counter kind id) c.now = none ∧
      ∀ v ∈ Keys.contentViews kind x.owner, ¬ c.cache.keyspace.Ranks c.now v (toString id) := by
  have hex := hc.excludes kind id x hx
  exact ⟨hex.get?_eq_none ⟨hd, rfl⟩, fun v hv => hex.not_ranks ⟨rfl, .inl ⟨hd, hv⟩⟩⟩

end Cache

/-- An empty controller is clean. -/
theorem empty_clean (now : Nat) (dispatcher : Dispatcher) :
    ({ now, dispatcher } : Controller).Clean where
  native := rfl
  tidy := ⟨rfl, fun _ _ h => by simp [SystemOfRecord.record?] at h,
    fun _ _ _ h => by simp [SystemOfRecord.record?] at h⟩
  excludes _ _ _ h := by simp [SystemOfRecord.record?] at h

/-- Every reachable controller is clean. -/
theorem Reachable.clean {c : Controller} (h : Reachable c) : c.Clean := by
  induction h with
  | empty now dispatcher => exact empty_clean now dispatcher
  | write w _ hrun hok ih => exact Write.clean_of_run _ ih w hrun hok
  | read q _ hrun ih => exact Read.clean_of_run _ ih q hrun
  | tick _ hle ih => exact ih.later hle
  | evict k _ ih => exact ih.evict k
  | purge _ ih => exact ih.purge

/-- Deleted content stays out of the cache. In every controller reachable from an empty one,
through writes whose cache scripts do not fail, reads, the clock moving on and keys lost from
the cache, content whose record is deleted has no counter hash in the cache and its id is in
none of the views of its kind and owner. A write from a reachable controller keeps deleted
content deleted, except the content it creates: `createContent`, or `addComment` for a
comment. -/
theorem deleted_content_stays_out :
    (∀ c, Reachable c → ∀ kind id x, c.records.record? (.content kind id) = some x →
      x.deleted = true →
      c.cache.keyspace.get? (Keys.counter kind id) c.now = none ∧
        ∀ v ∈ Keys.contentViews kind x.owner, ¬ c.cache.keyspace.Ranks c.now v (toString id)) ∧
    (∀ c (w : Write) res c', Reachable c → w.run.run.run c = (res, c') →
      ∀ kind id, c.records.Deleted kind id → c'.records.Deleted kind id ∨ w.Revives kind id) :=
  ⟨fun _ hr _ _ _ hx hd => hr.clean.deleted_absent hx hd,
    fun _ w _ _ hr hrun => Write.keepsDeleted_of_run _ hr.clean w hrun⟩

/-- A deleted comment is brought back by adding it again, a write other than `createContent`:
from a clean controller where comment 10 of article 1 is deleted, adding comment 10 leaves its
record live. -/
theorem deleted_comment_readded :
    let c₀ : Controller :=
      { now := 1700000000000, dispatcher := ⟨1800⟩,
        records := ⟨[.content .article 1 "a" .visible,
          { CounterRecord.comment 10 "b" (.content .article 1) with deleted := true },
          .achievement "a", .contentCounts "a", .achievement "b", .contentCounts "b"], [], false⟩ }
    c₀.Clean ∧ c₀.records.Deleted .comment 10 ∧
      ∀ res c, (Write.addComment .article 1 10 "b").run.run.run c₀ = (res, c) →
        ¬ c.records.Deleted .comment 10 := by
  intro c₀
  have hc : c₀.Clean := by
    refine ⟨rfl, ⟨rfl, fun u x hx => ?_, fun kind id x hx => ?_⟩, fun kind id x hx k => ?_⟩
    · simp [c₀, record?, CounterRecord.comment, CounterRecord.content,
        CounterRecord.contentCounts] at hx
      aesop
    · simp [c₀, record?, CounterRecord.comment, CounterRecord.content] at hx
      aesop
    · exact trivial
  have hp : c₀.records.record? (.content .article 1) =
      some (.content .article 1 "a" .visible) := rfl
  have hd : c₀.records.record? (.content .comment 10) =
      some { CounterRecord.comment 10 "b" (.content .article 1) with deleted := true } := rfl
  refine ⟨hc, ⟨_, hd, rfl⟩, fun res c hrun => ?_⟩
  -- the write succeeds, and leaves the comment live
  have h := post_of_run (addComment_recreates c₀ hc hp rfl fun x hx => by
    rw [hd, Option.some_inj] at hx
    rw [← hx]) rfl hrun
  cases res with
  | ok o =>
    obtain ⟨y, hy, hl⟩ := h
    exact not_deleted hy hl
  | error e => exact h.elim

end Controller

end CounterCache
