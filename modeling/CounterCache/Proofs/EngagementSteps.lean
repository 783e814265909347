import Mathlib
import CounterCache.Proofs.ControllerSteps

/-!
# Engagements keep what the cache must not hold

Registering a user, the toggles (agree, collect, follow and their cancels), views and every read
keep `Controller.Keeps` from a clean controller, whether they answer or fail. They write the
system of record only as `SystemOfRecord.Keeps` allows: edges, columns of live records and
per-user records. Their scripts create per-user keys only, and of content they touch only the
live content they engage with; the one member they add, the id a collect puts into the
collector's collections, is in a view that no record keeps it out of
(`Dispatcher.collect_sparesRecords`). A read changes the cache only by rehydrating a live
record.
-/

namespace CounterCache

namespace Dispatcher

open Exclusion SystemOfRecord Keys

variable {d : Dispatcher} {r : SystemOfRecord} {ev : Event} {call : ScriptCall}

/-- A call whose event may create per-user keys only, and add no member, spares every record. -/
theorem sparesRecords_of_userKeys (h : d.dispatch ev = .ok call)
    (hk : ∀ k ∈ ev.footprint.keys, ∃ s, k = "user:" ++ s) (hm : ev.footprint.members = []) :
    call.SparesRecords r :=
  sparesRecords_of_dispatch h fun _ _ _ _ => avoids_userKeys hk hm

/-- Collecting live content puts its id into the collector's collections, a view that no
record keeps it out of. -/
theorem collect_sparesRecords {kind : Kind} {id : Nat} {owner user : String} {at? : Int}
    (h : d.dispatch (.collect kind id owner user at?) = .ok call) {x : CounterRecord}
    (hx : r.record? (.content kind id) = some x) (hl : x.deleted = false) :
    call.SparesRecords r := by
  refine sparesRecords_of_dispatch h fun kind' id' y hy => ⟨fun k hk => ?_, fun p hp => ?_⟩
  · simp only [Event.footprint, List.mem_cons, List.not_mem_nil, or_false] at hk
    rcases hk with rfl | rfl
    · simpa only [collectMarker, String.append_assoc] using
        user_not_mem_ofRecord_keys (user ++ ":collect:" ++ kind.name)
    · simpa only [collections, String.append_assoc] using
        user_not_mem_ofRecord_keys (user ++ ":collections:" ++ kind.name)
  · simp only [Event.footprint, List.mem_cons, List.not_mem_nil, or_false] at hp
    subst hp
    exact not_mem_ofRecord_members_of_live hx hl hy (kindOf?_collections user kind)
      (collections_not_mem_visitorViews user kind kind x.owner)

end Dispatcher

namespace Controller

open Std.Do SystemOfRecord Exclusion

set_option mvcgen.warning false

/-- A computation run on each item in turn keeps whatever each run keeps. -/
theorem mapM_keeps {α β : Type} (P : Controller → Prop) (f : α → CtlM β)
    (hf : ∀ a, ⦃fun c => ⌜P c⌝⦄ f a ⦃post⟨fun _ c => ⌜P c⌝, fun _ c => ⌜P c⌝⟩⦄) :
    ∀ xs : List α, ⦃fun c => ⌜P c⌝⦄ xs.mapM f ⦃post⟨fun _ c => ⌜P c⌝, fun _ c => ⌜P c⌝⟩⦄
  | [] => by mvcgen
  | x :: xs => by
    have hrest := mapM_keeps P f hf xs
    have hx := hf x
    simp only [List.mapM_cons]
    mvcgen [hx, hrest]

section Engagements

variable (c₀ : Controller) (hc : c₀.Clean)
include hc

/-- Keeping what a clean controller holds is a predicate its writes to the system of record
preserve. -/
theorem keeps_recordStable : RecordStable c₀.Keeps :=
  ⟨fun _ h => h.records.failing.trans hc.tidy.working, fun _ _ h hr => h.trans (keeps_records hr)⟩

omit hc in
/-- Dispatching reads the dispatcher, which `Keeps` fixes. -/
theorem dispatch_keeps (ev : Event) :
    ⦃fun c => ⌜c₀.Keeps c⌝⦄ dispatch ev
    ⦃post⟨fun call c => ⌜c₀.Keeps c ∧ c₀.dispatcher.dispatch ev = .ok call⌝,
      fun _ c => ⌜c₀.Keeps c⌝⟩⦄ := by
  have hdispatch := dispatch_spec
  mvcgen [hdispatch]
  · rename_i c hk call c'
    rintro rfl hd
    rw [hk.dispatcher] at hd
    exact ⟨hk, hd⟩
  · rename_i c hk _ c'
    rintro rfl
    exact hk

/-- A toggle whose event's call spares every record keeps them all: it flips an edge, adds to
columns of live records and runs its call, and its refreshes rewrite live records only. -/
theorem toggle_keeps (ev : Event) (r : CounterRecord) (edge : Edge) (on : Bool)
    (cols : List String) :
    ⦃fun c => ⌜c₀.Keeps c ∧
      ∀ call, c₀.dispatcher.dispatch ev = .ok call → call.SparesRecords c₀.records⌝⦄
    toggle ev r edge on cols
    ⦃post⟨fun _ c => ⌜c₀.Keeps c⌝, fun _ c => ⌜c₀.Keeps c⌝⟩⦄ := by
  have hI := keeps_recordStable c₀ hc
  have hdispatch := dispatch_keeps c₀
  have hset := setEdge_stable hI
  have hensure := ensureUser_stable hI
  have hinc := incrementColumn_stable hI
  have hrun := runCache_keeps c₀ hc.native
  have hrec := reconcile_keeps c₀ hc.native
  mvcgen [toggle, hdispatch, hset, hensure, hinc, hrun, hrec, attempt]
  case inv1 => exact post⟨fun _ c => ⌜c₀.Keeps c⌝, fun _ c => ⌜c₀.Keeps c⌝⟩
  all_goals simp_all

theorem agree_keeps (kind : Kind) (id : Nat) (user : String) :
    ⦃fun c => ⌜c₀.Keeps c⌝⦄ agree kind id user
    ⦃post⟨fun _ c => ⌜c₀.Keeps c⌝, fun _ c => ⌜c₀.Keeps c⌝⟩⦄ := by
  have hlive := live_spec
  have htoggle := toggle_keeps c₀ hc
  mvcgen [agree, hlive, htoggle]
  · rename_i c hk x c' hx
    obtain ⟨rfl, -, -⟩ := hx
    refine ⟨hk, fun call h => Dispatcher.sparesRecords_of_userKeys h ?_ rfl⟩
    simp only [Event.footprint, List.mem_cons, List.not_mem_nil, or_false, forall_eq]
    exact ⟨user ++ ":agree:" ++ kind.name, by simp only [Keys.agreeMarker, String.append_assoc]⟩
  · rename_i c hk _ c'
    rintro rfl
    exact hk

theorem cancelAgree_keeps (kind : Kind) (id : Nat) (user : String) :
    ⦃fun c => ⌜c₀.Keeps c⌝⦄ cancelAgree kind id user
    ⦃post⟨fun _ c => ⌜c₀.Keeps c⌝, fun _ c => ⌜c₀.Keeps c⌝⟩⦄ := by
  have hlive := live_spec
  have htoggle := toggle_keeps c₀ hc
  mvcgen [cancelAgree, hlive, htoggle]
  · rename_i c hk x c' hx
    obtain ⟨rfl, -, -⟩ := hx
    exact ⟨hk, fun call h => Dispatcher.sparesRecords_of_userKeys h (by simp [Event.footprint]) rfl⟩
  · rename_i c hk _ c'
    rintro rfl
    exact hk

theorem collect_keeps (kind : Kind) (id : Nat) (user : String) :
    ⦃fun c => ⌜c₀.Keeps c⌝⦄ collect kind id user
    ⦃post⟨fun _ c => ⌜c₀.Keeps c⌝, fun _ c => ⌜c₀.Keeps c⌝⟩⦄ := by
  have hlive := live_spec
  have htoggle := toggle_keeps c₀ hc
  mvcgen [collect, hlive, htoggle]
  · rename_i c hk x c' hx _
    obtain ⟨rfl, hx, hl⟩ := hx
    -- the collected content is live in the system the call is checked against, too
    obtain ⟨y, hy, hs⟩ := hk.records.record?_symm hx
    refine ⟨hk, fun call h => Dispatcher.collect_sparesRecords h hy ?_⟩
    rw [CounterRecord.deleted_of_shape hs, hl]
  · rename_i c hk _ c'
    rintro rfl
    exact hk

theorem cancelCollect_keeps (kind : Kind) (id : Nat) (user : String) :
    ⦃fun c => ⌜c₀.Keeps c⌝⦄ cancelCollect kind id user
    ⦃post⟨fun _ c => ⌜c₀.Keeps c⌝, fun _ c => ⌜c₀.Keeps c⌝⟩⦄ := by
  have hlive := live_spec
  have htoggle := toggle_keeps c₀ hc
  mvcgen [cancelCollect, hlive, htoggle]
  · rename_i c hk x c' hx
    obtain ⟨rfl, -, -⟩ := hx
    exact ⟨hk, fun call h => Dispatcher.sparesRecords_of_userKeys h (by simp [Event.footprint]) rfl⟩
  · rename_i c hk _ c'
    rintro rfl
    exact hk

theorem view_keeps (kind : Kind) (id : Nat) :
    ⦃fun c => ⌜c₀.Keeps c⌝⦄ view kind id
    ⦃post⟨fun _ c => ⌜c₀.Keeps c⌝, fun _ c => ⌜c₀.Keeps c⌝⟩⦄ := by
  have hI := keeps_recordStable c₀ hc
  have hlive := live_spec
  have hdispatch := dispatch_keeps c₀
  have hensure := ensureUser_stable hI
  have hinc := incrementColumn_stable hI
  have hrun := runCache_keeps c₀ hc.native
  have hspares : ∀ owner call, c₀.dispatcher.dispatch (.view kind id owner) = .ok call →
      call.SparesRecords c₀.records :=
    fun _ _ h => Dispatcher.sparesRecords_of_userKeys h (by simp [Event.footprint]) rfl
  mvcgen [view, hlive, hdispatch, hensure, hinc, hrun]
  all_goals simp_all
  -- the call's event names the owner, which its footprint does not depend on
  obtain ⟨-, hd⟩ := ‹c₀.Keeps _ ∧ c₀.dispatcher.dispatch _ = _›
  exact hspares _ _ hd

theorem followToggle_keeps (follower followed : String) (on : Bool) :
    ⦃fun c => ⌜c₀.Keeps c⌝⦄ followToggle follower followed on
    ⦃post⟨fun _ c => ⌜c₀.Keeps c⌝, fun _ c => ⌜c₀.Keeps c⌝⟩⦄ := by
  have hI := keeps_recordStable c₀ hc
  have hdispatch := dispatch_keeps c₀
  have hset := setEdge_stable hI
  have hensure := ensureUser_stable hI
  have hinc := incrementColumn_stable hI
  have hrun := runCache_keeps c₀ hc.native
  have hrec := reconcile_keeps c₀ hc.native
  have hspares : ∀ call, c₀.dispatcher.dispatch
      (if on then .follow follower followed else .unfollow follower followed) = .ok call →
      call.SparesRecords c₀.records := by
    intro call h
    refine Dispatcher.sparesRecords_of_userKeys h ?_ (by cases on <;> rfl)
    cases on
    · simp [Event.footprint]
    · simp only [Event.footprint, if_true, List.mem_cons, List.not_mem_nil, or_false, forall_eq]
      exact ⟨follower ++ ":following", by simp only [Keys.following, String.append_assoc]⟩
  mvcgen [followToggle, hdispatch, hset, hensure, hinc, hrun, hrec, attempt]
  all_goals simp_all

theorem registerUser_keeps (uuid : String) :
    ⦃fun c => ⌜c₀.Keeps c⌝⦄ registerUser uuid
    ⦃post⟨fun _ c => ⌜c₀.Keeps c⌝, fun _ c => ⌜c₀.Keeps c⌝⟩⦄ := by
  have hI := keeps_recordStable c₀ hc
  have hdispatch := dispatch_keeps c₀
  have hrecordOf := recordOf_spec
  have hallow := allow_spec
  have hupsertA := @upsert_stable _ hI (.achievement uuid) rfl rfl
  have hupsertC := @upsert_stable _ hI (.contentCounts uuid) rfl rfl
  have hrun := runCache_keeps c₀ hc.native
  have hspares : ∀ call, c₀.dispatcher.dispatch (.registerUser uuid) = .ok call →
      call.SparesRecords c₀.records := by
    intro call h
    refine Dispatcher.sparesRecords_of_userKeys h ?_ rfl
    simp only [Event.footprint, List.mem_cons, List.not_mem_nil, or_false, forall_eq_or_imp,
      forall_eq]
    exact ⟨⟨uuid ++ ":achievement", by simp only [Keys.achievement, String.append_assoc]⟩,
      ⟨uuid ++ ":count", by simp only [Keys.contentCounts, String.append_assoc]⟩⟩
  mvcgen [registerUser, hdispatch, hrecordOf, hallow, hupsertA, hupsertC, hrun]
  all_goals simp_all

/-! ## Reads -/

theorem readThrough_keeps {α : Type} (e : EntityRef) (ofFields : KeyMap String → Except Error α)
    (ofRecord : CounterRecord → α) :
    ⦃fun c => ⌜c₀.Keeps c⌝⦄ readThrough e ofFields ofRecord
    ⦃post⟨fun _ c => ⌜c₀.Keeps c⌝, fun _ c => ⌜c₀.Keeps c⌝⟩⦄ := by
  have hcached := cachedHash_spec
  have hlive := live_spec
  have hrehydrate := rehydrate_keeps c₀ hc.native
  mvcgen [readThrough, hcached, hlive, hrehydrate, attempt, ofExcept]
  all_goals simp_all

omit hc in
theorem ranking_keeps (kind : Kind) (view : String) (limit : Nat) :
    ⦃fun c => ⌜c₀.Keeps c⌝⦄ ranking kind view limit
    ⦃post⟨fun _ c => ⌜c₀.Keeps c⌝, fun _ c => ⌜c₀.Keeps c⌝⟩⦄ := by
  have hrange := cachedRange_spec
  have hmap := mapM_keeps c₀.Keeps
    (fun (e : Scored) => (do return (← ofExcept (parseId e.1), e.2) : CtlM (Nat × Int)))
    fun _ => by mvcgen [ofExcept]
  mvcgen [ranking, hrange, hmap]
  all_goals simp_all

omit hc in
theorem collections_keeps (user : String) (kind : Kind) :
    ⦃fun c => ⌜c₀.Keeps c⌝⦄ collections user kind
    ⦃post⟨fun _ c => ⌜c₀.Keeps c⌝, fun _ c => ⌜c₀.Keeps c⌝⟩⦄ := by
  have hrange := cachedRange_spec
  have hmap := mapM_keeps c₀.Keeps (fun (e : Scored) => ofExcept (parseId e.1))
    fun _ => by mvcgen [ofExcept]
  mvcgen [collections, hrange, hmap]
  all_goals simp_all

omit hc in
theorem recordState_keeps (kind : Kind) (id : Nat) :
    ⦃fun c => ⌜c₀.Keeps c⌝⦄ recordState kind id
    ⦃post⟨fun _ c => ⌜c₀.Keeps c⌝, fun _ c => ⌜c₀.Keeps c⌝⟩⦄ := by
  have hrecordOf := recordOf_spec
  have hcached := cachedHash_spec
  mvcgen [recordState, hrecordOf, hcached, ofExcept]
  all_goals simp_all

end Engagements

end Controller

end CounterCache
