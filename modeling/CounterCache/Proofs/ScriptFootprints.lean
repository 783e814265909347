import Mathlib
import CounterCache.Proofs.Exclusion
import CounterCache.Proofs.KeyLayout

/-!
# What a script call may create

Most steps of the catalog's scripts only change what is already there: increments and
decrements are gated on the key or the member being present, and removals create nothing. The
few steps that create an entry or add a member do so at keys the call itself names. An event's
footprint lists them (`Event.footprint`): the counter hash and the views of created content, a
user's marker sets and collections, a comment's counter, a new user's two hashes.

A call whose footprint an exclusion does not touch keeps that exclusion, whether it answers or
fails (`Dispatcher.dispatch_spares` and `Store.invoke_spares`). The same holds of the calls that
repopulate a record's cached copy and its ranking scores.
-/

namespace CounterCache

open Keys

-- what a script's steps may create is read off its template: `simp` builds the template's steps
-- and follows them down to their leaves, checking each leaf
attribute [local simp] Step.ListLeaves Step.Leaves Step.Spares Catalog.initFields
  Catalog.setIfAbsent

/-- The entries a script may create, by key, and the members it may add, by key and member. -/
structure Footprint where
  keys : List String
  members : List (String × String)

namespace Exclusion

/-- The exclusion rules out nothing of the footprint. -/
def Avoids (x : Exclusion) (fp : Footprint) : Prop :=
  (∀ k ∈ fp.keys, k ∉ x.keys) ∧ ∀ p ∈ fp.members, p ∉ x.members

end Exclusion

namespace Event

/-- What the script of an event may create. Content creation and republish create the counter
hash and put the id in every view; agreeing, collecting and following create the user's marker
set, and collecting puts the id in the user's collections; a comment creates its counter, and
a registration the user's two hashes. The other events create nothing. -/
def footprint : Event → Footprint
  | .create kind id owner _ _ | .republish kind id owner _ _ =>
    ⟨counter kind id :: contentViews kind owner, (contentViews kind owner).map (·, toString id)⟩
  | .agree kind _ _ user => ⟨[agreeMarker user kind], []⟩
  | .collect kind id _ user _ =>
    ⟨[collectMarker user kind, collections user kind], [(collections user kind, toString id)]⟩
  | .commentAdd _ _ cid _ => ⟨[counter .comment cid], []⟩
  | .follow follower _ => ⟨[following follower], []⟩
  | .registerUser uuid => ⟨[achievement uuid, contentCounts uuid], []⟩
  | .delete .. | .cancelAgree .. | .view .. | .cancelCollect .. | .commentRemove ..
  | .unfollow .. => ⟨[], []⟩

end Event

namespace ScriptCall

/-- Every leaf step the call's script can reach spares the exclusion. A call to no script runs
nothing. -/
def Spares (call : ScriptCall) (x : Exclusion) : Prop :=
  ∀ t, Catalog.lookup call.script = .ok t →
    Step.ListLeaves ⟨call.keys, call.args⟩ (Step.Spares ⟨call.keys, call.args⟩ x) none t.steps

theorem spares_of_lookup {call : ScriptCall} {x : Exclusion} {t : Template}
    (hl : Catalog.lookup call.script = .ok t)
    (h : Step.ListLeaves ⟨call.keys, call.args⟩ (Step.Spares ⟨call.keys, call.args⟩ x) none
      t.steps) : call.Spares x := by
  intro t' ht'
  rw [hl] at ht'
  cases ht'
  exact h

end ScriptCall

namespace Step

/-- A leaf step spares the exclusion and goes on to the next step. -/
def SparesOn (inv : Invocation) (x : Exclusion) (cur : Option String) (s : Step) : Prop :=
  s.Spares inv x cur ∧ ∀ c, s ≠ .ret c

end Step

/-! ## The scripts' leaf steps -/

namespace Catalog

variable (x : Exclusion)

/-- Creation and republish create the counter hash and put the id in every view; none of their
steps ends the script early. -/
theorem createContent_leaves (name : String) (kind : Kind) (id : Nat)
    (owner auth mode ttl score : String) (hr : (KindSpec.of kind).ranked = true)
    (hc : counter kind id ∉ x.keys)
    (hv : ∀ k ∈ contentViews kind owner, k ∉ x.keys ∧ (k, toString id) ∉ x.members) :
    Step.ListLeaves ⟨contentKeys kind id owner ++ allRankingKeys kind,
      [toString id, owner, auth, mode, ttl, kind.name, score]⟩
      (Step.SparesOn ⟨contentKeys kind id owner ++ allRankingKeys kind,
        [toString id, owner, auth, mode, ttl, kind.name, score]⟩ x) none
      (createContent name).steps := by
  have hview : ∀ k, k ∈ contentViews kind owner → k ∉ x.keys ∧ (k, id.repr) ∉ x.members := hv
  simp [createContent, Field.content, Step.SparesOn, Invocation.key, Invocation.value,
    Invocation.arg, k, a, contentKeys]
  refine ⟨⟨hc, hview _ ?_, fun k hk => hview k ?_⟩, hc, hview _ ?_, hview _ ?_⟩ <;>
    simp_all [mem_contentViews, allRankingKeys]

/-- Removing content creates nothing. -/
theorem deleteContent_leaves (name : String) (inv : Invocation) :
    Step.ListLeaves inv (Step.Spares inv x) none (deleteContent name).steps := by
  simp [deleteContent]

end Catalog

/-! ## Dispatched calls -/

namespace Dispatcher

variable {x : Exclusion}

theorem createCall_spares {d : Dispatcher} {kind : Kind} {id : Nat} {owner : String}
    {vis : Visibility} {score : Int} {mode : String} {call : ScriptCall}
    (h : d.createCall kind id owner vis score mode = .ok call)
    (hx : x.Avoids (Event.create kind id owner vis score).footprint) : call.Spares x := by
  have hc : counter kind id ∉ x.keys := hx.1 _ List.mem_cons_self
  have hv : ∀ k ∈ contentViews kind owner, k ∉ x.keys ∧ (k, toString id) ∉ x.members :=
    fun k hk => ⟨hx.1 k (List.mem_cons_of_mem _ hk), hx.2 _ (List.mem_map_of_mem hk)⟩
  cases kind <;> simp only [createCall, KindSpec.of, Except.ok.injEq, reduceCtorEq] at h <;>
    subst h <;>
    exact ScriptCall.spares_of_lookup rfl (Step.listLeaves_mono (fun _ _ h => h.1) none _
      (Catalog.createContent_leaves x _ _ id owner _ mode _ _ rfl hc hv))

/-- A dispatched call creates nothing outside its event's footprint. -/
theorem dispatch_spares {d : Dispatcher} {ev : Event} {call : ScriptCall}
    (h : d.dispatch ev = .ok call) (hx : x.Avoids ev.footprint) : call.Spares x := by
  cases ev with
  | create kind id owner vis score => exact createCall_spares h hx
  | republish kind id owner vis score => exact createCall_spares h hx
  | delete kind id owner vis =>
    cases kind <;> simp only [dispatch, KindSpec.of, Except.ok.injEq, reduceCtorEq] at h <;>
      subst h <;> exact ScriptCall.spares_of_lookup rfl (Catalog.deleteContent_leaves x _ _)
  | agree kind id owner user =>
    simp only [dispatch, Except.ok.injEq] at h
    subst h
    refine ScriptCall.spares_of_lookup (t := Catalog.setAgree) rfl ?_
    simpa [Catalog.setAgree, agreeCall, Catalog.incr,
      Catalog.rankingsIncr, Invocation.key, Catalog.k, Event.footprint, Exclusion.Avoids] using hx
  | cancelAgree kind id owner user =>
    simp only [dispatch, Except.ok.injEq] at h
    subst h
    refine ScriptCall.spares_of_lookup (t := Catalog.cancelAgree) rfl ?_
    simp [Catalog.cancelAgree, Catalog.decr, Catalog.rankingsDecr]
  | view kind id owner =>
    simp only [dispatch, Except.ok.injEq] at h
    subst h
    refine ScriptCall.spares_of_lookup (t := Catalog.setView) rfl ?_
    simp [Catalog.setView, Catalog.incr, Catalog.rankingsIncr]
  | collect kind id owner user at? =>
    simp only [dispatch, collectCall] at h
    split at h
    · cases h
    · cases h
      refine ScriptCall.spares_of_lookup (t := Catalog.createCollection) rfl ?_
      simp only [Event.footprint, Exclusion.Avoids, List.mem_cons, List.not_mem_nil, or_false,
        forall_eq_or_imp, forall_eq] at hx
      simp [Catalog.createCollection, Catalog.incr,
        Catalog.rankingsIncr, Invocation.key, Invocation.value, Invocation.arg, Catalog.k,
        Catalog.a, hx.1.1, hx.1.2]
      exact hx.2
  | cancelCollect kind id owner user =>
    simp only [dispatch, collectCall] at h
    split at h
    · cases h
    · cases h
      refine ScriptCall.spares_of_lookup (t := Catalog.cancelCollection) rfl ?_
      simp [Catalog.cancelCollection, Catalog.decr, Catalog.rankingsDecr]
  | commentAdd pk pid cid author =>
    simp only [dispatch, Except.ok.injEq] at h
    subst h
    refine ScriptCall.spares_of_lookup (t := Catalog.createComment) rfl ?_
    simpa [Catalog.createComment, Catalog.incr, Catalog.rankingsIncr, Invocation.key, Catalog.k,
      Event.footprint, Exclusion.Avoids] using hx
  | commentRemove pk pid cid =>
    simp only [dispatch, Except.ok.injEq] at h
    subst h
    refine ScriptCall.spares_of_lookup (t := Catalog.deleteComment) rfl ?_
    simp [Catalog.deleteComment, Catalog.decr, Catalog.rankingsDecr]
  | follow follower followed =>
    simp only [dispatch, followCall] at h
    split at h
    · cases h
    · cases h
      refine ScriptCall.spares_of_lookup (t := Catalog.setFollow) rfl ?_
      simpa [Catalog.setFollow, Catalog.incr,
        Invocation.key, Catalog.k, Event.footprint, Exclusion.Avoids] using hx
  | unfollow follower followed =>
    simp only [dispatch, followCall] at h
    split at h
    · cases h
    · cases h
      refine ScriptCall.spares_of_lookup (t := Catalog.cancelFollow) rfl ?_
      simp [Catalog.cancelFollow, Catalog.decr]
  | registerUser uuid =>
    simp only [dispatch, Except.ok.injEq] at h
    subst h
    refine ScriptCall.spares_of_lookup (t := Catalog.createUser) rfl ?_
    simpa [Catalog.createUser, Field.achievement,
      Field.counts, Invocation.key, Catalog.k, Event.footprint, Exclusion.Avoids] using hx

end Dispatcher

/-! ## Repopulating a record -/

namespace Dispatcher

variable {x : Exclusion}

/-- Repopulating a record's cached copy creates that copy and nothing else. -/
theorem rehydrate_spares (d : Dispatcher) (r : CounterRecord) (h : r.entity.cacheKey ∉ x.keys) :
    (d.rehydrate r).Spares x := by
  cases he : r.entity with
  | content kind id =>
    rw [he] at h
    refine ScriptCall.spares_of_lookup (t := Catalog.rehydrate "RehydrateContentCache" ["counter"]
      Catalog.contentRecordArgs) (by simp [rehydrate, he]; rfl) ?_
    simp [rehydrate, he, Catalog.rehydrate, Catalog.contentRecordArgs, Invocation.key, Catalog.k, h]
  | achievement uuid =>
    rw [he] at h
    refine ScriptCall.spares_of_lookup (t := Catalog.rehydrate "RehydrateAchievementCache"
      ["achievement"] Catalog.achievementRecordArgs) (by simp [rehydrate, he]; rfl) ?_
    simp [rehydrate, he, Catalog.rehydrate, Catalog.achievementRecordArgs, Invocation.key,
      Catalog.k, h]
  | contentCounts uuid =>
    rw [he] at h
    refine ScriptCall.spares_of_lookup (t := Catalog.rehydrate "RehydrateCountCache"
      ["user counts"] Catalog.countsRecordArgs) (by simp [rehydrate, he]; rfl) ?_
    simp [rehydrate, he, Catalog.rehydrate, Catalog.countsRecordArgs, Invocation.key, Catalog.k, h]

/-- Overwriting a record's cached copy creates that copy and nothing else. -/
theorem refresh_spares (d : Dispatcher) (r : CounterRecord) (h : r.entity.cacheKey ∉ x.keys) :
    (d.refresh r).Spares x := by
  cases he : r.entity with
  | content kind id =>
    rw [he] at h
    refine ScriptCall.spares_of_lookup (t := Catalog.refresh "RefreshContentCache" ["counter"]
      Catalog.contentRecordArgs) (by simp [refresh, he]; rfl) ?_
    simp [refresh, he, Catalog.refresh, Catalog.contentRecordArgs, Invocation.key, Catalog.k, h]
  | achievement uuid =>
    rw [he] at h
    refine ScriptCall.spares_of_lookup (t := Catalog.refresh "RefreshAchievementCache"
      ["achievement"] Catalog.achievementRecordArgs) (by simp [refresh, he]; rfl) ?_
    simp [refresh, he, Catalog.refresh, Catalog.achievementRecordArgs, Invocation.key, Catalog.k, h]
  | contentCounts uuid =>
    rw [he] at h
    refine ScriptCall.spares_of_lookup (t := Catalog.refresh "RefreshCountCache"
      ["user counts"] Catalog.countsRecordArgs) (by simp [refresh, he]; rfl) ?_
    simp [refresh, he, Catalog.refresh, Catalog.countsRecordArgs, Invocation.key, Catalog.k, h]

/-- Setting a content's ranking scores touches only its own member of its kind's rankings. -/
theorem refreshRankings_spares (r : CounterRecord) {kind : Kind} {id : Nat}
    (he : r.entity = .content kind id)
    (h : ∀ v ∈ rankings.map (·.suffix), ranking kind v ∉ x.keys ∧
      (ranking kind v, toString id) ∉ x.members) :
    ∀ call ∈ refreshRankings r, call.Spares x := by
  intro call hcall
  simp only [refreshRankings, he] at hcall
  split at hcall
  · obtain ⟨spec, hspec, rfl⟩ := List.mem_map.1 hcall
    have hv := h spec.suffix (List.mem_map_of_mem hspec)
    refine ScriptCall.spares_of_lookup (t := Catalog.refreshRanking) rfl ?_
    simp only [Catalog.refreshRanking, Step.ListLeaves, Step.Leaves, Step.Spares, Invocation.key,
      Invocation.value, Invocation.arg, Catalog.k, Catalog.a]
    simpa using hv
  · cases hcall

end Dispatcher

namespace Store

/-- A call that spares an exclusion keeps it, natively, whether it answers or fails. -/
theorem invoke_spares {s : Store} {now : Nat} {call : ScriptCall} {x : Exclusion}
    (h : call.Spares x) (hx : s.keyspace.Excludes now x) :
    (s.invoke now .native call.script call.keys call.args).2.keyspace.Excludes now x := by
  cases hl : Catalog.lookup call.script with
  | error e =>
    simp only [invoke, runNamed, hl]
    exact hx
  | ok t =>
    rcases (invoke_excludes hl (Template.run_excludes x t call.keys call.args (h t hl)) hx).2
      with hx' | hsame
    · exact hx'
    · rw [hsame]
      exact hx

end Store

end CounterCache
