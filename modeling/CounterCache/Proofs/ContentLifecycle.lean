import Mathlib
import CounterCache.Proofs.EngagementSteps
import CounterCache.Proofs.ContentRemoval

/-!
# The content lifecycle keeps the controller clean

Creating, republishing and deleting content, and adding and removing comments, are the writes
that change which content records are deleted. Each of them is stated here as a triple over the
controller monad: from a clean controller it answers with a clean controller unless its own cache
script fails, a failure leaves the controller as it was, and a deleted record stays deleted
except the one the write creates.

The writes of one record are traced with `Controller.Rewrote`: the rest of the controller is
kept, the system of record stays tidy, and every other content record keeps its owner,
visibility and deletion. The cache side is `CacheStep.clean_of_rewrote`: a script that takes
the record's new exclusion from the old one keeps every record's exclusion.
-/


namespace CounterCache

open Std.Do

set_option mvcgen.warning false

namespace Exclusion

/-- The exclusion that keeps nothing out. -/
instance : Bot Exclusion := ⟨⟨∅, ∅⟩⟩

theorem le_refl (x : Exclusion) : x ≤ x := ⟨fun _ h => h, fun _ h => h⟩

theorem le_sup_left (x y : Exclusion) : x ≤ x ⊔ y := ⟨fun _ h => .inl h, fun _ h => .inl h⟩

theorem bot_le (x : Exclusion) : ⊥ ≤ x := ⟨fun _ h => h.elim, fun _ h => h.elim⟩

theorem le_trans {x y z : Exclusion} (h : x ≤ y) (h' : y ≤ z) : x ≤ z :=
  ⟨fun _ hk => h'.1 (h.1 hk), fun _ hm => h'.2 (h.2 hm)⟩

end Exclusion

theorem Keyspace.excludes_bot (ks : Keyspace) (now : Nat) : ks.Excludes now ⊥ :=
  Keyspace.excludes_iff.2 ⟨fun _ h => h.elim, fun _ h => h.elim⟩

/-- A call that takes `x` to `x'` takes `x` to anything `x'` keeps out. -/
theorem ScriptCall.Takes.mono {call : ScriptCall} {x x' y : Exclusion} (h : call.Takes x x')
    (hle : y ≤ x') : call.Takes x y := by
  intro tm hl
  have ht := h tm hl
  mvcgen [ht]
  exact fun hx => Keyspace.Excludes.mono hx hle

namespace SystemOfRecord

open CounterRecord

/-- The content `kind id` has a deleted record. -/
def Deleted (r : SystemOfRecord) (kind : Kind) (id : Nat) : Prop :=
  ∃ x, r.record? (.content kind id) = some x ∧ x.deleted = true

theorem not_deleted {r : SystemOfRecord} {kind : Kind} {id : Nat} {x : CounterRecord}
    (hx : r.record? (.content kind id) = some x) (hl : x.deleted = false) : ¬ r.Deleted kind id := by
  rintro ⟨y, hy, hd⟩
  rw [hx, Option.some_inj] at hy
  rw [← hy, hl] at hd
  cases hd

variable {r r₁ r₂ : SystemOfRecord} {rec : CounterRecord}

theorem record?_put_of_ne {e : EntityRef} (h : rec.entity ≠ e) :
    (r.put rec).record? e = r.record? e := by
  rw [record?_put, if_neg h]

/-- Storing a content record whose owner is counted keeps the system tidy. -/
theorem Tidy.put_content (ht : r.Tidy) (he : rec.entity.isContent = true)
    (hc : (r.record? (.contentCounts rec.owner)).isSome) : (r.put rec).Tidy where
  working := (put_failing rec).trans ht.working
  countsLive u x hx := by
    rw [record?_put] at hx
    split at hx
    · rename_i hu
      rw [hu] at he
      cases he
    · exact ht.countsLive u x hx
  counted kind id x hx := by
    have hne : rec.entity ≠ .contentCounts x.owner := fun h => by rw [h] at he; cases he
    rw [record?_put_of_ne hne]
    rw [record?_put] at hx
    split at hx
    · rw [← Option.some_inj.1 hx]
      exact hc
    · exact ht.counted kind id x hx

end SystemOfRecord

namespace Exclusion

open Keys

variable {kind : Kind} {id : Nat}

/-- What a deleted record keeps out is what its live record kept out, its counter hash, and its
id in every view the deletion script clears. -/
theorem ofRecord_deleted_le (x : CounterRecord) :
    ofRecord kind id { x with deleted := true } ≤ ofRecord kind id x ⊔ .key (counter kind id) ⊔
      .absentFrom (ownerIndex x.owner kind :: allRankingKeys kind ++
        if x.visibility = .visible then [visitIndex x.owner kind, chronological kind] else [])
        (toString id) := by
  refine ⟨fun k hk => .inl (.inr hk.2), fun p hp => ?_⟩
  obtain ⟨hid, hmem⟩ := hp
  -- a hidden record's visitor views were kept out already; the script clears the others
  by_cases hold : x.visibility = .hidden ∧ p.1 ∈ visitorViews kind x.owner
  · exact .inl (.inl ⟨hid, .inr hold⟩)
  refine .inr ⟨?_, hid⟩
  have hview : p.1 ∈ contentViews kind x.owner := by
    rcases hmem with ⟨-, h⟩ | ⟨-, h⟩
    · exact h
    · exact visitorViews_subset kind x.owner h
  obtain ⟨hr, hk⟩ := mem_contentViews.1 hview
  have hvis : p.1 ∈ visitorViews kind x.owner ↔
      p.1 = chronological kind ∨ p.1 = visitIndex x.owner kind := by
    simp [visitorViews, hr]
  rcases hk with hk | hk | hk | hk
  · simp [allRankingKeys, hr, hk]
  all_goals cases hv : x.visibility <;> simp_all

/-- A fresh live record keeps out what its visibility hides, and nothing more. -/
theorem ofRecord_content_le (owner : String) (vis : Visibility) :
    ofRecord kind id (.content kind id owner vis) ≤
      if vis = .hidden then ⊥ ⊔ .absentFrom [visitIndex owner kind, chronological kind] (toString id)
      else ⊥ := by
  refine ⟨fun k hk => absurd hk.1 (by simp [CounterRecord.content]), fun p hp => ?_⟩
  obtain ⟨hid, ⟨hd, -⟩ | ⟨hv, hview⟩⟩ := hp
  · simp [CounterRecord.content] at hd
  · have hv' : vis = .hidden := hv
    subst hv'
    unfold visitorViews at hview
    split at hview
    · simp only [CounterRecord.content, List.mem_cons, List.not_mem_nil, or_false] at hview
      refine .inr ⟨?_, hid⟩
      rcases hview with h | h <;> simp [h]
    · cases hview

/-- The counter hash of content is kept out by no other content's record. -/
theorem counter_not_mem_ofRecord {k : Kind} {i : Nat} {y : CounterRecord} (hne : (k, i) ≠ (kind, id)) :
    counter kind id ∉ (ofRecord k i y).keys := by
  refine not_mem_ofRecord_keys_of_ne fun h => hne ?_
  obtain ⟨rfl, rfl⟩ := counter_injective h
  rfl

/-- Content other than `kind id` is not touched by the creation or republish of `kind id`. -/
theorem ofRecord_avoids_create {k : Kind} {i : Nat} {y : CounterRecord} (hne : (k, i) ≠ (kind, id))
    (owner : String) (vis : Visibility) (score : Int) :
    (ofRecord k i y).Avoids (Event.create kind id owner vis score).footprint := by
  refine ⟨fun key hkey => ?_, fun p hp => ?_⟩
  · simp only [Event.footprint, List.mem_cons] at hkey
    rcases hkey with rfl | hv
    · exact counter_not_mem_ofRecord hne
    · exact not_mem_ofRecord_keys_of_ne (contentViews_ne_counter hv k i)
  · simp only [Event.footprint, List.mem_map] at hp
    obtain ⟨v, hv, rfl⟩ := hp
    exact not_mem_ofRecord_members (kindOf?_of_mem_contentViews hv) (Ne.symm hne)

/-- A comment is in no view, so its record keeps out its counter hash at most. -/
theorem ofRecord_comment_le (y : CounterRecord) :
    ofRecord .comment id y ≤ ⊥ ⊔ .key (counter .comment id) := by
  refine ⟨fun k hk => .inr hk.2, fun p hp => ?_⟩
  obtain ⟨-, ⟨-, hv⟩ | ⟨-, hv⟩⟩ := hp
  · simp [contentViews, allRankingKeys, KindSpec.of] at hv
  · simp [visitorViews, KindSpec.of] at hv

end Exclusion

namespace Dispatcher

open Keys Exclusion

/-- A creation or republish call takes nothing kept out to what the fresh live record keeps
out. -/
theorem createCall_takes {d : Dispatcher} {kind : Kind} {id : Nat} {owner : String}
    {vis : Visibility} {score : Int} {mode : String} {call : ScriptCall}
    (h : d.createCall kind id owner vis score mode = .ok call) :
    call.Takes ⊥ (ofRecord kind id (.content kind id owner vis)) := by
  refine ScriptCall.Takes.mono ?_ (ofRecord_content_le owner vis)
  cases vis with
  | visible =>
    have hbot : (⊥ : Exclusion).Avoids (Event.create kind id owner .visible score).footprint :=
      ⟨fun _ _ h => h.elim, fun _ _ h => h.elim⟩
    exact (createCall_spares h hbot).takes
  | hidden =>
    -- a hidden record is taken out of the visitors' views by the script itself
    cases kind <;> simp only [createCall, KindSpec.of, Except.ok.injEq, reduceCtorEq] at h <;>
      subst h <;> intro tm hl <;> cases hl <;>
      exact Template.createContent_unlists ⊥ _ _ _ _ _ _ _ rfl (fun h => h) (fun _ _ => ⟨fun h => h, fun h => h⟩)

/-- A dispatched deletion runs the deletion script, which clears what `deleteContent_clears`
says. -/
theorem deleteCall_takes {d : Dispatcher} {kind : Kind} {id : Nat} {owner : String}
    {vis : Visibility} {call : ScriptCall} (h : d.dispatch (.delete kind id owner vis) = .ok call)
    (x : Exclusion) :
    call.Takes x (x ⊔ .key (counter kind id) ⊔ .absentFrom (ownerIndex owner kind ::
      allRankingKeys kind ++ if vis = .visible then [visitIndex owner kind, chronological kind]
        else []) (toString id)) := by
  cases kind <;> simp only [dispatch, KindSpec.of, Except.ok.injEq, reduceCtorEq] at h <;>
    subst h <;> intro tm hl <;> cases hl <;> exact Template.deleteContent_clears x _ _ _ _ _

/-- Removing a comment deletes its counter hash. -/
theorem commentRemove_takes {d : Dispatcher} {pk : Kind} {pid cid : Nat} {call : ScriptCall}
    (h : d.dispatch (.commentRemove pk pid cid) = .ok call) (x : Exclusion) :
    call.Takes x (x ⊔ .key (counter .comment cid)) := by
  simp only [dispatch, Except.ok.injEq] at h
  subst h
  intro tm hl
  cases hl
  exact Template.deleteComment_clears x cid _ _

/-- A deletion creates nothing, so it spares every exclusion. -/
theorem deleteCall_spares {d : Dispatcher} {kind : Kind} {id : Nat} {owner : String}
    {vis : Visibility} {call : ScriptCall} (h : d.dispatch (.delete kind id owner vis) = .ok call)
    {x : Exclusion} : call.Spares x :=
  dispatch_spares h ⟨by simp [Event.footprint], by simp [Event.footprint]⟩

end Dispatcher

namespace Controller

open Std.Do SystemOfRecord Exclusion CounterRecord


/-- Creation is allowed exactly where there is no record, or a deleted one. -/
theorem create_allowed_iff {o : Option CounterRecord} :
    (∃ s, (stateOf o).step .create = .ok s) ↔ ∀ x, o = some x → x.deleted = true := by
  cases o with
  | none => simp [stateOf, RecordState.step]
  | some x => cases hd : x.deleted <;> simp [stateOf, hd, RecordState.step]

theorem deleted_of_create {o : Option CounterRecord}
    (h : ∃ s, (stateOf o).step .create = .ok s) : ∀ x, o = some x → x.deleted = true :=
  create_allowed_iff.1 h

/-! ## Writes to one content record -/

/-- `c` is `c₀` with a tidy system of record written on its own: content other than `kind id`
keeps its shape, and the record of `kind id` has the shape `s`. -/
structure Rewrote (c₀ : Controller) (kind : Kind) (id : Nat)
    (s : Option (String × Visibility × Bool)) (c : Controller) : Prop where
  rest : c = { c₀ with records := c.records }
  tidy : c.records.Tidy
  self : (c.records.record? (.content kind id)).map shape = s
  others : ∀ k i, (k, i) ≠ (kind, id) →
    (c.records.record? (.content k i)).map shape = (c₀.records.record? (.content k i)).map shape

namespace Rewrote

variable {c₀ c : Controller} {kind : Kind} {id : Nat} {s : Option (String × Visibility × Bool)}

theorem start (hc : c₀.Clean) (kind : Kind) (id : Nat) :
    Rewrote c₀ kind id ((c₀.records.record? (.content kind id)).map shape) c₀ :=
  ⟨rfl, hc.tidy, rfl, fun _ _ _ => rfl⟩

theorem keeps (h : Rewrote c₀ kind id s c) {r : SystemOfRecord} (hk : c.records.Keeps r) :
    Rewrote c₀ kind id s { c with records := r } where
  rest := by rw [h.rest]
  tidy := h.tidy.keeps hk
  self := (hk.content kind id).trans h.self
  others k i hne := (hk.content k i).trans (h.others k i hne)

theorem recordStable : RecordStable (Rewrote c₀ kind id s) :=
  ⟨fun _ h => h.tidy.working, fun _ _ h hk => h.keeps hk⟩

/-- Storing the record of `kind id`, whose owner is counted. -/
theorem put (h : Rewrote c₀ kind id s c) {rec : CounterRecord}
    (he : rec.entity = .content kind id) (hcount : (c.records.record? (.contentCounts rec.owner)).isSome) :
    Rewrote c₀ kind id (some rec.shape) { c with records := c.records.put rec } where
  rest := by rw [h.rest]
  tidy := h.tidy.put_content (by rw [he]; rfl) hcount
  self := by rw [record?_put, if_pos he, Option.map_some]
  others k i hne := by
    rw [record?_put_of_ne (by rw [he]; exact fun h' => hne (by cases h'; rfl))]
    exact h.others k i hne

/-- The record of `kind id` has the shape the writes left. -/
theorem shape {sh : String × Visibility × Bool} (h : Rewrote c₀ kind id (some sh) c)
    {y : CounterRecord} (hy : c.records.record? (.content kind id) = some y) : y.shape = sh := by
  have hs := h.self
  rw [hy, Option.map_some, Option.some_inj] at hs
  exact hs

theorem start_of (hc : c₀.Clean) {r : CounterRecord}
    (hr : c₀.records.record? (.content kind id) = some r) : Rewrote c₀ kind id (some r.shape) c₀ := by
  have h := start hc kind id
  rwa [hr, Option.map_some] at h

/-- Content deleted in `c₀` other than `kind id` is still deleted. -/
theorem deleted {k : Kind} {i : Nat} (h : Rewrote c₀ kind id s c) (hne : (k, i) ≠ (kind, id))
    (hd : c₀.records.Deleted k i) : c.records.Deleted k i := by
  obtain ⟨x, hx, hdel⟩ := hd
  have hmap := h.others k i hne
  rw [hx, Option.map_some] at hmap
  obtain ⟨y, hy, hs⟩ := Option.map_eq_some_iff.1 hmap
  exact ⟨y, hy, (deleted_of_shape hs).trans hdel⟩

/-- A record of `kind id` written deleted is deleted. -/
theorem deleted_self {owner : String} {v : Visibility} (h : Rewrote c₀ kind id (some (owner, v, true)) c) :
    c.records.Deleted kind id := by
  obtain ⟨y, hy, hs⟩ := Option.map_eq_some_iff.1 h.self
  exact ⟨y, hy, congrArg (·.2.2) hs⟩

/-- A record of `kind id` written live is live. -/
theorem live_self {owner : String} {v : Visibility} (h : Rewrote c₀ kind id (some (owner, v, false)) c) :
    ∃ y, c.records.record? (.content kind id) = some y ∧ y.deleted = false := by
  obtain ⟨y, hy, hs⟩ := Option.map_eq_some_iff.1 h.self
  exact ⟨y, hy, congrArg (·.2.2) hs⟩

/-- Content deleted in `c₀` is still deleted when `kind id` is. -/
theorem keepsDeleted (h : Rewrote c₀ kind id s c)
    (hself : c₀.records.Deleted kind id → c.records.Deleted kind id) :
    ∀ k i, c₀.records.Deleted k i → c.records.Deleted k i := by
  intro k i hdel
  by_cases he : (k, i) = (kind, id)
  · obtain ⟨rfl, rfl⟩ := Prod.mk.inj he
    exact hself hdel
  · exact h.deleted he hdel

/-- Content live in `c` while `kind id` is written deleted is other content, live in `c₀`. -/
theorem live_other {owner : String} {v : Visibility} (h : Rewrote c₀ kind id (some (owner, v, true)) c)
    {k : Kind} {i : Nat} (hl : (c.records.record? (.content k i)).any (!·.deleted) = true) :
    (k, i) ≠ (kind, id) ∧ ∃ x, c₀.records.record? (.content k i) = some x ∧ x.deleted = false := by
  obtain ⟨y, hy, hyl⟩ : ∃ y, c.records.record? (.content k i) = some y ∧ y.deleted = false := by
    cases hr : c.records.record? (.content k i) with
    | none => rw [hr] at hl; cases hl
    | some y => rw [hr] at hl; exact ⟨y, rfl, by simpa using hl⟩
  have hne : (k, i) ≠ (kind, id) := by
    intro he
    obtain ⟨rfl, rfl⟩ := Prod.mk.inj he
    exact not_deleted hy hyl h.deleted_self
  refine ⟨hne, ?_⟩
  have hmap := h.others k i hne
  rw [hy, Option.map_some] at hmap
  obtain ⟨x, hx, hs⟩ := Option.map_eq_some_iff.1 hmap.symm
  exact ⟨x, hx, (deleted_of_shape hs).trans hyl⟩

/-- The owner of the record of `kind id` is counted. -/
theorem counted {owner : String} (h : Rewrote c₀ kind id s c) (hs : s.map (·.1) = some owner) :
    (c.records.record? (.contentCounts owner)).isSome := by
  rw [← h.self, Option.map_map] at hs
  obtain ⟨y, hy, howner⟩ := Option.map_eq_some_iff.1 hs
  exact howner ▸ h.tidy.counted kind id y hy

end Rewrote

/-! ## Cache steps that keep the controller clean -/

section Assembly

variable {c₀ c₁ c : Controller} {call : ScriptCall} {onMiss : List EntityRef}
  {o : CacheOutcome} {kind : Kind} {id : Nat}

/-- A call that spares every record keeps a clean controller clean. -/
theorem CacheStep.clean_of_spares (hc : c₀.Clean) (h : CacheStep call onMiss c₀ o c)
    (hs : call.SparesRecords c₀.records) : c.Clean :=
  hc.keeps (h.keeps hc.native hs)

/-- A cache step after writing the record of `kind id` alone leaves a clean controller, when the
call spares every other record and takes the written record's exclusion to one that keeps out
what its new record does. -/
theorem CacheStep.clean_of_rewrote {s : Option (String × Visibility × Bool)} (hc : c₀.Clean)
    (hw : Rewrote c₀ kind id s c₁)
    (hspare : ∀ k i y, (k, i) ≠ (kind, id) → c₀.records.record? (.content k i) = some y →
      call.Spares (ofRecord k i y))
    (hself : ∀ y, c₁.records.record? (.content kind id) = some y → ∃ x x', x ≤ x' ∧
      call.Takes x x' ∧ ofRecord kind id y ≤ x' ∧ c₀.cache.keyspace.Excludes c₀.now x ∧
      ∀ e ∈ onMiss, ∀ z, c₁.records.record? e = some z → z.deleted = false →
        z.entity.cacheKey ∉ x'.keys)
    (h : CacheStep call onMiss c₁ o c) (hnf : ∀ msg, o ≠ .failed msg) : c.Clean := by
  obtain ⟨hrec, -, hmode, -, hstep⟩ := h
  rw [hw.rest] at hstep hmode
  refine ⟨hmode.trans hc.native, hrec ▸ hw.tidy, fun k i y hy => ?_⟩
  rw [hrec] at hy
  by_cases he : (k, i) = (kind, id)
  · -- the written record: its exclusion grows as the call takes it
    obtain ⟨rfl, rfl⟩ := Prod.mk.inj he
    obtain ⟨x, x', hle, htakes, hsub, hx, hmiss⟩ := hself y hy
    exact ((hstep x x' hle htakes hc.native hmiss hx).2 hnf).mono hsub
  · -- any other record has the shape it had, and the call spares its exclusion
    have hmap := hw.others k i he
    rw [hy, Option.map_some] at hmap
    obtain ⟨y₀, hy₀, hs⟩ := Option.map_eq_some_iff.1 hmap.symm
    have hx := hc.excludes k i y₀ hy₀
    have hsp := hspare k i y₀ he hy₀
    rw [ofRecord_congr hs] at hx hsp
    exact (hstep _ _ (Exclusion.le_refl _) hsp.takes hc.native
      (fun e _ z hz hl => cacheKey_not_mem_ofRecord hz hl hy) hx).1

/-- Deleting content takes what its record kept out to what its deleted record keeps out. -/
theorem CacheStep.clean_of_delete {r : CounterRecord} (hc : c₀.Clean)
    (hr : c₀.records.record? (.content kind id) = some r)
    (hd : c₀.dispatcher.dispatch (.delete kind id r.owner r.visibility) = .ok call)
    (hw : Rewrote c₀ kind id (some (r.owner, r.visibility, true)) c₁)
    (h : CacheStep call [] c₁ o c) (hnf : ∀ msg, o ≠ .failed msg) : c.Clean := by
  refine h.clean_of_rewrote hc hw (fun k i y _ _ => Dispatcher.deleteCall_spares hd) (fun y hy => ?_) hnf
  have hy' : ofRecord kind id y = ofRecord kind id { r with deleted := true } :=
    ofRecord_congr (hw.shape hy)
  exact ⟨_, _, Exclusion.le_trans (Exclusion.le_sup_left _ _) (Exclusion.le_sup_left _ _),
    Dispatcher.deleteCall_takes hd _, hy' ▸ ofRecord_deleted_le r, hc.excludes kind id r hr,
    by simp⟩

/-- A cache step after storing a fresh live record of `kind id` keeps the controller clean when
the call spares every other record and takes nothing kept out to what the fresh record keeps
out. -/
theorem CacheStep.clean_of_fresh {owner : String} {vis : Visibility} (hc : c₀.Clean)
    (hw : Rewrote c₀ kind id (some (owner, vis, false)) c₁)
    (hspare : ∀ k i y, (k, i) ≠ (kind, id) → c₀.records.record? (.content k i) = some y →
      call.Spares (ofRecord k i y))
    (htakes : call.Takes ⊥ (ofRecord kind id (.content kind id owner vis)))
    (h : CacheStep call onMiss c₁ o c) (hnf : ∀ msg, o ≠ .failed msg) : c.Clean := by
  refine h.clean_of_rewrote hc hw hspare (fun y hy => ?_) hnf
  have hy' : ofRecord kind id y = ofRecord kind id (.content kind id owner vis) :=
    ofRecord_congr (hw.shape hy)
  exact ⟨⊥, _, Exclusion.bot_le _, htakes, hy' ▸ Exclusion.le_refl _, Keyspace.excludes_bot _ _,
    fun _ _ _ _ _ => not_mem_ofRecord_keys rfl _⟩

/-- Creating or republishing content takes it out of the views its visibility hides. -/
theorem CacheStep.clean_of_create {owner : String} {vis : Visibility} {score : Int}
    {mode : String} (hc : c₀.Clean)
    (hd : c₀.dispatcher.createCall kind id owner vis score mode = .ok call)
    (hw : Rewrote c₀ kind id (some (owner, vis, false)) c₁)
    (h : CacheStep call onMiss c₁ o c) (hnf : ∀ msg, o ≠ .failed msg) : c.Clean :=
  h.clean_of_fresh hc hw
    (fun _ _ _ hne _ => Dispatcher.createCall_spares hd (ofRecord_avoids_create hne owner vis score))
    (Dispatcher.createCall_takes hd) hnf

/-- Adding a comment creates its counter hash only. -/
theorem CacheStep.clean_of_comment {pk : Kind} {pid cid : Nat} {author : String} (hc : c₀.Clean)
    (hd : c₀.dispatcher.dispatch (.commentAdd pk pid cid author) = .ok call)
    (hw : Rewrote c₀ .comment cid (some (author, .visible, false)) c₁)
    (h : CacheStep call onMiss c₁ o c) (hnf : ∀ msg, o ≠ .failed msg) : c.Clean := by
  have hspares : ∀ x : Exclusion, Keys.counter .comment cid ∉ x.keys → call.Spares x := by
    refine fun x hx => Dispatcher.dispatch_spares hd ⟨fun k hk => ?_, fun p hp => ?_⟩
    · simp only [Event.footprint, List.mem_singleton] at hk
      exact hk ▸ hx
    · simp [Event.footprint] at hp
  exact h.clean_of_fresh hc hw (fun _ _ _ hne _ => hspares _ (counter_not_mem_ofRecord hne))
    (ScriptCall.Takes.mono (hspares ⊥ fun h => h.elim).takes (ofRecord_content_le _ _)) hnf

/-- Removing a comment deletes its counter hash; its parent is rehydrated only while it is
live, so it is not the comment. -/
theorem CacheStep.clean_of_removeComment {pk : Kind} {pid cid : Nat} {owner : String}
    {v : Visibility} (hc : c₀.Clean)
    (hd : c₀.dispatcher.dispatch (.commentRemove pk pid cid) = .ok call)
    (hw : Rewrote c₀ .comment cid (some (owner, v, true)) c₁)
    (h : CacheStep call [.content pk pid] c₁ o c) (hnf : ∀ msg, o ≠ .failed msg) : c.Clean := by
  refine h.clean_of_rewrote hc hw
    (fun _ _ _ _ _ => Dispatcher.dispatch_spares hd ⟨by simp [Event.footprint], by simp [Event.footprint]⟩)
    (fun y _ => ?_) hnf
  refine ⟨⊥, _, Exclusion.le_sup_left _ _, Dispatcher.commentRemove_takes hd ⊥,
    ofRecord_comment_le y, Keyspace.excludes_bot _ _, fun e he z hz hl hkey => ?_⟩
  rw [List.mem_singleton] at he
  subst he
  rcases hkey with hk | hk
  · exact hk.elim
  · rw [entity_of_record? hz] at hk
    obtain ⟨rfl, rfl⟩ := Keys.counter_injective hk
    exact not_deleted hz hl hw.deleted_self

end Assembly

section Lifecycle

variable (c₀ : Controller) (kind : Kind) (id : Nat)

theorem upsert_rewrote {rec : CounterRecord} (he : rec.entity = .content kind id) :
    ⦃fun c => ⌜(∃ s, Rewrote c₀ kind id s c) ∧
      (c.records.record? (.contentCounts rec.owner)).isSome⌝⦄
    upsert rec
    ⦃post⟨fun _ c => ⌜Rewrote c₀ kind id (some (rec.owner, rec.visibility, rec.deleted)) c⌝,
      fun _ _ => ⌜False⌝⟩⦄ := by
  have hupsert := upsert_spec
  mvcgen [hupsert]
  · rename_i c hc
    obtain ⟨⟨s, hw⟩, -⟩ := hc
    exact ⟨trivial, hw.tidy.working⟩
  · rename_i c hc _ _
    obtain ⟨⟨s, hw⟩, hcount⟩ := hc
    rintro rfl
    exact hw.put he hcount

/-- Moving the counts of the owner of `kind id`. -/
theorem adjustCounts_rewrote (s : Option (String × Visibility × Bool)) (owner : String)
    (hs : s.map (·.1) = some owner) (k : Kind) (vis : Visibility) (δ : Int) :
    ⦃fun c => ⌜Rewrote c₀ kind id s c⌝⦄
    adjustCounts owner k vis δ
    ⦃post⟨fun _ c => ⌜Rewrote c₀ kind id s c⌝, fun _ _ => ⌜False⌝⟩⦄ := by
  have hadjust := adjustCounts_spec
  mvcgen [hadjust]
  · rename_i c hw
    obtain ⟨x, hx⟩ := Option.isSome_iff_exists.1 (hw.counted hs)
    exact ⟨trivial, hw.tidy.working, x, hx, hw.tidy.countsLive _ x hx⟩
  · rename_i c hw _ _
    rintro ⟨r, rfl, hk⟩
    exact hw.keeps hk

theorem clearEdges_rewrote (s : Option (String × Visibility × Bool)) (target : EntityRef) :
    ⦃fun c => ⌜Rewrote c₀ kind id s c⌝⦄ clearEdges target
    ⦃post⟨fun _ c => ⌜Rewrote c₀ kind id s c⌝, fun _ _ => ⌜False⌝⟩⦄ := by
  have hclear := clearEdges_spec
  mvcgen [hclear]
  · rename_i c hc
    exact ⟨trivial, hc.tidy.working⟩
  · rename_i c hc _ _
    rintro rfl
    exact hc.keeps (keeps_clearTo target)

theorem ensureUser_rewrote (s : Option (String × Visibility × Bool)) (u : String) :
    ⦃fun c => ⌜Rewrote c₀ kind id s c⌝⦄ ensureUser u
    ⦃post⟨fun _ c => ⌜Rewrote c₀ kind id s c⌝, fun _ _ => ⌜False⌝⟩⦄ :=
  ensureUser_stable Rewrote.recordStable u

/-- Moving a count of the owner of `kind id`: the owner's counts are there to move. -/
theorem incrementCounts_rewrote (s : Option (String × Visibility × Bool)) (u : String)
    (hs : s.map (·.1) = some u) (col : String) (δ : Int) :
    ⦃fun c => ⌜Rewrote c₀ kind id s c⌝⦄ incrementColumn (.contentCounts u) col δ
    ⦃post⟨fun _ c => ⌜Rewrote c₀ kind id s c⌝, fun _ _ => ⌜False⌝⟩⦄ := by
  have hincrement := incrementColumn_spec
  mvcgen [hincrement]
  · rename_i c hw
    exact ⟨trivial, hw.tidy.working⟩
  · rename_i c hw _ _
    rintro ⟨x, hx, hl, rfl⟩
    exact hw.keeps (keeps_bumped hx hl _ _)
  · rename_i c hw _ _
    rintro rfl hdel
    obtain ⟨x, hx⟩ := Option.isSome_iff_exists.1 (hw.counted hs)
    simpa [hw.tidy.countsLive _ x hx] using hdel x hx

/-- Adding to a column of live content other than `kind id`. -/
theorem incrementLive_rewrote (s : Option (String × Visibility × Bool)) {k : Kind} {i : Nat}
    (hne : (k, i) ≠ (kind, id))
    (hlive : ∃ x, c₀.records.record? (.content k i) = some x ∧ x.deleted = false)
    (col : String) (δ : Int) :
    ⦃fun c => ⌜Rewrote c₀ kind id s c⌝⦄ incrementColumn (.content k i) col δ
    ⦃post⟨fun _ c => ⌜Rewrote c₀ kind id s c⌝, fun _ _ => ⌜False⌝⟩⦄ := by
  have hincrement := incrementColumn_spec
  mvcgen [hincrement]
  · rename_i c hw
    exact ⟨trivial, hw.tidy.working⟩
  · rename_i c hw _ _
    rintro ⟨x, hx, hl, rfl⟩
    exact hw.keeps (keeps_bumped hx hl _ _)
  · -- the content is live in `c`, as it is in `c₀`
    rename_i c hw _ _
    rintro rfl hdel
    obtain ⟨x, hx, hl⟩ := hlive
    have hmap := hw.others k i hne
    rw [hx, Option.map_some] at hmap
    obtain ⟨y, hy, hs⟩ := Option.map_eq_some_iff.1 hmap
    simpa [deleted_of_shape hs, hl] using hdel y hy

/-- Dispatching, with the dispatcher's error when it refuses the event. -/
theorem dispatch_result_spec (ev : Event) :
    ⦃fun c => ⌜c = c₀⌝⦄ dispatch ev
    ⦃post⟨fun call c => ⌜c = c₀ ∧ c₀.dispatcher.dispatch ev = .ok call⌝,
      fun e c => ⌜c = c₀ ∧ c₀.dispatcher.dispatch ev = .error e⌝⟩⦄ := by
  mvcgen [dispatch, ofExcept]
  all_goals simp_all

theorem existing_ok {e : EntityRef} {x : CounterRecord} (hw : c₀.records.failing = false)
    (hx : c₀.records.record? e = some x) :
    ⦃fun c => ⌜c = c₀⌝⦄ existing e ⦃post⟨fun r c => ⌜c = c₀ ∧ r = x⌝, fun _ _ => ⌜False⌝⟩⦄ := by
  have hrecordOf := recordOf_spec
  mvcgen [existing, hrecordOf]
  all_goals simp_all

theorem live_ok {e : EntityRef} {x : CounterRecord} (hw : c₀.records.failing = false)
    (hx : c₀.records.record? e = some x) (hl : x.deleted = false) :
    ⦃fun c => ⌜c = c₀⌝⦄ live e ⦃post⟨fun r c => ⌜c = c₀ ∧ r = x⌝, fun _ _ => ⌜False⌝⟩⦄ := by
  have hexisting := existing_ok c₀ hw hx
  mvcgen [live, hexisting]
  all_goals simp_all

theorem allow_ok {s : RecordState} {t : Transition} (h : ∃ s', s.step t = .ok s') :
    ⦃fun c => ⌜c = c₀⌝⦄ allow s t ⦃post⟨fun _ c => ⌜c = c₀⌝, fun _ _ => ⌜False⌝⟩⦄ := by
  mvcgen [allow, ofExcept]
  all_goals simp_all

variable (hc : c₀.Clean)
include hc

theorem deleteContent_clean :
    ⦃fun c => ⌜c = c₀⌝⦄ deleteContent kind id
    ⦃post⟨fun o c => ⌜((∀ msg, o.cache ≠ .failed msg) → c.Clean) ∧
        ∀ k i, c₀.records.Deleted k i → c.records.Deleted k i⌝,
      fun _ c => ⌜c = c₀⌝⟩⦄ := by
  have hexisting := existing_spec
  have hdispatch := dispatch_spec
  have hallow := allow_spec
  have hupsert := @upsert_rewrote c₀ kind id
  have hadjust := adjustCounts_rewrote c₀ kind id
  have hclear := clearEdges_rewrote c₀ kind id
  have hrunCache := runCache_spec
  mvcgen [deleteContent, hexisting, hdispatch, hallow, hupsert, hadjust, hclear, hrunCache]
  all_goals try casesm* _ ∧ _
  all_goals subst_vars
  · rename_i hr
    exact entity_of_record? hr
  · rename_i hr
    exact ⟨⟨_, Rewrote.start hc kind id⟩, hc.tidy.counted kind id _ hr⟩
  · rfl
  · -- the record is stored deleted, then the deletion script runs
    rename_i hstep _ hd hr _ _ hw
    exact ⟨CacheStep.clean_of_delete hc hr hd hw hstep,
      fun k i hdel => hstep.1 ▸ hw.keepsDeleted (fun _ => hw.deleted_self) k i hdel⟩
  · exact fun h => h
  · -- a record deleted before: nothing is written, and the script creates nothing
    rename_i hstep hd _
    exact ⟨fun _ => hstep.clean_of_spares hc fun _ _ _ _ => Dispatcher.deleteCall_spares hd,
      fun _ _ hdel => hstep.1 ▸ hdel⟩
  all_goals exact fun h => h

theorem createContent_clean (owner : String) (vis : Visibility) :
    ⦃fun c => ⌜c = c₀⌝⦄ createContent kind id owner vis
    ⦃post⟨fun o c => ⌜((∀ msg, o.cache ≠ .failed msg) → c.Clean) ∧
        ∀ k i, (k, i) ≠ (kind, id) → c₀.records.Deleted k i → c.records.Deleted k i⌝,
      fun _ c => ⌜c = c₀⌝⟩⦄ := by
  have hdispatch := dispatch_spec
  have hrecordOf := recordOf_spec
  have hallow := allow_spec
  have hensure := ensureUser_spec
  have hupsert := @upsert_rewrote c₀ kind id
  have hadjust := adjustCounts_rewrote c₀ kind id
  have hrunCache := runCache_spec
  mvcgen [createContent, ofExcept, hdispatch, hrecordOf, hallow, hensure, hupsert, hadjust,
    hrunCache]
  all_goals try casesm* _ ∧ _
  all_goals subst_vars
  · exact ⟨trivial, hc.tidy.working⟩
  · -- the owner is counted before the record is stored
    exact ⟨⟨_, (Rewrote.start hc kind id).keeps (keeps_ensured owner)⟩, ensured_counts owner⟩
  · rfl
  · rename_i hstep hd _ hw _
    exact ⟨fun hnf => CacheStep.clean_of_create hc hd hw hstep hnf,
      fun k i hne hdel => hstep.1 ▸ hw.deleted hne hdel⟩
  · exact fun h => h
  · exact fun h _ => h
  · exact fun h => h

theorem addComment_clean (parentKind : Kind) (parentId commentId : Nat) (author : String) :
    ⦃fun c => ⌜c = c₀⌝⦄ addComment parentKind parentId commentId author
    ⦃post⟨fun o c => ⌜((∀ msg, o.cache ≠ .failed msg) → c.Clean) ∧ ∀ k i,
        (k, i) ≠ (.comment, commentId) → c₀.records.Deleted k i → c.records.Deleted k i⌝,
      fun _ c => ⌜c = c₀⌝⟩⦄ := by
  have hlive := live_spec
  have hrecordOf := recordOf_spec
  have hallow := allow_spec
  have hdispatch := dispatch_spec
  have hensure := ensureUser_spec
  have hupsert := @upsert_rewrote c₀ .comment commentId
  have hincrement := @incrementLive_rewrote c₀ .comment commentId
  have hrunCache := runCache_spec
  mvcgen [addComment, hlive, hrecordOf, hallow, hdispatch, hensure, hupsert, hincrement, hrunCache]
  all_goals try casesm* _ ∧ _
  all_goals subst_vars
  · exact ⟨trivial, hc.tidy.working⟩
  · exact ⟨⟨_, (Rewrote.start hc .comment commentId).keeps (keeps_ensured author)⟩,
      ensured_counts author⟩
  · -- the comment could be created, so it is not the live parent
    rename_i hl _ hp _ hallow
    intro he
    obtain ⟨rfl, rfl⟩ := Prod.mk.inj he
    have hdel := deleted_of_create hallow _ hp
    rw [hl] at hdel
    cases hdel
  · rename_i hl _ hp _ _
    exact ⟨_, hp, hl⟩
  · rename_i hstep hl hd hp _ hw _
    exact ⟨fun hnf => CacheStep.clean_of_comment hc hd hw hstep hnf,
      fun k i hne hdel => hstep.1 ▸ hw.deleted hne hdel⟩
  · exact fun h => h
  · exact fun h => h
  · exact fun h _ => h
  · exact fun h => h

theorem removeComment_clean (commentId : Nat) :
    ⦃fun c => ⌜c = c₀⌝⦄ removeComment commentId
    ⦃post⟨fun o c => ⌜((∀ msg, o.cache ≠ .failed msg) → c.Clean) ∧
        ∀ k i, c₀.records.Deleted k i → c.records.Deleted k i⌝,
      fun _ c => ⌜c = c₀⌝⟩⦄ := by
  have hexisting := existing_spec
  have hdispatch := dispatch_spec
  have hupsert := @upsert_rewrote c₀ .comment commentId
  have hclear := clearEdges_rewrote c₀ .comment commentId
  have hrecordOf := recordOf_spec
  -- the parent's count moves after the comment is stored deleted
  have hincrement := @incrementLive_rewrote c₀ .comment commentId
    ((c₀.records.record? (.content .comment commentId)).map fun x => (x.owner, x.visibility, true))
  have hrunCache := runCache_spec
  mvcgen [removeComment, hexisting, hdispatch, hupsert, hclear, hrecordOf, hincrement, hrunCache]
  all_goals try casesm* _ ∧ _
  all_goals subst_vars
  · -- a comment removed before: nothing changes
    exact ⟨fun _ => hc, fun _ _ h => h⟩
  · rename_i hr
    exact entity_of_record? hr
  · rename_i hr
    exact ⟨⟨_, Rewrote.start hc .comment commentId⟩, hc.tidy.counted .comment commentId _ hr⟩
  · rename_i hw hl
    exact (hw.live_other hl).1
  · rename_i hw hl
    exact (hw.live_other hl).2
  · rename_i hr _ hw _
    rw [hr]
    exact hw
  · -- the parent is live: its count moves, then the removal script runs
    rename_i hstep hd hr _ hw _ _
    rw [hr] at hw
    exact ⟨fun hnf => CacheStep.clean_of_removeComment hc hd hw hstep hnf,
      fun k i hdel => hstep.1 ▸ hw.keepsDeleted (fun _ => hw.deleted_self) k i hdel⟩
  · rename_i hstep hd _ _ hw _
    exact ⟨fun hnf => CacheStep.clean_of_removeComment hc hd hw hstep hnf,
      fun k i hdel => hstep.1 ▸ hw.keepsDeleted (fun _ => hw.deleted_self) k i hdel⟩
  · -- reading the parent fails only on a failing system
    rename_i hw
    intro _ hf
    rw [hw.tidy.working] at hf
    cases hf
  · exact fun h => h
  · rfl
  · exact fun h => h

/-- A comment with no record, or a deleted one, is created again by adding it to live content:
the write succeeds and leaves the comment's record live. -/
theorem addComment_recreates {pk : Kind} {pid cid : Nat} {author : String} {xp : CounterRecord}
    (hp : c₀.records.record? (.content pk pid) = some xp) (hpl : xp.deleted = false)
    (hd : ∀ x, c₀.records.record? (.content .comment cid) = some x → x.deleted = true) :
    ⦃fun c => ⌜c = c₀⌝⦄ addComment pk pid cid author
    ⦃post⟨fun _ c => ⌜∃ y, c.records.record? (.content .comment cid) = some y ∧
        y.deleted = false⌝, fun _ _ => ⌜False⌝⟩⦄ := by
  have hlive := live_ok c₀ hc.tidy.working hp hpl
  have hrecordOf := recordOf_spec
  have hallow := @allow_ok c₀
  have hdispatch := dispatch_result_spec c₀
  have hensure := ensureUser_spec
  have hupsert := @upsert_rewrote c₀ .comment cid
  have hincrement := @incrementLive_rewrote c₀ .comment cid
  have hrunCache := runCache_spec
  mvcgen [addComment, hlive, hrecordOf, hallow, hdispatch, hensure, hupsert, hincrement, hrunCache]
  all_goals try casesm* _ ∧ _
  all_goals subst_vars
  · exact create_allowed_iff.2 hd
  · rfl
  · exact ⟨trivial, hc.tidy.working⟩
  · exact ⟨⟨_, (Rewrote.start hc .comment cid).keeps (keeps_ensured author)⟩, ensured_counts author⟩
  · -- the live parent is not the comment, whose record is deleted if there is one
    intro he
    obtain ⟨rfl, rfl⟩ := Prod.mk.inj he
    have hdel := hd _ hp
    rw [hpl] at hdel
    cases hdel
  · exact ⟨_, hp, hpl⟩
  · rename_i hstep _ hw _
    obtain ⟨y, hy, hl⟩ := hw.live_self
    exact ⟨y, by rw [hstep.1]; exact hy, hl⟩
  · -- the dispatcher maps every comment to its script
    intro _ hdis
    simp [Dispatcher.dispatch] at hdis
  · intro _ hf
    rw [hc.tidy.working] at hf
    cases hf

theorem republish_clean (vis : Visibility) :
    ⦃fun c => ⌜c = c₀⌝⦄ republish kind id vis
    ⦃post⟨fun o c => ⌜((∀ msg, o.cache ≠ .failed msg) → c.Clean) ∧
        ∀ k i, c₀.records.Deleted k i → c.records.Deleted k i⌝,
      fun _ c => ⌜c = c₀⌝⟩⦄ := by
  have hlive := live_spec
  have hdispatch := dispatch_spec
  have hupsert := @upsert_rewrote c₀ kind id
  have hensure := ensureUser_rewrote c₀ kind id
  have hincrement := incrementCounts_rewrote c₀ kind id
  have hrunCache := runCache_spec
  mvcgen [republish, ofExcept, hlive, hdispatch, hupsert, hensure, hincrement, hrunCache]
  all_goals try casesm* _ ∧ _
  all_goals subst_vars
  · rename_i hr
    exact entity_of_record? hr
  · rename_i hr
    exact ⟨⟨_, Rewrote.start hc kind id⟩, hc.tidy.counted kind id _ hr⟩
  · rfl
  · -- the record is stored with its new visibility, then the republish script runs
    rename_i hstep hl hd hr _ _ hw
    rw [hl] at hw
    exact ⟨fun hnf => CacheStep.clean_of_create hc hd hw hstep hnf, fun k i hdel =>
      hstep.1 ▸ hw.keepsDeleted (fun hself => absurd hself (not_deleted hr hl)) k i hdel⟩
  · -- the visibility is unchanged: nothing is written, and the script lists the record again
    rename_i hsame _ _ _ hstep hl hd hr
    have hw := Rewrote.start_of hc hr
    rw [CounterRecord.shape, of_not_not hsame, hl] at hw
    exact ⟨fun hnf => CacheStep.clean_of_create hc hd hw hstep hnf,
      fun _ _ hdel => hstep.1 ▸ hdel⟩
  all_goals simp

end Lifecycle

end Controller

end CounterCache
