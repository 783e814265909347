import Mathlib
import CounterCache.Proofs.ScriptFootprints
import CounterCache.Proofs.RecordCounts
import CounterCache.Engine.Controller

/-!
# What the cache may hold of a record

The system of record decides what the cache must not hold of content (`Exclusion.ofRecord`):
once its record is deleted, its counter hash and its id in every view it showed in; while it
is hidden, its id in the views visitors read. It depends on the record's owner, visibility and
deletion only (`CounterRecord.shape`).

`Controller.Clean` says that the cache excludes that of every content record, with the system
of record working and every content owner counted. `Controller.Keeps c₀ c` says that `c`
keeps what `c₀` holds for it: the same shapes of content, and every exclusion `c₀`'s cache
held. Steps that only add to columns, flip edges or add per-user records keep it, and so does
a script call that spares the exclusion of every content record (`ScriptCall.SparesRecords`).
Among them are the calls of engagement events and the rehydrating and refreshing calls of live
records: what they write of content they write of live content, where only hidden content's
visitors' views are excluded.
-/

namespace CounterCache

open Keys

/-! ## Records by entity -/

namespace SystemOfRecord

/-- The record of an entity, as `get?` finds it. -/
def record? (r : SystemOfRecord) (e : EntityRef) : Option CounterRecord :=
  r.records.find? (·.entity == e)

variable {r : SystemOfRecord}

theorem entity_of_record? {e : EntityRef} {x : CounterRecord} (h : r.record? e = some x) :
    x.entity = e := by
  have hp := List.find?_some h
  exact beq_iff_eq.1 hp

theorem get?_eq_record? (hw : r.failing = false) (e : EntityRef) :
    r.get? e = .ok (r.record? e) :=
  get?_of_working hw e

theorem record?_put (rec : CounterRecord) (e : EntityRef) :
    (r.put rec).record? e = if rec.entity = e then some rec else r.record? e := by
  unfold put record?
  split
  · -- the record replaces the entity's in place, so a search finds the same position
    rename_i hany
    have hsame : r.records.find? ((·.entity == e) ∘ fun x =>
        if x.entity == rec.entity then rec else x) = r.records.find? (·.entity == e) :=
      List.find?_congr fun x _ => by
        by_cases hx : x.entity = rec.entity <;> by_cases he : rec.entity = e <;> simp_all
    rw [List.find?_map, hsame]
    cases hf : r.records.find? (·.entity == e) with
    | none =>
      have hne : rec.entity ≠ e := by
        rintro rfl
        obtain ⟨x, hx, hxe⟩ := List.any_eq_true.1 hany
        have hs : (r.records.find? (·.entity == rec.entity)).isSome :=
          List.find?_isSome.2 ⟨x, hx, hxe⟩
        rw [hf] at hs
        cases hs
      simp [hne]
    | some x =>
      have hxe : x.entity = e := entity_of_record? hf
      by_cases he : rec.entity = e <;> simp [hxe, he, Ne.symm]
  · -- the record is the first of its entity, appended
    rename_i hany
    rw [List.find?_append]
    by_cases he : rec.entity = e
    · subst he
      have hnone : r.records.find? (·.entity == rec.entity) = none := by
        rw [List.find?_eq_none]
        intro x hx hxe
        exact hany (List.any_eq_true.2 ⟨x, hx, hxe⟩)
      simp [hnone]
    · simp [he]

@[simp] theorem record?_flip (edge : Edge) (present : Bool) (e : EntityRef) :
    (r.flip edge present).record? e = r.record? e := by
  simp [record?]

@[simp] theorem record?_clearTo (t e : EntityRef) : (r.clearTo t).record? e = r.record? e := rfl

theorem ensuredOne_eq (rec : CounterRecord) :
    r.ensuredOne rec = if (r.record? rec.entity).isNone then r.put rec else r := rfl

theorem record?_ensuredOne (rec : CounterRecord) (e : EntityRef) :
    (r.ensuredOne rec).record? e =
      if rec.entity = e ∧ r.record? e = none then some rec else r.record? e := by
  unfold ensuredOne
  split
  · rename_i hnone
    rw [record?_put]
    by_cases he : rec.entity = e
    · subst he
      simp [record?, Option.isNone_iff_eq_none.1 hnone]
    · simp [he]
  · rename_i hsome
    have : ¬ (rec.entity = e ∧ r.record? e = none) := by
      rintro ⟨rfl, hn⟩
      exact hsome (Option.isNone_iff_eq_none.2 hn)
    rw [if_neg this]

/-- `ensured` adds the two per-user records only where they were missing. -/
theorem record?_ensured (u : String) (e : EntityRef) :
    (r.ensured u).record? e = r.record? e ∨
      (r.record? e = none ∧ (e = .achievement u ∧ (r.ensured u).record? e = some (.achievement u) ∨
        e = .contentCounts u ∧ (r.ensured u).record? e = some (.contentCounts u))) := by
  unfold ensured
  rw [record?_ensuredOne, record?_ensuredOne]
  cases e with
  | content k i => simp [CounterRecord.achievement, CounterRecord.contentCounts]
  | achievement v =>
    by_cases h : u = v
    · subst h
      cases hr : r.record? (.achievement u) <;> simp [CounterRecord.achievement]
    · simp [h, Ne.symm h, CounterRecord.achievement, CounterRecord.contentCounts]
  | contentCounts v =>
    by_cases h : u = v
    · subst h
      cases hr : r.record? (.contentCounts u) <;> simp [CounterRecord.achievement,
        CounterRecord.contentCounts]
    · simp [h, Ne.symm h, CounterRecord.achievement, CounterRecord.contentCounts]

theorem ensured_counts (u : String) : ((r.ensured u).record? (.contentCounts u)).isSome := by
  unfold ensured
  rw [record?_ensuredOne]
  split
  · rfl
  · rename_i h
    simp only [CounterRecord.contentCounts, true_and] at h
    exact Option.isSome_iff_ne_none.2 h

@[simp] theorem ensured_failing (u : String) : (r.ensured u).failing = r.failing := by
  simp [ensured, ensuredOne]
  split <;> split <;> simp

theorem incrementColumn_record? {e : EntityRef} {c : String} {δ : Int}
    {p : CounterRecord × SystemOfRecord} (h : r.incrementColumn e c δ = .ok p) :
    ∃ x, r.record? e = some x ∧ x.deleted = false ∧ p.2 = r.put (x.bumped c δ) := by
  unfold incrementColumn at h
  cases hc : r.check with
  | error err => simp [hc, bind, Except.bind] at h
  | ok u =>
    cases hf : r.records.find? (·.entity == e) with
    | none => simp [hc, hf, bind, Except.bind, throw, throwThe, MonadExceptOf.throw] at h
    | some x =>
      have hxe : x.entity = e := entity_of_record? hf
      cases hd : x.deleted
      · have hany : r.records.any (·.entity == (x.bumped c δ).entity) = true :=
          List.any_eq_true.2 ⟨x, List.mem_of_find?_eq_some hf, by simp⟩
        refine ⟨x, hf, hd, ?_⟩
        simp only [hc, hf, hd, bind, Except.bind, pure, Except.pure, Bool.false_eq_true, if_false,
          Except.ok.injEq] at h
        rw [← h, put, if_pos hany]
        simp [CounterRecord.bumped, hxe, hd]
      · simp [hc, hf, hd, bind, Except.bind, throw, throwThe, MonadExceptOf.throw] at h

end SystemOfRecord

/-! ## What the cache must not hold -/

namespace CounterRecord

/-- What the rules on the cache read of a content record: its owner, its visibility and whether
it is deleted. -/
def shape (x : CounterRecord) : String × Visibility × Bool := (x.owner, x.visibility, x.deleted)

@[simp] theorem achievement_entity (u : String) : (achievement u).entity = .achievement u := rfl

@[simp] theorem contentCounts_entity (u : String) : (contentCounts u).entity = .contentCounts u :=
  rfl

@[simp] theorem content_entity (kind : Kind) (id : Nat) (owner : String) (vis : Visibility) :
    (content kind id owner vis).entity = .content kind id := rfl

@[simp] theorem shape_bumped (x : CounterRecord) (c : String) (δ : Int) :
    (x.bumped c δ).shape = x.shape := rfl

theorem deleted_of_shape {x y : CounterRecord} (h : x.shape = y.shape) : x.deleted = y.deleted :=
  congrArg (·.2.2) h

end CounterRecord

namespace Exclusion

/-- What the cache must not hold of content `kind id` whose record is `x`: once it is deleted,
its counter hash and its id in every view of its kind and owner; while it is hidden, its id in
the views visitors read. -/
def ofRecord (kind : Kind) (id : Nat) (x : CounterRecord) : Exclusion where
  keys := {k | x.deleted = true ∧ k = counter kind id}
  members := {p | p.2 = toString id ∧ (x.deleted = true ∧ p.1 ∈ contentViews kind x.owner ∨
    x.visibility = .hidden ∧ p.1 ∈ visitorViews kind x.owner)}

variable {kind : Kind} {id : Nat} {x y : CounterRecord}

theorem ofRecord_congr (h : x.shape = y.shape) : ofRecord kind id x = ofRecord kind id y := by
  simp only [CounterRecord.shape, Prod.mk.injEq] at h
  obtain ⟨ho, hv, hd⟩ := h
  simp only [ofRecord, ho, hv, hd]

theorem mem_ofRecord_keys {k : String} :
    k ∈ (ofRecord kind id x).keys ↔ x.deleted = true ∧ k = counter kind id := Iff.rfl

/-- A live record keeps no key out. -/
theorem not_mem_ofRecord_keys (hx : x.deleted = false) (k : String) :
    k ∉ (ofRecord kind id x).keys := by
  simp [mem_ofRecord_keys, hx]

theorem not_mem_ofRecord_keys_of_ne {k : String} (h : k ≠ counter kind id) :
    k ∉ (ofRecord kind id x).keys :=
  fun hk => h hk.2

theorem user_not_mem_ofRecord_keys (s : String) : "user:" ++ s ∉ (ofRecord kind id x).keys :=
  not_mem_ofRecord_keys_of_ne (user_ne_counter s kind id)

/-- A member naming other content is not kept out: its view names the kind, the member the id. -/
theorem not_mem_ofRecord_members {v : String} {k : Kind} {i : Nat} (hv : kindOf? v = some k)
    (hne : (k, i) ≠ (kind, id)) : (v, toString i) ∉ (ofRecord kind id x).members := by
  rintro ⟨hi, hmem⟩
  have hview : v ∈ contentViews kind x.owner := by
    rcases hmem with ⟨-, h⟩ | ⟨-, h⟩
    · exact h
    · exact visitorViews_subset kind x.owner h
  rw [kindOf?_of_mem_contentViews hview, Option.some_inj] at hv
  have hid : i = id := Nat.repr_inj.mp hi
  exact hne (by rw [hv, hid])

/-- A footprint of per-user keys only, with no member, avoids every record's exclusion. -/
theorem avoids_userKeys {fp : Footprint} (hk : ∀ k ∈ fp.keys, ∃ s, k = "user:" ++ s)
    (hm : fp.members = []) : (ofRecord kind id x).Avoids fp := by
  refine ⟨fun k hkey => ?_, by simp [hm]⟩
  obtain ⟨s, rfl⟩ := hk k hkey
  exact user_not_mem_ofRecord_keys s

end Exclusion

/-! ## Calls that spare every record -/

namespace SystemOfRecord

open Exclusion

variable {r : SystemOfRecord} {kind : Kind} {id : Nat} {x y : CounterRecord}

/-- Two records of one content entity are one record. -/
theorem record?_content_eq {k : Kind} {i : Nat} (hx : r.record? (.content k i) = some x)
    (hy : r.record? (.content kind id) = some y) (he : (k, i) = (kind, id)) : x = y := by
  simp only [Prod.mk.injEq] at he
  obtain ⟨rfl, rfl⟩ := he
  rw [hx] at hy
  exact Option.some_inj.1 hy

/-- The cached copy of a live record is kept out by no record's exclusion. -/
theorem cacheKey_not_mem_ofRecord {e : EntityRef} (hx : r.record? e = some x)
    (hl : x.deleted = false) (hy : r.record? (.content kind id) = some y) :
    x.entity.cacheKey ∉ (ofRecord kind id y).keys := by
  rw [entity_of_record? hx]
  cases e with
  | content k i =>
    by_cases he : (k, i) = (kind, id)
    · rw [← record?_content_eq hx hy he]
      exact not_mem_ofRecord_keys hl _
    · refine not_mem_ofRecord_keys_of_ne fun h => he ?_
      obtain ⟨rfl, rfl⟩ := counter_injective h
      rfl
  | achievement u =>
    simpa only [EntityRef.cacheKey, Keys.achievement, String.append_assoc] using
      user_not_mem_ofRecord_keys (u ++ ":achievement")
  | contentCounts u =>
    simpa only [EntityRef.cacheKey, Keys.contentCounts, String.append_assoc] using
      user_not_mem_ofRecord_keys (u ++ ":count")

/-- A member that live content shows outside its visitors' views is kept out by no record's
exclusion. -/
theorem not_mem_ofRecord_members_of_live {k : Kind} {i : Nat}
    (hx : r.record? (.content k i) = some x) (hl : x.deleted = false)
    (hy : r.record? (.content kind id) = some y) {v : String} (hv : kindOf? v = some k)
    (hvis : v ∉ visitorViews k x.owner) : (v, toString i) ∉ (ofRecord kind id y).members := by
  by_cases he : (k, i) = (kind, id)
  · rw [← record?_content_eq hx hy he]
    rintro ⟨-, ⟨hd, -⟩ | ⟨-, hmem⟩⟩
    · rw [hl] at hd
      cases hd
    · simp only [Prod.mk.injEq] at he
      obtain ⟨rfl, rfl⟩ := he
      exact hvis hmem
  · exact not_mem_ofRecord_members hv he

end SystemOfRecord

/-- The call spares the exclusion of every content record of the system. -/
def ScriptCall.SparesRecords (call : ScriptCall) (r : SystemOfRecord) : Prop :=
  ∀ kind id x, r.record? (.content kind id) = some x → call.Spares (.ofRecord kind id x)

namespace Dispatcher

open Exclusion SystemOfRecord

variable {r : SystemOfRecord} {e : EntityRef} {x : CounterRecord}

theorem sparesRecords_of_dispatch {d : Dispatcher} {ev : Event} {call : ScriptCall}
    (h : d.dispatch ev = .ok call)
    (hx : ∀ kind id y, r.record? (.content kind id) = some y → (ofRecord kind id y).Avoids ev.footprint) :
    call.SparesRecords r :=
  fun kind id y hy => dispatch_spares h (hx kind id y hy)

/-- Rehydrating a live record writes its own cached copy only. -/
theorem rehydrate_sparesRecords (d : Dispatcher) (hx : r.record? e = some x)
    (hl : x.deleted = false) : (d.rehydrate x).SparesRecords r :=
  fun _ _ _ hy => rehydrate_spares d x (cacheKey_not_mem_ofRecord hx hl hy)

theorem refresh_sparesRecords (d : Dispatcher) (hx : r.record? e = some x)
    (hl : x.deleted = false) : (d.refresh x).SparesRecords r :=
  fun _ _ _ hy => refresh_spares d x (cacheKey_not_mem_ofRecord hx hl hy)

/-- Refreshing the rankings of a live record writes its own id into its kind's rankings, which
visitors' views are not. -/
theorem refreshRankings_sparesRecords (hx : r.record? e = some x) (hl : x.deleted = false) :
    ∀ call ∈ refreshRankings x, call.SparesRecords r := by
  intro call hcall kind id y hy
  cases he : e with
  | content k i =>
    subst he
    refine refreshRankings_spares x (entity_of_record? hx) (fun v hv => ⟨?_, ?_⟩) call hcall
    · exact not_mem_ofRecord_keys_of_ne (ranking_ne_counter hv k kind id)
    · exact not_mem_ofRecord_members_of_live hx hl hy (kindOf?_ranking k v)
        (ranking_not_mem_visitorViews k k v x.owner)
  | achievement u =>
    subst he
    simp [refreshRankings, entity_of_record? hx] at hcall
  | contentCounts u =>
    subst he
    simp [refreshRankings, entity_of_record? hx] at hcall

end Dispatcher

/-! ## The invariant, and what keeps it -/

namespace SystemOfRecord

open CounterRecord

/-- The system of record as the controller keeps it: working, with content counts that are
never deleted and a content-count record for every owner of content. -/
structure Tidy (r : SystemOfRecord) : Prop where
  working : r.failing = false
  countsLive : ∀ u x, r.record? (.contentCounts u) = some x → x.deleted = false
  counted : ∀ kind id x, r.record? (.content kind id) = some x →
    (r.record? (.contentCounts x.owner)).isSome

/-- `r'` keeps what `r` holds for the cache: its working flag and the shape of its content, a
counted user stays counted, and content counts stay live. -/
structure Keeps (r r' : SystemOfRecord) : Prop where
  failing : r'.failing = r.failing
  content : ∀ kind id,
    (r'.record? (.content kind id)).map shape = (r.record? (.content kind id)).map shape
  counted : ∀ u, (r.record? (.contentCounts u)).isSome → (r'.record? (.contentCounts u)).isSome
  countsLive : (∀ u x, r.record? (.contentCounts u) = some x → x.deleted = false) →
    ∀ u x, r'.record? (.contentCounts u) = some x → x.deleted = false

variable {r r' r'' : SystemOfRecord}

@[refl] theorem Keeps.refl (r : SystemOfRecord) : r.Keeps r :=
  ⟨rfl, fun _ _ => rfl, fun _ h => h, fun h => h⟩

theorem Keeps.trans (h : r.Keeps r') (h' : r'.Keeps r'') : r.Keeps r'' where
  failing := h'.failing.trans h.failing
  content kind id := (h'.content kind id).trans (h.content kind id)
  counted u hu := h'.counted u (h.counted u hu)
  countsLive hl := h'.countsLive (h.countsLive hl)

/-- A content record keeps its shape along `Keeps`. -/
theorem Keeps.record? (h : r.Keeps r') {kind : Kind} {id : Nat} {x : CounterRecord}
    (hx : r.record? (.content kind id) = some x) :
    ∃ y, r'.record? (.content kind id) = some y ∧ y.shape = x.shape := by
  have hc := h.content kind id
  rw [hx, Option.map_some] at hc
  obtain ⟨y, hy, hs⟩ := Option.map_eq_some_iff.1 hc
  exact ⟨y, hy, hs⟩

/-- And the other way round: every content record of `r'` has a record of its shape in `r`. -/
theorem Keeps.record?_symm (h : r.Keeps r') {kind : Kind} {id : Nat} {y : CounterRecord}
    (hy : r'.record? (.content kind id) = some y) :
    ∃ x, r.record? (.content kind id) = some x ∧ x.shape = y.shape := by
  have hc := (h.content kind id).symm
  rw [hy, Option.map_some] at hc
  obtain ⟨x, hx, hs⟩ := Option.map_eq_some_iff.1 hc
  exact ⟨x, hx, hs⟩

theorem Tidy.keeps (ht : r.Tidy) (h : r.Keeps r') : r'.Tidy where
  working := h.failing.trans ht.working
  countsLive := h.countsLive ht.countsLive
  counted kind id y hy := by
    obtain ⟨x, hx, hs⟩ := h.record?_symm hy
    have howner : x.owner = y.owner := congrArg (·.1) hs
    exact h.counted _ (howner ▸ ht.counted kind id x hx)

/-- Storing a record keeps the shapes when it keeps the shape of content it replaces, and the
counts live when it is live content counts. -/
theorem keeps_put {rec : CounterRecord}
    (hcontent : ∀ kind id, rec.entity = .content kind id →
      (r.record? rec.entity).map shape = some rec.shape)
    (hcounts : ∀ u, rec.entity = .contentCounts u → rec.deleted = false) :
    r.Keeps (r.put rec) where
  failing := put_failing rec
  content kind id := by
    rw [record?_put]
    split
    · rename_i he
      rw [← he, hcontent kind id he, Option.map_some]
    · rfl
  counted u hu := by
    rw [record?_put]
    split
    · rfl
    · exact hu
  countsLive hl u x hx := by
    rw [record?_put] at hx
    split at hx
    · exact Option.some_inj.1 hx ▸ hcounts u ‹_›
    · exact hl u x hx

/-- Adding to a column of a live record keeps everything the cache reads. -/
theorem keeps_bumped {e : EntityRef} {x : CounterRecord} (hx : r.record? e = some x)
    (hl : x.deleted = false) (c : String) (δ : Int) : r.Keeps (r.put (x.bumped c δ)) := by
  have he : x.entity = e := entity_of_record? hx
  refine keeps_put (fun _ _ _ => ?_) (fun _ _ => ?_)
  · rw [bumped_entity, he, hx, Option.map_some, shape_bumped]
  · rwa [bumped_deleted]

theorem keeps_incrementColumn {e : EntityRef} {c : String} {δ : Int}
    {p : CounterRecord × SystemOfRecord} (h : r.incrementColumn e c δ = .ok p) : r.Keeps p.2 := by
  obtain ⟨x, hx, hl, hp⟩ := incrementColumn_record? h
  rw [hp]
  exact keeps_bumped hx hl c δ

/-- Storing a live per-user record keeps everything the cache reads. -/
theorem keeps_put_user {rec : CounterRecord} (he : rec.entity.isContent = false)
    (hl : rec.deleted = false) : r.Keeps (r.put rec) :=
  keeps_put (fun kind id h => by rw [h] at he; cases he) (fun _ _ => hl)

theorem keeps_ensured (u : String) : r.Keeps (r.ensured u) := by
  have hone : ∀ {r : SystemOfRecord} (rec : CounterRecord), rec.entity.isContent = false →
      rec.deleted = false → r.Keeps (r.ensuredOne rec) := by
    intro r rec he hl
    unfold ensuredOne
    split
    · exact keeps_put_user he hl
    · exact Keeps.refl r
  exact (hone _ rfl rfl).trans (hone _ rfl rfl)

/-- Sparing every record's exclusion depends on the shapes of content only. -/
theorem sparesRecords_of_keeps {call : ScriptCall} (hk : r.Keeps r') (h : call.SparesRecords r) :
    call.SparesRecords r' := by
  intro kind id y hy
  obtain ⟨x, hx, hs⟩ := hk.record?_symm hy
  rw [← Exclusion.ofRecord_congr hs]
  exact h kind id x hx

theorem sparesRecords_of_keeps_symm {call : ScriptCall} (hk : r.Keeps r')
    (h : call.SparesRecords r') : call.SparesRecords r := by
  intro kind id x hx
  obtain ⟨y, hy, hs⟩ := hk.record? hx
  rw [← Exclusion.ofRecord_congr hs]
  exact h kind id y hy

@[simp] theorem keeps_flip (edge : Edge) (present : Bool) : r.Keeps (r.flip edge present) :=
  ⟨flip_failing edge present, by simp, by simp, by simp⟩

@[simp] theorem keeps_clearTo (t : EntityRef) : r.Keeps (r.clearTo t) :=
  ⟨rfl, by simp, by simp, by simp⟩

end SystemOfRecord

namespace Controller

open Exclusion SystemOfRecord

/-- The cache holds nothing of content that the content's record keeps out, with a tidy system
of record and scripts run natively. -/
structure Clean (c : Controller) : Prop where
  native : c.mode = .native
  tidy : c.records.Tidy
  excludes : ∀ kind id x, c.records.record? (.content kind id) = some x →
    c.cache.keyspace.Excludes c.now (ofRecord kind id x)

/-- `c` keeps what `c₀` holds for the cache: the clock, the mode, the dispatcher, the system of
record as `SystemOfRecord.Keeps` says, and every exclusion of a record that `c₀`'s cache held. -/
structure Keeps (c₀ c : Controller) : Prop where
  now : c.now = c₀.now
  mode : c.mode = c₀.mode
  dispatcher : c.dispatcher = c₀.dispatcher
  records : c₀.records.Keeps c.records
  excludes : ∀ kind id x, c₀.records.record? (.content kind id) = some x →
    c₀.cache.keyspace.Excludes c₀.now (ofRecord kind id x) →
    c.cache.keyspace.Excludes c.now (ofRecord kind id x)

variable {c₀ c c' : Controller}

@[refl] theorem Keeps.refl (c : Controller) : c.Keeps c :=
  ⟨rfl, rfl, rfl, SystemOfRecord.Keeps.refl _, fun _ _ _ _ h => h⟩

theorem Keeps.trans (h : c₀.Keeps c) (h' : c.Keeps c') : c₀.Keeps c' where
  now := h'.now.trans h.now
  mode := h'.mode.trans h.mode
  dispatcher := h'.dispatcher.trans h.dispatcher
  records := h.records.trans h'.records
  excludes kind id x hx hex := by
    obtain ⟨y, hy, hs⟩ := h.records.record? hx
    have hexy := h'.excludes kind id y hy (by rw [ofRecord_congr hs]; exact h.excludes kind id x hx hex)
    rwa [ofRecord_congr hs] at hexy

theorem Clean.keeps (hc : c₀.Clean) (h : c₀.Keeps c) : c.Clean where
  native := h.mode.trans hc.native
  tidy := hc.tidy.keeps h.records
  excludes kind id y hy := by
    obtain ⟨x, hx, hs⟩ := h.records.record?_symm hy
    rw [← ofRecord_congr hs]
    exact h.excludes kind id x hx (hc.excludes kind id x hx)

/-- Changing only the system of record, as `SystemOfRecord.Keeps` allows, keeps the rest. -/
theorem keeps_records {r : SystemOfRecord} (h : c.records.Keeps r) :
    c.Keeps { c with records := r } :=
  ⟨rfl, rfl, rfl, h, fun _ _ _ _ hex => hex⟩

/-- A deleted content record stays deleted along `Keeps`. -/
theorem Keeps.deleted (h : c₀.Keeps c) {kind : Kind} {id : Nat} {x : CounterRecord}
    (hx : c₀.records.record? (.content kind id) = some x) (hd : x.deleted = true) :
    ∃ y, c.records.record? (.content kind id) = some y ∧ y.deleted = true := by
  obtain ⟨y, hy, hs⟩ := h.records.record? hx
  exact ⟨y, hy, (CounterRecord.deleted_of_shape hs).trans hd⟩

end Controller

end CounterCache
