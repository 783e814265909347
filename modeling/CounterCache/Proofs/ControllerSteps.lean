import Mathlib
import CounterCache.Proofs.RecordExclusion
import CounterCache.Engine.Controller.Reads
import CounterCache.Engine.Controller.Writes

/-!
# What each step of the controller does

Specifications of the controller's computations, in two forms. A read leaves the controller
as it is and answers from the system of record or the cache (`recordOf_spec`, `live_spec`,
`dispatch_spec`, ...). A write to the system of record is given exactly (`upsert_spec`,
`incrementColumn_spec`, ...), and also as keeping any predicate that such writes keep
(`RecordStable`).
-/

namespace CounterCache

namespace SystemOfRecord

variable {r r' : SystemOfRecord}

/-! ## The system of record's answers -/

theorem record?_of_get? {e : EntityRef} {o : Option CounterRecord} (h : r.get? e = .ok o) :
    o = r.record? e := by
  cases hf : r.failing <;>
    simp_all [get?, check, record?, bind, Except.bind, pure, Except.pure]

theorem failing_of_get? {e : EntityRef} {err : Error} (h : r.get? e = .error err) :
    r.failing = true := by
  cases hf : r.failing <;> simp_all [get?, check, bind, Except.bind, pure, Except.pure]

theorem put_of_upsert {rec : CounterRecord} (h : r.upsert rec = .ok r') : r' = r.put rec := by
  cases hf : r.failing
  · rw [upsert_of_working hf] at h
    exact (Except.ok.inj h).symm
  · simp [upsert, check, hf, bind, Except.bind] at h

theorem failing_of_upsert {rec : CounterRecord} {err : Error} (h : r.upsert rec = .error err) :
    r.failing = true := by
  cases hf : r.failing
  · rw [upsert_of_working hf] at h
    cases h
  · rfl

/-- An increment fails only on a failing system, or without a live record to add to. -/
theorem incrementColumn_error {e : EntityRef} {c : String} {δ : Int} {err : Error}
    (h : r.incrementColumn e c δ = .error err) :
    r.failing = true ∨ ∀ x, r.record? e = some x → x.deleted = true := by
  cases hf : r.failing
  · refine .inr fun x hx => ?_
    have hx' : r.records.find? (·.entity == e) = some x := hx
    cases hd : x.deleted
    · simp [incrementColumn, check, hf, hx', hd, bind, Except.bind, pure, Except.pure] at h
    · rfl
  · exact .inl rfl

end SystemOfRecord

namespace ScriptCall

open Std.Do

/-- The call's template, run natively, takes a transaction that excludes `x` to one that
excludes `x'`. -/
def Takes (call : ScriptCall) (x x' : Exclusion) : Prop :=
  ∀ tm, Catalog.lookup call.script = .ok tm →
    ⦃fun t => ⌜t.Excludes x⌝⦄ tm.run call.keys call.args
    ⦃post⟨fun _ t => ⌜t.Excludes x'⌝, fun _ _ => ⌜True⌝⟩⦄

theorem Spares.takes {call : ScriptCall} {x : Exclusion} (h : call.Spares x) : call.Takes x x :=
  fun tm hl => Template.run_excludes x tm call.keys call.args (h tm hl)

end ScriptCall

namespace Store

/-- A native call whose template takes `x` to a larger `x'` keeps `x`, and leaves `x'` whenever
it answers. -/
theorem invoke_takes {s : Store} {now : Nat} {call : ScriptCall} {x x' : Exclusion}
    (hle : x ≤ x') (h : call.Takes x x') (hx : s.keyspace.Excludes now x) :
    (s.invoke now .native call.script call.keys call.args).2.keyspace.Excludes now x ∧
    ∀ st, (s.invoke now .native call.script call.keys call.args).1 = .ok st →
      (s.invoke now .native call.script call.keys call.args).2.keyspace.Excludes now x' := by
  cases hl : Catalog.lookup call.script with
  | error e =>
    simp only [invoke, runNamed, hl]
    exact ⟨hx, fun st h => by simp [Except.bind] at h⟩
  | ok t =>
    obtain ⟨hok, hor⟩ := invoke_excludes hl (h t hl) hx
    refine ⟨?_, hok⟩
    rcases hor with hx' | hsame
    · exact hx'.mono hle
    · rw [hsame]
      exact hx

end Store

namespace Controller

open Std.Do SystemOfRecord

set_option mvcgen.warning false

-- `mvcgen` opens the lifting of a step's answer, and a step run for its outcome, wherever they occur
attribute [local spec] ofExcept attempt

/-! ## Reads -/

section Reads

variable (c₀ : Controller)

theorem recordOf_spec (e : EntityRef) :
    ⦃fun c => ⌜c = c₀⌝⦄ recordOf e
    ⦃post⟨fun o c => ⌜c = c₀ ∧ o = c₀.records.record? e⌝,
      fun _ c => ⌜c = c₀ ∧ c₀.records.failing = true⌝⟩⦄ := by
  mvcgen [recordOf]
  · rename_i hc _ hget
    subst hc
    exact ⟨rfl, record?_of_get? hget⟩
  · rename_i hc _ hget
    subst hc
    exact ⟨rfl, failing_of_get? hget⟩

theorem existing_spec (e : EntityRef) :
    ⦃fun c => ⌜c = c₀⌝⦄ existing e
    ⦃post⟨fun x c => ⌜c = c₀ ∧ c₀.records.record? e = some x⌝, fun _ c => ⌜c = c₀⌝⟩⦄ := by
  have hrecordOf := recordOf_spec
  mvcgen [existing, hrecordOf] <;> simp_all

theorem live_spec (e : EntityRef) :
    ⦃fun c => ⌜c = c₀⌝⦄ live e
    ⦃post⟨fun x c => ⌜c = c₀ ∧ c₀.records.record? e = some x ∧ x.deleted = false⌝,
      fun _ c => ⌜c = c₀⌝⟩⦄ := by
  have hexisting := existing_spec
  mvcgen [live, hexisting] <;> simp_all

theorem allow_spec (s : RecordState) (t : Transition) :
    ⦃fun c => ⌜c = c₀⌝⦄ allow s t
    ⦃post⟨fun _ c => ⌜c = c₀ ∧ ∃ s', s.step t = .ok s'⌝, fun _ c => ⌜c = c₀⌝⟩⦄ := by
  mvcgen [allow]
  simp_all

theorem dispatch_spec (ev : Event) :
    ⦃fun c => ⌜c = c₀⌝⦄ dispatch ev
    ⦃post⟨fun call c => ⌜c = c₀ ∧ c₀.dispatcher.dispatch ev = .ok call⌝, fun _ c => ⌜c = c₀⌝⟩⦄ := by
  mvcgen [dispatch]
  simp_all

theorem cachedHash_spec (key : String) :
    ⦃fun c => ⌜c = c₀⌝⦄ cachedHash key ⦃⇓ _ c => ⌜c = c₀⌝⦄ := by
  mvcgen [cachedHash]

theorem cachedRange_spec (key : String) (start stop : Int) :
    ⦃fun c => ⌜c = c₀⌝⦄ cachedRange key start stop
    ⦃post⟨fun _ c => ⌜c = c₀⌝, fun _ c => ⌜c = c₀⌝⟩⦄ := by
  mvcgen [cachedRange]

end Reads

/-! ## Writes to the system of record -/

section Writes

variable (c₀ : Controller)

theorem upsert_spec (rec : CounterRecord) :
    ⦃fun c => ⌜c = c₀ ∧ c₀.records.failing = false⌝⦄ upsert rec
    ⦃post⟨fun _ c => ⌜c = { c₀ with records := c₀.records.put rec }⌝, fun _ _ => ⌜False⌝⟩⦄ := by
  mvcgen [upsert]
  · rename_i hc _ hup
    obtain ⟨rfl, -⟩ := hc
    rw [put_of_upsert hup]
  · rename_i hc _ hup
    obtain ⟨rfl, hw⟩ := hc
    rw [failing_of_upsert hup] at hw
    cases hw

theorem incrementColumn_spec (e : EntityRef) (col : String) (δ : Int) :
    ⦃fun c => ⌜c = c₀ ∧ c₀.records.failing = false⌝⦄ incrementColumn e col δ
    ⦃post⟨fun _ c => ⌜∃ x, c₀.records.record? e = some x ∧ x.deleted = false ∧
        c = { c₀ with records := c₀.records.put (x.bumped col δ) }⌝,
      fun _ c => ⌜c = c₀ ∧ ∀ x, c₀.records.record? e = some x → x.deleted = true⌝⟩⦄ := by
  mvcgen [incrementColumn]
  · rename_i hc _ hinc
    obtain ⟨rfl, -⟩ := hc
    obtain ⟨x, hx, hl, hp⟩ := incrementColumn_record? hinc
    exact ⟨x, hx, hl, by rw [hp]⟩
  · rename_i hc _ hinc
    obtain ⟨rfl, hw⟩ := hc
    exact ⟨rfl, (incrementColumn_error hinc).resolve_left (by simp [hw])⟩

theorem clearEdges_spec (target : EntityRef) :
    ⦃fun c => ⌜c = c₀ ∧ c₀.records.failing = false⌝⦄ clearEdges target
    ⦃post⟨fun _ c => ⌜c = { c₀ with records := c₀.records.clearTo target }⌝,
      fun _ _ => ⌜False⌝⟩⦄ := by
  mvcgen [clearEdges]
  all_goals rename_i hc _ hclear
  all_goals obtain ⟨rfl, hw⟩ := hc
  all_goals rw [clearEdges_of_working hw] at hclear
  · cases hclear
    rfl
  · cases hclear

theorem ensureUser_spec (u : String) :
    ⦃fun c => ⌜c = c₀ ∧ c₀.records.failing = false⌝⦄ ensureUser u
    ⦃post⟨fun _ c => ⌜c = { c₀ with records := c₀.records.ensured u }⌝, fun _ _ => ⌜False⌝⟩⦄ := by
  have hrecordOf := recordOf_spec
  have hupsert := upsert_spec
  mvcgen [ensureUser, hrecordOf, hupsert]
  all_goals simp_all [ensured, ensuredOne_eq, record?_put]

/-- Moving a user's counts adds to their live content-count record. -/
theorem adjustCounts_spec (owner : String) (kind : Kind) (vis : Visibility) (δ : Int) :
    ⦃fun c => ⌜c = c₀ ∧ c₀.records.failing = false ∧
      ∃ x, c₀.records.record? (.contentCounts owner) = some x ∧ x.deleted = false⌝⦄
    adjustCounts owner kind vis δ
    ⦃post⟨fun _ c => ⌜∃ r, c = { c₀ with records := r } ∧ c₀.records.Keeps r⌝,
      fun _ _ => ⌜False⌝⟩⦄ := by
  have hincrementColumn := incrementColumn_spec
  mvcgen [adjustCounts, hincrementColumn]
  all_goals obtain ⟨rfl, hw, x, hx, hl⟩ := ‹_ = c₀ ∧ c₀.records.failing = false ∧ _›
  · exact ⟨trivial, hw⟩
  · obtain ⟨y, -, -, rfl⟩ := ‹∃ y, _›
    simp [hw]
  · -- a visible count moves twice
    rintro ⟨z, hz, hzl, rfl⟩
    obtain ⟨y, hy, hyl, rfl⟩ := ‹∃ y, _›
    exact ⟨_, rfl, (keeps_bumped hy hyl _ _).trans (keeps_bumped hz hzl _ _)⟩
  · rintro rfl hdel
    obtain ⟨y, hy, hyl, rfl⟩ := ‹∃ y, _›
    have hbumped := hdel (y.bumped kind.name δ) (by
      rw [record?_put, if_pos (by rw [CounterRecord.bumped_entity]; exact entity_of_record? hy)])
    simp [hyl] at hbumped
  · obtain ⟨y, hy, hyl, rfl⟩ := ‹∃ y, _›
    exact ⟨_, rfl, keeps_bumped hy hyl _ _⟩
  · rintro rfl hdel
    simpa [hl] using hdel x hx

end Writes

/-! ## Writes that keep a predicate -/

/-- A predicate on controllers that holds on a working system of record, and that every write
keeping what `SystemOfRecord.Keeps` keeps preserves. -/
structure RecordStable (I : Controller → Prop) : Prop where
  working : ∀ c, I c → c.records.failing = false
  records : ∀ c r, I c → c.records.Keeps r → I { c with records := r }

section Stable

variable {I : Controller → Prop} (hI : RecordStable I)
include hI

theorem setEdge_stable (edge : Edge) (on : Bool) :
    ⦃fun c => ⌜I c⌝⦄ setEdge edge on ⦃post⟨fun _ c => ⌜I c⌝, fun _ _ => ⌜False⌝⟩⦄ := by
  mvcgen [setEdge]
  all_goals rename_i c hc _ hset
  all_goals rw [setEdge_of_working (hI.working c hc)] at hset
  all_goals split at hset
  all_goals cases hset
  · exact hI.records c _ hc (SystemOfRecord.Keeps.refl _)
  · exact hI.records c _ hc (keeps_flip edge on)

theorem incrementColumn_stable (e : EntityRef) (col : String) (δ : Int) :
    ⦃fun c => ⌜I c⌝⦄ incrementColumn e col δ ⦃post⟨fun _ c => ⌜I c⌝, fun _ c => ⌜I c⌝⟩⦄ := by
  mvcgen [incrementColumn]
  rename_i c hc _ hinc
  exact hI.records c _ hc (keeps_incrementColumn hinc)

theorem upsert_stable {rec : CounterRecord} (he : rec.entity.isContent = false)
    (hl : rec.deleted = false) :
    ⦃fun c => ⌜I c⌝⦄ upsert rec ⦃post⟨fun _ c => ⌜I c⌝, fun _ _ => ⌜False⌝⟩⦄ := by
  mvcgen [upsert]
  · rename_i c hc _ hup
    rw [put_of_upsert hup]
    exact hI.records c _ hc (keeps_put_user he hl)
  · rename_i c hc _ hup
    have hf := failing_of_upsert hup
    rw [hI.working c hc] at hf
    cases hf

theorem ensureUser_stable (u : String) :
    ⦃fun c => ⌜I c⌝⦄ ensureUser u ⦃post⟨fun _ c => ⌜I c⌝, fun _ _ => ⌜False⌝⟩⦄ := by
  have hensureUser := ensureUser_spec
  mvcgen [hensureUser]
  · rename_i c hc
    exact ⟨trivial, hI.working c hc⟩
  · rename_i c hc _ _
    rintro rfl
    exact hI.records c _ hc (keeps_ensured u)

end Stable

/-! ## The cache -/

/-- The controller after running a call against its cache. -/
def invoked (c : Controller) (call : ScriptCall) : Controller :=
  { c with cache := (c.cache.invoke c.now c.mode call.script call.keys call.args).2 }

@[simp] theorem invoked_records (c : Controller) (call : ScriptCall) :
    (c.invoked call).records = c.records := rfl

@[simp] theorem invoked_now (c : Controller) (call : ScriptCall) : (c.invoked call).now = c.now :=
  rfl

@[simp] theorem invoked_mode (c : Controller) (call : ScriptCall) : (c.invoked call).mode = c.mode :=
  rfl

@[simp] theorem invoked_dispatcher (c : Controller) (call : ScriptCall) :
    (c.invoked call).dispatcher = c.dispatcher := rfl

@[simp] theorem invoked_cache (c : Controller) (call : ScriptCall) :
    (c.invoked call).cache = (c.cache.invoke c.now c.mode call.script call.keys call.args).2 := rfl

theorem invoke_spec (c₀ : Controller) (call : ScriptCall) :
    ⦃fun c => ⌜c = c₀⌝⦄ invoke call
    ⦃post⟨fun st c => ⌜c = c₀.invoked call ∧
        (c₀.cache.invoke c₀.now c₀.mode call.script call.keys call.args).1 = .ok st⌝,
      fun _ c => ⌜c = c₀.invoked call⌝⟩⦄ := by
  mvcgen [invoke] <;> simp_all [invoked]

/-- A native call that spares every record's exclusion keeps them all. -/
theorem keeps_invoked {c : Controller} {call : ScriptCall} (hm : c.mode = .native)
    (h : call.SparesRecords c.records) : c.Keeps (c.invoked call) where
  now := rfl
  mode := rfl
  dispatcher := rfl
  records := SystemOfRecord.Keeps.refl _
  excludes kind id x hx hex := by
    simp only [invoked_cache, invoked_now, hm]
    exact Store.invoke_spares (h kind id x hx) hex

/-! ## Rehydrating -/

/-- `c` is `c₀` after rehydrating some of the live records of `es`: only the cache changed, and
it keeps every exclusion that spares their cached copies. -/
def Rehydrated (es : List EntityRef) (c₀ c : Controller) : Prop :=
  c.records = c₀.records ∧ c.now = c₀.now ∧ c.mode = c₀.mode ∧ c.dispatcher = c₀.dispatcher ∧
  ∀ x : Exclusion, c₀.mode = .native →
    (∀ e ∈ es, ∀ y, c₀.records.record? e = some y → y.deleted = false →
      y.entity.cacheKey ∉ x.keys) →
    c₀.cache.keyspace.Excludes c₀.now x → c.cache.keyspace.Excludes c.now x

namespace Rehydrated

variable {es es' : List EntityRef} {c₀ c c' : Controller}

theorem refl (es : List EntityRef) (c : Controller) : Rehydrated es c c :=
  ⟨rfl, rfl, rfl, rfl, fun _ _ _ h => h⟩

theorem mono (h : Rehydrated es c₀ c) (hsub : es ⊆ es') : Rehydrated es' c₀ c := by
  obtain ⟨hr, hn, hm, hd, hx⟩ := h
  exact ⟨hr, hn, hm, hd, fun x hnat hkeys hex =>
    hx x hnat (fun e he => hkeys e (hsub he)) hex⟩

theorem cons (h : Rehydrated [e] c₀ c) (h' : Rehydrated es c c') : Rehydrated (e :: es) c₀ c' := by
  obtain ⟨hr, hn, hm, hd, hx⟩ := h
  obtain ⟨hr', hn', hm', hd', hx'⟩ := h'
  refine ⟨hr'.trans hr, hn'.trans hn, hm'.trans hm, hd'.trans hd, fun x hnat hkeys hex => ?_⟩
  have hc : c.cache.keyspace.Excludes c.now x :=
    hx x hnat (fun e' he' => hkeys e' (by simp_all)) hex
  exact hx' x (hm.trans hnat) (fun e' he' => by rw [hr]; exact hkeys e' (List.mem_cons_of_mem e he'))
    hc

end Rehydrated

/-- Rehydration is allowed for live records only. -/
theorem live_of_rehydrate {r : CounterRecord}
    (h : ∃ s, (if r.deleted then RecordState.deleted else .expired).step .rehydrate = .ok s) :
    r.deleted = false := by
  cases hd : r.deleted <;> simp_all [RecordState.step]

/-- Rehydrating a live record keeps every exclusion that spares its cached copy. -/
theorem rehydrated_invoked {c₀ : Controller} {e : EntityRef} {r : CounterRecord}
    (hr : c₀.records.record? e = some r) (hl : r.deleted = false) :
    Rehydrated [e] c₀ (c₀.invoked (c₀.dispatcher.rehydrate r)) := by
  refine ⟨rfl, rfl, rfl, rfl, fun x hnat hkeys hex => ?_⟩
  simp only [invoked_cache, invoked_now, hnat]
  exact Store.invoke_spares (Dispatcher.rehydrate_spares _ r (hkeys e (by simp) r hr hl)) hex

theorem rehydrate_spec (c₀ : Controller) (e : EntityRef) :
    ⦃fun c => ⌜c = c₀⌝⦄ rehydrate e
    ⦃post⟨fun _ c => ⌜Rehydrated [e] c₀ c⌝, fun _ c => ⌜Rehydrated [e] c₀ c⌝⟩⦄ := by
  have hexisting := existing_spec
  have hallow := allow_spec
  have hinvoke := invoke_spec
  mvcgen [rehydrate, hexisting, hallow, hinvoke]
  · rename_i hc r _ hr _ _ hallow _ _ hinv
    obtain ⟨rfl, hr⟩ := hr
    obtain ⟨rfl, hallow⟩ := hallow
    obtain ⟨rfl, -⟩ := hinv
    subst hc
    exact rehydrated_invoked hr (live_of_rehydrate hallow)
  · rename_i hc r _ hr _ _ hallow _ _
    obtain ⟨rfl, hr⟩ := hr
    obtain ⟨rfl, hallow⟩ := hallow
    subst hc
    rintro rfl
    exact rehydrated_invoked hr (live_of_rehydrate hallow)
  all_goals simp_all [Rehydrated.refl]

theorem rehydrateAll_spec (es : List EntityRef) (c₀ : Controller) :
    ⦃fun c => ⌜c = c₀⌝⦄ rehydrateAll es ⦃⇓ _ c => ⌜Rehydrated es c₀ c⌝⦄ := by
  induction es generalizing c₀ with
  | nil =>
    mvcgen [rehydrateAll]
    simp_all [Rehydrated.refl]
  | cons e es ih =>
    have hrehydrate := rehydrate_spec
    mvcgen [rehydrateAll, hrehydrate, ih]
    · -- the first record rehydrated, then the rest
      rename_i hc _ _ hfirst _ _
      subst hc
      exact hfirst.cons
    · -- rehydrating the first record failed, and the rest are not tried
      rename_i hc _ _ hfirst
      subst hc
      exact hfirst.mono (by simp)

/-! ## A call through the cache -/

/-- What running a call through the cache may do: the records, clock, mode and dispatcher
stay, and an exclusion `x` that the call takes to a larger `x'`, and that rehydrating the
records of `onMiss` spares, is kept, and grows to `x'` unless the outcome is a failure. -/
def CacheStep (call : ScriptCall) (onMiss : List EntityRef) (c₀ : Controller) (o : CacheOutcome)
    (c : Controller) : Prop :=
  c.records = c₀.records ∧ c.now = c₀.now ∧ c.mode = c₀.mode ∧ c.dispatcher = c₀.dispatcher ∧
  ∀ x x' : Exclusion, x ≤ x' → call.Takes x x' → c₀.mode = .native →
    (∀ e ∈ onMiss, ∀ y, c₀.records.record? e = some y → y.deleted = false →
      y.entity.cacheKey ∉ x'.keys) →
    c₀.cache.keyspace.Excludes c₀.now x →
    c.cache.keyspace.Excludes c.now x ∧
      ((∀ msg, o ≠ .failed msg) → c.cache.keyspace.Excludes c.now x')

variable {c₀ c : Controller} {call : ScriptCall} {onMiss : List EntityRef}

/-- The call answered, and some of the missed records were rehydrated after it. -/
theorem cacheStep_answered {st : Status}
    (hst : (c₀.cache.invoke c₀.now c₀.mode call.script call.keys call.args).1 = .ok st)
    (hr : Rehydrated onMiss (c₀.invoked call) c) (o : CacheOutcome) :
    CacheStep call onMiss c₀ o c := by
  obtain ⟨hrec, hnow, hmode, hdisp, hx⟩ := hr
  refine ⟨hrec, hnow, hmode, hdisp, fun x x' hle htakes hnat hmiss hex => ?_⟩
  rw [hnat] at hst
  obtain ⟨hkeep, hgrow⟩ := Store.invoke_takes hle htakes hex
  have hgrown := hgrow st hst
  simp only [invoked_cache, invoked_now] at hx
  rw [← hnat] at hkeep hgrown
  -- the rehydrating calls spare both exclusions, since `x'` keeps out every key `x` does
  refine ⟨hx x hnat (fun e he y hy hl hk => hmiss e he y hy hl (hle.1 hk)) hkeep,
    fun _ => hx x' hnat hmiss hgrown⟩

/-- The call failed: the store rolled it back, or kept what it did, and nothing else ran. -/
theorem cacheStep_failed (msg : String) :
    CacheStep call onMiss c₀ (.failed msg) (c₀.invoked call) := by
  refine ⟨rfl, rfl, rfl, rfl, fun x x' hle htakes hnat _ hex => ?_⟩
  simp only [invoked_cache, invoked_now, hnat]
  exact ⟨(Store.invoke_takes hle htakes hex).1, fun h => absurd rfl (h msg)⟩

theorem runCache_spec (c₀ : Controller) (call : ScriptCall) (onMiss : List EntityRef) :
    ⦃fun c => ⌜c = c₀⌝⦄ runCache call onMiss ⦃⇓ o c => ⌜CacheStep call onMiss c₀ o c⌝⦄ := by
  have hinvoke := invoke_spec
  have hrehydrateAll := rehydrateAll_spec
  mvcgen [runCache, hinvoke, hrehydrateAll]
  · rename_i hc _ _ hinv _
    obtain ⟨rfl, hres⟩ := hinv
    subst hc
    exact cacheStep_answered hres (Rehydrated.refl _ _) _
  · rename_i hc _ _ hinv _
    obtain ⟨rfl, hres⟩ := hinv
    subst hc
    exact cacheStep_answered hres (Rehydrated.refl _ _) _
  · -- the primary record was missing: the missed records are rehydrated
    rename_i hc _ _ hinv _ _ _ hreh
    obtain ⟨rfl, hres⟩ := hinv
    subst hc
    exact cacheStep_answered hres hreh _
  · rename_i hc _ _ hinv
    subst hinv hc
    exact cacheStep_failed _

/-! ## Steps that spare every record -/

/-- Rehydrating live records keeps every record's exclusion. -/
theorem Rehydrated.keeps {es : List EntityRef} (h : Rehydrated es c₀ c) (hm : c₀.mode = .native) :
    c₀.Keeps c := by
  obtain ⟨hrec, hnow, hmode, hdisp, hx⟩ := h
  refine ⟨hnow, hmode, hdisp, hrec ▸ SystemOfRecord.Keeps.refl _, fun kind id x hx' hex => ?_⟩
  exact hx _ hm (fun e _ y hy hl => cacheKey_not_mem_ofRecord hy hl hx') hex

/-- A call that spares every record's exclusion keeps them all through the cache. -/
theorem CacheStep.keeps {o : CacheOutcome} (h : CacheStep call onMiss c₀ o c)
    (hm : c₀.mode = .native) (hs : call.SparesRecords c₀.records) : c₀.Keeps c := by
  obtain ⟨hrec, hnow, hmode, hdisp, hx⟩ := h
  refine ⟨hnow, hmode, hdisp, hrec ▸ SystemOfRecord.Keeps.refl _, fun kind id x hx' hex => ?_⟩
  exact (hx _ _ ⟨fun _ h => h, fun _ h => h⟩ (hs kind id x hx').takes hm
    (fun e _ y hy hl => cacheKey_not_mem_ofRecord hy hl hx') hex).1

section Keeping

variable (c₀ : Controller) (hm : c₀.mode = .native)
include hm

theorem invoke_keeps (call : ScriptCall) :
    ⦃fun c => ⌜c₀.Keeps c ∧ call.SparesRecords c₀.records⌝⦄ invoke call
    ⦃post⟨fun _ c => ⌜c₀.Keeps c⌝, fun _ c => ⌜c₀.Keeps c⌝⟩⦄ := by
  have hinvoke := invoke_spec
  mvcgen [hinvoke]
  all_goals rename_i c hc _ _
  all_goals obtain ⟨hk, hs⟩ := hc
  all_goals have hstep : c.Keeps (c.invoked call) :=
    keeps_invoked (hk.mode.trans hm) (sparesRecords_of_keeps hk.records hs)
  · rintro rfl -
    exact hk.trans hstep
  · rintro rfl
    exact hk.trans hstep

theorem runCache_keeps (call : ScriptCall) (onMiss : List EntityRef) :
    ⦃fun c => ⌜c₀.Keeps c ∧ call.SparesRecords c₀.records⌝⦄ runCache call onMiss
    ⦃⇓ _ c => ⌜c₀.Keeps c⌝⦄ := by
  have hrunCache := runCache_spec
  mvcgen [hrunCache]
  rename_i c hc _ _
  obtain ⟨hk, hs⟩ := hc
  intro hstep
  exact hk.trans (hstep.keeps (hk.mode.trans hm) (sparesRecords_of_keeps hk.records hs))

theorem rehydrate_keeps (e : EntityRef) :
    ⦃fun c => ⌜c₀.Keeps c⌝⦄ rehydrate e
    ⦃post⟨fun _ c => ⌜c₀.Keeps c⌝, fun _ c => ⌜c₀.Keeps c⌝⟩⦄ := by
  have hrehydrate := rehydrate_spec
  mvcgen [hrehydrate]
  all_goals rename_i c hk _ _
  all_goals exact fun hreh => hk.trans (hreh.keeps (hk.mode.trans hm))

theorem refresh_keeps (e : EntityRef) :
    ⦃fun c => ⌜c₀.Keeps c⌝⦄ refresh e
    ⦃post⟨fun _ c => ⌜c₀.Keeps c⌝, fun _ c => ⌜c₀.Keeps c⌝⟩⦄ := by
  have hinvoke := invoke_keeps c₀ hm
  have hexisting := existing_spec
  mvcgen [refresh, hexisting, hinvoke]
  case inv1 => exact post⟨fun _ c => ⌜c₀.Keeps c⌝, fun _ c => ⌜c₀.Keeps c⌝⟩
  · -- a deleted record is not refreshed
    rename_i c hk r _ _ _ hc
    obtain ⟨rfl, -⟩ := hc
    exact hk
  · rename_i c hk r _ hdel _ hc
    obtain ⟨rfl, hr⟩ := hc
    exact ⟨hk, sparesRecords_of_keeps_symm hk.records
      (Dispatcher.refresh_sparesRecords _ hr (by simpa using hdel))⟩
  · -- each call of the loop refreshes one of the record's rankings
    rename_i c hk r _ hdel _ hc _ _ _ _ cur _ hsplit _ _ hinv
    obtain ⟨rfl, hr⟩ := hc
    exact ⟨hinv, sparesRecords_of_keeps_symm hk.records
      (Dispatcher.refreshRankings_sparesRecords hr (by simpa using hdel) cur (by simp [hsplit]))⟩
  -- the rest carries the invariant over unchanged
  all_goals simp_all

theorem reconcile_keeps (o : CacheOutcome) (touched : List EntityRef) :
    ⦃fun c => ⌜c₀.Keeps c⌝⦄ reconcile o touched ⦃⇓ _ c => ⌜c₀.Keeps c⌝⦄ := by
  have hrefresh := refresh_keeps c₀ hm
  mvcgen [reconcile, hrefresh]
  case inv1 => exact ⇓ _ c => ⌜c₀.Keeps c⌝
  all_goals simp_all

end Keeping

end Controller

end CounterCache
