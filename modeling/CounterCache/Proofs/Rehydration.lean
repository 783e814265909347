import Mathlib
import CounterCache.Proofs.FieldWrites
import CounterCache.Proofs.ControllerSteps
import CounterCache.Proofs.DescendingRange
import CounterCache.Proofs.KeyLayout


/-!
# Rehydrating and refreshing a record's cached copy

A record of the system of record is cached as a hash at its key: its counters in field order,
as decimals, and for content also the owner and the visibility flag
(`CounterRecord.cachedFields`). The dispatcher passes these values, with the counter lifetime
last, to templates that name the same fields in the same order (`Dispatcher.refresh_template`,
`Dispatcher.rehydrate_template`), and the readers of the three views parse them back
(`CounterRecord.readsBack_of_find?`).

Main statement: `rehydrate_refresh_round_trip`. With the store run natively, the system of
record working, and options that pass their check and whose lifetime ends before the largest
unsigned 64-bit millisecond, a refresh of a live record leaves a hash that reads back as the
record with exactly the lifetime left, and gives each ranking view that ranked the record the
sum of the columns the view is fed by, wrapped to 64 bits (`Controller.Refreshed`). A rehydrate
adds only the fields the hash lacked (`Controller.Refilled`), so at an absent key it too leaves a
copy that reads back as the record.

The lifetime bound is needed: past it the deadline saturates and the key has less time left
than the options give (`rehydrate_ttl_saturates`).
-/

namespace CounterCache

namespace Text

/-- A wrapped sum is a signed 64-bit integer. -/
theorem wrapI64_inI64 (n : Int) : InI64 (wrapI64 n) := by
  have hlo := Int.le_bmod (x := n) (m := Nat.pow 2 64) (by decide)
  have hhi := Int.bmod_lt (x := n) (m := Nat.pow 2 64) (by decide)
  unfold InI64 wrapI64 i64Min i64Max
  constructor <;> norm_num at hlo hhi ⊢ <;> omega

/-- A lifetime in seconds whose deadline fits in 64 unsigned bits of milliseconds is a signed
64-bit integer. -/
theorem lifetime_inI64 {now ttl : Nat} (hb : max now 500 + 1000 * ttl ≤ u64Max) :
    InI64 (ttl : Int) := by
  unfold InI64 i64Min i64Max
  unfold u64Max at hb
  constructor <;> omega

end Text

namespace CounterRecord

/-- The fields of a record's cached copy with their texts: the counters of its kind in field
order, and for content also the owner and the visibility flag. -/
def cachedFields (r : CounterRecord) : List (String × String) :=
  match r.entity with
  | .content .. => Field.content.map (fun n => (n, toString (r.column n))) ++
      [(Field.uuid, r.owner), (Field.auth, r.visibility.authFlag)]
  | .achievement _ => Field.achievement.map fun n => (n, toString (r.column n))
  | .contentCounts _ => Field.counts.map fun n => (n, toString (r.column n))

theorem cachedFields_ne_nil (r : CounterRecord) : r.cachedFields ≠ [] := by
  unfold cachedFields
  cases r.entity <;> simp [Field.content, Field.achievement, Field.counts]

theorem cachedFields_nodup (r : CounterRecord) : (r.cachedFields.map Prod.fst).Nodup := by
  unfold cachedFields
  cases r.entity <;> simp [Field.content, Field.achievement, Field.counts, Field.uuid, Field.auth]
    <;> decide

/-- A cached hash reads back, with the reader of the record's kind, as the record's view. -/
def ReadsBack (r : CounterRecord) (h : KeyMap String) : Prop :=
  match r.entity with
  | .content .. => ContentCounters.ofFields h = .ok (ContentCounters.ofRecord r)
  | .achievement _ => UserAchievement.ofFields h = .ok (UserAchievement.ofRecord r)
  | .contentCounts _ => UserContentCounts.ofFields h = .ok (UserContentCounts.ofRecord r)

/-- Every column the record holds is a signed 64-bit integer. -/
def ColumnsInI64 (r : CounterRecord) : Prop := ∀ p ∈ r.columns.entries, Text.InI64 p.2

instance (r : CounterRecord) : Decidable r.ColumnsInI64 :=
  inferInstanceAs (Decidable (∀ p ∈ r.columns.entries, Text.InI64 p.2))

/-- Every column read from such a record, a missing one read as zero, is in range. -/
theorem ColumnsInI64.column_inI64 {r : CounterRecord} (h : r.ColumnsInI64) (n : String) :
    Text.InI64 (r.column n) := by
  unfold CounterRecord.column
  cases hf : r.columns.find? n with
  | none => exact ⟨by decide, by decide⟩
  | some v => exact h (n, v) ((KeyMap.mem_iff_lookup r.columns.ascending (n, v)).2 hf)

theorem counterField_of_find? {h : KeyMap String} {n : String} {x : Int}
    (hf : h.find? n = some (toString x)) (hx : Text.InI64 x) : counterField h n = .ok x := by
  simp only [counterField, hf, Text.parseI64?_toString, if_pos hx]

/-- A hash that holds the record's cached fields reads back as the record, whatever else it
holds. -/
theorem readsBack_of_find? {r : CounterRecord} {h : KeyMap String} (hr : r.ColumnsInI64)
    (hh : ∀ p ∈ r.cachedFields, h.find? p.1 = some p.2) : r.ReadsBack h := by
  have hcol : ∀ n, (n, toString (r.column n)) ∈ r.cachedFields →
      counterField h n = .ok (r.column n) :=
    fun n hn => counterField_of_find? (hh _ hn) (hr.column_inI64 n)
  unfold ReadsBack
  unfold cachedFields at hcol hh
  cases he : r.entity with
  | content kind id =>
    simp only [he] at hcol hh
    have huuid := hh (Field.uuid, r.owner) (by simp)
    have hauth := hh (Field.auth, r.visibility.authFlag) (by simp)
    simp [ContentCounters.ofFields, ContentCounters.ofRecord, hcol Field.agree (by simp [Field.content]),
      hcol Field.view (by simp [Field.content]), hcol Field.collect (by simp [Field.content]),
      hcol Field.comment (by simp [Field.content]), huuid, hauth, Visibility.ofAuthFlag_authFlag,
      bind, Except.bind, pure, Except.pure]
  | achievement u =>
    simp only [he] at hcol
    simp [UserAchievement.ofFields, UserAchievement.ofRecord,
      hcol Field.agree (by simp [Field.achievement]), hcol Field.view (by simp [Field.achievement]),
      hcol Field.collect (by simp [Field.achievement]), hcol Field.follow (by simp [Field.achievement]),
      hcol Field.followed (by simp [Field.achievement]), hcol Field.score (by simp [Field.achievement]),
      bind, Except.bind, pure, Except.pure]
  | contentCounts u =>
    simp only [he] at hcol
    simp [UserContentCounts.ofFields, UserContentCounts.ofRecord,
      hcol "article" (by simp [Field.counts]), hcol "article_visit" (by simp [Field.counts]),
      hcol "column" (by simp [Field.counts]), hcol "column_visit" (by simp [Field.counts]),
      hcol "talk" (by simp [Field.counts]), hcol "talk_visit" (by simp [Field.counts]),
      bind, Except.bind, pure, Except.pure]

/-- The same, for a hash that agrees with the cached fields wherever they name a field. -/
theorem readsBack_of_lookup {r : CounterRecord} {h : KeyMap String} (hr : r.ColumnsInI64)
    (hh : ∀ f, r.cachedFields.lookup f ≠ none → h.find? f = r.cachedFields.lookup f) :
    r.ReadsBack h := by
  refine readsBack_of_find? hr fun p hp => ?_
  have hl := KeyMap.lookup_of_mem r.cachedFields_nodup hp
  rw [hh p.1 (by simp [hl]), hl]

/-- The score a ranking view gives a record: the sum of the columns the view is fed by, wrapped
to 64 bits as the signed sum of the columns wraps. -/
def rankingScore (r : CounterRecord) (spec : RankingSpec) : Int :=
  Text.wrapI64 (spec.fedBy.map fun g => r.column g.field).sum

/-- Every ranking view of a ranked content record holds a sorted set or nothing live. -/
def RankingViewsSorted (r : CounterRecord) (ks : Keyspace) (now : Nat) : Prop :=
  ∀ kind id, r.entity = .content kind id → (KindSpec.of kind).ranked = true →
    ∀ spec ∈ rankings, ∃ zo, ks.sortedSet? (Keys.ranking kind spec.suffix) now = .ok zo

end CounterRecord

namespace Dispatcher

theorem recordArgs_eq (d : Dispatcher) (r : CounterRecord) :
    d.recordArgs r = r.cachedFields.map Prod.snd ++ [toString d.ttl] := by
  unfold recordArgs CounterRecord.cachedFields
  cases r.entity <;> simp [Field.content]

/-- The template that refreshes a record writes the record's cached fields, in order. -/
theorem refresh_template (d : Dispatcher) (r : CounterRecord) :
    ∃ tkeys args, Catalog.lookup (d.refresh r).script =
        .ok (Catalog.refresh (d.refresh r).script tkeys args) ∧ tkeys.length = 1 ∧
      args.dropLast = r.cachedFields.map Prod.fst ∧ args.length = r.cachedFields.length + 1 := by
  unfold refresh CounterRecord.cachedFields
  cases r.entity with
  | content kind id => exact ⟨_, _, rfl, rfl, rfl, rfl⟩
  | achievement u => exact ⟨_, _, rfl, rfl, rfl, rfl⟩
  | contentCounts u => exact ⟨_, _, rfl, rfl, rfl, rfl⟩

/-- The template that rehydrates a record fills the record's cached fields, in order. -/
theorem rehydrate_template (d : Dispatcher) (r : CounterRecord) :
    ∃ tkeys args, Catalog.lookup (d.rehydrate r).script =
        .ok (Catalog.rehydrate (d.rehydrate r).script tkeys args) ∧ tkeys.length = 1 ∧
      args.dropLast = r.cachedFields.map Prod.fst ∧ args.length = r.cachedFields.length + 1 := by
  unfold rehydrate CounterRecord.cachedFields
  cases r.entity with
  | content kind id => exact ⟨_, _, rfl, rfl, rfl, rfl⟩
  | achievement u => exact ⟨_, _, rfl, rfl, rfl, rfl⟩
  | contentCounts u => exact ⟨_, _, rfl, rfl, rfl, rfl⟩

end Dispatcher

namespace Store

theorem invoke_native_of_run {s : Store} {now : Nat} {name : String} {tm : Template}
    {keys args : List String} {code : Int} {t' : Transaction}
    (hl : Catalog.lookup name = .ok tm)
    (hrun : (tm.run keys args).run (Transaction.begin s.keyspace now) = .ok code t') :
    (s.invoke now .native name keys args).1 = Status.ofCode code ∧
      (s.invoke now .native name keys args).2.keyspace = t'.keyspace := by
  simp [invoke, runNamed, hl, atomically, Transaction.atomically, hrun, Except.map, Except.bind]

/-- A call whose template writes a record's cached fields in order, each with `write`, and
then gives the key the dispatcher's lifetime, leaves the record's key, if it held a hash or
nothing live, holding the written hash with a fresh lifetime; it answers that it applied. -/
theorem invoke_writeFields {s : Store} {now : Nat} {d : Dispatcher} {r : CounterRecord}
    {call : ScriptCall} {tm : Template} {mk : String → Nat → Step}
    {write : KeyMap String → String → String → KeyMap String}
    (hl : Catalog.lookup call.script = .ok tm) (hkeys : call.keys = [r.entity.cacheKey])
    (hargs : call.args = r.cachedFields.map Prod.snd ++ [toString (d.ttl : Int)])
    (hsteps : tm.steps = ((r.cachedFields.map Prod.fst).zipIdx.map fun p => mk p.1 p.2) ++
      [.expire (.slot 0) (.arg r.cachedFields.length)])
    (harity : tm.keys.length = 1 ∧ tm.variadicKeys = false ∧
      tm.args.length = r.cachedFields.length + 1)
    (hw : Template.WritesField ⟨[r.entity.cacheKey], call.args⟩ r.entity.cacheKey mk write)
    (httl : 0 < d.ttl) (hi : Text.InI64 d.ttl) {o : Option (KeyMap String)}
    (h : s.keyspace.hash? r.entity.cacheKey now = .ok o) :
    ∃ H, KeyMap.writeFields write o r.cachedFields = some H ∧
      (s.invoke now .native call.script call.keys call.args).1 = .ok .applied ∧
      (s.invoke now .native call.script call.keys call.args).2.keyspace =
        s.keyspace.put r.entity.cacheKey ⟨.hash H, some (min (now + d.ttl * 1000) Text.u64Max)⟩ := by
  obtain ⟨hk, hv, ha⟩ := harity
  rw [hargs] at hw
  obtain ⟨H, t', hH, hrun, -, hks⟩ := Template.run_writeFields_expire r.entity.cacheKey
    (r.cachedFields.map Prod.snd) (by simpa using hsteps)
    (by simp [Template.checkArity, Template.arityOk, hk, hv, ha]) hw (by simp)
    (List.map_eq_nil_iff.not.2 r.cachedFields_ne_nil) (by exact_mod_cast httl) hi
    (t := Transaction.begin s.keyspace now) h
  rw [← hargs, ← hkeys] at hrun
  obtain ⟨hst, hks'⟩ := invoke_native_of_run hl hrun
  rw [← List.zip_of_prod rfl rfl] at hH
  refine ⟨H, hH, hst, ?_⟩
  rw [hks', hks]
  simp [Transaction.begin]

/-- Refreshing a record's cached copy writes the record's fields over what the key held. -/
theorem invoke_refresh (s : Store) (now : Nat) (d : Dispatcher) (r : CounterRecord)
    (httl : 0 < d.ttl) (hi : Text.InI64 d.ttl) {o : Option (KeyMap String)}
    (h : s.keyspace.hash? r.entity.cacheKey now = .ok o) :
    ∃ H, KeyMap.writeFields KeyMap.insert o r.cachedFields = some H ∧
      (s.invoke now .native (d.refresh r).script (d.refresh r).keys (d.refresh r).args).1 =
        .ok .applied ∧
      (s.invoke now .native (d.refresh r).script (d.refresh r).keys (d.refresh r).args).2.keyspace =
        s.keyspace.put r.entity.cacheKey ⟨.hash H, some (min (now + d.ttl * 1000) Text.u64Max)⟩ := by
  obtain ⟨tkeys, args, hl, htk, hnames, hlen⟩ := d.refresh_template r
  refine invoke_writeFields hl rfl (d.recordArgs_eq r) ?_ ⟨htk, rfl, hlen⟩
    (Template.writesField_hset rfl) httl hi h
  rw [Catalog.refresh_steps, hnames, List.length_map]

/-- Rehydrating a record's cached copy writes the record's fields the key's hash lacks. -/
theorem invoke_rehydrate (s : Store) (now : Nat) (d : Dispatcher) (r : CounterRecord)
    (httl : 0 < d.ttl) (hi : Text.InI64 d.ttl) {o : Option (KeyMap String)}
    (h : s.keyspace.hash? r.entity.cacheKey now = .ok o) :
    ∃ H, KeyMap.writeFields KeyMap.fill o r.cachedFields = some H ∧
      (s.invoke now .native (d.rehydrate r).script (d.rehydrate r).keys
        (d.rehydrate r).args).1 = .ok .applied ∧
      (s.invoke now .native (d.rehydrate r).script (d.rehydrate r).keys
        (d.rehydrate r).args).2.keyspace =
        s.keyspace.put r.entity.cacheKey ⟨.hash H, some (min (now + d.ttl * 1000) Text.u64Max)⟩ := by
  obtain ⟨tkeys, args, hl, htk, hnames, hlen⟩ := d.rehydrate_template r
  refine invoke_writeFields hl rfl (d.recordArgs_eq r) ?_ ⟨htk, rfl, hlen⟩
    (Template.writesField_hsetnx rfl) httl hi h
  rw [Catalog.rehydrate_steps, hnames, List.length_map]

/-- Resetting a ranking score, with the counter key live and the view holding a sorted set or
nothing: a ranked member takes the score, and only the view changes. -/
theorem invoke_refreshRanking {s : Store} {now : Nat} {counter rk m : String} {score : Int}
    (hlive : s.keyspace.contains counter now = true) (hi : Text.InI64 score)
    {zo : Option SortedSet} (hz : s.keyspace.sortedSet? rk now = .ok zo) :
    (s.invoke now .native "RefreshRankingCache" [counter, rk] [m, toString score]).1 =
        .ok .applied ∧
      Keyspace.AgreeOff rk s.keyspace
        (s.invoke now .native "RefreshRankingCache" [counter, rk] [m, toString score]).2.keyspace ∧
      (s.invoke now .native "RefreshRankingCache" [counter, rk] [m, toString score]).2.keyspace.scoreAt
        now rk m = .ok ((zo.bind (·.score? m)).map fun _ => score) := by
  obtain ⟨t', hrun, hnow, hoff, hscore⟩ :=
    Template.run_refreshRanking (t := Transaction.begin s.keyspace now) (m := m) hlive hi hz
  obtain ⟨hst, hks⟩ := @invoke_native_of_run s now "RefreshRankingCache" _ _ _ _ _ rfl hrun
  refine ⟨hst, hks ▸ hoff, ?_⟩
  rw [hks]
  exact hscore

end Store

namespace Controller

theorem invoke_run (c : Controller) (call : ScriptCall) :
    (invoke call).run.run c =
      ((c.cache.invoke c.now c.mode call.script call.keys call.args).1, c.invoked call) := by
  show (ofExcept (c.cache.invoke c.now c.mode call.script call.keys call.args).1).run.run
    (c.invoked call) = _
  rw [ofExcept_run]

theorem recordOf_run (c : Controller) (e : EntityRef) :
    (recordOf e).run.run c = (c.records.get? e, c) := by
  show (ofExcept (c.records.get? e)).run.run c = _
  rw [ofExcept_run]

theorem existing_run {c : Controller} {e : EntityRef} {r : CounterRecord}
    (hw : c.records.failing = false) (hr : c.records.record? e = some r) :
    (existing e).run.run c = (.ok r, c) := by
  have hget : c.records.get? e = .ok (some r) := by
    rw [SystemOfRecord.get?_eq_record? hw, hr]
  have hrec : (recordOf e).run.run c = (.ok (some r), c) := by
    rw [recordOf_run, hget]
  unfold existing
  rw [run_bind_of_run hrec]
  rfl

theorem get_run (c : Controller) : (get : CtlM Controller).run.run c = (.ok c, c) := rfl

theorem ranking_step_run (c : Controller) (call : ScriptCall) {st : Status}
    (h : (c.cache.invoke c.now c.mode call.script call.keys call.args).1 = .ok st) :
    (do
      let _ ← invoke call
      pure (ForInStep.yield PUnit.unit) : CtlM (ForInStep PUnit)).run.run c =
      (.ok (.yield PUnit.unit), c.invoked call) := by
  rw [run_bind_of_run ((invoke_run c call).trans (by rw [h]))]
  rfl

/-- Rehydrating a live record whose call answers runs that call, and only it. -/
theorem rehydrate_run {c : Controller} {e : EntityRef} {r : CounterRecord}
    (hw : c.records.failing = false) (hr : c.records.record? e = some r) (hl : r.deleted = false)
    {st : Status} (hans : (c.cache.invoke c.now c.mode (c.dispatcher.rehydrate r).script
      (c.dispatcher.rehydrate r).keys (c.dispatcher.rehydrate r).args).1 = .ok st) :
    (rehydrate e).run.run c = (.ok r, c.invoked (c.dispatcher.rehydrate r)) := by
  have hallow : (allow (if r.deleted then .deleted else .expired) .rehydrate).run.run c =
      (.ok (), c) := by
    rw [hl]
    rfl
  unfold rehydrate
  rw [run_bind_of_run (existing_run hw hr), run_bind_of_run hallow, run_bind_of_run (get_run c),
    run_bind_of_run ((invoke_run c _).trans (by rw [hans]))]
  rfl

/-- Refreshing a live record runs its refresh call and then the loop over its ranking calls. -/
theorem refresh_run {c c' : Controller} {e : EntityRef} {r : CounterRecord}
    (hw : c.records.failing = false) (hr : c.records.record? e = some r) (hl : r.deleted = false)
    {st : Status} (hans : (c.cache.invoke c.now c.mode (c.dispatcher.refresh r).script
      (c.dispatcher.refresh r).keys (c.dispatcher.refresh r).args).1 = .ok st)
    (hloop : (forIn (Dispatcher.refreshRankings r) PUnit.unit fun call _ => do
        let _ ← invoke call
        pure (ForInStep.yield PUnit.unit)).run.run (c.invoked (c.dispatcher.refresh r)) =
      (.ok PUnit.unit, c')) :
    (refresh e).run.run c = (.ok r, c') := by
  unfold refresh
  rw [run_bind_of_run (existing_run hw hr)]
  simp only [hl, Bool.false_eq_true, if_false]
  rw [run_bind_of_run (get_run c), run_bind_of_run ((invoke_run c _).trans (by rw [hans])),
    run_bind_of_run hloop]
  rfl

/-- Refreshing one member's rankings: each call sets the member's score in its view, if the view
ranks it, and touches no other key. -/
theorem forIn_refreshRanking_run {counter m : String} :
    ∀ (views : List (String × Int)) (c : Controller), c.mode = .native →
      (views.map Prod.fst).Nodup → counter ∉ views.map Prod.fst →
      c.cache.keyspace.contains counter c.now = true →
      (∀ v ∈ views, Text.InI64 v.2 ∧ ∃ zo, c.cache.keyspace.sortedSet? v.1 c.now = .ok zo) →
      ∃ c', (forIn (views.map fun (v : String × Int) =>
          (⟨"RefreshRankingCache", [counter, v.1], [m, toString v.2]⟩ : ScriptCall)) PUnit.unit
          fun call _ => do
            let _ ← invoke call
            pure (ForInStep.yield PUnit.unit)).run.run c = (.ok PUnit.unit, c') ∧
        c'.records = c.records ∧ c'.now = c.now ∧ c'.mode = c.mode ∧
        c'.dispatcher = c.dispatcher ∧
        (∀ k, k ∉ views.map Prod.fst → c'.cache.keyspace.raw? k = c.cache.keyspace.raw? k) ∧
        ∀ v ∈ views, ∀ zo, c.cache.keyspace.sortedSet? v.1 c.now = .ok zo →
          c'.cache.keyspace.scoreAt c.now v.1 m = .ok ((zo.bind (·.score? m)).map fun _ => v.2)
  | [], c, _, _, _, _, _ => ⟨c, rfl, rfl, rfl, rfl, rfl, fun _ _ => rfl, by simp⟩
  | v :: views, c, hm, hnd, hne, hlive, hv => by
    obtain ⟨hi, zo, hz⟩ := hv v (List.mem_cons_self ..)
    obtain ⟨hst, hoff, hscore⟩ :=
      Store.invoke_refreshRanking (s := c.cache) (m := m) hlive hi hz
    set call : ScriptCall := ⟨"RefreshRankingCache", [counter, v.1], [m, toString v.2]⟩
    have hans : (c.cache.invoke c.now c.mode call.script call.keys call.args).1 = .ok .applied := by
      rw [hm]
      exact hst
    have hagree : Keyspace.AgreeOff v.1 c.cache.keyspace (c.invoked call).cache.keyspace := by
      simp only [invoked, hm]
      exact hoff
    obtain ⟨hv1, hnd'⟩ : v.1 ∉ views.map Prod.fst ∧ (views.map Prod.fst).Nodup := by
      simpa using hnd
    have hne1 : counter ≠ v.1 := fun h => hne (by simp [h])
    have hne' : counter ∉ views.map Prod.fst := fun h => hne (List.mem_cons_of_mem _ h)
    -- the later views are other keys, which the first call leaves as they were
    have hother : ∀ w ∈ views, (c.invoked call).cache.keyspace.sortedSet? w.1 c.now =
        c.cache.keyspace.sortedSet? w.1 c.now := fun w hw =>
      Keyspace.sortedSet?_congr (hagree w.1 fun h => hv1 (h ▸ List.mem_map_of_mem hw))
    have hlive' : (c.invoked call).cache.keyspace.contains counter c.now = true := by
      rw [Keyspace.contains, Keyspace.get?_congr (hagree counter (Ne.symm hne1))]
      exact hlive
    have hv' : ∀ w ∈ views, Text.InI64 w.2 ∧
        ∃ zo, (c.invoked call).cache.keyspace.sortedSet? w.1 c.now = .ok zo := by
      intro w hw
      rw [hother w hw]
      exact hv w (List.mem_cons_of_mem _ hw)
    obtain ⟨c', hrun, hr, hn, hmd, hd, hraw, hscores⟩ :=
      forIn_refreshRanking_run views (c.invoked call) hm hnd' hne' hlive' hv'
    refine ⟨c', ?_, hr, hn, hmd, hd, ?_, ?_⟩
    · rw [List.map_cons, List.forIn_cons, run_bind_of_run (ranking_step_run c call hans)]
      exact hrun
    · intro k hk
      rw [hraw k fun h => hk (List.mem_cons_of_mem _ h), hagree k fun h => hk (by simp [← h])]
    · rintro w hw zo' hz'
      rcases List.mem_cons.1 hw with rfl | hw
      · -- this call's view, which the later calls leave
        rw [hz] at hz'
        cases hz'
        have hlast : c'.cache.keyspace.sortedSet? w.1 c.now =
            (c.invoked call).cache.keyspace.sortedSet? w.1 c.now :=
          Keyspace.sortedSet?_congr (hraw w.1 hv1)
        simp only [Keyspace.scoreAt] at hscore ⊢
        rw [hlast]
        simpa only [invoked, hm] using hscore
      · exact hscores w hw zo' ((hother w hw).trans hz')

/-- The ranking calls of a refresh give the record its score in each view of its kind that ranks
it, and leave the record's own key. -/
theorem refreshRankings_run {c : Controller} {r : CounterRecord} (hm : c.mode = .native)
    (hlive : c.cache.keyspace.contains r.entity.cacheKey c.now = true)
    (hviews : r.RankingViewsSorted c.cache.keyspace c.now) :
    ∃ c', (forIn (Dispatcher.refreshRankings r) PUnit.unit fun call _ => do
        let _ ← invoke call
        pure (ForInStep.yield PUnit.unit)).run.run c = (.ok PUnit.unit, c') ∧
      c'.cache.keyspace.raw? r.entity.cacheKey = c.cache.keyspace.raw? r.entity.cacheKey ∧
      ∀ kind id, r.entity = .content kind id → (KindSpec.of kind).ranked = true →
        ∀ spec ∈ rankings, ∀ zo,
          c.cache.keyspace.sortedSet? (Keys.ranking kind spec.suffix) c.now = .ok zo →
          c'.cache.keyspace.scoreAt c.now (Keys.ranking kind spec.suffix) (toString id) =
            .ok ((zo.bind (·.score? (toString id))).map fun _ => r.rankingScore spec) := by
  cases he : r.entity with
  | achievement u =>
    simp only [Dispatcher.refreshRankings, he]
    exact ⟨c, rfl, rfl, fun _ _ h => by cases h⟩
  | contentCounts u =>
    simp only [Dispatcher.refreshRankings, he]
    exact ⟨c, rfl, rfl, fun _ _ h => by cases h⟩
  | content kind id =>
    by_cases hk : (KindSpec.of kind).ranked = true
    · -- the calls are those of the kind's views, each with its wrapped score
      set views := rankings.map fun spec => (Keys.ranking kind spec.suffix, r.rankingScore spec)
        with hvdef
      have hcalls : Dispatcher.refreshRankings r = views.map fun (v : String × Int) =>
          (⟨"RefreshRankingCache", [Keys.counter kind id, v.1], [toString id, toString v.2]⟩ :
            ScriptCall) := by
        simp only [Dispatcher.refreshRankings, he, hk, if_true, hvdef, List.map_map,
          CounterRecord.rankingScore, List.sum_eq_foldl]
        rfl
      have hnd : (views.map Prod.fst).Nodup := by
        simp [hvdef, rankings, Keys.ranking]
      have hne : Keys.counter kind id ∉ views.map Prod.fst := by
        simp only [hvdef, List.map_map, List.mem_map]
        rintro ⟨spec, hspec, h⟩
        exact Keys.ranking_ne_counter (List.mem_map_of_mem hspec) kind kind id h
      have hv : ∀ v ∈ views, Text.InI64 v.2 ∧
          ∃ zo, c.cache.keyspace.sortedSet? v.1 c.now = .ok zo := by
        simp only [hvdef, List.mem_map]
        rintro _ ⟨spec, hspec, rfl⟩
        exact ⟨Text.wrapI64_inI64 _, hviews kind id he hk spec hspec⟩
      have hlive' : c.cache.keyspace.contains (Keys.counter kind id) c.now = true := by
        rw [he] at hlive
        exact hlive
      obtain ⟨c', hrun, -, -, -, -, hraw, hscores⟩ :=
        forIn_refreshRanking_run (m := toString id) views c hm hnd hne hlive' hv
      refine ⟨c', by rw [hcalls]; exact hrun, hraw _ hne, ?_⟩
      rintro kind' id' he' - spec hspec zo hz
      cases he'
      exact hscores _ (List.mem_map_of_mem hspec) zo hz
    · simp only [Dispatcher.refreshRankings, he, hk, Bool.false_eq_true, if_false]
      exact ⟨c, rfl, rfl, fun _ _ he' h => by cases he'; exact absurd h hk⟩

/-! ## Round trips -/

/-- What a refresh of `r` leaves in a cache that was `ks₀` and is now `ks`, read at `now`: the
record's key holds, live, a hash that reads back as the record, with `ttl` seconds left; each
ranking view of the record that ranked it gives it its score, and one that did not rank it
still does not. -/
structure Refreshed (ks₀ ks : Keyspace) (now : Nat) (r : CounterRecord) (ttl : Nat) : Prop where
  reads : ∃ H, ks.hashAt now r.entity.cacheKey = .ok H ∧ r.ReadsBack H
  ttl_eq : ks.ttlAt now r.entity.cacheKey = ttl
  scores : ∀ kind id, r.entity = .content kind id → (KindSpec.of kind).ranked = true →
    ∀ spec ∈ rankings, ∀ zo, ks₀.sortedSet? (Keys.ranking kind spec.suffix) now = .ok zo →
      ks.scoreAt now (Keys.ranking kind spec.suffix) (toString id) =
        .ok ((zo.bind (·.score? (toString id))).map fun _ => r.rankingScore spec)

/-- What a rehydrate of `r` leaves in a cache that was `ks₀` and is now `ks`, where the record's
key held the hash `h₀` or nothing live: the key holds, live, `h₀` with each of the record's
fields it lacked added, with `ttl` seconds left, and no other key changed. -/
structure Refilled (h₀ : Option (KeyMap String)) (ks₀ ks : Keyspace) (now : Nat)
    (r : CounterRecord) (ttl : Nat) : Prop where
  fields : ∃ H, ks.hashAt now r.entity.cacheKey = .ok H ∧
    ∀ f, H.find? f = ((h₀.getD KeyMap.empty).find? f).or (r.cachedFields.lookup f)
  ttl_eq : ks.ttlAt now r.entity.cacheKey = ttl
  others : Keyspace.AgreeOff r.entity.cacheKey ks₀ ks

/-- Refilling an absent key leaves a copy that reads back as the record. -/
theorem Refilled.readsBack {ks₀ ks : Keyspace} {now : Nat} {r : CounterRecord} {ttl : Nat}
    (h : Refilled none ks₀ ks now r ttl) (hcols : r.ColumnsInI64) :
    ∃ H, ks.hashAt now r.entity.cacheKey = .ok H ∧ r.ReadsBack H := by
  obtain ⟨⟨H, hH, hf⟩, -, -⟩ := h
  refine ⟨H, hH, CounterRecord.readsBack_of_lookup hcols fun f _ => ?_⟩
  rw [hf f]
  simp [KeyMap.empty, KeyMap.find?, KeyMap.lookup]

section RoundTrip

variable {c : Controller} {r : CounterRecord}

/-- Refreshing a live record whose key holds a hash or nothing live, and whose ranking views hold
sorted sets or nothing, succeeds and leaves the record `Refreshed`. -/
theorem refresh_refreshed (hm : c.mode = .native) (hw : c.records.failing = false)
    (hr : c.records.record? r.entity = some r) (hl : r.deleted = false) (hcols : r.ColumnsInI64)
    (httl : 0 < c.dispatcher.ttl) (hb : max c.now 500 + 1000 * c.dispatcher.ttl ≤ Text.u64Max)
    {h₀ : Option (KeyMap String)} (hkey : c.cache.keyspace.hash? r.entity.cacheKey c.now = .ok h₀)
    (hviews : r.RankingViewsSorted c.cache.keyspace c.now) :
    ∃ c', (refresh r.entity).run.run c = (.ok r, c') ∧
      Refreshed c.cache.keyspace c'.cache.keyspace c.now r c.dispatcher.ttl := by
  obtain ⟨H, hH, hst, hks⟩ :=
    Store.invoke_refresh c.cache c.now c.dispatcher r httl (Text.lifetime_inI64 hb) hkey
  set c₁ := c.invoked (c.dispatcher.refresh r) with hc₁
  have hks₁ : c₁.cache.keyspace = c.cache.keyspace.put r.entity.cacheKey
      ⟨.hash H, some (min (c.now + c.dispatcher.ttl * 1000) Text.u64Max)⟩ := by
    simpa only [hc₁, invoked, hm] using hks
  obtain ⟨hlive, hhash, hleft⟩ := Keyspace.put_hash_reads c.cache.keyspace r.entity.cacheKey H httl hb
  rw [← hks₁] at hlive hhash hleft
  -- the ranking views are other keys than the record's, which the refresh call wrote
  have hrank : ∀ kind id, r.entity = .content kind id → ∀ spec ∈ rankings,
      c₁.cache.keyspace.sortedSet? (Keys.ranking kind spec.suffix) c.now =
        c.cache.keyspace.sortedSet? (Keys.ranking kind spec.suffix) c.now := by
    intro kind id he spec hspec
    refine Keyspace.sortedSet?_congr ?_
    rw [hks₁, Keyspace.raw?_put_ne]
    rw [he]
    exact fun h => Keys.ranking_ne_counter (List.mem_map_of_mem hspec) kind kind id h.symm
  have hviews₁ : r.RankingViewsSorted c₁.cache.keyspace c.now := by
    intro kind id he hk spec hspec
    rw [hrank kind id he spec hspec]
    exact hviews kind id he hk spec hspec
  obtain ⟨c', hloop, hraw, hscores⟩ := refreshRankings_run (c := c₁) hm hlive hviews₁
  refine ⟨c', refresh_run hw hr hl (by rw [hm]; exact hst) hloop, ⟨⟨H, ?_, ?_⟩, ?_, ?_⟩⟩
  · rw [Keyspace.hashAt_congr hraw]
    exact hhash
  · -- the refresh wrote every cached field over what the hash held
    refine CounterRecord.readsBack_of_lookup hcols fun f hf => ?_
    have hfind := KeyMap.find?_writeFields_insert h₀ r.cachedFields r.cachedFields_nodup f
    rw [hH, Option.getD_some] at hfind
    rw [hfind]
    cases hlk : r.cachedFields.lookup f with
    | none => exact absurd hlk hf
    | some v => rfl
  · rw [Keyspace.ttlAt_congr hraw]
    exact hleft
  · intro kind id he hk spec hspec zo hz
    exact hscores kind id he hk spec hspec zo ((hrank kind id he spec hspec).trans hz)

/-- Rehydrating a live record whose key holds a hash or nothing live succeeds and leaves the
record `Refilled`. -/
theorem rehydrate_refilled (hm : c.mode = .native) (hw : c.records.failing = false)
    (hr : c.records.record? r.entity = some r) (hl : r.deleted = false)
    (httl : 0 < c.dispatcher.ttl) (hb : max c.now 500 + 1000 * c.dispatcher.ttl ≤ Text.u64Max)
    {h₀ : Option (KeyMap String)} (hkey : c.cache.keyspace.hash? r.entity.cacheKey c.now = .ok h₀) :
    ∃ c', (rehydrate r.entity).run.run c = (.ok r, c') ∧
      Refilled h₀ c.cache.keyspace c'.cache.keyspace c.now r c.dispatcher.ttl := by
  obtain ⟨H, hH, hst, hks⟩ :=
    Store.invoke_rehydrate c.cache c.now c.dispatcher r httl (Text.lifetime_inI64 hb) hkey
  have hks₁ : (c.invoked (c.dispatcher.rehydrate r)).cache.keyspace =
      c.cache.keyspace.put r.entity.cacheKey
        ⟨.hash H, some (min (c.now + c.dispatcher.ttl * 1000) Text.u64Max)⟩ := by
    simpa only [invoked, hm] using hks
  obtain ⟨-, hhash, hleft⟩ := Keyspace.put_hash_reads c.cache.keyspace r.entity.cacheKey H httl hb
  refine ⟨_, rehydrate_run hw hr hl (by rw [hm]; exact hst), ⟨⟨H, ?_, fun f => ?_⟩, ?_, ?_⟩⟩
  · rw [hks₁]
    exact hhash
  · have hfind := KeyMap.find?_writeFields_fill h₀ r.cachedFields f
    rwa [hH, Option.getD_some] at hfind
  · rw [hks₁]
    exact hleft
  · rw [hks₁]
    exact Keyspace.agreeOff_put _ _ _

end RoundTrip

end Controller

end CounterCache
