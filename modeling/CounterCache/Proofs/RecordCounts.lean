import Mathlib
import CounterCache.Engine.Repository

/-!
# What the system of record counts

The counter columns of the system of record are tallies of its own contents. A live content
record's `agree` and `collect` columns count the edges of that relation towards it. A user's
achievement counts the users it follows in `follow` and its followers in `followed`. A user's
content counts hold, per kind other than comments, the number of live content records the user
owns, all of them and the visible ones. `Tally` lists these columns with the numbers they
must hold, and `Consistent` says that they hold them and that no column is negative.

Keeping the tallies takes some shape facts, collected in `WellFormed`: entities are stored once,
an edge is stored once and points at a live record of the kind its relation names, the owner of
live content and every follower are registered users, and users' records are never deleted.

The writes of the system of record are `upsert`, `incrementColumn`, `setEdge` and `clearEdges`.
On a working system they are `put`, `put` of a `bumped` record, `flip` and `clearTo`, and the
lemmas here say how each moves the tallies.
-/

namespace CounterCache

namespace EntityRef

/-- The entity is content, as opposed to one of a user's records. -/
def isContent : EntityRef → Bool
  | .content .. => true
  | _ => false

@[simp] theorem isContent_content (k : Kind) (i : Nat) : (content k i).isContent = true := rfl

@[simp] theorem isContent_achievement (u : String) : (achievement u).isContent = false := rfl

@[simp] theorem isContent_contentCounts (u : String) : (contentCounts u).isContent = false := rfl

end EntityRef

namespace Relation

/-- The column of an edge's target that counts the relation's edges towards it. -/
def column : Relation → String
  | .agree => Field.agree
  | .collect => Field.collect
  | .follow => Field.followed

/-- The entities a relation's edges point at: content for agree and collect, a user's
achievement for follow. -/
def targets : Relation → EntityRef → Bool
  | .agree, .content .. | .collect, .content .. | .follow, .achievement _ => true
  | _, _ => false

end Relation

namespace Kind

/-- A content-count column of a kind: all of a user's live content of the kind, or its visible
part. -/
def countsColumn (k : Kind) : Bool → String
  | false => k.name
  | true => k.name ++ Field.visitSuffix

theorem countsColumn_inj {k k' : Kind} {b b' : Bool} :
    k.countsColumn b = k'.countsColumn b' ↔ k = k' ∧ b = b' := by
  cases k <;> cases k' <;> cases b <;> cases b' <;> simp [countsColumn, name, Field.visitSuffix]

end Kind

namespace CounterRecord

/-- The record is live content of kind `k` owned by `u`, and visible if `visibleOnly`. -/
def ownedBy (x : CounterRecord) (u : String) (k : Kind) (visibleOnly : Bool) : Bool :=
  match x.entity with
  | .content k' _ => k' == k && !x.deleted && x.owner == u &&
      (!visibleOnly || x.visibility == .visible)
  | _ => false

/-- The record after adding `delta` to a column, as the system of record adds it. -/
def bumped (x : CounterRecord) (column : String) (delta : Int) : CounterRecord :=
  { x with columns := x.columns.insert column (SystemOfRecord.bump (x.column column) delta) }

@[simp] theorem bumped_entity (x : CounterRecord) (c : String) (δ : Int) :
    (x.bumped c δ).entity = x.entity := rfl

@[simp] theorem bumped_deleted (x : CounterRecord) (c : String) (δ : Int) :
    (x.bumped c δ).deleted = x.deleted := rfl

@[simp] theorem ownedBy_bumped (x : CounterRecord) (c : String) (δ : Int) (u : String) (k : Kind)
    (b : Bool) : (x.bumped c δ).ownedBy u k b = x.ownedBy u k b := rfl

theorem column_bumped (x : CounterRecord) (c c' : String) (δ : Int) :
    (x.bumped c δ).column c' =
      if c = c' then SystemOfRecord.bump (x.column c) δ else x.column c' := by
  unfold bumped column
  split_ifs with h
  · subst h
    simp
  · rw [KeyMap.find?_insert_ne _ _ _ _ h]

theorem column_bumped_self (x : CounterRecord) (c : String) (δ : Int) :
    (x.bumped c δ).column c = SystemOfRecord.bump (x.column c) δ := by
  simp [column_bumped]

theorem column_bumped_ne (x : CounterRecord) {c c' : String} (δ : Int) (h : c ≠ c') :
    (x.bumped c δ).column c' = x.column c' := by
  simp [column_bumped, h]

theorem column_bumped_nonneg {x : CounterRecord} (c : String) (δ : Int)
    (h : ∀ c', 0 ≤ x.column c') (c' : String) : 0 ≤ (x.bumped c δ).column c' := by
  rw [column_bumped]
  split_ifs
  · exact SystemOfRecord.column_increment_nonneg _ _
  · exact h c'

/-- A user's content counts after `adjustCounts` moved a kind's counts by `delta`: all of the
user's content, and the visible part when the content is visible. -/
def bumpedCounts (x : CounterRecord) (k : Kind) (vis : Visibility) (delta : Int) : CounterRecord :=
  if vis = .visible then (x.bumped (k.countsColumn false) delta).bumped (k.countsColumn true) delta
  else x.bumped (k.countsColumn false) delta

@[simp] theorem bumpedCounts_entity (x : CounterRecord) (k : Kind) (vis : Visibility) (δ : Int) :
    (x.bumpedCounts k vis δ).entity = x.entity := by
  unfold bumpedCounts; split <;> rfl

@[simp] theorem bumpedCounts_deleted (x : CounterRecord) (k : Kind) (vis : Visibility) (δ : Int) :
    (x.bumpedCounts k vis δ).deleted = x.deleted := by
  unfold bumpedCounts; split <;> rfl

theorem column_bumpedCounts (x : CounterRecord) (k : Kind) (vis : Visibility) (δ : Int)
    (c : String) : (x.bumpedCounts k vis δ).column c =
      if c = k.countsColumn false ∨ (vis = .visible ∧ c = k.countsColumn true) then
        SystemOfRecord.bump (x.column c) δ else x.column c := by
  have hne : k.countsColumn false ≠ k.countsColumn true := by simp [Kind.countsColumn_inj]
  unfold bumpedCounts
  by_cases hv : vis = .visible
  · by_cases h1 : c = k.countsColumn true
    · subst h1
      simp [hv, column_bumped, hne]
    · by_cases h0 : c = k.countsColumn false
      · subst h0
        simp [hv, column_bumped, hne, Ne.symm hne]
      · simp [hv, column_bumped, Ne.symm h0, Ne.symm h1, h0, h1]
  · by_cases h0 : c = k.countsColumn false
    · subst h0
      simp [hv, column_bumped]
    · simp [hv, column_bumped, Ne.symm h0, h0]

theorem column_bumpedCounts_nonneg {x : CounterRecord} (k : Kind) (vis : Visibility) (δ : Int)
    (h : ∀ c, 0 ≤ x.column c) (c : String) : 0 ≤ (x.bumpedCounts k vis δ).column c := by
  rw [column_bumpedCounts]
  split
  · exact SystemOfRecord.column_increment_nonneg _ _
  · exact h c

/-- Columns built by `zeroed` read as zero. -/
theorem column_zeroed (x : CounterRecord) (names : List String) (h : x.columns = zeroed names)
    (c : String) : x.column c = 0 := by
  -- every entry the fold inserts is zero, and so is the empty map's every lookup
  have hfold : ∀ (m : KeyMap Int), (m.find? c).getD 0 = 0 → ∀ (ns : List String),
      (((ns.map (·, (0 : Int))).foldl (fun m e => m.insert e.1 e.2) m).find? c).getD 0 = 0 := by
    intro m hm ns
    induction ns generalizing m with
    | nil => exact hm
    | cons n ns ih =>
      apply ih
      by_cases hn : n = c
      · subst hn
        simp
      · rw [KeyMap.find?_insert_ne _ _ _ _ hn]
        exact hm
  unfold column
  rw [h]
  exact hfold _ rfl names

end CounterRecord

namespace SystemOfRecord

/-! ## Tallies -/

/-- The number of edges of a relation towards a target. -/
def towards (r : SystemOfRecord) (rel : Relation) (target : EntityRef) : Nat :=
  r.edges.countP fun e => e.relation == rel && e.target == target

/-- The number of users a user follows. -/
def followsFrom (r : SystemOfRecord) (u : String) : Nat :=
  r.edges.countP fun e => e.relation == .follow && e.user == u

/-- The number of live content records of a kind that a user owns; only the visible ones if
`visibleOnly`. -/
def owned (r : SystemOfRecord) (u : String) (k : Kind) (visibleOnly : Bool) : Nat :=
  r.records.countP (·.ownedBy u k visibleOnly)

/-- The columns that are tallies, with the number each must hold. -/
inductive Tally (r : SystemOfRecord) : CounterRecord → String → Nat → Prop
  /-- A live content record's agree and collect columns count those edges towards it. -/
  | engaged {x : CounterRecord} {k : Kind} {i : Nat} {rel : Relation} :
      x.entity = .content k i → x.deleted = false → rel ≠ .follow →
      Tally r x rel.column (r.towards rel x.entity)
  /-- An achievement's follow column counts the users its user follows. -/
  | follows {x : CounterRecord} {u : String} :
      x.entity = .achievement u → Tally r x Field.follow (r.followsFrom u)
  /-- An achievement's followed column counts the follow edges towards it. -/
  | followed {x : CounterRecord} {u : String} :
      x.entity = .achievement u → Tally r x Field.followed (r.towards .follow x.entity)
  /-- A user's content counts hold the live content the user owns, per kind other than
  comments: all of it, and the visible part. -/
  | owned {x : CounterRecord} {u : String} {k : Kind} (visibleOnly : Bool) :
      x.entity = .contentCounts u → k ≠ .comment →
      Tally r x (k.countsColumn visibleOnly) (r.owned u k visibleOnly)

/-- Every tally column holds its tally, and no column is negative. -/
structure Consistent (r : SystemOfRecord) : Prop where
  tallied : ∀ x ∈ r.records, ∀ column n, r.Tally x column n → x.column column = n
  nonneg : ∀ x ∈ r.records, ∀ column, 0 ≤ x.column column

/-! ## Shape -/

/-- The system holds a record of the entity. -/
def Has (r : SystemOfRecord) (e : EntityRef) : Prop := ∃ x ∈ r.records, x.entity = e

/-- The system holds a record of the entity that is not deleted. -/
def Live (r : SystemOfRecord) (e : EntityRef) : Prop :=
  ∃ x ∈ r.records, x.entity = e ∧ x.deleted = false

/-- A user has both per-user records. -/
def Registered (r : SystemOfRecord) (u : String) : Prop :=
  r.Has (.achievement u) ∧ r.Has (.contentCounts u)

/-- The shape facts the controller relies on to keep the tallies. -/
structure WellFormed (r : SystemOfRecord) : Prop where
  working : r.failing = false
  entities_nodup : (r.records.map (·.entity)).Nodup
  edges_nodup : r.edges.Nodup
  /-- Per-user records are never deleted. -/
  users_kept : ∀ x ∈ r.records, x.entity.isContent = false → x.deleted = false
  /-- The owner of live content is a registered user. -/
  owners_registered : ∀ x ∈ r.records, x.entity.isContent = true → x.deleted = false →
    r.Registered x.owner
  /-- An edge points at a live record of the kind its relation names. -/
  edges_live : ∀ e ∈ r.edges, e.relation.targets e.target = true ∧ r.Live e.target
  /-- A follower has an achievement. -/
  followers_registered : ∀ e ∈ r.edges, e.relation = .follow → r.Has (.achievement e.user)

/-- The invariant of the system of record along controller runs. -/
structure Sound (r : SystemOfRecord) : Prop where
  consistent : r.Consistent
  wellFormed : r.WellFormed

/-! ## Writes on a working system -/

/-- Stores a record, replacing the entity's earlier one: `upsert` on a working system. -/
def put (r : SystemOfRecord) (rec : CounterRecord) : SystemOfRecord :=
  if r.records.any (·.entity == rec.entity) then
    { r with records := r.records.map fun x => if x.entity == rec.entity then rec else x }
  else { r with records := r.records ++ [rec] }

/-- Records an edge (`present`) or removes it. -/
def flip (r : SystemOfRecord) (edge : Edge) (present : Bool) : SystemOfRecord :=
  if present then { r with edges := r.edges ++ [edge] }
  else { r with edges := r.edges.filter (· != edge) }

/-- Removes every edge towards a target. -/
def clearTo (r : SystemOfRecord) (target : EntityRef) : SystemOfRecord :=
  { r with edges := r.edges.filter (·.target != target) }

/-- The number of records and edges. -/
def size (r : SystemOfRecord) : Nat := r.records.length + r.edges.length

variable {r : SystemOfRecord}

theorem check_of_working (hw : r.failing = false) : r.check = .ok () := by
  simp [check, hw]

theorem get?_of_working (hw : r.failing = false) (e : EntityRef) :
    r.get? e = .ok (r.records.find? (·.entity == e)) := by
  simp [get?, check_of_working hw, bind, Except.bind, pure, Except.pure]

/-- Where the system holds a record of the entity, `put` replaces it. -/
theorem put_of_any {rec : CounterRecord} (h : r.records.any (·.entity == rec.entity) = true) :
    r.put rec =
      { r with records := r.records.map fun x => if x.entity == rec.entity then rec else x } :=
  if_pos h

/-- Where the system holds no record of the entity, `put` appends one. -/
theorem put_of_not_any {rec : CounterRecord}
    (h : ¬ r.records.any (·.entity == rec.entity) = true) :
    r.put rec = { r with records := r.records ++ [rec] } :=
  if_neg h

theorem upsert_of_working (hw : r.failing = false) (rec : CounterRecord) :
    r.upsert rec = .ok (r.put rec) := by
  unfold upsert put
  simp only [check_of_working hw, bind, Except.bind, pure, Except.pure]
  split <;> rfl

/-- Incrementing a column of a live record stores the record `bumped`. -/
theorem incrementColumn_of_live (hw : r.failing = false)
    (hnd : (r.records.map (·.entity)).Nodup) {x : CounterRecord} (hx : x ∈ r.records)
    (hd : x.deleted = false) (c : String) (δ : Int) :
    r.incrementColumn x.entity c δ = .ok (x.bumped c δ, r.put (x.bumped c δ)) := by
  -- `find?` meets `x` first, since no other record has its entity
  have hfind : r.records.find? (·.entity == x.entity) = some x := by
    have hsome : (r.records.find? (·.entity == x.entity)).isSome :=
      List.find?_isSome.2 ⟨x, hx, beq_self_eq_true _⟩
    obtain ⟨y, hy⟩ := Option.isSome_iff_exists.1 hsome
    have hp := List.find?_some hy
    have hye : y.entity = x.entity := beq_iff_eq.1 hp
    rw [hy, List.inj_on_of_nodup_map hnd (List.mem_of_find?_eq_some hy) hx hye]
  have hany : r.records.any (·.entity == x.entity) = true :=
    List.any_eq_true.2 ⟨x, hx, beq_self_eq_true _⟩
  unfold incrementColumn put
  simp only [check_of_working hw, hfind, hd, CounterRecord.bumped_entity, hany,
    bind, Except.bind, pure, Except.pure, if_true, Bool.false_eq_true, if_false]
  simp only [CounterRecord.bumped, hd]

theorem setEdge_of_working (hw : r.failing = false) (edge : Edge) (present : Bool) :
    r.setEdge edge present =
      if (edge ∈ r.edges) = (present = true) then .ok (false, r)
      else .ok (true, r.flip edge present) := by
  cases present <;> by_cases h : edge ∈ r.edges <;> unfold setEdge flip <;>
    simp [check_of_working hw, h, bind, Except.bind, pure, Except.pure]

theorem clearEdges_of_working (hw : r.failing = false) (target : EntityRef) :
    r.clearEdges target = .ok (r.edges.length - (r.clearTo target).edges.length,
      r.clearTo target) := by
  unfold clearEdges clearTo
  simp [check_of_working hw, bind, Except.bind, pure, Except.pure]

/-- A successful increment found a live record of the entity and stored it `bumped`. -/
theorem incrementColumn_eq_ok {e : EntityRef} {c : String} {δ : Int}
    {p : CounterRecord × SystemOfRecord} (h : r.incrementColumn e c δ = .ok p) :
    ∃ x ∈ r.records, x.entity = e ∧ x.deleted = false ∧
      p = (x.bumped c δ, r.put (x.bumped c δ)) := by
  unfold incrementColumn at h
  cases hc : r.check with
  | error err => simp [hc, bind, Except.bind] at h
  | ok u =>
    cases hf : r.records.find? (·.entity == e) with
    | none => simp [hc, hf, bind, Except.bind, throw, throwThe, MonadExceptOf.throw] at h
    | some x =>
      have hx := List.mem_of_find?_eq_some hf
      have hp := List.find?_some hf
      have hxe : x.entity = e := beq_iff_eq.1 hp
      cases hd : x.deleted
      · have hany : r.records.any (·.entity == (x.bumped c δ).entity) = true :=
          List.any_eq_true.2 ⟨x, hx, by simp⟩
        refine ⟨x, hx, hxe, hd, ?_⟩
        simp only [hc, hf, hd, bind, Except.bind, pure, Except.pure, Bool.false_eq_true,
          if_false, Except.ok.injEq] at h
        rw [← h, put_of_any hany]
        simp [CounterRecord.bumped, hxe, hd]
      · simp [hc, hf, hd, bind, Except.bind, throw, throwThe, MonadExceptOf.throw] at h

/-! ## `put`, `flip` and `clearTo` -/

@[simp] theorem put_edges (rec : CounterRecord) : (r.put rec).edges = r.edges := by
  unfold put; split <;> rfl

@[simp] theorem put_failing (rec : CounterRecord) : (r.put rec).failing = r.failing := by
  unfold put; split <;> rfl

@[simp] theorem flip_records (edge : Edge) (present : Bool) :
    (r.flip edge present).records = r.records := by
  unfold flip; split <;> rfl

@[simp] theorem flip_failing (edge : Edge) (present : Bool) :
    (r.flip edge present).failing = r.failing := by
  unfold flip; split <;> rfl

@[simp] theorem clearTo_records (t : EntityRef) : (r.clearTo t).records = r.records := rfl

@[simp] theorem clearTo_failing (t : EntityRef) : (r.clearTo t).failing = r.failing := rfl

/-- The records after `put`: the new one, and the others of other entities. -/
theorem mem_put {rec x : CounterRecord} :
    x ∈ (r.put rec).records ↔ x = rec ∨ (x ∈ r.records ∧ x.entity ≠ rec.entity) := by
  unfold put
  split
  · rename_i hany
    obtain ⟨y, hy, hye⟩ := List.any_eq_true.1 hany
    simp only [List.mem_map]
    constructor
    · rintro ⟨z, hz, rfl⟩
      by_cases hze : z.entity = rec.entity
      · simp [hze]
      · simp [hze, hz]
    · rintro (rfl | ⟨hx, hxe⟩)
      · exact ⟨y, hy, by simp only [beq_iff_eq] at hye; simp [hye]⟩
      · exact ⟨x, hx, by simp [hxe]⟩
  · rename_i hany
    simp only [List.any_eq_true, beq_iff_eq, not_exists, not_and] at hany
    simp only [List.mem_append, List.mem_singleton]
    constructor
    · rintro (hx | rfl)
      · exact .inr ⟨hx, hany x hx⟩
      · exact .inl rfl
    · rintro (rfl | ⟨hx, -⟩)
      · exact .inr rfl
      · exact .inl hx

theorem mem_put_self (rec : CounterRecord) : rec ∈ (r.put rec).records :=
  mem_put.2 (.inl rfl)

theorem mem_put_of_ne {rec x : CounterRecord} (hx : x ∈ r.records) (hne : x.entity ≠ rec.entity) :
    x ∈ (r.put rec).records :=
  mem_put.2 (.inr ⟨hx, hne⟩)

theorem has_put (rec : CounterRecord) {e : EntityRef} (h : r.Has e) : (r.put rec).Has e := by
  obtain ⟨x, hx, rfl⟩ := h
  by_cases hne : x.entity = rec.entity
  · exact ⟨rec, mem_put_self rec, hne.symm⟩
  · exact ⟨x, mem_put_of_ne hx hne, rfl⟩

theorem nodup_put (hnd : (r.records.map (·.entity)).Nodup) (rec : CounterRecord) :
    ((r.put rec).records.map (·.entity)).Nodup := by
  unfold put
  split
  · rename_i hany
    obtain ⟨y, hy, hye⟩ := List.any_eq_true.1 hany
    simp only [beq_iff_eq] at hye
    -- replacing a record by one of the same entity keeps the list of entities
    have hmap : (r.records.map fun x => if x.entity == rec.entity then rec else x).map
        (·.entity) = r.records.map (·.entity) := by
      rw [List.map_map]
      apply List.map_congr_left
      intro x _
      by_cases hx : x.entity = rec.entity <;> simp [hx]
    rw [hmap]
    exact hnd
  · rename_i hany
    simp only [List.any_eq_true, beq_iff_eq, not_exists, not_and] at hany
    rw [List.map_append, List.nodup_append]
    refine ⟨hnd, by simp, ?_⟩
    intro a ha b hb
    simp only [List.map_cons, List.map_nil, List.mem_singleton] at hb
    obtain ⟨x, hx, rfl⟩ := List.mem_map.1 ha
    rw [hb]
    exact hany x hx

theorem length_put_le (rec : CounterRecord) :
    (r.put rec).records.length ≤ r.records.length + 1 := by
  unfold put
  split <;> simp

/-- Putting twice to one entity keeps the second record. -/
theorem put_put_of_entity {a b : CounterRecord} (h : a.entity = b.entity) :
    (r.put a).put b = r.put b := by
  have hany : (r.put a).records.any (·.entity == b.entity) = true :=
    List.any_eq_true.2 ⟨a, mem_put_self a, by simp [h]⟩
  rw [put_of_any hany]
  unfold put
  by_cases hr : r.records.any (·.entity == b.entity) = true
  · have ha : r.records.any (·.entity == a.entity) = true := by rwa [h]
    simp only [ha, hr, if_true, List.map_map]
    congr 1
    apply List.map_congr_left
    intro x _
    by_cases hx : x.entity = b.entity <;> simp [hx, h]
  · simp only [hr, if_false, Bool.false_eq_true, List.map_append, List.map_cons,
      List.map_nil, h, beq_self_eq_true, if_true]
    congr 1
    -- no earlier record has the entity, so the replacement leaves them as they are
    have hid : ∀ x ∈ r.records, (if (x.entity == b.entity) = true then b else x) = id x := by
      intro x hx
      have : ¬ (x.entity == b.entity) = true := fun hxe => hr (List.any_eq_true.2 ⟨x, hx, hxe⟩)
      simp [this]
    rw [List.map_congr_left hid, List.map_id]

theorem put_flip (rec : CounterRecord) (edge : Edge) (present : Bool) :
    (r.flip edge present).put rec = (r.put rec).flip edge present := by
  unfold put flip
  split <;> split <;> simp_all

theorem put_clearTo (rec : CounterRecord) (t : EntityRef) :
    (r.clearTo t).put rec = (r.put rec).clearTo t := by
  unfold put clearTo
  split <;> simp_all

/-! ## Counting -/

/-- Replacing the one record of an entity moves a count by what the two records contribute. -/
theorem countP_put {p : CounterRecord → Bool} (hnd : (r.records.map (·.entity)).Nodup)
    {y rec : CounterRecord} (hy : y ∈ r.records) (he : y.entity = rec.entity) :
    (r.put rec).records.countP p + (if p y then 1 else 0) =
      r.records.countP p + (if p rec then 1 else 0) := by
  have hany : r.records.any (·.entity == rec.entity) = true :=
    List.any_eq_true.2 ⟨y, hy, by simp [he]⟩
  rw [put_of_any hany]
  clear hany
  obtain ⟨records, edges, failing⟩ := r
  simp only at hnd hy ⊢
  induction records with
  | nil => simp at hy
  | cons z zs ih =>
    simp only [List.map_cons, List.nodup_cons, List.mem_map] at hnd
    simp only [List.map_cons, List.countP_cons]
    by_cases hz : z.entity = rec.entity
    · -- `z` is `y`, and no other record has the entity
      have hzy : z = y := by
        rcases List.mem_cons.1 hy with rfl | hy'
        · rfl
        · exact absurd ⟨y, hy', he.trans hz.symm⟩ hnd.1
      subst hzy
      have hid : ∀ x ∈ zs, (if (x.entity == rec.entity) = true then rec else x) = id x := by
        intro x hx
        have : x.entity ≠ rec.entity := fun h => hnd.1 ⟨x, hx, h.trans hz.symm⟩
        simp [this]
      simp only [hz, beq_self_eq_true, if_true]
      rw [List.map_congr_left hid, List.map_id]
      omega
    · have hy' : y ∈ zs := by
        rcases List.mem_cons.1 hy with rfl | hy'
        · exact absurd he hz
        · exact hy'
      have := ih hnd.2 hy'
      have hz' : (z.entity == rec.entity) = false := by simpa using hz
      simp only [hz', Bool.false_eq_true, if_false]
      omega

/-- Storing a record of a new entity adds what it contributes. -/
theorem countP_put_of_not_has {p : CounterRecord → Bool} {rec : CounterRecord}
    (h : ¬ r.Has rec.entity) :
    (r.put rec).records.countP p = r.records.countP p + (if p rec then 1 else 0) := by
  have hany : ¬ r.records.any (·.entity == rec.entity) = true := by
    simp only [List.any_eq_true, beq_iff_eq]
    exact h
  rw [put_of_not_any hany]
  simp only [List.countP_append, List.countP_cons, List.countP_nil, Nat.zero_add]

/-- A count of edges after one is flipped, when flipping changes the set. -/
theorem countP_flip {p : Edge → Bool} (hnd : r.edges.Nodup) {edge : Edge} {present : Bool}
    (hflip : (edge ∈ r.edges) ≠ (present = true)) :
    ((r.flip edge present).edges.countP p : Int) =
      r.edges.countP p + (if p edge then (if present then 1 else -1) else 0) := by
  cases present with
  | true =>
    unfold flip
    simp [List.countP_append]
  | false =>
    have hmem : edge ∈ r.edges := by simpa using hflip
    have herase := List.countP_erase p r.edges edge
    rw [hnd.erase_eq_filter] at herase
    unfold flip
    simp only [Bool.false_eq_true, if_false, herase]
    by_cases hp : p edge = true
    · have hpos : 0 < r.edges.countP p := List.countP_pos_iff.2 ⟨edge, hmem, hp⟩
      simp only [hmem, hp, and_self, if_true]
      omega
    · simp [hp]

theorem countP_clearTo_le (p : Edge → Bool) (t : EntityRef) :
    (r.clearTo t).edges.countP p ≤ r.edges.countP p :=
  List.filter_sublist.countP_le

/-! ## How the tallies move -/

@[simp] theorem towards_put (rec : CounterRecord) : (r.put rec).towards = r.towards := by
  funext rel t
  unfold towards
  simp

@[simp] theorem followsFrom_put (rec : CounterRecord) : (r.put rec).followsFrom = r.followsFrom := by
  funext u
  unfold followsFrom
  simp

@[simp] theorem owned_flip (edge : Edge) (present : Bool) :
    (r.flip edge present).owned = r.owned := by
  funext u k b
  unfold owned
  simp

@[simp] theorem owned_clearTo (t : EntityRef) : (r.clearTo t).owned = r.owned := rfl

/-- Flipping an edge moves the count of its relation towards its target by one. -/
theorem towards_flip (hnd : r.edges.Nodup) {edge : Edge} {present : Bool}
    (hflip : (edge ∈ r.edges) ≠ (present = true)) (rel : Relation) (t : EntityRef) :
    ((r.flip edge present).towards rel t : Int) = r.towards rel t +
      if edge.relation = rel ∧ edge.target = t then (if present then 1 else -1) else 0 := by
  unfold towards
  rw [countP_flip hnd hflip]
  simp

/-- Flipping a follow edge moves its follower's count by one. -/
theorem followsFrom_flip (hnd : r.edges.Nodup) {edge : Edge} {present : Bool}
    (hflip : (edge ∈ r.edges) ≠ (present = true)) (u : String) :
    ((r.flip edge present).followsFrom u : Int) = r.followsFrom u +
      if edge.relation = .follow ∧ edge.user = u then (if present then 1 else -1) else 0 := by
  unfold followsFrom
  rw [countP_flip hnd hflip]
  simp

/-- Clearing the edges towards a target leaves none of them and the others as they were. -/
theorem towards_clearTo (t : EntityRef) (rel : Relation) (t' : EntityRef) :
    (r.clearTo t).towards rel t' = if t' = t then 0 else r.towards rel t' := by
  unfold towards clearTo
  simp only [List.countP_filter]
  split
  · rename_i h
    subst h
    simp
  · rename_i h
    apply List.countP_congr
    intro e _
    constructor
    · simp +contextual
    · intro he
      simp only [Bool.and_eq_true, beq_iff_eq] at he
      simp [he.1, he.2, h]

theorem followsFrom_clearTo {t : EntityRef}
    (h : ∀ e ∈ r.edges, e.relation = .follow → e.target ≠ t) (u : String) :
    (r.clearTo t).followsFrom u = r.followsFrom u := by
  unfold followsFrom clearTo
  simp only [List.countP_filter]
  apply List.countP_congr
  intro e he
  by_cases hf : e.relation = .follow
  · simp [hf, h e he hf]
  · simp [hf]

theorem owned_put_of_user (hnd : (r.records.map (·.entity)).Nodup) {rec : CounterRecord}
    (hrec : rec.entity.isContent = false) : (r.put rec).owned = r.owned := by
  -- neither the new record nor the one it replaces is content
  have hown : ∀ (x : CounterRecord) u k b, x.entity.isContent = false → x.ownedBy u k b = false := by
    intro x u k b hx
    unfold CounterRecord.ownedBy
    cases he : x.entity with
    | content k' i => simp [he] at hx
    | achievement _ | contentCounts _ => rfl
  funext u k b
  unfold owned
  by_cases hhas : r.Has rec.entity
  · obtain ⟨y, hy, hye⟩ := hhas
    have := countP_put (p := (·.ownedBy u k b)) hnd hy hye
    rw [hown y u k b (hye ▸ hrec), hown rec u k b hrec] at this
    simpa using this
  · rw [countP_put_of_not_has hhas, hown rec u k b hrec]
    simp

theorem towards_le_size (rel : Relation) (t : EntityRef) : r.towards rel t ≤ r.size :=
  (List.countP_le_length).trans (Nat.le_add_left _ _)

theorem followsFrom_le_size (u : String) : r.followsFrom u ≤ r.size :=
  (List.countP_le_length).trans (Nat.le_add_left _ _)

theorem owned_le_size (u : String) (k : Kind) (b : Bool) : r.owned u k b ≤ r.size :=
  (List.countP_le_length).trans (Nat.le_add_right _ _)

/-- A tally is bounded by the size of the system. -/
theorem Tally.le_size {x : CounterRecord} {c : String} {n : Nat} (h : r.Tally x c n) :
    n ≤ r.size := by
  cases h with
  | engaged => exact towards_le_size _ _
  | follows => exact followsFrom_le_size _
  | followed => exact towards_le_size _ _
  | owned => exact owned_le_size _ _ _

/-- A record's tally in one system is its tally in another when the counts it reads agree. -/
theorem Tally.transfer {r' : SystemOfRecord} {x : CounterRecord}
    (ht : ∀ rel, r'.towards rel x.entity = r.towards rel x.entity)
    (hf : ∀ u, x.entity = .achievement u → r'.followsFrom u = r.followsFrom u)
    (ho : ∀ u, x.entity = .contentCounts u → ∀ k b, k ≠ .comment → r'.owned u k b = r.owned u k b)
    {c : String} {n : Nat} (h : r'.Tally x c n) : r.Tally x c n := by
  cases h with
  | engaged hx hd hrel => rw [ht]; exact .engaged hx hd hrel
  | follows hx => rw [hf _ hx]; exact .follows hx
  | followed hx => rw [ht]; exact .followed hx
  | owned b hx hk => rw [ho _ hx _ _ hk]; exact .owned b hx hk

/-- A tally of a system with the edges and ownership counts of another is one of the other's. -/
theorem Tally.of_congr {r' : SystemOfRecord} (he : r'.edges = r.edges) (ho : r'.owned = r.owned)
    {x : CounterRecord} {c : String} {n : Nat} (h : r'.Tally x c n) : r.Tally x c n :=
  h.transfer (fun rel => by unfold towards; simp [he])
    (fun u _ => by unfold followsFrom; simp [he])
    (fun u _ k b _ => by rw [ho])

/-- A record's tallies depend on its entity and on whether it is deleted, not on its columns. -/
theorem Tally.of_skeleton {x y : CounterRecord} (he : y.entity = x.entity)
    (hd : y.deleted = x.deleted) {c : String} {n : Nat} (h : r.Tally y c n) : r.Tally x c n := by
  cases h with
  | engaged hy hyd hrel => rw [he]; exact .engaged (he ▸ hy) (hd ▸ hyd) hrel
  | follows hy => exact .follows (he ▸ hy)
  | followed hy => rw [he]; exact .followed (he ▸ hy)
  | owned b hy hk => exact .owned b (he ▸ hy) hk

/-! ## Columns that are not tallies -/

/-- Whether a column of an entity is a tally. -/
def tracks : EntityRef → String → Bool
  | .content .., c => c == Field.agree || c == Field.collect
  | .achievement _, c => c == Field.follow || c == Field.followed
  | .contentCounts _, c => c ∈ Field.counts

theorem tracks_of_tally {x : CounterRecord} {c : String} {n : Nat} (h : r.Tally x c n) :
    tracks x.entity c = true := by
  cases h with
  | engaged hx hd hrel =>
    rename_i rel
    rw [hx]
    match rel, hrel with
    | .agree, _ => simp [tracks, Relation.column]
    | .collect, _ => simp [tracks, Relation.column]
  | follows hx => simp [hx, tracks]
  | followed hx => simp [hx, tracks]
  | owned b hx hk =>
    rename_i k
    rw [hx]
    cases k <;> cases b <;> simp_all [tracks, Kind.countsColumn, Kind.name, Field.counts,
      Field.visitSuffix]

/-! ## Consistency and shape under writes -/

/-- Consistency of a system whose records are another's, some replaced or added (`news`), when
the records kept keep their tallies and each new one holds its own. -/
theorem Consistent.of_news {r' : SystemOfRecord} (hc : r.Consistent) (news : List CounterRecord)
    (hsub : ∀ y ∈ r'.records, y ∈ news ∨ (y ∈ r.records ∧ ∀ x ∈ news, y.entity ≠ x.entity))
    (hkeep : ∀ y ∈ r.records, (∀ x ∈ news, y.entity ≠ x.entity) →
      ∀ c n, r'.Tally y c n → r.Tally y c n)
    (hnews : ∀ x ∈ news, (∀ c n, r'.Tally x c n → x.column c = n) ∧ ∀ c, 0 ≤ x.column c) :
    r'.Consistent := by
  constructor
  · intro y hy c n ht
    rcases hsub y hy with hy | ⟨hy, hne⟩
    · exact (hnews y hy).1 c n ht
    · exact hc.tallied y hy c n (hkeep y hy hne c n ht)
  · intro y hy c
    rcases hsub y hy with hy | ⟨hy, -⟩
    · exact (hnews y hy).2 c
    · exact hc.nonneg y hy c

theorem mem_put_put {a b y : CounterRecord} (h : y ∈ ((r.put a).put b).records) :
    y ∈ [a, b] ∨ (y ∈ r.records ∧ ∀ x ∈ [a, b], y.entity ≠ x.entity) := by
  rcases mem_put.1 h with rfl | ⟨h, hb⟩
  · simp
  · rcases mem_put.1 h with rfl | ⟨h, ha⟩
    · simp
    · exact .inr ⟨h, by simp [ha, hb]⟩

theorem WellFormed.put (hw : r.WellFormed) (rec : CounterRecord)
    (hkept : rec.entity.isContent = false → rec.deleted = false)
    (howner : rec.entity.isContent = true → rec.deleted = false → r.Registered rec.owner)
    (hedges : rec.deleted = true → ∀ e ∈ r.edges, e.target ≠ rec.entity) :
    (r.put rec).WellFormed where
  working := by simp [hw.working]
  entities_nodup := nodup_put hw.entities_nodup rec
  edges_nodup := by simpa using hw.edges_nodup
  users_kept := by
    intro x hx
    rcases mem_put.1 hx with rfl | ⟨hx, -⟩
    · exact hkept
    · exact hw.users_kept x hx
  owners_registered := by
    intro x hx hc hd
    rcases mem_put.1 hx with rfl | ⟨hx, -⟩
    · exact ⟨has_put _ (howner hc hd).1, has_put _ (howner hc hd).2⟩
    · have := hw.owners_registered x hx hc hd
      exact ⟨has_put _ this.1, has_put _ this.2⟩
  edges_live := by
    intro e he
    rw [put_edges] at he
    obtain ⟨ht, x, hx, hxe, hxd⟩ := hw.edges_live e he
    refine ⟨ht, ?_⟩
    by_cases hne : x.entity = rec.entity
    · cases hrd : rec.deleted
      · exact ⟨rec, mem_put_self rec, hne ▸ hxe, hrd⟩
      · exact absurd (hxe.symm.trans hne) (hedges hrd e he)
    · exact ⟨x, mem_put_of_ne hx hne, hxe, hxd⟩
  followers_registered := by
    intro e he hf
    rw [put_edges] at he
    exact has_put _ (hw.followers_registered e he hf)

@[simp] theorem has_flip (edge : Edge) (present : Bool) (t : EntityRef) :
    (r.flip edge present).Has t ↔ r.Has t := by
  unfold Has
  simp

@[simp] theorem live_flip (edge : Edge) (present : Bool) (t : EntityRef) :
    (r.flip edge present).Live t ↔ r.Live t := by
  simp [Live]

@[simp] theorem registered_flip (edge : Edge) (present : Bool) (u : String) :
    (r.flip edge present).Registered u ↔ r.Registered u := by
  simp [Registered]

theorem WellFormed.flip (hw : r.WellFormed) (edge : Edge) (present : Bool)
    (hadd : present = true → edge ∉ r.edges ∧ edge.relation.targets edge.target = true ∧
      r.Live edge.target ∧ (edge.relation = .follow → r.Has (.achievement edge.user))) :
    (r.flip edge present).WellFormed := by
  -- the edges after the flip are old ones, or the new one
  have hsub : ∀ e ∈ (r.flip edge present).edges, e ∈ r.edges ∨ (present = true ∧ e = edge) := by
    intro e he
    cases present
    · unfold SystemOfRecord.flip at he
      simp only [Bool.false_eq_true, if_false, List.mem_filter] at he
      exact .inl he.1
    · unfold SystemOfRecord.flip at he
      simp only [if_true, List.mem_append, List.mem_singleton] at he
      rcases he with he | rfl
      · exact .inl he
      · exact .inr ⟨rfl, rfl⟩
  have hnd : (r.flip edge present).edges.Nodup := by
    cases present
    · exact hw.edges_nodup.filter _
    · exact hw.edges_nodup.append (List.nodup_singleton edge) (by simpa using (hadd rfl).1)
  refine ⟨by simpa using hw.working, by simpa using hw.entities_nodup, hnd,
    by simpa using hw.users_kept, by simpa using hw.owners_registered, ?_, ?_⟩
  · intro e he
    rcases hsub e he with he | ⟨hp, rfl⟩
    · simpa using hw.edges_live e he
    · obtain ⟨-, ht, hl, -⟩ := hadd hp
      simpa using And.intro ht hl
  · intro e he hf
    rcases hsub e he with he | ⟨hp, rfl⟩
    · simpa using hw.followers_registered e he hf
    · simpa using (hadd hp).2.2.2 hf

theorem WellFormed.clearTo (hw : r.WellFormed) (t : EntityRef) : (r.clearTo t).WellFormed where
  working := hw.working
  entities_nodup := hw.entities_nodup
  edges_nodup := hw.edges_nodup.filter _
  users_kept := hw.users_kept
  owners_registered := hw.owners_registered
  edges_live := fun e he => hw.edges_live e (List.mem_filter.1 he).1
  followers_registered := fun e he => hw.followers_registered e (List.mem_filter.1 he).1

theorem size_put_le (rec : CounterRecord) : (r.put rec).size ≤ r.size + 1 := by
  have := length_put_le (r := r) rec
  unfold size
  simp only [put_edges]
  omega

theorem size_flip_le (edge : Edge) (present : Bool) : (r.flip edge present).size ≤ r.size + 1 := by
  unfold size flip
  split
  · simp
    omega
  · simp only
    have := List.length_filter_le (· != edge) r.edges
    omega

theorem size_clearTo_le (t : EntityRef) : (r.clearTo t).size ≤ r.size := by
  have := List.length_filter_le (·.target != t) r.edges
  unfold size clearTo
  dsimp only
  omega

/-! ## Adding to a column exactly -/

/-- Adding to a column is exact while the sum stays in the column's range. -/
theorem bump_eq_add {v δ : Int} (h0 : 0 ≤ v + δ) (h1 : v + δ ≤ Text.i64Max) :
    bump v δ = v + δ := by
  simp only [bump, Text.clampI64, Text.i64Min, Text.i64Max] at h1 ⊢
  omega

/-! ## Users -/

theorem ownedBy_eq_true {x : CounterRecord} {u : String} {k : Kind} {b : Bool} :
    x.ownedBy u k b = true ↔ (∃ i, x.entity = .content k i) ∧ x.deleted = false ∧
      x.owner = u ∧ (b = true → x.visibility = .visible) := by
  unfold CounterRecord.ownedBy
  cases hx : x.entity with
  | content k' i => cases b <;> simp [and_assoc]
  | achievement _ | contentCounts _ => simp

theorem find?_isNone_iff {e : EntityRef} :
    (r.records.find? (·.entity == e)).isNone ↔ ¬ r.Has e := by
  unfold Has
  simp [List.find?_eq_none]

/-- A user without an achievement follows no one and has no followers. -/
theorem WellFormed.no_follows (hw : r.WellFormed) {u : String} (h : ¬ r.Has (.achievement u)) :
    r.followsFrom u = 0 ∧ r.towards .follow (.achievement u) = 0 := by
  constructor
  · unfold followsFrom
    simp only [List.countP_eq_zero, Bool.and_eq_true, beq_iff_eq]
    rintro e he ⟨hf, rfl⟩
    exact h (hw.followers_registered e he hf)
  · unfold towards
    simp only [List.countP_eq_zero, Bool.and_eq_true, beq_iff_eq]
    rintro e he ⟨-, ht⟩
    obtain ⟨x, hx, hxe, -⟩ := (hw.edges_live e he).2
    exact h ⟨x, hx, hxe.trans ht⟩

/-- Someone who is not a registered user owns no live content. -/
theorem WellFormed.owned_eq_zero (hw : r.WellFormed) {u : String} (h : ¬ r.Registered u)
    (k : Kind) (b : Bool) : r.owned u k b = 0 := by
  unfold owned
  simp only [List.countP_eq_zero]
  intro x hx hown
  obtain ⟨⟨i, hxe⟩, hd, rfl, -⟩ := ownedBy_eq_true.1 hown
  exact h (hw.owners_registered x hx (by simp [hxe]) hd)

theorem mem_put_news {a y : CounterRecord} (h : y ∈ (r.put a).records) :
    y ∈ [a] ∨ (y ∈ r.records ∧ ∀ x ∈ [a], y.entity ≠ x.entity) := by
  rcases mem_put.1 h with rfl | ⟨h, ha⟩
  · simp
  · exact .inr ⟨h, by simpa using ha⟩

/-- A fresh achievement for a user who has none holds the user's (empty) follow tallies. -/
theorem Sound.put_achievement (hs : r.Sound) {u : String} (h : ¬ r.Has (.achievement u)) :
    (r.put (.achievement u)).Sound := by
  have hw := hs.wellFormed
  obtain ⟨hfrom, hto⟩ := hw.no_follows h
  have hown : (r.put (.achievement u)).owned = r.owned := owned_put_of_user hw.entities_nodup rfl
  refine ⟨hs.consistent.of_news [.achievement u] (fun y hy => mem_put_news hy)
    (fun y _ _ c n ht => ht.of_congr (by simp) hown) ?_, ?_⟩
  · intro x hx
    simp only [List.mem_singleton] at hx
    subst hx
    refine ⟨?_, fun c => by rw [CounterRecord.column_zeroed _ _ rfl]⟩
    intro c n ht
    rw [CounterRecord.column_zeroed _ _ rfl]
    cases ht with
    | engaged hx => cases hx
    | follows hx =>
      cases hx
      simp [hfrom]
    | followed hx =>
      cases hx
      simp [CounterRecord.achievement, hto]
    | owned b hx => cases hx
  · exact hw.put _ (fun _ => rfl) (fun hc => by cases hc) (fun hd => by cases hd)

/-- Fresh content counts for a user who owns no live content hold the user's (zero) tallies. -/
theorem Sound.put_contentCounts (hs : r.Sound) {u : String} (h : ∀ k b, r.owned u k b = 0) :
    (r.put (.contentCounts u)).Sound := by
  have hw := hs.wellFormed
  have hown : (r.put (.contentCounts u)).owned = r.owned :=
    owned_put_of_user hw.entities_nodup rfl
  refine ⟨hs.consistent.of_news [.contentCounts u] (fun y hy => mem_put_news hy)
    (fun y _ _ c n ht => ht.of_congr (by simp) hown) ?_, ?_⟩
  · intro x hx
    simp only [List.mem_singleton] at hx
    subst hx
    refine ⟨?_, fun c => by rw [CounterRecord.column_zeroed _ _ rfl]⟩
    intro c n ht
    rw [CounterRecord.column_zeroed _ _ rfl]
    cases ht with
    | engaged hx => cases hx
    | follows hx => cases hx
    | followed hx => cases hx
    | owned b hx =>
      cases hx
      simp [hown, h]
  · exact hw.put _ (fun _ => rfl) (fun hc => by cases hc) (fun hd => by cases hd)

/-- The records with a record of the entity of `rec`: `rec` itself when there was none. -/
def ensuredOne (r : SystemOfRecord) (rec : CounterRecord) : SystemOfRecord :=
  if (r.records.find? (·.entity == rec.entity)).isNone then r.put rec else r

/-- The records after making sure a user has both per-user records, as `ensureUser` does. -/
def ensured (r : SystemOfRecord) (u : String) : SystemOfRecord :=
  (r.ensuredOne (.achievement u)).ensuredOne (.contentCounts u)

theorem ensuredOne_of_has {rec : CounterRecord} (h : r.Has rec.entity) : r.ensuredOne rec = r := by
  have : ¬ (r.records.find? (·.entity == rec.entity)).isNone := fun hn => find?_isNone_iff.1 hn h
  simp [ensuredOne, this]

theorem has_ensuredOne_self (rec : CounterRecord) : (r.ensuredOne rec).Has rec.entity := by
  unfold ensuredOne
  split
  · exact ⟨rec, mem_put_self rec, rfl⟩
  · rename_i h
    exact not_not.1 (mt find?_isNone_iff.2 h)

theorem has_ensuredOne (rec : CounterRecord) {e : EntityRef} (h : r.Has e) :
    (r.ensuredOne rec).Has e := by
  unfold ensuredOne
  split
  · exact has_put rec h
  · exact h

theorem mem_ensuredOne {rec x : CounterRecord} (h : x ∈ (r.ensuredOne rec).records) :
    x ∈ r.records ∨ x = rec := by
  unfold ensuredOne at h
  split at h
  · rcases mem_put.1 h with rfl | ⟨h, -⟩
    · exact .inr rfl
    · exact .inl h
  · exact .inl h

theorem ensuredOne_flip (rec : CounterRecord) (edge : Edge) (present : Bool) :
    (r.flip edge present).ensuredOne rec = (r.ensuredOne rec).flip edge present := by
  unfold ensuredOne
  simp only [flip_records]
  split
  · exact put_flip rec edge present
  · rfl

theorem size_ensuredOne_le (rec : CounterRecord) : (r.ensuredOne rec).size ≤ r.size + 1 := by
  unfold ensuredOne
  split
  · exact size_put_le rec
  · omega

theorem Sound.ensuredOne (hs : r.Sound) {rec : CounterRecord}
    (hput : ¬ r.Has rec.entity → (r.put rec).Sound) : (r.ensuredOne rec).Sound := by
  unfold SystemOfRecord.ensuredOne
  split
  · exact hput (find?_isNone_iff.1 ‹_›)
  · exact hs

theorem Sound.ensured (hs : r.Sound) (u : String) : (r.ensured u).Sound := by
  have h1 : (r.ensuredOne (.achievement u)).Sound := hs.ensuredOne fun h => hs.put_achievement h
  -- a user without content counts is not registered, so owns no live content
  exact h1.ensuredOne fun h =>
    h1.put_contentCounts (h1.wellFormed.owned_eq_zero fun hreg => h hreg.2)

theorem registered_ensured (u : String) : (r.ensured u).Registered u :=
  ⟨has_ensuredOne _ (has_ensuredOne_self _), has_ensuredOne_self _⟩

theorem ensured_of_registered {u : String} (h : r.Registered u) : r.ensured u = r := by
  have ha : r.ensuredOne (.achievement u) = r := ensuredOne_of_has h.1
  have hc : r.ensuredOne (.contentCounts u) = r := ensuredOne_of_has h.2
  unfold ensured
  rw [ha, hc]

theorem ensured_flip (u : String) (edge : Edge) (present : Bool) :
    (r.flip edge present).ensured u = (r.ensured u).flip edge present := by
  unfold ensured
  rw [ensuredOne_flip, ensuredOne_flip]

/-- `ensured` adds per-user records only. -/
theorem mem_ensured {u : String} {x : CounterRecord} (h : x ∈ (r.ensured u).records) :
    x ∈ r.records ∨ x.entity.isContent = false := by
  rcases mem_ensuredOne h with h | rfl
  · rcases mem_ensuredOne h with h | rfl
    · exact .inl h
    · exact .inr rfl
  · exact .inr rfl

theorem has_ensured (u : String) {e : EntityRef} (h : r.Has e) : (r.ensured u).Has e :=
  has_ensuredOne _ (has_ensuredOne _ h)

theorem size_ensured_le (u : String) : (r.ensured u).size ≤ r.size + 2 := by
  have h1 := size_ensuredOne_le (r := r) (.achievement u)
  have h2 := size_ensuredOne_le (r := r.ensuredOne (.achievement u)) (.contentCounts u)
  unfold ensured
  omega

/-! ## Moves of the controller -/

theorem ownedBy_of_deleted {x : CounterRecord} (hd : x.deleted = true) (u : String) (k : Kind)
    (b : Bool) : x.ownedBy u k b = false := by
  cases h : x.ownedBy u k b
  · rfl
  · simp [(ownedBy_eq_true.1 h).2.1] at hd

/-- Storing a record where no record of its entity counts as live content moves each count by
what the new record contributes. -/
theorem owned_put_fresh (hnd : (r.records.map (·.entity)).Nodup) (rec : CounterRecord)
    (hold : ∀ y ∈ r.records, y.entity = rec.entity → y.deleted = true) (u : String) (k : Kind)
    (b : Bool) :
    (r.put rec).owned u k b = r.owned u k b + (if rec.ownedBy u k b then 1 else 0) := by
  unfold owned
  by_cases hhas : r.Has rec.entity
  · obtain ⟨y, hy, hye⟩ := hhas
    have := countP_put (p := (·.ownedBy u k b)) hnd hy hye
    rw [ownedBy_of_deleted (hold y hy hye)] at this
    simpa using this
  · exact countP_put_of_not_has hhas

/-- Replacing a record moves each count by the difference of what the two contribute. -/
theorem owned_put_replace (hnd : (r.records.map (·.entity)).Nodup) {x : CounterRecord}
    (hx : x ∈ r.records) (rec : CounterRecord) (he : x.entity = rec.entity) (u : String) (k : Kind) (b : Bool) :
    ((r.put rec).owned u k b : Int) =
      r.owned u k b - (if x.ownedBy u k b then 1 else 0) + (if rec.ownedBy u k b then 1 else 0) := by
  have := countP_put (p := (·.ownedBy u k b)) hnd hx he
  unfold owned
  by_cases h1 : x.ownedBy u k b <;> by_cases h2 : rec.ownedBy u k b <;>
    simp only [h1, h2, if_true, if_false, Bool.false_eq_true] at this ⊢ <;> omega

/-- Bumping a column that holds a tally by the tally's move gives the new tally. -/
theorem bump_to_tally {v δ : Int} {n n' : Nat} (hv : v = n) (hn : (n' : Int) = n + δ)
    (hroom : (n' : Int) ≤ Text.i64Max) : bump v δ = n' := by
  rw [bump_eq_add (by omega) (by omega)]
  omega

/-- The one record of an entity. -/
theorem eq_of_entity (hnd : (r.records.map (·.entity)).Nodup) {x y : CounterRecord}
    (hx : x ∈ r.records) (hy : y ∈ r.records) (h : x.entity = y.entity) : x = y :=
  List.inj_on_of_nodup_map hnd hx hy h

/-- No edge points at a deleted record. -/
theorem WellFormed.not_target (hw : r.WellFormed) {x : CounterRecord} (hx : x ∈ r.records)
    (hd : x.deleted = true) (e : Edge) (he : e ∈ r.edges) : e.target ≠ x.entity := by
  intro ht
  obtain ⟨z, hz, hze, hzd⟩ := (hw.edges_live e he).2
  have := eq_of_entity hw.entities_nodup hz hx (hze.trans ht)
  subst this
  simp [hd] at hzd

/-- Changing only the columns of a record keeps the shape. -/
theorem WellFormed.put_columns (hw : r.WellFormed) {x : CounterRecord} (hx : x ∈ r.records)
    (cs : KeyMap Int) : (r.put { x with columns := cs }).WellFormed :=
  hw.put _ (hw.users_kept x hx) (hw.owners_registered x hx)
    (fun hd e he => (hw.not_target hx hd e he : e.target ≠ x.entity))

theorem owned_put_columns (hnd : (r.records.map (·.entity)).Nodup) {x : CounterRecord}
    (hx : x ∈ r.records) (cs : KeyMap Int) : (r.put { x with columns := cs }).owned = r.owned := by
  funext u k b
  have := countP_put (p := (·.ownedBy u k b)) hnd hx
    (show x.entity = ({ x with columns := cs } : CounterRecord).entity from rfl)
  have hsame : ({ x with columns := cs } : CounterRecord).ownedBy u k b = x.ownedBy u k b := rfl
  simp only [hsame] at this
  unfold owned
  omega

/-- Moving a column that is not a tally keeps the invariant. -/
theorem Sound.bump_untracked (hs : r.Sound) {x : CounterRecord} (hx : x ∈ r.records)
    {c : String} (hc : tracks x.entity c = false) (δ : Int) : (r.put (x.bumped c δ)).Sound := by
  have hw := hs.wellFormed
  have hown := owned_put_columns hw.entities_nodup hx (x.columns.insert c (bump (x.column c) δ))
  refine ⟨hs.consistent.of_news [x.bumped c δ] (fun y hy => mem_put_news hy)
    (fun y _ _ c' n ht => ht.of_congr (by simp) hown) ?_, hw.put_columns hx _⟩
  intro y hy
  simp only [List.mem_singleton] at hy
  subst hy
  refine ⟨fun c' n ht => ?_,
    CounterRecord.column_bumped_nonneg c δ (hs.consistent.nonneg x hx)⟩
  -- the column moved is not this tally's
  have ht' : r.Tally x c' n := (ht.of_congr (by simp) hown).of_skeleton (x := x) (y := x.bumped c δ) rfl rfl
  have hne : c ≠ c' := fun h => by
    have := tracks_of_tally ht'
    simp_all
  rw [CounterRecord.column_bumped_ne x δ hne]
  exact hs.consistent.tallied x hx c' n ht'

theorem Relation.column_inj {rel rel' : Relation} : rel.column = rel'.column ↔ rel = rel' := by
  cases rel <;> cases rel' <;> simp [Relation.column, Field.agree, Field.collect, Field.followed]

/-- Flipping an agree or collect edge towards live content and moving the content's column with
it keeps the invariant. -/
theorem Sound.engage (hs : r.Sound) (hroom : (r.size : Int) < Text.i64Max) {x : CounterRecord}
    (hx : x ∈ r.records) {k : Kind} {i : Nat} (hxe : x.entity = .content k i)
    (hd : x.deleted = false) {edge : Edge} (hrel : edge.relation ≠ .follow)
    (ht : edge.target = x.entity) {on : Bool} (hflip : (edge ∈ r.edges) ≠ (on = true)) :
    ((r.flip edge on).put (x.bumped edge.relation.column (if on then 1 else -1))).Sound := by
  have hw := hs.wellFormed
  set δ : Int := if on then 1 else -1
  set x' := x.bumped edge.relation.column δ
  have hx'e : x'.entity = x.entity := rfl
  have hown : (r.put x').owned = r.owned := owned_put_columns hw.entities_nodup hx _
  have htw := towards_flip hw.edges_nodup hflip
  have hfl := followsFrom_flip hw.edges_nodup hflip
  -- the flip moves no follow count, and no count towards another entity
  have hkeep : ∀ y ∈ r.records, (∀ z ∈ [x'], y.entity ≠ z.entity) → ∀ c n,
      ((r.flip edge on).put x').Tally y c n → r.Tally y c n := by
    intro y _ hne c n hy
    simp only [List.mem_singleton, forall_eq] at hne
    refine hy.transfer (fun rel => ?_) (fun u _ => ?_) (fun u _ k b _ => ?_)
    · have := htw rel y.entity
      simp only [towards_put, ht] at this ⊢
      have hne' : x.entity ≠ y.entity := fun h => hne (h.symm.trans rfl)
      simp only [hne', and_false, if_false, add_zero] at this
      exact_mod_cast this
    · have := hfl u
      simp only [followsFrom_put, hrel, false_and, if_false, add_zero] at this ⊢
      exact_mod_cast this
    · rw [put_flip, owned_flip, hown]
  have hrecs : ((r.flip edge on).put x').records = (r.put x').records := by
    rw [put_flip, flip_records]
  refine ⟨hs.consistent.of_news [x'] (fun y hy => mem_put_news (hrecs ▸ hy)) hkeep ?_, ?_⟩
  · intro y hy
    simp only [List.mem_singleton] at hy
    subst hy
    refine ⟨fun c n hy => ?_,
      CounterRecord.column_bumped_nonneg _ δ (hs.consistent.nonneg x hx)⟩
    cases hy with
    | engaged hy hyd hrel' =>
      rename_i rel'
      have hold := hs.consistent.tallied x hx _ _ (@Tally.engaged _ _ _ _ rel' hxe hd hrel')
      have hmove := htw rel' x.entity
      simp only [towards_put] at hmove ⊢
      rw [hx'e, CounterRecord.column_bumped]
      by_cases hr : edge.relation = rel'
      · subst hr
        simp only [ht, and_self, if_true] at hmove
        simp only [if_true]
        refine bump_to_tally hold hmove ?_
        have := towards_le_size (r := r.flip edge on) edge.relation x.entity
        have := size_flip_le (r := r) edge on
        omega
      · have hc : edge.relation.column ≠ rel'.column := fun h => hr (Relation.column_inj.1 h)
        simp only [hr, false_and, if_false, add_zero, hc] at hmove ⊢
        rw [hold]
        exact_mod_cast hmove.symm
    | follows hy => simp [x', hxe] at hy
    | followed hy => simp [x', hxe] at hy
    | owned b hy => simp [x', hxe] at hy
  · refine (hw.flip edge on fun hon => ?_).put_columns (by simpa using hx) _
    refine ⟨by simpa [hon] using hflip, ?_, ⟨x, hx, ht.symm, hd⟩, fun h => absurd h hrel⟩
    rw [ht, hxe]
    cases h : edge.relation
    · rfl
    · rfl
    · exact absurd h hrel

/-- A user's content counts moved by `delta` for content of kind `k` and visibility `vis` hold the
user's tallies in a system where that content's contribution moved by `delta`. -/
theorem tallied_bumpedCounts {r' : SystemOfRecord} {y : CounterRecord} {u : String} {k : Kind}
    {vis : Visibility} {δ : Int} (hye : y.entity = .contentCounts u)
    (hcol : ∀ k' b, k' ≠ .comment → y.column (k'.countsColumn b) = r.owned u k' b)
    (howned : ∀ k' b, k' ≠ .comment → (r'.owned u k' b : Int) =
      r.owned u k' b + if k' = k ∧ (b = true → vis = .visible) then δ else 0)
    (hroom : ∀ k' b, (r'.owned u k' b : Int) ≤ Text.i64Max) (c : String) (n : Nat)
    (ht : r'.Tally (y.bumpedCounts k vis δ) c n) : (y.bumpedCounts k vis δ).column c = n := by
  cases ht with
  | engaged hx => simp [hye] at hx
  | follows hx => simp [hye] at hx
  | followed hx => simp [hye] at hx
  | owned b hx hk =>
    rename_i u' k'
    simp only [CounterRecord.bumpedCounts_entity, hye, EntityRef.contentCounts.injEq] at hx
    subst hx
    have hmove := howned k' b hk
    rw [CounterRecord.column_bumpedCounts, hcol k' b hk]
    simp only [Kind.countsColumn_inj]
    -- the column moves exactly when the content counts towards it
    by_cases hmoves : k' = k ∧ (b = true → vis = .visible)
    · obtain ⟨rfl, hv⟩ := hmoves
      have hcond : (k' = k' ∧ b = false) ∨ (vis = .visible ∧ k' = k' ∧ b = true) := by
        cases b
        · exact .inl ⟨rfl, rfl⟩
        · exact .inr ⟨hv rfl, rfl, rfl⟩
      rw [if_pos ⟨rfl, hv⟩] at hmove
      rw [if_pos hcond]
      exact bump_to_tally rfl hmove (hroom k' b)
    · have hcond : ¬ ((k' = k ∧ b = false) ∨ (vis = .visible ∧ k' = k ∧ b = true)) := by
        rintro (⟨rfl, rfl⟩ | ⟨hv, rfl, rfl⟩)
        · exact hmoves ⟨rfl, by simp⟩
        · exact hmoves ⟨rfl, fun _ => hv⟩
      rw [if_neg hcond]
      rw [if_neg hmoves, add_zero] at hmove
      exact_mod_cast hmove.symm

/-- No edge points at an entity without a live record. -/
theorem WellFormed.towards_eq_zero (hw : r.WellFormed) {t : EntityRef} (h : ¬ r.Live t)
    (rel : Relation) : r.towards rel t = 0 := by
  unfold towards
  simp only [List.countP_eq_zero, Bool.and_eq_true, beq_iff_eq]
  rintro e he ⟨-, rfl⟩
  exact h (hw.edges_live e he).2

/-- Fresh content holds its tallies, all zero, where no live record of it was. -/
theorem tallied_fresh {r' : SystemOfRecord} (hw : r.WellFormed) {x : CounterRecord}
    (hz : x.columns = CounterRecord.zeroed Field.content) {k : Kind} {i : Nat}
    (hxe : x.entity = .content k i) (hfree : ¬ r.Live x.entity) (hedges : r'.edges = r.edges)
    (c : String) (n : Nat) (ht : r'.Tally x c n) : x.column c = n := by
  rw [CounterRecord.column_zeroed x _ hz]
  cases ht with
  | engaged hx hd hrel =>
    have : r'.towards = r.towards := by
      funext rel t
      unfold towards
      simp [hedges]
    rw [this, hw.towards_eq_zero hfree]
    rfl
  | follows hx => simp [hxe] at hx
  | followed hx => simp [hxe] at hx
  | owned b hx => simp [hxe] at hx

theorem deleted_of_not_live {e : EntityRef} (h : ¬ r.Live e) :
    ∀ z ∈ r.records, z.entity = e → z.deleted = true := by
  intro z hz hze
  cases hzd : z.deleted
  · exact absurd ⟨z, hz, hze, hzd⟩ h
  · rfl

/-- What live content counts towards: its owner's count of its kind, and the visible part when
it is visible. -/
theorem ownedBy_live {x : CounterRecord} {k : Kind} {i : Nat} (hxe : x.entity = .content k i)
    (hd : x.deleted = false) (u : String) (k' : Kind) (b : Bool) :
    x.ownedBy u k' b = true ↔ u = x.owner ∧ k' = k ∧ (b = true → x.visibility = .visible) := by
  rw [ownedBy_eq_true, hxe]
  constructor
  · rintro ⟨⟨i', hi'⟩, -, rfl, hv⟩
    simp only [EntityRef.content.injEq] at hi'
    exact ⟨rfl, hi'.1.symm, hv⟩
  · rintro ⟨rfl, rfl, hv⟩
    exact ⟨⟨i, rfl⟩, hd, rfl, hv⟩

/-- Creating content where no live record of it exists, for a registered owner whose counts move
by one, keeps the invariant. -/
theorem Sound.create (hs : r.Sound) (hroom : (r.size : Int) < Text.i64Max) {k : Kind} {i : Nat}
    {owner : String} (vis : Visibility) (hreg : r.Registered owner)
    (hfree : ¬ r.Live (.content k i)) {y : CounterRecord} (hy : y ∈ r.records)
    (hye : y.entity = .contentCounts owner) :
    ((r.put (.content k i owner vis)).put (y.bumpedCounts k vis 1)).Sound := by
  have hw := hs.wellFormed
  -- the content counts towards its owner only, and the counts record towards no one
  have hown1 := owned_put_fresh hw.entities_nodup (.content k i owner vis)
    (deleted_of_not_live hfree)
  have hown2 : ((r.put (.content k i owner vis)).put (y.bumpedCounts k vis 1)).owned =
      (r.put (.content k i owner vis)).owned :=
    owned_put_of_user (nodup_put hw.entities_nodup _) (by simp [hye])
  have hcontrib : ∀ u k' b, (CounterRecord.content k i owner vis).ownedBy u k' b = true ↔
      u = owner ∧ k' = k ∧ (b = true → vis = .visible) := ownedBy_live rfl rfl
  have hy' : y.entity ≠ (CounterRecord.content k i owner vis).entity := by
    simp [hye, CounterRecord.content]
  refine ⟨hs.consistent.of_news [.content k i owner vis, y.bumpedCounts k vis 1]
    (fun z hz => mem_put_put hz) ?_ ?_, ?_⟩
  · intro z _ hne c n hz
    simp only [List.mem_cons, List.not_mem_nil, or_false, forall_eq_or_imp, forall_eq,
      CounterRecord.bumpedCounts_entity] at hne
    refine hz.transfer (fun rel => by simp) (fun u _ => by simp) ?_
    intro u hze k' b _
    have hu : u ≠ owner := fun h => hne.2 (by rw [hze, hye, h])
    rw [hown2, hown1]
    simp [(hcontrib u k' b).not.2 (by simp [hu])]
  · intro z hz
    simp only [List.mem_cons, List.not_mem_nil, or_false] at hz
    rcases hz with rfl | rfl
    · refine ⟨tallied_fresh hw rfl rfl hfree (by simp), ?_⟩
      intro c
      rw [CounterRecord.column_zeroed _ _ rfl]
    · refine ⟨tallied_bumpedCounts (r := r) hye ?_ ?_ ?_, ?_⟩
      · intro k' b hk
        exact hs.consistent.tallied y hy _ _ (.owned b hye hk)
      · intro k' b _
        rw [hown2, hown1]
        by_cases hm : k' = k ∧ (b = true → vis = .visible)
        · rw [if_pos ((hcontrib owner k' b).2 ⟨rfl, hm⟩), if_pos hm]
          simp
        · rw [if_neg ((hcontrib owner k' b).not.2 (by simpa using hm)), if_neg hm]
          simp
      · intro k' b
        rw [hown2, hown1]
        have := owned_le_size (r := r) owner k' b
        split <;> push_cast <;> omega
      · exact CounterRecord.column_bumpedCounts_nonneg k vis 1 (hs.consistent.nonneg y hy)
  · have h1 := hw.put (.content k i owner vis) (fun h => by cases h) (fun _ _ => hreg)
      (fun h => by cases h)
    exact h1.put _ (fun _ => by simpa using hw.users_kept y hy (by simp [hye]))
      (fun h => by simp [hye] at h) (fun h => by
        simp [hw.users_kept y hy (by simp [hye])] at h)

/-- Deleted content has no tallies. -/
theorem not_tally_deleted {x : CounterRecord} {k : Kind} {i : Nat} (hxe : x.entity = .content k i)
    (hd : x.deleted = true) (c : String) (n : Nat) : ¬ r.Tally x c n := by
  intro h
  cases h with
  | engaged _ hd' => simp [hd] at hd'
  | follows hx => simp [hxe] at hx
  | followed hx => simp [hxe] at hx
  | owned b hx => simp [hxe] at hx

/-- Adding a comment where no live record of it exists, by a registered author, keeps the
invariant: a comment counts towards no user's content counts. -/
theorem Sound.putComment (hs : r.Sound) {cid : Nat} {author : String} (parent : EntityRef)
    (hreg : r.Registered author) (hfree : ¬ r.Live (.content .comment cid)) :
    (r.put (.comment cid author parent)).Sound := by
  have hw := hs.wellFormed
  have hown := owned_put_fresh hw.entities_nodup (.comment cid author parent)
    (deleted_of_not_live hfree)
  refine ⟨hs.consistent.of_news [.comment cid author parent] (fun z hz => mem_put_news hz) ?_ ?_,
    hw.put _ (fun h => by cases h) (fun _ _ => hreg) (fun h => by cases h)⟩
  · intro z _ _ c n hz
    refine hz.transfer (fun rel => by simp) (fun u _ => by simp) ?_
    intro u _ k b hk
    have hnot : (CounterRecord.comment cid author parent).ownedBy u k b = false := by
      cases h : (CounterRecord.comment cid author parent).ownedBy u k b
      · rfl
      · exact absurd ((ownedBy_live rfl rfl u k b).1 h).2.1 hk
    simp [hown, hnot]
  · intro z hz
    simp only [List.mem_singleton] at hz
    subst hz
    exact ⟨tallied_fresh hw rfl rfl hfree (by simp),
      fun c => by rw [CounterRecord.column_zeroed _ _ rfl]⟩

/-- The counts of follow edges stay when edges towards content are cleared. -/
theorem WellFormed.followsFrom_clearTo_content (hw : r.WellFormed) {k : Kind} {i : Nat}
    (u : String) : (r.clearTo (.content k i)).followsFrom u = r.followsFrom u := by
  apply SystemOfRecord.followsFrom_clearTo
  intro e he hf ht
  have := (hw.edges_live e he).1
  rw [hf, ht] at this
  cases this

/-- Deleting live content, with its owner's counts moved back by one and the edges towards it
cleared, keeps the invariant. -/
theorem Sound.delete (hs : r.Sound) (hroom : (r.size : Int) < Text.i64Max) {x : CounterRecord}
    (hx : x ∈ r.records) {k : Kind}
    {i : Nat} (hxe : x.entity = .content k i) (hd : x.deleted = false) {y : CounterRecord}
    (hy : y ∈ r.records) (hye : y.entity = .contentCounts x.owner) :
    (((r.put { x with deleted := true }).put (y.bumpedCounts k x.visibility (-1))).clearTo
      x.entity).Sound := by
  have hw := hs.wellFormed
  set x' : CounterRecord := { x with deleted := true }
  have hcontrib := ownedBy_live hxe hd
  have hgone : ∀ u k' b, x'.ownedBy u k' b = false := ownedBy_of_deleted rfl
  have hown1 := owned_put_replace hw.entities_nodup hx x' rfl
  have hown2 : ((r.put x').put (y.bumpedCounts k x.visibility (-1))).owned = (r.put x').owned :=
    owned_put_of_user (nodup_put hw.entities_nodup _) (by simp [hye])
  -- every count but the owner's stays, and the owner's drops by what the content contributed
  have howned : ∀ u k' b, ((((r.put x').put (y.bumpedCounts k x.visibility (-1))).clearTo
      x.entity).owned u k' b : Int) =
        r.owned u k' b - if u = x.owner ∧ k' = k ∧ (b = true → x.visibility = .visible)
          then 1 else 0 := by
    intro u k' b
    rw [owned_clearTo, hown2, hown1, hgone]
    by_cases hm : u = x.owner ∧ k' = k ∧ (b = true → x.visibility = .visible)
    · rw [if_pos ((hcontrib u k' b).2 hm), if_pos hm]
      simp
    · rw [if_neg ((hcontrib u k' b).not.2 hm), if_neg hm]
      simp
  refine ⟨hs.consistent.of_news [x', y.bumpedCounts k x.visibility (-1)]
    (fun z hz => mem_put_put (by simpa using hz)) ?_ ?_, ?_⟩
  · intro z _ hne c n hz
    simp only [List.mem_cons, List.not_mem_nil, or_false, forall_eq_or_imp, forall_eq,
      CounterRecord.bumpedCounts_entity] at hne
    have hne1 : z.entity ≠ x.entity := hne.1
    refine hz.transfer (fun rel => ?_) (fun u _ => ?_) (fun u hze k' b _ => ?_)
    · simp [towards_clearTo, hne1]
    · rw [← put_clearTo, ← put_clearTo, followsFrom_put, followsFrom_put, hxe,
        hw.followsFrom_clearTo_content]
    · have hu : u ≠ x.owner := fun h => hne.2 (by rw [hze, hye, h])
      have := howned u k' b
      simp only [hu, false_and, if_false, sub_zero] at this
      exact_mod_cast this
  · intro z hz
    simp only [List.mem_cons, List.not_mem_nil, or_false] at hz
    rcases hz with rfl | rfl
    · exact ⟨fun c n hz => absurd hz (not_tally_deleted (x := x') hxe rfl c n), hs.consistent.nonneg x hx⟩
    · refine ⟨tallied_bumpedCounts (r := r) hye ?_ ?_ ?_, ?_⟩
      · intro k' b hk
        exact hs.consistent.tallied y hy _ _ (.owned b hye hk)
      · intro k' b _
        rw [howned]
        by_cases hm : k' = k ∧ (b = true → x.visibility = .visible)
        · rw [if_pos ⟨rfl, hm⟩, if_pos hm]
          ring
        · rw [if_neg (by simpa using hm), if_neg hm]
          simp
      · intro k' b
        have h1 := howned x.owner k' b
        have h2 := owned_le_size (r := r) x.owner k' b
        split at h1 <;> omega
      · exact CounterRecord.column_bumpedCounts_nonneg k _ _ (hs.consistent.nonneg y hy)
  · -- clearing first leaves no edge towards the deleted record
    rw [← put_clearTo, ← put_clearTo]
    have h0 := hw.clearTo x.entity
    have h1 := h0.put x' (fun h => by simp [x', hxe] at h)
      (fun _ h => by cases h) (fun _ e he => by simpa using (List.mem_filter.1 he).2)
    exact h1.put _ (fun _ => by simpa using hw.users_kept y hy (by simp [hye]))
      (fun h => by simp [hye] at h) (fun h => by
        simp [hw.users_kept y hy (by simp [hye])] at h)

/-- Removing a live comment and the edges towards it keeps the invariant. -/
theorem Sound.deleteComment (hs : r.Sound) {x : CounterRecord} (hx : x ∈ r.records) {i : Nat}
    (hxe : x.entity = .content .comment i) (hd : x.deleted = false) :
    ((r.put { x with deleted := true }).clearTo x.entity).Sound := by
  have hw := hs.wellFormed
  set x' : CounterRecord := { x with deleted := true }
  have hcontrib := ownedBy_live hxe hd
  have hown1 := owned_put_replace hw.entities_nodup hx x' rfl
  have hgone : ∀ u k' b, x'.ownedBy u k' b = false := ownedBy_of_deleted rfl
  refine ⟨hs.consistent.of_news [x'] (fun z hz => mem_put_news (by simpa using hz)) ?_ ?_, ?_⟩
  · intro z _ hne c n hz
    simp only [List.mem_singleton, forall_eq] at hne
    have hne1 : z.entity ≠ x.entity := hne
    refine hz.transfer (fun rel => by simp [towards_clearTo, hne1]) (fun u _ => ?_)
      (fun u _ k' b hk => ?_)
    · rw [← put_clearTo, followsFrom_put, hxe, hw.followsFrom_clearTo_content]
    · -- a comment counts towards no kind other than comments
      have := hown1 u k' b
      rw [hgone, if_neg ((hcontrib u k' b).not.2 fun h => hk h.2.1)] at this
      rw [owned_clearTo]
      simp only [Bool.false_eq_true, if_false, sub_zero, add_zero] at this
      exact_mod_cast this
  · intro z hz
    simp only [List.mem_singleton] at hz
    subst hz
    exact ⟨fun c n hz => absurd hz (not_tally_deleted (x := x') hxe rfl c n), hs.consistent.nonneg x hx⟩
  · rw [← put_clearTo]
    exact (hw.clearTo x.entity).put x' (fun h => by simp [x', hxe] at h)
      (fun _ h => by cases h) (fun _ e he => by simpa using (List.mem_filter.1 he).2)

/-- Changing the visibility of live content, with its owner's visible count moved by one, keeps
the invariant. -/
theorem Sound.republish (hs : r.Sound) (hroom : (r.size : Int) < Text.i64Max)
    {x : CounterRecord} (hx : x ∈ r.records) {k : Kind} {i : Nat}
    (hxe : x.entity = .content k i) (hd : x.deleted = false) {vis : Visibility}
    (hv : x.visibility ≠ vis) {y : CounterRecord} (hy : y ∈ r.records)
    (hye : y.entity = .contentCounts x.owner) :
    ((r.put { x with visibility := vis }).put
      (y.bumped (k.countsColumn true) (if vis = .visible then 1 else -1))).Sound := by
  have hw := hs.wellFormed
  set x' : CounterRecord := { x with visibility := vis }
  set δ : Int := if vis = .visible then 1 else -1
  have hcontrib := ownedBy_live hxe hd
  have hcontrib' : ∀ u k' b, x'.ownedBy u k' b = true ↔
      u = x.owner ∧ k' = k ∧ (b = true → vis = .visible) := ownedBy_live hxe hd
  have hown1 := owned_put_replace hw.entities_nodup hx x' rfl
  have hown2 : ((r.put x').put (y.bumped (k.countsColumn true) δ)).owned = (r.put x').owned :=
    owned_put_of_user (nodup_put hw.entities_nodup _) (by simp [hye])
  -- only the owner's visible count of the kind moves
  have howned : ∀ u k' b, (((r.put x').put (y.bumped (k.countsColumn true) δ)).owned u k' b : Int) =
      r.owned u k' b + if u = x.owner ∧ k' = k ∧ b = true then δ else 0 := by
    intro u k' b
    rw [hown2, hown1]
    by_cases hm : u = x.owner ∧ k' = k
    · obtain ⟨rfl, rfl⟩ := hm
      cases b
      · simp [hcontrib, hcontrib']
      · simp only [hcontrib, hcontrib', true_and, true_implies, and_true, δ]
        cases hxv : x.visibility <;> cases vis <;> simp_all [Int.sub_eq_add_neg]
    · rw [if_neg ((hcontrib u k' b).not.2 fun h => hm ⟨h.1, h.2.1⟩),
        if_neg ((hcontrib' u k' b).not.2 fun h => hm ⟨h.1, h.2.1⟩),
        if_neg fun h => hm ⟨h.1, h.2.1⟩]
      simp
  refine ⟨hs.consistent.of_news [x', y.bumped (k.countsColumn true) δ]
    (fun z hz => mem_put_put hz) ?_ ?_, ?_⟩
  · intro z _ hne c n hz
    simp only [List.mem_cons, List.not_mem_nil, or_false, forall_eq_or_imp, forall_eq,
      CounterRecord.bumped_entity] at hne
    refine hz.transfer (fun rel => by simp) (fun u _ => by simp) (fun u hze k' b _ => ?_)
    have hu : u ≠ x.owner := fun h => hne.2 (by rw [hze, hye, h])
    have := howned u k' b
    simp only [hu, false_and, if_false, add_zero] at this
    exact_mod_cast this
  · intro z hz
    simp only [List.mem_cons, List.not_mem_nil, or_false] at hz
    rcases hz with rfl | rfl
    · -- the content keeps its columns, and its edges
      refine ⟨fun c n hz => ?_, hs.consistent.nonneg x hx⟩
      have hz1 : r.Tally x' c n := hz.transfer (r := r) (fun rel => by simp)
        (fun u h => by simp [x', hxe] at h) (fun u h => by simp [x', hxe] at h)
      have hz' : r.Tally x c n := hz1.of_skeleton (x := x) (y := x') rfl rfl
      exact hs.consistent.tallied x hx c n hz'
    · refine ⟨fun c n hz => ?_, CounterRecord.column_bumped_nonneg _ δ (hs.consistent.nonneg y hy)⟩
      cases hz with
      | engaged hz => simp [hye] at hz
      | follows hz => simp [hye] at hz
      | followed hz => simp [hye] at hz
      | owned b hz hk =>
        rename_i u k'
        simp only [CounterRecord.bumped_entity, hye, EntityRef.contentCounts.injEq] at hz
        subst hz
        have hmove := howned x.owner k' b
        have hold := hs.consistent.tallied y hy _ _ (.owned b hye hk)
        simp only [CounterRecord.column_bumped, Kind.countsColumn_inj]
        by_cases hm : k = k' ∧ true = b
        · obtain ⟨rfl, rfl⟩ := hm
          simp only [and_self, if_true] at hmove ⊢
          refine bump_to_tally hold hmove ?_
          have := owned_le_size (r := r) x.owner k true
          have : δ ≤ 1 := by simp only [δ]; split <;> omega
          omega
        · rw [if_neg hm]
          have : ¬ (x.owner = x.owner ∧ k' = k ∧ b = true) := fun h =>
            hm ⟨h.2.1.symm, h.2.2.symm⟩
          rw [if_neg this, add_zero] at hmove
          rw [hold]
          exact_mod_cast hmove.symm
  · have h1 := hw.put x' (fun h => by simp [x', hxe] at h)
      (fun _ _ => hw.owners_registered x hx (by simp [hxe]) hd)
      (fun h => by simp [x', hd] at h)
    exact h1.put _ (fun _ => by simpa using hw.users_kept y hy (by simp [hye]))
      (fun h => by simp [hye] at h) (fun h => by
        simp [hw.users_kept y hy (by simp [hye])] at h)

/-- An achievement holds its tallies when its two follow columns do. -/
theorem tallied_achievement {y : CounterRecord} {u : String} (hye : y.entity = .achievement u)
    (hf : y.column Field.follow = r.followsFrom u)
    (ht : y.column Field.followed = r.towards .follow y.entity) (c : String) (n : Nat)
    (h : r.Tally y c n) : y.column c = n := by
  cases h with
  | engaged hy => simp [hye] at hy
  | follows hy =>
    rw [hye, EntityRef.achievement.injEq] at hy
    subst hy
    exact hf
  | followed => exact ht
  | owned b hy => simp [hye] at hy

@[simp] theorem Edge.follow_relation (a b : String) : (Edge.follow a b).relation = .follow := rfl

@[simp] theorem Edge.follow_user (a b : String) : (Edge.follow a b).user = a := rfl

@[simp] theorem Edge.follow_target (a b : String) :
    (Edge.follow a b).target = .achievement b := rfl

theorem Field.follow_ne_followed : Field.follow ≠ Field.followed := by
  simp [Field.follow, Field.followed]

/-- Flipping a follow edge and moving the followed user's followers and then the follower's
count of users followed keeps the invariant; follower and followed may be one user. -/
theorem Sound.follow (hs : r.Sound) (hroom : (r.size : Int) < Text.i64Max) {a b : String}
    {on : Bool} (hflip : (Edge.follow a b ∈ r.edges) ≠ (on = true)) {xb : CounterRecord}
    (hxb : xb ∈ r.records) (hxbe : xb.entity = .achievement b) {xa : CounterRecord}
    (hxa : xa ∈ ((r.flip (.follow a b) on).put
      (xb.bumped Field.followed (if on then 1 else -1))).records)
    (hxae : xa.entity = .achievement a) :
    (((r.flip (.follow a b) on).put (xb.bumped Field.followed (if on then 1 else -1))).put
      (xa.bumped Field.follow (if on then 1 else -1))).Sound := by
  have hw := hs.wellFormed
  set δ : Int := if on then 1 else -1
  set r₁ := r.flip (.follow a b) on
  set xb' := xb.bumped Field.followed δ
  have htw : ∀ t, (r₁.towards .follow t : Int) =
      r.towards .follow t + if .achievement b = t then δ else 0 := by
    intro t
    have := towards_flip hw.edges_nodup hflip .follow t
    simp only [Edge.follow_relation, Edge.follow_target, true_and] at this
    exact this
  have hfl : ∀ u, (r₁.followsFrom u : Int) = r.followsFrom u + if a = u then δ else 0 := by
    intro u
    have := followsFrom_flip hw.edges_nodup hflip u
    simp only [Edge.follow_relation, Edge.follow_user, true_and] at this
    exact this
  -- every tally of the flipped system fits, so a bumped column is its tally plus `δ`
  have hfit : ∀ n : Nat, n ≤ r₁.size → (n : Int) ≤ Text.i64Max := by
    intro n hn
    have : r₁.size ≤ r.size + 1 := size_flip_le _ _
    omega
  have hxbl : xb.deleted = false := hw.users_kept xb hxb (by simp [hxbe])
  have hxb1 : xb ∈ r₁.records := by simpa [r₁] using hxb
  have hHa : r.Has (.achievement a) := by
    rcases mem_put.1 hxa with rfl | ⟨h, -⟩
    · exact ⟨xb, hxb, by simpa [xb'] using hxae⟩
    · exact ⟨xa, by simpa [r₁] using h, hxae⟩
  -- a record of another user reads the same tallies before and after
  have hkeep : ∀ r' : SystemOfRecord, r'.edges = r₁.edges → r'.owned = r.owned →
      ∀ y ∈ r.records, y.entity ≠ .achievement a → y.entity ≠ .achievement b →
      ∀ c n, r'.Tally y c n → r.Tally y c n := by
    intro r' he ho y _ hya hyb c n hy
    refine hy.transfer (fun rel => ?_) (fun u hu => ?_) (fun u _ k b' _ => by rw [ho])
    · have : r'.towards rel y.entity = r₁.towards rel y.entity := by unfold towards; simp [he]
      rw [this]
      have := towards_flip hw.edges_nodup hflip rel y.entity
      have hne : ¬ (EntityRef.achievement b = y.entity) := fun h => hyb h.symm
      simp only [Edge.follow_target, hne, and_false, if_false, add_zero] at this
      exact_mod_cast this
    · have : r'.followsFrom u = r₁.followsFrom u := by unfold followsFrom; simp [he]
      rw [this]
      have := hfl u
      have hau : a ≠ u := fun h => hya (hu.trans (by rw [h]))
      simp only [hau, if_false, add_zero] at this
      exact_mod_cast this
  have hwf : ((r₁.put xb').put (xa.bumped Field.follow δ)).WellFormed := by
    refine ((hw.flip _ on fun hon => ?_).put_columns hxb1 _).put_columns hxa _
    refine ⟨by simpa [hon] using hflip, rfl, ⟨xb, hxb, hxbe, hxbl⟩, fun _ => hHa⟩
  have hnd₁ : (r₁.records.map (·.entity)).Nodup := by simpa [r₁] using hw.entities_nodup
  have hown : ((r₁.put xb').put (xa.bumped Field.follow δ)).owned = r.owned := by
    rw [owned_put_of_user (nodup_put hnd₁ _) (by simp [hxae]),
      owned_put_of_user hnd₁ (by simp [xb', hxbe]), owned_flip]
  by_cases hab : a = b
  · -- a user following themself: one record moves both columns
    subst hab
    have hxa' : xa = xb' := eq_of_entity (nodup_put hnd₁ _) hxa (mem_put_self _)
      (by simp [xb', hxae, hxbe])
    subst hxa'
    rw [put_put_of_entity (a := xb') (b := xb'.bumped Field.follow δ) rfl] at hwf hown ⊢
    refine ⟨hs.consistent.of_news [xb'.bumped Field.follow δ] (fun y hy => ?_)
      (fun y hy hne => hkeep _ (by simp) hown y hy ?_ ?_) (fun y hy => ?_), hwf⟩
    · have := mem_put_news (r := r₁) hy
      simpa only [r₁, flip_records] using this
    · simpa [xb', hxbe] using hne
    · simpa [xb', hxbe] using hne
    simp only [List.mem_singleton] at hy
    subst hy
    refine ⟨tallied_achievement (u := a) (by simp [xb', hxbe]) ?_ ?_,
      CounterRecord.column_bumped_nonneg _ δ
        (CounterRecord.column_bumped_nonneg _ δ (hs.consistent.nonneg xb hxb))⟩
    · rw [CounterRecord.column_bumped_self,
        CounterRecord.column_bumped_ne _ _ Field.follow_ne_followed.symm]
      refine bump_to_tally (hs.consistent.tallied xb hxb _ _ (.follows hxbe)) ?_
        (hfit _ (by simpa using followsFrom_le_size (r := r₁) a))
      simpa using hfl a
    · rw [CounterRecord.column_bumped_ne _ _ Field.follow_ne_followed,
        CounterRecord.column_bumped_self]
      refine bump_to_tally (hs.consistent.tallied xb hxb _ _ (.followed hxbe)) ?_
        (hfit _ (by simpa [xb', hxbe] using towards_le_size (r := r₁) .follow (.achievement a)))
      simpa [xb', hxbe] using htw (.achievement a)
  · -- two users: each record moves its own column
    have hxa₀ : xa ∈ r.records := by
      rcases mem_put.1 hxa with rfl | ⟨h, -⟩
      · exact absurd (by simpa [xb', hxbe] using hxae : b = a).symm hab
      · simpa [r₁] using h
    refine ⟨hs.consistent.of_news [xb', xa.bumped Field.follow δ] (fun y hy => ?_)
      (fun y hy hne => hkeep _ (by simp) hown y hy ?_ ?_) (fun y hy => ?_), hwf⟩
    · have := mem_put_put (r := r₁) hy
      simpa only [r₁, flip_records] using this
    · exact fun h => hne (xa.bumped Field.follow δ) (by simp) (by simp [h, hxae])
    · exact fun h => hne xb' (by simp) (by simp [h, xb', hxbe])
    simp only [List.mem_cons, List.not_mem_nil, or_false] at hy
    rcases hy with rfl | rfl
    · refine ⟨tallied_achievement (u := b) (by simp [xb', hxbe]) ?_ ?_,
        CounterRecord.column_bumped_nonneg _ δ (hs.consistent.nonneg xb hxb)⟩
      · rw [CounterRecord.column_bumped_ne _ _ Field.follow_ne_followed.symm,
          hs.consistent.tallied xb hxb _ _ (.follows hxbe)]
        have := hfl b
        simp only [hab, if_false, add_zero] at this
        simpa using this.symm
      · rw [CounterRecord.column_bumped_self]
        refine bump_to_tally (hs.consistent.tallied xb hxb _ _ (.followed hxbe)) ?_
          (hfit _ (by simpa [xb', hxbe] using towards_le_size (r := r₁) .follow (.achievement b)))
        simpa [xb', hxbe] using htw (.achievement b)
    · refine ⟨tallied_achievement (u := a) (by simp [hxae]) ?_ ?_,
        CounterRecord.column_bumped_nonneg _ δ (hs.consistent.nonneg xa hxa₀)⟩
      · rw [CounterRecord.column_bumped_self]
        refine bump_to_tally (hs.consistent.tallied xa hxa₀ _ _ (.follows hxae)) ?_
          (hfit _ (by simpa using followsFrom_le_size (r := r₁) a))
        simpa using hfl a
      · rw [CounterRecord.column_bumped_ne _ _ Field.follow_ne_followed,
          hs.consistent.tallied xa hxa₀ _ _ (.followed hxae)]
        have := htw (.achievement a)
        have hba : EntityRef.achievement b ≠ .achievement a := fun h => hab (by simpa using h.symm)
        simp only [hba, if_false, add_zero] at this
        simpa [hxae] using this.symm

end SystemOfRecord

end CounterCache
