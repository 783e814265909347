import CounterCache.Engine.Record
import CounterCache.Text.Decimal

/-!
# The system of record

The authoritative store the engine writes before the cache: at most one counter record per
entity, and the set of engagement edges. It can be switched to fail, as an unavailable
database does: every operation then fails with `system of record unavailable` and changes
nothing.

Column increments saturate at the 64-bit bounds and never go below zero. A record that is
missing cannot be incremented, and neither can a deleted one.

Main statements: `setEdge_again` says that recording an edge a second time reports no
change, and `column_increment_nonneg` that an incremented column is never negative.
-/

namespace CounterCache

/-- The authoritative counter records and engagement edges. -/
structure SystemOfRecord where
  records : List CounterRecord := []
  edges : List Edge := []
  /-- Every operation fails while this is set. -/
  failing : Bool := false
  deriving Inhabited

namespace SystemOfRecord

/-- The failure of an unavailable system of record. -/
def unavailable : Error := .repository "system of record unavailable"

/-- Fails when the system of record is unavailable. -/
def check (r : SystemOfRecord) : Except Error Unit :=
  if r.failing then .error unavailable else .ok ()

/-- The record of an entity. -/
def get? (r : SystemOfRecord) (e : EntityRef) : Except Error (Option CounterRecord) := do
  r.check
  return r.records.find? (·.entity == e)

/-- Stores a record, replacing the entity's earlier one. -/
def upsert (r : SystemOfRecord) (rec : CounterRecord) : Except Error SystemOfRecord := do
  r.check
  if r.records.any (·.entity == rec.entity) then
    return { r with records := r.records.map fun x => if x.entity == rec.entity then rec else x }
  else return { r with records := r.records ++ [rec] }

/-- A column after adding `delta`: saturated to 64 bits, then at least zero. -/
def bump (value delta : Int) : Int := max 0 (Text.clampI64 (value + delta))

theorem column_increment_nonneg (value delta : Int) : 0 ≤ bump value delta :=
  Int.le_max_left _ _

/-- Adds `delta` to a column of a live record: the record after the change. -/
def incrementColumn (r : SystemOfRecord) (e : EntityRef) (column : String) (delta : Int) :
    Except Error (CounterRecord × SystemOfRecord) := do
  r.check
  match r.records.find? (·.entity == e) with
  | none => throw (.notFound e.cacheKey)
  | some found =>
    if found.deleted then throw (.invalidState (e.cacheKey ++ " is deleted"))
    let updated :=
      { found with columns := found.columns.insert column (bump (found.column column) delta) }
    let records := r.records.map fun x => if x.entity == e then updated else x
    return (updated, { r with records })

/-- Records or removes an edge: whether that changed the set. -/
def setEdge (r : SystemOfRecord) (edge : Edge) (present : Bool) :
    Except Error (Bool × SystemOfRecord) := do
  r.check
  let held := r.edges.contains edge
  if present then
    if held then return (false, r) else return (true, { r with edges := r.edges ++ [edge] })
  else
    if held then return (true, { r with edges := r.edges.filter (· != edge) })
    else return (false, r)

theorem setEdge_again (r r' : SystemOfRecord) (b : Bool) (edge : Edge)
    (h : r.setEdge edge true = .ok (b, r')) : (r'.setEdge edge true).map (·.1) = .ok false := by
  -- the first call succeeds only on a working system, and leaves the edge recorded
  have hup : r'.failing = false ∧ edge ∈ r'.edges := by
    by_cases hf : r.failing
    · simp [setEdge, check, hf] at h
      cases h
    · by_cases hc : edge ∈ r.edges
      · simp [setEdge, check, hf, hc, pure, Except.pure] at h
        obtain ⟨-, rfl⟩ := h
        exact ⟨by simpa using hf, hc⟩
      · simp [setEdge, check, hf, hc, pure, Except.pure] at h
        obtain ⟨-, rfl⟩ := h
        exact ⟨by simp, List.mem_append_right _ (List.mem_singleton_self edge)⟩
  simp [setEdge, check, hup.1, hup.2]
  rfl

/-- Removes every edge towards a target: how many there were. -/
def clearEdges (r : SystemOfRecord) (target : EntityRef) :
    Except Error (Nat × SystemOfRecord) := do
  r.check
  let kept := r.edges.filter (·.target != target)
  return (r.edges.length - kept.length, { r with edges := kept })

end SystemOfRecord

end CounterCache
