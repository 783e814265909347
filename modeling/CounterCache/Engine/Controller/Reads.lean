import CounterCache.Engine.Controller

/-!
# Reads through the controller

Counter views are read from the cache and fall through to the system of record. A cached hash
that holds fields is read as the view. An empty one is a miss: the record is rehydrated into the
cache and read from the system of record. When the cache cannot be read, or rehydrating fails
for a reason of the cache alone, the view is read from the live record.

Rankings and collections are read from the cache only; their members must be ids.

Main statement: `ranking_zero` says that a ranking of no entries reads nothing.
-/

namespace CounterCache

namespace Controller

/-- Reads a view of a record from its cached hash, falling through to the system of record. -/
def readThrough {α : Type} (e : EntityRef) (ofFields : KeyMap String → Except Error α)
    (ofRecord : CounterRecord → α) : CtlM α := do
  match ← cachedHash e.cacheKey with
  | .error _ => return ofRecord (← live e)
  | .ok fields =>
    if !fields.isEmpty then ofExcept (ofFields fields)
    else
      match ← attempt (rehydrate e) with
      | .ok r => return ofRecord r
      | .error err =>
        if err.isCacheFailure then return ofRecord (← live e) else throw err

/-- The counters of content. -/
def contentCounters (kind : Kind) (id : Nat) : CtlM ContentCounters :=
  readThrough (.content kind id) ContentCounters.ofFields ContentCounters.ofRecord

/-- A user's achievement. -/
def achievement (uuid : String) : CtlM UserAchievement :=
  readThrough (.achievement uuid) UserAchievement.ofFields UserAchievement.ofRecord

/-- A user's content counts. -/
def contentCounts (uuid : String) : CtlM UserContentCounts :=
  readThrough (.contentCounts uuid) UserContentCounts.ofFields UserContentCounts.ofRecord

/-- An id read from a member: an unsigned 64-bit decimal. -/
def parseId (member : String) : Except Error Nat :=
  match Text.parseU64? member with
  | some n => .ok n
  | none => .error (.notInteger member)

/-- Members of a cached sorted set from the highest score down, by rank. -/
def cachedRange (key : String) (start stop : Int) : CtlM (List Scored) := do
  let c ← get
  ofExcept (c.cache.keyspace.rangeAt c.now key start stop)

/-- The top `limit` entries of a ranking view, highest score first. -/
def ranking (kind : Kind) (view : String) (limit : Nat) : CtlM (List (Nat × Int)) := do
  if limit = 0 then return []
  let stop : Int := min limit (Nat.pow 2 63 - 1) - 1
  let members ← cachedRange (Keys.ranking kind view) 0 stop
  members.mapM fun (m, s) => do return (← ofExcept (parseId m), s)

theorem ranking_zero (kind : Kind) (view : String) (c : Controller) :
    (ranking kind view 0).run.run c = (.ok [], c) := rfl

/-- The ids of content of a kind that `user` collected, newest first. -/
def collections (user : String) (kind : Kind) : CtlM (List Nat) := do
  let members ← cachedRange (Keys.collections user kind) 0 (-1)
  members.mapM fun (m, _) => ofExcept (parseId m)

/-- The lifecycle state content shows: from the system of record when it is absent or deleted,
else from the cache: expired when nothing is cached, created while every counter is zero, and
active after that. -/
def recordState (kind : Kind) (id : Nat) : CtlM RecordState := do
  let e := EntityRef.content kind id
  match ← recordOf e with
  | none => return .absent
  | some r =>
    if r.deleted then return .deleted
    let fields ← ofExcept (← cachedHash e.cacheKey)
    if fields.isEmpty then return .expired
    let counters ← ofExcept (ContentCounters.ofFields fields)
    let untouched := counters.agree = 0 ∧ counters.view = 0 ∧ counters.collect = 0 ∧
      counters.comment = 0 ∧ r.columns.entries.all (·.2 == 0)
    return if untouched then .created else .active

end Controller

end CounterCache
