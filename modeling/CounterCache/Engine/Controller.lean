import CounterCache.Engine.Backend
import CounterCache.Engine.Dispatch
import CounterCache.Engine.Lifecycle
import CounterCache.Engine.Repository

/-!
# The controller: the system of record first, the cache after

A controller keeps the cached counters in step with the system of record. Every write goes to
the system of record first; if that fails, the operation fails and the cache is left alone.
The matching catalog script then runs against the cache as a best-effort accelerator. Its
failure never fails the operation: the outcome reports it instead.

A script that reports the primary counter record as missing triggers rehydration: the record is
read from the system of record, whose value already includes the change, and written back into
the cache. A script that finds its marker already in place after a recorded toggle means the
cache missed an earlier transition, and the touched records are refreshed.

The controller's computations keep what they changed when they fail part way, as the system of
record does: a failure after a first write leaves that write in place.

Main statements: `stateOf_deleted` says that a deleted record shows as deleted, and
`outcome_written` that a written outcome records.
-/

namespace CounterCache

/-- What happened to the cache during a write. -/
inductive CacheOutcome where
  /-- The script applied. -/
  | applied
  /-- The script found its marker already in the requested state. -/
  | duplicate
  /-- The primary record was missing and has been rehydrated. -/
  | rehydrated
  /-- The primary record was missing and rehydrating it failed. -/
  | missed
  /-- No script ran. -/
  | skipped
  /-- The script failed, with this error's text; the cache is unchanged. -/
  | failed (msg : String)
  deriving DecidableEq, Repr, Inhabited

/-- The result of a write: whether the system of record changed, and what the cache did. -/
structure Outcome where
  recorded : Bool
  cache : CacheOutcome
  deriving DecidableEq, Repr, Inhabited

namespace Outcome

/-- A write that changed the system of record. -/
def written (cache : CacheOutcome) : Outcome := ⟨true, cache⟩

/-- A write that found nothing to do. -/
def skipped : Outcome := ⟨false, .skipped⟩

theorem outcome_written (c : CacheOutcome) : (written c).recorded = true := rfl

end Outcome

/-- A controller: the system of record, the cache with its clock, the mode its scripts run in,
and the dispatcher that maps events to script calls. -/
structure Controller where
  records : SystemOfRecord := {}
  cache : Store := {}
  /-- The cache's clock, in milliseconds. -/
  now : Nat
  mode : ScriptMode := .native
  dispatcher : Dispatcher
  deriving Inhabited

/-- Controller computations: they change the controller, keep their changes when they fail,
and may fail with an error. -/
abbrev CtlM := ExceptT Error (StateM Controller)

namespace Controller

/-- Fails with an error, or gives the value. -/
def ofExcept {α : Type} (r : Except Error α) : CtlM α :=
  match r with
  | .ok a => pure a
  | .error e => throw e

/-- Runs a computation and gives its result or its error, keeping what it changed. -/
def attempt {α : Type} (act : CtlM α) : CtlM (Except Error α) :=
  tryCatch (do return .ok (← act)) fun e => pure (.error e)

/-! ## The system of record -/

/-- The record of an entity. -/
def recordOf (e : EntityRef) : CtlM (Option CounterRecord) := do
  ofExcept ((← get).records.get? e)

/-- Stores a record. -/
def upsert (rec : CounterRecord) : CtlM Unit := do
  let c ← get
  set { c with records := ← ofExcept (c.records.upsert rec) }

/-- Adds to a column of a live record. -/
def incrementColumn (e : EntityRef) (column : String) (delta : Int) : CtlM Unit := do
  let c ← get
  let (_, records) ← ofExcept (c.records.incrementColumn e column delta)
  set { c with records }

/-- Records or removes an edge: whether that changed anything. -/
def setEdge (edge : Edge) (present : Bool) : CtlM Bool := do
  let c ← get
  let (changed, records) ← ofExcept (c.records.setEdge edge present)
  set { c with records }
  return changed

/-- Removes the edges towards a target. -/
def clearEdges (target : EntityRef) : CtlM Unit := do
  let c ← get
  let (_, records) ← ofExcept (c.records.clearEdges target)
  set { c with records }

/-- The lifecycle state the system of record shows for a record. -/
def stateOf : Option CounterRecord → RecordState
  | none => .absent
  | some r => if r.deleted then .deleted else .active

/-- Requires a lifecycle transition to be allowed. -/
def allow (s : RecordState) (t : Transition) : CtlM Unit := do
  let _ ← ofExcept (s.step t)

/-- The record of an entity, which must exist. -/
def existing (e : EntityRef) : CtlM CounterRecord := do
  match ← recordOf e with
  | some r => return r
  | none => throw (.notFound e.cacheKey)

/-- The record of an entity, which must exist and not be deleted. -/
def live (e : EntityRef) : CtlM CounterRecord := do
  let r ← existing e
  if r.deleted then throw (.invalidState (e.cacheKey ++ " is deleted"))
  return r

/-- Creates a user's missing achievement and content-count records. -/
def ensureUser (uuid : String) : CtlM Unit := do
  if (← recordOf (.achievement uuid)).isNone then upsert (.achievement uuid)
  if (← recordOf (.contentCounts uuid)).isNone then upsert (.contentCounts uuid)

/-- Moves a user's count of content of a kind, and of visible content of the kind. -/
def adjustCounts (owner : String) (kind : Kind) (vis : Visibility) (delta : Int) :
    CtlM Unit := do
  let counts := EntityRef.contentCounts owner
  incrementColumn counts kind.name delta
  if vis = .visible then incrementColumn counts (kind.name ++ Field.visitSuffix) delta

/-! ## The cache -/

/-- Maps an event to its script call. -/
def dispatch (ev : Event) : CtlM ScriptCall := do
  ofExcept ((← get).dispatcher.dispatch ev)

/-- Runs a script call against the cache, as one unit: its status. -/
def invoke (call : ScriptCall) : CtlM Status := do
  let c ← get
  let (r, cache) := c.cache.invoke c.now c.mode call.script call.keys call.args
  set { c with cache }
  ofExcept r

/-- All fields of the cached hash at a key. -/
def cachedHash (key : String) : CtlM (Except Error (KeyMap String)) := do
  let c ← get
  return c.cache.keyspace.hashAt c.now key

/-- Writes a record back into the cache, keeping fields the cache already holds. The record
must exist; a deleted one cannot be rehydrated. -/
def rehydrate (e : EntityRef) : CtlM CounterRecord := do
  let r ← existing e
  allow (if r.deleted then .deleted else .expired) .rehydrate
  let _ ← invoke ((← get).dispatcher.rehydrate r)
  return r

/-- Overwrites a record's cached copy and its ranking scores with the record's values. -/
def refresh (e : EntityRef) : CtlM CounterRecord := do
  let r ← existing e
  if r.deleted then throw (.invalidState ("cannot refresh deleted " ++ e.cacheKey))
  let _ ← invoke ((← get).dispatcher.refresh r)
  for call in Dispatcher.refreshRankings r do
    let _ ← invoke call
  return r

/-- Rehydrates records in order; false at the first that fails. -/
def rehydrateAll : List EntityRef → CtlM Bool
  | [] => pure true
  | e :: es => do
    match ← attempt (rehydrate e) with
    | .ok _ => rehydrateAll es
    | .error _ => pure false

/-- Runs a cache script; a missing primary record rehydrates `onMiss`. Never fails. -/
def runCache (call : ScriptCall) (onMiss : List EntityRef) : CtlM CacheOutcome := do
  match ← attempt (invoke call) with
  | .ok .applied => return .applied
  | .ok .noOp => return .duplicate
  | .ok .missing => return if ← rehydrateAll onMiss then .rehydrated else .missed
  | .error e => return .failed e.message

/-- After a duplicate, refreshes the touched records, ignoring failures. -/
def reconcile (cache : CacheOutcome) (touched : List EntityRef) : CtlM Unit := do
  if cache = .duplicate then
    for e in touched do
      let _ ← attempt (refresh e)

theorem stateOf_deleted (r : CounterRecord) (h : r.deleted = true) :
    stateOf (some r) = .deleted := by
  simp [stateOf, h]

end Controller

end CounterCache
