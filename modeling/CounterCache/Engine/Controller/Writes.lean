import CounterCache.Engine.Controller

/-!
# Writes through the controller

Each write maps its event to a script call first, so an event the dispatcher refuses changes
nothing. It then checks and changes the system of record, and last runs the script against the
cache, whose outcome it reports.

Toggles (agree, collect, follow and their cancels) flip an edge in the system of record first.
A toggle that finds its edge already in the requested state changes nothing and runs no script.
A toggle that flips its edge and then fails before moving any counter puts the edge back.

Collections are stamped with the cache clock's time in seconds.

Main statement: `chronologicalScore_ok` says that an id within the signed 64-bit range is its own
chronological score.
-/

namespace CounterCache

namespace Controller

/-- The chronological score of an id: the id itself, which must fit a signed 64-bit integer. -/
def chronologicalScore (id : Nat) : Except Error Int :=
  if id ≤ Nat.pow 2 63 - 1 then .ok id
  else .error (.invalidArgument ("id " ++ toString id ++ " is out of range"))

theorem chronologicalScore_ok (id : Nat) (h : id ≤ Nat.pow 2 63 - 1) :
    chronologicalScore id = .ok id := by
  rw [chronologicalScore, if_pos h]

/-- Registers a user: zeroed achievement and content counts. -/
def registerUser (uuid : String) : CtlM Outcome := do
  let call ← dispatch (.registerUser uuid)
  allow (stateOf (← recordOf (.achievement uuid))) .create
  upsert (.achievement uuid)
  upsert (.contentCounts uuid)
  return .written (← runCache call [])

/-- Creates content and fans it out to every view. -/
def createContent (kind : Kind) (id : Nat) (owner : String) (vis : Visibility) :
    CtlM Outcome := do
  let score ← ofExcept (chronologicalScore id)
  let call ← dispatch (.create kind id owner vis score)
  let entity := EntityRef.content kind id
  allow (stateOf (← recordOf entity)) .create
  ensureUser owner
  upsert (.content kind id owner vis)
  adjustCounts owner kind vis 1
  return .written (← runCache call [])

/-- Changes the visibility of live content; the counts move only when it changes. -/
def republish (kind : Kind) (id : Nat) (vis : Visibility) : CtlM Outcome := do
  let entity := EntityRef.content kind id
  let r ← live entity
  let score ← ofExcept (chronologicalScore id)
  let call ← dispatch (.republish kind id r.owner vis score)
  let changed := r.visibility ≠ vis
  if changed then
    upsert { r with visibility := vis }
    ensureUser r.owner
    incrementColumn (.contentCounts r.owner) (kind.name ++ Field.visitSuffix)
      (if vis = .visible then 1 else -1)
  return ⟨changed, ← runCache call [entity]⟩

/-- Deletes content and forgets its edges. Deleting twice records nothing; the cache cleanup
runs again. -/
def deleteContent (kind : Kind) (id : Nat) : CtlM Outcome := do
  let entity := EntityRef.content kind id
  let r ← existing entity
  let call ← dispatch (.delete kind id r.owner r.visibility)
  let recorded := !r.deleted
  if recorded then
    allow (stateOf (some r)) .delete
    upsert { r with deleted := true }
    adjustCounts r.owner kind r.visibility (-1)
    clearEdges entity
  return ⟨recorded, ← runCache call []⟩

/-- Flips a toggle's edge and moves the counters: the first of `ownerColumns` on the record
itself, and all of them on its owner's achievement. -/
def toggle (ev : Event) (r : CounterRecord) (edge : Edge) (on : Bool)
    (ownerColumns : List String) : CtlM Outcome := do
  let call ← dispatch ev
  if !(← setEdge edge on) then return .skipped
  let delta : Int := if on then 1 else -1
  let owner := EntityRef.achievement r.owner
  let first ← attempt do
    ensureUser r.owner
    incrementColumn r.entity (ownerColumns.headD "") delta
  if let .error e := first then
    let _ ← attempt (setEdge edge !on)
    throw e
  for column in ownerColumns do
    incrementColumn owner column delta
  let cache ← runCache call [r.entity]
  reconcile cache [r.entity, owner]
  return .written cache

/-- `user` agrees with content. -/
def agree (kind : Kind) (id : Nat) (user : String) : CtlM Outcome := do
  let r ← live (.content kind id)
  toggle (.agree kind id r.owner user) r (.agree user kind id) true [Field.agree, Field.score]

/-- `user` withdraws an agree. -/
def cancelAgree (kind : Kind) (id : Nat) (user : String) : CtlM Outcome := do
  let r ← live (.content kind id)
  toggle (.cancelAgree kind id r.owner user) r (.agree user kind id) false
    [Field.agree, Field.score]

/-- `user` collects content, stamped with the clock's time in seconds. -/
def collect (kind : Kind) (id : Nat) (user : String) : CtlM Outcome := do
  let r ← live (.content kind id)
  let at? : Int := (← get).now / 1000
  toggle (.collect kind id r.owner user at?) r (.collect user kind id) true
    [Field.collect, Field.score]

/-- `user` removes content from their collections. -/
def cancelCollect (kind : Kind) (id : Nat) (user : String) : CtlM Outcome := do
  let r ← live (.content kind id)
  toggle (.cancelCollect kind id r.owner user) r (.collect user kind id) false
    [Field.collect, Field.score]

/-- Records a view of live content. -/
def view (kind : Kind) (id : Nat) : CtlM Outcome := do
  let entity := EntityRef.content kind id
  let r ← live entity
  let call ← dispatch (.view kind id r.owner)
  ensureUser r.owner
  incrementColumn entity Field.view 1
  incrementColumn (.achievement r.owner) Field.view 1
  return .written (← runCache call [entity])

/-- Adds a comment to live content. -/
def addComment (parentKind : Kind) (parentId commentId : Nat) (author : String) :
    CtlM Outcome := do
  let parent := EntityRef.content parentKind parentId
  let _ ← live parent
  allow (stateOf (← recordOf (.content .comment commentId))) .create
  let call ← dispatch (.commentAdd parentKind parentId commentId author)
  ensureUser author
  upsert (.comment commentId author parent)
  incrementColumn parent Field.comment 1
  return .written (← runCache call [parent])

/-- Removes a comment from the content it was added to; removing it again does nothing. -/
def removeComment (commentId : Nat) : CtlM Outcome := do
  let comment := EntityRef.content .comment commentId
  let r ← existing comment
  if r.deleted then return .skipped
  let (pk, pid) ← match r.parent with
    | some (.content k i) => pure (k, i)
    | _ => throw (.invalidState (comment.cacheKey ++ " has no parent entity"))
  let call ← dispatch (.commentRemove pk pid commentId)
  let parent := EntityRef.content pk pid
  upsert { r with deleted := true }
  clearEdges comment
  if (← recordOf parent).any (!·.deleted) then
    incrementColumn parent Field.comment (-1)
  return .written (← runCache call [parent])

/-- `follower` starts or stops following `followed`. -/
def followToggle (follower followed : String) (on : Bool) : CtlM Outcome := do
  let call ← dispatch (if on then .follow follower followed else .unfollow follower followed)
  let edge := Edge.follow follower followed
  if !(← setEdge edge on) then return .skipped
  let followedRef := EntityRef.achievement followed
  let followerRef := EntityRef.achievement follower
  let delta : Int := if on then 1 else -1
  let first ← attempt do
    ensureUser followed
    ensureUser follower
    incrementColumn followedRef Field.followed delta
  if let .error e := first then
    let _ ← attempt (setEdge edge !on)
    throw e
  incrementColumn followerRef Field.follow delta
  let touched := [followedRef, followerRef]
  let cache ← runCache call touched
  reconcile cache touched
  return .written cache

/-- `follower` follows `followed`. -/
def follow (follower followed : String) : CtlM Outcome := followToggle follower followed true

/-- `follower` stops following `followed`. -/
def unfollow (follower followed : String) : CtlM Outcome := followToggle follower followed false

end Controller

end CounterCache
