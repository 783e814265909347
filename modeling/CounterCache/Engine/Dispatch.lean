import CounterCache.Engine.Record

/-!
# Dispatch: from business events to script calls

A pure mapping from an engagement event to the catalog script, key list and argument list that
apply it to the cache. Which kinds carry which scripts is the table `KindSpec.of`; which ranking
views exist and which engagements feed them is `rankings`.
-/

namespace CounterCache

/-- A ranking view kept per ranked kind. -/
structure RankingSpec where
  /-- Key suffix: `{kind}:{suffix}`. -/
  suffix : String
  /-- Engagements that move the score. -/
  fedBy : List Engagement
  deriving Repr, Inhabited

/-- The ranking views: `hot` (agree, collect, comment) and `leaderboard` (agree). -/
def rankings : List RankingSpec :=
  [⟨"hot", [.agree, .collect, .comment]⟩, ⟨"leaderboard", [.agree]⟩]

/-- The dispatch table row of a kind. -/
structure KindSpec where
  kind : Kind
  /-- Creation and republish script; none for kinds created by other events. -/
  createScript : Option String
  /-- Deletion script. -/
  deleteScript : Option String
  ranked : Bool
  collectable : Bool
  deriving Repr, Inhabited

namespace KindSpec

/-- The table row of a kind: articles, columns and talks have their own scripts, are ranked
and collectable; comments are none of these. -/
def of : Kind → KindSpec
  | .article => ⟨.article, some "CreateArticleCache", some "DeleteArticleCache", true, true⟩
  | .column => ⟨.column, some "CreateColumnCache", some "DeleteColumnCache", true, true⟩
  | .talk => ⟨.talk, some "CreateTalkCache", some "DeleteTalkCache", true, true⟩
  | .comment => ⟨.comment, none, none, false, false⟩

end KindSpec

/-- Ranking keys of a kind fed by an engagement. -/
def rankingKeys (kind : Kind) (e : Engagement) : List String :=
  if (KindSpec.of kind).ranked then
    (rankings.filter (·.fedBy.contains e)).map (Keys.ranking kind ·.suffix)
  else []

/-- Every ranking key of a kind. -/
def allRankingKeys (kind : Kind) : List String :=
  if (KindSpec.of kind).ranked then rankings.map (Keys.ranking kind ·.suffix) else []

/-- A business event that changes engagement counters. -/
inductive Event where
  | create (kind : Kind) (id : Nat) (owner : String) (vis : Visibility) (score : Int)
  | republish (kind : Kind) (id : Nat) (owner : String) (vis : Visibility) (score : Int)
  | delete (kind : Kind) (id : Nat) (owner : String) (vis : Visibility)
  | agree (kind : Kind) (id : Nat) (owner user : String)
  | cancelAgree (kind : Kind) (id : Nat) (owner user : String)
  | view (kind : Kind) (id : Nat) (owner : String)
  /-- `user` collects content at a time in unix seconds. -/
  | collect (kind : Kind) (id : Nat) (owner user : String) (at? : Int)
  | cancelCollect (kind : Kind) (id : Nat) (owner user : String)
  | commentAdd (parentKind : Kind) (parentId commentId : Nat) (author : String)
  | commentRemove (parentKind : Kind) (parentId commentId : Nat)
  | follow (follower followed : String)
  | unfollow (follower followed : String)
  | registerUser (uuid : String)
  deriving Repr, Inhabited

/-- A resolved script call. -/
structure ScriptCall where
  script : String
  keys : List String
  args : List String
  deriving DecidableEq, Repr, Inhabited

/-- The five keys of a content entity's fan-out. -/
def contentKeys (kind : Kind) (id : Nat) (owner : String) : List String :=
  [Keys.counter kind id, Keys.ownerIndex owner kind, Keys.visitIndex owner kind,
    Keys.chronological kind, Keys.contentCounts owner]

/-- Maps events to script calls, stamping a lifetime on created records. -/
structure Dispatcher where
  /-- Lifetime in seconds of primary counter records. -/
  ttl : Nat
  deriving Repr, Inhabited

namespace Dispatcher

/-- The creation or republish call of content. -/
def createCall (d : Dispatcher) (kind : Kind) (id : Nat) (owner : String) (vis : Visibility)
    (score : Int) (mode : String) : Except Error ScriptCall :=
  match (KindSpec.of kind).createScript with
  | none => .error (.invalidArgument (kind.name ++ " is created with its own event"))
  | some script => .ok ⟨script, contentKeys kind id owner ++ allRankingKeys kind,
    [toString id, owner, vis.authFlag, mode, toString d.ttl, kind.name, toString score]⟩

/-- The agree or cancel-agree call. -/
def agreeCall (script : String) (kind : Kind) (id : Nat) (owner user : String) : ScriptCall :=
  ⟨script, [Keys.counter kind id, Keys.achievement owner, Keys.agreeMarker user kind] ++
    rankingKeys kind .agree, [toString id, "1"]⟩

/-- The collect or cancel-collect call. -/
def collectCall (script : String) (kind : Kind) (id : Nat) (owner user : String) (at? : Int) :
    Except Error ScriptCall :=
  if !(KindSpec.of kind).collectable then
    .error (.invalidArgument (kind.name ++ " cannot be collected"))
  else .ok ⟨script, [Keys.counter kind id, Keys.achievement owner, Keys.collectMarker user kind,
    Keys.collections user kind] ++ rankingKeys kind .collect, [toString id, "1", toString at?]⟩

/-- The follow or unfollow call. -/
def followCall (script follower followed : String) : Except Error ScriptCall :=
  if follower = followed then .error (.invalidArgument "a user cannot follow themselves")
  else .ok ⟨script,
    [Keys.achievement followed, Keys.achievement follower, Keys.following follower],
    [followed, "1"]⟩

/-- Maps an event to its script call. -/
def dispatch (d : Dispatcher) : Event → Except Error ScriptCall
  | .create kind id owner vis score => d.createCall kind id owner vis score "create"
  | .republish kind id owner vis score => d.createCall kind id owner vis score "republish"
  | .delete kind id owner vis =>
    match (KindSpec.of kind).deleteScript with
    | none => .error (.invalidArgument (kind.name ++ " is removed with its own event"))
    | some script => .ok ⟨script, contentKeys kind id owner ++ allRankingKeys kind,
      [toString id, vis.authFlag, kind.name]⟩
  | .agree kind id owner user => .ok (agreeCall "SetAgreeToCache" kind id owner user)
  | .cancelAgree kind id owner user => .ok (agreeCall "CancelAgreeFromCache" kind id owner user)
  | .view kind id owner => .ok ⟨"SetViewToCache",
    [Keys.counter kind id, Keys.achievement owner] ++ rankingKeys kind .view, [toString id, "1"]⟩
  | .collect kind id owner user at? => collectCall "CreateCollectionsCache" kind id owner user at?
  | .cancelCollect kind id owner user =>
    collectCall "CancelCollectionsFromCache" kind id owner user 0
  | .commentAdd pk pid cid author => .ok ⟨"CreateCommentCache",
    [Keys.counter .comment cid, Keys.counter pk pid] ++ rankingKeys pk .comment,
    [toString cid, author, toString d.ttl, toString pid, "1"]⟩
  | .commentRemove pk pid cid => .ok ⟨"DeleteCommentCache",
    [Keys.counter .comment cid, Keys.counter pk pid] ++ rankingKeys pk .comment,
    [toString cid, toString pid, "1"]⟩
  | .follow follower followed => followCall "SetAchievementFollowToCache" follower followed
  | .unfollow follower followed => followCall "CancelAchievementFollowFromCache" follower followed
  | .registerUser uuid =>
    .ok ⟨"CreateUserCache", [Keys.achievement uuid, Keys.contentCounts uuid],
    [toString d.ttl]⟩

/-- The arguments repopulating a record's cached copy: its counters in field order, for content
also the owner and auth flag, and last the lifetime. -/
def recordArgs (d : Dispatcher) (r : CounterRecord) : List String :=
  match r.entity with
  | .content .. => Field.content.map (toString <| r.column ·) ++ [r.owner, r.visibility.authFlag,
    toString d.ttl]
  | .achievement _ => Field.achievement.map (toString <| r.column ·) ++ [toString d.ttl]
  | .contentCounts _ => Field.counts.map (toString <| r.column ·) ++ [toString d.ttl]

/-- The call repopulating a record's cached copy; fields the cache already holds are kept. -/
def rehydrate (d : Dispatcher) (r : CounterRecord) : ScriptCall :=
  let script := match r.entity with
    | .content .. => "RehydrateContentCache"
    | .achievement _ => "RehydrateAchievementCache"
    | .contentCounts _ => "RehydrateCountCache"
  ⟨script, [r.entity.cacheKey], d.recordArgs r⟩

/-- The call overwriting a record's cached copy with its values. -/
def refresh (d : Dispatcher) (r : CounterRecord) : ScriptCall :=
  let script := match r.entity with
    | .content .. => "RefreshContentCache"
    | .achievement _ => "RefreshAchievementCache"
    | .contentCounts _ => "RefreshCountCache"
  ⟨script, [r.entity.cacheKey], d.recordArgs r⟩

/-- One call per ranking view of a ranked content record, each setting the score that the
record's columns imply: the sum of the columns feeding the view, in signed 64-bit arithmetic,
which wraps around. -/
def refreshRankings (r : CounterRecord) : List ScriptCall :=
  match r.entity with
  | .content kind id =>
    if (KindSpec.of kind).ranked then
      rankings.map fun spec =>
        let score := Text.wrapI64 ((spec.fedBy.map fun e => r.column e.field).foldl (· + ·) 0)
        ⟨"RefreshRankingCache", [Keys.counter kind id, Keys.ranking kind spec.suffix],
          [toString id, toString score]⟩
    else []
  | _ => []

end Dispatcher

end CounterCache
