import CounterCache.Engine.Model
import CounterCache.Script.Template

/-!
# The script catalog

Every cache mutation of the engine is one of these templates, run atomically by the store.
Statuses: `0` applied, `1` nothing to do (a marker already in the requested state, or a
decrement held at the floor), `2` the primary counter record is not cached.
-/

namespace CounterCache

namespace Catalog

open Step

/-- Key slot `i`. -/
def k (i : Nat) : KeySlot := .slot i

/-- Argument `i`. -/
def a (i : Nat) : Operand := .arg i

/-- A literal text operand. -/
def lit (s : String) : Operand := .lit s

/-- Sets a named field only where it is absent. -/
def setIfAbsent (key : Nat) (name : String) (value : Operand) : Step :=
  .hsetnx (k key) (lit name) value

/-- Adds to a named field of an existing hash. -/
def incr (key : Nat) (name : String) (delta : Operand) : Step :=
  .hincrIfExists (k key) (lit name) delta

/-- Subtracts from a named field of an existing hash, down to the floor. -/
def decr (key : Nat) (name : String) (delta : Operand) : Step :=
  .hdecrFloor (k key) (lit name) delta

/-- Moves a member's score in every ranking key from slot `first` on, where it is ranked. -/
def rankingsIncr (first : Nat) (member delta : Operand) : Step :=
  .forEachKey first [.zincrIfMember .current member delta]

/-- Lowers a member's score in every ranking key from slot `first` on, down to the floor. -/
def rankingsDecr (first : Nat) (member delta : Operand) : Step :=
  .forEachKey first [.zdecrFloor .current member delta]

/-- Zero counters, set only where absent. -/
def initFields (key : Nat) (names : List String) : List Step :=
  names.map fun n => setIfAbsent key n (lit "0")

/-- Existence-gated hash increment. -/
def hincrIfExists : Template where
  name := "HIncrIfExists"
  keys := ["hash"]
  variadicKeys := false
  args := ["field", "delta"]
  steps := [.when (.absent (k 0)) [.ret 2], .hincrIfExists (k 0) (a 0) (a 1)]

/-- Existence-gated, floor-guarded hash decrement. -/
def hdecrFloor : Template where
  name := "HDecrFloor"
  keys := ["hash"]
  variadicKeys := false
  args := ["field", "delta"]
  steps := [.when (.absent (k 0)) [.ret 2], .hdecrFloor (k 0) (a 0) (a 1),
    .when .unchanged [.ret 1]]

/-- Content creation and republish fan-out. Keys: counter, owner index, visit index,
chronological, user counts, rankings. Arguments: id, owner, auth, mode, ttl, kind, score. -/
def createContent (name : String) : Template :=
  let create := initFields 0 Field.content ++ [
    setIfAbsent 0 Field.uuid (a 1),
    .hset (k 0) (lit Field.auth) (a 2),
    .expire (k 0) (a 4),
    .zadd (k 1) (a 0) (a 6) false,
    .when .changed [.hincrIfExists (k 4) (a 5) (.int 1)],
    .forEachKey 5 [.zadd .current (a 0) (.int 0) true]]
  let republish := [
    .when (.present (k 0)) [.hset (k 0) (lit Field.auth) (a 2), .expire (k 0) (a 4)],
    .when (.absent (k 0)) [.setStatus 2]]
  let visitField := Operand.argSuffix 5 Field.visitSuffix
  { name
    keys := ["counter", "owner index", "visit index", "chronological", "user counts"]
    variadicKeys := true
    args := ["id", "owner uuid", "auth", "mode", "ttl", "kind", "score"]
    steps := [
      .when (.argEq 3 "create") create,
      .when (.argEq 3 "republish") republish,
      .when (.argEq 2 "0") [
        .zadd (k 2) (a 0) (a 6) false,
        .when .changed [.hincrIfExists (k 4) visitField (.int 1)],
        .zadd (k 3) (a 0) (a 6) false],
      .when (.argEq 2 "1") [
        .zrem (k 2) (a 0),
        .when .changed [.hdecrFloor (k 4) visitField (.int 1)],
        .zrem (k 3) (a 0)]] }

/-- Content deletion fan-out. Keys as for creation; arguments: id, auth, kind. -/
def deleteContent (name : String) : Template where
  name := name
  keys := ["counter", "owner index", "visit index", "chronological", "user counts"]
  variadicKeys := true
  args := ["id", "auth", "kind"]
  steps := [
    .del (k 0),
    .zrem (k 1) (a 0),
    .when .changed [.hdecrFloor (k 4) (a 2) (.int 1)],
    .forEachKey 5 [.zrem .current (a 0)],
    .when (.argEq 1 "0") [
      .zrem (k 2) (a 0),
      .when .changed [.hdecrFloor (k 4) (.argSuffix 2 Field.visitSuffix) (.int 1)],
      .zrem (k 3) (a 0)]]

/-- Comment creation, bumping the parent's comment count. -/
def createComment : Template where
  name := "CreateCommentCache"
  keys := ["comment counter", "parent counter"]
  variadicKeys := true
  args := ["comment id", "author uuid", "ttl", "parent id", "delta"]
  steps := [setIfAbsent 0 Field.agree (lit "0"), .when .unchanged [.ret 1]] ++
    initFields 0 [Field.view, Field.collect, Field.comment] ++ [
    setIfAbsent 0 Field.uuid (a 1),
    .hset (k 0) (lit Field.auth) (lit "0"),
    .expire (k 0) (a 2),
    incr 1 Field.comment (a 4),
    .when .unchanged [.setStatus 2],
    rankingsIncr 2 (a 3) (a 4)]

/-- Comment deletion, dropping the parent's comment count. -/
def deleteComment : Template where
  name := "DeleteCommentCache"
  keys := ["comment counter", "parent counter"]
  variadicKeys := true
  args := ["comment id", "parent id", "delta"]
  steps := [.del (k 0), .when (.absent (k 1)) [.setStatus 2], decr 1 Field.comment (a 2),
    rankingsDecr 2 (a 1) (a 2)]

/-- Agree toggle on. -/
def setAgree : Template where
  name := "SetAgreeToCache"
  keys := ["counter", "achievement", "marker"]
  variadicKeys := true
  args := ["id", "delta"]
  steps := [.sadd (k 2) (a 0), .when .unchanged [.ret 1], incr 0 Field.agree (a 1),
    .when .unchanged [.setStatus 2], incr 1 Field.agree (a 1), incr 1 Field.score (a 1),
    rankingsIncr 3 (a 0) (a 1)]

/-- Agree toggle off. -/
def cancelAgree : Template where
  name := "CancelAgreeFromCache"
  keys := ["counter", "achievement", "marker"]
  variadicKeys := true
  args := ["id", "delta"]
  steps := [.srem (k 2) (a 0), .when .unchanged [.ret 1], .when (.absent (k 0)) [.setStatus 2],
    decr 0 Field.agree (a 1), decr 1 Field.agree (a 1), decr 1 Field.score (a 1),
    rankingsDecr 3 (a 0) (a 1)]

/-- View increment. -/
def setView : Template where
  name := "SetViewToCache"
  keys := ["counter", "achievement"]
  variadicKeys := true
  args := ["id", "delta"]
  steps := [incr 0 Field.view (a 1), .when .unchanged [.setStatus 2], incr 1 Field.view (a 1),
    rankingsIncr 2 (a 0) (a 1)]

/-- Collect toggle on. -/
def createCollection : Template where
  name := "CreateCollectionsCache"
  keys := ["counter", "achievement", "marker", "collections"]
  variadicKeys := true
  args := ["id", "delta", "timestamp"]
  steps := [.zadd (k 3) (a 0) (a 2) false, .sadd (k 2) (a 0), .when .unchanged [.ret 1],
    incr 0 Field.collect (a 1), .when .unchanged [.setStatus 2], incr 1 Field.collect (a 1),
    incr 1 Field.score (a 1), rankingsIncr 4 (a 0) (a 1)]

/-- Collect toggle off. -/
def cancelCollection : Template where
  name := "CancelCollectionsFromCache"
  keys := ["counter", "achievement", "marker", "collections"]
  variadicKeys := true
  args := ["id", "delta", "timestamp"]
  steps := [.zrem (k 3) (a 0), .srem (k 2) (a 0), .when .unchanged [.ret 1],
    .when (.absent (k 0)) [.setStatus 2], decr 0 Field.collect (a 1), decr 1 Field.collect (a 1),
    decr 1 Field.score (a 1), rankingsDecr 4 (a 0) (a 1)]

/-- Parent comment-count increment. -/
def setComment : Template where
  name := "SetCommentToCache"
  keys := ["counter"]
  variadicKeys := true
  args := ["id", "delta"]
  steps := [.when (.absent (k 0)) [.ret 2], incr 0 Field.comment (a 1),
    rankingsIncr 1 (a 0) (a 1)]

/-- Parent comment-count decrement. -/
def cancelComment : Template where
  name := "CancelCommentFromCache"
  keys := ["counter"]
  variadicKeys := true
  args := ["id", "delta"]
  steps := [.when (.absent (k 0)) [.ret 2], decr 0 Field.comment (a 1),
    .when .unchanged [.ret 1], rankingsDecr 1 (a 0) (a 1)]

/-- Follow toggle on: both mirrored counters change in the same script or not at all. -/
def setFollow : Template where
  name := "SetAchievementFollowToCache"
  keys := ["followed achievement", "follower achievement", "following marker"]
  variadicKeys := false
  args := ["followed uuid", "delta"]
  steps := [.sadd (k 2) (a 0), .when .unchanged [.ret 1], .when (.absent (k 0)) [.setStatus 2],
    .when (.absent (k 1)) [.setStatus 2], incr 0 Field.followed (a 1), incr 1 Field.follow (a 1)]

/-- Follow toggle off. -/
def cancelFollow : Template where
  name := "CancelAchievementFollowFromCache"
  keys := ["followed achievement", "follower achievement", "following marker"]
  variadicKeys := false
  args := ["followed uuid", "delta"]
  steps := [.srem (k 2) (a 0), .when .unchanged [.ret 1], .when (.absent (k 0)) [.setStatus 2],
    .when (.absent (k 1)) [.setStatus 2], decr 0 Field.followed (a 1), decr 1 Field.follow (a 1)]

/-- A new user's achievement and content counts. -/
def createUser : Template where
  name := "CreateUserCache"
  keys := ["achievement", "user counts"]
  variadicKeys := false
  args := ["ttl"]
  steps := initFields 0 Field.achievement ++ [.expire (k 0) (a 0)] ++
    initFields 1 Field.counts ++ [.expire (k 1) (a 0)]

/-- Argument names of content repopulation: the counters, owner, auth flag and ttl. -/
def contentRecordArgs : List String :=
  ["agree", "view", "collect", "comment", "uuid", "auth", "ttl"]

/-- Argument names of achievement repopulation. -/
def achievementRecordArgs : List String :=
  ["agree", "view", "collect", "follow", "followed", "score", "ttl"]

/-- Argument names of content-counts repopulation. -/
def countsRecordArgs : List String :=
  ["article", "article_visit", "column", "column_visit", "talk", "talk_visit", "ttl"]

/-- One set-if-absent per field named by the arguments, then a fresh lifetime from the last
argument. -/
def rehydrate (name : String) (keys args : List String) : Template where
  name := name
  keys := keys
  variadicKeys := false
  args := args
  steps := (args.dropLast.zipIdx.map fun (f, i) => setIfAbsent 0 f (a i)) ++
    [.expire (k 0) (a (args.length - 1))]

/-- As `rehydrate`, but every field is overwritten. -/
def refresh (name : String) (keys args : List String) : Template where
  name := name
  keys := keys
  variadicKeys := false
  args := args
  steps := (args.dropLast.zipIdx.map fun (f, i) => Step.hset (k 0) (lit f) (a i)) ++
    [.expire (k 0) (a (args.length - 1))]

/-- A ranking score overwrite for a member already ranked; deleted entities have no counter and
are never ranked again. -/
def refreshRanking : Template where
  name := "RefreshRankingCache"
  keys := ["counter", "ranking"]
  variadicKeys := false
  args := ["id", "score"]
  steps := [.when (.absent (k 0)) [.ret 2], .zrem (k 1) (a 0),
    .when .changed [.zadd (k 1) (a 0) (a 1) false]]

/-- Every template of the catalog. -/
def all : List Template := [
  hincrIfExists, hdecrFloor,
  createContent "CreateArticleCache", createContent "CreateColumnCache",
  createContent "CreateTalkCache", createComment,
  deleteContent "DeleteArticleCache", deleteContent "DeleteColumnCache",
  deleteContent "DeleteTalkCache", deleteComment,
  setAgree, cancelAgree, setView, createCollection, cancelCollection, setComment, cancelComment,
  setFollow, cancelFollow, createUser,
  rehydrate "RehydrateContentCache" ["counter"] contentRecordArgs,
  rehydrate "RehydrateAchievementCache" ["achievement"] achievementRecordArgs,
  rehydrate "RehydrateCountCache" ["user counts"] countsRecordArgs,
  refresh "RefreshContentCache" ["counter"] contentRecordArgs,
  refresh "RefreshAchievementCache" ["achievement"] achievementRecordArgs,
  refresh "RefreshCountCache" ["user counts"] countsRecordArgs,
  refreshRanking]

/-- Looks a template up by name. -/
def find? (name : String) : Option Template := all.find? (·.name == name)

/-- Looks a template up by name; an unknown name is an invalid argument. -/
def lookup (name : String) : Except Error Template :=
  match find? name with
  | some t => .ok t
  | none => .error (.invalidArgument ("unknown script '" ++ name ++ "'"))

/-- Names of all templates in code-point order. -/
def names : List String := (all.map (·.name)).mergeSort (fun x y => decide (x ≤ y))

theorem all_length : all.length = 27 := rfl

end Catalog

end CounterCache
