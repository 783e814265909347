import CounterCache.Engine.Keys

/-!
# Counter records of the system of record

The authoritative side of the engine: one `CounterRecord` per content entity, per user
achievement and per user's content counts, and the engagement edges (who agreed with, collected
or follows what). A record's counters are columns that are never negative.
-/

namespace CounterCache

/-- The identity of an authoritative counter record. -/
inductive EntityRef where
  | content (kind : Kind) (id : Nat)
  | achievement (uuid : String)
  | contentCounts (uuid : String)
  deriving DecidableEq, Repr, Inhabited

namespace EntityRef

/-- The key of the record's cached copy. -/
def cacheKey : EntityRef → String
  | .content k id => Keys.counter k id
  | .achievement u => Keys.achievement u
  | .contentCounts u => Keys.contentCounts u

end EntityRef

/-- An authoritative counter record. -/
structure CounterRecord where
  entity : EntityRef
  /-- Owner of content; the user itself for per-user records. -/
  owner : String
  visibility : Visibility := .visible
  /-- Counter columns by name. -/
  columns : KeyMap Int := {}
  /-- Soft-delete flag. -/
  deleted : Bool := false
  /-- The entity a comment belongs to. -/
  parent : Option EntityRef := none
  deriving DecidableEq, Repr, Inhabited

namespace CounterRecord

/-- Columns of the given names, all zero. -/
def zeroed (names : List String) : KeyMap Int := KeyMap.ofList (names.map (·, 0))

/-- A fresh content record with zero counters. -/
def content (kind : Kind) (id : Nat) (owner : String) (vis : Visibility) : CounterRecord :=
  { entity := .content kind id, owner, visibility := vis, columns := zeroed Field.content }

/-- A fresh comment record attached to a parent entity. -/
def comment (id : Nat) (author : String) (parent : EntityRef) : CounterRecord :=
  { content .comment id author .visible with parent := some parent }

/-- A fresh achievement record. -/
def achievement (uuid : String) : CounterRecord :=
  { entity := .achievement uuid, owner := uuid, columns := zeroed Field.achievement }

/-- A fresh content-counts record. -/
def contentCounts (uuid : String) : CounterRecord :=
  { entity := .contentCounts uuid, owner := uuid, columns := zeroed Field.counts }

/-- A column's value, zero when absent. -/
def column (r : CounterRecord) (name : String) : Int := (r.columns.find? name).getD 0

end CounterRecord

/-- The relation an edge records. -/
inductive Relation where
  | agree
  | collect
  | follow
  deriving DecidableEq, Repr, Inhabited

/-- A toggled engagement: `user` holds `relation` towards `target`. A toggle moves counters only
when it flips its edge, which makes toggles idempotent. -/
structure Edge where
  relation : Relation
  user : String
  /-- Content for agree and collect; the followed user's achievement for follow. -/
  target : EntityRef
  deriving DecidableEq, Repr, Inhabited

namespace Edge

/-- `user` agrees with a content entity. -/
def agree (user : String) (kind : Kind) (id : Nat) : Edge := ⟨.agree, user, .content kind id⟩

/-- `user` collected a content entity. -/
def collect (user : String) (kind : Kind) (id : Nat) : Edge :=
  ⟨.collect, user, .content kind id⟩

/-- `follower` follows `followed`. -/
def follow (follower followed : String) : Edge := ⟨.follow, follower, .achievement followed⟩

end Edge

/-- Views of a record as the counter views read from the cache. -/
def ContentCounters.ofRecord (r : CounterRecord) : ContentCounters :=
  { agree := r.column Field.agree, view := r.column Field.view, collect := r.column Field.collect,
    comment := r.column Field.comment, owner := r.owner, visibility := r.visibility }

/-- The achievement view of a record. -/
def UserAchievement.ofRecord (r : CounterRecord) : UserAchievement :=
  { agree := r.column Field.agree, view := r.column Field.view, collect := r.column Field.collect,
    follow := r.column Field.follow, followed := r.column Field.followed,
    score := r.column Field.score }

/-- The content-counts view of a record. -/
def UserContentCounts.ofRecord (r : CounterRecord) : UserContentCounts :=
  { article := r.column "article", articleVisit := r.column "article_visit",
    column := r.column "column", columnVisit := r.column "column_visit",
    talk := r.column "talk", talkVisit := r.column "talk_visit" }

end CounterCache
