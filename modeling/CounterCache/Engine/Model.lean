import CounterCache.Data.KeyMap
import CounterCache.Error
import CounterCache.Text.Decimal

/-!
# Engagement entities

Kinds of content, their visibility, the kinds of engagement that move counters, and the field
names of the counter hashes. The counter views (`ContentCounters`, `UserAchievement`,
`UserContentCounts`) are read back from a cached hash with `ofFields`, where an absent counter
reads as 0 and a present one must be a signed 64-bit decimal.
-/

namespace CounterCache

/-- A kind of content. -/
inductive Kind where
  | article
  | column
  | talk
  | comment
  deriving DecidableEq, Repr, Inhabited

namespace Kind

/-- Every kind, in table order. -/
def all : List Kind := [.article, .column, .talk, .comment]

/-- The kind's name in keys and arguments. -/
def name : Kind → String
  | .article => "article"
  | .column => "column"
  | .talk => "talk"
  | .comment => "comment"

/-- The kind's name in records: capitalised. -/
def title : Kind → String
  | .article => "Article"
  | .column => "Column"
  | .talk => "Talk"
  | .comment => "Comment"

/-- Reads a kind from its exact lower-case name. -/
def parse (s : String) : Except Error Kind :=
  match all.find? (·.name == s) with
  | some k => .ok k
  | none => .error (.invalidArgument ("unknown kind '" ++ s ++ "'"))

theorem parse_name (k : Kind) : parse k.name = .ok k := by
  cases k <;> rfl

end Kind

/-- Whether content is shown to visitors. -/
inductive Visibility where
  /-- Public: shown to visitors. -/
  | visible
  /-- Private: shown to its owner only. -/
  | hidden
  deriving DecidableEq, Repr, Inhabited

namespace Visibility

/-- The flag stored in a counter hash's `auth` field: `0` public, `1` private. -/
def authFlag : Visibility → String
  | .visible => "0"
  | .hidden => "1"

/-- The visibility's name in records. -/
def title : Visibility → String
  | .visible => "Public"
  | .hidden => "Private"

/-- Reads an `auth` flag. -/
def ofAuthFlag (flag : String) : Except Error Visibility :=
  match flag with
  | "0" => .ok .visible
  | "1" => .ok .hidden
  | other => .error (.invalidArgument ("invalid auth flag '" ++ other ++ "'"))

theorem ofAuthFlag_authFlag (v : Visibility) : ofAuthFlag v.authFlag = .ok v := by
  cases v <;> rfl

end Visibility

/-- A kind of engagement. -/
inductive Engagement where
  | agree
  | view
  | collect
  | comment
  deriving DecidableEq, Repr, Inhabited

namespace Engagement

/-- Every engagement, in table order. -/
def all : List Engagement := [.agree, .view, .collect, .comment]

/-- The counter field an engagement moves. -/
def field : Engagement → String
  | .agree => "agree"
  | .view => "view"
  | .collect => "collect"
  | .comment => "comment"

/-- The engagement's name in tables: capitalised. -/
def title : Engagement → String
  | .agree => "Agree"
  | .view => "View"
  | .collect => "Collect"
  | .comment => "Comment"

end Engagement

/-! Field names of the counter hashes. -/
namespace Field

def agree : String := "agree"
def view : String := "view"
def collect : String := "collect"
def comment : String := "comment"
def follow : String := "follow"
def followed : String := "followed"
def auth : String := "auth"
def uuid : String := "uuid"
def score : String := "score"

/-- Counters of a content hash. -/
def content : List String := [agree, view, collect, comment]

/-- Counters of a user's achievement hash. -/
def achievement : List String := [agree, view, collect, follow, followed, score]

/-- Counters of a user's content-counts hash: per kind, all and visible. -/
def counts : List String :=
  ["article", "article_visit", "column", "column_visit", "talk", "talk_visit"]

/-- The suffix of a kind's visible-content counter. -/
def visitSuffix : String := "_visit"

end Field

/-- Reads a counter field: 0 when absent, else a signed 64-bit decimal with no blanks. -/
def counterField (fields : KeyMap String) (name : String) : Except Error Int :=
  match fields.find? name with
  | none => .ok 0
  | some v => match Text.parseI64? v with
    | some n => .ok n
    | none => .error (.notInteger (name ++ "=" ++ v))

/-- The counters of a content entity, with its owner and visibility. -/
structure ContentCounters where
  agree : Int := 0
  view : Int := 0
  collect : Int := 0
  comment : Int := 0
  owner : String := ""
  visibility : Visibility := .visible
  deriving DecidableEq, Repr, Inhabited

/-- Reads content counters from a cached hash; the counters in field order, then the owner
(empty when absent) and the visibility (public when absent). -/
def ContentCounters.ofFields (fields : KeyMap String) : Except Error ContentCounters := do
  let agree ← counterField fields Field.agree
  let view ← counterField fields Field.view
  let collect ← counterField fields Field.collect
  let comment ← counterField fields Field.comment
  let visibility ← match fields.find? Field.auth with
    | some flag => Visibility.ofAuthFlag flag
    | none => pure .visible
  pure { agree, view, collect, comment, owner := (fields.find? Field.uuid).getD "", visibility }

/-- A user's achievement counters. -/
structure UserAchievement where
  agree : Int := 0
  view : Int := 0
  collect : Int := 0
  follow : Int := 0
  followed : Int := 0
  score : Int := 0
  deriving DecidableEq, Repr, Inhabited

/-- Reads achievement counters from a cached hash, in field order. -/
def UserAchievement.ofFields (fields : KeyMap String) : Except Error UserAchievement := do
  let agree ← counterField fields Field.agree
  let view ← counterField fields Field.view
  let collect ← counterField fields Field.collect
  let follow ← counterField fields Field.follow
  let followed ← counterField fields Field.followed
  let score ← counterField fields Field.score
  pure { agree, view, collect, follow, followed, score }

/-- A user's content counts: per kind, all content and the visible part. -/
structure UserContentCounts where
  article : Int := 0
  articleVisit : Int := 0
  column : Int := 0
  columnVisit : Int := 0
  talk : Int := 0
  talkVisit : Int := 0
  deriving DecidableEq, Repr, Inhabited

/-- Reads content counts from a cached hash, in field order. -/
def UserContentCounts.ofFields (fields : KeyMap String) : Except Error UserContentCounts := do
  let article ← counterField fields "article"
  let articleVisit ← counterField fields "article_visit"
  let column ← counterField fields "column"
  let columnVisit ← counterField fields "column_visit"
  let talk ← counterField fields "talk"
  let talkVisit ← counterField fields "talk_visit"
  pure { article, articleVisit, column, columnVisit, talk, talkVisit }

end CounterCache
