import CounterCache.Engine.Model

/-!
# Key layout

Where each engagement record lives in the store:

```text
{kind}:{id}                       counter hash
{kind}                            chronological index
{kind}:{view}                     ranking view (hot, leaderboard)
user:{uuid}:{kind}                owner-visible index
user:{uuid}:{kind}:visit          visitor-visible index
user:{uuid}:achievement           achievement hash
user:{uuid}:count                 per-kind content counts
user:{uuid}:agree:{kind}          agree marker set
user:{uuid}:collect:{kind}        collect marker set
user:{uuid}:collections:{kind}    collected entities by time
user:{uuid}:following             follow marker set
```
-/

namespace CounterCache

namespace Keys

/-- The counter hash of a content entity. -/
def counter (k : Kind) (id : Nat) : String := k.name ++ ":" ++ toString id

/-- The chronological index of a kind. -/
def chronological (k : Kind) : String := k.name

/-- A ranking view of a kind. -/
def ranking (k : Kind) (view : String) : String := k.name ++ ":" ++ view

/-- The owner-visible index of a user's content of a kind. -/
def ownerIndex (uuid : String) (k : Kind) : String := "user:" ++ uuid ++ ":" ++ k.name

/-- The visitor-visible index of a user's content of a kind. -/
def visitIndex (uuid : String) (k : Kind) : String :=
  "user:" ++ uuid ++ ":" ++ k.name ++ ":visit"

/-- A user's achievement hash. -/
def achievement (uuid : String) : String := "user:" ++ uuid ++ ":achievement"

/-- A user's content-counts hash. -/
def contentCounts (uuid : String) : String := "user:" ++ uuid ++ ":count"

/-- The set of a user's agreed content of a kind. -/
def agreeMarker (uuid : String) (k : Kind) : String := "user:" ++ uuid ++ ":agree:" ++ k.name

/-- The set of a user's collected content of a kind. -/
def collectMarker (uuid : String) (k : Kind) : String :=
  "user:" ++ uuid ++ ":collect:" ++ k.name

/-- A user's collected content of a kind, scored by collection time. -/
def collections (uuid : String) (k : Kind) : String :=
  "user:" ++ uuid ++ ":collections:" ++ k.name

/-- The set of users a user follows. -/
def following (uuid : String) : String := "user:" ++ uuid ++ ":following"

end Keys

end CounterCache
