import CounterCache.Engine.Catalog
import CounterCache.Engine.Status
import CounterCache.Store.Scripted
import CounterCache.Script.Template.Run

/-!
# The store behind the engine

The engine keeps its counters in a store and changes them only through catalog scripts, named
by their template. A script runs in one of two modes: natively, as the template's steps, or as
the template's Lua text. Either way it is one unit of work that commits when it succeeds. Its
answer is an integer status code. `HIncrIfExists` and `HDecrFloor` are the two primitives
every mode offers: add to a hash field of a key that exists, and subtract from one without
going below zero.

The reads (`hashAt`, `fieldAt`, `scoreAt`, `rangeAt`, `memberAt`, `ttlAt`) see the live
keyspace at a time. A key of another type is a type error, and a missing key reads as empty.

Main statements: `runNamed_unknown` says that a name outside the catalog changes nothing, and
`ttlAt_missing` that a missing key has no lifetime left.
-/

namespace CounterCache

/-- How a catalog script runs: as the template's steps, or as its Lua text. -/
inductive ScriptMode where
  | native
  | lua
  deriving DecidableEq, Repr, Inhabited

namespace Keyspace

/-- All fields of the hash at a key; empty when the key is missing. -/
def hashAt (ks : Keyspace) (now : Nat) (k : String) : Except Error (KeyMap String) :=
  (ks.hash? k now).map (·.getD {})

/-- One field of the hash at a key. -/
def fieldAt (ks : Keyspace) (now : Nat) (k f : String) : Except Error (Option String) :=
  (ks.hash? k now).map (·.bind (·.find? f))

/-- The score of a member of the sorted set at a key. -/
def scoreAt (ks : Keyspace) (now : Nat) (k m : String) : Except Error (Option Int) :=
  (ks.sortedSet? k now).map (·.bind (·.score? m))

/-- The number of members of the sorted set at a key. -/
def cardAt (ks : Keyspace) (now : Nat) (k : String) : Except Error Nat :=
  (ks.sortedSet? k now).map fun z => (z.map (·.card)).getD 0

/-- Members of the sorted set at a key from the highest score down, by rank. -/
def rangeAt (ks : Keyspace) (now : Nat) (k : String) (start stop : Int) :
    Except Error (List Scored) :=
  (ks.sortedSet? k now).map fun z => (z.map (·.revRange start stop)).getD []

/-- Whether the set at a key holds a member. -/
def memberAt (ks : Keyspace) (now : Nat) (k m : String) : Except Error Bool :=
  (ks.set? k now).map fun s => (s.map (·.contains m)).getD false

/-- The lifetime left to a key in seconds, rounded to nearest (`roundedSeconds`): `-2` when it
is missing and `-1` when it has no deadline. -/
def ttlAt (ks : Keyspace) (now : Nat) (k : String) : Int :=
  match ks.ttlMillis? k now with
  | none => -2
  | some none => -1
  | some (some ms) => (roundedSeconds ms : Nat)

theorem ttlAt_missing (ks : Keyspace) (now : Nat) (k : String) (h : ks.get? k now = none) :
    ks.ttlAt now k = -2 := by
  simp [ttlAt, ttlMillis?, h]

end Keyspace

namespace Store

/-- The name of the primitive that adds to a field of an existing hash. -/
def incrIfExistsScript : String := "HIncrIfExists"

/-- The name of the primitive that subtracts from a field without going below zero. -/
def decrFloorScript : String := "HDecrFloor"

/-- Runs a catalog script by name in a mode, as one unit of work: its status code. -/
def runNamed (s : Store) (now : Nat) (mode : ScriptMode) (name : String)
    (keys args : List String) : Except Error Int × Store :=
  match Catalog.lookup name with
  | .error e => (.error e, s)
  | .ok t =>
    match mode with
    | .native =>
      let (r, s') := s.atomically now (t.run keys args)
      (r.map (·.1), s')
    | .lua =>
      let (r, s') := s.runTemplateScript now t keys args
      (r.map (·.1), s')

theorem runNamed_unknown (s : Store) (now : Nat) (mode : ScriptMode) (name : String)
    (keys args : List String) (h : Catalog.find? name = none) :
    s.runNamed now mode name keys args =
      (.error (.invalidArgument ("unknown script '" ++ name ++ "'")), s) := by
  simp [runNamed, Catalog.lookup, h]

/-- Runs a catalog script by name and reads its code as a status. -/
def invoke (s : Store) (now : Nat) (mode : ScriptMode) (name : String)
    (keys args : List String) : Except Error Status × Store :=
  let (r, s') := s.runNamed now mode name keys args
  (r.bind Status.ofCode, s')

/-- Adds `delta` to a hash field when the key exists. -/
def incrIfExists (s : Store) (now : Nat) (mode : ScriptMode) (k f : String) (delta : Int) :
    Except Error Status × Store :=
  s.invoke now mode incrIfExistsScript [k] [f, toString delta]

/-- Subtracts `delta` from a hash field when the key exists and the field holds at least
`delta`. -/
def decrFloor (s : Store) (now : Nat) (mode : ScriptMode) (k f : String) (delta : Int) :
    Except Error Status × Store :=
  s.invoke now mode decrFloorScript [k] [f, toString delta]

/-- The Lua text of a catalog script. -/
def scriptSource? (name : String) : Option String :=
  (Catalog.find? name).map (·.render)

end Store

end CounterCache
