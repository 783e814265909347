import CounterCache.Error

/-!
# Lifecycle of a cached counter record

```text
Absent ──create/rehydrate──▶ Created ──mutate──▶ Active
                                │                  │
                                └──────expire──────┴──▶ Expired ──rehydrate──▶ Created
Created | Active | Expired ──delete──▶ Deleted ──create──▶ Created
```

Mutations of uncached records are existence-gated no-ops, so `mutate` leaves `absent`,
`expired` and `deleted` as they are. `RecordState.step` rejects the three illegal moves.
-/

namespace CounterCache

/-- The observed state of a counter record. -/
inductive RecordState where
  | absent
  | created
  | active
  | expired
  | deleted
  deriving DecidableEq, Repr, Inhabited

/-- An event that moves a record between states. -/
inductive Transition where
  | create
  | mutate
  | expire
  | rehydrate
  | delete
  deriving DecidableEq, Repr, Inhabited

namespace RecordState

/-- The state's name in messages. -/
def display : RecordState → String
  | .absent => "absent"
  | .created => "created"
  | .active => "active"
  | .expired => "expired"
  | .deleted => "deleted"

/-- The state's name in tables: capitalised. -/
def title : RecordState → String
  | .absent => "Absent"
  | .created => "Created"
  | .active => "Active"
  | .expired => "Expired"
  | .deleted => "Deleted"

/-- The record has a live cached copy. -/
def isCached : RecordState → Bool
  | .created | .active => true
  | _ => false

/-- Applies a transition. -/
def step : RecordState → Transition → Except Error RecordState
  | .absent, .create | .deleted, .create => .ok .created
  | .absent, .rehydrate | .expired, .rehydrate | .created, .rehydrate => .ok .created
  | .active, .rehydrate => .ok .active
  | .created, .mutate | .active, .mutate => .ok .active
  | s@.absent, .mutate | s@.expired, .mutate | s@.deleted, .mutate => .ok s
  | .created, .expire | .active, .expire | .expired, .expire => .ok .expired
  | s@.absent, .expire | s@.deleted, .expire => .ok s
  | .created, .delete | .active, .delete | .expired, .delete | .deleted, .delete => .ok .deleted
  | s, .create => .error (.invalidState ("cannot create: record is " ++ s.display))
  | .deleted, .rehydrate => .error (.invalidState "cannot rehydrate a deleted record")
  | .absent, .delete => .error (.invalidState "cannot delete an absent record")

theorem step_delete_of_ne_absent (s : RecordState) (h : s ≠ .absent) :
    s.step .delete = .ok .deleted := by
  cases s <;> simp_all [step]

end RecordState

end CounterCache
