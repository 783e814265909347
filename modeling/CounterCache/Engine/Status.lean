import CounterCache.Error

/-!
# Script statuses

The codes a catalog script answers: `0` applied, `1` nothing to do, `2` the primary counter
record is not cached. Any other code is a script error.
-/

namespace CounterCache

/-- The outcome code of a catalog script. -/
inductive Status where
  /-- The mutation was applied. -/
  | applied
  /-- Nothing to do: a marker already in the requested state, or a decrement at the floor. -/
  | noOp
  /-- The primary counter record is not cached. -/
  | missing
  deriving DecidableEq, Repr, Inhabited

namespace Status

/-- Reads a script's answer. -/
def ofCode : Int → Except Error Status
  | 0 => .ok .applied
  | 1 => .ok .noOp
  | 2 => .ok .missing
  | other => .error (.script ("unexpected script status " ++ toString other))

/-- The wire code. -/
def code : Status → Int
  | .applied => 0
  | .noOp => 1
  | .missing => 2

/-- The status's name in tables. -/
def title : Status → String
  | .applied => "Applied"
  | .noOp => "NoOp"
  | .missing => "Missing"

theorem ofCode_code (s : Status) : ofCode s.code = .ok s := by
  cases s <;> rfl

end Status

end CounterCache
