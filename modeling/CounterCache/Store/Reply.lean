import CounterCache.Text.Decimal

/-!
# Replies

What a command answers: nothing, an integer, a bulk string, a status line or a list of replies.
`Reply.display` is the text a console shows for a reply.
-/

namespace CounterCache

/-- A command's answer. -/
inductive Reply where
  | nil
  | int (n : Int)
  | bulk (s : String)
  | status (s : String)
  | array (items : List Reply)
  deriving Repr, Inhabited

namespace Reply

/-- The status reply of a successful write. -/
def ok : Reply := .status "OK"

mutual
/-- Console text: `(nil)`, `(integer) n`, a quoted bulk string, a bare status line, and
bracketed lists separated by `", "`. -/
def display : Reply → String
  | .nil => "(nil)"
  | .int n => "(integer) " ++ toString n
  | .bulk s => "\"" ++ s ++ "\""
  | .status s => s
  | .array items => "[" ++ displayItems items ++ "]"

/-- Console text of list items. -/
def displayItems : List Reply → String
  | [] => ""
  | [r] => display r
  | r :: rest => display r ++ ", " ++ displayItems rest
end

/-- The reply as an integer: an integer reply, or a bulk string that reads as a signed 64-bit
integer with no blanks. -/
def asInt? : Reply → Option Int
  | .int n => some n
  | .bulk s => Text.parseI64? s
  | _ => none

/-- The text of a bulk or status reply. -/
def asStr? : Reply → Option String
  | .bulk s | .status s => some s
  | _ => none

/-- The reply is `nil`. -/
def isNil : Reply → Bool
  | .nil => true
  | _ => false

mutual
/-- Structural equality of replies. -/
def beq : Reply → Reply → Bool
  | .nil, .nil => true
  | .int a, .int b => a == b
  | .bulk a, .bulk b => a == b
  | .status a, .status b => a == b
  | .array a, .array b => beqItems a b
  | _, _ => false

/-- Structural equality of reply lists. -/
def beqItems : List Reply → List Reply → Bool
  | [], [] => true
  | a :: as, b :: bs => beq a b && beqItems as bs
  | _, _ => false
end

instance : BEq Reply := ⟨beq⟩

theorem display_int (n : Int) : (Reply.int n).display = "(integer) " ++ toString n := by
  simp [display]

end Reply

end CounterCache
