/-!
# Arithmetic and bitwise operators

The binary operators that work on numbers, in the order Lua numbers them: the arithmetic ones
`+ - * % ^ / //` and the bitwise ones `& | ~ << >>`. Instructions name them by this order, and
so do the metamethod events `__add` … `__shr`.
-/

namespace CounterCache.Lua

/-- The arithmetic and bitwise operators, in the order of their operations and metamethod
events. -/
inductive ArithOp where
  | add | sub | mul | mod | pow | div | idiv | band | bor | bxor | shl | shr
  deriving DecidableEq, Repr, Inhabited

namespace ArithOp

/-- The operators in order. -/
def all : Array ArithOp := #[.add, .sub, .mul, .mod, .pow, .div, .idiv, .band, .bor, .bxor, .shl, .shr]

/-- The position of an operator in the order. -/
def index : ArithOp → Nat
  | .add => 0 | .sub => 1 | .mul => 2 | .mod => 3 | .pow => 4 | .div => 5 | .idiv => 6
  | .band => 7 | .bor => 8 | .bxor => 9 | .shl => 10 | .shr => 11

/-- The operator at a position. -/
def ofIndex (n : Nat) : ArithOp := all.getD n .add

/-- The operator works on integers only. -/
def isBitwise : ArithOp → Bool
  | .band | .bor | .bxor | .shl | .shr => true
  | _ => false

/-- The name of the operator's metamethod event, without its leading underscores. -/
def event : ArithOp → String
  | .add => "add" | .sub => "sub" | .mul => "mul" | .mod => "mod" | .pow => "pow"
  | .div => "div" | .idiv => "idiv" | .band => "band" | .bor => "bor" | .bxor => "bxor"
  | .shl => "shl" | .shr => "shr"

theorem ofIndex_index (op : ArithOp) : ofIndex op.index = op := by
  cases op <;> rfl

end ArithOp

end CounterCache.Lua
