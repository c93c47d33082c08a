/-!
Comparison operators, their spelling, and what becomes of them when the operands change places.
-/

namespace Hyperslab

/-- The six orders and equalities, and `like`, which matches the left operand against the right one
as a pattern. -/
inductive Operator where
  | lt
  | le
  | gt
  | ge
  | eq
  | ne
  | like
  deriving DecidableEq, Repr

namespace Operator

def symbol : Operator → String
  | lt => "<"
  | le => "<="
  | gt => ">"
  | ge => ">="
  | eq => "=="
  | ne => "!="
  | like => "~="

/-- The operator for swapped operands. A pattern match has none, and stays as it is. -/
def flipped : Operator → Operator
  | lt => gt
  | gt => lt
  | le => ge
  | ge => le
  | eq => eq
  | ne => ne
  | like => like

/-- Is the operator one of the four that a range may use? -/
def isOrder : Operator → Bool
  | lt | le | gt | ge => true
  | eq | ne | like => false

/-- Does the operator hold of operands that are ordered in this way? Operands that have no order
are unequal and nothing else. -/
def admits : Operator → Option Ordering → Bool
  | ne, none => true
  | _, none => false
  | lt, some o => o.isLT
  | le, some o => o.isLE
  | gt, some o => o.isGT
  | ge, some o => o.isGE
  | eq, some o => o.isEq
  | ne, some o => o.isNe
  | like, some _ => false

theorem admits_flipped (op : Operator) (o : Option Ordering) :
    op.flipped.admits (o.map Ordering.swap) = op.admits o := by
  cases op <;> cases o <;> try rfl
  all_goals rename_i o; cases o <;> rfl

end Operator

end Hyperslab
