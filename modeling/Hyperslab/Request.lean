import Hyperslab.Operator
import Hyperslab.Slice
import Hyperslab.Value

/-!
Requests for part of a dataset. A request resizes shared dimensions and then selects variables,
with slices of them and filters on their rows. Names are not resolved here.
-/

namespace Hyperslab

/-- Give a shared dimension the size of a slice of it. -/
structure Resize where
  name : String
  slice : Slice
  deriving DecidableEq, Repr

/-- Filter expressions as they are written. -/
inductive Expr where
  | constant (value : Value)
  | field (name : String)
  | compare (op : Operator) (lhs rhs : Expr)
  | conj (a b : Expr)
  | neg (a : Expr)

instance : Inhabited Expr := ⟨.constant default⟩

mutual

/-- A variable with slices, then the field of it that is meant, or a list of fields. -/
inductive Selector where
  | mk (name : String) (slices : List Slice) (child : Option Selector) (fields : List Clause)

/-- A selector, and a filter on the rows of the variable at the end of its path. -/
inductive Clause where
  | mk (target : Selector) (filter : Option Expr)

end

instance : Inhabited Selector := ⟨.mk "" [] none []⟩

instance : Inhabited Clause := ⟨.mk default none⟩

namespace Selector

def name : Selector → String
  | mk name _ _ _ => name

def slices : Selector → List Slice
  | mk _ slices _ _ => slices

def child : Selector → Option Selector
  | mk _ _ child _ => child

def fields : Selector → List Clause
  | mk _ _ _ fields => fields

end Selector

namespace Clause

def target : Clause → Selector
  | mk target _ => target

def filter : Clause → Option Expr
  | mk _ filter => filter

end Clause

structure Request where
  resizes : List Resize
  clauses : List Clause

end Hyperslab
