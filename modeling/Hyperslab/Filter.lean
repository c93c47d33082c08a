import Hyperslab.Comparison
import Hyperslab.Name
import Hyperslab.Row
import Hyperslab.Schema

/-!
Filters on the rows of a sequence. The fields of a filter are bound to variables of a schema. Both
operands of a conjunction are always evaluated, so a fault in either shows.
-/

namespace Hyperslab

open Pattern (Regex)

/-- A filter with resolved fields. A conjunction has two operands and a negation one; other numbers
can be written down, and are faults when they are evaluated. -/
inductive Filter where
  | constant (value : Value)
  | field (var : VarId) (name : String)
  /-- A comparison, with the pattern of its right operand where that has been read beforehand. -/
  | compare (op : Operator) (lhs rhs : Filter) (regex : Option Regex)
  | joined (connective : Connective) (operands : List Filter)

namespace Filter

def conj (a b : Filter) : Filter := joined .conj [a, b]

def neg (a : Filter) : Filter := joined .neg [a]

/-- The value of a field in a row. Only atomic variables without dimensions have one. -/
def readField (schema : Schema) (row : Row) (var : VarId) (name : String) :
    Except Fault Value :=
  let v := schema.var var
  if v.isCompound || 0 < v.rank then .error (.notScalar name)
  else
    match row.get? name with
    | some (.scalar value) => .ok value
    | some _ => .error (.notScalar name)
    | none => .error (.missingField name)

/-- A condition has to be true or false. -/
def truth : Value → Except Fault Bool
  | .bool b => .ok b
  | value => .error (.notBoolean value)

def evaluate (schema : Schema) (row : Row) : Filter → Except Fault Value
  | constant value => .ok value
  | field var name => readField schema row var name
  | compare op lhs rhs regex => do
    let left ← lhs.evaluate schema row
    let right ← rhs.evaluate schema row
    return .bool (← left.compareBy op right regex)
  | joined .conj [a, b] => do
    let left ← truth (← a.evaluate schema row)
    let right ← truth (← b.evaluate schema row)
    return .bool (left && right)
  | joined .neg [a] => do
    let value ← truth (← a.evaluate schema row)
    return .bool (!value)
  | joined connective operands => .error (.malformedFilter connective operands.length)

/-- Does the row pass? -/
def accepts (schema : Schema) (row : Row) (filter : Filter) : Except Fault Bool := do
  truth (← filter.evaluate schema row)

mutual

/-- The variables at the leaves, from left to right. -/
def leaves : Filter → List VarId
  | constant _ => []
  | field var _ => [var]
  | compare _ lhs rhs _ => lhs.leaves ++ rhs.leaves
  | joined _ operands => leavesOf operands

def leavesOf : List Filter → List VarId
  | [] => []
  | filter :: rest => filter.leaves ++ leavesOf rest

end

mutual

/-- The variables of `found`, and behind them those at the leaves that are not among them yet, as
they come up. -/
def collectFields : List VarId → Filter → List VarId
  | found, constant _ => found
  | found, field var _ => if var ∈ found then found else found ++ [var]
  | found, compare _ lhs rhs _ => rhs.collectFields (lhs.collectFields found)
  | found, joined _ operands => collectFieldsOf found operands

def collectFieldsOf : List VarId → List Filter → List VarId
  | found, [] => found
  | found, filter :: rest => collectFieldsOf (filter.collectFields found) rest

end

/-- The variables that the filter reads, in the order of their first use. -/
def fields (filter : Filter) : List VarId := filter.collectFields []

def isConjunction : Filter → Bool
  | joined .conj _ => true
  | _ => false

mutual

/-- The filter as a request writes it. Conjunctions are written without parentheses except under a
negation. -/
def chars : Filter → List Char
  | constant value => value.chars
  | field _ name => Name.escape name.toList
  | compare op lhs rhs _ => lhs.chars ++ op.symbol.toList ++ rhs.chars
  | joined .conj operands => conjoinedChars operands
  | joined .neg operands => negatedChars operands

def conjoinedChars : List Filter → List Char
  | [] => []
  | [filter] => filter.chars
  | filter :: rest => filter.chars ++ ',' :: conjoinedChars rest

def negatedChars : List Filter → List Char
  | [] => []
  | filter :: rest =>
    (if filter.isConjunction then '!' :: '(' :: filter.chars ++ [')'] else '!' :: filter.chars) ++
      negatedChars rest

end

/-- The filter as a request writes it. -/
def text (filter : Filter) : String := .ofList filter.chars

end Filter

end Hyperslab
