import Hyperslab.Limits
import Hyperslab.Request
import Hyperslab.Request.Grammar
import Hyperslab.View.Edit

/-!
From a request to a finished view. Names are resolved in a schema, and the edits that the request
stands for are made in the order in which it is written. The first fault ends it.
-/

namespace Hyperslab

namespace Schema

/-- The one variable that a name stands for: a top-level variable, or in a compound its field. -/
def resolve (schema : Schema) (scope : Option VarId) (name : String) : Except Fault VarId :=
  match scope with
  | none =>
    match schema.findVars name with
    | [v] => .ok v
    | [] => .error (.undefinedName name)
    | found => .error (.ambiguousName name found.length)
  | some c =>
    if (schema.var c).isCompound then
      match schema.field? c name with
      | some v => .ok v
      | none => .error (.noSuchField (schema.varName c) name)
    else .error (.notCompound (schema.varName c) name)

/-- The leaf of a filter for a field of the sequence. Only scalars can be read. -/
def filterField (schema : Schema) (sequence : VarId) (name : String) : Except Fault Filter :=
  let illegal := Fault.filterField (schema.varName sequence) name
  match schema.field? sequence name with
  | none => .error (illegal .missing)
  | some v =>
    let var := schema.var v
    if var.isCompound then .error (illegal .notAtomic)
    else if 0 < var.rank then .error (illegal .notScalar)
    else .ok (.field v var.name)

end Schema

namespace Filter

def isField : Filter → Bool
  | field _ _ => true
  | _ => false

/-- A comparison with a field on its left, if one operand is a field. A pattern that is written as
a string is read here. -/
def oriented (limits : Limits) (op : Operator) (lhs rhs : Filter) : Except Fault Filter :=
  let swap := !lhs.isField && rhs.isField
  let left := if swap then rhs else lhs
  let right := if swap then lhs else rhs
  let op := if swap then op.flipped else op
  match op, right with
  | .like, .constant (.str pattern) =>
    match Pattern.compile? pattern limits.patternBytes with
    | some regex => .ok (compare op left right (some regex))
    | none => .error (.badPattern pattern)
  | _, _ => .ok (compare op left right none)

end Filter

namespace Expr

/-- Bind a filter expression to a sequence. The expression itself is at level `level`, and its
operands one level further in. -/
def compile (schema : Schema) (limits : Limits) (sequence : VarId) (level : Nat) (e : Expr) :
    Except Fault Filter :=
  if limits.filterDepth < level then .error (.filterTooDeep limits.filterDepth)
  else
    match e with
    | constant value => .ok (.constant value)
    | field name => schema.filterField sequence name
    | compare op lhs rhs => do
      let left ← lhs.compile schema limits sequence (level + 1)
      let right ← rhs.compile schema limits sequence (level + 1)
      Filter.oriented limits op left right
    | conj a b => do
      let left ← a.compile schema limits sequence (level + 1)
      let right ← b.compile schema limits sequence (level + 1)
      return .conj left right
    | neg a => return .neg (← a.compile schema limits sequence (level + 1))

end Expr

namespace View

/-- Attach the filter of a clause to the variable at the end of its path. -/
def addFilter (limits : Limits) (view : View) (v : VarId) (filter : Option Expr) :
    Except Fault View :=
  match filter with
  | none => .ok view
  | some e =>
    if (view.schema.var v).isSequence then do
      let filter ← e.compile view.schema limits v 1
      (view.setFilter v filter).toExcept
    else .error (.filterTarget (view.schema.varName v))

mutual

/-- Select what a selector names, with its field list first and then its path. The result is the
variable at the end of the path. -/
def select (limits : Limits) (view : View) (scope : Option VarId) :
    Selector → Except Fault (View × VarId)
  | .mk name slices child fields => do
    let v ← view.schema.resolve scope name
    let view ← (view.addVariable v slices).toExcept
    let view ← selectFields limits view v fields
    selectChild limits view v child

def selectChild (limits : Limits) (view : View) (v : VarId) :
    Option Selector → Except Fault (View × VarId)
  | none => .ok (view, v)
  | some child => select limits view (some v) child

def selectFields (limits : Limits) (view : View) (v : VarId) : List Clause → Except Fault View
  | [] => .ok view
  | clause :: rest => do
    let view ← selectClause limits view (some v) clause
    selectFields limits view v rest

def selectClause (limits : Limits) (view : View) (scope : Option VarId) :
    Clause → Except Fault View
  | .mk target filter => do
    let (view, v) ← select limits view scope target
    addFilter limits view v filter

end

/-- Make the resizes of a request. -/
def addResizes (view : View) : List Resize → Except Fault View
  | [] => .ok view
  | resize :: rest =>
    match view.schema.findDimension? resize.name with
    | none => .error (.unknownDimension resize.name)
    | some d =>
      match resize.slice.fit (view.schema.dimension d).size with
      | .error misfit => .error (.badSlice misfit)
      | .ok fitted => do (← (view.addResize d fitted).toExcept).addResizes rest

def selectAll (limits : Limits) (view : View) : List Clause → Except Fault View
  | [] => .ok view
  | clause :: rest => do selectAll limits (← selectClause limits view none clause) rest

/-- Refuse a view that selects too many elements of some variable. -/
def checkElements (limits : Limits) (view : View) : Except Fault View :=
  match limits.elements? with
  | none => .ok view
  | some limit =>
    match view.segments.find? fun segment => limit < segment.count with
    | some segment =>
      .error (.projectionTooLarge (view.schema.varName segment.var) segment.count limit)
    | none => .ok view

end View

namespace Request

/-- The finished view of a request. -/
def compile (limits : Limits) (schema : Schema) (request : Request) : Except Fault View := do
  let view ← (View.empty schema).addResizes request.resizes
  let view ← View.selectAll limits view request.clauses
  let view ← view.finish.toExcept
  View.checkElements limits view

/-- The finished view of a request that is given as text. -/
def compileText (limits : Limits) (schema : Schema) (text : String) : Except Fault View :=
  match Request.parse text with
  | .ok request => request.compile limits schema
  | .error fault => .error (.unreadable fault)

end Request

end Hyperslab
