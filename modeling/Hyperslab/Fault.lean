import Hyperslab.Slice
import Hyperslab.Value

/-!
What can go wrong with a request: its text, the names in it, its slices and filters, a row that a
filter is asked about, or the order of the operations on a view. A fault keeps its cause; the
wording is in `Fault.message` alone.
-/

namespace Hyperslab

/-- What the grammar of requests was looking for where it gave up. -/
inductive Expectation where
  | closingBracket
  | closingBrace
  | closingParenthesis
  | fieldName
  | comparison
  | rangeComparison
  | finiteFloat
  | wordInteger
  | closingQuote
  deriving DecidableEq, Repr

/-- A place in a text that is no request. Lines and columns count from one, columns in bytes. The
expectations are those of the innermost rule first. -/
structure SyntaxFault where
  line : Nat
  column : Nat
  expected : List Expectation
  deriving DecidableEq, Repr

/-- Why a filter may not read a field. -/
inductive FieldDefect where
  | missing
  | notAtomic
  | notScalar
  deriving DecidableEq, Repr

/-- How filters are joined. -/
inductive Connective where
  | conj
  | neg
  deriving DecidableEq, Repr

/-- What changes a view. -/
inductive Action where
  | addVariable
  | addRedefinition
  | setFilter
  | addAttribute
  | expand
  | finish
  deriving DecidableEq, Repr

/-- What only a finished view answers. -/
inductive Inquiry where
  | projection
  | matchRow
  | filterRows
  | requestText
  deriving DecidableEq, Repr

inductive Fault where
  | undefinedName (name : String)
  | ambiguousName (name : String) (count : Nat)
  | noSuchField (scope name : String)
  | notCompound (scope name : String)
  | filterTarget (name : String)
  | filterField (sequence field : String) (defect : FieldDefect)
  | filterTooDeep (limit : Nat)
  | badSlice (misfit : SliceMisfit)
  | tooManySlices (name : String) (rank given : Nat)
  | unknownDimension (name : String)
  | anonymousDimension (size : UInt64)
  | conflictingSlices (name : String)
  | projectionTooLarge (name : String) (count limit : UInt64)
  | missingField (name : String)
  | notScalar (name : String)
  | typeMismatch (lhs rhs : Value)
  | notBoolean (value : Value)
  | badPattern (pattern : String)
  | malformedFilter (connective : Connective) (operands : Nat)
  /-- The view is finished and takes no more changes. -/
  | finished (action : Action)
  /-- The view is not finished and has no answer yet. -/
  | unfinished (inquiry : Inquiry)
  /-- No row has been found that could be handed out. -/
  | noRowFound
  | unreadable (fault : SyntaxFault)

/-- A rough division of the faults. -/
inductive FaultKind where
  | resolution
  | shape
  | range
  | evaluation
  | state
  | grammar
  deriving DecidableEq, Repr

def Expectation.describe : Expectation → String
  | closingBracket => "closing bracket"
  | closingBrace => "closing brace"
  | closingParenthesis => "closing parenthesis"
  | fieldName => "field name"
  | comparison => "comparison operator"
  | rangeComparison => "range comparison with <, <=, > or >="
  | finiteFloat => "finite floating-point literal"
  | wordInteger => "64-bit integer literal"
  | closingQuote => "closing quote"

def FieldDefect.describe : FieldDefect → String
  | missing => "no such field"
  | notAtomic => "not atomic"
  | notScalar => "not a scalar"

def Connective.describe : Connective → String
  | conj => "And"
  | neg => "Not"

def Action.describe : Action → String
  | addVariable => "add_variable"
  | addRedefinition => "add_redef"
  | setFilter => "set_filter"
  | addAttribute => "add_attribute"
  | expand => "expand"
  | finish => "finish"

def Inquiry.describe : Inquiry → String
  | projection => "projection_iterator"
  | matchRow => "match_row"
  | filterRows => "filter_iterator"
  | requestText => "to_constraint_string"

namespace Fault

def kind : Fault → FaultKind
  | undefinedName _ | ambiguousName .. | noSuchField .. | notCompound .. => .resolution
  | filterTarget _ | filterField .. | filterTooDeep _ => .shape
  | badSlice _ | tooManySlices .. | unknownDimension _ | anonymousDimension _
  | conflictingSlices _ | projectionTooLarge .. => .range
  | missingField _ | notScalar _ | typeMismatch .. | notBoolean _ | badPattern _
  | malformedFilter .. => .evaluation
  | finished _ | unfinished _ | noRowFound => .state
  | unreadable _ => .grammar

def message : Fault → String
  | undefinedName name => "undefined variable: " ++ name
  | ambiguousName name count =>
    "ambiguous name " ++ name ++ ": " ++ toString count ++ " matching variables"
  | noSuchField scope name => scope ++ " has no field named " ++ name
  | notCompound scope name =>
    scope ++ " is not a structure or sequence; cannot reference field " ++ name
  | filterTarget name => "filter target " ++ name ++ " is not a sequence"
  | filterField sequence field defect =>
    "illegal filter field " ++ field ++ " in " ++ sequence ++ ": " ++ defect.describe
  | filterTooDeep limit => "filter nesting exceeds " ++ toString limit ++ " levels"
  | badSlice misfit =>
    "illegal slice " ++ misfit.slice.describe ++ ": " ++ misfit.defect.describe
  | tooManySlices name rank given =>
    name ++ " has rank " ++ toString rank ++ " but " ++ toString given ++ " slices were given"
  | unknownDimension name => "undefined dimension: " ++ name
  | anonymousDimension size =>
    "undefined dimension: anonymous dimension of size " ++ toString size
  | conflictingSlices name => "conflicting slices for " ++ name
  | projectionTooLarge name count limit =>
    "projection of " ++ name ++ " selects " ++ toString count ++ " elements (max: " ++
      toString limit ++ ")"
  | missingField name => "row has no value for field " ++ name
  | notScalar name => "row value for field " ++ name ++ " is not a scalar"
  | typeMismatch lhs rhs =>
    "cannot compare " ++ lhs.kind ++ " " ++ lhs.literal ++ " with " ++ rhs.kind ++ " " ++
      rhs.literal
  | notBoolean value => "filter evaluated to " ++ value.literal ++ ", expected a boolean"
  | badPattern pattern => "bad pattern " ++ pattern
  | malformedFilter connective operands =>
    "malformed filter: " ++ connective.describe ++ " with " ++ toString operands ++ " operands"
  | finished action => "invalid constraint state: " ++ action.describe ++
      " on a finished constraint"
  | unfinished inquiry => "invalid constraint state: " ++ inquiry.describe ++ " before finish"
  | noRowFound => "invalid constraint state: next_matched called without a successful has_next"
  | unreadable fault => "constraint syntax error at line " ++ toString fault.line ++
      ", column " ++ toString fault.column

end Fault

end Hyperslab
