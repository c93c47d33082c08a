import Hyperslab.Json
import Hyperslab.Request

/-!
Requests that are given as JSON. A record is an object, or the list of its fields in order; an
alternative is an object with the name of the alternative as its only field.
-/

namespace Hyperslab

namespace Json

/-- The fields of a record, in the order of `names`. Other fields are passed over, but none of these
may be there twice. -/
def record? (names : List String) : Json → Option (List (Option Json))
  | object fields =>
    if names.any fun name => 1 < (fields.filter (·.1 = name)).length then none
    else some (names.map fun name => fields.lookup name)
  | array items => if items.length = names.length then some (items.map some) else none
  | _ => none

/-- An alternative with what it holds. -/
def alternative? : Json → Option (String × Json)
  | object [entry] => some entry
  | _ => none

def string? : Json → Option String
  | string s => some s
  | _ => none

def bool? : Json → Option Bool
  | bool b => some b
  | _ => none

/-- An unsigned word. -/
def word? : Json → Option UInt64
  | number n =>
    match n.quantity? with
    | some (.integer n) => if 0 ≤ n then some (.ofNat n.toNat) else none
    | _ => none
  | _ => none

def list? {α : Type} (item : Json → Option α) : Json → Option (List α)
  | array items => items.mapM item
  | _ => none

/-- A field that may be null, or missing. -/
def optional? {α : Type} (value : Json → Option α) : Option Json → Option (Option α)
  | none | some null => some none
  | some j => (value j).map some

end Json

namespace Slice

def ofJson? (j : Json) : Option Slice := do
  match ← j.record? ["start", "stride", "stop", "constrained"] with
  | [some start, some stride, stop, some constrained] =>
    return ⟨← start.word?, ← stride.word?, ← Json.optional? Json.word? stop,
      ← constrained.bool?⟩
  | _ => none

end Slice

namespace Operator

/-- The names of the operators. -/
def ofName? : String → Option Operator
  | "Lt" => some lt
  | "Le" => some le
  | "Gt" => some gt
  | "Ge" => some ge
  | "Eq" => some eq
  | "Ne" => some ne
  | "Req" => some like
  | _ => none

def ofJson? : Json → Option Operator
  | .string name => ofName? name
  | .object [(name, .null)] => ofName? name
  | _ => none

end Operator

namespace Expr

/-- An expression that is nested at most as deep as its text. -/
def ofJsonUpTo? : Nat → Json → Option Expr
  | 0, _ => none
  | depth + 1, j => do
    match ← j.alternative? with
    | ("Constant", value) => return constant (← value.toValue?)
    | ("FieldRef", name) => return field (← name.string?)
    | ("Compare", comparison) =>
      match ← comparison.record? ["op", "lhs", "rhs"] with
      | [some op, some lhs, some rhs] =>
        return compare (← Operator.ofJson? op) (← ofJsonUpTo? depth lhs) (← ofJsonUpTo? depth rhs)
      | _ => none
    | ("And", .array [a, b]) => return conj (← ofJsonUpTo? depth a) (← ofJsonUpTo? depth b)
    | ("Not", a) => return neg (← ofJsonUpTo? depth a)
    | _ => none

def ofJson? (j : Json) : Option Expr := ofJsonUpTo? (Json.maxDepth + 1) j

end Expr

namespace Clause

/-- A clause, with `selector` for what it selects. -/
def ofJsonWith? (selector : Json → Option Selector) (j : Json) : Option Clause := do
  match ← j.alternative? with
  | ("Projection", target) => return mk (← selector target) none
  | ("Selection", selection) =>
    match ← selection.record? ["projection", "filter"] with
    | [some target, some filter] => return mk (← selector target) (some (← Expr.ofJson? filter))
    | _ => none
  | _ => none

end Clause

namespace Selector

/-- A selector that is nested at most as deep as its text. -/
def ofJsonUpTo? : Nat → Json → Option Selector
  | 0, _ => none
  | depth + 1, j => do
    match ← j.record? ["name", "slices", "path", "fields"] with
    | [some name, some slices, path, some fields] =>
      return mk (← name.string?) (← slices.list? Slice.ofJson?)
        (← Json.optional? (ofJsonUpTo? depth) path)
        (← fields.list? (Clause.ofJsonWith? (ofJsonUpTo? depth)))
    | _ => none

def ofJson? (j : Json) : Option Selector := ofJsonUpTo? (Json.maxDepth + 1) j

end Selector

namespace Resize

def ofJson? (j : Json) : Option Resize := do
  match ← j.record? ["name", "slice"] with
  | [some name, some slice] => return ⟨← name.string?, ← Slice.ofJson? slice⟩
  | _ => none

end Resize

namespace Request

def ofJson? (j : Json) : Option Request := do
  match ← j.record? ["redefs", "clauses"] with
  | [some resizes, some clauses] =>
    return ⟨← resizes.list? Resize.ofJson?, ← clauses.list? (Clause.ofJsonWith? Selector.ofJson?)⟩
  | _ => none

/-- Read a request from its JSON text. -/
def read? (text : String) : Option Request := (Json.read? text).bind ofJson?

end Request

end Hyperslab
