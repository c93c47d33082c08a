import Hyperslab.Count

/-!
Index ranges over one dimension. A slice selects `start`, `start + stride`, and so on, below an
exclusive `stop`. Written down, a slice names the last index that it selects, inclusively.
-/

namespace Hyperslab

/-- The index range that a request asks for at one position of a variable.

`stop` is absent until the slice is resolved against a size. An unconstrained slice stands for
the whole extent of its dimension, whatever that is; a constrained one has an extent of its own. -/
structure Slice where
  start : UInt64
  stride : UInt64
  stop : Option UInt64
  constrained : Bool
  deriving DecidableEq, Repr

/-- Why a slice does not fit a dimension. -/
inductive SliceDefect where
  | zeroStride
  | startPastEnd
  | pastSize (size : UInt64)
  | selectsNothing
  deriving DecidableEq, Repr

/-- A resolved slice together with the reason why it does not fit. -/
structure SliceMisfit where
  slice : Slice
  defect : SliceDefect
  deriving DecidableEq, Repr

namespace Slice

/-- The extent of the dimension, not yet known. -/
def whole : Slice := ⟨0, 1, none, false⟩

instance : Inhabited Slice := ⟨whole⟩

/-- The extent of a dimension of `size` elements. -/
def full (size : UInt64) : Slice := ⟨0, 1, some size, false⟩

/-- The single index `i`. -/
def index (i : UInt64) : Slice := ⟨i, 1, some (addClamped i 1), true⟩

/-- Every `stride`-th index from `first` to `last` inclusive, or to the end of the dimension. -/
def range (first stride : UInt64) (last : Option UInt64) : Slice :=
  ⟨first, stride, last.map (addClamped · 1), true⟩

def isResolved (s : Slice) : Bool := s.stop.isSome

/-- Let an open slice run to the end of a dimension of `size` elements. -/
def resolve (s : Slice) (size : UInt64) : Slice :=
  { s with stop := some (s.stop.getD size) }

/-- Resolve a slice against a dimension of `size` elements and check it. The start may not lie
past the stop, nor the stop past the size. A constrained slice of a dimension that has elements
selects at least one of them. The defects are looked for in the order written here. -/
def fit (s : Slice) (size : UInt64) : Except SliceMisfit Slice :=
  let resolved := s.resolve size
  let stop := s.stop.getD size
  if s.stride = 0 then .error ⟨resolved, .zeroStride⟩
  else if stop < s.start then .error ⟨resolved, .startPastEnd⟩
  else if size < stop then .error ⟨resolved, .pastSize size⟩
  else if s.constrained ∧ stop ≤ s.start ∧ 0 < size then .error ⟨resolved, .selectsNothing⟩
  else .ok resolved

/-- How many indices are selected. An unresolved slice selects none, and so does stride zero. -/
def count (s : Slice) : UInt64 :=
  match s.stop with
  | some stop => if s.start < stop ∧ 0 < s.stride then (stop - s.start - 1) / s.stride + 1 else 0
  | none => 0

/-- The `k`-th selected index, counted from zero. -/
def nth (s : Slice) (k : UInt64) : UInt64 := s.start + k * s.stride

/-- The last selected index, if any is selected. -/
def last? (s : Slice) : Option UInt64 :=
  if s.count = 0 then none else some (s.nth (s.count - 1))

/-- At most the first `n` selected indices, ascending. -/
def firstIndices (s : Slice) (n : Nat) : List UInt64 :=
  (List.range (min n s.count.toNat)).map fun k => s.nth (.ofNat k)

/-- All selected indices, ascending. -/
def indices (s : Slice) : List UInt64 := s.firstIndices s.count.toNat

/-- How numbers are written in a request. -/
def digits (n : UInt64) : List Char := Nat.toDigits 10 n.toNat

/-- The slice as a request writes it. A slice that selects nothing is written open. -/
def chars (s : Slice) : List Char :=
  if s.constrained then
    match s.last? with
    | some last =>
      if last = s.start then '[' :: digits s.start ++ [']']
      else if s.stride = 1 then '[' :: digits s.start ++ ':' :: digits last ++ [']']
      else '[' :: digits s.start ++ ':' :: digits s.stride ++ ':' :: digits last ++ [']']
    | none =>
      if s.stride = 1 then '[' :: digits s.start ++ [':', ']']
      else '[' :: digits s.start ++ ':' :: digits s.stride ++ [':', ']']
  else ['[', ']']

/-- The slice as a request writes it. -/
def text (s : Slice) : String := .ofList s.chars

/-- The slice as reports show it, as a half-open range with its stride. -/
def describe (s : Slice) : String :=
  let stop := match s.stop with
    | some stop => toString stop
    | none => "*"
  "[" ++ toString s.start ++ ":" ++ toString s.stride ++ ":" ++ stop ++ ")"

end Slice

namespace SliceDefect

def describe : SliceDefect → String
  | zeroStride => "stride must be at least 1"
  | startPastEnd => "start is past the end"
  | pastSize size => "exceeds dimension size " ++ toString size
  | selectsNothing => "last index precedes first"

end SliceDefect

end Hyperslab
