import Hyperslab.Slice

/-!
Index tuples of a projection. An odometer runs through the Cartesian product of the index lists
of its slices, the last position fastest, and can be started again.
-/

namespace Hyperslab

/-- A position in the product of `slices`: one counter a slice, and whether all tuples are out. -/
structure Odometer where
  slices : List Slice
  counters : List UInt64
  done : Bool
  deriving DecidableEq, Repr

namespace Odometer

/-- Before the first tuple. There is none if some slice selects nothing. -/
def start (slices : List Slice) : Odometer where
  slices := slices
  counters := slices.map fun _ => 0
  done := slices.any (·.count = 0)

def rank (o : Odometer) : Nat := o.slices.length

/-- The number of tuples of a full run, held at the largest word. -/
def total (o : Odometer) : UInt64 := productClamped (o.slices.map Slice.count)

/-- Go back to before the first tuple. -/
def reset (o : Odometer) : Odometer := start o.slices

/-- Count one up in the mixed radix of the slices' counts, last position first. All counters are
zero again after the last tuple, and then the result is none. -/
def advance : List Slice → List UInt64 → Option (List UInt64)
  | s :: slices, c :: counters =>
    match advance slices counters with
    | some counters' => some (c :: counters')
    | none => if c + 1 < s.count then some ((c + 1) :: counters.map fun _ => 0) else none
  | _, _ => none

/-- The tuple that the counters point at. -/
def current (o : Odometer) : List UInt64 :=
  o.slices.zipWith (fun s c => s.nth c) o.counters

/-- The next tuple, if there is one, and the odometer after it. -/
def next (o : Odometer) : Option (List UInt64) × Odometer :=
  if o.done then (none, o)
  else
    match advance o.slices o.counters with
    | some counters => (some o.current, { o with counters })
    | none => (some o.current, { o with counters := o.slices.map fun _ => 0, done := true })

/-- At most `n` further tuples, and the odometer after them. -/
def take (o : Odometer) : Nat → List (List UInt64) × Odometer
  | 0 => ([], o)
  | n + 1 =>
    match o.next with
    | (some tuple, o') => let (rest, o'') := o'.take n; (tuple :: rest, o'')
    | (none, o') => ([], o')

/-- The number of tuples already out, read off the counters in mixed radix. -/
def consumed (o : Odometer) : UInt64 :=
  (o.slices.zip o.counters).foldl (fun n (s, c) => addClamped (mulClamped n s.count) c) 0

/-- The number of tuples still to come, as far as clamped counts can tell it. -/
def remaining (o : Odometer) : UInt64 :=
  if o.done then 0 else subClamped o.total o.consumed

/-- A lower and an upper bound for the number of tuples still to come. -/
def sizeHint (o : Odometer) : UInt64 × Option UInt64 := (o.remaining, some o.remaining)

end Odometer

end Hyperslab
