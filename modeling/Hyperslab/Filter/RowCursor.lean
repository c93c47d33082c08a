import Hyperslab.Fault

/-!
Going through a source of rows and handing out those that pass a test. The cursor reads ahead by at
most one row that passes.
-/

namespace Hyperslab

/-- A source of rows, a test, the row that was found but not handed out, and whether the source is
used up. -/
structure RowCursor (α : Type) where
  test : α → Except Fault Bool
  source : List α
  pending : Option α
  exhausted : Bool

namespace RowCursor

variable {α : Type}

/-- Before the first row. -/
def start (test : α → Except Fault Bool) (source : List α) : RowCursor α :=
  ⟨test, source, none, false⟩

/-- Look for the next row that passes. A row that the test fails on ends the search and is taken
from the source. -/
def scan (test : α → Except Fault Bool) : List α → Except Fault (Option α) × List α
  | [] => (.ok none, [])
  | row :: rest =>
    match test row with
    | .ok true => (.ok (some row), rest)
    | .ok false => scan test rest
    | .error fault => (.error fault, rest)

/-- Is there a row to hand out? A row that is found is kept. -/
def hasNext (c : RowCursor α) : Except Fault Bool × RowCursor α :=
  if c.pending.isSome then (.ok true, c)
  else if c.exhausted then (.ok false, c)
  else
    match scan c.test c.source with
    | (.ok (some row), source) => (.ok true, { c with source, pending := some row })
    | (.ok none, source) => (.ok false, { c with source, exhausted := true })
    | (.error fault, source) => (.error fault, { c with source })

/-- Hand out the row that was found. -/
def nextMatched (c : RowCursor α) : Except Fault α × RowCursor α :=
  match c.pending with
  | some row => (.ok row, { c with pending := none })
  | none => (.error .noRowFound, c)

/-- Look for a row and hand it out. After a fault nothing more is handed out. -/
def next (c : RowCursor α) : Option (Except Fault α) × RowCursor α :=
  match c.hasNext with
  | (.ok true, c') => (c'.pending.map .ok, { c' with pending := none })
  | (.ok false, c') => (none, c')
  | (.error fault, c') => (some (.error fault), { c' with exhausted := true })

end RowCursor

end Hyperslab
