import Hyperslab.Filter.RowCursor
import Hyperslab.Odometer
import Hyperslab.View

/-!
What a finished view answers: the index tuples that it selects of a variable, and the rows that it
lets through.
-/

namespace Hyperslab.View

/-- Refuse to answer before the view is finished. -/
def whenFinished {α : Type} (view : View) (inquiry : Inquiry) (answer : Except Fault α) :
    Except Fault α :=
  if view.isFinished then answer else .error (.unfinished inquiry)

/-- The index tuples that are selected of a variable, if it is selected at all. -/
def indexTuples (view : View) (v : VarId) : Except Fault (Option Odometer) :=
  view.whenFinished .projection
    (.ok ((view.segment? v).map fun segment => .start segment.projection))

/-- The number of elements that are selected of a variable, once that is known. -/
def selectedCount? (view : View) (v : VarId) : Option UInt64 :=
  if view.isFinished then (view.segment? v).map Segment.count else none

/-- Does the row pass the filter of the sequence? All rows pass where there is none. -/
def matchRow (view : View) (v : VarId) (row : Row) : Except Fault Bool :=
  view.whenFinished .matchRow <|
    match (view.segment? v).bind (·.filter) with
    | some filter => filter.accepts view.schema row
    | none => .ok true

/-- Go through the rows of a sequence that pass its filter. A source may hold anything that a row
can be read from. -/
def filterRows {α : Type} (view : View) (v : VarId) (read : α → Row) (source : List α) :
    Except Fault (RowCursor α) :=
  view.whenFinished .filterRows <|
    if (view.schema.var v).isSequence then
      .ok (.start (fun entry => view.matchRow v (read entry)) source)
    else .error (.filterTarget (view.schema.varName v))

end Hyperslab.View
