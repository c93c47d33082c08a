import Hyperslab.Value

/-!
Rows of sequences. A row gives data to field names; where a name is given twice, the later datum
counts.
-/

namespace Hyperslab

inductive Datum where
  | scalar (value : Value)
  | array (values : List Value)
  | record (fields : List (String × Datum))

/-- A row as a list of fields, with each name once. -/
structure Row where
  fields : List (String × Datum)

/-- Give a datum to a name, in place of what the name had before. -/
def setField (fields : List (String × Datum)) (name : String) (datum : Datum) :
    List (String × Datum) :=
  fields.filter (·.1 ≠ name) ++ [(name, datum)]

/-- Give data to names one after the other. -/
def setFields (entries : List (String × Datum)) : List (String × Datum) :=
  entries.foldl (fun fields (name, datum) => setField fields name datum) []

namespace Row

def ofList (entries : List (String × Datum)) : Row := ⟨setFields entries⟩

def get? (row : Row) (name : String) : Option Datum := row.fields.lookup name

end Row

end Hyperslab
