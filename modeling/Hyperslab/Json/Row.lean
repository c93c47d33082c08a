import Hyperslab.Json
import Hyperslab.Row

/-!
Rows that are given as JSON objects. A field is a scalar, a list of scalars, or a record of fields.
-/

namespace Hyperslab

namespace Datum

mutual

def ofJson? : Json → Option Datum
  | .array items => (items.mapM Json.toValue?).map array
  | .object fields => (fieldsOfJson? fields).map fun entries => record (setFields entries)
  | j => j.toValue?.map scalar

def fieldsOfJson? : List (String × Json) → Option (List (String × Datum))
  | [] => some []
  | (name, j) :: rest => do
    let datum ← ofJson? j
    return (name, datum) :: (← fieldsOfJson? rest)

end

end Datum

namespace Row

def ofJson? : Json → Option Row
  | .object fields => (Datum.fieldsOfJson? fields).map ofList
  | _ => none

/-- Read a row from the text of an object. -/
def read? (text : String) : Option Row := (Json.read? text).bind ofJson?

end Row

end Hyperslab
