import Hyperslab.View

/-!
Reports on views, for a person to read: one line for the view, one for each resized dimension and
one for each segment.
-/

namespace Hyperslab

/-- A segment with its slices, the sizes of its dimensions, and its filter. -/
def Segment.describe (schema : Schema) (segment : Segment) : String :=
  let sizes := segment.dimensions.map fun dimension => toString dimension.size
  "  " ++ schema.varName segment.var ++ String.join (segment.slices.map Slice.describe) ++
    (if sizes.isEmpty then "" else " dims=(" ++ ",".intercalate sizes ++ ")") ++
    (match segment.filter with
      | some filter => " |" ++ filter.text
      | none => "") ++ "\n"

def View.describe (view : View) : String :=
  let resizes := view.resizes.map fun (d, slice) =>
    "  redef " ++ (view.schema.dimName? d).getD "" ++ " = " ++ slice.describe ++ "\n"
  "constraint on " ++ view.schema.name ++ " (" ++ toString view.segments.length ++ " segments" ++
    (if view.isFinished then ", finished" else "") ++ ")\n" ++ String.join resizes ++
    String.join (view.segments.map (·.describe view.schema))

end Hyperslab
