import Hyperslab.Filter

/-!
Views of a schema. A view selects variables, each in a segment of its own, and may resize shared
dimensions for all of them. While it is open it only records what is asked for; finishing it fixes
the dimensions and index ranges of every segment and lists the nodes that the view refers to.
-/

namespace Hyperslab

/-- A selected variable. The slices are those asked for, and those in force once the view is
finished. Only then there are, for each position, the dimension that a reader sees and the indices
that it stands for in the variable as it was declared. -/
structure Segment where
  var : VarId
  slices : List Slice
  dimensions : List Dimension
  projection : List Slice
  filter : Option Filter

namespace Segment

/-- A segment as it is first selected. -/
def fresh (var : VarId) (slices : List Slice) : Segment := ⟨var, slices, [], [], none⟩

/-- The number of elements, held at the largest word. -/
def count (segment : Segment) : UInt64 := productClamped (segment.projection.map Slice.count)

end Segment

/-- The nodes that a finished view refers to, apart from its variables. -/
structure References where
  dims : List DimId
  enums : List EnumId
  groups : List GroupId
  deriving DecidableEq, Repr

/-- What is selected of a schema. A view is finished when its references are there. -/
structure View where
  schema : Schema
  segments : List Segment
  /-- The selected variables, in the order of their segments. A variable is looked up here. -/
  vars : List VarId
  /-- Shared dimensions with the slices that resize them, in the order of their first resize. -/
  resizes : List (DimId × Slice)
  /-- The same dimensions as they are after their resize. -/
  resized : List (DimId × Dimension)
  /-- Attributes beyond those of the schema, in the order in which they were added. -/
  attributes : List (Node × String × String)
  references : Option References

namespace View

/-- An open view of nothing. -/
def empty (schema : Schema) : View := ⟨schema, [], [], [], [], [], none⟩

def isFinished (view : View) : Bool := view.references.isSome

def selects (view : View) (v : VarId) : Bool := v ∈ view.vars

/-- Where a variable is selected. -/
def position? (view : View) (v : VarId) : Option Nat := view.vars.idxOf? v

def segment? (view : View) (v : VarId) : Option Segment :=
  (view.position? v).bind fun i => view.segments[i]?

/-- The slice that a shared dimension is resized by. -/
def resize? (view : View) (d : DimId) : Option Slice := view.resizes.lookup d

/-- A dimension with the size that the view gives to it, if it gives one. -/
def resized? (view : View) (d : DimId) : Option Dimension := view.resized.lookup d

/-- A dimension as the view has it. -/
def dimension (view : View) (d : DimId) : Dimension :=
  (view.resized? d).getD (view.schema.dimension d)

/-- The attributes that were added to a node. -/
def attributesOf (view : View) (node : Node) : List (String × String) :=
  (view.attributes.filter (·.1 = node)).map (·.2)

/-- The dimensions, enumerations and groups referred to. There are none before the view is
finished. -/
def collected (view : View) : References := view.references.getD ⟨[], [], []⟩

/-- Does the view refer to the node? -/
def refersTo (view : View) : Node → Bool
  | .dimension d => d ∈ view.collected.dims
  | .enumeration e => e ∈ view.collected.enums
  | .group g => g ∈ view.collected.groups
  | .var v => view.selects v

/-- The dimensions, enumerations and variables referred to, in this order. -/
def nodes (view : View) : List Node :=
  view.collected.dims.map .dimension ++ view.collected.enums.map .enumeration ++
    view.vars.map .var

end View

end Hyperslab
