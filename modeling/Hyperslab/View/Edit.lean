import Hyperslab.View

/-!
Changing a view. An edit of an open view selects variables, resizes dimensions, attaches filters or
attributes, or finishes the view. A refused edit reports its fault and still leaves a view; only
finishing leaves a view behind that differs from the one before.
-/

namespace Hyperslab

inductive Edit where
  | addVariable (v : VarId) (slices : List Slice)
  | addResize (d : DimId) (slice : Slice)
  | setFilter (v : VarId) (filter : Filter)
  | addAttribute (node : Node) (name value : String)
  | expand
  | finish

/-- The view after an edit, and the fault if the edit was refused. -/
structure Edited where
  view : View
  fault : Option Fault

namespace Edited

def done (view : View) : Edited := ⟨view, none⟩

def refused (view : View) (fault : Fault) : Edited := ⟨view, some fault⟩

/-- The view, unless the edit was refused. -/
def toExcept (edited : Edited) : Except Fault View :=
  match edited.fault with
  | some fault => .error fault
  | none => .ok edited.view

end Edited

/-- What finishing fixes for a variable: the slices in force, the dimensions that a reader sees, and
the indices that these stand for. Each list is filled position by position. -/
structure Extents where
  slices : List Slice
  dimensions : List Dimension
  projection : List Slice

/-- A segment with its extents. -/
def Segment.fix (segment : Segment) (fixed : Extents) : Segment :=
  { segment with
    slices := fixed.slices
    dimensions := fixed.dimensions
    projection := fixed.projection }

namespace View

/-- Select a variable behind all others. -/
def push (view : View) (segment : Segment) : View :=
  { view with
    segments := view.segments ++ [segment]
    vars := view.vars ++ [segment.var] }

/-- Select variables whole behind all others. -/
def pushAll (view : View) (added : List VarId) : View :=
  { view with
    segments := view.segments ++ added.map (Segment.fresh · [])
    vars := view.vars ++ added }

/-- Change the segment of a variable. -/
def modifySegment (view : View) (v : VarId) (change : Segment → Segment) : View :=
  { view with
    segments := match view.position? v with
      | some i => view.segments.modify i change
      | none => view.segments }

/-- Select the compounds around a variable that are not selected yet, the outermost first. -/
def selectEnclosing (view : View) (v : VarId) : View :=
  match (view.schema.var v).owner with
  | .group _ => view
  | .compound c =>
    if view.selects c then view
    else if c.index < v.index then (view.selectEnclosing c).push (.fresh c [])
    else view
termination_by v.index

/-- Select a variable with the given slices. A variable that is selected already can get slices if
it has none, but not other ones. -/
def addVariable (view : View) (v : VarId) (slices : List Slice) : Edited :=
  if view.isFinished then .refused view (.finished .addVariable)
  else if (view.schema.var v).rank < slices.length then
    .refused view
      (.tooManySlices (view.schema.varName v) (view.schema.var v).rank slices.length)
  else
    let view := view.selectEnclosing v
    if view.selects v then
      let given := ((view.segment? v).map (·.slices)).getD []
      if given.isEmpty then .done (view.modifySegment v ({ · with slices }))
      else if slices.isEmpty || given = slices then .done view
      else .refused view (.conflictingSlices (view.schema.varName v))
    else .done (view.push (.fresh v slices))

/-- Enter a dimension with its slice, in place of an earlier slice. -/
def enterResize (resizes : List (DimId × Slice)) (d : DimId) (slice : Slice) :
    List (DimId × Slice) :=
  if resizes.any (·.1 = d) then
    resizes.map fun entry => if entry.1 = d then (d, slice) else entry
  else resizes ++ [(d, slice)]

/-- Enter a dimension as it is after a resize, in place of what it was after an earlier one. -/
def enterResized (resized : List (DimId × Dimension)) (d : DimId) (dimension : Dimension) :
    List (DimId × Dimension) :=
  (d, dimension) :: resized.filter (·.1 ≠ d)

/-- Resize a dimension to the elements of a slice. -/
def enter (view : View) (d : DimId) (slice : Slice) : View :=
  { view with
    resizes := enterResize view.resizes d slice
    resized := enterResized view.resized d ((view.schema.dimension d).resized slice.count) }

/-- Give a shared dimension the size of a slice of it. -/
def addResize (view : View) (d : DimId) (slice : Slice) : Edited :=
  let dimension := view.schema.dimension d
  if view.isFinished then .refused view (.finished .addRedefinition)
  else if !dimension.isShared then .refused view (.anonymousDimension dimension.size)
  else
    match slice.fit dimension.size with
    | .ok fitted => .done (view.enter d fitted)
    | .error misfit => .refused view (.badSlice misfit)

/-- Attach a filter to a sequence, besides the filter that it has. The sequence is selected if it
was not. -/
def setFilter (view : View) (v : VarId) (filter : Filter) : Edited :=
  if view.isFinished then .refused view (.finished .setFilter)
  else if !(view.schema.var v).isSequence then
    .refused view (.filterTarget (view.schema.varName v))
  else
    let edited := if view.selects v then .done view else view.addVariable v []
    match edited.fault with
    | some _ => edited
    | none =>
      .done <| edited.view.modifySegment v fun segment =>
        { segment with
          filter := some <| match segment.filter with
            | some earlier => .conj earlier filter
            | none => filter }

def addAttribute (view : View) (node : Node) (name value : String) : Edited :=
  if view.isFinished then .refused view (.finished .addAttribute)
  else .done { view with attributes := view.attributes ++ [(node, name, value)] }

/-- The fields of the compounds in `level` that are not selected yet. -/
def missingFields (schema : Schema) (selected level : List VarId) : List VarId :=
  ((level.flatMap fun c => (schema.var c).fields).filter fun v => v ∉ selected).eraseDups

/-- All that is missing below the compounds in `level`, level by level, at most `depth` levels
deep. -/
def missingBelow (schema : Schema) :
    (depth : Nat) → (selected level : List VarId) → List VarId
  | 0, _, _ => []
  | depth + 1, selected, level =>
    let fields := missingFields schema selected level
    if fields.isEmpty then []
    else
      fields ++ missingBelow schema depth (selected ++ fields)
        (fields.filter fun v => (schema.var v).isCompound)

/-- The selected top-level compounds without a selected field. They stand for all they hold. -/
def bareCompounds (view : View) : List VarId :=
  (view.segments.map (·.var)).filter fun v =>
    let var := view.schema.var v
    var.isTopLevel && var.isCompound && !var.fields.any view.selects

/-- Select everything in the top-level compounds that have no selected field. -/
def expanded (view : View) : View :=
  view.pushAll (missingBelow view.schema view.schema.vars.size view.vars view.bareCompounds)

def expand (view : View) : Edited :=
  if view.isFinished then .refused view (.finished .expand) else .done view.expanded

/-- Fix one more position. A constrained slice has an anonymous dimension of its own size. Any other
takes the whole dimension as the view has it, with the indices that a resize has chosen. -/
def resolvePosition (view : View) (fixed : Extents) (slice : Slice) (d : DimId) :
    Except Fault Extents :=
  let resize := view.resize? d
  let dimension := view.dimension d
  if slice.constrained then
    match slice.fit dimension.size with
    | .ok fitted =>
      .ok {
        slices := fixed.slices ++ [fitted]
        dimensions := fixed.dimensions ++ [.anonymous fitted.count]
        projection := fixed.projection ++ [fitted] }
    | .error misfit => .error (.badSlice misfit)
  else
    let full := Slice.full dimension.size
    .ok {
      slices := fixed.slices ++ [full]
      dimensions := fixed.dimensions ++ [dimension]
      projection := fixed.projection ++ [resize.getD full] }

/-- Each dimension of a variable with the slice that is asked for there. Positions behind the last
slice are taken whole. -/
def positions (view : View) (segment : Segment) : List (Slice × DimId) :=
  let v := view.schema.var segment.var
  (segment.slices ++ List.replicate (v.rank - segment.slices.length) Slice.whole).zip v.dims

/-- Fix the positions of a segment one after the other. -/
def resolveSegment (view : View) (segment : Segment) : Except Fault Extents :=
  (view.positions segment).foldlM (fun fixed (slice, d) => view.resolvePosition fixed slice d)
    ⟨[], [], []⟩

/-- The dimensions referred to: those that are resized, and behind them the shared ones that are
taken whole somewhere, unless they are there already. -/
def referredDims (view : View) : List DimId :=
  let taken := view.segments.flatMap fun segment =>
    (view.positions segment).filterMap fun (slice, d) =>
      if !slice.constrained && (view.schema.dimension d).isShared then some d else none
  taken.foldl (fun found d => if d ∈ found then found else found ++ [d]) (view.resizes.map (·.1))

/-- The enumerations that are types of selected variables. -/
def referredEnums (view : View) : List EnumId :=
  (view.vars.filterMap fun v =>
    match (view.schema.var v).kind with
    | .atomic type => type.enumeration?
    | _ => none).eraseDups

/-- The groups on the way from the root to what is selected or referred to. -/
def referredGroups (view : View) (dims : List DimId) (enums : List EnumId) : List GroupId :=
  let owners := view.vars.map view.schema.owningGroup ++
    dims.filterMap (fun d => (view.schema.dimension d).home.map (·.1)) ++
    enums.map fun e => (view.schema.enumeration e).group
  (owners.flatMap view.schema.rootPath).eraseDups

/-- All references of a view whose slices are those asked for. -/
def collectReferences (view : View) : References :=
  let dims := view.referredDims
  let enums := view.referredEnums
  ⟨dims, enums, view.referredGroups dims enums⟩

/-- Expand a view, fix its segments and collect its references. If a slice does not fit, the view
stays open, and what expanding has added stays with it. -/
def finish (view : View) : Edited :=
  if view.isFinished then .refused view (.finished .finish)
  else
    let view := view.expanded
    match view.segments.mapM view.resolveSegment with
    | .ok extents =>
      .done { view with
        segments := view.segments.zipWith Segment.fix extents
        references := some view.collectReferences }
    | .error fault => .refused view fault

def apply (view : View) : Edit → Edited
  | .addVariable v slices => view.addVariable v slices
  | .addResize d slice => view.addResize d slice
  | .setFilter v filter => view.setFilter v filter
  | .addAttribute node name value => view.addAttribute node name value
  | .expand => view.expand
  | .finish => view.finish

/-- Select the given variables whole, one after the other. -/
def addAll (view : View) : List VarId → Except Fault View
  | [] => .ok view
  | v :: rest => do (← (view.addVariable v []).toExcept).addAll rest

/-- The finished view of everything in a schema. -/
def universal (schema : Schema) : Except Fault View := do
  (← (empty schema).addAll schema.topLevel).finish.toExcept

end View

end Hyperslab
