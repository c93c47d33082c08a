import Hyperslab.Proofs.View.Expand

/-! What finishing makes of the segments of a view. The loop over the positions of a variable fills
three lists at once; what it leaves in them is told here position by position. -/
namespace Hyperslab

/-- What is fixed at one position of a variable. -/
structure Extent where
  slice : Slice
  dimension : Dimension
  projection : Slice

/-- What is fixed at some positions, each kind in a list of its own. -/
def Extents.ofList (extents : List Extent) : Extents :=
  ⟨extents.map (·.slice), extents.map (·.dimension), extents.map (·.projection)⟩

/-- The three lists of a segment hold the same extents, position by position. -/
structure Segment.HasExtents (segment : Segment) (extents : List Extent) : Prop where
  slices : segment.slices = extents.map (·.slice)
  dimensions : segment.dimensions = extents.map (·.dimension)
  projection : segment.projection = extents.map (·.projection)

theorem Segment.hasExtents_fix (segment : Segment) (extents : List Extent) :
    (segment.fix (.ofList extents)).HasExtents extents := ⟨rfl, rfl, rfl⟩

namespace View

/-- What fixing one position comes to, whatever has been fixed before. -/
def extentAt (view : View) (slice : Slice) (d : DimId) : Except Fault Extent :=
  if slice.constrained then
    match slice.fit (view.dimension d).size with
    | .ok fitted => .ok ⟨fitted, .anonymous fitted.count, fitted⟩
    | .error misfit => .error (.badSlice misfit)
  else
    let full := Slice.full (view.dimension d).size
    .ok ⟨full, view.dimension d, (view.resize? d).getD full⟩

/-- A constrained slice is fitted into the dimension as the view has it. Any other takes this
dimension whole, and the indices that resize it. -/
theorem extentAt_ok {view : View} {slice : Slice} {d : DimId} {extent : Extent}
    (h : view.extentAt slice d = .ok extent) :
    (slice.constrained = true ∧ ∃ fitted, slice.fit (view.dimension d).size = .ok fitted ∧
        extent = ⟨fitted, .anonymous fitted.count, fitted⟩) ∨
      slice.constrained = false ∧ extent = ⟨.full (view.dimension d).size, view.dimension d,
        (view.resize? d).getD (.full (view.dimension d).size)⟩ := by
  unfold extentAt at h
  split at h
  · next hConstrained =>
      split at h
      · next fitted hFit =>
          cases h
          exact Or.inl ⟨hConstrained, fitted, hFit, rfl⟩
      · cases h
  · next hWhole =>
      cases h
      exact Or.inr ⟨by simpa using hWhole, rfl⟩

/-- Each of the three lists gets one entry, in both cases. -/
theorem resolvePosition_ofList (view : View) (fixed : List Extent) (slice : Slice) (d : DimId) :
    view.resolvePosition (.ofList fixed) slice d =
      (view.extentAt slice d).map fun extent => .ofList (fixed ++ [extent]) := by
  simp only [resolvePosition, extentAt]
  split
  · cases slice.fit (view.dimension d).size <;> simp [Extents.ofList, Except.map]
  · simp [Extents.ofList, Except.map]

/-- The three lists are filled position by position, behind what they hold already. -/
theorem foldlM_resolvePosition (view : View) (positions : List (Slice × DimId))
    (fixed : List Extent) :
    positions.foldlM (fun fixed (slice, d) => view.resolvePosition fixed slice d)
        (Extents.ofList fixed) =
      (positions.mapM fun (slice, d) => view.extentAt slice d).map fun extents =>
        .ofList (fixed ++ extents) := by
  induction positions generalizing fixed with
  | nil =>
      rw [List.foldlM_nil, List.mapM_nil]
      exact congrArg Except.ok (congrArg Extents.ofList (List.append_nil fixed).symm)
  | cons position positions ih =>
      obtain ⟨slice, d⟩ := position
      rw [List.foldlM_cons, List.mapM_cons]
      simp only [resolvePosition_ofList]
      cases view.extentAt slice d with
      | error fault => rfl
      | ok extent =>
          refine (ih (fixed ++ [extent])).trans ?_
          cases positions.mapM fun (slice, d) => view.extentAt slice d with
          | error fault => rfl
          | ok extents => exact congrArg (Except.ok ∘ Extents.ofList) (List.append_assoc _ _ _)

@[simp] theorem length_positions (view : View) (segment : Segment) :
    (view.positions segment).length = (view.schema.var segment.var).rank := by
  simp only [positions, List.length_zip, List.length_append, List.length_replicate, Variable.rank]
  omega

/-- The positions of a segment are fixed one after the other. -/
theorem resolveSegment_eq (view : View) (segment : Segment) : view.resolveSegment segment =
    ((view.positions segment).mapM fun (slice, d) => view.extentAt slice d).map .ofList :=
  foldlM_resolvePosition view (view.positions segment) []

theorem resolveSegment_eq_ok {view : View} {segment : Segment} {fixed : Extents} :
    view.resolveSegment segment = .ok fixed ↔ ∃ extents,
      ((view.positions segment).mapM fun (slice, d) => view.extentAt slice d) = .ok extents ∧
        fixed = .ofList extents := by
  rw [resolveSegment_eq, map_eq_ok_iff]

/-- What is fixed for a segment, in the segment. -/
def settleSegment (view : View) (segment : Segment) : Except Fault Segment :=
  (view.resolveSegment segment).map segment.fix

theorem settleSegment_eq_ok {view : View} {segment resolved : Segment} :
    view.settleSegment segment = .ok resolved ↔ ∃ extents,
      ((view.positions segment).mapM fun (slice, d) => view.extentAt slice d) = .ok extents ∧
        resolved = segment.fix (.ofList extents) := by
  rw [settleSegment, map_eq_ok_iff]
  constructor
  · rintro ⟨fixed, hFixed, rfl⟩
    obtain ⟨extents, hExtents, rfl⟩ := resolveSegment_eq_ok.mp hFixed
    exact ⟨extents, hExtents, rfl⟩
  · rintro ⟨extents, hExtents, rfl⟩
    exact ⟨_, resolveSegment_eq_ok.mpr ⟨extents, hExtents, rfl⟩, rfl⟩

/-- These extents are fixed at these positions. -/
def Fixes (view : View) (positions : List (Slice × DimId)) (extents : List Extent) : Prop :=
  List.Forall₂ (fun position extent => view.extentAt position.1 position.2 = .ok extent)
    positions extents

/-- A finished segment keeps its variable and its filter. At each position stand the slice in force
and its extent. -/
theorem settleSegment_ok {view : View} {segment resolved : Segment}
    (h : view.settleSegment segment = .ok resolved) :
    resolved.var = segment.var ∧ resolved.filter = segment.filter ∧
      ∃ extents, resolved.HasExtents extents ∧ view.Fixes (view.positions segment) extents := by
  obtain ⟨extents, hExtents, rfl⟩ := settleSegment_eq_ok.mp h
  exact ⟨rfl, rfl, extents, segment.hasExtents_fix extents, forall₂_of_mapM_eq_ok hExtents⟩

/-- Each segment gets what has been fixed for it. -/
theorem settled_of_mapM {view : View} {segments : List Segment} {fixed : List Extents}
    (h : segments.mapM view.resolveSegment = .ok fixed) :
    List.Forall₂ (fun segment resolved => view.settleSegment segment = .ok resolved) segments
      (segments.zipWith Segment.fix fixed) := by
  induction segments generalizing fixed with
  | nil =>
      cases h
      exact .nil
  | cons segment segments ih =>
      rw [List.mapM_cons] at h
      obtain ⟨first, hFirst, h⟩ := exists_of_bind_eq_ok h
      obtain ⟨others, hOthers, h⟩ := exists_of_bind_eq_ok h
      cases h
      exact .cons (map_eq_ok_iff.mpr ⟨first, hFirst, rfl⟩) (ih hOthers)

/-- What finishing does: it expands the view, resolves each segment and collects references. -/
theorem finish_ok {view view' : View} (h : view.finish.toExcept = .ok view') :
    view.isFinished = false ∧ ∃ segments,
      List.Forall₂ (fun segment resolved => view.expanded.settleSegment segment = .ok resolved)
        view.expanded.segments segments ∧
      view' = { view.expanded with
        segments, references := some view.expanded.collectReferences } := by
  obtain ⟨hFault, hView⟩ := Edited.toExcept_eq_ok h
  unfold finish at hFault hView
  split at hFault
  · cases hFault
  · next hOpen =>
      rw [if_neg hOpen] at hView
      simp only at hFault hView
      refine ⟨by simpa using hOpen, ?_⟩
      split at hFault
      · next fixed hFixed =>
          rw [hFixed] at hView
          exact ⟨_, settled_of_mapM hFixed, hView.symm⟩
      · cases hFault

theorem finish_vars {view view' : View} (h : view.finish.toExcept = .ok view') :
    view'.vars = view.expanded.vars := by
  obtain ⟨_, segments, _, rfl⟩ := finish_ok h
  rfl

/-- Finishing fills the segments in their places. -/
theorem InStep.settle {view : View} (h : view.InStep) {segments : List Segment}
    {references : Option References} (hSettled : List.Forall₂ (fun segment resolved =>
      view.settleSegment segment = .ok resolved) view.segments segments) :
    InStep { view with segments, references } := by
  refine ⟨h.vars_eq.trans ?_, h.nodup, h.nodup_resized, h.resized⟩
  exact (map_eq_of_forall₂ hSettled fun _ _ hSettle => (settleSegment_ok hSettle).1).symm

theorem InStep.finish {view finished : View} (h : view.InStep)
    (hFinish : view.finish.toExcept = .ok finished) : finished.InStep := by
  obtain ⟨_, segments, hSegments, rfl⟩ := finish_ok hFinish
  exact h.expanded.settle hSegments

end View

end Hyperslab
