import Hyperslab.Proofs.Odometer
import Hyperslab.Proofs.Request.Spelled
import Hyperslab.Proofs.View.Coherent
import Hyperslab.View.Answer

/-! What finishing makes of the slices that a view was asked for. At each position the indices are
as many as the dimension announces, and all of them are indices of the variable as it was
declared. -/
namespace Hyperslab

namespace Slice

variable {s f : Slice} {size : UInt64}

/-- A constrained slice that fits a dimension with elements selects one of them. -/
theorem size_eq_zero_of_fit (h : s.fit size = .ok f) (hConstrained : s.constrained = true)
    (hCount : f.count = 0) : size = 0 := by
  obtain ⟨rfl, hStride, _, _, hSome⟩ := fit_ok h
  refine (hSome hConstrained).resolve_left fun hLt => ?_
  have hPos := toNat_count (s := s.resolve size) rfl hLt hStride
  rw [hCount] at hPos
  cases hPos

theorem count_full (size : UInt64) : (full size).count = size := by
  apply UInt64.toNat_inj.mp
  by_cases hSize : size = 0
  · subst hSize
    rfl
  · rw [toNat_count (s := full size) rfl (UInt64.pos_iff_ne_zero.mpr hSize)
      (by simp [full])]
    have hPos := UInt64.lt_iff_toNat_lt.mp (UInt64.pos_iff_ne_zero.mpr hSize)
    simp only [full, UInt64.toNat_zero, UInt64.toNat_one, Nat.div_one] at hPos ⊢
    omega

/-- A slice of a request selects nothing only of an empty dimension. -/
theorem Writable.size_eq_zero (hWritable : s.Writable) (h : s.fit size = .ok f)
    (hCount : f.count = 0) : size = 0 := by
  cases hWritable with
  | whole =>
      obtain ⟨rfl, _⟩ := fit_ok h
      exact (count_full size).symm.trans hCount
  | index | range => exact size_eq_zero_of_fit h rfl hCount

end Slice

namespace View

/-- The slice that an open view is asked for at a position of a variable. -/
def requested (view : View) (v : VarId) (j : Nat) : Slice :=
  (((view.segment? v).map (·.slices)).getD [])[j]?.getD .whole

/-- One position of a finished segment: its slice, and the dimension and indices that it comes to,
in a view that was asked for `asked` there. -/
structure SettlesAt (view : View) (asked : Slice) (d : DimId) (slice : Slice)
    (dimension : Dimension) (projection : Slice) : Prop where
  count : projection.indices.length = dimension.size.toNat
  inside : ∀ i ∈ projection.indices, i < (view.schema.dimension d).size
  constrained : asked.constrained = true → asked.fit (view.dimension d).size = .ok slice ∧
    projection = slice ∧ dimension = .anonymous slice.count
  unconstrained : asked.constrained = false → dimension = match view.resize? d with
    | some resize => (view.schema.dimension d).resized resize.count
    | none => view.schema.dimension d

/-- A segment as it comes out of finishing `view`. -/
structure Settles (view finished : View) (segment : Segment) : Prop where
  slices : segment.slices.length = (view.schema.var segment.var).rank
  dimensions : segment.dimensions.length = (view.schema.var segment.var).rank
  projection : segment.projection.length = (view.schema.var segment.var).rank
  position : ∀ j d slice dimension projection, (view.schema.var segment.var).dims[j]? = some d →
    segment.slices[j]? = some slice → segment.dimensions[j]? = some dimension →
      segment.projection[j]? = some projection →
        view.SettlesAt (view.requested segment.var j) d slice dimension projection
  tuples : ∃ odometer, finished.indexTuples segment.var = .ok (some odometer) ∧
    ∀ n, (odometer.take n).1.length = min n (segment.dimensions.map (·.size.toNat)).prod

variable {view : View}

/-- A dimension is looked up as declared, or with the size of the slice that resizes it. -/
theorem InStep.dimension_eq (h : view.InStep) (d : DimId) : view.dimension d =
    match view.resize? d with
      | some resize => (view.schema.dimension d).resized resize.count
      | none => view.schema.dimension d := by
  rw [dimension, h.resized]
  cases view.resize? d <;> rfl

/-- Resizing makes no dimension larger. -/
theorem Coherent.dimension_size_le (h : view.Coherent) (d : DimId) :
    (view.dimension d).size ≤ (view.schema.dimension d).size := by
  rw [h.dimension_eq]
  cases hResize : view.resize? d with
  | none => exact UInt64.le_rfl
  | some slice =>
      obtain ⟨_, _, stop, hStop, _, hLe⟩ := h.resizes d slice (h.resize?_eq_some.mp hResize)
      exact UInt64.le_trans (Slice.count_le_stop hStop) hLe

/-- The indices that a resize has chosen, or else all of them, fill the dimension. -/
theorem Coherent.resize_fills (h : view.Coherent) (d : DimId) :
    ((view.resize? d).getD (.full (view.dimension d).size)).count = (view.dimension d).size ∧
      ∀ i ∈ ((view.resize? d).getD (.full (view.dimension d).size)).indices,
        i < (view.schema.dimension d).size := by
  cases hResize : view.resize? d with
  | none =>
      refine ⟨Slice.count_full _, fun i hi => ?_⟩
      exact UInt64.lt_of_lt_of_le (Slice.lt_stop_of_mem_indices rfl hi) (h.dimension_size_le d)
  | some slice =>
      obtain ⟨_, _, stop, hStop, _, hLe⟩ := h.resizes d slice (h.resize?_eq_some.mp hResize)
      refine ⟨?_, fun i hi => ?_⟩
      · rw [h.dimension_eq, hResize]
        rfl
      · exact UInt64.lt_of_lt_of_le (Slice.lt_stop_of_mem_indices hStop hi) hLe

theorem Coherent.settlesAt (h : view.Coherent) {asked : Slice} {d : DimId} {extent : Extent}
    (hExtent : view.extentAt asked d = .ok extent) :
    view.SettlesAt asked d extent.slice extent.dimension extent.projection := by
  rcases extentAt_ok hExtent with ⟨hConstrained, slice, hFit, rfl⟩ | ⟨hWhole, rfl⟩
  · refine ⟨Slice.length_indices slice, fun i hi => ?_, fun _ => ⟨hFit, rfl, rfl⟩, ?_⟩
    · obtain ⟨rfl, _, _, hStop, _⟩ := Slice.fit_ok hFit
      have hBefore := Slice.lt_stop_of_mem_indices rfl hi
      have hInside := UInt64.le_trans hStop (h.dimension_size_le d)
      exact UInt64.lt_of_lt_of_le hBefore hInside
    · rw [hConstrained]
      nofun
  · obtain ⟨hCount, hInside⟩ := h.resize_fills d
    refine ⟨?_, hInside, ?_, fun _ => h.dimension_eq d⟩
    · rw [Slice.length_indices, hCount]
    · rw [hWhole]
      nofun

/-- Before a view is finished, the segments of its expansion have the slices that it was asked for.
-/
theorem InStep.requested_eq (h : view.InStep) {segment : Segment}
    (hMem : segment ∈ view.expanded.segments) (j : Nat) :
    view.requested segment.var j = segment.slices[j]?.getD .whole := by
  rcases List.mem_append.mp hMem with hOld | hNew
  · rw [requested, h.segment?_of_mem hOld]
    rfl
  · obtain ⟨v, hv, rfl⟩ := List.mem_map.mp hNew
    have hNodup := h.expanded.nodup
    rw [vars_expanded, List.nodup_append] at hNodup
    have hMissing : v ∉ view.vars := fun hSelected => hNodup.2.2 v hSelected v hv rfl
    rw [requested, Segment.fresh, h.segment?_eq_none.mpr hMissing]
    rfl

section Fixed

variable {before segment : Segment} {extents : List Extent} (hHas : segment.HasExtents extents)
  (hFixes : view.Fixes (view.positions before) extents)
include hHas hFixes

/-- Each position of a finished segment settles what the view was asked for there. -/
theorem Coherent.settles_position (h : view.Coherent) (hBefore : before ∈ view.expanded.segments)
    (hVar : segment.var = before.var) {j : Nat} {d : DimId} {slice : Slice} {dimension : Dimension}
    {projection : Slice} (hDim : (view.schema.var segment.var).dims[j]? = some d)
    (hSlice : segment.slices[j]? = some slice)
    (hDimension : segment.dimensions[j]? = some dimension)
    (hProjection : segment.projection[j]? = some projection) :
    view.SettlesAt (view.requested segment.var j) d slice dimension projection := by
  rw [hHas.slices, List.getElem?_map, Option.map_eq_some_iff] at hSlice
  obtain ⟨extent, hExtent, rfl⟩ := hSlice
  rw [hHas.dimensions, List.getElem?_map, hExtent] at hDimension
  rw [hHas.projection, List.getElem?_map, hExtent] at hProjection
  cases hDimension
  cases hProjection
  rw [hVar] at hDim ⊢
  rw [h.requested_eq hBefore]
  exact h.settlesAt (forall₂_getElem? hFixes (Schema.getElem?_positions hDim _) hExtent)

/-- The projection has the counts of the dimensions. -/
theorem Coherent.volume_projection (h : view.Coherent) :
    Odometer.volume segment.projection = (segment.dimensions.map (·.size.toNat)).prod := by
  have hCount : ∀ extent ∈ extents,
      extent.projection.count.toNat = extent.dimension.size.toNat := by
    intro extent hExtent
    obtain ⟨position, _, hAt⟩ := exists_of_forall₂_right hFixes hExtent
    rw [← (h.settlesAt hAt).count, Slice.length_indices]
  rw [Odometer.volume, hHas.projection, hHas.dimensions, List.map_map, List.map_map]
  exact congrArg List.prod (List.map_congr_left hCount)

end Fixed

theorem Coherent.settles (h : view.Coherent) {finished : View}
    (hFinish : view.finish.toExcept = .ok finished) {segment : Segment}
    (hSegment : segment ∈ finished.segments) : view.Settles finished segment := by
  have hFind := (h.toInStep.finish hFinish).segment?_of_mem hSegment
  obtain ⟨_, segments, hSegments, rfl⟩ := finish_ok hFinish
  obtain ⟨before, hBefore, hSettle⟩ := exists_of_forall₂_right hSegments hSegment
  obtain ⟨hVar, _, extents, hHas, hExpanded⟩ := settleSegment_ok hSettle
  -- Expanding leaves the dimensions as they are.
  have hFixes : view.Fixes (view.positions before) extents := hExpanded
  have hRank : extents.length = (view.schema.var segment.var).rank := by
    rw [← hFixes.length_eq, length_positions, hVar]
  constructor
  · rw [hHas.slices, List.length_map, hRank]
  · rw [hHas.dimensions, List.length_map, hRank]
  · rw [hHas.projection, List.length_map, hRank]
  · intro j d slice dimension projection
    exact h.settles_position hHas hFixes hBefore hVar
  · -- The odometer runs through the projection.
    refine ⟨.start segment.projection, ?_, fun n => ?_⟩
    · simp only [indexTuples, hFind]
      rfl
    · rw [Odometer.length_take_start, h.volume_projection hHas hFixes]

/-- Only an empty dimension is resized to an empty one by a request. -/
theorem Entered.size_eq_zero (h : Entered view.schema view.resizes) (hInStep : view.InStep)
    {d : DimId} (hEmpty : (view.dimension d).size = 0) : (view.schema.dimension d).size = 0 := by
  rw [hInStep.dimension_eq] at hEmpty
  cases hResize : view.resize? d with
  | none =>
      rw [hResize] at hEmpty
      exact hEmpty
  | some slice =>
      rw [hResize] at hEmpty
      obtain ⟨asked, hWritable, hFit⟩ := h.fits _ ((lookup_eq_some h.nodup).mp hResize)
      exact hWritable.size_eq_zero hFit hEmpty

theorem Resolved.size_eq_zero (hEntered : Entered view.schema view.resizes)
    (hInStep : view.InStep) {asked : List Slice} {segment : Segment}
    (h : view.Resolved asked segment) {j : Nat} {d : DimId} {dimension : Dimension}
    (hDim : (view.schema.var segment.var).dims[j]? = some d)
    (hDimension : segment.dimensions[j]? = some dimension) (hEmpty : dimension.size = 0) :
    (view.schema.dimension d).size = 0 := by
  obtain ⟨extents, hHas, hFixes⟩ := h
  rw [hHas.dimensions, List.getElem?_map, Option.map_eq_some_iff] at hDimension
  obtain ⟨extent, hExtent, rfl⟩ := hDimension
  have hAt := forall₂_getElem? hFixes (Schema.getElem?_positions hDim asked) hExtent
  apply hEntered.size_eq_zero hInStep
  rcases extentAt_ok hAt with ⟨hConstrained, fitted, hFit, rfl⟩ | ⟨_, rfl⟩
  · exact Slice.size_eq_zero_of_fit hFit hConstrained hEmpty
  · exact hEmpty

/-- The view after some edits is finished with slices, dimensions and indices that fit each other
and lie within the declared dimensions. In the view of a text only empty dimensions become empty. -/
theorem finish_settles {schema : Schema} (hSchema : schema.Declared) :
    (∀ (edits : List Edit) (finished : View),
      ((empty schema).applyAll edits).finish.toExcept = .ok finished →
        ∀ segment ∈ finished.segments, ((empty schema).applyAll edits).Settles finished segment) ∧
    ∀ (limits : Limits) (text : String) (view : View),
      Request.compileText limits schema text = .ok view → ∀ segment ∈ view.segments,
        ∀ (j : Nat) (d : DimId) (dimension : Dimension),
          (schema.var segment.var).dims[j]? = some d → segment.dimensions[j]? = some dimension →
            dimension.size = 0 → (schema.dimension d).size = 0 := by
  refine ⟨fun edits finished hFinish segment hSegment => ?_, ?_⟩
  · obtain ⟨_, hCoherent, _⟩ := reached_coherent hSchema edits
    exact hCoherent.settles hFinish hSegment
  · intro limits text view h segment hSegment j d dimension hDim hDimension hEmpty
    obtain ⟨request, _, hWritable, _, hCompile⟩ := Request.compileText_ok h
    have hOutcome := Request.outcome hSchema.tree hCompile
    have hSame := hOutcome.schema_eq
    obtain ⟨asked, _, _, hResolved⟩ := hOutcome.segments segment hSegment
    rw [← hSame] at hDim ⊢
    exact hResolved.size_eq_zero (hSame ▸ hOutcome.entered hWritable) hOutcome.inStep hDim
      hDimension hEmpty

/-- The first position is constrained, and the other one whole. -/
theorem finish_settles_grid : Schema.grid.Declared ∧ ∃ finished,
    ((empty .grid).applyAll gridEdits).finish.toExcept = .ok finished ∧
      finished.segments.map Segment.dimensions = [[], [], [.anonymous 1, .anonymous 4]] ∧
        finished.segments.map (fun segment => segment.projection.map Slice.indices) =
          [[], [], [[1], [0, 1, 2, 3]]] ∧
          ∀ segment ∈ finished.segments,
            ((empty .grid).applyAll gridEdits).Settles finished segment := by
  have hRun : ∃ finished ∈ ((empty .grid).applyAll gridEdits).finish.toExcept.toOption,
      finished.segments.map Segment.dimensions = [[], [], [.anonymous 1, .anonymous 4]] ∧
        finished.segments.map (fun segment => segment.projection.map Slice.indices) =
          [[], [], [[1], [0, 1, 2, 3]]] := by
    decide +kernel
  obtain ⟨finished, hFinished, hDimensions, hIndices⟩ := hRun
  have hFinish := eq_ok_of_mem_toOption hFinished
  exact ⟨Schema.grid_declared, finished, hFinish, hDimensions, hIndices,
    (finish_settles Schema.grid_declared).1 gridEdits finished hFinish⟩

end View

end Hyperslab
