import Hyperslab.Proofs.View.Alike
import Hyperslab.Proofs.View.Extent
import Hyperslab.Proofs.View.References

/-! A variable with a slice of its own in a dimension that the view resizes. The indices of the
slice are those of the dimension as it was declared, but the slice is fitted into the dimension as
the view has it. Where it fits, the resize does not show; where it ends behind the new size, the
view cannot be finished. -/
namespace Hyperslab

namespace Slice

variable {s fitted : Slice} {size size' stop : UInt64}

/-- In a dimension that has become smaller, a slice with an end is checked against the new size. -/
theorem fit_smaller (h : s.fit size = .ok fitted) (hStop : s.stop = some stop)
    (hSize : size' ≤ size) :
    s.fit size' = if size' < stop then .error ⟨s, .pastSize size'⟩ else .ok s := by
  obtain ⟨_, hStride, hStart, _, hSome⟩ := fit_ok h
  have hResolved : s.resolve size' = s := resolve_of_isResolved (by simp [isResolved, hStop]) size'
  rw [hStop, Option.getD_some] at hStart hSome
  split
  · next hPast =>
      simp only [fit, hStop, Option.getD_some, hResolved]
      rw [if_neg hStride, if_neg (UInt64.not_lt.mpr hStart), if_pos hPast]
  · next hInside =>
      have hEmpty : size = 0 → size' = 0 := fun hZero =>
        UInt64.le_zero_iff.mp (hZero ▸ hSize)
      have hFits : s.fit size' = .ok (s.resolve size') := by
        apply fit_of_bounds hStride
        all_goals rw [hStop, Option.getD_some]
        · exact hStart
        · exact UInt64.not_lt.mp hInside
        · exact fun hConstrained => (hSome hConstrained).imp_right hEmpty
      rw [hFits, hResolved]

end Slice

/-- Where all entries that fail do so with one fault, that is the fault of the list. -/
theorem mapM_eq_error {ε α β : Type} {f : α → Except ε β} {xs : List α} {fault : ε}
    (h : ∀ x ∈ xs, (∃ y, f x = .ok y) ∨ f x = .error fault)
    (hFails : ∃ x ∈ xs, f x = .error fault) : xs.mapM f = .error fault := by
  induction xs with
  | nil => simp at hFails
  | cons x xs ih =>
      rw [List.mapM_cons]
      rcases h x (by simp) with ⟨y, hy⟩ | hFirst
      · have hRest : ∃ x ∈ xs, f x = .error fault := by
          obtain ⟨x', hMem, hx'⟩ := hFails
          rcases List.mem_cons.mp hMem with rfl | hMem
          · rw [hy] at hx'
            cases hx'
          · exact ⟨x', hMem, hx'⟩
        rw [hy, ih (fun x' hx' => h x' (by simp [hx'])) hRest]
        rfl
      · rw [hFirst]
        rfl

/-- Slices for the positions of a variable, of which the one for position `j` is `s` and the others
are not constrained. The dimension there is `d`. -/
structure SlicesAt (schema : Schema) (v : VarId) (asked : List Slice) (j : Nat) (d : DimId)
    (s : Slice) : Prop where
  dim : (schema.var v).dims[j]? = some d
  rank : asked.length ≤ (schema.var v).rank
  slice : asked[j]? = some s
  others : ∀ (i : Nat) (other : Slice), i ≠ j → asked[i]? = some other → other.constrained = false

theorem SlicesAt.ne_nil {schema : Schema} {v : VarId} {asked : List Slice} {j : Nat} {d : DimId}
    {s : Slice} (h : SlicesAt schema v asked j d s) : asked ≠ [] := by
  rintro rfl
  simpa using h.slice

namespace View

variable {schema : Schema} {view finished : View} {v : VarId} {asked : List Slice} {j : Nat}
  {d : DimId} {s fitted : Slice} {stop : UInt64}

/-- An open view with the variable, in which no other slices are asked for. -/
structure AsksOnly (schema : Schema) (v : VarId) (asked : List Slice) (view : View) : Prop where
  isOpen : view.Open schema
  mem : (v, asked) ∈ view.asked
  only : ∀ x given, (x, given) ∈ view.asked → given ≠ [] → x = v ∧ given = asked

/-- At a position of the variable the finished view has the indices of the slice, in a dimension of
their number. -/
def TakesAt (finished : View) (v : VarId) (j : Nat) (s : Slice) : Prop :=
  ∃ segment, finished.segment? v = some segment ∧ segment.slices[j]? = some s ∧
    segment.dimensions[j]? = some (.anonymous s.count) ∧ segment.projection[j]? = some s

theorem open_empty (schema : Schema) : (empty schema).Open schema :=
  ⟨rfl, rfl, coherent_empty schema⟩

/-- A view in which nothing is selected takes the variable. -/
theorem Open.addVariable_only (hSchema : schema.Declared) (h : view.Open schema)
    (hNone : view.asked = []) (hSlices : SlicesAt schema v asked j d s) :
    ∃ view', (view.apply (.addVariable v asked)).toExcept = .ok view' ∧
      AsksOnly schema v asked view' ∧ view'.resizes = view.resizes := by
  have hAsks : (Edit.addVariable v asked).asks = some (v, asked) := rfl
  have hRun := h.coherent.apply_iff h.isOpen hAsks
  rw [h.schema_eq] at hRun
  obtain ⟨view', hApply⟩ := hRun.mpr ⟨hSlices.rank, by simp [hNone]⟩
  obtain ⟨hGrows, hOpen⟩ := h.apply_names hSchema.tree hSchema.complete rfl hApply
  refine ⟨view', hApply, ⟨hOpen, ?_, fun x given hGiven hSome => ?_⟩, hGrows.resizes⟩
  · exact (hGrows.asked v asked hSlices.ne_nil).mpr (.inr ⟨v, asked, hAsks, .inl ⟨rfl, rfl⟩⟩)
  · rw [hGrows.asked x given hSome, hNone] at hGiven
    obtain ⟨_, _, hSame, hSelf | hAbove⟩ := hGiven.resolve_left (List.not_mem_nil)
    · cases hSame
      exact hSelf
    · exact absurd hAbove.2 hSome

theorem dimension_congr {again : View} (hView : view.InStep) (hAgain : again.InStep)
    (hSchema : view.schema = again.schema) (hResizes : view.resizes = again.resizes) (d : DimId) :
    view.dimension d = again.dimension d := by
  rw [hView.dimension_eq, hAgain.dimension_eq, resize?, resize?, hSchema, hResizes]

/-- Resizing a dimension asks for nothing. -/
theorem AsksOnly.addResize {r : Slice} {resized : View} (h : AsksOnly schema v asked view)
    (hNone : view.resizes = (empty schema).resizes)
    (hResize : ((empty schema).addResize d r).toExcept = .ok resized) :
    ∃ view', (view.apply (.addResize d r)).toExcept = .ok view' ∧ AsksOnly schema v asked view' ∧
      view'.resizes = resized.resizes := by
  obtain ⟨-, hShared, taken, hTaken, rfl⟩ := addResize_iff.mp hResize
  obtain ⟨⟨rfl, hOpen, hCoherent⟩, hMem, hOnly⟩ := h
  refine ⟨_, addResize_iff.mpr ⟨hOpen, hShared, taken, hTaken, rfl⟩,
    ⟨⟨rfl, hOpen, hCoherent.resize hShared hTaken⟩, hMem, hOnly⟩, ?_⟩
  rw [enter, enter, hNone]

/-- Expanding asks for nothing. -/
theorem AsksOnly.segment (h : AsksOnly schema v asked view) {segment : Segment}
    (hMem : segment ∈ view.expanded.segments) :
    segment.slices = [] ∨ segment.var = v ∧ segment.slices = asked := by
  rcases List.mem_append.mp hMem with hOld | hNew
  · by_cases hNone : segment.slices = []
    · exact .inl hNone
    · exact .inr (h.only _ _ (mem_asked.mpr ⟨segment, hOld, rfl, rfl⟩) hNone)
  · obtain ⟨_, _, rfl⟩ := List.mem_map.mp hNew
    exact .inl rfl

/-- Nothing but the slice at its position is constrained. -/
theorem AsksOnly.position (h : AsksOnly schema v asked view)
    (hSlices : SlicesAt schema v asked j d s) {segment : Segment}
    (hMem : segment ∈ view.expanded.segments) {position : Slice × DimId}
    (hPosition : position ∈ view.expanded.positions segment) :
    position.1.constrained = false ∨ position = (s, d) := by
  obtain ⟨slice, e⟩ := position
  obtain ⟨i, hDim, rfl⟩ := mem_positions.mp hPosition
  rcases h.segment hMem with hNone | ⟨hVar, hAsked⟩
  · rw [hNone]
    exact .inl rfl
  · rw [hAsked]
    cases hOther : asked[i]? with
    | none => exact .inl rfl
    | some other =>
        by_cases hSame : i = j
        · have hDims : (schema.var v).dims[i]? = some e := by
            rw [← hVar, ← h.isOpen.schema_eq]
            exact hDim
          rw [hSame] at hOther hDims
          cases hOther.symm.trans hSlices.slice
          cases hDims.symm.trans hSlices.dim
          exact .inr rfl
        · exact .inl (hSlices.others i other hSame hOther)

theorem extentAt_unconstrained {slice : Slice} {e : DimId} (h : slice.constrained = false) :
    ∃ extent, view.extentAt slice e = .ok extent := by
  rw [extentAt, if_neg (by simp [h])]
  exact ⟨_, rfl⟩

theorem AsksOnly.finish_succeeds (h : AsksOnly schema v asked view)
    (hSlices : SlicesAt schema v asked j d s) (hFits : s.fit (view.dimension d).size = .ok fitted) :
    ∃ finished, view.finish.toExcept = .ok finished := by
  refine View.finish_succeeds h.isOpen.isOpen fun segment hMem => ?_
  refine resolveSegment_succeeds fun position hPosition => ?_
  rcases h.position hSlices hMem hPosition with hFree | rfl
  · exact extentAt_unconstrained hFree
  · have hFits : s.fit (view.expanded.dimension d).size = .ok fitted := hFits
    rw [extentAt, hFits]
    split <;> exact ⟨_, rfl⟩

/-- A segment that is not asked for the slice is resolved. -/
theorem AsksOnly.resolveSegment_free (h : AsksOnly schema v asked view)
    (hSlices : SlicesAt schema v asked j d s) {segment : Segment}
    (hMem : segment ∈ view.expanded.segments)
    (hFree : (s, d) ∉ view.expanded.positions segment) :
    ∃ fixed, view.expanded.resolveSegment segment = .ok fixed := by
  refine resolveSegment_succeeds fun position hPosition => ?_
  rcases h.position hSlices hMem hPosition with hOther | rfl
  · exact extentAt_unconstrained hOther
  · exact absurd hPosition hFree

/-- A segment that is asked for the slice fails with it. -/
theorem AsksOnly.resolveSegment_fails (h : AsksOnly schema v asked view)
    (hSlices : SlicesAt schema v asked j d s) {fault : Fault}
    (hAt : view.expanded.extentAt s d = .error fault) {segment : Segment}
    (hMem : segment ∈ view.expanded.segments)
    (hPosition : (s, d) ∈ view.expanded.positions segment) :
    view.expanded.resolveSegment segment = .error fault := by
  have hExtents : ((view.expanded.positions segment).mapM fun position =>
      view.expanded.extentAt position.1 position.2) = .error fault := by
    refine mapM_eq_error (fun position hOther => ?_) ⟨_, hPosition, hAt⟩
    rcases h.position hSlices hMem hOther with hFree | rfl
    · exact .inl (extentAt_unconstrained hFree)
    · exact .inr hAt
  rw [resolveSegment_eq, hExtents]
  rfl

/-- Only the slice can keep the view from being finished. -/
theorem AsksOnly.finish_fails (h : AsksOnly schema v asked view)
    (hSlices : SlicesAt schema v asked j d s) (hConstrained : s.constrained = true)
    {misfit : SliceMisfit} (hMisfit : s.fit (view.dimension d).size = .error misfit) :
    view.finish.fault = some (.badSlice misfit) := by
  have hAt : view.expanded.extentAt s d = .error (.badSlice misfit) := by
    have hMisfit : s.fit (view.expanded.dimension d).size = .error misfit := hMisfit
    simp only [extentAt, if_pos hConstrained, hMisfit]
  have hSegments : view.expanded.segments.mapM view.expanded.resolveSegment =
      .error (.badSlice misfit) := by
    refine mapM_eq_error (fun segment hMem => ?_) ?_
    · by_cases hPosition : (s, d) ∈ view.expanded.positions segment
      · exact .inr (h.resolveSegment_fails hSlices hAt hMem hPosition)
      · exact .inl (h.resolveSegment_free hSlices hMem hPosition)
    · obtain ⟨segment, hSegment, rfl, rfl⟩ := mem_asked.mp h.mem
      have hMem : segment ∈ view.expanded.segments := List.mem_append_left _ hSegment
      refine ⟨segment, hMem, h.resolveSegment_fails hSlices hAt hMem ?_⟩
      refine mem_positions.mpr ⟨j, ?_, ?_⟩
      · change (view.schema.var segment.var).dims[j]? = some d
        rw [h.isOpen.schema_eq]
        exact hSlices.dim
      · rw [hSlices.slice]
        rfl
  rw [finish, if_neg (by simp [h.isOpen.isOpen])]
  simp only [hSegments]
  rfl

/-- A finished segment is settled at each position of its variable. -/
theorem Settles.exists_position {segment : Segment} (h : view.Settles finished segment)
    (hDim : (view.schema.var segment.var).dims[j]? = some d) :
    ∃ slice dimension projection, segment.slices[j]? = some slice ∧
      segment.dimensions[j]? = some dimension ∧ segment.projection[j]? = some projection ∧
        view.SettlesAt (view.requested segment.var j) d slice dimension projection := by
  have hRank : j < (view.schema.var segment.var).rank := (List.getElem?_eq_some_iff.mp hDim).1
  have hSlice := List.getElem?_eq_some_iff.mpr ⟨h.slices ▸ hRank, rfl⟩
  have hDimension := List.getElem?_eq_some_iff.mpr ⟨h.dimensions ▸ hRank, rfl⟩
  have hProjection := List.getElem?_eq_some_iff.mpr ⟨h.projection ▸ hRank, rfl⟩
  exact ⟨_, _, _, hSlice, hDimension, hProjection,
    h.position j d _ _ _ hDim hSlice hDimension hProjection⟩

theorem InStep.exists_finished (h : view.InStep) (hFinish : view.finish.toExcept = .ok finished)
    (hv : v ∈ view.vars) :
    ∃ segment ∈ finished.segments, segment.var = v ∧ finished.segment? v = some segment := by
  have hSelected : v ∈ finished.vars := by
    rw [finish_vars hFinish, vars_expanded]
    exact List.mem_append_left _ hv
  obtain ⟨segment, hSegment, rfl⟩ := (h.finish hFinish).exists_segment hSelected
  exact ⟨segment, hSegment, rfl, (h.finish hFinish).segment?_of_mem hSegment⟩

/-- Where the slice fits, nothing shows of the dimension that it was fitted into. -/
theorem AsksOnly.takesAt (hSchema : schema.Declared) (h : AsksOnly schema v asked view)
    (hSlices : SlicesAt schema v asked j d s) (hConstrained : s.constrained = true)
    (hStop : s.stop = some stop) (hFinish : view.finish.toExcept = .ok finished) :
    finished.TakesAt v j s := by
  obtain ⟨⟨rfl, hOpen, hCoherent⟩, hMem, hOnly⟩ := h
  obtain ⟨before, hBefore, hVar, rfl⟩ := mem_asked.mp hMem
  obtain ⟨segment, hSegment, rfl, hFind⟩ :=
    hCoherent.exists_finished hFinish (hVar ▸ hCoherent.mem_vars hBefore)
  have hSettles := hCoherent.settles hFinish hSegment
  obtain ⟨slice, dimension, projection, hSlice, hDimension, hProjection, hAt⟩ :=
    hSettles.exists_position hSlices.dim
  have hRequested : view.requested segment.var j = s := by
    rw [← hVar, requested, hCoherent.segment?_of_mem hBefore, Option.map_some,
      Option.getD_some, hSlices.slice, Option.getD_some]
  rw [hRequested] at hAt
  obtain ⟨hFit, hTaken, hOwn⟩ := hAt.constrained hConstrained
  have hSame : slice = s := by
    rw [(Slice.fit_ok hFit).1]
    exact Slice.resolve_of_isResolved (by simp [Slice.isResolved, hStop]) _
  rw [hTaken, hSame] at hProjection
  rw [hOwn, hSame] at hDimension
  rw [hSame] at hSlice
  exact ⟨segment, hFind, hSlice, hDimension, hProjection⟩

theorem AsksOnly.finish_iff (hSchema : schema.Declared) (h : AsksOnly schema v asked view)
    (hSlices : SlicesAt schema v asked j d s) (hConstrained : s.constrained = true)
    (hStop : s.stop = some stop) (hFits : s.fit (schema.dimension d).size = .ok fitted) :
    ((∃ finished, view.finish.toExcept = .ok finished) ↔ stop ≤ (view.dimension d).size) ∧
      (∀ finished, view.finish.toExcept = .ok finished → finished.TakesAt v j s) ∧
      ((view.dimension d).size < stop →
        view.finish.fault = some (.badSlice ⟨s, .pastSize (view.dimension d).size⟩)) := by
  have hSmaller := h.isOpen.coherent.dimension_size_le d
  rw [h.isOpen.schema_eq] at hSmaller
  have hAgain := Slice.fit_smaller hFits hStop hSmaller
  have hFails : (view.dimension d).size < stop →
      view.finish.fault = some (.badSlice ⟨s, .pastSize (view.dimension d).size⟩) := by
    intro hPast
    rw [if_pos hPast] at hAgain
    exact h.finish_fails hSlices hConstrained hAgain
  refine ⟨⟨?_, fun hInside => ?_⟩, fun finished => h.takesAt hSchema hSlices hConstrained hStop,
    hFails⟩
  · rintro ⟨finished, hFinish⟩
    by_contra hPast
    have hFault := hFails (UInt64.not_le.mp hPast)
    rw [(Edited.toExcept_eq_ok hFinish).1] at hFault
    cases hFault
  · rw [if_neg (UInt64.not_lt.mpr hInside)] at hAgain
    exact h.finish_succeeds hSlices hAgain

/-- A slice with an end of its own, for a variable in a dimension that it fits. Without a resize the
view is finished with the slice. If the dimension is resized, before or after, the view is finished
just where the slice does not end behind the new size, and then in the same way. -/
theorem finish_shadowed (hSchema : schema.Declared) {r : Slice} {resized : View}
    (hSlices : SlicesAt schema v asked j d s) (hConstrained : s.constrained = true)
    (hStop : s.stop = some stop) (hFits : s.fit (schema.dimension d).size = .ok fitted)
    (hResize : ((empty schema).addResize d r).toExcept = .ok resized) :
    (∃ finished, (empty schema).run [.addVariable v asked, .finish] = .ok finished ∧
      finished.TakesAt v j s) ∧
    (∃ taken, r.fit (schema.dimension d).size = .ok taken ∧
      (resized.dimension d).size = taken.count) ∧
    ∀ edits ∈ [[.addResize d r, .addVariable v asked], [.addVariable v asked, .addResize d r]],
      ∃ view, (empty schema).run edits = .ok view ∧
        ((∃ finished, view.finish.toExcept = .ok finished) ↔ stop ≤ (resized.dimension d).size) ∧
        (∀ finished, view.finish.toExcept = .ok finished → finished.TakesAt v j s) ∧
        ((resized.dimension d).size < stop → view.finish.fault =
          some (.badSlice ⟨s, .pastSize (resized.dimension d).size⟩)) := by
  obtain ⟨-, hShared, taken, hTaken, hResized⟩ := addResize_iff.mp hResize
  have hOpen : resized.Open schema := by
    rw [hResized]
    exact ⟨rfl, rfl, (coherent_empty schema).resize hShared hTaken⟩
  obtain ⟨plain, hPlain, hAsks, hSame⟩ :=
    (open_empty schema).addVariable_only hSchema rfl hSlices
  refine ⟨?_, ⟨taken, hTaken, ?_⟩, ?_⟩
  · obtain ⟨hFinishes, hTakes, -⟩ := hAsks.finish_iff hSchema hSlices hConstrained hStop hFits
    have hDeclared : plain.dimension d = schema.dimension d :=
      dimension_congr hAsks.isOpen.coherent.toInStep (inStep_empty schema) hAsks.isOpen.schema_eq
        hSame d
    obtain ⟨_, _, _, hInside, _⟩ := Slice.fit_ok hFits
    rw [hStop, Option.getD_some, ← hDeclared] at hInside
    obtain ⟨finished, hFinish⟩ := hFinishes.mpr hInside
    exact ⟨finished, run_cons.mpr ⟨plain, hPlain, run_cons.mpr ⟨finished, hFinish, rfl⟩⟩,
      hTakes finished hFinish⟩
  · simp [hResized, dimension, resized?, enter, enterResized, empty, Dimension.resized]
  · -- In either order the view asks for the same, with the resizes of the one that is resized only.
    have hFinish {view : View} (h : AsksOnly schema v asked view)
        (hSame : view.resizes = resized.resizes) := by
      have hOwn := h.finish_iff hSchema hSlices hConstrained hStop hFits
      rwa [dimension_congr h.isOpen.coherent.toInStep hOpen.coherent.toInStep
        (h.isOpen.schema_eq.trans hOpen.schema_eq.symm) hSame] at hOwn
    rintro edits (_ | ⟨_, _ | ⟨_, ⟨⟩⟩⟩)
    · have hNone : resized.asked = [] := by
        rw [hResized]
        rfl
      obtain ⟨view, hView, hAsks, hSame⟩ := hOpen.addVariable_only hSchema hNone hSlices
      exact ⟨view, run_cons.mpr ⟨resized, hResize, run_cons.mpr ⟨view, hView, rfl⟩⟩,
        hFinish hAsks hSame⟩
    · obtain ⟨view, hView, hAsks, hSame⟩ := hAsks.addResize hSame hResize
      exact ⟨view, run_cons.mpr ⟨plain, hPlain, run_cons.mpr ⟨view, hView, rfl⟩⟩,
        hFinish hAsks hSame⟩

theorem slicesAt_grid (i : UInt64) : SlicesAt .grid ⟨0⟩ [.index i] 0 ⟨0⟩ (.index i) where
  dim := rfl
  rank := Nat.le_succ 1
  slice := rfl
  others := by
    rintro (_ | k) other hOther hSlice
    · exact absurd rfl hOther
    · cases hSlice

/-- The resize keeps the last five indices. An index before them is taken as if there were none. -/
theorem finish_shadowed_grid : Schema.grid.Declared ∧
    SlicesAt .grid ⟨0⟩ [.index 2] 0 ⟨0⟩ (.index 2) ∧
      ((Slice.index 2).fit (Schema.grid.dimension ⟨0⟩).size = .ok (.index 2)) ∧
      ∃ view finished,
        (empty .grid).run [.addResize ⟨0⟩ (.range 5 1 (some 9)), .addVariable ⟨0⟩ [.index 2]] =
            .ok view ∧
          view.finish.toExcept = .ok finished ∧ finished.TakesAt ⟨0⟩ 0 (.index 2) := by
  have hRun : ∃ resized ∈
      ((empty .grid).addResize ⟨0⟩ (.range 5 1 (some 9))).toExcept.toOption,
      3 ≤ (resized.dimension ⟨0⟩).size := by
    decide +kernel
  obtain ⟨resized, hResized, hInside⟩ := hRun
  have hFits : (Slice.index 2).fit (Schema.grid.dimension ⟨0⟩).size = .ok (.index 2) := by
    decide +kernel
  obtain ⟨-, -, hOrders⟩ := finish_shadowed Schema.grid_declared (slicesAt_grid 2) rfl rfl hFits
    (eq_ok_of_mem_toOption hResized)
  obtain ⟨view, hView, hFinishes, hTakes, -⟩ := hOrders _ (.head _)
  obtain ⟨finished, hFinish⟩ := hFinishes.mpr hInside
  exact ⟨Schema.grid_declared, slicesAt_grid 2, hFits, view, finished, hView, hFinish,
    hTakes finished hFinish⟩

/-- An index that the resize keeps is refused. -/
theorem resize_refuses_index : SlicesAt .grid ⟨0⟩ [.index 7] 0 ⟨0⟩ (.index 7) ∧
    (Slice.index 7).fit (Schema.grid.dimension ⟨0⟩).size = .ok (.index 7) ∧
      ∃ view fault,
        (empty .grid).run [.addResize ⟨0⟩ (.range 5 1 (some 9)), .addVariable ⟨0⟩ [.index 7]] =
            .ok view ∧
          view.finish.fault = some fault := by
  have hRun : ∃ view ∈ ((empty .grid).run
      [.addResize ⟨0⟩ (.range 5 1 (some 9)), .addVariable ⟨0⟩ [.index 7]]).toOption,
      view.finish.fault.isSome = true := by
    decide +kernel
  obtain ⟨view, hView, hRefused⟩ := hRun
  obtain ⟨fault, hFault⟩ := Option.isSome_iff_exists.mp hRefused
  exact ⟨slicesAt_grid 7, by decide +kernel, view, fault, eq_ok_of_mem_toOption hView, hFault⟩

end View

end Hyperslab
