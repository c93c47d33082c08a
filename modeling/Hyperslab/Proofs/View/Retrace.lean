import Hyperslab.Proofs.Request.RoundTrip

/-! Open views that ask for part of what is written for a finished view. No edit that asks for more
of the same is refused, and neither is finishing such a view. -/
namespace Hyperslab

theorem exists_mapM_eq_ok {ε α β : Type} {f : α → Except ε β} (xs : List α)
    (h : ∀ x ∈ xs, ∃ y, f x = .ok y) : ∃ ys, xs.mapM f = .ok ys := by
  induction xs with
  | nil => exact ⟨[], rfl⟩
  | cons x xs ih =>
      obtain ⟨y, hy⟩ := h x (by simp)
      obtain ⟨ys, hys⟩ := ih fun x' hx' => h x' (by simp [hx'])
      refine ⟨y :: ys, ?_⟩
      rw [List.mapM_cons, hy, hys]
      rfl

namespace View

variable {view again : View}

/-- Only too many slices, and slices that differ from those the variable has, are refused. -/
theorem InStep.addVariable_succeeds (hInStep : view.InStep) {v : VarId} {slices : List Slice}
    (hOpen : view.isFinished = false)
    (hRank : slices.length ≤ (view.schema.var v).rank)
    (hSame : ∀ segment ∈ (view.selectEnclosing v).segments, segment.var = v →
      segment.slices = [] ∨ slices = [] ∨ segment.slices = slices) :
    ∃ view', (view.addVariable v slices).toExcept = .ok view' := by
  unfold View.addVariable
  rw [if_neg (by simp [hOpen]), if_neg (Nat.not_lt.mpr hRank)]
  simp only
  split
  · split
    · exact ⟨_, rfl⟩
    · next hGiven =>
        cases hFind : (view.selectEnclosing v).segment? v with
        | none => simp [hFind] at hGiven
        | some segment =>
            obtain ⟨hMem, hVar⟩ := (hInStep.selectEnclosing v).segment?_eq_some hFind
            simp only [hFind, Option.map_some, Option.getD_some] at hGiven ⊢
            have hKeeps := (hSame segment hMem hVar).resolve_left (by simpa using hGiven)
            rw [if_pos (by simpa using hKeeps)]
            exact ⟨_, rfl⟩
  · exact ⟨_, rfl⟩

/-- A sequence accepts any filter. -/
theorem InStep.setFilter_succeeds (hInStep : view.InStep) {v : VarId} (filter : Filter)
    (hOpen : view.isFinished = false)
    (hSequence : (view.schema.var v).isSequence = true) :
    ∃ view', (view.setFilter v filter).toExcept = .ok view' := by
  unfold View.setFilter
  rw [if_neg (by simp [hOpen]), if_neg (by simp [hSequence])]
  simp only
  split
  · next hFault =>
      split at hFault
      · cases hFault
      · obtain ⟨_, hAdd⟩ := hInStep.addVariable_succeeds (v := v) hOpen (Nat.zero_le _)
          fun _ _ _ => Or.inr (Or.inl rfl)
        rw [(Edited.toExcept_eq_ok hAdd).1] at hFault
        cases hFault
  · exact ⟨_, rfl⟩

theorem resolveSegment_succeeds {segment : Segment} (h : ∀ position ∈ view.positions segment,
    ∃ extent, view.extentAt position.1 position.2 = .ok extent) :
    ∃ fixed, view.resolveSegment segment = .ok fixed := by
  obtain ⟨extents, hExtents⟩ := exists_mapM_eq_ok _ h
  exact ⟨_, resolveSegment_eq_ok.mpr ⟨extents, hExtents, rfl⟩⟩

theorem finish_succeeds (hOpen : view.isFinished = false) (h : ∀ segment ∈ view.expanded.segments,
    ∃ fixed, view.expanded.resolveSegment segment = .ok fixed) :
    ∃ view', view.finish.toExcept = .ok view' := by
  obtain ⟨fixed, hFixed⟩ := exists_mapM_eq_ok _ h
  refine ⟨{ view.expanded with
    segments := view.expanded.segments.zipWith Segment.fix fixed
    references := some view.expanded.collectReferences }, ?_⟩
  rw [finish, if_neg (by simp [hOpen])]
  simp only [hFixed]
  rfl

/-- The slices are none, or those that are written for the variable. -/
def Asks (view : View) (v : VarId) (slices : List Slice) : Prop :=
  slices = [] ∨ ∃ segment ∈ view.segments, segment.var = v ∧
    slices = rewrittenSlices segment.slices

/-- An open view with the resizes of `view` that asks for nothing but what is written for it. -/
structure Retraces (view again : View) : Prop where
  schema_eq : again.schema = view.schema
  isOpen : again.isFinished = false
  inStep : again.InStep
  resizes : List.Forall₂ SameResize view.resizes again.resizes
  asks : ∀ segment ∈ again.segments, view.Asks segment.var segment.slices

theorem Retraces.pushAll (h : view.Retraces again) {added : List VarId}
    (hNodup : (again.vars ++ added).Nodup) : view.Retraces (again.pushAll added) := by
  refine ⟨h.schema_eq, h.isOpen, h.inStep.pushAll hNodup, h.resizes, ?_⟩
  intro segment hMem
  rcases List.mem_append.mp hMem with hOld | hNew
  · exact h.asks segment hOld
  · obtain ⟨_, _, rfl⟩ := List.mem_map.mp hNew
    exact Or.inl rfl

theorem Retraces.expanded (h : view.Retraces again) : view.Retraces again.expanded :=
  h.pushAll (nodup_missingBelow _ h.inStep.nodup)

theorem Retraces.push (h : view.Retraces again) {v : VarId} {slices : List Slice}
    (hNew : v ∉ again.vars) (hAsks : view.Asks v slices) :
    view.Retraces (again.push (.fresh v slices)) := by
  refine ⟨h.schema_eq, h.isOpen, h.inStep.push hNew, h.resizes, ?_⟩
  intro segment hMem
  rcases List.mem_append.mp hMem with hOld | hNew
  · exact h.asks segment hOld
  · obtain rfl := List.mem_singleton.mp hNew
    exact hAsks

theorem Retraces.modifySegment (h : view.Retraces again) (v : VarId) {change : Segment → Segment}
    (hVar : ∀ segment, (change segment).var = segment.var)
    (hAsks : ∀ segment ∈ again.segments, segment.var = v → view.Asks v (change segment).slices) :
    view.Retraces (again.modifySegment v change) := by
  refine ⟨h.schema_eq, h.isOpen, h.inStep.modifySegment v hVar, h.resizes, ?_⟩
  intro segment hMem
  obtain ⟨other, hOther, rfl⟩ := h.inStep.mem_modifySegment.mp hMem
  by_cases hSame : other.var = v
  · rw [if_pos hSame, hVar, hSame]
    exact hAsks other hOther hSame
  · rw [if_neg hSame]
    exact h.asks other hOther

/-- The computation succeeds exactly if `P` holds, and then with a view that retraces `view`. -/
def RetracedIf (view : View) (P : Prop) : Except Fault View → Prop
  | .ok again => P ∧ view.Retraces again
  | .error _ => ¬P

theorem RetracedIf.congr {P Q : Prop} {x : Except Fault View} (h : view.RetracedIf P x)
    (hIff : Q ↔ P) : view.RetracedIf Q x := by
  rwa [propext hIff]

theorem RetracedIf.bind {P Q : Prop} {x : Except Fault View} {f : View → Except Fault View}
    (h : view.RetracedIf P x) (hf : ∀ again, view.Retraces again → view.RetracedIf Q (f again)) :
    view.RetracedIf (P ∧ Q) (x >>= f) := by
  cases x with
  | error fault => exact fun hBoth => h hBoth.1
  | ok again =>
      have hNext := hf again h.2
      change view.RetracedIf (P ∧ Q) (f again)
      exact hNext.congr (and_iff_right h.1)

/-- A slice that is written fits its dimension again. -/
theorem Retraces.extentAt_succeeds (hInStep : view.InStep) (h : view.Retraces again)
    {slice : Slice} {d : DimId} {extent : Extent} (hExtent : view.extentAt slice d = .ok extent) :
    ∃ extent', again.extentAt extent.slice.rewritten d = .ok extent' := by
  rcases extentAt_ok hExtent with ⟨hConstrained, fitted, hFit, rfl⟩ | ⟨_, rfl⟩
  · obtain ⟨again', hAgain⟩ := Slice.rewritten_fits hFit hConstrained
    have hFitted : fitted.rewritten.constrained = true := by
      rw [Slice.rewritten_constrained, (Slice.fit_ok hFit).1]
      exact hConstrained
    rw [extentAt]
    simp only [hFitted, if_true, hAgain,
      dimension_sameResize h.schema_eq hInStep h.inStep h.resizes]
    exact ⟨_, rfl⟩
  · exact ⟨_, rfl⟩

/-- Slices that are written for one variable do not conflict. -/
theorem Asks.agree (hInStep : view.InStep) {v : VarId} {slices slices' : List Slice}
    (h : view.Asks v slices) (h' : view.Asks v slices') :
    slices = [] ∨ slices' = [] ∨ slices = slices' := by
  rcases h with hNone | ⟨segment, hMem, hVar, rfl⟩
  · exact Or.inl hNone
  · rcases h' with hNone | ⟨other, hOther, hVar', rfl⟩
    · exact Or.inr (Or.inl hNone)
    · rw [hInStep.segment_unique hMem hOther (hVar.trans hVar'.symm)]
      exact Or.inr (Or.inr rfl)

section Resolved

variable (hInStep : view.InStep)
  (hResolved : ∀ segment ∈ view.segments, ∃ asked, view.Resolved asked segment)
include hResolved

theorem Asks.length_le {v : VarId} {slices : List Slice} (h : view.Asks v slices) :
    slices.length ≤ (view.schema.var v).rank := by
  rcases h with rfl | ⟨segment, hMem, rfl, rfl⟩
  · exact Nat.zero_le _
  · obtain ⟨asked, extents, hHas, hFixes⟩ := hResolved segment hMem
    have hLength := hFixes.length_eq
    simp only [Schema.positions, List.length_zip, List.length_append, List.length_replicate,
      Variable.rank] at hLength ⊢
    rw [rewrittenSlices, hHas.slices]
    split
    · rw [List.length_map, List.length_map]
      omega
    · exact Nat.zero_le _

include hInStep

theorem Retraces.resolveSegment_succeeds (h : view.Retraces again) {segment : Segment}
    (hMem : segment ∈ again.segments) :
    ∃ fixed, again.resolveSegment segment = .ok fixed := by
  apply View.resolveSegment_succeeds
  intro position hPosition
  have hPosition : position ∈ view.schema.positions segment.var segment.slices := by
    rw [← h.schema_eq]
    exact hPosition
  rcases h.asks segment hMem with hNone | ⟨other, hOther, hVar, hSlices⟩
  · have hWhole : position.1 = Slice.whole := by
      rw [hNone, Schema.positions, List.nil_append] at hPosition
      exact List.eq_of_mem_replicate (List.of_mem_zip hPosition).1
    rw [hWhole]
    exact ⟨_, rfl⟩
  · obtain ⟨asked, extents, hHas, hFixes⟩ := hResolved other hOther
    rw [hSlices, ← hVar, hHas.slices, positions_rewritten hFixes] at hPosition
    obtain ⟨j, hj⟩ := List.mem_iff_getElem?.mp hPosition
    obtain ⟨hSlice, hDim⟩ := List.getElem?_zip_eq_some.mp hj
    rw [List.getElem?_map, Option.map_eq_some_iff] at hSlice
    obtain ⟨extent, hExtent, hEq⟩ := hSlice
    have hAt := forall₂_getElem? hFixes (Schema.getElem?_positions hDim asked) hExtent
    rw [← hEq]
    exact h.extentAt_succeeds hInStep hAt

/-- A view that retraces another one can be finished. -/
theorem Retraces.finish_succeeds (h : view.Retraces again) :
    ∃ view', again.finish.toExcept = .ok view' :=
  View.finish_succeeds h.isOpen fun _ hMem =>
    h.expanded.resolveSegment_succeeds hInStep hResolved hMem

/-- Selecting what is written for a variable is accepted. -/
theorem Retraces.addVariable (h : view.Retraces again) {v : VarId} {slices : List Slice}
    (hAsks : view.Asks v slices) :
    view.RetracedIf True (again.addVariable v slices).toExcept := by
  have hEnclosing : view.Retraces (again.selectEnclosing v) := by
    have hNodup := (h.inStep.selectEnclosing v).nodup
    obtain ⟨added, hEq⟩ := selectEnclosing_eq again v
    rw [hEq] at hNodup ⊢
    exact h.pushAll hNodup
  have hRank : slices.length ≤ (again.schema.var v).rank := by
    rw [h.schema_eq]
    exact hAsks.length_le hResolved
  obtain ⟨again', hAdd⟩ := h.inStep.addVariable_succeeds h.isOpen hRank fun segment hMem hVar =>
    Asks.agree hInStep (hVar ▸ hEnclosing.asks segment hMem) hAsks
  rw [hAdd]
  refine ⟨trivial, ?_⟩
  obtain ⟨_, _, ⟨hNew, rfl⟩ | ⟨_, _, _, ⟨_, rfl⟩ | ⟨_, _, rfl⟩⟩⟩ := addVariable_ok hAdd
  · exact hEnclosing.push hNew hAsks
  · exact hEnclosing.modifySegment v (fun _ => rfl) fun _ _ _ => hAsks
  · exact hEnclosing

/-- Attaching a filter to a sequence is accepted. -/
theorem Retraces.setFilter (h : view.Retraces again) {v : VarId} (filter : Filter)
    (hSequence : (view.schema.var v).isSequence = true) :
    view.RetracedIf True (again.setFilter v filter).toExcept := by
  obtain ⟨again', hSet⟩ := h.inStep.setFilter_succeeds filter h.isOpen (h.schema_eq ▸ hSequence)
  rw [hSet]
  refine ⟨trivial, ?_⟩
  obtain ⟨_, base, hBase, rfl⟩ := setFilter_ok hSet
  have hRetraces : view.Retraces base := by
    rcases hBase with ⟨_, rfl⟩ | ⟨_, hAdd⟩
    · exact h
    · have hAdded := h.addVariable hInStep hResolved (v := v) (Or.inl rfl)
      rw [hAdd] at hAdded
      exact hAdded.2
  exact hRetraces.modifySegment v (fun _ => rfl) fun segment hMem hVar =>
    hVar ▸ hRetraces.asks segment hMem

end Resolved

end View

end Hyperslab
