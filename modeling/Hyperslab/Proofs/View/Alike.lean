import Hyperslab.Proofs.View.References
import Hyperslab.Proofs.View.Run

/-! Views that come of the same edits in another order. They select the same variables with the same
slices, in another order perhaps, and so they are finished alike and give the same answers. -/
namespace Hyperslab.View

open Schema (Tree Below)

/-- The views differ at most in the order in which variables were selected and filters attached. -/
structure Alike (view again : View) : Prop where
  schema_eq : again.schema = view.schema
  references : again.references = view.references
  resizes : again.resizes = view.resizes
  resized : again.resized = view.resized
  asked : ∀ x given, (x, given) ∈ again.asked ↔ (x, given) ∈ view.asked
  filters : ∀ x, ∃ filters others : List Filter, filters.Perm others ∧
    view.filter? x = joinAll none filters ∧ again.filter? x = joinAll none others

variable {view again : View}

theorem Alike.symm (h : view.Alike again) : again.Alike view := by
  refine ⟨h.schema_eq.symm, h.references.symm, h.resizes.symm, h.resized.symm,
    fun x given => (h.asked x given).symm, fun x => ?_⟩
  obtain ⟨filters, others, hPerm, hFilter, hOther⟩ := h.filters x
  exact ⟨others, filters, hPerm.symm, hOther, hFilter⟩

/-- A selected variable without slices is one that is asked for without any. -/
theorem InStep.mem_asked_nil (hInStep : view.InStep) {x : VarId} : (x, []) ∈ view.asked ↔
    x ∈ view.vars ∧ ∀ given, (x, given) ∈ view.asked → given = [] := by
  constructor
  · intro hAsked
    obtain ⟨segment, hMem, rfl, hNone⟩ := mem_asked.mp hAsked
    refine ⟨hInStep.mem_vars hMem, fun given hGiven => ?_⟩
    obtain ⟨other, hOther, hSame, rfl⟩ := mem_asked.mp hGiven
    rw [hInStep.segment_unique hOther hMem hSame, hNone]
  · rintro ⟨hx, hNone⟩
    obtain ⟨segment, hMem, rfl⟩ := hInStep.exists_segment hx
    have hAsked := mem_asked.mpr ⟨segment, hMem, rfl, rfl⟩
    exact hNone _ hAsked ▸ hAsked

/-- Views that have grown by the same ask for the same. -/
theorem mem_asked_of_grows {start : View} {named named' : VarId → List Slice → Prop}
    (hInStep : start.InStep) (h : Grows start view named) (h' : Grows start again named')
    (hSame : ∀ x given, named' x given ↔ named x given) (x : VarId) (given : List Slice) :
    (x, given) ∈ again.asked ↔ (x, given) ∈ view.asked := by
  have hSome {given : List Slice} (hGiven : given ≠ []) :
      (x, given) ∈ again.asked ↔ (x, given) ∈ view.asked := by
    rw [h.asked x given hGiven, h'.asked x given hGiven, hSame]
  by_cases hGiven : given = []
  · rw [hGiven, (h.inStep hInStep).mem_asked_nil, (h'.inStep hInStep).mem_asked_nil, h.vars,
      h'.vars]
    simp only [hSame]
    refine and_congr_right fun _ => forall_congr' fun other => ?_
    by_cases hOther : other = []
    · simp [hOther]
    · rw [hSome hOther]
  · exact hSome hGiven

/-- In which order edits select variables and attach filters makes no difference. -/
theorem Open.run_perm {schema : Schema} (hTree : schema.Tree) (hComplete : schema.Complete)
    {start : View} (h : start.Open schema) (hFilters : ∀ x, start.filter? x = none)
    {edits others : List Edit} (hPerm : edits.Perm others)
    (hAsks : ∀ edit ∈ edits, edit.asks.isSome = true) :
    ((∃ view, start.run edits = .ok view) ↔ ∃ again, start.run others = .ok again) ∧
      ∀ view again, start.run edits = .ok view → start.run others = .ok again →
        view.Alike again := by
  have hAsks' : ∀ edit ∈ others, edit.asks.isSome = true :=
    fun edit hMem => hAsks edit (hPerm.mem_iff.mpr hMem)
  constructor
  · rw [h.run_iff hTree hComplete hAsks, h.run_iff hTree hComplete hAsks']
    refine and_congr (forall_congr' fun edit => imp_congr_left hPerm.mem_iff) ?_
    refine Consistent.congr fun v given _ => ?_
    rw [List.mem_append, List.mem_append, (hPerm.filterMap Edit.asks).mem_iff]
  · intro view again hRun hRun'
    obtain ⟨hGrows, _⟩ := h.run_names hTree hComplete hAsks hRun
    obtain ⟨hGrows', _⟩ := h.run_names hTree hComplete hAsks' hRun'
    refine ⟨hGrows'.schema.trans hGrows.schema.symm,
      hGrows'.references.trans hGrows.references.symm,
      hGrows'.resizes.trans hGrows.resizes.symm, hGrows'.resized.trans hGrows.resized.symm, ?_,
      fun x => ?_⟩
    · refine mem_asked_of_grows h.coherent.toInStep hGrows hGrows' fun x given => ?_
      simp only [hPerm.mem_iff]
    · have hJoined := h.coherent.run_filter? hAsks hRun x
      have hJoined' := h.coherent.run_filter? hAsks' hRun' x
      rw [hFilters] at hJoined hJoined'
      exact ⟨_, _, hPerm.filterMap _, hJoined, hJoined'⟩

theorem InStep.mem_vars_iff (h : view.InStep) {x : VarId} :
    x ∈ view.vars ↔ ∃ given, (x, given) ∈ view.asked := by
  simp [h.vars_eq, asked]

section Alike

variable (h : view.Alike again) (hView : view.InStep) (hAgain : again.InStep)
include h hView hAgain

theorem Alike.mem_vars {x : VarId} : x ∈ again.vars ↔ x ∈ view.vars := by
  rw [hView.mem_vars_iff, hAgain.mem_vars_iff]
  exact exists_congr fun given => h.asked x given

theorem Alike.mem_bareCompounds {c : VarId} : c ∈ again.bareCompounds ↔ c ∈ view.bareCompounds := by
  simp only [hView.mem_bareCompounds, hAgain.mem_bareCompounds, h.schema_eq,
    h.mem_vars hView hAgain]

end Alike

/-- Expanding asks for what is below the bare compounds, without slices. -/
theorem Coherent.mem_asked_expanded (hView : view.Coherent) (hTree : view.schema.Tree) {x : VarId}
    {given : List Slice} : (x, given) ∈ view.expanded.asked ↔
      (x, given) ∈ view.asked ∨ given = [] ∧ ∃ c ∈ view.bareCompounds, view.schema.Below c x := by
  have hClosed : ∀ c v, v ∈ (view.schema.var c).fields → v ∈ view.vars → c ∈ view.vars :=
    fun c v hField hv => hView.owner_mem hv (hTree.owner hField)
  have hMissing := (missingBelow_spec hTree view.schema.vars.size
    (hView.untouched_bareCompounds hTree hClosed) fun c _ => Nat.le_add_right _ _).1 x
  rw [← hMissing]
  simp [View.expanded, pushAll, asked, Segment.fresh, eq_comm, and_comm]

/-- Views that are alike are alike when they are expanded. -/
theorem Alike.expanded (h : view.Alike again) (hTree : view.schema.Tree) (hView : view.Coherent)
    (hAgain : again.Coherent) : view.expanded.Alike again.expanded := by
  refine ⟨h.schema_eq, h.references, h.resizes, h.resized, fun x given => ?_, fun x => ?_⟩
  · rw [hView.mem_asked_expanded hTree, hAgain.mem_asked_expanded (h.schema_eq.symm ▸ hTree),
      h.asked, h.schema_eq]
    simp only [h.mem_bareCompounds hView.toInStep hAgain.toInStep]
  · obtain ⟨filters, others, hPerm, hFilter, hOther⟩ := h.filters x
    exact ⟨filters, others, hPerm,
      (hView.filter?_pushAll hView.toInStep.expanded.nodup x).trans hFilter,
      (hAgain.filter?_pushAll hAgain.toInStep.expanded.nodup x).trans hOther⟩

/-- A variable of one view has a segment in the other one that asks for the same. -/
theorem Alike.segment (h : view.Alike again) {other : Segment} (hMem : other ∈ again.segments) :
    ∃ segment ∈ view.segments, segment.var = other.var ∧ segment.slices = other.slices :=
  mem_asked.mp ((h.asked _ _).mp (mem_asked.mpr ⟨other, hMem, rfl, rfl⟩))

theorem Alike.positions (h : view.Alike again) {segment other : Segment}
    (hVar : segment.var = other.var) (hSlices : segment.slices = other.slices) :
    again.positions other = view.positions segment := by
  simp only [View.positions, h.schema_eq, hVar, hSlices]

theorem Alike.resolvePosition (h : view.Alike again) (fixed : Extents) (slice : Slice)
    (d : DimId) : again.resolvePosition fixed slice d = view.resolvePosition fixed slice d := by
  simp only [View.resolvePosition, dimension, resized?, resize?, h.schema_eq, h.resizes, h.resized]

/-- For segments that ask for the same, the same is fixed. -/
theorem Alike.resolveSegment (h : view.Alike again) {segment other : Segment}
    (hVar : segment.var = other.var) (hSlices : segment.slices = other.slices) :
    again.resolveSegment other = view.resolveSegment segment := by
  simp only [View.resolveSegment, h.positions hVar hSlices, h.resolvePosition]

/-- A view can be finished if each segment of its expansion can be resolved. -/
theorem finish_iff (hOpen : view.isFinished = false) :
    (∃ finished, view.finish.toExcept = .ok finished) ↔
      ∀ segment ∈ view.expanded.segments, ∃ fixed,
        view.expanded.resolveSegment segment = .ok fixed := by
  constructor
  · rintro ⟨finished, hFinish⟩ segment hMem
    obtain ⟨_, segments, hSegments, _⟩ := finish_ok hFinish
    obtain ⟨_, _, hSettle⟩ := exists_of_forall₂_right hSegments.flip hMem
    obtain ⟨fixed, hFixed, _⟩ := map_eq_ok_iff.mp hSettle
    exact ⟨fixed, hFixed⟩
  · exact finish_succeeds hOpen

/-- What is selected, and all that finished views answer, is the same. -/
structure SameAnswers (view again : View) : Prop where
  schema_eq : again.schema = view.schema
  vars : ∀ v, v ∈ again.vars ↔ v ∈ view.vars
  segments : ∀ segment ∈ view.segments, ∀ other ∈ again.segments, other.var = segment.var →
    other.slices = segment.slices ∧ other.dimensions = segment.dimensions ∧
      other.projection = segment.projection
  resizes : again.resizes = view.resizes
  resized : again.resized = view.resized
  dims : ∀ d, d ∈ again.collected.dims ↔ d ∈ view.collected.dims
  enums : ∀ e, e ∈ again.collected.enums ↔ e ∈ view.collected.enums
  groups : ∀ g, g ∈ again.collected.groups ↔ g ∈ view.collected.groups
  matchRow : ∀ v row, SameResult (again.matchRow v row) (view.matchRow v row)

theorem Alike.mem_referredDims (h : view.Alike again) {d : DimId}
    (hMem : d ∈ again.referredDims) : d ∈ view.referredDims := by
  rw [View.mem_referredDims, h.schema_eq, h.resizes] at hMem
  rw [View.mem_referredDims]
  refine hMem.imp_right ?_
  rintro ⟨hShared, other, hOther, slice, hPosition, hWhole⟩
  obtain ⟨segment, hSegment, hVar, hSlices⟩ := h.segment hOther
  rw [h.positions hVar hSlices] at hPosition
  exact ⟨hShared, segment, hSegment, slice, hPosition, hWhole⟩

theorem Alike.collectReferences (h : view.Alike again) (hView : view.InStep)
    (hAgain : again.InStep) :
    (∀ d, d ∈ again.collectReferences.dims ↔ d ∈ view.collectReferences.dims) ∧
      (∀ e, e ∈ again.collectReferences.enums ↔ e ∈ view.collectReferences.enums) ∧
        ∀ g, g ∈ again.collectReferences.groups ↔ g ∈ view.collectReferences.groups := by
  have hDims (d : DimId) : d ∈ again.referredDims ↔ d ∈ view.referredDims :=
    ⟨h.mem_referredDims, h.symm.mem_referredDims⟩
  have hEnums (e : EnumId) : e ∈ again.referredEnums ↔ e ∈ view.referredEnums := by
    simp only [mem_referredEnums, h.mem_vars hView hAgain, h.schema_eq]
  refine ⟨hDims, hEnums, fun g => ?_⟩
  simp only [View.collectReferences, mem_referredGroups, h.mem_vars hView hAgain, h.schema_eq,
    hDims, hEnums]

theorem finish_isFinished {finished : View} (hFinish : view.finish.toExcept = .ok finished) :
    finished.isFinished = true := by
  obtain ⟨hFault, rfl⟩ := Edited.toExcept_eq_ok hFinish
  exact isFinished_of_finish hFault

section Finished

variable {finished finished' : View} (h : view.Alike again)
  (hFinish : view.finish.toExcept = .ok finished) (hFinish' : again.finish.toExcept = .ok finished')
include h hFinish hFinish'

theorem Alike.matchRow (hView : view.InStep) (hAgain : again.InStep) (v : VarId) (row : Row) :
    SameResult (finished'.matchRow v row) (finished.matchRow v row) := by
  obtain ⟨filters, others, hPerm, hFilter, hOther⟩ := h.filters v
  have hSchema : finished'.schema = finished.schema := by
    obtain ⟨_, _, _, rfl⟩ := finish_ok hFinish
    obtain ⟨_, _, _, rfl⟩ := finish_ok hFinish'
    exact h.schema_eq
  rw [matchRow_of_finished (finish_isFinished hFinish), hView.finish_filter? hFinish,
    matchRow_of_finished (finish_isFinished hFinish'), hAgain.finish_filter? hFinish', hSchema,
    hFilter, hOther]
  cases hJoined : joinAll none filters with
  | none =>
      rw [joinAll_eq_none] at hJoined
      subst hJoined
      obtain rfl := hPerm.nil_eq
      exact .refl _
  | some filter =>
      cases hJoined' : joinAll none others with
      | none =>
          rw [joinAll_eq_none] at hJoined'
          subst hJoined'
          rw [hPerm.eq_nil] at hJoined
          cases hJoined
      | some other => exact Filter.accepts_joinAll_perm hPerm.symm hJoined' hJoined

theorem Alike.finished_segments (hTree : view.schema.Tree) (hView : view.Coherent)
    (hAgain : again.Coherent) : ∀ segment ∈ finished.segments, ∀ other ∈ finished'.segments,
      other.var = segment.var → other.slices = segment.slices ∧
        other.dimensions = segment.dimensions ∧ other.projection = segment.projection := by
  intro segment hSegment other hOther hVar
  have hExpanded := h.expanded hTree hView hAgain
  obtain ⟨_, segments, hSegments, rfl⟩ := finish_ok hFinish
  obtain ⟨_, others, hOthers, rfl⟩ := finish_ok hFinish'
  obtain ⟨before, hBefore, hSettle⟩ := exists_of_forall₂_right hSegments hSegment
  obtain ⟨before', hBefore', hSettle'⟩ := exists_of_forall₂_right hOthers hOther
  obtain ⟨same, hSame, hSameVar, hSlices⟩ := hExpanded.segment hBefore'
  have hVars : same.var = before.var := by
    rw [hSameVar, ← (settleSegment_ok hSettle').1, hVar, (settleSegment_ok hSettle).1]
  obtain rfl := hView.toInStep.expanded.segment_unique hSame hBefore hVars
  obtain ⟨fixed, hFixed, rfl⟩ := map_eq_ok_iff.mp hSettle
  obtain ⟨fixed', hFixed', rfl⟩ := map_eq_ok_iff.mp hSettle'
  rw [hExpanded.resolveSegment hSameVar hSlices, hFixed] at hFixed'
  cases hFixed'
  exact ⟨rfl, rfl, rfl⟩

theorem Alike.sameAnswers (hTree : view.schema.Tree) (hView : view.Coherent)
    (hAgain : again.Coherent) : finished.SameAnswers finished' := by
  have hExpanded := h.expanded hTree hView hAgain
  have hInStep := hView.toInStep.expanded
  have hInStep' := hAgain.toInStep.expanded
  obtain ⟨hDims, hEnums, hGroups⟩ := hExpanded.collectReferences hInStep hInStep'
  have hSegments := h.finished_segments hFinish hFinish' hTree hView hAgain
  have hRows := h.matchRow hFinish hFinish' hView.toInStep hAgain.toInStep
  obtain ⟨_, _, _, rfl⟩ := finish_ok hFinish
  obtain ⟨_, _, _, rfl⟩ := finish_ok hFinish'
  exact ⟨h.schema_eq, fun _ => hExpanded.mem_vars hInStep hInStep', hSegments, h.resizes, h.resized,
    hDims, hEnums, hGroups, hRows⟩

end Finished

/-- Of views that are alike, one can be finished if the other one can. -/
theorem Alike.finish_succeeds (h : view.Alike again) (hTree : view.schema.Tree)
    (hView : view.Coherent) (hAgain : again.Coherent)
    (hFinish : ∃ finished, view.finish.toExcept = .ok finished) :
    ∃ finished, again.finish.toExcept = .ok finished := by
  have hExpanded := h.expanded hTree hView hAgain
  obtain ⟨finished, hFinished⟩ := hFinish
  obtain ⟨hOpen, _⟩ := finish_ok hFinished
  have hOpen' : again.isFinished = false := by
    rw [isFinished, h.references]
    exact hOpen
  refine (finish_iff hOpen').mpr fun other hOther => ?_
  obtain ⟨segment, hSegment, hVar, hSlices⟩ := hExpanded.segment hOther
  rw [hExpanded.resolveSegment hVar hSlices]
  exact (finish_iff hOpen).mp ⟨finished, hFinished⟩ segment hSegment

end Hyperslab.View
