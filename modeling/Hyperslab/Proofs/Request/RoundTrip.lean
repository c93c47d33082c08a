import Hyperslab.Proofs.Request.Spelled

/-! Writing a view and compiling what is written. The second view selects the same as the first one,
except that a whole compound inside a compound that is not whole comes back without its fields. -/
namespace Hyperslab

/-- A reader sees two segments with the same sizes, and with the same indices at each position. -/
def Segment.SameShape (segment other : Segment) : Prop :=
  other.dimensions.map (·.size) = segment.dimensions.map (·.size) ∧
    other.projection.map Slice.indices = segment.projection.map Slice.indices

/-- Two views select the same variables, resize the same dimensions to the same indices, and give
the same shape to each variable. -/
structure View.SameSelection (view again : View) : Prop where
  vars : ∀ v, v ∈ again.vars ↔ v ∈ view.vars
  resizes : again.resizes.map (fun entry => (entry.1, entry.2.indices)) =
    view.resizes.map fun entry => (entry.1, entry.2.indices)
  shapes : ∀ segment ∈ view.segments, ∀ other ∈ again.segments, other.var = segment.var →
    segment.SameShape other

namespace View

variable {view again : View}

/-- Where dimensions are resized in the same way, they have the same sizes and indices. -/
theorem lookup_sameResize {resizes resizes' : List (DimId × Slice)}
    (h : List.Forall₂ SameResize resizes resizes') (d : DimId) :
    (resizes'.lookup d).map (fun slice => (slice.indices, slice.count)) =
      (resizes.lookup d).map fun slice => (slice.indices, slice.count) := by
  induction h with
  | nil => rfl
  | @cons entry entry' _ _ hSame _ ih =>
      obtain ⟨d', slice⟩ := entry
      obtain ⟨d'', slice'⟩ := entry'
      obtain ⟨rfl, hIndices, hCount, _⟩ := hSame
      simp only [List.lookup_cons]
      split
      · simp only [Option.map_some, hIndices, hCount]
      · exact ih

theorem indices_sameResize {resizes resizes' : List (DimId × Slice)}
    (h : List.Forall₂ SameResize resizes resizes') :
    resizes'.map (fun entry => (entry.1, entry.2.indices)) =
      resizes.map fun entry => (entry.1, entry.2.indices) :=
  map_eq_of_forall₂ h fun _ _ hSame => by rw [hSame.1, hSame.2.1]

theorem resized?_sameResize (hInStep : view.InStep) (hInStep' : again.InStep)
    (hSchema : again.schema = view.schema)
    (h : List.Forall₂ SameResize view.resizes again.resizes) (d : DimId) :
    again.resized? d = view.resized? d := by
  have hLookup := congrArg (Option.map Prod.snd) (lookup_sameResize h d)
  simp only [Option.map_map, Function.comp_def] at hLookup
  have hEq := congrArg (Option.map fun count => (view.schema.dimension d).resized count) hLookup
  rw [hInStep'.resized, hInStep.resized, hSchema]
  simpa [resize?, Option.map_map, Function.comp_def] using hEq

theorem resize?_sameResize (h : List.Forall₂ SameResize view.resizes again.resizes) (d : DimId)
    (size : UInt64) : ((again.resize? d).getD (.full size)).indices =
      ((view.resize? d).getD (.full size)).indices := by
  have hLookup := congrArg (Option.map Prod.fst) (lookup_sameResize h d)
  simp only [Option.map_map, Function.comp_def] at hLookup
  have hGet (o : Option Slice) :
      (o.getD (.full size)).indices = (o.map Slice.indices).getD (Slice.full size).indices := by
    cases o <;> rfl
  rw [hGet, hGet]
  exact congrArg (Option.getD · _) hLookup

/-- Two positions have the same shape, and slices that are written alike. -/
structure SamePosition (a b : Extent) : Prop where
  size : b.dimension.size = a.dimension.size
  indices : b.projection.indices = a.projection.indices
  constrained : b.slice.constrained = a.slice.constrained
  chars : b.slice.chars = a.slice.chars

section Again

variable (hSchema : again.schema = view.schema) (hInStep : view.InStep) (hInStep' : again.InStep)
  (hResizes : List.Forall₂ SameResize view.resizes again.resizes)
include hSchema hInStep hInStep' hResizes

theorem dimension_sameResize (d : DimId) : again.dimension d = view.dimension d := by
  rw [dimension, dimension, resized?_sameResize hInStep hInStep' hSchema hResizes, hSchema]

/-- A position that is written and resolved again keeps its shape and its text. -/
theorem extentAt_again {slice : Slice} {d : DimId} {extent extent' : Extent}
    (hExtent : view.extentAt slice d = .ok extent)
    (hExtent' : again.extentAt extent.slice.rewritten d = .ok extent') :
    SamePosition extent extent' := by
  have hAgain := extentAt_ok hExtent'
  rw [dimension_sameResize hSchema hInStep hInStep' hResizes d,
    Slice.rewritten_constrained] at hAgain
  rcases extentAt_ok hExtent with ⟨hConstrained, fitted, hFit, rfl⟩ | ⟨_, rfl⟩
  · have hFitted : fitted.constrained = true := by
      rw [(Slice.fit_ok hFit).1]
      exact hConstrained
    rcases hAgain with ⟨_, fitted', hAgain, rfl⟩ | ⟨hWhole, _⟩
    · obtain ⟨hIndices, hCount, hChars⟩ := Slice.rewritten_fit hFit hConstrained hAgain
      refine ⟨by simp only [Dimension.anonymous, hCount], hIndices, ?_, hChars⟩
      rw [(Slice.fit_ok hAgain).1]
      exact Slice.rewritten_constrained fitted
    · rw [hFitted] at hWhole
      cases hWhole
  · rcases hAgain with ⟨hWhole, _⟩ | ⟨_, rfl⟩
    · cases hWhole
    · exact ⟨rfl, resize?_sameResize hResizes d _, rfl, rfl⟩

/-- Positions that are written and resolved again keep their shapes and their texts. -/
theorem positions_again {dims : List DimId} {asked : List Slice} {extents extents' : List Extent}
    (hFixes : view.Fixes (asked.zip dims) extents)
    (hFixes' : again.Fixes ((extents.map (·.slice.rewritten)).zip dims) extents') :
    List.Forall₂ SamePosition extents extents' := by
  induction dims generalizing asked extents extents' with
  | nil =>
      rw [List.zip_nil_right] at hFixes hFixes'
      cases hFixes
      cases hFixes'
      exact .nil
  | cons d dims ih =>
      cases asked with
      | nil =>
          cases hFixes
          cases hFixes'
          exact .nil
      | cons slice asked =>
          cases hFixes with
          | cons hExtent hFixes =>
              cases hFixes' with
              | cons hExtent' hFixes' =>
                  exact .cons (extentAt_again hSchema hInStep hInStep' hResizes hExtent hExtent')
                    (ih hFixes hFixes')

end Again

/-- The slices that are written ask for the positions that were resolved. -/
theorem positions_rewritten {asked : List Slice} {v : VarId} {extents : List Extent}
    (hFixes : view.Fixes (view.schema.positions v asked) extents) :
    view.schema.positions v (rewrittenSlices (extents.map (·.slice))) =
      (extents.map (·.slice.rewritten)).zip (view.schema.var v).dims := by
  have hLength : extents.length = (view.schema.var v).rank := by
    have hEq := hFixes.length_eq
    simp only [Schema.positions, List.length_zip, List.length_append, List.length_replicate,
      Variable.rank] at hEq ⊢
    omega
  rw [Schema.positions, rewrittenSlices]
  congr 1
  split
  · simp only [List.map_map, Function.comp_def, List.length_map, hLength, Nat.sub_self,
      List.replicate_zero, List.append_nil]
  · next hNone =>
      have hWhole : ∀ extent ∈ extents, extent.slice.rewritten = Slice.whole := by
        intro extent hExtent
        have hFree : extent.slice.constrained = false := by
          simp only [List.any_map, List.any_eq_true, not_exists, not_and, Function.comp_apply,
            Bool.not_eq_true] at hNone
          exact hNone extent hExtent
        rw [Slice.rewritten, if_neg (by simp [hFree])]
      rw [List.nil_append, List.length_nil, Nat.sub_zero, ← hLength]
      refine (List.eq_replicate_iff.mpr ⟨List.length_map _, fun slice hSlice => ?_⟩).symm
      obtain ⟨extent, hExtent, rfl⟩ := List.mem_map.mp hSlice
      exact hWhole extent hExtent

/-- The clauses that are written for the view mention the variable. -/
def Mentioned (view : View) (v : VarId) : Prop := ∃ top ∈ view.tops, view.Shown top v

theorem Mentioned.selected {v : VarId} (h : view.Mentioned v) : v ∈ view.vars := by
  obtain ⟨top, hTop, hShown⟩ := h
  exact hShown.selected (mem_tops.mp hTop).1

theorem Mentioned.field {c f : VarId} (h : view.Mentioned c)
    (hField : f ∈ (view.schema.var c).fields) (hSelected : f ∈ view.vars)
    (hPart : ¬view.Whole c) : view.Mentioned f := by
  obtain ⟨top, hTop, hShown⟩ := h
  exact ⟨top, hTop, .field hShown hField hSelected hPart⟩

theorem Mentioned.above (hTree : view.schema.Tree) {c f : VarId} (h : view.Mentioned f)
    (hField : f ∈ (view.schema.var c).fields) : view.Mentioned c ∧ ¬view.Whole c := by
  obtain ⟨top, hTop, hShown⟩ := h
  obtain ⟨hUp, hPart⟩ := hShown.above hTree (mem_tops.mp hTop).2 hField
  exact ⟨⟨top, hTop, hUp⟩, hPart⟩

end View

namespace Request

/-- What is not mentioned is below a whole compound that is. -/
theorem Outcome.mentioned_or {schema : Schema} {request : Request} {view : View}
    (hTree : schema.Tree) (h : request.Outcome schema view) (hWritable : request.Writable)
    (v : VarId) (hv : v ∈ view.vars) : view.Mentioned v ∨
      ∃ c, view.Mentioned c ∧ view.Whole c ∧ schema.Below c v := by
  cases hTop : (schema.var v).isTopLevel with
  | true =>
      refine Or.inl ⟨v, View.mem_tops.mpr ⟨hv, ?_⟩, .self⟩
      rw [h.schema_eq]
      exact hTop
  | false =>
      obtain ⟨c, hSelected, hField⟩ := h.exists_parent hTree hWritable hv hTop
      have hAfter := hTree.after hField
      rcases mentioned_or hTree h hWritable c hSelected with
        hMentioned | ⟨d, hMentioned, hWhole, hBelow⟩
      · by_cases hWhole : view.Whole c
        · exact Or.inr ⟨c, hMentioned, hWhole, .field hField⟩
        · refine Or.inl (hMentioned.field ?_ hv hWhole)
          rw [h.schema_eq]
          exact hField
      · exact Or.inr ⟨d, hMentioned, hWhole, .step hBelow hField⟩
termination_by v.index

/-- The view `again` of `request'` comes from what the view of `request` writes. -/
structure Rewrites (schema : Schema) (request : Request) (view : View) (request' : Request)
    (again : View) : Prop where
  tree : schema.Tree
  writable : request.Writable
  before : request.Outcome schema view
  after : request'.Outcome schema again
  clauses : List.Forall₂ view.Describes view.tops request'.clauses
  entered : View.Entered schema view.resizes
  resizes : request'.resizes = view.resizes.map view.resizeOf

namespace Rewrites

variable {schema : Schema} {request request' : Request} {view again : View}

theorem mentions_iff (h : Rewrites schema request view request' again) {v : VarId}
    {given : List Slice} : request'.Mentions schema v given ↔ view.Mentioned v ∧
      ∃ segment ∈ view.segments, segment.var = v ∧
        given = View.rewrittenSlices segment.slices := by
  constructor
  · rintro ⟨clause, hMem, hMentions⟩
    obtain ⟨top, hTop, hDescribes⟩ := exists_of_forall₂_right h.clauses hMem
    rw [← View.scope_of_mem_tops hTop, ← h.before.schema_eq] at hMentions
    obtain ⟨hShown, hSegment⟩ := (hDescribes v given).mp hMentions
    exact ⟨⟨top, hTop, hShown⟩, hSegment⟩
  · rintro ⟨⟨top, hTop, hShown⟩, hSegment⟩
    obtain ⟨clause, hMem, hDescribes⟩ := exists_of_forall₂_right h.clauses.flip hTop
    have hMentions := (hDescribes v given).mpr ⟨hShown, hSegment⟩
    rw [View.scope_of_mem_tops hTop, h.before.schema_eq] at hMentions
    exact ⟨clause, hMem, hMentions⟩

theorem names_iff (h : Rewrites schema request view request' again) {v : VarId} :
    request'.Names schema v ↔ view.Mentioned v := by
  constructor
  · rintro ⟨given, hMentions⟩
    exact (h.mentions_iff.mp hMentions).1
  · intro hMentioned
    obtain ⟨segment, hMem, hVar⟩ := h.before.inStep.exists_segment hMentioned.selected
    exact ⟨_, h.mentions_iff.mpr ⟨hMentioned, segment, hMem, hVar, rfl⟩⟩

/-- A compound that the written text names bare has been whole. -/
theorem whole_of_bare (h : Rewrites schema request view request' again) {c : VarId}
    (hBare : request'.NamesBare schema c) : view.Whole c := by
  have hMentioned := h.names_iff.mp hBare.names
  by_contra hPart
  -- Its fields are not mentioned, so none is selected; but a bare compound selects its fields.
  have hNone : ∀ f ∈ (schema.var c).fields, f ∉ view.vars := by
    intro f hField hSelected
    rw [← h.before.schema_eq] at hField
    have hNamed := h.names_iff.mpr (hMentioned.field hField hSelected hPart)
    exact hBare.fields f (h.before.schema_eq ▸ hField) hNamed
  have hNames : request.Names schema c := by
    rcases (h.before.vars c).mp hMentioned.selected with hNames | ⟨d, _, hBelow⟩
    · exact hNames
    · have hTop := hBare.isTopLevel
      rw [h.tree.not_isTopLevel_of_below hBelow] at hTop
      cases hTop
  refine hPart (h.before.whole_of_bare h.tree ⟨hNames, hBare.isTopLevel, hBare.isCompound, ?_⟩)
  intro f hField hNamed
  exact hNone f hField ((h.before.vars f).mpr (Or.inl hNamed))

/-- Nothing is selected anew. -/
theorem subset (h : Rewrites schema request view request' again) {v : VarId}
    (hv : v ∈ again.vars) : v ∈ view.vars := by
  rcases (h.after.vars v).mp hv with hNames | ⟨c, hBare, hBelow⟩
  · exact (h.names_iff.mp hNames).selected
  · rw [← h.before.schema_eq] at hBelow
    obtain ⟨segment, hMem, rfl, _⟩ := h.whole_of_bare hBare v hBelow
    exact h.before.inStep.mem_vars hMem

/-- Where no whole compound with fields lies in a compound that is not whole, nothing is lost. -/
theorem superset (h : Rewrites schema request view request' again)
    (hWhole : ∀ c d, d ∈ (schema.var c).fields → (schema.var d).fields ≠ [] → view.Whole d →
      view.Whole c) {v : VarId} (hv : v ∈ view.vars) : v ∈ again.vars := by
  have hTree : view.schema.Tree := h.before.schema_eq ▸ h.tree
  rcases h.before.mentioned_or h.tree h.writable v hv with
    hMentioned | ⟨c, hMentioned, hWholeC, hBelow⟩
  · exact (h.after.vars v).mpr (Or.inl (h.names_iff.mpr hMentioned))
  · obtain ⟨f, hf, _⟩ := hBelow.first
    refine (h.after.vars v).mpr (Or.inr ⟨c, ⟨h.names_iff.mpr hMentioned, ?_, ?_, ?_⟩, hBelow⟩)
    · cases hTop : (schema.var c).isTopLevel with
      | true => rfl
      | false =>
          obtain ⟨d, _, hField⟩ :=
            h.before.exists_parent h.tree h.writable hMentioned.selected hTop
          have hPart := (hMentioned.above hTree (h.before.schema_eq ▸ hField)).2
          exact absurd (hWhole d c hField (List.ne_nil_of_mem hf) hWholeC) hPart
    · exact h.tree.isCompound hf
    · intro g hg hNamed
      have hAbove := (h.names_iff.mp hNamed).above hTree (h.before.schema_eq ▸ hg)
      exact hAbove.2 hWholeC

/-- The fields of a whole compound in a compound that is not whole are lost. -/
theorem whole_of_superset (h : Rewrites schema request view request' again)
    (hVars : ∀ v ∈ view.vars, v ∈ again.vars) {c d : VarId} (hField : d ∈ (schema.var c).fields)
    (hSome : (schema.var d).fields ≠ []) (hWhole : view.Whole d) : view.Whole c := by
  have hTree : view.schema.Tree := h.before.schema_eq ▸ h.tree
  obtain ⟨f, hf⟩ := List.exists_mem_of_ne_nil _ hSome
  have hf' : f ∈ (view.schema.var d).fields := h.before.schema_eq ▸ hf
  obtain ⟨segment, hMem, rfl, _⟩ := hWhole f (.field hf')
  have hAfter := hVars _ (h.before.inStep.mem_vars hMem)
  rcases (h.after.vars _).mp hAfter with hNames | ⟨b, hBare, hBelow⟩
  · exact absurd hWhole ((h.names_iff.mp hNames).above hTree hf').2
  · have hWholeB := h.whole_of_bare hBare
    rcases h.tree.below_parent hf hBelow with rfl | hBelow
    · have hTop := hBare.isTopLevel
      rw [h.tree.not_isTopLevel_of_below (.field hField)] at hTop
      cases hTop
    · rcases h.tree.below_parent hField hBelow with rfl | hBelow
      · exact hWholeB
      · exact hWholeB.below (h.before.schema_eq ▸ hBelow)

theorem sameResize (h : Rewrites schema request view request' again) :
    List.Forall₂ View.SameResize view.resizes again.resizes := by
  have hRun := h.after.resizes
  rw [h.resizes] at hRun
  obtain ⟨entered, hEntered, hSame⟩ := View.addResizes_resizeOf view.resizes
    (h.before.schema_eq ▸ h.entered) h.before.schema_eq.symm (by simp [View.empty]) hRun
  rw [hEntered]
  exact hSame

/-- A segment of the second view is asked for with the slices that are written for the first. -/
theorem asked (h : Rewrites schema request view request' again) {segment other : Segment}
    (hSegment : segment ∈ view.segments) (hOther : other ∈ again.segments)
    (hVar : other.var = segment.var) :
    again.Resolved (View.rewrittenSlices segment.slices) other := by
  obtain ⟨asked, hAsked, _, hResolved⟩ := h.after.segments other hOther
  suffices hEq : asked = View.rewrittenSlices segment.slices from hEq ▸ hResolved
  have hMentions {given : List Slice} : request'.Mentions schema other.var given ↔
      view.Mentioned other.var ∧ given = View.rewrittenSlices segment.slices := by
    rw [h.mentions_iff]
    constructor
    · rintro ⟨hMentioned, found, hFound, hSame, rfl⟩
      rw [h.before.inStep.segment_unique hFound hSegment (hSame.trans hVar)]
      exact ⟨hMentioned, rfl⟩
    · rintro ⟨hMentioned, rfl⟩
      exact ⟨hMentioned, segment, hSegment, hVar.symm, rfl⟩
  by_cases hNone : asked = []
  · subst hNone
    by_contra hSome
    by_cases hMentioned : view.Mentioned other.var
    · exact hSome ((hAsked _ (Ne.symm hSome)).mp (hMentions.mpr ⟨hMentioned, rfl⟩)).symm
    · -- Neither is anything written for a variable below a whole compound.
      obtain ⟨c, _, hWhole, hBelow⟩ :=
        (h.before.mentioned_or h.tree h.writable _
          (hVar ▸ h.before.inStep.mem_vars hSegment)).resolve_left hMentioned
      obtain ⟨found, hFound, hSame, _, hFree⟩ := hWhole _ (h.before.schema_eq ▸ hBelow)
      rw [h.before.inStep.segment_unique hFound hSegment (hSame.trans hVar)] at hFree
      apply hSome
      rw [View.rewrittenSlices, if_neg (by simpa using hFree)]
  · exact (hMentions.mp ((hAsked asked hNone).mpr rfl)).2

/-- The positions of a variable look as they did. -/
theorem positions (h : Rewrites schema request view request' again) {segment other : Segment}
    (hSegment : segment ∈ view.segments) (hOther : other ∈ again.segments)
    (hVar : other.var = segment.var) : ∃ extents extents',
      segment.HasExtents extents ∧ other.HasExtents extents' ∧
        List.Forall₂ View.SamePosition extents extents' := by
  obtain ⟨_, _, _, extents, hHas, hFixes⟩ := h.before.segments segment hSegment
  obtain ⟨extents', hHas', hFixes'⟩ := h.asked hSegment hOther hVar
  have hSchema : again.schema = view.schema := h.after.schema_eq.trans h.before.schema_eq.symm
  rw [hHas.slices, hVar, hSchema, View.positions_rewritten hFixes] at hFixes'
  exact ⟨extents, extents', hHas, hHas', View.positions_again hSchema h.before.inStep
    h.after.inStep h.sameResize hFixes hFixes'⟩

/-- Each variable keeps its shape. -/
theorem shapes (h : Rewrites schema request view request' again) {segment other : Segment}
    (hSegment : segment ∈ view.segments) (hOther : other ∈ again.segments)
    (hVar : other.var = segment.var) : segment.SameShape other := by
  obtain ⟨extents, extents', hHas, hHas', hSame⟩ := h.positions hSegment hOther hVar
  constructor
  · rw [hHas.dimensions, hHas'.dimensions, List.map_map, List.map_map]
    exact map_eq_of_forall₂ hSame fun _ _ hPosition => hPosition.size
  · rw [hHas.projection, hHas'.projection, List.map_map, List.map_map]
    exact map_eq_of_forall₂ hSame fun _ _ hPosition => hPosition.indices

/-- The second view selects the same as the first one exactly if every whole compound with fields
lies in whole compounds only. -/
theorem sameSelection_iff (h : Rewrites schema request view request' again) :
    view.SameSelection again ↔ ∀ c d, d ∈ (schema.var c).fields → (schema.var d).fields ≠ [] →
      view.Whole d → view.Whole c := by
  constructor
  · intro hSame c d hField hSome hWhole
    exact h.whole_of_superset (fun v hv => (hSame.vars v).mpr hv) hField hSome hWhole
  · intro hWhole
    refine ⟨fun v => ⟨h.subset, h.superset hWhole⟩, ?_,
      fun segment hSegment other hOther => h.shapes hSegment hOther⟩
    exact View.indices_sameResize h.sameResize

end Rewrites

/-- The request that a view writes, if it is accepted, selects what the view selects exactly if no
whole compound with fields lies in a compound that is not whole. -/
theorem text_round_trip {limits : Limits} {schema : Schema} {text written : String}
    {view again : View} (hSchema : schema.Declared)
    (h : compileText limits schema text = .ok view) (hWritten : view.requestText = .ok written)
    (hAgain : compileText limits schema written = .ok again) :
    view.SameSelection again ↔ ∀ c d, d ∈ (schema.var c).fields → (schema.var d).fields ≠ [] →
      view.Whole d → view.Whole c := by
  have hTree := hSchema.tree
  obtain ⟨request, _, hWritable, hFinite, hCompile⟩ := compileText_ok h
  obtain ⟨request', hParse, _, _, hCompile'⟩ := compileText_ok hAgain
  have hBefore := outcome hTree hCompile
  have hBound := compile_filtersBound hWritable hFinite hCompile
  have hEntered : View.Entered schema view.resizes := hBefore.entered hWritable
  rw [hBefore.requestText] at hWritten
  cases hWritten
  have hSpelled := hBefore.spelled (fun _ => Value.exists_literalText) hTree hWritable hBound
  obtain ⟨hResizes, hClauses⟩ := hSpelled.parse_requestChars
    (View.Entered.dimsSpelled (hBefore.schema_eq ▸ hEntered)) (fun vs v _ word h => h) hParse
  have hRewrites : Rewrites schema request view request' again :=
    ⟨hTree, hWritable, hBefore, outcome hTree hCompile', hClauses, hEntered, hResizes⟩
  exact hRewrites.sameSelection_iff

/-- A sequence that is not whole between other clauses comes back as it was. -/
theorem text_round_trip_sample : ∃ view written again,
    compileText {} .sample "/s;q\x7bm\x7d|n>1" = .ok view ∧ view.requestText = .ok written ∧
      compileText {} .sample written = .ok again ∧ view.vars = [⟨0⟩, ⟨4⟩, ⟨5⟩, ⟨1⟩, ⟨2⟩, ⟨3⟩] ∧
        (view.SameSelection again ↔ ∀ c d, d ∈ (Schema.sample.var c).fields →
          (Schema.sample.var d).fields ≠ [] → view.Whole d → view.Whole c) := by
  have hRun : ∃ view ∈ (compileText {} .sample "/s;q\x7bm\x7d|n>1").toOption,
      ∃ written ∈ view.requestText.toOption,
        ∃ again ∈ (compileText {} .sample written).toOption,
          view.vars = [⟨0⟩, ⟨4⟩, ⟨5⟩, ⟨1⟩, ⟨2⟩, ⟨3⟩] ∧ again.vars.length = 6 := by
    decide +kernel
  obtain ⟨view, hView, written, hWritten, again, hAgain, hVars, _⟩ := hRun
  have hView := eq_ok_of_mem_toOption hView
  have hWritten := eq_ok_of_mem_toOption hWritten
  have hAgain := eq_ok_of_mem_toOption hAgain
  exact ⟨view, written, again, hView, hWritten, hAgain, hVars,
    text_round_trip Schema.sample_declared hView hWritten hAgain⟩

/-- A structure that is whole in one that is not comes back without its field. -/
theorem text_loses_nested_fields : ∃ view again,
    compileText {} .sample "/s\x7bt\x7bx\x7d\x7d" = .ok view ∧
      view.requestText = .ok "/s\x7bt\x7d" ∧
        compileText {} .sample "/s\x7bt\x7d" = .ok again ∧
          view.vars = [⟨0⟩, ⟨2⟩, ⟨3⟩] ∧ again.vars = [⟨0⟩, ⟨2⟩] ∧ ¬view.SameSelection again := by
  have hRun : ∃ view ∈ (compileText {} .sample "/s\x7bt\x7bx\x7d\x7d").toOption,
      ∃ written ∈ view.requestText.toOption,
        ∃ again ∈ (compileText {} .sample "/s\x7bt\x7d").toOption,
          written = "/s\x7bt\x7d" ∧ view.vars = [⟨0⟩, ⟨2⟩, ⟨3⟩] ∧ again.vars = [⟨0⟩, ⟨2⟩] := by
    decide +kernel
  obtain ⟨view, hView, written, hWritten, again, hAgain, rfl, hVars, hVars'⟩ := hRun
  refine ⟨view, again, eq_ok_of_mem_toOption hView, eq_ok_of_mem_toOption hWritten,
    eq_ok_of_mem_toOption hAgain, hVars, hVars', fun hSame => ?_⟩
  have hLost := hSame.vars ⟨3⟩
  rw [hVars, hVars'] at hLost
  exact absurd (hLost.mpr (by decide)) (by decide)

end Request

end Hyperslab
