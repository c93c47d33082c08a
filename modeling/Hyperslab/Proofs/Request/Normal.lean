import Hyperslab.Proofs.Request.Restored

/-! The text of a view is normal: a view that is compiled from it has the same text. Such a view may
have lost fields, but only fields that are not written. -/
namespace Hyperslab

namespace View

variable {view before after : View} {limits : Limits}

/-- Expanding and resolving select no variable of a group. -/
theorem finish_tops (hTree : view.schema.Tree) (h : view.finish.toExcept = .ok after) :
    after.tops = view.tops := by
  have hSchema : after.schema = view.schema := by
    obtain ⟨_, _, _, rfl⟩ := finish_ok h
    rfl
  rw [tops, tops, finish_vars h, vars_expanded, List.filter_append, hSchema]
  refine List.append_right_eq_self.mpr (List.filter_eq_nil_iff.mpr fun v hv => ?_)
  obtain ⟨c, hField⟩ := field_of_missingBelow _ hv
  simp [hTree.not_isTopLevel_of_below (.field hField)]

/-- The clause for a top-level variable selects no other one. -/
theorem Describes.mem_tops (hTree : view.schema.Tree) (hView : view.InStep) {v : VarId}
    {clause : Clause}
    (hDescribes : view.Describes v clause) (hTop : v ∈ view.tops)
    (hSchema : before.schema = view.schema) (hInStep : before.InStep)
    (h : selectClause limits before none clause = .ok after) {w : VarId}
    (hw : (view.schema.var w).isTopLevel = true) :
    w ∈ after.vars ↔ w ∈ before.vars ∨ w = v := by
  rw [(selectClause_grows hTree clause hSchema hInStep (by simp) h).vars, ← scope_of_mem_tops hTop]
  refine or_congr_right ⟨?_, ?_⟩
  · rintro ⟨given, hMentions⟩
    rcases ((hDescribes w given).mp hMentions).1.eq_or_below with hSame | hBelow
    · exact hSame
    · rw [hTree.not_isTopLevel_of_below hBelow] at hw
      cases hw
  · rintro rfl
    obtain ⟨segment, hMem, hVar⟩ := hView.exists_segment (View.mem_tops.mp hTop).1
    exact ⟨_, (hDescribes w _).mpr ⟨.self, segment, hMem, hVar, rfl⟩⟩

/-- A top-level variable that is new comes behind all others. -/
theorem tops_of_prefix (hSchema : after.schema = before.schema)
    (hPrefix : before.vars <+: after.vars) (hNodup : after.vars.Nodup) {v : VarId}
    (hTop : (before.schema.var v).isTopLevel = true) (hNew : v ∉ before.vars)
    (hTops : ∀ w, (before.schema.var w).isTopLevel = true →
      (w ∈ after.vars ↔ w ∈ before.vars ∨ w = v)) : after.tops = before.tops ++ [v] := by
  obtain ⟨added, hAdded⟩ := hPrefix
  rw [← hAdded] at hNodup hTops
  obtain ⟨_, hOnce, hDisjoint⟩ := List.nodup_append.mp hNodup
  rw [tops, tops, ← hAdded, List.filter_append, hSchema]
  congr 1
  rw [← List.perm_singleton, List.perm_ext_iff_of_nodup (hOnce.filter _) (List.nodup_singleton v)]
  intro w
  rw [List.mem_filter, List.mem_singleton]
  constructor
  · rintro ⟨hw, hwTop⟩
    have hMem := (hTops w hwTop).mp (List.mem_append_right _ hw)
    exact hMem.resolve_left fun hOld => hDisjoint w hOld w hw rfl
  · rintro rfl
    have hMem := List.mem_append.mp ((hTops w hTop).mpr (Or.inr rfl))
    exact ⟨hMem.resolve_left hNew, hTop⟩

/-- The clauses of top-level variables select them in their order. -/
theorem selectAll_tops (hTree : view.schema.Tree) (hComplete : view.schema.Complete)
    (hView : view.InStep) {vars : List VarId} {clauses : List Clause}
    (hClauses : List.Forall₂ view.Describes vars clauses) (hTops : ∀ v ∈ vars, v ∈ view.tops)
    (hOnce : vars.Nodup) (hWritable : fieldsWritable clauses)
    (hFinite : ∀ v ∈ fieldConstants clauses, v.Finite) (hSchema : before.schema = view.schema)
    (hInStep : before.InStep) (hNew : ∀ v ∈ vars, v ∉ before.vars)
    (h : selectAll limits before clauses = .ok after) : after.tops = before.tops ++ vars := by
  induction hClauses generalizing before with
  | nil =>
      cases h
      rw [List.append_nil]
  | @cons v clause vars clauses hDescribes _ ih =>
      rw [selectAll] at h
      obtain ⟨middle, hClause, h⟩ := exists_of_bind_eq_ok h
      obtain ⟨hFirst, hOnce⟩ := List.nodup_cons.mp hOnce
      have hGrows := selectClause_grows hTree clause hSchema hInStep (by simp) hClause
      have hMiddle : middle.schema = view.schema := hGrows.schema.trans hSchema
      have hMiddleInStep := hGrows.inStep hInStep
      have hTop := hTops v (by simp)
      have hMem {w : VarId} :=
        hDescribes.mem_tops (w := w) hTree hView hTop hSchema hInStep hClause
      have hSteps : Steps before middle := by
        refine selectClause_preserves (steps_preserved ?_ ?_) clause hWritable.1
          (fun v hv => hFinite v (by simp [fieldConstants, hv])) .refl hClause
        · exact hSchema ▸ hTree
        · exact hSchema ▸ hComplete
      have hOne : middle.tops = before.tops ++ [v] := by
        refine tops_of_prefix hGrows.schema hSteps.vars_prefix hMiddleInStep.nodup ?_
          (hNew v (by simp)) ?_
        · rw [hSchema]
          exact (View.mem_tops.mp hTop).2
        · rw [hSchema]
          exact fun w => hMem
      rw [ih (fun w hw => hTops w (by simp [hw])) hOnce hWritable.2
        (fun v hv => hFinite v (by simp [fieldConstants, hv])) hMiddle hMiddleInStep ?_ h, hOne,
        List.append_assoc, List.singleton_append]
      intro w hw hSelected
      have hwTop := (View.mem_tops.mp (hTops w (by simp [hw]))).2
      rcases (hMem hwTop).mp hSelected with hOld | rfl
      · exact hNew w (by simp [hw]) hOld
      · exact hFirst hw

/-- A list of fields is determined by its members. -/
theorem listed_congr {again : View} (hSchema : again.schema = view.schema) {v : VarId}
    (h : ∀ f, f ∈ again.listed v ↔ f ∈ view.listed v) : again.listed v = view.listed v := by
  have hFilter (view : View) : view.listed v =
      (view.schema.var v).fields.filter fun f => f ∈ view.listed v := by
    unfold listed
    split
    · apply List.filter_congr
      intro f hf
      simp [hf]
    · simp
  rw [hFilter again, hFilter view, hSchema]
  simp only [h]

end View

namespace Request

/-- The view `again` comes from what the view of `request` writes, and has its top-level variables
in their order and its filters with their texts. -/
structure Restates (schema : Schema) (request : Request) (view : View) (request' : Request)
    (again : View) : Prop extends Rewrites schema request view request' again where
  tops : again.tops = view.tops
  filters : ∀ v, view.Mentioned v →
    (again.filter? v).map Filter.chars = (view.filter? v).map Filter.chars

variable {schema : Schema} {request request' : Request} {view again : View}

/-- Slices come back with their texts, and with a constraint where they had one. -/
theorem Rewrites.slices (h : Rewrites schema request view request' again) {segment other : Segment}
    (hSegment : segment ∈ view.segments) (hOther : other ∈ again.segments)
    (hVar : other.var = segment.var) :
    other.slices.map (·.constrained) = segment.slices.map (·.constrained) ∧
      other.slices.map Slice.chars = segment.slices.map Slice.chars := by
  obtain ⟨extents, extents', hHas, hHas', hSame⟩ := h.positions hSegment hOther hVar
  rw [hHas.slices, hHas'.slices, List.map_map, List.map_map, List.map_map, List.map_map]
  exact ⟨map_eq_of_forall₂ hSame fun _ _ hPosition => hPosition.constrained,
    map_eq_of_forall₂ hSame fun _ _ hPosition => hPosition.chars⟩

theorem slicesChars_congr {slices slices' : List Slice}
    (hConstrained : slices'.map (·.constrained) = slices.map (·.constrained))
    (hChars : slices'.map Slice.chars = slices.map Slice.chars) :
    View.slicesChars slices' = View.slicesChars slices := by
  have hAny (slices : List Slice) :
      slices.any (·.constrained) = (slices.map (·.constrained)).any id := by
    rw [List.any_map]
    rfl
  rw [View.slicesChars, View.slicesChars, hAny slices', hAny slices, hConstrained,
    List.flatMap_def, List.flatMap_def, hChars]

theorem filterChars_congr {filter filter' : Option Filter}
    (h : filter'.map Filter.chars = filter.map Filter.chars) :
    View.filterChars filter' = View.filterChars filter := by
  have hText (filter : Option Filter) :
      View.filterChars filter = ((filter.map Filter.chars).map ('|' :: ·)).getD [] := by
    cases filter with
    | none => rfl
    | some f => rfl
  rw [hText, hText, h]

namespace Restates

theorem schema_again (h : Restates schema request view request' again) :
    again.schema = view.schema :=
  h.after.schema_eq.trans h.before.schema_eq.symm

theorem tree_view (h : Restates schema request view request' again) : view.schema.Tree :=
  h.before.schema_eq ▸ h.tree

theorem tree_again (h : Restates schema request view request' again) : again.schema.Tree :=
  h.after.schema_eq ▸ h.tree

/-- A mentioned variable has a filter of the same text. -/
theorem filter (h : Restates schema request view request' again) {segment other : Segment}
    (hSegment : segment ∈ view.segments) (hOther : other ∈ again.segments)
    (hVar : other.var = segment.var) (hMentioned : view.Mentioned segment.var) :
    other.filter.map Filter.chars = segment.filter.map Filter.chars := by
  rw [← h.after.inStep.filter?_of_mem hOther, ← h.before.inStep.filter?_of_mem hSegment, hVar]
  exact h.filters _ hMentioned

/-- Only what has been whole is whole again. -/
theorem whole (h : Restates schema request view request' again) {c : VarId}
    (hWhole : again.Whole c) : view.Whole c := by
  intro v hBelow
  obtain ⟨other, hOther, rfl, hFilter, hSlices⟩ := hWhole v (h.schema_again ▸ hBelow)
  obtain ⟨segment, hSegment, hVar⟩ :=
    h.before.inStep.exists_segment (h.subset (h.after.inStep.mem_vars hOther))
  refine ⟨segment, hSegment, hVar, ?_⟩
  rcases h.before.mentioned_or h.tree h.writable _ (h.before.inStep.mem_vars hSegment) with
    hMentioned | ⟨d, _, hWholeD, hBelowD⟩
  · have hText := h.filter hSegment hOther hVar.symm hMentioned
    have hConstrained := (h.slices hSegment hOther hVar.symm).1
    refine ⟨?_, fun slice hSlice => ?_⟩
    · rw [hFilter, Option.map_none, eq_comm, Option.map_eq_none_iff] at hText
      exact hText
    · have hMem : slice.constrained ∈ other.slices.map (·.constrained) :=
        hConstrained ▸ List.mem_map_of_mem hSlice
      obtain ⟨slice', hSlice', hEq⟩ := List.mem_map.mp hMem
      rw [← hEq]
      exact hSlices slice' hSlice'
  · obtain ⟨found, hFound, hSame, hFree⟩ := hWholeD _ (h.before.schema_eq ▸ hBelowD)
    rwa [h.before.inStep.segment_unique hFound hSegment hSame] at hFree

/-- A mentioned variable lists the fields that it listed. -/
theorem listed (h : Restates schema request view request' again) {v : VarId}
    (hMentioned : view.Mentioned v) : again.listed v = view.listed v := by
  refine View.listed_congr h.schema_again fun f => ?_
  rw [View.mem_listed h.tree_again h.after.inStep, View.mem_listed h.tree_view h.before.inStep,
    h.schema_again]
  refine and_congr_right fun hField => ?_
  by_cases hWhole : view.Whole v
  · -- The fields have not been written, so they come back all of them or not at all.
    refine ⟨fun ⟨hf, hPart⟩ => absurd ?_ hPart, fun hPart => absurd hWhole hPart.2⟩
    rcases (h.after.vars f).mp hf with hNames | ⟨d, hBare, hBelow⟩
    · exact absurd hWhole ((h.names_iff.mp hNames).above h.tree_view hField).2
    · have hWholeD : again.Whole d := h.after.whole_of_bare h.tree hBare
      rw [← h.before.schema_eq] at hBelow
      rcases h.tree_view.below_parent hField hBelow with rfl | hUp
      · exact hWholeD
      · exact hWholeD.below (h.schema_again ▸ hUp)
  · have hPart : ¬again.Whole v := fun hAgain => hWhole (h.whole hAgain)
    refine and_congr ⟨h.subset, fun hf => ?_⟩ (iff_of_true hPart hWhole)
    exact (h.after.vars f).mpr (Or.inl (h.names_iff.mpr (hMentioned.field hField hf hWhole)))

/-- The clause of a mentioned variable is written as before. -/
theorem clauseChars (h : Restates schema request view request' again) (v : VarId)
    (hMentioned : view.Mentioned v) : again.clauseChars v = view.clauseChars v := by
  obtain ⟨segment, hSegment, rfl⟩ := h.before.inStep.exists_segment hMentioned.selected
  obtain ⟨other, hOther, hVar⟩ := h.after.inStep.exists_segment
    ((h.after.vars segment.var).mpr (Or.inl (h.names_iff.mpr hMentioned)))
  obtain ⟨hConstrained, hChars⟩ := h.slices hSegment hOther hVar
  have hFilter := h.filter hSegment hOther hVar hMentioned
  have hName : again.nameChars segment.var = view.nameChars segment.var := by
    rw [View.nameChars, View.nameChars, h.schema_again]
  have hFields : (again.listed segment.var).map again.clauseChars =
      (view.listed segment.var).map view.clauseChars := by
    rw [h.listed hMentioned]
    refine List.map_congr_left fun f hf => ?_
    obtain ⟨hField, hSelected, hPart⟩ := (View.mem_listed h.tree_view h.before.inStep).mp hf
    have hAfter := h.tree_view.after hField
    have hSize := h.tree_view.lt_size hField
    exact clauseChars h f (hMentioned.field hField hSelected hPart)
  rw [← hVar, View.clauseChars_eq h.tree_again h.after.inStep hOther, hVar,
    View.clauseChars_eq h.tree_view h.before.inStep hSegment, hName, hFields, h.listed hMentioned,
    slicesChars_congr hConstrained hChars, filterChars_congr hFilter]
termination_by view.schema.vars.size - v.index

theorem requestChars (h : Restates schema request view request' again)
    (hWritable : request'.Writable) : again.requestChars = view.requestChars := by
  have hDims : view.DimsSpelled := View.Entered.dimsSpelled (h.before.schema_eq ▸ h.entered)
  have hDims' : again.DimsSpelled :=
    View.Entered.dimsSpelled (h.after.schema_eq ▸ h.after.entered hWritable)
  have hResizes : again.resizeChars = view.resizeChars := by
    rw [View.resizeChars_eq hDims, View.resizeChars_eq hDims']
    refine map_eq_of_forall₂ h.sameResize fun entry entry' hSame => ?_
    obtain ⟨hDim, _, _, hChars⟩ := hSame
    rw [View.resizeText, View.resizeText, View.resizeOf, View.resizeOf, hDim, hChars,
      h.schema_again]
  have hClauses : again.tops.map again.clauseChars = view.tops.map view.clauseChars := by
    rw [h.tops]
    exact List.map_congr_left fun v hv => h.clauseChars v ⟨v, hv, .self⟩
  have hEq (view : View) : view.requestChars =
      [';'].intercalate (view.resizeChars ++ view.tops.map view.clauseChars) := rfl
  rw [hEq again, hEq view, hResizes, hClauses]

end Restates

/-- Where the clauses attach the filters that they were written for, the second view restates the
first one. -/
theorem Rewrites.restates {limits : Limits} (h : Rewrites schema request view request' again)
    (hComplete : schema.Complete) (hWritable : request'.Writable)
    (hFinite : ∀ v ∈ request'.constants, v.Finite) (hRun : request'.Finishes limits schema again)
    (hRestores : List.Forall₂ (view.Restores limits) view.tops request'.clauses) :
    Restates schema request view request' again := by
  have hTree : view.schema.Tree := h.before.schema_eq ▸ h.tree
  obtain ⟨resized, selected, hResized, hSelected, hFinish⟩ := hRun
  have hInStep := (View.inStep_empty schema).addResizes _ hResized
  obtain ⟨entered, after, rfl⟩ := View.addResizes_ok _ hResized
  -- The clauses run from a view without variables, and so without filters.
  have hStart : { View.empty schema with resizes := entered, resized := after }.schema =
      view.schema := h.before.schema_eq.symm
  have hRestored :=
    View.selectAll_restored hTree h.before.inStep.nodup hRestores hStart hInStep hSelected
  have hTops := View.selectAll_tops hTree (h.before.schema_eq ▸ hComplete) h.before.inStep
    h.clauses (fun _ hv => hv) (h.before.inStep.nodup.filter _) hWritable.2 hFinite hStart hInStep
    (by simp [View.empty]) hSelected
  refine ⟨h, ?_, fun v hMentioned => ?_⟩
  · rw [View.finish_tops (hRestored.schema_eq ▸ hTree) hFinish, hTops]
    rfl
  · rw [hRestored.inStep.finish_filter? hFinish]
    exact hRestored.attached v hMentioned rfl

/-- The view of the text that a view writes restates that view. -/
theorem exists_restates {limits : Limits} {text : String} (hSchema : schema.Declared)
    (h : compileText limits schema text = .ok view)
    (hAgain : compileText limits schema (.ofList view.requestChars) = .ok again) :
    ∃ request request', Restates schema request view request' again ∧ request'.Writable := by
  have hTree := hSchema.tree
  obtain ⟨request, _, hWritable, hFinite, hCompile⟩ := compileText_ok h
  obtain ⟨request', hParse, hWritable', hFinite', hCompile'⟩ := compileText_ok hAgain
  have hBefore := outcome hTree hCompile
  have hEntered : View.Entered schema view.resizes := hBefore.entered hWritable
  have hView := compile_rerunnable hSchema hWritable hFinite hCompile
  have hFields (c : VarId) : (view.schema.var c).fields.Nodup := by
    rw [hBefore.schema_eq]
    exact hSchema.nodup_fields c
  obtain ⟨hResizes, hClauses⟩ := View.parse_requestChars
    (View.Entered.dimsSpelled (hBefore.schema_eq ▸ hEntered))
    (fun v hv => hView.exists_restoring hFields (View.listed_of_mem_tops hv))
    (fun vs => Filter.readable_legible vs) hParse
  have hRewrites : Rewrites schema request view request' again :=
    ⟨hTree, hWritable, hBefore, outcome hTree hCompile', hClauses.imp fun _ _ h => h.1, hEntered,
      hResizes⟩
  exact ⟨request, request', hRewrites.restates hSchema.complete hWritable' hFinite'
    (compile_ok hCompile') (hClauses.imp fun _ _ h => h.2), hWritable'⟩

/-- A view that is compiled from the text of a view has the same text. -/
theorem text_normal {limits : Limits} {text : String} (hSchema : schema.Declared)
    (h : compileText limits schema text = .ok view) :
    ∃ written, view.requestText = .ok written ∧
      ∀ again, compileText limits schema written = .ok again →
        again.requestText = .ok written := by
  obtain ⟨request, _, _, _, hCompile⟩ := compileText_ok h
  refine ⟨_, (outcome hSchema.tree hCompile).requestText, fun again hAgain => ?_⟩
  obtain ⟨_, _, hRestates, hWritable⟩ := exists_restates hSchema h hAgain
  rw [hRestates.after.requestText, hRestates.requestChars hWritable]

/-- The text that is written has its operands in other places and no parentheses, and it names a
structure without its field. -/
theorem text_normal_sample : ∃ view written again,
    compileText {} .sample "q{n}|(1<n,(2.50>m,m!=3));/s{t{x}}" = .ok view ∧
      view.requestText = .ok written ∧
        written = "/q{n}|n>1,m<2.5,m!=3;/s{t}" ∧
          compileText {} .sample written = .ok again ∧ again.requestText = .ok written := by
  have hRun : ∃ view ∈ (compileText {} .sample
        "q{n}|(1<n,(2.50>m,m!=3));/s{t{x}}").toOption,
      ∃ written ∈ view.requestText.toOption,
        written = "/q{n}|n>1,m<2.5,m!=3;/s{t}" ∧
          (compileText {} .sample written).toOption.isSome = true := by
    decide +kernel
  obtain ⟨view, hView, written, hWritten, hText, hAgain⟩ := hRun
  obtain ⟨again, hAgain⟩ := Option.isSome_iff_exists.mp hAgain
  have hView := eq_ok_of_mem_toOption hView
  have hWritten := eq_ok_of_mem_toOption hWritten
  have hAgain := eq_ok_of_mem_toOption hAgain
  obtain ⟨written', hWritten', hNormal⟩ := text_normal Schema.sample_declared hView
  obtain rfl : written = written' := Except.ok.inj (hWritten.symm.trans hWritten')
  exact ⟨view, written, again, hView, hWritten, hText, hAgain, hNormal again hAgain⟩

end Request

end Hyperslab
