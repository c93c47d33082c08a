import Hyperslab.Proofs.Filter.Levels
import Hyperslab.Proofs.View.Coherent
import Hyperslab.Proofs.View.Retrace

/-! Compiling the text of a view with the limits that the view was compiled with. Of all that the
limits restrict only the depth of filters can have grown: conjunctions lose their parentheses, and
filters from several clauses have become one. -/
namespace Hyperslab

open Grammar

namespace View

variable {view again : View} {limits : Limits}

/-- The filters in the clause for a variable can be read within the limits. -/
def Shallow (limits : Limits) (view : View) (v : VarId) : Prop :=
  ∀ segment ∈ view.segments, view.Shown v segment.var →
    ∀ filter ∈ segment.filter, filter.levels none ≤ limits.filterDepth

theorem shallow_iff (hTree : view.schema.Tree) (hInStep : view.InStep) {segment : Segment}
    (hMem : segment ∈ view.segments) : view.Shallow limits segment.var ↔
      (∀ f ∈ view.listed segment.var, view.Shallow limits f) ∧
        ∀ filter ∈ segment.filter, filter.levels none ≤ limits.filterDepth := by
  constructor
  · intro h
    refine ⟨fun f hf other hOther hShown => h other hOther ?_, h segment hMem .self⟩
    obtain ⟨hField, hSelected, hPart⟩ := (mem_listed hTree hInStep).mp hf
    exact hShown.head hField hSelected hPart
  · rintro ⟨hFields, hOwn⟩ other hOther hShown
    rcases shown_iff.mp hShown with hSame | ⟨hPart, f, hField, hSelected, hDeep⟩
    · rw [hInStep.segment_unique hOther hMem hSame]
      exact hOwn
    · exact hFields f ((mem_listed hTree hInStep).mpr ⟨hField, hSelected, hPart⟩) other hOther hDeep

/-- One step after the other succeeds if each does. -/
theorem RetracedIf.all {step : View → Clause → Except Fault View}
    {run : View → List Clause → Except Fault View} (hNil : ∀ r, run r [] = .ok r)
    (hCons : ∀ r clause clauses, run r (clause :: clauses) =
      step r clause >>= fun r' => run r' clauses)
    {P : VarId → Prop} {vars : List VarId} {clauses : List Clause}
    (hSteps : List.Forall₂ (fun v clause => ∀ again, view.Retraces again →
      view.RetracedIf (P v) (step again clause)) vars clauses) (h : view.Retraces again) :
    view.RetracedIf (∀ v ∈ vars, P v) (run again clauses) := by
  induction hSteps generalizing again with
  | nil =>
      rw [hNil]
      exact ⟨nofun, h⟩
  | cons hStep _ ih =>
      rw [hCons]
      exact ((hStep again h).bind fun _ => ih).congr List.forall_mem_cons

/-- The clause succeeds for every view that retraces `view`, unless a filter in it is too deep. -/
def Reruns (limits : Limits) (view : View) (v : VarId) (clause : Clause) : Prop :=
  ∀ again, view.Retraces again →
    view.RetracedIf (view.Shallow limits v) (selectClause limits again (view.scope v) clause)

/-- A finished view that is written and read again: its segments are resolved, and its filters are
filters of sequences. -/
structure Rerunnable (limits : Limits) (view : View) : Prop where
  spelled : view.Spelled Filter.readable
  resolved : ∀ segment ∈ view.segments, ∃ asked, view.Resolved asked segment
  bound : ∀ segment ∈ view.segments, ∀ filter ∈ segment.filter,
    filter.Bound view.schema limits segment.var
  isSequence : ∀ segment ∈ view.segments, segment.filter.isSome = true →
    (view.schema.var segment.var).isSequence = true

theorem Rerunnable.addFilter (hView : view.Rerunnable limits) {segment : Segment}
    (hMem : segment ∈ view.segments) {filter : Option Expr}
    (hText : OptionalFilterText Filter.readable segment.filter filter) (h : view.Retraces again) :
    view.RetracedIf (∀ f ∈ segment.filter, f.levels none ≤ limits.filterDepth)
      (addFilter limits again segment.var filter) := by
  have hBound := hView.bound segment hMem
  have hSequence := hView.isSequence segment hMem
  cases hFilter : segment.filter with
  | none =>
      rw [hFilter] at hText
      cases filter with
      | none => exact ⟨nofun, h⟩
      | some e => exact hText.elim
  | some f =>
      rw [hFilter] at hText hBound hSequence
      cases filter with
      | none => exact hText.elim
      | some e =>
          have hLevels := (hBound f rfl).compile_iff hText
          simp only [View.addFilter, h.schema_eq, hSequence rfl, if_true]
          cases hCompile : e.compile view.schema limits segment.var 1 with
          | error fault =>
              intro hAll
              obtain ⟨bound, hOk⟩ := hLevels.mpr (hAll f rfl)
              rw [hCompile] at hOk
              cases hOk
          | ok bound =>
              have hSet := h.setFilter hView.spelled.inStep hView.resolved bound (hSequence rfl)
              refine hSet.congr (iff_true_intro fun g hg => ?_)
              obtain rfl := Option.mem_some_iff.mp hg
              exact hLevels.mp ⟨bound, hCompile⟩

/-- A clause with a list of fields runs the list between its selection and its filter. -/
theorem selectClause_list {name : String} {slices : List Slice} {fields : List Clause}
    {filter : Option Expr} {scope : Option VarId} {v : VarId}
    (hResolve : again.schema.resolve scope name = .ok v) :
    selectClause limits again scope (.mk (.mk name slices none fields) filter) =
      (again.addVariable v slices).toExcept >>= fun view =>
        selectFields limits view v fields >>= fun view => addFilter limits view v filter := by
  rw [selectClause, select, hResolve]
  simp only [selectChild, bind, Except.bind]
  cases (again.addVariable v slices).toExcept with
  | error fault => rfl
  | ok view => cases hFields : selectFields limits view v fields <;> simp only [hFields]

theorem Rerunnable.reruns (hView : view.Rerunnable limits) {segment : Segment}
    (hMem : segment ∈ view.segments) (hListed : view.Listed segment.var) {clauses : List Clause}
    {filter : Option Expr}
    (hClauses : List.Forall₂ (view.Reruns limits) (view.listed segment.var) clauses)
    (hFilter : OptionalFilterText Filter.readable segment.filter filter) :
    view.Reruns limits segment.var
      (.mk (.mk (view.clauseName segment.var) (rewrittenSlices segment.slices) none clauses)
        filter) := by
  intro again h
  have hTree := hView.spelled.tree
  have hInStep := hView.spelled.inStep
  have hResolve : again.schema.resolve (view.scope segment.var) (view.clauseName segment.var) =
      .ok segment.var := by
    rw [h.schema_eq]
    exact Schema.resolve_of_denotes hTree (hView.spelled.name _ hListed).2
  have hFields (r : View) (hr : view.Retraces r) :
      view.RetracedIf (∀ f ∈ view.listed segment.var, view.Shallow limits f)
        (selectFields limits r segment.var clauses) := by
    have hScope {f : VarId} := scope_of_mem_listed (v := segment.var) (f := f) hTree hInStep
    have hSteps := ((List.forall₂_and_left _ _).mpr ⟨fun _ => hScope, hClauses⟩).imp
      fun _ _ hStep r' hr' => hStep.1 ▸ hStep.2 r' hr'
    exact @RetracedIf.all view r (fun r => selectClause limits r (some segment.var))
      (fun r => selectFields limits r segment.var) (fun _ => rfl) (fun _ _ _ => rfl) _ _ _ hSteps hr
  rw [selectClause_list hResolve]
  refine ((h.addVariable hInStep hView.resolved (Or.inr ⟨segment, hMem, rfl, rfl⟩)).bind
    fun r hr => (hFields r hr).bind fun r' hr' => hView.addFilter hMem hFilter hr').congr ?_
  rw [true_and, shallow_iff hTree hInStep hMem]

/-- What is written for a listed variable is a clause that describes it and succeeds again. -/
theorem Rerunnable.exists_clause (hView : view.Rerunnable limits) {v : VarId}
    (hListed : view.Listed v) :
    ∃ clause, (view.Describes v clause ∧ view.Reruns limits v clause) ∧
      ∀ rest, ClauseText Filter.readable clause (view.clauseChars v ++ rest) rest := by
  refine @Spelled.exists_clause view _ hView.spelled
    (fun v clause => view.Describes v clause ∧ view.Reruns limits v clause) ?_ v hListed
  intro segment hMem hIn clauses filter hFields hFilter
  refine ⟨hView.spelled.describes hMem (hView.spelled.name _ hIn).2 ?_ filter, ?_⟩
  · exact hFields.imp fun _ _ h => h.1
  · exact hView.reruns hMem hIn (hFields.imp fun _ _ h => h.2) hFilter

/-- The clauses of all top-level variables succeed unless a filter in one of them is too deep. -/
theorem selectAll_retraced {clauses : List Clause}
    (hClauses : List.Forall₂ (view.Reruns limits) view.tops clauses) (h : view.Retraces again) :
    view.RetracedIf (∀ v ∈ view.tops, view.Shallow limits v) (selectAll limits again clauses) := by
  have hSteps := ((List.forall₂_and_left _ _).mpr ⟨fun _ => scope_of_mem_tops, hClauses⟩).imp
    fun _ _ hStep r hr => hStep.1 ▸ hStep.2 r hr
  exact @RetracedIf.all view again (fun r => selectClause limits r none)
    (fun r => selectAll limits r) (fun _ => rfl) (fun _ _ _ => rfl) _ _ _ hSteps h

theorem count_of_sameShape {segment other : Segment} (h : segment.SameShape other) :
    other.count = segment.count := by
  have hCounts (s : Segment) : s.projection.map Slice.count =
      (s.projection.map Slice.indices).map fun indices => UInt64.ofNat indices.length := by
    simp
  rw [Segment.count, Segment.count, hCounts, hCounts, h.2]

end View

namespace Request

variable {limits : Limits} {schema : Schema} {request : Request} {view : View}

/-- A filter is never left out of what is written, so the clauses hold all filters. -/
theorem Outcome.shallow_iff (hTree : schema.Tree) (h : request.Outcome schema view)
    (hWritable : request.Writable) : (∀ v ∈ view.tops, view.Shallow limits v) ↔
      ∀ segment ∈ view.segments, ∀ filter ∈ segment.filter,
        filter.levels none ≤ limits.filterDepth := by
  constructor
  · intro hAll segment hMem filter hFilter
    rcases h.mentioned_or hTree hWritable _ (h.inStep.mem_vars hMem) with
      ⟨top, hTop, hShown⟩ | ⟨c, _, hWhole, hBelow⟩
    · exact hAll top hTop segment hMem hShown filter hFilter
    · obtain ⟨other, hOther, hVar, hFree, _⟩ := hWhole _ (h.schema_eq ▸ hBelow)
      rw [h.inStep.segment_unique hOther hMem hVar] at hFree
      rw [hFree] at hFilter
      cases hFilter
  · intro hAll top _ segment hMem _
    exact hAll segment hMem

/-- The view of an accepted request can be written and read again. -/
theorem compile_rerunnable (hSchema : schema.Declared) (hWritable : request.Writable)
    (hFinite : ∀ v ∈ request.constants, v.Finite) (h : request.compile limits schema = .ok view) :
    view.Rerunnable limits := by
  have hTree := hSchema.tree
  have hOutcome := outcome hTree h
  have hBound := compile_filtersBound hWritable hFinite h
  have hCoherent := (View.coherent_empty schema).steps
    (compile_steps hTree hSchema.complete hWritable hFinite h)
  refine ⟨hOutcome.spelled (fun v hv => ⟨v, rfl, hv.readsBack⟩) hTree hWritable hBound, ?_, ?_,
    hCoherent.filter⟩
  · intro segment hMem
    obtain ⟨asked, _, _, hResolved⟩ := hOutcome.segments segment hMem
    exact ⟨asked, hResolved⟩
  · rw [hOutcome.schema_eq]
    exact hBound.2

/-- The request that is written is accepted unless a clause of it has a filter that is too deep. -/
theorem Outcome.rerun_iff (hTree : schema.Tree) (h : request.Outcome schema view)
    (hWritable : request.Writable) (hView : view.Rerunnable limits)
    (hElements : ∀ limit ∈ limits.elements?, ∀ segment ∈ view.segments, segment.count ≤ limit)
    {clauses : List Clause}
    (hClauses : List.Forall₂ (fun v clause => view.Describes v clause ∧ view.Reruns limits v clause)
      view.tops clauses) :
    (∃ again, compile limits schema ⟨view.resizes.map view.resizeOf, clauses⟩ = .ok again) ↔
      ∀ v ∈ view.tops, view.Shallow limits v := by
  have hEntered : View.Entered schema view.resizes := h.entered hWritable
  have hSource : View.Entered view.schema view.resizes := h.schema_eq ▸ hEntered
  obtain ⟨resized, hResized⟩ := @View.exists_addResizes_resizeOf (.empty schema) view view.resizes
    hSource h.schema_eq.symm rfl
  obtain ⟨others, hEq, hSame⟩ := View.addResizes_resizeOf view.resizes hSource h.schema_eq.symm
    (by simp [View.empty]) hResized
  have hInStep := (View.inStep_empty schema).addResizes _ hResized
  obtain ⟨entered, after, rfl⟩ := View.addResizes_ok _ hResized
  obtain rfl : entered = others := hEq
  have hStart : view.Retraces { View.empty schema with resizes := entered, resized := after } :=
    ⟨h.schema_eq.symm, rfl, hInStep, hSame, fun _ hMem => absurd hMem List.not_mem_nil⟩
  have hRun := View.selectAll_retraced (hClauses.imp fun _ _ h => h.2) hStart
  constructor
  · rintro ⟨again, hCompile⟩
    obtain ⟨resized, selected, hResized', hSelected, _⟩ := compile_ok hCompile
    obtain rfl := Except.ok.inj (hResized'.symm.trans hResized)
    rw [hSelected] at hRun
    exact hRun.1
  · intro hShallow
    cases hSelected : View.selectAll limits
        { View.empty schema with resizes := entered, resized := after } clauses with
    | error fault =>
        rw [hSelected] at hRun
        exact absurd hShallow hRun
    | ok selected =>
        rw [hSelected] at hRun
        obtain ⟨again, hFinish⟩ := hRun.2.finish_succeeds hView.spelled.inStep hView.resolved
        have hFinishes : Finishes ⟨view.resizes.map view.resizeOf, clauses⟩ limits schema again :=
          ⟨_, selected, hResized, hSelected, hFinish⟩
        have hRewrites : Rewrites schema request view _ again :=
          ⟨hTree, hWritable, h, hFinishes.outcome hTree, hClauses.imp fun _ _ h => h.1, hEntered,
            rfl⟩
        refine ⟨again, compile_iff.mpr ⟨hFinishes, fun limit hLimit other hOther => ?_⟩⟩
        obtain ⟨segment, hSegment, hVar⟩ :=
          h.inStep.exists_segment (hRewrites.subset (hRewrites.after.inStep.mem_vars hOther))
        rw [View.count_of_sameShape (hRewrites.shapes hSegment hOther hVar.symm)]
        exact hElements limit hLimit segment hSegment

/-- Compiled with the same limits, the text of a view that selects something is accepted exactly if
no filter of the view is too deep as its text groups it. -/
theorem text_accepted_iff {text : String} (hSchema : schema.Declared)
    (h : compileText limits schema text = .ok view) (hSome : view.vars ≠ []) :
    ∃ written, view.requestText = .ok written ∧
      ((∃ again, compileText limits schema written = .ok again) ↔
        ∀ segment ∈ view.segments, ∀ filter ∈ segment.filter,
          filter.levels none ≤ limits.filterDepth) := by
  have hTree := hSchema.tree
  obtain ⟨request, _, hWritable, hFinite, hCompile⟩ := compileText_ok h
  have hOutcome := outcome hTree hCompile
  have hView := compile_rerunnable hSchema hWritable hFinite hCompile
  have hDims : view.DimsSpelled :=
    View.Entered.dimsSpelled (hOutcome.schema_eq ▸ hOutcome.entered hWritable)
  have hTops : view.tops ≠ [] := (hOutcome.tops_eq_nil_iff hTree hWritable).not.mpr hSome
  obtain ⟨clauses, hClauses, hText⟩ := View.requestText_requestChars hDims
    (fun v hv => hView.exists_clause ⟨(View.mem_tops.mp hv).1, Or.inl (View.mem_tops.mp hv).2⟩)
    (Or.inr hTops)
  have hParse := parse_requestText hText (Filter.readable_legible _)
  refine ⟨_, hOutcome.requestText, ?_⟩
  rw [← hOutcome.shallow_iff hTree hWritable,
    ← hOutcome.rerun_iff hTree hWritable hView (compile_iff.mp hCompile).2 hClauses]
  simp only [compileText, hParse]

/-- Two filters of one sequence, each of them two levels deep. -/
def twoFilters : String := "/q|m<1;/q|m<2"

/-- Joined, they are three levels deep. -/
theorem text_accepted_grid : ∃ view written,
    compileText { filterDepth := 3 } .grid twoFilters = .ok view ∧
      view.requestText = .ok written ∧ view.vars ≠ [] ∧
        (∃ again, compileText { filterDepth := 3 } .grid written = .ok again) ∧
          ((∃ again, compileText { filterDepth := 3 } .grid written = .ok again) ↔
            ∀ segment ∈ view.segments, ∀ filter ∈ segment.filter, filter.levels none ≤ 3) := by
  have hRun : ∃ view ∈ (compileText { filterDepth := 3 } .grid twoFilters).toOption,
      ∃ written ∈ view.requestText.toOption,
        view.vars ≠ [] ∧
          (compileText { filterDepth := 3 } .grid written).toOption.isSome = true := by
    decide +kernel
  obtain ⟨view, hView, written, hWritten, hSome, hAgain⟩ := hRun
  have hView := eq_ok_of_mem_toOption hView
  have hWritten := eq_ok_of_mem_toOption hWritten
  obtain ⟨again, hAgain⟩ := Option.isSome_iff_exists.mp hAgain
  obtain ⟨written', hWritten', hIff⟩ := text_accepted_iff Schema.grid_declared hView hSome
  obtain rfl : written = written' := Except.ok.inj (hWritten.symm.trans hWritten')
  exact ⟨view, written, hView, hWritten, hSome, ⟨again, eq_ok_of_mem_toOption hAgain⟩, hIff⟩

/-- Within a limit of two levels they are accepted, and the text of their view is not. -/
theorem text_outgrows_limit : ∃ view,
    compileText { filterDepth := 2 } .grid twoFilters = .ok view ∧
      view.requestText = .ok "/q|m<1,m<2" ∧ view.vars ≠ [] ∧
        ∀ again, compileText { filterDepth := 2 } .grid "/q|m<1,m<2" ≠ .ok again := by
  have hRun : ∃ view ∈ (compileText { filterDepth := 2 } .grid twoFilters).toOption,
      ∃ written ∈ view.requestText.toOption, written = "/q|m<1,m<2" ∧ view.vars ≠ [] ∧
        (compileText { filterDepth := 2 } .grid "/q|m<1,m<2").toOption.isNone = true := by
    decide +kernel
  obtain ⟨view, hView, written, hWritten, rfl, hSome, hNone⟩ := hRun
  refine ⟨view, eq_ok_of_mem_toOption hView, eq_ok_of_mem_toOption hWritten, hSome,
    fun again hAgain => ?_⟩
  rw [hAgain] at hNone
  cases hNone

end Request

end Hyperslab
