import Hyperslab.Proofs.Request.Order

/-! How deep the filters of a view are. The limit on the depth of filters is checked for each filter
of a request by itself; filters of one sequence are joined behind that, and each joint takes another
level. -/
namespace Hyperslab

namespace Filter

mutual

/-- The number of levels of a filter. A leaf is one level deep. -/
def depth : Filter → Nat
  | constant _ | field _ _ => 1
  | compare _ lhs rhs _ => max lhs.depth rhs.depth + 1
  | joined _ operands => depthOf operands + 1

/-- The depth of the deepest operand. -/
def depthOf : List Filter → Nat
  | [] => 0
  | filter :: rest => max filter.depth (depthOf rest)

end

@[simp] theorem depth_conj (a b : Filter) : (conj a b).depth = max a.depth b.depth + 1 := by
  simp [conj, depth, depthOf]

@[simp] theorem depth_neg (a : Filter) : (neg a).depth = a.depth + 1 := by
  simp [neg, depth, depthOf]

end Filter

/-- An expression that is bound at some level reaches no level beyond the limit. -/
theorem Expr.depth_compile {schema : Schema} {limits : Limits} {sequence : VarId} {e : Expr}
    {level : Nat} {filter : Filter} (h : e.compile schema limits sequence level = .ok filter) :
    filter.depth + level ≤ limits.filterDepth + 1 := by
  induction e generalizing level filter with
  | constant v =>
      obtain ⟨hLevel, hBinds⟩ := compile_ok h
      cases hBinds
      rw [Filter.depth]
      omega
  | field name =>
      obtain ⟨hLevel, hBinds⟩ := compile_ok h
      cases hBinds with
      | field hField =>
          obtain ⟨v, _, rfl⟩ := Schema.filterField_ok hField
          rw [Filter.depth]
          omega
  | compare op lhs rhs ihl ihr =>
      obtain ⟨_, left, right, hLeft, hRight, hOriented⟩ := compile_compare.mp h
      have hLeft := ihl hLeft
      have hRight := ihr hRight
      obtain ⟨_, _, _, _, rfl, ⟨rfl, rfl⟩ | ⟨rfl, rfl⟩, _⟩ := Filter.oriented_ok hOriented
      · rw [Filter.depth]
        omega
      · rw [Filter.depth]
        omega
  | conj a b iha ihb =>
      obtain ⟨_, left, right, hLeft, hRight, rfl⟩ := compile_conj.mp h
      have hLeft := iha hLeft
      have hRight := ihb hRight
      rw [Filter.depth_conj]
      omega
  | neg a ih =>
      obtain ⟨_, inner, hInner, rfl⟩ := compile_neg.mp h
      have hInner := ih hInner
      rw [Filter.depth_neg]
      omega

/-- Each filter that is joined to others adds a level above all of those before it and one above
itself. -/
theorem View.depth_joinAll {first filter : Filter} {later : List Filter}
    (h : joinAll (some first) later = some filter) (bound : Nat) :
    filter.depth ≤ bound ↔ first.depth + later.length ≤ bound ∧
      ∀ (i : Nat) (f : Filter), later[i]? = some f → f.depth + (later.length - i) ≤ bound := by
  induction later generalizing first with
  | nil =>
      cases h
      simp
  | cons next later ih =>
      have hNext := @ih (.conj first next) h
      rw [hNext, Filter.depth_conj, List.length_cons]
      constructor
      · rintro ⟨hDeep, hLater⟩
        refine ⟨by omega, fun i f hf => ?_⟩
        cases i with
        | zero =>
            cases hf
            omega
        | succ i =>
            have hBound := hLater i f hf
            omega
      · rintro ⟨hFirst, hAll⟩
        have hSecond := hAll 0 next rfl
        refine ⟨by omega, fun i f hf => ?_⟩
        have hBound := hAll (i + 1) f hf
        omega

namespace Request

variable {limits : Limits} {schema : Schema} {request : Request}

/-- The filters that the clauses of a request attach to a sequence, in order. -/
def attached (limits : Limits) (schema : Schema) (request : Request) (sequence : VarId) :
    Except Fault (List Filter) := do
  return (← clausesEdits limits schema none request.clauses).filterMap (Edit.filterOn sequence)

/-- What is attached is bound within the limit. -/
theorem depth_attached {sequence : VarId} {filters : List Filter}
    (h : request.attached limits schema sequence = .ok filters) :
    ∀ filter ∈ filters, filter.depth ≤ limits.filterDepth := by
  obtain ⟨edits, hEdits, h⟩ := exists_of_bind_eq_ok h
  cases h
  intro filter hFilter
  obtain ⟨edit, hEdit, hOn⟩ := List.mem_filterMap.mp hFilter
  cases elaborated_clauses request.clauses hEdits edit hEdit with
  | select => cases hOn
  | filter hSequence hCompile =>
      rw [Edit.filterOn, Option.ite_none_right_eq_some] at hOn
      cases hOn.2
      have hDepth := Expr.depth_compile hCompile
      omega

/-- The filters of a finished view are joined from those that are attached. -/
theorem Finishes.filters (hSchema : schema.Declared) {view : View}
    (h : request.Finishes limits schema view) {segment : Segment} (hMem : segment ∈ view.segments) :
    ∃ filters, request.attached limits schema segment.var = .ok filters ∧
      View.joinAll none filters = segment.filter := by
  have hInStep := (h.outcome hSchema.tree).inStep
  obtain ⟨resized, selected, hResized, hSelected, hFinish⟩ := h
  obtain ⟨hOpen, hFilters⟩ := View.addResizes_open hResized
  obtain ⟨edits, hEdits, hRun⟩ := (View.selectAll_run _ hOpen.schema_eq).mp hSelected
  have hAsks := asks_of_clausesEdits hEdits
  have hEnd := (hOpen.run_names hSchema.tree hSchema.complete hAsks hRun).2
  refine ⟨_, by rw [attached, hEdits]; rfl, ?_⟩
  rw [← hInStep.filter?_of_mem hMem, hEnd.coherent.finish_filter? hFinish,
    hOpen.coherent.run_filter? hAsks hRun, hFilters]

/-- The filter of a sequence in an accepted request. The filters that are attached to the sequence
are within the limit, and all but the first of them add a level. -/
theorem filter_depth (hSchema : schema.Declared) {view : View}
    (h : request.compile limits schema = .ok view) : ∀ segment ∈ view.segments,
      ∀ filter ∈ segment.filter, ∃ first later,
        request.attached limits schema segment.var = .ok (first :: later) ∧
          (∀ f ∈ first :: later, f.depth ≤ limits.filterDepth) ∧
            filter.depth ≤ limits.filterDepth + later.length ∧
              ∀ bound, filter.depth ≤ bound ↔ first.depth + later.length ≤ bound ∧
                ∀ (i : Nat) (f : Filter), later[i]? = some f →
                  f.depth + (later.length - i) ≤ bound := by
  intro segment hMem filter hFilter
  obtain ⟨filters, hAttached, hJoined⟩ := (compile_ok h).filters hSchema hMem
  rw [Option.mem_def.mp hFilter] at hJoined
  cases filters with
  | nil => cases hJoined
  | cons first later =>
      have hWithin := depth_attached hAttached
      have hDepth := View.depth_joinAll hJoined
      refine ⟨first, later, hAttached, hWithin, (hDepth _).mpr ⟨?_, fun i f hf => ?_⟩, hDepth⟩
      · exact Nat.add_le_add_right (hWithin first List.mem_cons_self) _
      · have hBound := hWithin f (List.mem_cons_of_mem _ (List.mem_of_getElem? hf))
        omega

/-- Two filters of two levels are joined to one of three. -/
theorem filter_depth_grid : Schema.grid.Declared ∧ ∃ view,
    compile { filterDepth := 3 } .grid ⟨[], filteredTwice⟩ = .ok view ∧
      ∃ segment ∈ view.segments, ∃ filter ∈ segment.filter, filter.depth = 3 ∧
        ∃ first later, attached { filterDepth := 3 } .grid ⟨[], filteredTwice⟩ segment.var =
            .ok (first :: later) ∧ filter.depth ≤ 3 + later.length := by
  have hRun : ∃ view ∈ (compile { filterDepth := 3 } .grid ⟨[], filteredTwice⟩).toOption,
      ∃ segment ∈ view.segments, ∃ filter ∈ segment.filter, filter.depth = 3 := by
    decide +kernel
  obtain ⟨view, hView, segment, hSegment, filter, hFilter, hDepth⟩ := hRun
  have hView := eq_ok_of_mem_toOption hView
  obtain ⟨first, later, hAttached, _, hBound, _⟩ :=
    filter_depth Schema.grid_declared hView segment hSegment filter hFilter
  exact ⟨Schema.grid_declared, view, hView, segment, hSegment, filter, hFilter, hDepth, first,
    later, hAttached, hBound⟩

/-- Within a limit of two levels each of the filters is accepted, and so is the filter of three. -/
theorem filter_outgrows_limit : ∃ view,
    compileText { filterDepth := 2 } .grid "/q|m<1;/q|m<2" = .ok view ∧
      ∃ segment ∈ view.segments, ∃ filter ∈ segment.filter, filter.depth = 3 := by
  have hRun : ∃ view ∈ (compileText { filterDepth := 2 } .grid "/q|m<1;/q|m<2").toOption,
      ∃ segment ∈ view.segments, ∃ filter ∈ segment.filter, filter.depth = 3 := by
    decide +kernel
  obtain ⟨view, hView, hDeep⟩ := hRun
  exact ⟨view, eq_ok_of_mem_toOption hView, hDeep⟩

end Request

end Hyperslab
