import Hyperslab.Proofs.Count
import Hyperslab.Proofs.Filter.Reread
import Hyperslab.Proofs.Request.Order
import Hyperslab.Proofs.View.Extent

/-! What the limits on a request decide. Filters that are too deep and variables with too many
elements are refused, and that is all: a limit never changes a view. -/
namespace Hyperslab

mutual

/-- The filters of a selector, at any place in it. -/
def Selector.filters : Selector → List Expr
  | .mk _ _ child fields => fieldFilters fields ++ childFilters child

def Clause.filters : Clause → List Expr
  | .mk target filter => target.filters ++ filter.toList

def childFilters : Option Selector → List Expr
  | none => []
  | some child => child.filters

def fieldFilters : List Clause → List Expr
  | [] => []
  | clause :: rest => clause.filters ++ fieldFilters rest

end

/-- The filters of a request. -/
def Request.filters (request : Request) : List Expr := fieldFilters request.clauses

variable {schema : Schema} {limits reach : Limits}

theorem Filter.oriented_congr (hPattern : limits.patternBytes = reach.patternBytes) (op : Operator)
    (lhs rhs : Filter) : oriented limits op lhs rhs = oriented reach op lhs rhs := by
  simp only [oriented, hPattern]

namespace Expr

variable {sequence : VarId} {level : Nat} {filter : Filter}

/-- An expression is bound if it is within the limit from its level on, and its parts are bound. -/
theorem compile_iff {e : Expr} : e.compile schema limits sequence level = .ok filter ↔
    e.depth + level ≤ limits.filterDepth + 1 ∧ e.BindsTo schema limits sequence filter := by
  induction e generalizing level filter with
  | constant v =>
      rw [compile, depth]
      split
      · next hDeep =>
          refine iff_of_false ?_ fun h => absurd h.1 (by omega)
          rintro ⟨⟩
      · constructor
        · rintro h
          cases h
          exact ⟨by omega, .constant v⟩
        · rintro ⟨_, hBinds⟩
          cases hBinds
          rfl
  | field name =>
      rw [compile, depth]
      split
      · next hDeep =>
          refine iff_of_false ?_ fun h => absurd h.1 (by omega)
          rintro ⟨⟩
      · constructor
        · exact fun h => ⟨by omega, .field h⟩
        · rintro ⟨_, hBinds⟩
          cases hBinds with
          | field h => exact h
  | compare op lhs rhs ihl ihr =>
      simp only [compile_compare, ihl, ihr, depth]
      constructor
      · rintro ⟨_, left, right, ⟨_, hLeft⟩, ⟨_, hRight⟩, hOriented⟩
        exact ⟨by omega, .compare hLeft hRight hOriented⟩
      · rintro ⟨_, hBinds⟩
        cases hBinds with
        | compare hLeft hRight hOriented =>
            exact ⟨by omega, _, _, ⟨by omega, hLeft⟩, ⟨by omega, hRight⟩, hOriented⟩
  | conj a b iha ihb =>
      simp only [compile_conj, iha, ihb, depth]
      constructor
      · rintro ⟨_, left, right, ⟨_, hLeft⟩, ⟨_, hRight⟩, rfl⟩
        exact ⟨by omega, .conj hLeft hRight⟩
      · rintro ⟨_, hBinds⟩
        cases hBinds with
        | conj hLeft hRight =>
            exact ⟨by omega, _, _, ⟨by omega, hLeft⟩, ⟨by omega, hRight⟩, rfl⟩
  | neg a ih =>
      simp only [compile_neg, ih, depth]
      constructor
      · rintro ⟨_, inner, ⟨_, hInner⟩, rfl⟩
        exact ⟨by omega, .neg hInner⟩
      · rintro ⟨_, hBinds⟩
        cases hBinds with
        | neg hInner => exact ⟨by omega, _, ⟨by omega, hInner⟩, rfl⟩

/-- The limit on patterns is all that matters for the parts of an expression. -/
theorem BindsTo.congr (hPattern : limits.patternBytes = reach.patternBytes) {e : Expr}
    (h : e.BindsTo schema limits sequence filter) : e.BindsTo schema reach sequence filter := by
  induction h with
  | constant v => exact .constant v
  | field h => exact .field h
  | compare _ _ h ihl ihr => exact .compare ihl ihr (Filter.oriented_congr hPattern .. ▸ h)
  | conj _ _ iha ihb => exact .conj iha ihb
  | neg _ ih => exact .neg ih

theorem compile_okIf (hPattern : limits.patternBytes = reach.patternBytes) {e : Expr}
    (hReach : e.depth ≤ reach.filterDepth) :
    OkIf (e.depth ≤ limits.filterDepth) (e.compile schema limits sequence 1)
      (e.compile schema reach sequence 1) := by
  intro filter
  rw [compile_iff, compile_iff]
  constructor
  · rintro ⟨hDepth, hBinds⟩
    exact ⟨⟨by omega, hBinds.congr hPattern⟩, by omega⟩
  · rintro ⟨⟨_, hBinds⟩, hDepth⟩
    exact ⟨by omega, hBinds.congr hPattern.symm⟩

end Expr

theorem filterEdits_okIf (hPattern : limits.patternBytes = reach.patternBytes) (target : VarId)
    {filter : Option Expr} (hReach : ∀ e ∈ filter, e.depth ≤ reach.filterDepth) :
    OkIf (∀ e ∈ filter, e.depth ≤ limits.filterDepth) (filterEdits limits schema target filter)
      (filterEdits reach schema target filter) := by
  cases filter with
  | none => exact .of_true _ nofun
  | some e =>
      rw [filterEdits, filterEdits]
      split
      · have hFilter : OkIf (e.depth ≤ limits.filterDepth) (e.compile schema limits target 1)
            (e.compile schema reach target 1) :=
          Expr.compile_okIf hPattern (hReach e rfl)
        exact hFilter.bind_right.congr (by simp)
      · exact .of_error _

mutual

/-- A selector stands for the same edits under all limits that none of its filters exceeds. -/
theorem selector_okIf (hPattern : limits.patternBytes = reach.patternBytes) :
    ∀ (s : Selector) (scope : Option VarId),
    (∀ e ∈ s.filters, e.depth ≤ reach.filterDepth) →
      OkIf (∀ e ∈ s.filters, e.depth ≤ limits.filterDepth) (s.edits limits schema scope)
        (s.edits reach schema scope)
  | .mk name slices child fields, scope, hReach => by
    simp only [Selector.filters, List.forall_mem_append] at hReach ⊢
    rw [Selector.edits, Selector.edits]
    refine .bind_left fun v => ?_
    refine (clauses_okIf hPattern fields _ hReach.1).bind fun inFields => ?_
    exact (child_okIf hPattern child v hReach.2).bind_right

theorem child_okIf (hPattern : limits.patternBytes = reach.patternBytes) :
    ∀ (child : Option Selector) (c : VarId),
    (∀ e ∈ childFilters child, e.depth ≤ reach.filterDepth) →
      OkIf (∀ e ∈ childFilters child, e.depth ≤ limits.filterDepth)
        (childEdits limits schema c child) (childEdits reach schema c child)
  | none, c, _ => .of_true _ (by simp [childFilters])
  | some s, c, hReach => by
    rw [childFilters] at hReach ⊢
    rw [childEdits, childEdits]
    exact selector_okIf hPattern s (some c) hReach

theorem clauses_okIf (hPattern : limits.patternBytes = reach.patternBytes) :
    ∀ (clauses : List Clause) (scope : Option VarId),
    (∀ e ∈ fieldFilters clauses, e.depth ≤ reach.filterDepth) →
      OkIf (∀ e ∈ fieldFilters clauses, e.depth ≤ limits.filterDepth)
        (clausesEdits limits schema scope clauses) (clausesEdits reach schema scope clauses)
  | [], scope, _ => .of_true _ (by simp [fieldFilters])
  | clause :: clauses, scope, hReach => by
    simp only [fieldFilters, List.forall_mem_append] at hReach ⊢
    rw [clausesEdits, clausesEdits]
    refine (clause_okIf hPattern clause scope hReach.1).bind fun first => ?_
    exact (clauses_okIf hPattern clauses scope hReach.2).bind_right

theorem clause_okIf (hPattern : limits.patternBytes = reach.patternBytes) :
    ∀ (clause : Clause) (scope : Option VarId),
    (∀ e ∈ clause.filters, e.depth ≤ reach.filterDepth) →
      OkIf (∀ e ∈ clause.filters, e.depth ≤ limits.filterDepth)
        (clause.edits limits schema scope) (clause.edits reach schema scope)
  | .mk target filter, scope, hReach => by
    simp only [Clause.filters, List.forall_mem_append, Option.mem_toList] at hReach ⊢
    rw [Clause.edits, Clause.edits]
    refine (selector_okIf hPattern target scope hReach.1).bind fun found => ?_
    exact (filterEdits_okIf hPattern found.2 hReach.2).bind_right

end

/-- The count of a finished segment is the product of its dimensions, held at the largest word. -/
theorem View.Coherent.toNat_count {selected view : View} (h : selected.Coherent)
    (hFinish : selected.finish.toExcept = .ok view) {segment : Segment}
    (hMem : segment ∈ view.segments) :
    segment.count.toNat = min (segment.dimensions.map (·.size.toNat)).prod maxWord := by
  obtain ⟨_, segments, hSegments, rfl⟩ := finish_ok hFinish
  obtain ⟨before, _, hSettle⟩ := exists_of_forall₂_right hSegments hMem
  obtain ⟨_, _, extents, hHas, hExpanded⟩ := settleSegment_ok hSettle
  have hFixes : selected.Fixes (selected.positions before) extents := hExpanded
  rw [Segment.count, toNat_productClamped, List.map_map, ← h.volume_projection hHas hFixes]
  rfl

namespace Request

variable {request : Request} {view : View}

theorem Finishes.toNat_count (hSchema : schema.Declared) (h : request.Finishes limits schema view)
    {segment : Segment} (hMem : segment ∈ view.segments) :
    segment.count.toNat = min (segment.dimensions.map (·.size.toNat)).prod maxWord := by
  obtain ⟨resized, selected, hResized, hSelected, hFinish⟩ := h
  obtain ⟨hOpen, _⟩ := View.addResizes_open hResized
  obtain ⟨edits, hEdits, hRun⟩ := (View.selectAll_run _ hOpen.schema_eq).mp hSelected
  have hEnd :=
    (hOpen.run_names hSchema.tree hSchema.complete (asks_of_clausesEdits hEdits) hRun).2
  exact hEnd.coherent.toNat_count hFinish hMem

/-- A limit on depth decides whether a request comes to a view, but not to which. -/
theorem finishes_iff (hPattern : limits.patternBytes = reach.patternBytes)
    (hReach : ∀ e ∈ request.filters, e.depth ≤ reach.filterDepth) :
    request.Finishes limits schema view ↔ request.Finishes reach schema view ∧
      ∀ e ∈ request.filters, e.depth ≤ limits.filterDepth := by
  have hSelect {resized selected : View}
      (hResized : (View.empty schema).addResizes request.resizes = .ok resized) :
      View.selectAll limits resized request.clauses = .ok selected ↔
        View.selectAll reach resized request.clauses = .ok selected ∧
          ∀ e ∈ request.filters, e.depth ≤ limits.filterDepth := by
    have hStart := (View.addResizes_open hResized).1.schema_eq
    simp only [View.selectAll_run _ hStart, clauses_okIf hPattern request.clauses none hReach _]
    exact ⟨fun ⟨edits, ⟨hEdits, hDepth⟩, hRun⟩ => ⟨⟨edits, hEdits, hRun⟩, hDepth⟩,
      fun ⟨⟨edits, hEdits, hRun⟩, hDepth⟩ => ⟨edits, ⟨hEdits, hDepth⟩, hRun⟩⟩
  constructor
  · rintro ⟨resized, selected, hResized, hSelected, hFinish⟩
    obtain ⟨hSelected, hDepth⟩ := (hSelect hResized).mp hSelected
    exact ⟨⟨resized, selected, hResized, hSelected, hFinish⟩, hDepth⟩
  · rintro ⟨⟨resized, selected, hResized, hSelected, hFinish⟩, hDepth⟩
    exact ⟨resized, selected, hResized, (hSelect hResized).mpr ⟨hSelected, hDepth⟩, hFinish⟩

/-- The limits only reject. Let no filter of a request be deeper than `reach`. Within any limits
with the same limit on patterns it comes to the view that it has within `reach` without a cap, if
no filter exceeds the limit on depth and the exact product of the dimensions of each variable is
within the cap, and it is refused otherwise. A cap at the largest word refuses nothing. -/
theorem compile_limited (hSchema : schema.Declared) (request : Request) {reach : Nat}
    (hReach : ∀ e ∈ request.filters, e.depth ≤ reach) (patternBytes filterDepth : Nat)
    (view : View) :
    (∀ cap : UInt64, cap.toNat < maxWord →
      (request.compile ⟨patternBytes, filterDepth, some cap⟩ schema = .ok view ↔
        request.compile ⟨patternBytes, reach, none⟩ schema = .ok view ∧
          (∀ e ∈ request.filters, e.depth ≤ filterDepth) ∧
            ∀ segment ∈ view.segments,
              (segment.dimensions.map (·.size.toNat)).prod ≤ cap.toNat)) ∧
      ∀ cap? : Option UInt64, (∀ cap ∈ cap?, cap.toNat = maxWord) →
        (request.compile ⟨patternBytes, filterDepth, cap?⟩ schema = .ok view ↔
          request.compile ⟨patternBytes, reach, none⟩ schema = .ok view ∧
            ∀ e ∈ request.filters, e.depth ≤ filterDepth) := by
  have hFinishes (cap? : Option UInt64) :
      request.Finishes ⟨patternBytes, filterDepth, cap?⟩ schema view ↔
        request.Finishes ⟨patternBytes, reach, none⟩ schema view ∧
          ∀ e ∈ request.filters, e.depth ≤ filterDepth :=
    finishes_iff rfl hReach
  have hUncapped : request.compile ⟨patternBytes, reach, none⟩ schema = .ok view ↔
      request.Finishes ⟨patternBytes, reach, none⟩ schema view := by
    rw [compile_iff]
    exact and_iff_left nofun
  constructor
  · intro cap hCap
    rw [compile_iff, hUncapped, hFinishes, and_assoc]
    refine and_congr_right fun hFinish => and_congr_right fun _ => ?_
    have hCount (segment : Segment) (hMem : segment ∈ view.segments) : segment.count ≤ cap ↔
        (segment.dimensions.map (·.size.toNat)).prod ≤ cap.toNat := by
      rw [UInt64.le_iff_toNat_le, hFinish.toNat_count hSchema hMem]
      omega
    constructor
    · intro h segment hMem
      exact (hCount segment hMem).mp (h cap rfl segment hMem)
    · rintro h _ ⟨⟩ segment hMem
      exact (hCount segment hMem).mpr (h segment hMem)
  · intro cap? hCap
    rw [compile_iff, hUncapped, hFinishes]
    refine and_iff_left fun cap hSome segment _ => ?_
    rw [UInt64.le_iff_toNat_le, hCap cap hSome]
    exact Nat.le_sub_one_of_lt segment.count.toNat_lt

/-- Filters of two levels and a variable with four elements: the limits just above let the request
through, and the limits just below refuse it. -/
theorem compile_limited_grid : Schema.grid.Declared ∧
    (∀ e ∈ (⟨[], filteredTwice⟩ : Request).filters, e.depth ≤ 2) ∧ (3 : UInt64).toNat < maxWord ∧
      ∃ view, compile ⟨0, 2, none⟩ .grid ⟨[], filteredTwice⟩ = .ok view ∧
        compile ⟨0, 2, some 4⟩ .grid ⟨[], filteredTwice⟩ = .ok view ∧
        compile ⟨0, 2, some 3⟩ .grid ⟨[], filteredTwice⟩ ≠ .ok view ∧
        compile ⟨0, 1, none⟩ .grid ⟨[], filteredTwice⟩ ≠ .ok view := by
  have hReach : ∀ e ∈ (⟨[], filteredTwice⟩ : Request).filters, e.depth ≤ 2 := by decide +kernel
  have hDeep : ¬∀ e ∈ (⟨[], filteredTwice⟩ : Request).filters, e.depth ≤ 1 := by decide +kernel
  have hRun : ∃ view ∈ (compile ⟨0, 2, none⟩ .grid ⟨[], filteredTwice⟩).toOption,
      (∀ segment ∈ view.segments, (segment.dimensions.map (·.size.toNat)).prod ≤ 4) ∧
        ¬∀ segment ∈ view.segments, (segment.dimensions.map (·.size.toNat)).prod ≤ 3 := by
    decide +kernel
  obtain ⟨view, hView, hSmall, hLarge⟩ := hRun
  have hView := eq_ok_of_mem_toOption hView
  obtain ⟨hCapped, _⟩ := compile_limited Schema.grid_declared _ hReach 0 2 view
  obtain ⟨_, hUncapped⟩ := compile_limited Schema.grid_declared _ hReach 0 1 view
  refine ⟨Schema.grid_declared, hReach, by decide, view, hView, ?_, fun h => ?_, fun h => ?_⟩
  · exact (hCapped 4 (by decide)).mpr ⟨hView, hReach, hSmall⟩
  · exact hLarge ((hCapped 3 (by decide)).mp h).2.2
  · exact hDeep ((hUncapped none nofun).mp h).2

end Request

end Hyperslab
