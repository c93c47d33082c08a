import Hyperslab.Proofs.Filter.Reread
import Hyperslab.Proofs.Request.Outcome
import Hyperslab.Proofs.View.Coherent
import Hyperslab.Proofs.View.Filters

/-! The shape of the filters that come of a text, and that evaluating them can only go wrong for
want of the right data in a row. -/
namespace Hyperslab

open Pattern (Regex)

/-- The fault is found in the data of a row, or in a pattern that is taken from them. -/
def Fault.isOfRow : Fault → Bool
  | missingField _ | notScalar _ | typeMismatch .. | badPattern _ => true
  | _ => false

/-- Nothing but the data of a row can make the computation fail. -/
def FailsOnRows {α : Type} (x : Except Fault α) : Prop :=
  ∀ fault, x = .error fault → fault.isOfRow = true

theorem FailsOnRows.of_ok {α : Type} (a : α) : FailsOnRows (.ok a : Except Fault α) := nofun

theorem FailsOnRows.bind {α β : Type} {x : Except Fault α} {f : α → Except Fault β}
    (h : FailsOnRows x) (hNext : ∀ a, x = .ok a → FailsOnRows (f a)) : FailsOnRows (x >>= f) := by
  cases x with
  | error fault => exact fun _ hFault => h _ (Except.error.inj hFault ▸ rfl)
  | ok a => exact hNext a rfl

theorem FailsOnRows.cases {α : Type} {x : Except Fault α} (h : FailsOnRows x) :
    (∃ a, x = .ok a) ∨ ∃ fault, x = .error fault ∧ fault.isOfRow = true := by
  cases x with
  | error fault => exact Or.inr ⟨fault, rfl, h fault rfl⟩
  | ok a => exact Or.inl ⟨a, rfl⟩

namespace Filter

/-- A constant, or a scalar field of the sequence with the name that it has there. -/
inductive IsLeaf (schema : Schema) (sequence : VarId) : Filter → Prop where
  | constant (value : Value) : IsLeaf schema sequence (.constant value)
  | field {v : VarId} {type : AtomicType} (mem : v ∈ (schema.var sequence).fields)
      (owner : (schema.var v).owner = .compound sequence)
      (kind : (schema.var v).kind = .atomic type) (rank : (schema.var v).rank = 0) :
      IsLeaf schema sequence (.field v (schema.var v).name)

/-- The comparison carries the matcher of its pattern if that is written as a string, and none
otherwise. -/
structure CarriesMatcher (limits : Limits) (op : Operator) (rhs : Filter) (regex : Option Regex) :
    Prop where
  written : ∀ pattern, op = .like → rhs = .constant (.str pattern) →
    ∃ matcher, regex = some matcher ∧
      Pattern.compile? pattern limits.patternBytes = some matcher
  unwritten : (∀ pattern, op = .like → rhs ≠ .constant (.str pattern)) → regex = none

/-- The filters of a sequence: conjunctions of two and negations of one, down to comparisons of
leaves with a field on the left if there is one. -/
inductive WellFormed (schema : Schema) (limits : Limits) (sequence : VarId) : Filter → Prop where
  | compare {op : Operator} {lhs rhs : Filter} {regex : Option Regex}
      (left : lhs.IsLeaf schema sequence) (right : rhs.IsLeaf schema sequence)
      (oriented : rhs.isField = true → lhs.isField = true)
      (matcher : CarriesMatcher limits op rhs regex) :
      WellFormed schema limits sequence (.compare op lhs rhs regex)
  | conj {a b : Filter} (left : WellFormed schema limits sequence a)
      (right : WellFormed schema limits sequence b) :
      WellFormed schema limits sequence (.joined .conj [a, b])
  | neg {a : Filter} (operand : WellFormed schema limits sequence a) :
      WellFormed schema limits sequence (.joined .neg [a])

variable {schema : Schema} {limits : Limits} {sequence : VarId} {filter : Filter}

theorem isLeaf_of_filterField (hTree : schema.Tree) {name : String}
    (h : schema.filterField sequence name = .ok filter) : filter.IsLeaf schema sequence := by
  unfold Schema.filterField at h
  simp only at h
  split at h
  · cases h
  · next v hField =>
      have hMem := List.mem_of_find?_eq_some hField
      split at h
      · cases h
      · next hAtomic =>
          split at h
          · cases h
          · next hRank =>
              cases h
              cases hKind : (schema.var v).kind with
              | atomic type => exact .field hMem (hTree.owner hMem) hKind (by omega)
              | record | sequence =>
                  rw [Variable.isCompound, hKind] at hAtomic
                  exact absurd rfl hAtomic

theorem IsOperand.isLeaf (hTree : schema.Tree) (h : filter.IsOperand schema sequence) :
    filter.IsLeaf schema sequence := by
  cases h with
  | constant value => exact .constant value
  | field v name _ hBound => exact isLeaf_of_filterField hTree hBound

/-- What orienting leaves alone has a field on its left, and the matcher for its pattern. -/
theorem oriented_self {op : Operator} {lhs rhs : Filter} {regex : Option Regex}
    (h : oriented limits op lhs rhs = .ok (.compare op lhs rhs regex)) :
    (rhs.isField = true → lhs.isField = true) ∧ CarriesMatcher limits op rhs regex := by
  have hStraight : (!lhs.isField && rhs.isField) = false := by
    by_contra hSwap
    rw [Bool.not_eq_false] at hSwap
    obtain ⟨hAgain, hEq⟩ := oriented_swap limits op hSwap
    rw [hEq] at h
    obtain ⟨_, hSame⟩ := oriented_straight hAgain h
    obtain ⟨-, rfl, -⟩ := compare.inj hSame
    simp at hSwap
  refine ⟨fun hField => by simpa [hField] using hStraight, ?_⟩
  simp only [oriented, hStraight, Bool.false_eq_true, if_false] at h
  split at h
  · next pattern =>
      split at h
      · next matcher hMatcher =>
          cases h
          refine ⟨fun other _ hSame => ?_, fun hOther => absurd rfl (hOther pattern rfl)⟩
          cases hSame
          exact ⟨matcher, rfl, hMatcher⟩
      · cases h
  · next hOther =>
      cases h
      exact ⟨fun pattern hLike hPattern => absurd hPattern (hOther pattern hLike), fun _ => rfl⟩

theorem Bound.wellFormed (hTree : schema.Tree) (h : filter.Bound schema limits sequence) :
    filter.WellFormed schema limits sequence := by
  induction h with
  | compare hLeft hRight hOriented =>
      obtain ⟨hField, hMatcher⟩ := oriented_self hOriented
      exact .compare (hLeft.isLeaf hTree) (hRight.isLeaf hTree) hField hMatcher
  | conj _ _ iha ihb => exact .conj iha ihb
  | neg _ ih => exact .neg ih

variable {row : Row}

theorem IsLeaf.failsOnRows (h : filter.IsLeaf schema sequence) :
    FailsOnRows (filter.evaluate schema row) := by
  cases h with
  | constant value => exact .of_ok value
  | field mem owner kind rank =>
      intro fault hFault
      simp only [evaluate, readField] at hFault
      split at hFault
      · cases hFault
        rfl
      · split at hFault
        · cases hFault
        · cases hFault
          rfl
        · cases hFault
          rfl

theorem failsOnRows_order (a b : Value) : FailsOnRows (a.order? b) := by
  intro fault hFault
  unfold Value.order? at hFault
  split at hFault
  · cases hFault
  · cases hFault
  · cases hFault
  · split at hFault
    · cases hFault
    · cases hFault
      rfl
  · split at hFault
    · cases hFault
    · cases hFault
      rfl
  · cases hFault
    rfl

theorem failsOnRows_compareBy (op : Operator) (a b : Value) (regex : Option Regex) :
    FailsOnRows (a.compareBy op b regex) := by
  unfold Value.compareBy
  split
  · exact .of_ok _
  · intro fault hFault
    unfold Value.matchPattern at hFault
    split at hFault
    · cases hFault
    · cases hFault
      rfl
  · intro fault hFault
    cases hOrder : a.order? b with
    | ok order =>
        rw [hOrder] at hFault
        cases hFault
    | error fault' =>
        rw [hOrder] at hFault
        cases hFault
        exact failsOnRows_order a b _ hOrder

/-- A well-formed filter evaluates to a boolean if it evaluates to anything. -/
theorem WellFormed.exists_bool (h : filter.WellFormed schema limits sequence) {value : Value}
    (hValue : filter.evaluate schema row = .ok value) : ∃ passes, value = .bool passes := by
  cases h with
  | compare =>
      rw [evaluate] at hValue
      obtain ⟨_, _, hValue⟩ := exists_of_bind_eq_ok hValue
      obtain ⟨_, _, hValue⟩ := exists_of_bind_eq_ok hValue
      obtain ⟨passes, _, hValue⟩ := exists_of_bind_eq_ok hValue
      cases hValue
      exact ⟨passes, rfl⟩
  | conj =>
      rw [evaluate] at hValue
      obtain ⟨_, _, hValue⟩ := exists_of_bind_eq_ok hValue
      obtain ⟨left, _, hValue⟩ := exists_of_bind_eq_ok hValue
      obtain ⟨_, _, hValue⟩ := exists_of_bind_eq_ok hValue
      obtain ⟨right, _, hValue⟩ := exists_of_bind_eq_ok hValue
      cases hValue
      exact ⟨left && right, rfl⟩
  | neg =>
      rw [evaluate] at hValue
      obtain ⟨_, _, hValue⟩ := exists_of_bind_eq_ok hValue
      obtain ⟨passes, _, hValue⟩ := exists_of_bind_eq_ok hValue
      cases hValue
      exact ⟨!passes, rfl⟩

theorem WellFormed.accepts_of_evaluate (h : filter.WellFormed schema limits sequence)
    (hEvaluate : FailsOnRows (filter.evaluate schema row)) :
    FailsOnRows (filter.accepts schema row) := by
  refine hEvaluate.bind fun value hValue => ?_
  obtain ⟨passes, rfl⟩ := h.exists_bool hValue
  exact .of_ok passes

/-- Evaluating a well-formed filter meets neither a condition that is no boolean nor a wrong number
of operands. -/
theorem WellFormed.failsOnRows (h : filter.WellFormed schema limits sequence) :
    FailsOnRows (filter.accepts schema row) := by
  apply h.accepts_of_evaluate
  induction h with
  | @compare op lhs rhs regex left right =>
      rw [evaluate]
      refine left.failsOnRows.bind fun a _ => right.failsOnRows.bind fun b _ => ?_
      exact (failsOnRows_compareBy op a b regex).bind fun _ _ => .of_ok _
  | @conj a b left right iha ihb =>
      have hBoth : joined .conj [a, b] = Filter.conj a b := rfl
      rw [hBoth, evaluate_conj]
      refine (left.accepts_of_evaluate iha).bind fun _ _ => ?_
      exact (right.accepts_of_evaluate ihb).bind fun _ _ => .of_ok _
  | @neg a operand ih =>
      have hSingle : joined .neg [a] = Filter.neg a := rfl
      rw [hSingle, evaluate_neg]
      exact (operand.accepts_of_evaluate ih).bind fun _ _ => .of_ok _

end Filter

/-- The filters of an accepted text are well formed, so whether a row passes is decided unless the
data of the row stand against it. -/
theorem Request.compileText_wellFormed {schema : Schema} (hSchema : schema.Declared)
    {limits : Limits} {text : String} {view : View}
    (h : compileText limits schema text = .ok view) :
    (∀ segment ∈ view.segments, ∀ filter ∈ segment.filter,
        (schema.var segment.var).isSequence = true ∧
          filter.WellFormed schema limits segment.var) ∧
      ∀ v row, (∃ passes, view.matchRow v row = .ok passes) ∨
        ∃ fault, view.matchRow v row = .error fault ∧ fault.isOfRow = true := by
  obtain ⟨request, _, hWritable, hFinite, hCompile⟩ := compileText_ok h
  have hTree := hSchema.tree
  have hOutcome := outcome hTree hCompile
  have hCoherent := (View.coherent_empty schema).steps
    (compile_steps hTree hSchema.complete hWritable hFinite hCompile)
  have hBound := (compile_filtersBound hWritable hFinite hCompile).2
  refine ⟨fun segment hMem filter hFilter => ⟨?_, ?_⟩, fun v row => ?_⟩
  · rw [← hOutcome.schema_eq]
    exact hCoherent.filter segment hMem (Option.isSome_of_mem hFilter)
  · exact (hBound segment hMem filter hFilter).wellFormed hTree
  · apply FailsOnRows.cases
    rw [View.matchRow_of_finished hOutcome.finished]
    cases hFilter : view.filter? v with
    | none => exact .of_ok true
    | some filter =>
        obtain ⟨segment, hFind, hOwn⟩ := Option.bind_eq_some_iff.mp hFilter
        have hMem := View.mem_of_segment? hFind
        rw [hOutcome.schema_eq]
        exact ((hBound segment hMem filter hOwn).wellFormed hTree).failsOnRows

/-- A comparison that is written the other way round, a pattern, and rows with and without data. -/
theorem Request.compileText_wellFormed_grid : Schema.grid.Declared ∧ ∃ view,
    compileText {} .grid "/q|3<m,!(m~=\"4\")" = .ok view ∧
      (∃ segment ∈ view.segments, ∃ filter ∈ segment.filter,
        filter.text = "m>3,!m~=\"4\"" ∧ filter.WellFormed .grid {} segment.var) ∧
        view.matchRow ⟨1⟩ (.ofList [("m", .scalar (.int 5))]) = .ok true ∧
          ∃ fault, view.matchRow ⟨1⟩ (.ofList []) = .error fault ∧ fault.isOfRow = true := by
  have hRun : ∃ view ∈ (compileText {} .grid "/q|3<m,!(m~=\"4\")").toOption,
      (∃ segment ∈ view.segments, ∃ filter ∈ segment.filter,
        filter.text = "m>3,!m~=\"4\"") ∧
        (view.matchRow ⟨1⟩ (.ofList [("m", .scalar (.int 5))])).toOption = some true ∧
          (view.matchRow ⟨1⟩ (.ofList [])).toOption = none := by
    decide +kernel
  obtain ⟨view, hView, ⟨segment, hSegment, filter, hFilter, hText⟩, hPasses, hNone⟩ := hRun
  have hView := eq_ok_of_mem_toOption hView
  obtain ⟨hFilters, hRows⟩ := compileText_wellFormed Schema.grid_declared hView
  refine ⟨Schema.grid_declared, view, hView, ⟨segment, hSegment, filter, hFilter, hText, ?_⟩,
    eq_ok_of_mem_toOption hPasses, ?_⟩
  · exact (hFilters segment hSegment filter hFilter).2
  · refine (hRows ⟨1⟩ (.ofList [])).resolve_left ?_
    rintro ⟨passes, hPasses⟩
    rw [hPasses] at hNone
    cases hNone

end Hyperslab
