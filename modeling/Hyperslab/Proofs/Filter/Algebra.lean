import Hyperslab.Proofs.Filter.Reread

/-! Filters as formulas over their comparisons. The value of a filter is that of the formula, and
its fault is the first one of a comparison: nothing is skipped, and no fault is lost. -/
namespace Hyperslab.Filter

/-- What can stand on a side of a comparison. -/
def isTerm : Filter → Bool
  | constant _ | field _ _ => true
  | compare .. | joined .. => false

/-- Conjunctions of two and negations of one, down to comparisons of fields and constants. -/
inductive IsCondition : Filter → Prop where
  | compare (op : Operator) {lhs rhs : Filter} (regex : Option Pattern.Regex)
      (left : lhs.isTerm = true) (right : rhs.isTerm = true) :
      IsCondition (compare op lhs rhs regex)
  | conj {a b : Filter} (left : a.IsCondition) (right : b.IsCondition) : IsCondition (conj a b)
  | neg {a : Filter} (operand : a.IsCondition) : IsCondition (neg a)

/-- The comparisons in a condition, from left to right. -/
def comparisons : Filter → List Filter
  | compare op lhs rhs regex => [compare op lhs rhs regex]
  | joined .conj [a, b] => a.comparisons ++ b.comparisons
  | joined .neg [a] => a.comparisons
  | _ => []

/-- The condition as a formula, with a truth value for each comparison. -/
def reading (holds : Filter → Bool) : Filter → Bool
  | compare op lhs rhs regex => holds (compare op lhs rhs regex)
  | joined .conj [a, b] => a.reading holds && b.reading holds
  | joined .neg [a] => !a.reading holds
  | _ => false

/-- The filters differ in how their conjunctions are grouped, at any depth. -/
inductive Regroups : Filter → Filter → Prop where
  | refl (a : Filter) : Regroups a a
  | symm {a b : Filter} (h : Regroups a b) : Regroups b a
  | trans {a b c : Filter} (h : Regroups a b) (h' : Regroups b c) : Regroups a c
  | assoc (a b c : Filter) : Regroups (conj (conj a b) c) (conj a (conj b c))
  | conj {a a' b b' : Filter} (left : Regroups a a') (right : Regroups b b') :
      Regroups (conj a b) (conj a' b')
  | neg {a a' : Filter} (operand : Regroups a a') : Regroups (neg a) (neg a')

variable {schema : Schema} {row : Row} {filter : Filter}

/-- The fault that evaluating the filter ends in, if it does. -/
def fault? (schema : Schema) (row : Row) (filter : Filter) : Option Fault :=
  match filter.evaluate schema row with
  | .ok _ => none
  | .error fault => some fault

theorem fault?_eq_some {fault : Fault} :
    filter.fault? schema row = some fault ↔ filter.evaluate schema row = .error fault := by
  rw [fault?]
  cases filter.evaluate schema row <;> simp

theorem fault?_eq_none :
    filter.fault? schema row = none ↔ ∃ value, filter.evaluate schema row = .ok value := by
  rw [fault?]
  cases filter.evaluate schema row <;> simp

/-- Is the value of the filter true? -/
def isTrue (schema : Schema) (row : Row) (filter : Filter) : Bool :=
  match filter.evaluate schema row with
  | .ok (.bool truth) => truth
  | _ => false

theorem evaluate_compare {op : Operator} {lhs rhs : Filter} {regex : Option Pattern.Regex}
    {value : Value} (h : (compare op lhs rhs regex).evaluate schema row = .ok value) :
    ∃ truth, value = .bool truth := by
  rw [evaluate] at h
  obtain ⟨left, _, h⟩ := exists_of_bind_eq_ok h
  obtain ⟨right, _, h⟩ := exists_of_bind_eq_ok h
  obtain ⟨truth, _, h⟩ := exists_of_bind_eq_ok h
  exact ⟨truth, (Except.ok.inj h).symm⟩

/-- The first fault of a comparison, or else what the formula says. -/
theorem IsCondition.evaluate (h : filter.IsCondition) (schema : Schema) (row : Row) :
    filter.evaluate schema row =
      match filter.comparisons.findSome? (fault? schema row) with
      | some fault => .error fault
      | none => .ok (.bool (filter.reading (isTrue schema row))) := by
  induction h with
  | @compare op lhs rhs regex _ _ =>
      rw [comparisons, List.findSome?_singleton, fault?, reading, isTrue]
      cases hEval : (Filter.compare op lhs rhs regex).evaluate schema row with
      | error fault => rfl
      | ok value =>
          obtain ⟨truth, rfl⟩ := evaluate_compare hEval
          rfl
  | @conj a b _ _ iha ihb =>
      -- The right operand is looked at also when the left one is false.
      rw [evaluate_conj, accepts, accepts, iha, ihb, Filter.conj, comparisons, reading,
        List.findSome?_append]
      cases a.comparisons.findSome? (fault? schema row) with
      | some fault => rfl
      | none => cases b.comparisons.findSome? (fault? schema row) <;> rfl
  | @neg a _ ih =>
      rw [evaluate_neg, accepts, ih, Filter.neg, comparisons, reading]
      cases a.comparisons.findSome? (fault? schema row) <;> rfl

theorem IsCondition.fault? (h : filter.IsCondition) :
    filter.fault? schema row = filter.comparisons.findSome? (fault? schema row) := by
  rw [Filter.fault?, h.evaluate]
  cases filter.comparisons.findSome? (Filter.fault? schema row) <;> rfl

/-- The formula depends on its comparisons only. -/
theorem reading_congr {holds holds' : Filter → Bool} (h : filter.IsCondition)
    (hSame : ∀ c ∈ filter.comparisons, holds c = holds' c) :
    filter.reading holds = filter.reading holds' := by
  induction h with
  | compare => exact hSame _ (by simp [comparisons])
  | conj _ _ iha ihb =>
      rw [Filter.conj, comparisons, List.forall_mem_append] at hSame
      rw [Filter.conj, reading, reading, iha hSame.1, ihb hSame.2]
  | neg _ ih => rw [Filter.neg, reading, reading, ih hSame]

/-- A comparison that has a value is true or false. -/
theorem evaluate_comparison (h : filter.IsCondition) {c : Filter} (hMem : c ∈ filter.comparisons)
    {value : Value} (hValue : c.evaluate schema row = .ok value) :
    c.evaluate schema row = .ok (.bool (c.isTrue schema row)) := by
  induction h with
  | compare op regex =>
      obtain rfl : c = .compare op _ _ regex := by simpa [comparisons] using hMem
      obtain ⟨truth, rfl⟩ := evaluate_compare hValue
      rw [isTrue, hValue]
  | conj _ _ iha ihb => exact (List.mem_append.mp hMem).elim iha ihb
  | neg _ ih => exact ih hMem

theorem Regroups.evaluate {a b : Filter} (h : a.Regroups b) (schema : Schema) (row : Row) :
    b.evaluate schema row = a.evaluate schema row := by
  induction h with
  | refl => rfl
  | symm _ ih => exact ih.symm
  | trans _ _ ih ih' => exact ih'.trans ih
  | assoc a b c => exact (evaluate_conj_assoc schema row a b c).symm
  | conj _ _ iha ihb =>
      rw [evaluate_conj, evaluate_conj, Expr.accepts_congr iha, Expr.accepts_congr ihb]
  | neg _ ih => rw [evaluate_neg, evaluate_neg, Expr.accepts_congr ih]

/-- A condition fails just where a comparison in it does, with the fault of the leftmost one. Else
it has the value of its formula, and so has any condition with its conjunctions grouped in another
way. -/
theorem evaluate_condition (h : filter.IsCondition) (schema : Schema) (row : Row) :
    ((∃ fault, filter.evaluate schema row = .error fault) ↔
        ∃ c ∈ filter.comparisons, ∃ fault, c.evaluate schema row = .error fault) ∧
      (∀ fault, filter.evaluate schema row = .error fault ↔
        ∃ before c behind, filter.comparisons = before ++ c :: behind ∧
          c.evaluate schema row = .error fault ∧
            ∀ d ∈ before, ∃ value, d.evaluate schema row = .ok value) ∧
      (∀ value, filter.evaluate schema row = .ok value ↔
        ∃ holds : Filter → Bool,
          (∀ c ∈ filter.comparisons, c.evaluate schema row = .ok (.bool (holds c))) ∧
            value = .bool (filter.reading holds)) ∧
      ∀ other, filter.Regroups other → other.evaluate schema row = filter.evaluate schema row := by
  refine ⟨?_, fun fault => ?_, fun value => ⟨fun hValue => ?_, ?_⟩, fun other hOther =>
    hOther.evaluate schema row⟩
  · simp only [← fault?_eq_some, ← Option.isSome_iff_exists, h.fault?, List.findSome?_isSome_iff]
  · simp only [← fault?_eq_some, ← fault?_eq_none, h.fault?, List.findSome?_eq_some_iff]
  · have hNoFault := h.fault?.symm.trans (fault?_eq_none.mpr ⟨_, hValue⟩)
    rw [List.findSome?_eq_none_iff] at hNoFault
    refine ⟨isTrue schema row, fun c hMem => ?_, ?_⟩
    · obtain ⟨own, hOwn⟩ := fault?_eq_none.mp (hNoFault c hMem)
      exact evaluate_comparison h hMem hOwn
    · rw [h.evaluate, List.findSome?_eq_none_iff.mpr hNoFault] at hValue
      exact (Except.ok.inj hValue).symm
  · rintro ⟨holds, hHolds, rfl⟩
    have hNoFault : filter.comparisons.findSome? (fault? schema row) = none :=
      List.findSome?_eq_none_iff.mpr fun c hMem => fault?_eq_none.mpr ⟨_, hHolds c hMem⟩
    have hSame : ∀ c ∈ filter.comparisons, c.isTrue schema row = holds c := by
      intro c hMem
      rw [isTrue, hHolds c hMem]
    rw [h.evaluate, hNoFault, reading_congr h hSame]

/-- Two comparisons, of which the left one is negated. -/
def conditionSample : Filter :=
  conj (neg (compare .lt (field ⟨5⟩ "m") (constant (.int 2)) none))
    (compare .eq (field ⟨6⟩ "n") (constant (.int 3)) none)

theorem conditionSample_isCondition : conditionSample.IsCondition :=
  .conj (.neg (.compare _ _ rfl rfl)) (.compare _ _ rfl rfl)

/-- The left operand is false, and the fault of the right one still shows. -/
theorem evaluate_condition_sample :
    conditionSample.IsCondition ∧
      (conditionSample.evaluate .sample (.ofList [("m", .scalar (.int 1))]) =
        .error (.missingField "n")) ∧
      conditionSample.evaluate .sample
        (.ofList [("m", .scalar (.int 1)), ("n", .scalar (.int 3))]) = .ok (.bool false) := by
  have h := conditionSample_isCondition
  refine ⟨h, ?_, ?_⟩
  · refine ((evaluate_condition h _ _).2.1 _).mpr ⟨[_], _, [], rfl, rfl, ?_⟩
    intro c hMem
    rw [List.mem_singleton.mp hMem]
    exact ⟨_, rfl⟩
  · refine ((evaluate_condition h _ _).2.2.1 _).mpr ⟨fun _ => true, ?_, rfl⟩
    intro c hMem
    rcases List.mem_cons.mp hMem with rfl | hMem
    · rfl
    · rw [List.mem_singleton.mp hMem]
      rfl

end Hyperslab.Filter
