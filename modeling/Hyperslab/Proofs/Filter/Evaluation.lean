import Hyperslab.Proofs.Filter.Bound
import Hyperslab.Proofs.Pattern.Whole
import Hyperslab.Proofs.Schema

/-! Filter expressions evaluated as they are written, and what becomes of that when an expression is
bound to a sequence. Binding puts fields on the left, so operands may be evaluated in another order
and another fault may come first; results are the same, and so is whether there is one. Patterns are
compiled with conditions written around them, which they can escape if they cannot be read by
themselves; then the filter has results that the expression does not have. -/
namespace Hyperslab

/-- Both computations succeed with the same result, or both fail. -/
def SameResult {α : Type} (x y : Except Fault α) : Prop := ∀ a, x = .ok a ↔ y = .ok a

namespace SameResult

variable {α β γ : Type} {x y : Except Fault α}

theorem refl (x : Except Fault α) : SameResult x x := fun _ => Iff.rfl

theorem symm (h : SameResult x y) : SameResult y x := fun a => (h a).symm

theorem trans {z : Except Fault α} (h : SameResult x y) (h' : SameResult y z) : SameResult x z :=
  fun a => (h a).trans (h' a)

theorem of_error {fault fault' : Fault} :
    SameResult (.error fault : Except Fault α) (.error fault') :=
  fun _ => ⟨nofun, nofun⟩

theorem bind_eq_ok_iff {f : α → Except Fault β} {b : β} :
    x >>= f = .ok b ↔ ∃ a, x = .ok a ∧ f a = .ok b := by
  constructor
  · exact exists_of_bind_eq_ok
  · rintro ⟨a, rfl, h⟩
    exact h

theorem bind {f g : α → Except Fault β} (h : SameResult x y) (hNext : ∀ a, SameResult (f a) (g a)) :
    SameResult (x >>= f) (y >>= g) := by
  intro b
  rw [bind_eq_ok_iff, bind_eq_ok_iff]
  exact exists_congr fun a => and_congr (h a) (hNext a b)

/-- Which of two computations comes first shows in faults only. -/
theorem swap (x : Except Fault α) (y : Except Fault β) (f : α → β → Except Fault γ) :
    SameResult (x >>= fun a => y >>= f a) (y >>= fun b => x >>= fun a => f a b) := by
  intro c
  simp only [bind_eq_ok_iff]
  constructor
  · rintro ⟨a, hx, b, hy, h⟩
    exact ⟨b, hy, a, hx, h⟩
  · rintro ⟨b, hy, a, hx, h⟩
    exact ⟨a, hx, b, hy, h⟩

end SameResult

/-- The first computation has the results of the second where the condition holds, and none where
it does not. -/
def OkIf {α : Type} (condition : Prop) (x y : Except Fault α) : Prop :=
  ∀ a, x = .ok a ↔ y = .ok a ∧ condition

namespace OkIf

variable {α β : Type} {P Q : Prop} {x y : Except Fault α}

theorem of_error (fault : Fault) : OkIf P (.error fault : Except Fault α) (.error fault) :=
  fun _ => ⟨nofun, nofun⟩

theorem of_true (x : Except Fault α) (h : P) : OkIf P x x :=
  fun _ => (and_iff_left h).symm

theorem congr (h : OkIf P x y) (hIff : P ↔ Q) : OkIf Q x y :=
  fun a => (h a).trans (and_congr_right fun _ => hIff)

theorem of_same (h : SameResult y x) (hP : P) : OkIf P x y :=
  fun a => (h a).symm.trans (and_iff_left hP).symm

theorem trans {z : Except Fault α} (h : OkIf P x y) (hNext : OkIf Q y z) : OkIf (Q ∧ P) x z :=
  fun a => (h a).trans ((and_congr_left fun _ => hNext a).trans and_assoc)

theorem bind {f g : α → Except Fault β} (h : OkIf P x y) (hNext : ∀ a, OkIf Q (f a) (g a)) :
    OkIf (P ∧ Q) (x >>= f) (y >>= g) := by
  intro b
  rw [SameResult.bind_eq_ok_iff, SameResult.bind_eq_ok_iff]
  constructor
  · rintro ⟨a, hx, hf⟩
    obtain ⟨hy, hP⟩ := (h a).mp hx
    obtain ⟨hg, hQ⟩ := (hNext a b).mp hf
    exact ⟨⟨a, hy, hg⟩, hP, hQ⟩
  · rintro ⟨⟨a, hy, hg⟩, hP, hQ⟩
    exact ⟨a, (h a).mpr ⟨hy, hP⟩, (hNext a b).mpr ⟨hg, hQ⟩⟩

/-- What comes before is the same on both sides. -/
theorem bind_left {f g : α → Except Fault β} (hNext : ∀ a, OkIf P (f a) (g a)) :
    OkIf P (x >>= f) (x >>= g) :=
  ((of_true x trivial).bind hNext).congr ⟨And.right, And.intro trivial⟩

/-- What comes behind is the same on both sides. -/
theorem bind_right {f : α → Except Fault β} (h : OkIf P x y) : OkIf P (x >>= f) (y >>= f) :=
  (h.bind fun a => of_true (f a) trivial).congr ⟨And.left, fun h => ⟨h, trivial⟩⟩

end OkIf

namespace Value

/-- Two values are ordered in opposite ways from the two sides, or they do not compare from either
side. -/
theorem order?_swap (a b : Value) :
    (∃ o, a.order? b = .ok o ∧ b.order? a = .ok (o.map Ordering.swap)) ∨
      (∃ fault, a.order? b = .error fault) ∧ ∃ fault, b.order? a = .error fault := by
  cases a with
  | str s =>
      cases b with
      | str t => exact Or.inl ⟨_, rfl, congrArg (Except.ok ∘ some) Std.OrientedCmp.eq_swap⟩
      | bool | int | float => exact Or.inr ⟨⟨_, rfl⟩, _, rfl⟩
  | bool s =>
      cases b with
      | bool t => exact Or.inl ⟨_, rfl, congrArg (Except.ok ∘ some) Std.OrientedCmp.eq_swap⟩
      | str | int | float => exact Or.inr ⟨⟨_, rfl⟩, _, rfl⟩
  | int m =>
      cases b with
      | int n => exact Or.inl ⟨_, rfl, congrArg (Except.ok ∘ some) Std.OrientedCmp.eq_swap⟩
      | float y => exact Or.inl ⟨_, rfl, congrArg Except.ok (Decimal.order?_swap _ _)⟩
      | str | bool => exact Or.inr ⟨⟨_, rfl⟩, _, rfl⟩
  | float x =>
      cases b with
      | int | float => exact Or.inl ⟨_, rfl, congrArg Except.ok (Decimal.order?_swap _ _)⟩
      | str | bool => exact Or.inr ⟨⟨_, rfl⟩, _, rfl⟩

theorem compareBy_order {op : Operator} (hOrder : op ≠ .like) (a b : Value)
    (regex : Option Pattern.Regex) : a.compareBy op b regex = (a.order? b).map op.admits := by
  cases op with
  | like => exact absurd rfl hOrder
  | lt | le | gt | ge | eq | ne => rfl

/-- A comparison that is no pattern match can be turned around. -/
theorem compareBy_flipped {op : Operator} (hOrder : op ≠ .like) (a b : Value)
    (regex regex' : Option Pattern.Regex) :
    SameResult (a.compareBy op b regex) (b.compareBy op.flipped a regex') := by
  have hFlipped : op.flipped ≠ .like := by
    cases op with
    | like => exact absurd rfl hOrder
    | lt | le | gt | ge | eq | ne => nofun
  rw [compareBy_order hOrder, compareBy_order hFlipped]
  rcases order?_swap a b with ⟨o, ho, ho'⟩ | ⟨⟨_, hFault⟩, _, hFault'⟩
  · rw [ho, ho', Except.map, Except.map, Operator.admits_flipped]
    exact .refl _
  · rw [hFault, hFault']
    exact .of_error

end Value

/-- The scalar that a row has for a field. -/
def Row.scalar (row : Row) (name : String) : Except Fault Value :=
  match row.get? name with
  | some (.scalar value) => .ok value
  | some _ => .error (.notScalar name)
  | none => .error (.missingField name)

namespace Expr

def isField : Expr → Bool
  | field _ => true
  | _ => false

/-- Nowhere in the expression does a pattern match have a field on its right and no field on its
left. -/
def MatchesForward : Expr → Prop
  | constant _ | field _ => True
  | compare op lhs rhs =>
    ¬(op = .like ∧ lhs.isField = false ∧ rhs.isField = true) ∧
      lhs.MatchesForward ∧ rhs.MatchesForward
  | conj a b => a.MatchesForward ∧ b.MatchesForward
  | neg a => a.MatchesForward

/-- The pattern of a comparison can be read by itself, if it is written as a string. -/
def PatternStandsAlone : Operator → Expr → Prop
  | .like, constant (.str pattern) => Pattern.StandsAlone pattern
  | _, _ => True

/-- All patterns that are written as strings can be read by themselves. -/
def PatternsStandAlone : Expr → Prop
  | constant _ | field _ => True
  | compare op lhs rhs =>
    PatternStandsAlone op rhs ∧ lhs.PatternsStandAlone ∧ rhs.PatternsStandAlone
  | conj a b => a.PatternsStandAlone ∧ b.PatternsStandAlone
  | neg a => a.PatternsStandAlone

/-- Compare two values by an operator in front of `rhs`. A pattern that is written as a string is to
match the whole text of the left value, within the limits. -/
def compareValues (limits : Limits) (op : Operator) (rhs : Expr) (left right : Value) :
    Except Fault Bool :=
  match op, rhs with
  | .like, constant (.str pattern) =>
    match Pattern.matchWhole? pattern limits.patternBytes left.text with
    | some answer => .ok answer
    | none => .error (.badPattern pattern)
  | op, _ => left.compareBy op right none

/-- The value of an expression in a row, with comparisons as they are written. Both operands of a
conjunction are evaluated. -/
def evaluate (limits : Limits) (row : Row) : Expr → Except Fault Value
  | constant value => .ok value
  | field name => row.scalar name
  | compare op lhs rhs => do
    let left ← lhs.evaluate limits row
    let right ← rhs.evaluate limits row
    return .bool (← compareValues limits op rhs left right)
  | conj a b => do
    let left ← Filter.truth (← a.evaluate limits row)
    let right ← Filter.truth (← b.evaluate limits row)
    return .bool (left && right)
  | neg a => do
    let value ← Filter.truth (← a.evaluate limits row)
    return .bool (!value)

end Expr

/-- A field that a filter may read has its scalar in the row. -/
theorem Schema.evaluate_filterField {schema : Schema} {sequence : VarId} {name : String}
    {filter : Filter} (h : schema.filterField sequence name = .ok filter) (row : Row) :
    filter.evaluate schema row = row.scalar name := by
  unfold filterField at h
  simp only at h
  split at h
  · cases h
  · next v hField =>
      have hName : (schema.var v).name = name := by simpa using List.find?_some hField
      split at h
      · cases h
      · next hAtomic =>
          split at h
          · cases h
          · next hScalar =>
              cases h
              rw [Filter.evaluate, Filter.readField, if_neg (by simp [hAtomic, hScalar]), hName]
              rfl

namespace Expr

variable {schema : Schema} {limits : Limits} {sequence : VarId} {level : Nat} {filter : Filter}

/-- What an expression is bound to shows whether it is a field, and which constant it is. -/
theorem BindsTo.shape {e : Expr} (h : e.BindsTo schema limits sequence filter) :
    filter.isField = e.isField ∧ ∀ value, filter = .constant value → e = .constant value := by
  cases h with
  | constant v => exact ⟨rfl, fun value hSame => congrArg _ (Filter.constant.inj hSame)⟩
  | field h =>
      obtain ⟨v, _, rfl⟩ := Schema.filterField_ok h
      exact ⟨rfl, nofun⟩
  | compare _ _ h =>
      obtain ⟨_, _, _, _, rfl, _⟩ := Filter.oriented_ok h
      exact ⟨rfl, nofun⟩
  | conj | neg => exact ⟨rfl, nofun⟩

theorem compareValues_order {op : Operator} (hOrder : op ≠ .like) (rhs : Expr)
    (left right : Value) :
    compareValues limits op rhs left right = left.compareBy op right none := by
  unfold compareValues
  split
  · exact absurd rfl hOrder
  · rfl

theorem compareValues_like {pattern : String} {regex : Pattern.Regex} (left right : Value)
    (h : Pattern.compile? pattern limits.patternBytes = some regex) :
    OkIf (Pattern.StandsAlone pattern)
      (compareValues limits .like (.constant (.str pattern)) left right)
      (left.compareBy .like right (some regex)) := by
  intro answer
  have hAnswer := Pattern.matchWhole_iff left.text answer h
  rw [Value.compareBy, Except.ok.injEq, ← hAnswer, compareValues]
  cases Pattern.matchWhole? pattern limits.patternBytes left.text with
  | none => exact ⟨nofun, nofun⟩
  | some found => simp

/-- Operands that keep their places are compared as they are written, if the pattern can be read by
itself. -/
theorem compareValues_straight {op : Operator} {rhs : Expr} {left right : Filter}
    (hRight : rhs.BindsTo schema limits sequence right)
    (hStraight : (!left.isField && right.isField) = false)
    (h : Filter.oriented limits op left right = .ok filter) :
    ∃ regex, filter = .compare op left right regex ∧
      ∀ a b : Value, OkIf (PatternStandsAlone op rhs) (compareValues limits op rhs a b)
        (a.compareBy op b regex) := by
  simp only [Filter.oriented, hStraight, Bool.false_eq_true, if_false] at h
  split at h
  · next pattern =>
      have hWritten : rhs = constant (.str pattern) := hRight.shape.2 _ rfl
      split at h
      · next regex hPattern =>
          cases h
          rw [hWritten]
          exact ⟨some regex, rfl, fun a b => compareValues_like a b hPattern⟩
      · cases h
  · next hOther =>
      cases h
      refine ⟨none, rfl, fun a b => ?_⟩
      unfold compareValues PatternStandsAlone
      split
      · next pattern =>
          cases hRight
          exact absurd rfl (hOther pattern rfl)
      · exact .of_true _ trivial

/-- A comparison is bound to one that gives the same results, if its pattern can be read by itself,
and else has none as it is written. -/
theorem evaluate_oriented {op : Operator} {lhs rhs : Expr} {left right : Filter}
    (hLeft : lhs.BindsTo schema limits sequence left)
    (hRight : rhs.BindsTo schema limits sequence right)
    (hForward : ¬(op = .like ∧ lhs.isField = false ∧ rhs.isField = true))
    (h : Filter.oriented limits op left right = .ok filter) (row : Row) :
    OkIf (PatternStandsAlone op rhs)
      (left.evaluate schema row >>= fun a => right.evaluate schema row >>= fun b =>
        compareValues limits op rhs a b >>= fun truth => pure (.bool truth))
      (filter.evaluate schema row) := by
  cases hSwap : !left.isField && right.isField with
  | false =>
      obtain ⟨regex, rfl, hCompare⟩ := compareValues_straight hRight hSwap h
      rw [Filter.evaluate]
      exact .bind_left fun a => .bind_left fun b => (hCompare a b).bind_right
  | true =>
      obtain ⟨hStraight, hEq⟩ := Filter.oriented_swap limits op hSwap
      have hOrder : op ≠ .like := by
        intro hLike
        rw [hLeft.shape.1, hRight.shape.1] at hSwap
        exact hForward ⟨hLike, by simpa using hSwap⟩
      have hNoPattern : PatternStandsAlone op rhs := by
        unfold PatternStandsAlone
        split
        · exact absurd rfl hOrder
        · trivial
      rw [hEq] at h
      obtain ⟨regex, rfl⟩ := Filter.oriented_straight hStraight h
      rw [Filter.evaluate]
      refine .of_same ((SameResult.swap _ _ _).trans ?_) hNoPattern
      refine .bind (.refl _) fun a => .bind (.refl _) fun b => .bind ?_ fun truth => .refl _
      rw [compareValues_order hOrder]
      exact (Value.compareBy_flipped hOrder a b none regex).symm

/-- Binding keeps the results of an expression in a row, if its patterns can be read by themselves.
Otherwise the expression has none. -/
theorem BindsTo.evaluate {e : Expr} (h : e.BindsTo schema limits sequence filter)
    (hForward : e.MatchesForward) (row : Row) :
    OkIf e.PatternsStandAlone (e.evaluate limits row) (filter.evaluate schema row) := by
  induction h with
  | constant v => exact .of_true _ trivial
  | field hField =>
      rw [Schema.evaluate_filterField hField]
      exact .of_true _ trivial
  | compare hLeft hRight hOriented ihl ihr =>
      obtain ⟨hOwn, hl, hr⟩ := hForward
      refine .trans ?_ (evaluate_oriented hLeft hRight hOwn hOriented row)
      exact (ihl hl).bind fun a => (ihr hr).bind_right
  | conj hLeft hRight iha ihb =>
      obtain ⟨ha, hb⟩ := hForward
      rw [Filter.conj, Filter.evaluate]
      refine (iha ha).bind fun _ => .bind_left fun _ => ?_
      exact (ihb hb).bind_right
  | neg hInner ih =>
      rw [Filter.neg, Filter.evaluate]
      exact (ih hForward).bind_right

/-- In each row an expression gives what the filter gives that it has been bound to, if its patterns
can be read by themselves and no pattern match had to change its sides. Where a pattern cannot be
read by itself, the expression gives nothing. Comparisons of all other kinds can be turned
around. -/
theorem evaluate_compile (schema : Schema) (limits : Limits) :
    (∀ {sequence : VarId} {level : Nat} {e : Expr} {filter : Filter}, e.MatchesForward →
      e.compile schema limits sequence level = .ok filter →
        ∀ row value, e.evaluate limits row = .ok value ↔
          filter.evaluate schema row = .ok value ∧ e.PatternsStandAlone) ∧
    ∀ {op : Operator}, op ≠ .like → ∀ (a b : Value) (regex regex' : Option Pattern.Regex),
      SameResult (a.compareBy op b regex) (b.compareBy op.flipped a regex') :=
  ⟨fun hForward h row => (compile_ok h).2.evaluate hForward row,
    fun hOrder => Value.compareBy_flipped hOrder⟩

/-- A constant before a field, and a pattern behind one. -/
def evaluationSample : Expr :=
  .neg (.conj (.compare .lt (.constant (.float 1.5)) (.field "n"))
    (.compare .like (.field "m") (.constant (.str "[0-9]+"))))

theorem evaluate_compile_sample : ∃ filter,
    evaluationSample.MatchesForward ∧ evaluationSample.PatternsStandAlone ∧
      evaluationSample.compile .sample {} ⟨4⟩ 1 = .ok filter ∧
        filter.text = "!(n>1.5,m~=\"[0-9]+\")" ∧
          (∀ row value, evaluationSample.evaluate {} row = .ok value ↔
            filter.evaluate .sample row = .ok value ∧ evaluationSample.PatternsStandAlone) ∧
          Operator.lt ≠ .like ∧ SameResult ((Value.float 1.5).compareBy .lt (.int 2) none)
            ((Value.int 2).compareBy .gt (.float 1.5) none) := by
  have hRun : ∃ filter ∈ (evaluationSample.compile .sample {} ⟨4⟩ 1).toOption,
      filter.text = "!(n>1.5,m~=\"[0-9]+\")" := by
    decide +kernel
  obtain ⟨filter, hFilter, hText⟩ := hRun
  have hCompile := eq_ok_of_mem_toOption hFilter
  have hForward : evaluationSample.MatchesForward := by
    simp [evaluationSample, MatchesForward, isField]
  have hAlone : evaluationSample.PatternsStandAlone := by
    have hPattern : Pattern.StandsAlone "[0-9]+" := by decide +kernel
    simp [evaluationSample, PatternsStandAlone, PatternStandsAlone, hPattern]
  have hOrder : Operator.lt ≠ .like := nofun
  obtain ⟨hSame, hFlipped⟩ := evaluate_compile .sample {}
  exact ⟨filter, hForward, hAlone, hCompile, hText, hSame hForward hCompile, hOrder,
    hFlipped hOrder _ _ none none⟩

/-- A pattern that closes the group around it and opens another one. -/
def escapingSample : Expr := .compare .like (.field "m") (.constant (.str "a)|(?:b"))

/-- The filter finds a part of the text. The expression has no result, since what is written cannot
be read as a pattern. -/
theorem evaluate_escaping : ∃ filter row,
    escapingSample.MatchesForward ∧ escapingSample.compile .sample {} ⟨4⟩ 1 = .ok filter ∧
      filter.evaluate .sample row = .ok (.bool true) ∧
        escapingSample.evaluate {} row = .error (.badPattern "a)|(?:b") ∧
          ¬SameResult (filter.evaluate .sample row) (escapingSample.evaluate {} row) := by
  let row : Row := .ofList [("m", .scalar (.str "axyz"))]
  have hRun : ∃ filter ∈ (escapingSample.compile .sample {} ⟨4⟩ 1).toOption,
      ∃ value ∈ (filter.evaluate .sample row).toOption, value.asBool? = some true := by
    decide +kernel
  obtain ⟨filter, hFilter, value, hValue, hTrue⟩ := hRun
  have hForward : escapingSample.MatchesForward := by
    simp [escapingSample, MatchesForward, isField]
  have hFound : filter.evaluate .sample row = .ok (.bool true) := by
    rw [eq_ok_of_mem_toOption hValue]
    cases value with
    | bool b => exact congrArg _ (congrArg _ (Option.some.inj hTrue))
    | int | float | str => cases hTrue
  have hNoPattern : Pattern.matchWhole? "a)|(?:b" ({} : Limits).patternBytes "axyz" = none := by
    decide +kernel
  have hNone : escapingSample.evaluate {} row = .error (.badPattern "a)|(?:b") := by
    have hScalar : row.scalar "m" = .ok (.str "axyz") := rfl
    simp only [escapingSample, evaluate, hScalar, compareValues, bind, Except.bind, Value.text,
      hNoPattern]
  refine ⟨filter, row, hForward, eq_ok_of_mem_toOption hFilter, hFound, hNone, fun hSame => ?_⟩
  have hOk := (hSame _).mp hFound
  rw [hNone] at hOk
  cases hOk

end Expr

end Hyperslab
