import Hyperslab.Proofs.Request.Run
import Hyperslab.Proofs.View.Resolve

/-! Filters as they come out of binding an expression to a sequence: conjunctions and negations of
oriented comparisons between constants and fields. -/
namespace Hyperslab

namespace Schema

variable {schema : Schema} {sequence : VarId} {name : String} {filter : Filter}

/-- The leaf for a field keeps the name that the field is asked for with. -/
theorem filterField_ok (h : schema.filterField sequence name = .ok filter) :
    ∃ v ∈ (schema.var sequence).fields, filter = .field v name := by
  unfold filterField at h
  simp only at h
  split at h
  · cases h
  · next v hField =>
      have hName : (schema.var v).name = name := by simpa using List.find?_some hField
      split at h
      · cases h
      · split at h
        · cases h
        · cases h
          exact ⟨v, List.mem_of_find?_eq_some hField, by rw [hName]⟩

end Schema

namespace Filter

variable {schema : Schema} {limits : Limits} {sequence : VarId}

/-- A constant, or a field of the sequence. -/
inductive IsOperand (schema : Schema) (sequence : VarId) : Filter → Prop where
  | constant (v : Value) (finite : v.Finite) : IsOperand schema sequence (.constant v)
  | field (v : VarId) (name : String) (named : name ≠ "")
      (bound : schema.filterField sequence name = .ok (.field v name)) :
      IsOperand schema sequence (.field v name)

/-- The filters of a sequence. A comparison is one that orienting leaves alone. -/
inductive Bound (schema : Schema) (limits : Limits) (sequence : VarId) : Filter → Prop where
  | compare {op : Operator} {lhs rhs : Filter} {regex : Option Pattern.Regex}
      (left : lhs.IsOperand schema sequence) (right : rhs.IsOperand schema sequence)
      (oriented : Filter.oriented limits op lhs rhs = .ok (.compare op lhs rhs regex)) :
      Bound schema limits sequence (.compare op lhs rhs regex)
  | conj {a b : Filter} (left : Bound schema limits sequence a)
      (right : Bound schema limits sequence b) : Bound schema limits sequence (.conj a b)
  | neg {a : Filter} (operand : Bound schema limits sequence a) :
      Bound schema limits sequence (.neg a)

/-- Operands that are not a constant before a field keep their places. -/
theorem oriented_straight {op : Operator} {lhs rhs filter : Filter}
    (hStraight : (!lhs.isField && rhs.isField) = false)
    (h : oriented limits op lhs rhs = .ok filter) :
    ∃ regex, filter = .compare op lhs rhs regex := by
  simp only [oriented, hStraight, Bool.false_eq_true, if_false] at h
  split at h
  · split at h
    · cases h
      exact ⟨_, rfl⟩
    · cases h
  · cases h
    exact ⟨none, rfl⟩

theorem oriented_swap (limits : Limits) (op : Operator) {lhs rhs : Filter}
    (hSwap : (!lhs.isField && rhs.isField) = true) :
    (!rhs.isField && lhs.isField) = false ∧
      oriented limits op lhs rhs = oriented limits op.flipped rhs lhs := by
  obtain ⟨hl, hr⟩ : lhs.isField = false ∧ rhs.isField = true := by simpa using hSwap
  simp [oriented, hl, hr]

/-- Orienting a comparison changes at most the places of its operands, and changes nothing when it
is done again. -/
theorem oriented_ok {op : Operator} {lhs rhs filter : Filter}
    (h : oriented limits op lhs rhs = .ok filter) : ∃ op' lhs' rhs' regex,
      filter = .compare op' lhs' rhs' regex ∧
        (lhs' = lhs ∧ rhs' = rhs ∨ lhs' = rhs ∧ rhs' = lhs) ∧
          oriented limits op' lhs' rhs' = .ok (.compare op' lhs' rhs' regex) := by
  cases hSwap : !lhs.isField && rhs.isField with
  | false =>
      obtain ⟨regex, rfl⟩ := oriented_straight hSwap h
      exact ⟨op, lhs, rhs, regex, rfl, Or.inl ⟨rfl, rfl⟩, h⟩
  | true =>
      obtain ⟨hStraight, hEq⟩ := oriented_swap limits op hSwap
      rw [hEq] at h
      obtain ⟨regex, rfl⟩ := oriented_straight hStraight h
      exact ⟨op.flipped, rhs, lhs, regex, rfl, Or.inr ⟨rfl, rfl⟩, h⟩

theorem bound_oriented {op : Operator} {lhs rhs filter : Filter}
    (hl : lhs.IsOperand schema sequence) (hr : rhs.IsOperand schema sequence)
    (h : oriented limits op lhs rhs = .ok filter) : filter.Bound schema limits sequence := by
  obtain ⟨op', lhs', rhs', regex, rfl, ⟨rfl, rfl⟩ | ⟨rfl, rfl⟩, hAgain⟩ := oriented_ok h
  · exact .compare hl hr hAgain
  · exact .compare hr hl hAgain

/-- A filter of a sequence reads fields of it only. -/
theorem Bound.leaves {filter : Filter} (h : filter.Bound schema limits sequence) :
    ∀ v ∈ filter.leaves, v ∈ (schema.var sequence).fields := by
  have hOperand {a : Filter} (ha : a.IsOperand schema sequence) :
      ∀ v ∈ a.leaves, v ∈ (schema.var sequence).fields := by
    cases ha with
    | constant => simp [Filter.leaves]
    | field v name _ hBound =>
        obtain ⟨w, hMem, hEq⟩ := Schema.filterField_ok hBound
        cases hEq
        simpa [Filter.leaves] using hMem
  induction h with
  | compare hl hr _ =>
      intro v hv
      rw [Filter.leaves, List.mem_append] at hv
      exact hv.elim (hOperand hl v) (hOperand hr v)
  | conj _ _ iha ihb =>
      intro v hv
      simp only [Filter.conj, Filter.leaves, leavesOf, List.append_nil, List.mem_append] at hv
      exact hv.elim (iha v) (ihb v)
  | neg _ ih =>
      intro v hv
      simp only [Filter.neg, Filter.leaves, leavesOf, List.append_nil] at hv
      exact ih v hv

end Filter

namespace Expr

variable {schema : Schema} {limits : Limits} {sequence : VarId} {level : Nat} {filter : Filter}

/-- What the parts of an expression are bound to. At which level they stand is left open. -/
inductive BindsTo (schema : Schema) (limits : Limits) (sequence : VarId) :
    Expr → Filter → Prop where
  | constant (v : Value) : BindsTo schema limits sequence (.constant v) (.constant v)
  | field {name : String} {filter : Filter} (h : schema.filterField sequence name = .ok filter) :
      BindsTo schema limits sequence (.field name) filter
  | compare {op : Operator} {lhs rhs : Expr} {left right filter : Filter}
      (hLeft : BindsTo schema limits sequence lhs left)
      (hRight : BindsTo schema limits sequence rhs right)
      (h : Filter.oriented limits op left right = .ok filter) :
      BindsTo schema limits sequence (.compare op lhs rhs) filter
  | conj {a b : Expr} {left right : Filter} (hLeft : BindsTo schema limits sequence a left)
      (hRight : BindsTo schema limits sequence b right) :
      BindsTo schema limits sequence (.conj a b) (.conj left right)
  | neg {a : Expr} {inner : Filter} (h : BindsTo schema limits sequence a inner) :
      BindsTo schema limits sequence (.neg a) (.neg inner)

theorem compile_compare {op : Operator} {lhs rhs : Expr} :
    (compare op lhs rhs).compile schema limits sequence level = .ok filter ↔
      level ≤ limits.filterDepth ∧ ∃ left right,
        lhs.compile schema limits sequence (level + 1) = .ok left ∧
          rhs.compile schema limits sequence (level + 1) = .ok right ∧
            Filter.oriented limits op left right = .ok filter := by
  rw [compile]
  split
  · next hDeep => exact ⟨nofun, fun h => absurd hDeep (Nat.not_lt.mpr h.1)⟩
  · next hLevel =>
      constructor
      · intro h
        obtain ⟨left, hLeft, h⟩ := exists_of_bind_eq_ok h
        obtain ⟨right, hRight, h⟩ := exists_of_bind_eq_ok h
        exact ⟨Nat.not_lt.mp hLevel, left, right, hLeft, hRight, h⟩
      · rintro ⟨_, left, right, hLeft, hRight, h⟩
        rw [hLeft, hRight]
        exact h

theorem compile_conj {a b : Expr} :
    (conj a b).compile schema limits sequence level = .ok filter ↔
      level ≤ limits.filterDepth ∧ ∃ left right,
        a.compile schema limits sequence (level + 1) = .ok left ∧
          b.compile schema limits sequence (level + 1) = .ok right ∧
            filter = .conj left right := by
  rw [compile]
  split
  · next hDeep => exact ⟨nofun, fun h => absurd hDeep (Nat.not_lt.mpr h.1)⟩
  · next hLevel =>
      constructor
      · intro h
        obtain ⟨left, hLeft, h⟩ := exists_of_bind_eq_ok h
        obtain ⟨right, hRight, h⟩ := exists_of_bind_eq_ok h
        cases h
        exact ⟨Nat.not_lt.mp hLevel, left, right, hLeft, hRight, rfl⟩
      · rintro ⟨_, left, right, hLeft, hRight, rfl⟩
        rw [hLeft, hRight]
        rfl

theorem compile_neg {a : Expr} :
    (neg a).compile schema limits sequence level = .ok filter ↔
      level ≤ limits.filterDepth ∧ ∃ inner,
        a.compile schema limits sequence (level + 1) = .ok inner ∧ filter = .neg inner := by
  rw [compile]
  split
  · next hDeep => exact ⟨nofun, fun h => absurd hDeep (Nat.not_lt.mpr h.1)⟩
  · next hLevel =>
      constructor
      · intro h
        obtain ⟨inner, hInner, h⟩ := exists_of_bind_eq_ok h
        cases h
        exact ⟨Nat.not_lt.mp hLevel, inner, hInner, rfl⟩
      · rintro ⟨_, inner, hInner, rfl⟩
        rw [hInner]
        rfl

/-- An expression that is bound is not too deep, and its parts are bound. -/
theorem compile_ok {e : Expr} (h : e.compile schema limits sequence level = .ok filter) :
    level ≤ limits.filterDepth ∧ e.BindsTo schema limits sequence filter := by
  induction e generalizing level filter with
  | constant v =>
      rw [compile] at h
      split at h
      · cases h
      · next hLevel =>
          cases h
          exact ⟨Nat.not_lt.mp hLevel, .constant v⟩
  | field name =>
      rw [compile] at h
      split at h
      · cases h
      · next hLevel => exact ⟨Nat.not_lt.mp hLevel, .field h⟩
  | compare op lhs rhs ihl ihr =>
      obtain ⟨hLevel, left, right, hLeft, hRight, hOriented⟩ := compile_compare.mp h
      exact ⟨hLevel, .compare (ihl hLeft).2 (ihr hRight).2 hOriented⟩
  | conj a b iha ihb =>
      obtain ⟨hLevel, left, right, hLeft, hRight, rfl⟩ := compile_conj.mp h
      exact ⟨hLevel, .conj (iha hLeft).2 (ihb hRight).2⟩
  | neg a ih =>
      obtain ⟨hLevel, inner, hInner, rfl⟩ := compile_neg.mp h
      exact ⟨hLevel, .neg (ih hInner).2⟩

theorem BindsTo.isOperand {e : Expr} (h : e.BindsTo schema limits sequence filter)
    (hOperand : e.IsOperand) (hFinite : e.Finite) : filter.IsOperand schema sequence := by
  cases hOperand with
  | constant v =>
      cases h
      exact .constant v (hFinite v (by simp [constants]))
  | field name hName =>
      cases h with
      | field hField =>
          obtain ⟨v, _, rfl⟩ := Schema.filterField_ok hField
          exact .field v name hName hField

/-- What an expression of the grammar is bound to is a filter of the sequence. -/
theorem BindsTo.bound {e : Expr} (h : e.BindsTo schema limits sequence filter)
    (hWritable : e.Writable) (hFinite : e.Finite) : filter.Bound schema limits sequence := by
  induction hWritable generalizing filter with
  | compare op hl hr =>
      cases h with
      | compare hLeft hRight hOriented =>
          refine Filter.bound_oriented (hLeft.isOperand hl fun v hv => ?_)
            (hRight.isOperand hr fun v hv => ?_) hOriented
          · exact hFinite v (List.mem_append_left _ hv)
          · exact hFinite v (List.mem_append_right _ hv)
  | conj _ _ iha ihb =>
      cases h with
      | conj hLeft hRight =>
          exact .conj (iha hLeft fun v hv => hFinite v (List.mem_append_left _ hv))
            (ihb hRight fun v hv => hFinite v (List.mem_append_right _ hv))
  | neg _ ih =>
      cases h with
      | neg hInner => exact .neg (ih hInner hFinite)

end Expr

namespace View

/-- Each filter of the view is one of the sequence that it is attached to. -/
def FiltersBound (limits : Limits) (schema : Schema) (view : View) : Prop :=
  view.schema = schema ∧ ∀ segment ∈ view.segments, ∀ filter ∈ segment.filter,
    filter.Bound schema limits segment.var

variable {limits : Limits} {schema : Schema} {view view' : View}

theorem FiltersBound.modifySegment (h : view.FiltersBound limits schema) (hInStep : view.InStep)
    (v : VarId) {change : Segment → Segment} (hVar : ∀ segment, (change segment).var = segment.var)
    (hChange : ∀ segment ∈ view.segments, segment.var = v → ∀ filter ∈ (change segment).filter,
      filter.Bound schema limits v) : (view.modifySegment v change).FiltersBound limits schema := by
  refine ⟨h.1, ?_⟩
  intro segment hMem filter hFilter
  obtain ⟨other, hOther, rfl⟩ := hInStep.mem_modifySegment.mp hMem
  by_cases hSame : other.var = v
  · rw [if_pos hSame] at hFilter ⊢
    rw [hVar, hSame]
    exact hChange other hOther hSame filter hFilter
  · rw [if_neg hSame] at hFilter ⊢
    exact h.2 other hOther filter hFilter

/-- New segments have no filters. -/
theorem FiltersBound.push (h : view.FiltersBound limits schema) (v : VarId)
    (slices : List Slice) : (view.push (.fresh v slices)).FiltersBound limits schema := by
  refine ⟨h.1, ?_⟩
  intro segment hMem filter hFilter
  rcases List.mem_append.mp hMem with hOld | hNew
  · exact h.2 segment hOld filter hFilter
  · cases List.mem_singleton.mp hNew
    cases hFilter

theorem FiltersBound.pushAll (h : view.FiltersBound limits schema) (added : List VarId) :
    (view.pushAll added).FiltersBound limits schema := by
  induction added generalizing view with
  | nil =>
      rw [pushAll_nil]
      exact h
  | cons v added ih =>
      rw [pushAll_cons]
      exact ih (h.push v [])

theorem FiltersBound.addVariable (h : view.FiltersBound limits schema) (hInStep : view.InStep)
    {v : VarId} {slices : List Slice}
    (hAdd : (view.addVariable v slices).toExcept = .ok view') :
    view'.FiltersBound limits schema := by
  obtain ⟨_, _, hCases⟩ := addVariable_ok hAdd
  obtain ⟨added, hEnclosing⟩ := selectEnclosing_eq view v
  have hBase : (view.selectEnclosing v).FiltersBound limits schema := hEnclosing ▸ h.pushAll added
  rcases hCases with ⟨_, rfl⟩ | ⟨_, _, _, ⟨_, rfl⟩ | ⟨_, _, rfl⟩⟩
  · exact hBase.push v slices
  · refine hBase.modifySegment (hInStep.selectEnclosing v) v (fun _ => rfl) ?_
    intro segment hMem hVar filter hFilter
    exact hVar ▸ hBase.2 segment hMem filter hFilter
  · exact hBase

theorem FiltersBound.setFilter (h : view.FiltersBound limits schema) (hInStep : view.InStep)
    {v : VarId} {filter : Filter} (hFilter : filter.Bound schema limits v)
    (hSet : (view.setFilter v filter).toExcept = .ok view') : view'.FiltersBound limits schema := by
  obtain ⟨_, base, hBase, rfl⟩ := setFilter_ok hSet
  obtain ⟨hBound, hBaseInStep⟩ : base.FiltersBound limits schema ∧ base.InStep := by
    rcases hBase with ⟨_, rfl⟩ | ⟨_, hAdd⟩
    · exact ⟨h, hInStep⟩
    · exact ⟨h.addVariable hInStep hAdd, hInStep.addVariable hAdd⟩
  refine hBound.modifySegment hBaseInStep v (fun _ => rfl)
    fun segment hMem hVar joined hJoined => ?_
  cases hJoined
  cases hEarlier : segment.filter with
  | none => exact hFilter
  | some earlier => exact .conj (hVar ▸ hBound.2 segment hMem earlier hEarlier) hFilter

theorem filtersBound_preserved :
    Preserved limits fun view => view.InStep ∧ view.FiltersBound limits schema := by
  refine ⟨fun h hAdd => ⟨h.1.addVariable hAdd, h.2.addVariable h.1 hAdd⟩, ?_⟩
  intro view view' v e hWritable hFinite ⟨hInStep, hBound⟩ hFilter
  simp only [addFilter] at hFilter
  split at hFilter
  · obtain ⟨filter, hCompile, hSet⟩ := exists_of_bind_eq_ok hFilter
    rw [hBound.1] at hCompile
    exact ⟨hInStep.setFilter hSet,
      hBound.setFilter hInStep ((Expr.compile_ok hCompile).2.bound hWritable hFinite) hSet⟩
  · cases hFilter

theorem FiltersBound.finish (h : view.FiltersBound limits schema)
    (hFinish : view.finish.toExcept = .ok view') : view'.FiltersBound limits schema := by
  obtain ⟨_, segments, hSegments, rfl⟩ := finish_ok hFinish
  have hExpanded : view.expanded.FiltersBound limits schema := h.pushAll _
  refine ⟨h.1, ?_⟩
  intro resolved hMem filter hFilter
  obtain ⟨segment, hSegment, hResolve⟩ := exists_of_forall₂_right hSegments hMem
  obtain ⟨hVar, hSame, _⟩ := settleSegment_ok hResolve
  rw [hVar]
  exact hExpanded.2 segment hSegment filter (hSame ▸ hFilter)

end View

/-- Each filter of an accepted text is one of the sequence that it is attached to. -/
theorem Request.compile_filtersBound {request : Request} {limits : Limits} {schema : Schema}
    {view : View} (hWritable : request.Writable) (hFinite : ∀ v ∈ request.constants, v.Finite)
    (h : request.compile limits schema = .ok view) : view.FiltersBound limits schema := by
  obtain ⟨resized, selected, hResized, hSelected, hFinish⟩ := Request.compile_ok h
  have hInStep := (View.inStep_empty schema).addResizes _ hResized
  obtain ⟨entered, after, rfl⟩ := View.addResizes_ok _ hResized
  have hEmpty : View.FiltersBound limits schema
      { View.empty schema with resizes := entered, resized := after } :=
    ⟨rfl, by simp [View.empty]⟩
  exact (View.selectAll_preserves View.filtersBound_preserved _ hWritable.2 hFinite
    ⟨hInStep, hEmpty⟩ hSelected).2.finish hFinish

end Hyperslab
