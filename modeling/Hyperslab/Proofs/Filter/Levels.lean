import Hyperslab.Proofs.Filter.Reread

/-! How deep a filter is when its text is read. The text leaves out the parentheses of conjunctions
and is grouped from the left, so each further conjunct takes one level more. -/
namespace Hyperslab

open Grammar

namespace Filter

/-- The levels of a conjunct behind others that take `front` levels together. -/
def joinLevels (front : Option Nat) (own : Nat) : Nat :=
  match front with
  | some levels => max levels own + 1
  | none => own

/-- How many levels of a limit the text of a filter takes, by itself or behind conjuncts that take
`front` levels together. -/
def levels (front : Option Nat) : Filter → Nat
  | constant _ | field _ _ => joinLevels front 1
  | compare _ lhs rhs _ => joinLevels front (max (lhs.levels none) (rhs.levels none) + 1)
  | joined .conj [a, b] => b.levels (some (a.levels front))
  | joined .neg [a] => joinLevels front (a.levels none + 1)
  | joined _ _ => joinLevels front 0

@[simp] theorem levels_conj (front : Option Nat) (a b : Filter) :
    (conj a b).levels front = b.levels (some (a.levels front)) := by
  rw [conj, levels]

@[simp] theorem levels_neg (front : Option Nat) (a : Filter) :
    (neg a).levels front = joinLevels front (a.levels none + 1) := by
  rw [neg, levels]

/-- What is no conjunction is one conjunct behind others. -/
theorem levels_some {f : Filter} (h : f.isConjunction = false) (front : Nat) :
    f.levels (some front) = max front (f.levels none) + 1 := by
  unfold levels
  split
  · rfl
  · rfl
  · rfl
  · cases h
  · rfl
  · rfl

end Filter

namespace Expr

variable {schema : Schema} {limits : Limits} {sequence : VarId} {level : Nat} {bound : Filter}

/-- The depth of the expression is all that can keep it from being bound. -/
def BindsWithin (schema : Schema) (limits : Limits) (sequence : VarId) (e : Expr) : Prop :=
  ∀ level, (∃ bound, e.compile schema limits sequence level = .ok bound) ↔
    e.depth + level ≤ limits.filterDepth + 1

theorem BindsWithin.conj {a b : Expr} (ha : a.BindsWithin schema limits sequence)
    (hb : b.BindsWithin schema limits sequence) :
    (Expr.conj a b).BindsWithin schema limits sequence := by
  intro level
  simp only [depth]
  constructor
  · rintro ⟨_, h⟩
    obtain ⟨_, left, right, hLeft, hRight, _⟩ := compile_conj.mp h
    have := (ha _).mp ⟨left, hLeft⟩
    have := (hb _).mp ⟨right, hRight⟩
    omega
  · intro hDepth
    obtain ⟨left, hLeft⟩ := (ha (level + 1)).mpr (by omega)
    obtain ⟨right, hRight⟩ := (hb (level + 1)).mpr (by omega)
    exact ⟨_, compile_conj.mpr ⟨by omega, left, right, hLeft, hRight, rfl⟩⟩

theorem BindsWithin.neg {a : Expr} (ha : a.BindsWithin schema limits sequence) :
    (Expr.neg a).BindsWithin schema limits sequence := by
  intro level
  simp only [depth]
  constructor
  · rintro ⟨_, h⟩
    obtain ⟨_, inner, hInner, _⟩ := compile_neg.mp h
    have := (ha _).mp ⟨inner, hInner⟩
    omega
  · intro hDepth
    obtain ⟨inner, hInner⟩ := (ha (level + 1)).mpr (by omega)
    exact ⟨_, compile_neg.mpr ⟨by omega, inner, hInner, rfl⟩⟩

/-- The expression is bound wherever the levels of the filter fit. -/
structure FitsAs (schema : Schema) (limits : Limits) (sequence : VarId) (e : Expr) (f : Filter) :
    Prop where
  binds : e.BindsWithin schema limits sequence
  depth : e.depth = f.levels none

theorem fitsAs_regrouping : Filter.Regrouping (FitsAs schema limits sequence) := by
  refine ⟨fun hSingle ha hb => ⟨ha.binds.conj hb.binds, ?_⟩, fun ha => ⟨ha.binds.neg, ?_⟩,
    fun he => ⟨he.binds, ?_⟩⟩
  · rw [Filter.levels_conj, Filter.levels_some hSingle, Expr.depth, ha.depth, hb.depth]
  · rw [Filter.levels_neg, Expr.depth, ha.depth]
    rfl
  · rw [he.depth]
    simp only [Filter.levels_conj]

end Expr

namespace Filter

variable {schema : Schema} {limits : Limits} {sequence : VarId}

theorem compare_fits {f : Filter} (h : f.Bound schema limits sequence)
    (hComparison : f.isComparison = true) :
    ∃ e : Expr, e.FitsAs schema limits sequence f ∧
      ∀ rest, ConjunctText readable e (f.chars ++ rest) rest := by
  cases f with
  | compare op lhs rhs regex =>
      obtain ⟨a, b, hDepth, hDepth', hCompile, hOriented, hText⟩ := compare_operands h
      have hOperands : lhs.levels none = 1 ∧ rhs.levels none = 1 := by
        cases h with
        | compare hl hr _ =>
            constructor
            · cases hl <;> rw [levels, joinLevels]
            · cases hr <;> rw [levels, joinLevels]
      refine ⟨.compare op a b, ⟨fun level => ?_, ?_⟩, hText⟩
      · simp only [Expr.depth, hDepth, hDepth']
        constructor
        · rintro ⟨_, h⟩
          obtain ⟨_, left, _, hLeft, _⟩ := Expr.compile_compare.mp h
          have := (Expr.compile_ok hLeft).1
          omega
        · intro hLevel
          obtain ⟨hLeft, hRight⟩ := hCompile limits (level + 1) (by omega)
          exact ⟨_, Expr.compile_compare.mpr ⟨by omega, lhs, rhs, hLeft, hRight, hOriented⟩⟩
      · rw [levels, joinLevels, hOperands.1, hOperands.2, Expr.depth, hDepth, hDepth']
  | constant | field | joined => cases hComparison

/-- However the text of a filter of a sequence is read, it is bound to the sequence exactly if its
levels are within the limit. -/
theorem Bound.compile_iff {f : Filter} (h : f.Bound schema limits sequence) {e : Expr}
    (hText : ∀ rest, FilterText readable e (f.chars ++ rest) rest) :
    (∃ bound, e.compile schema limits sequence 1 = .ok bound) ↔
      f.levels none ≤ limits.filterDepth := by
  have hFits := h.agrees Expr.fitsAs_regrouping compare_fits hText
  rw [hFits.binds 1, hFits.depth]
  omega

end Filter

end Hyperslab
