import Hyperslab.Proofs.Filter.Reread

/-! The text of a filter that is written, read and bound once more. The second filter may group its
conjunctions in another way, but no text shows how they are grouped. -/
namespace Hyperslab

open Grammar

namespace Expr

variable {schema : Schema} {limits : Limits} {sequence : VarId}

/-- Whatever the expression is bound to is written like `f`. -/
def WritesAs (schema : Schema) (limits : Limits) (sequence : VarId) (e : Expr) (f : Filter) :
    Prop :=
  ∀ level bound, e.compile schema limits sequence level = .ok bound →
    bound.chars = f.chars ∧ bound.isConjunction = f.isConjunction

theorem WritesAs.conj {a b : Expr} {f g : Filter} (ha : a.WritesAs schema limits sequence f)
    (hb : b.WritesAs schema limits sequence g) :
    (Expr.conj a b).WritesAs schema limits sequence (.conj f g) := by
  intro level bound h
  obtain ⟨_, left, right, hLeft, hRight, rfl⟩ := compile_conj.mp h
  refine ⟨?_, rfl⟩
  rw [Filter.chars_conj, Filter.chars_conj, (ha _ left hLeft).1, (hb _ right hRight).1]

theorem WritesAs.neg {a : Expr} {f : Filter} (ha : a.WritesAs schema limits sequence f) :
    (Expr.neg a).WritesAs schema limits sequence (.neg f) := by
  intro level bound h
  obtain ⟨_, inner, hInner, rfl⟩ := compile_neg.mp h
  obtain ⟨hChars, hConjunction⟩ := ha _ inner hInner
  refine ⟨?_, rfl⟩
  rw [Filter.chars_neg, Filter.chars_neg, hChars, hConjunction]

theorem WritesAs.assoc {e : Expr} {f g h : Filter}
    (he : e.WritesAs schema limits sequence (.conj (.conj f g) h)) :
    e.WritesAs schema limits sequence (.conj f (.conj g h)) := by
  intro level bound hCompile
  obtain ⟨hChars, hConjunction⟩ := he level bound hCompile
  refine ⟨?_, hConjunction⟩
  simpa only [Filter.chars_conj, List.append_assoc, List.cons_append] using hChars

theorem writesAs_regrouping : Filter.Regrouping (WritesAs schema limits sequence) :=
  ⟨fun _ => WritesAs.conj, WritesAs.neg, WritesAs.assoc⟩

end Expr

namespace Filter

variable {schema : Schema} {limits : Limits} {sequence : VarId}

theorem compare_writes {f : Filter} (h : f.Bound schema limits sequence)
    (hComparison : f.isComparison = true) :
    ∃ e : Expr, e.WritesAs schema limits sequence f ∧
      ∀ rest, ConjunctText readable e (f.chars ++ rest) rest := by
  cases f with
  | compare op lhs rhs regex =>
      obtain ⟨a, b, _, _, hCompile, hOriented, hText⟩ := compare_operands h
      refine ⟨.compare op a b, fun level bound hBound => ?_, hText⟩
      obtain ⟨_, left, right, hLeft, hRight, hAgain⟩ := Expr.compile_compare.mp hBound
      -- The operands are bound to those of the filter, which keep their places.
      obtain ⟨hl, hr⟩ := hCompile limits (level + 1) (Expr.compile_ok hLeft).1
      obtain rfl := Except.ok.inj (hLeft.symm.trans hl)
      obtain rfl := Except.ok.inj (hRight.symm.trans hr)
      obtain rfl := Except.ok.inj (hAgain.symm.trans hOriented)
      exact ⟨rfl, rfl⟩
  | constant | field | joined => cases hComparison

/-- However the text of a filter of a sequence is read, what it is bound to has the same text. -/
theorem Bound.chars_eq {f bound : Filter} (h : f.Bound schema limits sequence) {e : Expr}
    (hText : ∀ rest, FilterText readable e (f.chars ++ rest) rest)
    (hBound : e.compile schema limits sequence 1 = .ok bound) : bound.chars = f.chars :=
  (h.agrees Expr.writesAs_regrouping compare_writes hText 1 bound hBound).1

end Filter

end Hyperslab
