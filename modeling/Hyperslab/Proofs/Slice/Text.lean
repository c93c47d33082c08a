import Hyperslab.Proofs.Reading.Slice
import Hyperslab.Proofs.Slice

/-! Slices written and read again. The text names the last selected index, where the slice keeps the
first one that it does not reach, so the text is read as another slice with the same indices. -/
namespace Hyperslab.Slice

open Hyperslab.Parser Grammar

/-- The text of a slice stands for the slice that it is read as. -/
theorem text_rewritten (s : Slice) (rest : List Char) :
    SliceText s.rewritten (s.chars ++ rest) rest := by
  have hIndex (i : UInt64) (rest : List Char) : IndexText i (digits i ++ rest) rest :=
    ⟨_, isNumeral_toDigits i.toNat, Lexeme.tight _ rest⟩
  have hPoint (i : UInt64) : SliceText (.index i) ('[' :: (digits i ++ ']' :: rest)) rest :=
    .bounded (Lexeme.tight ['['] _) (.index (hIndex i _)) (Lexeme.tight [']'] rest)
  simp only [rewritten, chars]
  split
  · cases s.last? with
    | none =>
        simp only
        split
        · next hOne =>
            simp only [List.cons_append, List.append_assoc, hOne]
            exact .bounded (Lexeme.tight ['['] _)
              (.openEnd (hIndex _ _) (Lexeme.tight [':'] _)) (Lexeme.tight [']'] rest)
        · simp only [List.cons_append, List.append_assoc]
          exact .bounded (Lexeme.tight ['['] _)
            (.stridedOpen (hIndex _ _) (Lexeme.tight [':'] _) (hIndex _ _) (Lexeme.tight [':'] _))
            (Lexeme.tight [']'] rest)
    | some last =>
        simp only
        split
        · simp only [List.cons_append, List.append_assoc]
          exact hPoint s.start
        · split
          · next hOne =>
              simp only [List.cons_append, List.append_assoc, hOne]
              exact .bounded (Lexeme.tight ['['] _)
                (.closed (hIndex _ _) (Lexeme.tight [':'] _) (hIndex _ _)) (Lexeme.tight [']'] rest)
          · simp only [List.cons_append, List.append_assoc]
            exact .bounded (Lexeme.tight ['['] _) (.strided (hIndex _ _) (Lexeme.tight [':'] _)
              (hIndex _ _) (Lexeme.tight [':'] _) (hIndex _ _)) (Lexeme.tight [']'] rest)
  · exact .whole (Lexeme.tight ['['] _) (Lexeme.tight [']'] rest)

variable {s f : Slice} {size : UInt64}

/-- The text of a slice is read to its end. -/
theorem parse_text (s : Slice) : parse s.text.toList = .ok (s.rewritten, []) := by
  have hReads : Reads True parse s.chars s.rewritten [] := by
    have hText := text_rewritten s []
    rw [List.append_nil] at hText
    exact reads_slice hText ends_nil
  rw [text, String.toList_ofList]
  exact hReads.eq

theorem indices_of_count_eq_zero (h : s.count = 0) : s.indices = [] := by
  simp [indices, firstIndices, h]

/-- A constrained slice that fits stands for the same text before what is read of it is fitted. -/
theorem chars_rewritten_of_fit (h : s.fit size = .ok f) (hConstrained : s.constrained = true) :
    f.rewritten.chars = f.chars := by
  obtain ⟨rfl, hStride, -⟩ := fit_ok h
  apply chars_rewritten
  by_cases hLt : s.start < s.stop.getD size
  · exact (rewritten_of_lt (s := s.resolve size) hConstrained rfl hLt hStride).2.1
  · -- Nothing is selected, so an open end is written.
    have hNone : (s.resolve size).count = 0 := by simp [count, resolve, hLt]
    have hOpen : (range s.start s.stride none).count = 0 := rfl
    rw [rewritten_of_not_lt (s := s.resolve size) hConstrained rfl hLt,
      indices_of_count_eq_zero hNone]
    exact indices_of_count_eq_zero hOpen

/-- A constrained slice that fits a dimension is written so that all of its text is read as one
slice. That one fits the dimension as well, selects the same indices, and is written in the same way
again. -/
theorem text_reread (h : s.fit size = .ok f) (hConstrained : s.constrained = true) :
    ∃ g g', parse f.text.toList = .ok (g, []) ∧ g.text = f.text ∧ g.fit size = .ok g' ∧
      g'.indices = f.indices ∧ g'.text = f.text := by
  obtain ⟨g', hAgain⟩ := rewritten_fits h hConstrained
  obtain ⟨hIndices, -, hChars⟩ := rewritten_fit h hConstrained hAgain
  refine ⟨f.rewritten, g', parse_text f, ?_, hAgain, hIndices, ?_⟩
  · rw [text, text, chars_rewritten_of_fit h hConstrained]
  · rw [text, text, hChars]

/-- The open slice stops at the size. Read again it stops behind the last index. -/
theorem text_reread_thirds : ∃ f g g', (range 3 3 none).constrained = true ∧
    (range 3 3 none).fit 12 = .ok f ∧ f.stop = some 12 ∧ f.text = "[3:3:9]" ∧
      parse f.text.toList = .ok (g, []) ∧ g.text = f.text ∧ g.fit 12 = .ok g' ∧
        g'.stop = some 10 ∧ g'.indices = f.indices ∧ g'.text = f.text := by
  have hFit : (range 3 3 none).fit 12 = .ok ⟨3, 3, some 12, true⟩ := by decide
  obtain ⟨g, g', hParse, hText, hAgain, hIndices, hText'⟩ := text_reread hFit rfl
  have hChars : (Slice.mk 3 3 (some 12) true).text = "[3:3:9]" := by cbv
  have hRewritten : (Slice.mk 3 3 (some 12) true).rewritten = range 3 3 (some 9) := by decide
  refine ⟨_, g, g', rfl, hFit, rfl, hChars, hParse, hText, hAgain, ?_, hIndices, hText'⟩
  rw [parse_text, hRewritten] at hParse
  cases hParse
  cases hAgain
  rfl

end Hyperslab.Slice
