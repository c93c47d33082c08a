import Hyperslab.Proofs.Reading.Grammatical

/-! Words are read, however they are spelled. Where a word ends is seen from what stands behind it,
so that reading as much as possible reads the word. -/
namespace Hyperslab

open Hyperslab.Parser Grammar

variable {input rest m : List Char}

namespace Name

/-- A name is read up to its end, however it is spelled. -/
theorem split_word {word : List Char} (h : NameChars word) : ∃ name escaped,
    (word ≠ [] → name ≠ []) ∧ ∀ rest : List Char,
      (∀ c ∈ rest.head?, isPlain c = false ∧ c ≠ '\\') →
        split (word ++ rest) = (name, escaped, rest) := by
  induction h with
  | nil => exact ⟨[], false, fun h => h, fun _ hRest => split_rest hRest⟩
  | @plain c cs hPlain _ ih =>
      obtain ⟨name, escaped, _, hSplit⟩ := ih
      refine ⟨c :: name, escaped, by simp, fun rest hRest => ?_⟩
      rw [List.cons_append, split_plain hPlain, hSplit rest hRest]
  | @escaped c cs _ ih =>
      obtain ⟨name, escaped, _, hSplit⟩ := ih
      refine ⟨c :: name, true, by simp, fun rest hRest => ?_⟩
      simp [split, hSplit rest hRest]

/-- A name begins with a character of names or with a backslash. -/
theorem nameChars_head {word : List Char} (h : NameChars word) :
    ∀ c ∈ word.head?, isPlain c = true ∨ c = '\\' := by
  cases h with
  | nil => simp
  | plain h _ => simp [h]
  | escaped _ => simp

theorem reads_spelledWord {word : List Char} (h : NameWord word) : ∃ spelled, ∀ m,
    Ends (blankChars ++ delimiters) m → Reads True Name.spelled (word ++ m) spelled m := by
  obtain ⟨name, escaped, hName, hSplit⟩ := split_word h.2
  obtain ⟨c, cs, rfl⟩ := List.exists_cons_of_ne_nil (hName h.1)
  refine ⟨(.ofList (c :: cs), escaped), fun m hm => Reads.of_eq ?_⟩
  rw [Name.spelled, hSplit m (ends_name hm)]

theorem reads_word (h : Begins NameWord input rest) (hRest : Ends delimiters rest) :
    ∃ name, Reads True (token Name.parse) input name rest := by
  obtain ⟨word, hWord, hLexeme⟩ := h
  obtain ⟨spelled, hSpelled⟩ := reads_spelledWord hWord
  exact ⟨spelled.1, Reads.token (fun m hm => (hSpelled m hm).bind (reads_pure _)) hWord.1
    (solid_nameChars hWord.2) hLexeme hRest⟩

end Name

namespace Value

open Decimal

theorem reads_exponentWord {word : List Char} {e : Int} (h : ExponentWord e word)
    (hm : ∀ c ∈ m.head?, isDigit c = false) : Reads True exponentParser (word ++ m) e m := by
  cases h with
  | bare hMark h =>
      refine (reads_oneOf hMark).bind
        ((passes_oneOf (not_sign_of_digits h.digits h.ne_nil)).maybe.bind ?_)
      refine (Reads.of_eq (someWhile_append h.digits h.ne_nil hm)).bind ?_
      rw [h.value]
      exact reads_pure _
  | plus hMark h | minus hMark h =>
      refine (reads_oneOf hMark).bind ((reads_oneOf (by simp)).maybe.bind ?_)
      refine (Reads.of_eq (someWhile_append h.digits h.ne_nil hm)).bind ?_
      rw [h.value]
      exact reads_pure _

theorem exponentWord_head {word : List Char} {e : Int} (h : ExponentWord e word) :
    ∀ c ∈ (word ++ m).head?, isDigit c = false ∧ c ≠ '.' := by
  have hMark {mark : Char} (h : mark ∈ ['e', 'E']) : isDigit mark = false ∧ mark ≠ '.' := by
    rcases List.mem_pair.mp h with rfl | rfl <;> decide
  cases h with
  | bare h _ | plus h _ | minus h _ => simpa using hMark h

theorem reads_marksWord {fraction word : List Char} {e : Int} (h : MarksWord fraction e word)
    (hm : Ends (blankChars ++ operandStops) m) :
    Reads True
      (either
        (do
          let _ ← char '.'
          let fraction ← charsWhile isDigit
          let exponent ← maybe exponentParser
          return (fraction, exponent.getD 0))
        (return ([], ← exponentParser)))
      (word ++ m) (fraction, e) m := by
  have hEnd := ends_number hm
  cases h with
  | point h =>
      have hDigits := charsWhile_append h fun c hc => (hEnd c hc).1
      have hNoExponent := passes_exponent fun c hc => (hEnd c hc).2.2
      exact Reads.either ((reads_oneOf (by simp)).bind ((Reads.of_eq hDigits).bind
        (hNoExponent.maybe.bind (reads_pure _))))
  | both h exponent =>
      have hDigits := charsWhile_append h fun c hc => (exponentWord_head (m := m) exponent c hc).1
      have hExponent := reads_exponentWord exponent fun c hc => (hEnd c hc).1
      rw [List.cons_append, List.append_assoc]
      exact Reads.either ((reads_oneOf (by simp)).bind ((Reads.of_eq hDigits).bind
        (hExponent.maybe.bind (reads_pure _))))
  | exponent exponent =>
      have hNoPoint := passes_char fun c hc => (exponentWord_head (m := m) exponent c hc).2
      exact hNoPoint.bind.either_reads
        ((reads_exponentWord exponent fun c hc => (hEnd c hc).1).bind (reads_pure _))

theorem marksWord_head {fraction word : List Char} {e : Int} (h : MarksWord fraction e word) :
    ∀ c ∈ (word ++ m).head?, isDigit c = false := by
  cases h with
  | point | both => simp [isDigit]
  | exponent exponent => exact fun c hc => (exponentWord_head exponent c hc).1

theorem reads_floatWord {negative : Bool} {n : Nat} {whole fraction word : List Char} {e : Int}
    (h : IsNumeral n whole) (marks : MarksWord fraction e word)
    (finite : isFinite (Literal.toFloat ⟨negative, whole, fraction, e⟩) = true)
    (hm : Ends (blankChars ++ operandStops) m) :
    Reads True floatParser (signChars negative ++ (whole ++ word) ++ m)
      (Literal.toFloat ⟨negative, whole, fraction, e⟩) m := by
  rw [List.append_assoc, List.append_assoc]
  refine reads_get.bind ((reads_sign negative h.digits h.ne_nil).bind ?_)
  refine (Reads.of_eq (someWhile_append h.digits h.ne_nil (marksWord_head marks))).bind ?_
  refine (reads_marksWord marks hm).bind ?_
  have hSign : (if negative then some '-' else none).isSome = negative := by
    cases negative <;> rfl
  simp only [hSign, finite, if_true]
  exact reads_pure _

theorem reads_integerWord {negative : Bool} {n : Nat} {digits : List Char}
    (h : IsNumeral n digits) (lower : Int64.minValue.toInt ≤ if negative then -(n : Int) else n)
    (upper : (if negative then -(n : Int) else n) ≤ Int64.maxValue.toInt)
    (hm : Ends (blankChars ++ operandStops) m) :
    Passes floatParser (signChars negative ++ digits ++ m) ∧
      Reads True integerParser (signChars negative ++ digits ++ m)
        (.ofInt (if negative then -(n : Int) else n)) m := by
  have hDigits := someWhile_append h.digits h.ne_nil fun c hc => (ends_number hm c hc).1
  have hSign : Reads True (maybe (char '-')) (signChars negative ++ (digits ++ m)) _ _ :=
    reads_sign negative h.digits h.ne_nil
  rw [List.append_assoc]
  constructor
  · refine Passes.bind_of_ok rfl (Passes.bind_of_ok hSign.eq (Passes.bind_of_ok hDigits ?_))
    have hNoPoint := passes_char fun c hc => (ends_number hm c hc).2.1
    have hNoExponent := passes_exponent fun c hc => (ends_number hm c hc).2.2
    exact (hNoPoint.bind.either hNoExponent.bind).bind
  · refine reads_get.bind (hSign.bind ((Reads.of_eq hDigits).bind ?_))
    have hNegative : (if negative then some '-' else none).isSome = negative := by
      cases negative <;> rfl
    simp only [hNegative, h.value]
    rw [if_pos ⟨lower, upper⟩]
    exact reads_pure _

/-- A string is read up to the first quote that no backslash is in front of. -/
theorem unquote_word {cs : List Char} (h : StringChars cs) :
    ∃ s, ∀ m, unquote (cs ++ '"' :: m) = some (s, m) := by
  induction h with
  | nil => exact ⟨[], fun _ => rfl⟩
  | @plain c cs hPlain _ ih =>
      obtain ⟨s, hInner⟩ := ih
      refine ⟨c :: s, fun m => ?_⟩
      rw [List.cons_append, unquote_plain hPlain.1 hPlain.2, hInner]
      rfl
  | @escaped c cs _ ih =>
      obtain ⟨s, hInner⟩ := ih
      refine ⟨(if c = 'n' then '\n' else if c = 't' then '\t' else c) :: s, fun m => ?_⟩
      rw [List.cons_append, List.cons_append, unquote, hInner]
      rfl

theorem reads_stringWord {cs : List Char} (h : StringChars cs) :
    ∃ s, ∀ m, Reads True stringParser ('"' :: (cs ++ ['"']) ++ m) s m := by
  obtain ⟨s, hInner⟩ := unquote_word h
  refine ⟨.ofList s, fun m => ?_⟩
  rw [List.cons_append, List.append_assoc]
  refine reads_get.bind ((reads_oneOf (by simp)).bind (reads_get.bind (Or.inl ?_)))
  simp only [List.singleton_append, hInner]
  rfl

/-- What begins no number does so in front of anything that is no digit. -/
theorem noNumber_append {word : List Char} (h : NoNumber word)
    (hm : ∀ c ∈ m.head?, isDigit c = false) (hWord : word ≠ []) : NoNumber (word ++ m) := by
  obtain ⟨c, cs, rfl⟩ := List.exists_cons_of_ne_nil hWord
  rintro rest (rfl | hRest)
  · exact fun d hd => h (c :: cs) (Or.inl rfl) d (by simpa using hd)
  · rw [List.cons_append, List.cons.injEq] at hRest
    obtain ⟨rfl, rfl⟩ := hRest
    cases cs with
    | nil => exact hm
    | cons d cs => exact fun d' hd' => h (d :: cs) (Or.inr rfl) d' (by simpa using hd')

end Value

namespace Expr

/-- A name is read as an operand, be it a truth value or a field. -/
theorem reads_nameWord {word : List Char} (h : NameWord word) (hNumber : Value.NoNumber word) :
    ∃ e, ∀ m, Ends (blankChars ++ operandStops) m →
      Reads True operandParser (word ++ m) e m := by
  obtain ⟨⟨name, escaped⟩, hSpelled⟩ := Name.reads_spelledWord h
  obtain ⟨e, hName⟩ : ∃ e, ∀ m, Ends (blankChars ++ delimiters) m →
      Reads True nameParser (word ++ m) e m :=
    ⟨_, fun m hm => (hSpelled m hm).bind (reads_pure _)⟩
  refine ⟨e, fun m hm => ?_⟩
  have hNoString : ∀ c ∈ (word ++ m).head?, c ≠ '"' := by
    rintro c hc rfl
    obtain ⟨d, ds, rfl⟩ := List.exists_cons_of_ne_nil h.1
    rcases Name.nameChars_head h.2 _ (by simpa using hc) with hPlain | hSlash
    · exact absurd hPlain (by decide)
    · exact absurd hSlash (by decide)
  have hNoNumber : Value.NoNumber (word ++ m) :=
    Value.noNumber_append hNumber (fun c hc => (Value.ends_number hm c hc).1) h.1
  exact reads_nameOperand hNoString hNoNumber (hName m hm.mono)

/-- An operand is read up to its end, however it is spelled. -/
theorem reads_operandWord {word : List Char} (h : OperandWord word) :
    ∃ e, ∀ m, Ends (blankChars ++ operandStops) m →
      Reads True operandParser (word ++ m) e m := by
  have hNumber {negative : Bool} {n : Nat} {digits word : List Char} (h : IsNumeral n digits) :
      Passes Value.stringParser (signChars negative ++ (digits ++ word)) := by
    refine Value.passes_string fun c hc => ?_
    exact (Value.number_head (Value.signed_head negative h.digits h.ne_nil c hc)).2.2
  cases h with
  | string h =>
      obtain ⟨s, hString⟩ := Value.reads_stringWord h
      exact ⟨_, fun m _ => Reads.either ((hString m).bind (reads_pure _))⟩
  | @integer negative n digits h lower upper =>
      refine ⟨.constant (.int (.ofInt (if negative then -(n : Int) else n))), fun m hm => ?_⟩
      have hNoString : Passes Value.stringParser (signChars negative ++ digits ++ m) := by
        rw [List.append_assoc]
        exact hNumber h
      obtain ⟨hNoFloat, hInteger⟩ := Value.reads_integerWord h lower upper hm
      exact hNoString.bind.either_reads (hNoFloat.bind.either_reads
        (Reads.either (hInteger.bind (reads_pure _))))
  | @float negative _ whole fraction _ e h marks finite =>
      refine ⟨.constant (.float (Decimal.Literal.toFloat ⟨negative, whole, fraction, e⟩)),
        fun m hm => ?_⟩
      have hFloat := Value.reads_floatWord h marks finite hm
      rw [List.append_assoc, List.append_assoc] at hFloat ⊢
      exact (hNumber h).bind.either_reads (Reads.either (hFloat.bind (reads_pure _)))
  | name h noNumber => exact reads_nameWord h noNumber

end Expr

end Hyperslab
