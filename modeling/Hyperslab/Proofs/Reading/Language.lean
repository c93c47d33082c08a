import Hyperslab.Proofs.Reading.Accepted

/-! The language of requests. It lies between two readings of the same rules, and differs from what
they say as they are written down. -/
namespace Hyperslab

open Hyperslab.Parser Grammar

variable {rest : List Char}

namespace Grammar

variable {latitude : Latitude} {c : Char}

/-- A character of names is a name. -/
theorem begins_name (rest : List Char) (h : Name.isPlain c = true) :
    Begins NameWord (c :: rest) rest :=
  ⟨[c], ⟨by simp, .plain h .nil⟩, Lexeme.tight [c] rest⟩

theorem head_name (rest : List Char) (h : Name.isPlain c = true) :
    HeadPhrase latitude (c :: rest) rest :=
  ⟨rest, begins_name rest h, .refl⟩

/-- It is an operand if no number begins with it. -/
theorem begins_field (rest : List Char) (h : Name.isPlain c = true)
    (hNumber : Decimal.isDigit c = false ∧ c ≠ '-') : Begins OperandWord (c :: rest) rest :=
  ⟨[c], .name ⟨by simp, .plain h .nil⟩ (Value.noNumber_of_head (by simpa using hNumber)),
    Lexeme.tight [c] rest⟩

/-- A digit is an operand. -/
theorem begins_digit {n : Nat} (rest : List Char) (h : IsNumeral n [c])
    (hFits : Int64.minValue.toInt ≤ (n : Int) ∧ (n : Int) ≤ Int64.maxValue.toInt) :
    Begins OperandWord (c :: rest) rest :=
  ⟨[c], @OperandWord.integer false n [c] h hFits.1 hFits.2, Lexeme.tight [c] rest⟩

theorem begins_operator (op : Operator) (rest : List Char) :
    Begins (OperatorWord op) (op.symbol.toList ++ rest) rest :=
  ⟨_, Or.inl rfl, Lexeme.tight _ rest⟩

end Grammar

namespace Request

/-- What is accepted is a sentence, where a range compares with orders only. What is a sentence of
this kind is accepted, unless a stride is missing in it or a comma stands behind a filter in a list
of fields. -/
theorem parse_grammatical (text : String) :
    ((∃ request, Request.parse text = .ok request) → Sentence .most text.toList) ∧
      (Sentence .least text.toList → ∃ request, Request.parse text = .ok request) := by
  constructor
  · rintro ⟨request, hParse⟩
    exact sentence_of_parse trivial trivial hParse
  · intro hSentence
    obtain ⟨request, hRead⟩ := reads_sentence hSentence
    refine ⟨request, ?_⟩
    rw [Request.parse, Parser.run, hRead.eq]

/-- A resize, a list of fields with a semicolon at its end, and a filter that is a range. -/
theorem parse_grammatical_sample : Sentence .least "t=[2:];s\x7bq|1<m<=5;c;\x7d;".toList ∧
    (∃ request, Request.parse "t=[2:];s\x7bq|1<m<=5;c;\x7d;" = .ok request) ∧
      Sentence .most "t=[2:];s\x7bq|1<m<=5;c;\x7d;".toList := by
  have hResize : ResizePhrase .least "t=[2:];s\x7bq|1<m<=5;c;\x7d;".toList
      "s\x7bq|1<m<=5;c;\x7d;".toList :=
    ⟨_, _, _, begins_name _ (by decide), .tight ['='] _, .bounded (.tight ['['] _)
      (.usual (.openEnd (i := 2) ⟨['2'], ⟨by simp, by decide, rfl⟩, .tight ['2'] _⟩
        (.tight [':'] _))) (.tight [']'] _), .tight [';'] _⟩
  have hFilter : FilterPhrase .least "1<m<=5;c;\x7d;".toList ";c;\x7d;".toList :=
    .single (.between (Or.inr ⟨rfl, rfl⟩) (begins_digit (n := 1) _ ⟨by simp, by decide, rfl⟩
        (by decide)) (begins_operator .lt _) (begins_field _ (by decide) (by decide))
      (begins_operator .le _) (begins_digit (n := 5) _ ⟨by simp, by decide, rfl⟩ (by decide)))
  have hFields : FieldsPhrase .least "q|1<m<=5;c;\x7d;".toList ";\x7d;".toList :=
    .cons (.filtered (.bare (head_name _ (by decide))) (.tight ['|'] _) hFilter) (.tight [';'] _)
      (Or.inl rfl) (.last (.plain (.bare (head_name _ (by decide)))))
  have hSelector : SelectorPhrase .least "s\x7bq|1<m<=5;c;\x7d;".toList ";".toList :=
    .list (head_name _ (by decide)) (Or.inl rfl) (.tight ['\x7b'] _) hFields
      (Or.inr (.tight [';'] _)) (.tight ['\x7d'] _)
  have hSentence : Sentence .least "t=[2:];s\x7bq|1<m<=5;c;\x7d;".toList :=
    ⟨[], _, _, _, Blanks.nil, rfl, .single hResize, Or.inr (.last (.plain hSelector)),
      Or.inr (.tight [';'] _)⟩
  have hParsed := (parse_grammatical "t=[2:];s\x7bq|1<m<=5;c;\x7d;").2 hSentence
  exact ⟨hSentence, hParsed, (parse_grammatical _).1 hParsed⟩

end Request

namespace Grammar

/-- A character is taken off a text without blanks behind it. -/
theorem Lexeme.cons_inv {c d : Char} {text : List Char} (h : Lexeme [c] (d :: text) rest)
    (hText : Solid text) : d = c ∧ rest = text := by
  obtain ⟨blanks, hBlanks, hEq⟩ := h
  obtain ⟨rfl, hBehind⟩ := List.cons.inj hEq
  change text = blanks ++ rest at hBehind
  cases blanks with
  | nil => exact ⟨rfl, hBehind.symm⟩
  | cons b blanks =>
      have hSolid := hText b (by simp [hBehind])
      rw [hBlanks b (by simp)] at hSolid
      cases hSolid

/-- A digit is taken off a text that goes on with something else. -/
theorem IndexText.cons_inv {i : UInt64} {d e : Char} {text : List Char}
    (h : IndexText i (d :: e :: text) rest) (hDigit : Decimal.isDigit e = false)
    (hText : Solid (e :: text)) : Decimal.isDigit d = true ∧ rest = e :: text := by
  obtain ⟨word, ⟨hNe, hDigits, _⟩, blanks, hBlanks, hEq⟩ := h
  obtain ⟨c, cs, rfl⟩ := List.exists_cons_of_ne_nil hNe
  obtain ⟨rfl, hBehind⟩ := List.cons.inj hEq
  cases cs with
  | nil => exact ⟨hDigits d (by simp), (Lexeme.cons_inv ⟨blanks, hBlanks, hEq⟩ hText).2⟩
  | cons c cs =>
      obtain ⟨rfl, _⟩ := List.cons.inj hBehind
      rw [hDigits e (by simp)] at hDigit
      cases hDigit

variable {latitude : Latitude} (hBare : ¬latitude.bareStride) {c d : Char} {behind : List Char}
include hBare

/-- Where no stride may be missing, no slice has two colons behind its first index. -/
theorem not_slicePhrase_bare (hDigit : Decimal.isDigit d = true) :
    ¬SlicePhrase latitude ('[' :: d :: ':' :: ':' :: behind) rest := by
  have hSolid : Solid (d :: ':' :: ':' :: behind) := by
    simpa [Solid] using Decimal.isBlank_of_isDigit hDigit
  have hColons (text : List Char) : Solid (':' :: text) := by simp [Solid, isBlank]
  have hNoIndex {i : UInt64} {m : List Char} : ¬IndexText i (':' :: behind) m := by
    rintro ⟨word, ⟨hNe, hDigits, _⟩, blanks, _, hEq⟩
    obtain ⟨e, es, rfl⟩ := List.exists_cons_of_ne_nil hNe
    obtain ⟨rfl, _⟩ := List.cons.inj hEq
    exact absurd (hDigits ':' (by simp)) (by decide)
  have hFirst {i : UInt64} {m m' : List Char} (first : IndexText i (d :: ':' :: ':' :: behind) m)
      (colon : Lexeme [':'] m m') : m' = ':' :: behind := by
    obtain ⟨_, rfl⟩ := first.cons_inv (by decide) (hColons _)
    exact (colon.cons_inv (hColons _)).2
  intro h
  cases h with
  | whole opening closing =>
      obtain ⟨_, rfl⟩ := opening.cons_inv hSolid
      obtain ⟨rfl, _⟩ := closing.cons_inv (hColons _)
      exact absurd hDigit (by decide)
  | bounded opening bounds closing =>
      obtain ⟨_, rfl⟩ := opening.cons_inv hSolid
      cases bounds with
      | usual text =>
          cases text with
          | index first =>
              obtain ⟨_, rfl⟩ := first.cons_inv (by decide) (hColons _)
              obtain ⟨hEq, _⟩ := closing.cons_inv (hColons _)
              exact absurd hEq (by decide)
          | openEnd first colon =>
              obtain rfl := hFirst first colon
              obtain ⟨blanks, _, hEq⟩ := closing
              exact absurd (List.cons.inj hEq).1 (by decide)
          | closed first colon last =>
              obtain rfl := hFirst first colon
              exact hNoIndex last
          | stridedOpen first colon stride _ | strided first colon stride _ _ =>
              obtain rfl := hFirst first colon
              exact hNoIndex stride
      | bareOpen allowed _ _ _ => exact hBare allowed
      | bareClosed allowed _ _ _ _ => exact hBare allowed

/-- The same for whole requests. -/
theorem not_sentence_bare (hName : Name.isPlain c = true) (hDigit : Decimal.isDigit d = true) :
    ¬Sentence latitude (c :: '[' :: d :: ':' :: ':' :: behind) := by
  have hBracket (text : List Char) : Solid ('[' :: text) := by simp [Solid, isBlank]
  have hBehind {m : List Char} (h : Begins NameWord (c :: '[' :: d :: ':' :: ':' :: behind) m) :
      m = '[' :: d :: ':' :: ':' :: behind := by
    obtain ⟨word, ⟨hNe, hChars⟩, hLexeme⟩ := h
    cases hChars with
    | nil => exact absurd rfl hNe
    | plain _ others =>
        obtain ⟨blanks, hBlanks, hEq⟩ := hLexeme
        obtain ⟨rfl, hOthers⟩ := List.cons.inj hEq
        cases others with
        | nil => exact (Lexeme.cons_inv ⟨blanks, hBlanks, hEq⟩ (hBracket _)).2
        | plain hPlain _ =>
            obtain ⟨rfl, _⟩ := List.cons.inj hOthers
            exact absurd hPlain (by decide)
        | escaped _ => exact absurd (List.cons.inj hOthers).1 (by decide)
    | escaped _ =>
        obtain ⟨blanks, _, hEq⟩ := hLexeme
        rw [(List.cons.inj hEq).1] at hName
        exact absurd hName (by decide)
  have hHead {m : List Char} (h : HeadPhrase latitude (c :: '[' :: d :: ':' :: ':' :: behind) m) :
      ¬Ends headStops m := by
    obtain ⟨m', hWord, hSlices⟩ := h
    obtain rfl := hBehind hWord
    intro hEnd
    rcases hSlices.cases_head with rfl | ⟨_, hSlice, _⟩
    · exact absurd (hEnd '[' rfl) (by decide)
    · exact not_slicePhrase_bare hBare hDigit hSlice
  rintro ⟨blanks, input, m, m', hBlanks, hText, hResizes, hClauses, hTrailing⟩
  have hEnd : Ends [';'] m' := by
    rcases hTrailing with rfl | hSemicolon
    · exact ends_nil
    · exact ends_lexeme hSemicolon
  have hInput : input = c :: '[' :: d :: ':' :: ':' :: behind := by
    cases blanks with
    | nil => exact hText.symm
    | cons b blanks =>
        have hBlank := hBlanks b (by simp)
        rw [← (List.cons.inj hText).1, Name.not_isBlank_of_isPlain hName] at hBlank
        cases hBlank
  subst hInput
  rcases hResizes.cases_head with rfl | ⟨_, ⟨_, _, _, hWord, hSign, _⟩, _⟩
  · rcases hClauses with rfl | hClauses
    · have hStop := hEnd c rfl
      rw [List.mem_singleton.mp hStop] at hName
      exact absurd hName (by decide)
    · cases hClauses with
      | last clause =>
          obtain ⟨_, head, hStops⟩ := clause.head hEnd.mono
          exact hHead head hStops
      | cons clause semicolon _ =>
          obtain ⟨_, head, hStops⟩ := clause.head (ends_lexeme semicolon)
          exact hHead head hStops
  · obtain rfl := hBehind hWord
    obtain ⟨blanks, _, hEq⟩ := hSign
    exact absurd (List.cons.inj hEq).1 (by decide)

end Grammar

namespace Request

theorem exists_ok_iff {ε α : Type} {outcome : Except ε α} :
    (∃ a, outcome = .ok a) ↔ outcome.isOk = true := by
  cases outcome <;> simp [Except.isOk, Except.toBool]

/-- Three texts on which the rules as they are written down and the parser differ: a range with an
equality, a comma behind a filter, and a missing stride. -/
theorem not_documented :
    (Sentence .documented "q|1==m<5".toList ∧
      ¬∃ request, Request.parse "q|1==m<5" = .ok request) ∧
    (Sentence .documented "s\x7bq|m<1,a\x7d".toList ∧
      ¬∃ request, Request.parse "s\x7bq|m<1,a\x7d" = .ok request) ∧
    (¬Sentence .documented "a[1::5]".toList ∧
      ∃ request, Request.parse "a[1::5]" = .ok request) := by
  have hRange : FilterPhrase .documented "1==m<5".toList [] :=
    .single (.between (Or.inl trivial) (begins_digit (n := 1) _ ⟨by simp, by decide, rfl⟩
        (by decide)) (begins_operator .eq _) (begins_field _ (by decide) (by decide))
      (begins_operator .lt _) (begins_digit (n := 5) _ ⟨by simp, by decide, rfl⟩ (by decide)))
  have hFilter : FilterPhrase .documented "m<1,a\x7d".toList ",a\x7d".toList :=
    .single (.compare (begins_field _ (by decide) (by decide)) (begins_operator .lt _)
      (begins_digit (n := 1) _ ⟨by simp, by decide, rfl⟩ (by decide)))
  have hFields : FieldsPhrase .documented "q|m<1,a\x7d".toList "\x7d".toList :=
    .cons (.filtered (.bare (head_name _ (by decide))) (.tight ['|'] _) hFilter) (.tight [','] _)
      (Or.inr ⟨rfl, Or.inr trivial⟩) (.last (.plain (.bare (head_name _ (by decide)))))
  have hSelector : SelectorPhrase .documented "s\x7bq|m<1,a\x7d".toList [] :=
    .list (head_name _ (by decide)) (Or.inl rfl) (.tight ['\x7b'] _) hFields (Or.inl rfl)
      (.tight ['\x7d'] _)
  have hRun : (Request.parse "q|1==m<5").isOk = false ∧
      (Request.parse "s\x7bq|m<1,a\x7d").isOk = false ∧
        (Request.parse "a[1::5]").isOk = true := by
    decide +kernel
  refine ⟨⟨⟨[], _, _, _, Blanks.nil, rfl, .refl, Or.inr (.last (.filtered (.bare
    (head_name _ (by decide))) (.tight ['|'] _) hRange)), Or.inl rfl⟩, ?_⟩,
    ⟨⟨[], _, _, _, Blanks.nil, rfl, .refl, Or.inr (.last (.plain hSelector)), Or.inl rfl⟩, ?_⟩,
    not_sentence_bare id (by decide) (by decide), ?_⟩
  · rw [exists_ok_iff, hRun.1]
    exact Bool.false_ne_true
  · rw [exists_ok_iff, hRun.2.1]
    exact Bool.false_ne_true
  · exact exists_ok_iff.mpr hRun.2.2

end Request

end Hyperslab
