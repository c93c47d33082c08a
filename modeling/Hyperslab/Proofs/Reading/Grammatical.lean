import Hyperslab.Proofs.Reading.Leaves

/-! What is read is a sentence. Every parser of the grammar leaves the rest of a phrase of its rule,
whatever the text is. -/
namespace Hyperslab

open Hyperslab.Parser Grammar

variable {start : List Char}

namespace Name

theorem solid_nameChars {word : List Char} (h : NameChars word) : Solid word := by
  cases h with
  | nil => simp [Solid]
  | plain h _ => simpa [Solid] using not_isBlank_of_isPlain h
  | escaped _ => simp [Solid, isBlank]

/-- The longest name at the start of a text is spelled there. -/
theorem split_spelled (input : List Char) : ∃ word, NameChars word ∧
    input = word ++ (split input).2.2 ∧ (word = [] → (split input).1 = []) := by
  induction input using split.induct with
  | case1 c rest name escaped rest' hSplit ih =>
      obtain ⟨word, hWord, hInput, _⟩ := ih
      refine ⟨'\\' :: c :: word, .escaped hWord, ?_, by simp⟩
      rw [hSplit] at hInput
      simp [split, hSplit, ← hInput]
  | case2 c rest _ hPlain name escaped rest' hSplit ih =>
      obtain ⟨word, hWord, hInput, _⟩ := ih
      refine ⟨c :: word, .plain hPlain hWord, ?_, by simp⟩
      rw [split_plain hPlain, List.cons_append, ← hInput]
  | case3 c rest hSlash hPlain =>
      refine ⟨[], .nil, ?_, ?_⟩ <;> simp [split, hPlain]
  | case4 => exact ⟨[], .nil, rfl, fun _ => rfl⟩

theorem leaves_spelled : Leaves id start spelled fun _ m =>
    ∃ word, NameWord word ∧ start = word ++ m := by
  intro input rest spelled hStart hOk
  unfold Name.spelled at hOk
  split at hOk
  · cases hOk
  · next name escaped rest' hSome hSplit =>
      cases hOk
      obtain ⟨word, hWord, hInput, hNil⟩ := split_spelled input
      rw [hSplit] at hInput hNil
      exact ⟨word, ⟨fun hEmpty => hSome (hNil hEmpty), hWord⟩, hStart.symm.trans hInput⟩

theorem leaves_parse : Leaves stripped start Name.parse fun _ m => Begins NameWord start m := by
  refine Leaves.word fun start => leaves_spelled.bind fun spelled m hSpelled => leaves_pure ?_
  obtain ⟨word, hWord, hStart⟩ := hSpelled
  exact ⟨word, hWord, hWord.1, solid_nameChars hWord.2, hStart⟩

end Name

namespace Slice

theorem leaves_index : Leaves stripped start indexParser fun i m => IndexText i start m := by
  refine Leaves.word fun start input rest i hStart hOk => ?_
  unfold indexParser at hOk
  split at hOk
  · next digits rest' hDigits =>
      obtain ⟨hWord, hAll, hInput⟩ := leaves_someWhile hStart hDigits
      split at hOk
      · next hFits =>
          cases hOk
          have hNumeral : IsNumeral (UInt64.ofNat (Decimal.ofDigits digits)).toNat digits :=
            ⟨hWord, hAll, (UInt64.toNat_ofNat_of_lt hFits).symm⟩
          exact ⟨digits, hNumeral, hWord, hNumeral.solid, hInput⟩
      · cases hOk
  · cases hOk

variable {latitude : Latitude}

theorem leaves_bounds (hBare : latitude.bareStride) :
    Leaves stripped start bounds fun _ m => BoundsPhrase latitude start m := by
  refine leaves_index.token.bind fun i m hFirst => ?_
  have hThird (start : List Char) : Leaves stripped start (do
      let _ ← char ':'
      maybe (token indexParser)) fun o m => ∃ m', Lexeme [':'] start m' ∧
        (o = none ∧ m = m' ∨ ∃ j, o = some j ∧ IndexText j m' m) :=
    (leaves_char ':' rfl).bind fun _ m' hColon => leaves_index.token.maybe.mono fun o m ho =>
      ⟨m', hColon, ho⟩
  refine Leaves.bind (Leaves.maybe (R := fun _ m' => BoundsPhrase latitude start m') ?_)
    fun more m' hMore => ?_
  · refine (leaves_char ':' rfl).bind fun _ m' hColon => leaves_index.token.maybe.bind
      fun second m'' hSecond => (hThird m'').maybe.bind fun third m₃ hThird => leaves_pure ?_
    rcases hSecond with ⟨rfl, rfl⟩ | ⟨j, rfl, hSecond⟩
    · rcases hThird with ⟨rfl, rfl⟩ | ⟨last, rfl, m', hColon', ⟨rfl, rfl⟩ | ⟨k, rfl, hLast⟩⟩
      · exact .usual (.openEnd hFirst hColon)
      · exact .bareOpen hBare hFirst hColon hColon'
      · exact .bareClosed hBare hFirst hColon hColon' hLast
    · rcases hThird with ⟨rfl, rfl⟩ | ⟨last, rfl, m', hColon', ⟨rfl, rfl⟩ | ⟨k, rfl, hLast⟩⟩
      · exact .usual (.closed hFirst hColon hSecond)
      · exact .usual (.stridedOpen hFirst hColon hSecond hColon')
      · exact .usual (.strided hFirst hColon hSecond hColon' hLast)
  · rcases hMore with ⟨rfl, rfl⟩ | ⟨bounds, rfl, hBounds⟩
    · exact leaves_pure (.usual (.index hFirst))
    · rcases bounds with ⟨_, _ | _⟩ <;> exact leaves_pure hBounds

theorem leaves_parse (hBare : latitude.bareStride) :
    Leaves stripped start Slice.parse fun _ m => SlicePhrase latitude start m := by
  refine (leaves_char '[' rfl).token.bind fun _ m hOpening => Leaves.cut ?_
  refine (leaves_bounds hBare).maybe.bind fun slice m' hBounds => ?_
  refine (leaves_char ']' rfl).token.expecting.bind fun _ m'' hClosing => leaves_pure ?_
  rcases hBounds with ⟨_, rfl⟩ | ⟨_, _, hBounds⟩
  · exact .whole hOpening hClosing
  · exact .bounded hOpening hBounds hClosing

end Slice

namespace Operator

theorem leaves_parse : Leaves stripped start Operator.parse fun op m =>
    Begins (OperatorWord op) start m := by
  refine Leaves.word fun start input rest op hStart hOk => ?_
  subst hStart
  unfold Operator.parse at hOk
  split at hOk
  · next spelling op' hFound =>
      cases hOk
      have hMem := List.mem_of_find?_eq_some hFound
      have hPrefix := List.find?_some hFound
      have hInput : input = spelling ++ input.drop spelling.length := by
        obtain ⟨rest, rfl⟩ := List.isPrefixOf_iff_prefix.mp hPrefix
        simp
      have hAll : ∀ entry ∈ spellings, OperatorWord entry.2 entry.1 ∧ entry.1 ≠ [] ∧
          Solid entry.1 := by
        simp [spellings, OperatorWord, Operator.symbol, Solid, isBlank]
      obtain ⟨hWord, hNe, hSolid⟩ := hAll _ hMem
      exact ⟨spelling, hWord, hNe, hSolid, hInput⟩
  · cases hOk

end Operator

namespace Value

/-- The characters up to the quote that ends a string are those of a string. -/
theorem unquote_spelled (input : List Char) : ∀ s rest, unquote input = some (s, rest) →
    ∃ cs, StringChars cs ∧ input = cs ++ '"' :: rest := by
  induction input using unquote.induct with
  | case1 rest =>
      intro s rest' hSome
      cases hSome
      exact ⟨[], .nil, rfl⟩
  | case2 c rest ih =>
      intro s rest' hSome
      rw [unquote, Option.map_eq_some_iff] at hSome
      obtain ⟨⟨s', rest''⟩, hInner, hEq⟩ := hSome
      cases hEq
      obtain ⟨cs, hChars, rfl⟩ := ih _ _ hInner
      exact ⟨'\\' :: c :: cs, .escaped hChars, rfl⟩
  | case4 c rest hQuote hEscape hLast ih =>
      have hSlash : c ≠ '\\' := ne_slash_of_unescaped hEscape hLast
      intro s rest' hSome
      rw [unquote_plain hQuote hSlash, Option.map_eq_some_iff] at hSome
      obtain ⟨⟨s', rest''⟩, hInner, hEq⟩ := hSome
      cases hEq
      obtain ⟨cs, hChars, rfl⟩ := ih _ _ hInner
      exact ⟨c :: cs, .plain ⟨hQuote, hSlash⟩ hChars, rfl⟩
  | case3 | case5 =>
      intro s rest hSome
      cases hSome

theorem leaves_string : Leaves id start stringParser fun _ m =>
    ∃ cs, StringChars cs ∧ start = '"' :: (cs ++ ['"']) ++ m := by
  refine leaves_get.bind fun place m hPlace => ?_
  subst hPlace
  refine leaves_oneOf.bind fun quote m' hQuote => ?_
  obtain ⟨hMem, rfl⟩ := hQuote
  obtain rfl := List.mem_singleton.mp hMem
  intro input rest s hStart hOk
  subst hStart
  rw [bind_ok (p := get) rfl] at hOk
  cases hInner : unquote input with
  | none =>
      rw [hInner] at hOk
      cases hOk
  | some done =>
      obtain ⟨chars, rest'⟩ := done
      rw [hInner] at hOk
      cases hOk
      obtain ⟨cs, hChars, rfl⟩ := unquote_spelled input _ _ hInner
      exact ⟨cs, hChars, by simp⟩

theorem leaves_sign : Leaves id start (maybe (char '-')) fun sign m =>
    start = signChars sign.isSome ++ m := by
  refine leaves_oneOf.maybe.mono fun sign m hSign => ?_
  rcases hSign with ⟨rfl, rfl⟩ | ⟨c, rfl, hMem, rfl⟩
  · rfl
  · rw [List.mem_singleton.mp hMem]
    rfl

theorem leaves_digits : Leaves id start (someWhile Decimal.isDigit) fun digits m =>
    IsNumeral (Decimal.ofDigits digits) digits ∧ start = digits ++ m :=
  leaves_someWhile.mono fun _ _ ⟨hWord, hAll, hStart⟩ => ⟨⟨hWord, hAll, rfl⟩, hStart⟩

theorem leaves_exponent : Leaves id start exponentParser fun e m =>
    ∃ word, ExponentWord e word ∧ start = word ++ m := by
  refine leaves_oneOf.bind fun mark m hMark => ?_
  obtain ⟨hMark, rfl⟩ := hMark
  refine leaves_oneOf.maybe.bind fun sign m' hSign => leaves_digits.bind fun digits m'' hDigits =>
    leaves_pure ?_
  obtain ⟨hDigits, rfl⟩ := hDigits
  rcases hSign with ⟨rfl, rfl⟩ | ⟨c, rfl, hMem, rfl⟩
  · exact ⟨mark :: digits, .bare hMark hDigits, rfl⟩
  · rcases List.mem_pair.mp hMem with rfl | rfl
    · exact ⟨mark :: '+' :: digits, .plus hMark hDigits, rfl⟩
    · exact ⟨mark :: '-' :: digits, .minus hMark hDigits, rfl⟩

theorem leaves_marks : Leaves id start
    (either
      (do
        let _ ← char '.'
        let fraction ← charsWhile Decimal.isDigit
        let exponent ← maybe exponentParser
        return (fraction, exponent.getD 0))
      (return ([], ← exponentParser))) fun marks m =>
    ∃ word, MarksWord marks.1 marks.2 word ∧ start = word ++ m := by
  refine Leaves.either ?_ ?_
  · refine leaves_oneOf.bind fun point m hPoint => leaves_charsWhile.bind
      fun fraction m' hFraction => leaves_exponent.maybe.bind fun e m'' hExponent => leaves_pure ?_
    obtain ⟨hMem, rfl⟩ := hPoint
    obtain rfl := List.mem_singleton.mp hMem
    obtain ⟨hDigits, rfl⟩ := hFraction
    rcases hExponent with ⟨rfl, rfl⟩ | ⟨e, rfl, word, hWord, rfl⟩
    · exact ⟨'.' :: fraction, .point hDigits, rfl⟩
    · exact ⟨'.' :: (fraction ++ word), .both hDigits hWord, by simp⟩
  · refine leaves_exponent.bind fun e m hExponent => leaves_pure ?_
    obtain ⟨word, hWord, rfl⟩ := hExponent
    exact ⟨word, .exponent hWord, rfl⟩

theorem leaves_float : Leaves id start floatParser fun _ m =>
    ∃ word, OperandWord word ∧ start = word ++ m := by
  refine leaves_get.bind fun place m hPlace => ?_
  subst hPlace
  refine leaves_sign.bind fun sign m' hSign => leaves_digits.bind fun whole m'' hWhole =>
    leaves_marks.bind fun marks m₃ hMarks => ?_
  subst hSign
  obtain ⟨hWhole, rfl⟩ := hWhole
  obtain ⟨word, hMarks, rfl⟩ := hMarks
  obtain ⟨fraction, e⟩ := marks
  simp only
  split
  · next hFinite =>
      exact leaves_pure ⟨_, .float hWhole hMarks hFinite, by simp⟩
  · exact leaves_refuse

theorem leaves_integer : Leaves id start integerParser fun _ m =>
    ∃ word, OperandWord word ∧ start = word ++ m := by
  refine leaves_get.bind fun place m hPlace => ?_
  subst hPlace
  refine leaves_sign.bind fun sign m' hSign => leaves_digits.bind fun digits m'' hDigits => ?_
  subst hSign
  obtain ⟨hDigits, rfl⟩ := hDigits
  simp only
  by_cases hFits : Int64.minValue.toInt ≤ (if sign.isSome then -(Decimal.ofDigits digits : Int)
      else Decimal.ofDigits digits) ∧ (if sign.isSome then -(Decimal.ofDigits digits : Int)
      else Decimal.ofDigits digits) ≤ Int64.maxValue.toInt
  · rw [if_pos hFits]
    exact leaves_pure ⟨_, .integer hDigits hFits.1 hFits.2, by simp⟩
  · rw [if_neg hFits]
    exact leaves_refuse

/-- Where no integer is read and other readings are left open, no number begins. -/
theorem noNumber_of_passes {input : List Char} (h : Passes integerParser input) :
    NoNumber input := by
  intro rest hInput c hc
  by_contra hDigit
  rw [Bool.not_eq_false] at hDigit
  obtain ⟨cs, rfl⟩ := List.head?_eq_some_iff.mp hc
  have hSign : ∃ sign, maybe (char '-') input = .ok (sign, c :: cs) := by
    rcases hInput with rfl | rfl
    · refine ⟨none, (passes_char fun d hd => ?_).maybe_eq⟩
      rintro rfl
      obtain rfl := Option.some.inj hd
      exact absurd hDigit (by decide)
    · exact ⟨some '-', rfl⟩
  obtain ⟨sign, hSign⟩ := hSign
  have hDigits : someWhile Decimal.isDigit (c :: cs) =
      .ok ((c :: cs).takeWhile Decimal.isDigit, (c :: cs).dropWhile Decimal.isDigit) := by
    simp [someWhile, hDigit]
  -- Behind the digits, an integer is read or the stop is final.
  have hFinal (n : Int) (rest : List Char) (stop : Stop)
      (hStop : (if Int64.minValue.toInt ≤ n ∧ n ≤ Int64.maxValue.toInt then
        (return .ofInt n : Parser Int64) else refuse input .wordInteger) rest = .error stop) :
      stop.final = true := by
    split at hStop <;> cases hStop
    rfl
  have hAll : Passes _ input := h.of_bind rfl
  obtain ⟨stop, hOpen, hStop⟩ := (hAll.of_bind hSign).of_bind hDigits
  rw [hFinal _ _ stop hStop] at hOpen
  cases hOpen

end Value

namespace Grammar

theorem number_solid {negative : Bool} {digits : List Char} {n : Nat} (h : IsNumeral n digits)
    (word : List Char) : Solid (signChars negative ++ (digits ++ word)) := by
  cases negative with
  | true => simp [signChars, Solid, isBlank]
  | false => exact h.solid.append h.ne_nil

theorem OperandWord.solid {word : List Char} (h : OperandWord word) : Solid word := by
  cases h with
  | string _ => simp [Solid, isBlank]
  | integer h _ _ => simpa using number_solid h []
  | float h _ _ => exact number_solid h _
  | name h _ => exact Name.solid_nameChars h.2

theorem OperandWord.ne_nil {word : List Char} (h : OperandWord word) : word ≠ [] := by
  cases h with
  | string _ => simp
  | integer h _ _ => simp [h.ne_nil]
  | float h _ _ => simp [h.ne_nil]
  | name h _ => exact h.1

end Grammar

namespace Expr

/-- Whether it is a truth value or a field, a name that no number parser takes is an operand. -/
theorem leaves_name (hPasses : Passes Value.integerParser start) :
    Leaves id start nameParser fun _ m => ∃ word, OperandWord word ∧ start = word ++ m := by
  refine Name.leaves_spelled.bind fun spelled m hSpelled => leaves_pure ?_
  obtain ⟨word, hWord, rfl⟩ := hSpelled
  refine ⟨word, .name hWord ?_, rfl⟩
  intro rest hRest c hc
  apply Value.noNumber_of_passes hPasses (rest ++ m)
  · rcases hRest with rfl | rfl
    · exact Or.inl rfl
    · exact Or.inr rfl
  · rw [List.head?_append, Option.mem_def.mp hc]
    rfl

theorem leaves_operand : Leaves stripped start operandParser fun _ m =>
    Begins OperandWord start m := by
  refine Leaves.word fun start => ?_
  have hWord : Leaves id start operandParser fun _ m =>
      ∃ word, OperandWord word ∧ start = word ++ m := by
    refine Leaves.either ?_ (Leaves.either ?_ (Leaves.either_of_passes ?_ fun hPasses => ?_))
    · refine Value.leaves_string.bind fun s m hString => leaves_pure ?_
      obtain ⟨cs, hChars, hStart⟩ := hString
      exact ⟨_, .string hChars, hStart⟩
    · exact Value.leaves_float.bind fun _ _ h => leaves_pure h
    · exact Value.leaves_integer.bind fun _ _ h => leaves_pure h
    · refine leaves_name ?_
      obtain ⟨stop, hOpen, hStop⟩ := hPasses
      cases hInteger : Value.integerParser start with
      | ok done =>
          rw [bind_ok hInteger] at hStop
          cases hStop
      | error stop' =>
          rw [bind_error hInteger] at hStop
          exact ⟨stop', by cases hStop; exact hOpen, hInteger⟩
  exact hWord.mono fun _ _ ⟨word, h, hStart⟩ => ⟨word, h, h.ne_nil, h.solid, hStart⟩

variable {latitude : Latitude}

theorem leaves_comparison : Leaves stripped start comparisonParser fun _ m =>
    ConjunctPhrase latitude start m := by
  refine leaves_operand.token.bind fun lhs m hLeft => ?_
  refine Operator.leaves_parse.token.expecting.cut.bind fun op m' hSign => ?_
  refine leaves_operand.token.cut.bind fun mid m'' hMiddle => ?_
  refine leaves_get.bind fun place m₃ hPlace => ?_
  subst hPlace
  have hUpper : Leaves stripped m₃ (do
      let op ← token Operator.parse
      return (op, ← cut (token operandParser))) fun bound m => ∃ m',
        Begins (OperatorWord bound.1) m₃ m' ∧ Begins OperandWord m' m :=
    Operator.leaves_parse.token.bind fun op m hSign => leaves_operand.token.cut.bind
      fun rhs m' hRight => leaves_pure ⟨m, hSign, hRight⟩
  refine hUpper.maybe.bind fun upper m₄ hUpper => ?_
  rcases hUpper with ⟨rfl, rfl⟩ | ⟨⟨op', rhs⟩, rfl, m₅, hSign', hRight⟩
  · exact leaves_pure (.compare hLeft hSign hMiddle)
  · simp only
    by_cases hOrder : (op.isOrder && op'.isOrder) = true
    · rw [if_pos hOrder]
      rw [Bool.and_eq_true] at hOrder
      exact leaves_pure (.between (Or.inr hOrder) hLeft hSign hMiddle hSign' hRight)
    · rw [if_neg hOrder]
      exact leaves_refuse

theorem filterPhrase_of_steps {m rest : List Char} (hFirst : ConjunctPhrase latitude start m)
    (hOthers : Relation.ReflTransGen (fun m rest => ∃ m', Lexeme [','] m m' ∧
      ConjunctPhrase latitude m' rest) m rest) : FilterPhrase latitude start rest := by
  induction hOthers using Relation.ReflTransGen.head_induction_on generalizing start with
  | refl => exact .single hFirst
  | head hStep _ ih =>
      obtain ⟨m', hComma, hNext⟩ := hStep
      exact .cons hFirst hComma (ih hNext)

theorem leaves_filterWith {conjunct : Parser Expr}
    (h : ∀ start, Leaves stripped start conjunct fun _ m => ConjunctPhrase latitude start m) :
    Leaves stripped start (filterWith conjunct) fun _ m => FilterPhrase latitude start m := by
  refine (h start).bind fun first m hFirst => ?_
  refine Leaves.bind (Leaves.many fun start => ?_) fun others m' hOthers =>
    leaves_pure (filterPhrase_of_steps hFirst hOthers)
  exact (leaves_char ',' rfl).token.bind fun _ m hComma => (h m).cut.mono fun _ _ hNext =>
    ⟨m, hComma, hNext⟩

/-- Conjuncts that are read are phrases, however deep they are nested. -/
theorem leaves_conjunct (n : Nat) : ∀ start, Leaves stripped start (conjunctUpTo n) fun _ m =>
    ConjunctPhrase latitude start m := by
  induction n with
  | zero => exact fun _ _ _ _ _ hOk => nomatch hOk
  | succ n ih =>
      intro start
      refine Leaves.either ?_ (Leaves.either ?_ leaves_comparison)
      · exact (leaves_char '!' rfl).token.bind fun _ m hSign => (ih m).bind fun _ _ hOperand =>
          leaves_pure (.neg hSign hOperand)
      · exact (leaves_char '(' rfl).token.bind fun _ m hOpening => (leaves_filterWith ih).bind
          fun _ m' hInner => (leaves_char ')' rfl).token.expecting.cut.bind fun _ _ hClosing =>
            leaves_pure (.group hOpening hInner hClosing)

theorem leaves_filter : Leaves stripped start filterParser fun _ m =>
    FilterPhrase latitude start m :=
  fun input _ _ hStart hOk => leaves_filterWith (leaves_conjunct (input.length + 1)) hStart hOk

end Expr

namespace Request

variable {latitude : Latitude} (hBare : latitude.bareStride) (hComma : latitude.commaAfterFilter)

include hBare in
theorem leaves_resize : Leaves stripped start resizeParser fun _ rest => ∃ m m',
    Begins NameWord start m ∧ Lexeme ['='] m m' ∧ SlicePhrase latitude m' rest :=
  Name.leaves_parse.bind fun _ m hName => (leaves_char '=' rfl).token.bind fun _ m' hSign =>
    (Slice.leaves_parse hBare).cut.bind fun _ _ hSlice =>
      leaves_pure ⟨m, m', hName, hSign, hSlice⟩

theorem leaves_clauseWith {selector : Parser Selector}
    (h : ∀ start, Leaves stripped start selector fun _ m => SelectorPhrase latitude start m) :
    ∀ start, Leaves stripped start (clauseWith selector) fun _ m =>
      ∃ filtered, ClausePhrase latitude filtered start m := by
  intro start
  have hFilter (m : List Char) : Leaves stripped m (token (char '|') >>= fun _ =>
      cut Expr.filterParser) fun _ rest => ∃ m', Lexeme ['|'] m m' ∧
        FilterPhrase latitude m' rest :=
    (leaves_char '|' rfl).token.bind fun _ m' hBar =>
      Expr.leaves_filter.cut.mono fun _ _ hFilter => ⟨m', hBar, hFilter⟩
  refine (h start).bind fun target m hTarget => (hFilter m).maybe.bind fun filter m' hFilter =>
    leaves_pure ?_
  rcases hFilter with ⟨_, rfl⟩ | ⟨_, _, m'', hBar, hFilter⟩
  · exact ⟨false, .plain hTarget⟩
  · exact ⟨true, .filtered hTarget hBar hFilter⟩

include hComma in
/-- The clauses of a list of fields, with a semicolon or a comma in front of each but the first. -/
theorem fieldsPhrase_of_steps {m rest : List Char} {filtered : Bool}
    (hFirst : ClausePhrase latitude filtered start m)
    (hOthers : Relation.ReflTransGen (fun m rest => ∃ c ∈ [';', ','], ∃ m', Lexeme [c] m m' ∧
      ∃ filtered, ClausePhrase latitude filtered m' rest) m rest) :
    FieldsPhrase latitude start rest := by
  induction hOthers using Relation.ReflTransGen.head_induction_on generalizing start filtered with
  | refl => exact .last hFirst
  | head hStep _ ih =>
      obtain ⟨c, hc, m', hSeparator, _, hNext⟩ := hStep
      refine .cons hFirst hSeparator ?_ (ih hNext)
      exact (List.mem_pair.mp hc).imp_right fun hc => ⟨hc, Or.inr hComma⟩

/-- A semicolon that may be missing. -/
theorem leaves_trailing : Leaves stripped start (maybe (token (char ';'))) fun _ m =>
    start = m ∨ Lexeme [';'] start m := by
  refine (leaves_char ';' rfl).token.maybe.mono fun _ m hSemicolon => ?_
  rcases hSemicolon with ⟨_, rfl⟩ | ⟨_, _, hSemicolon⟩
  · exact Or.inl rfl
  · exact Or.inr hSemicolon

include hComma in
theorem leaves_fieldsWith {selector : Parser Selector}
    (h : ∀ start, Leaves stripped start selector fun _ m => SelectorPhrase latitude start m) :
    Leaves stripped start (fieldsWith selector) fun _ rest => ∃ m m' m'',
      Lexeme ['\x7b'] start m ∧ FieldsPhrase latitude m m' ∧ (m' = m'' ∨ Lexeme [';'] m' m'') ∧
        Lexeme ['\x7d'] m'' rest := by
  have hSeparator (start : List Char) :
      Leaves stripped start (token (oneOf [';', ',']) >>= fun _ => clauseWith selector)
        fun _ rest => ∃ c ∈ [';', ','], ∃ m', Lexeme [c] start m' ∧
          ∃ filtered, ClausePhrase latitude filtered m' rest :=
    (leaves_mark (by decide)).token.bind fun c m hSeparator =>
      (leaves_clauseWith h m).mono fun _ _ hClause => ⟨c, hSeparator.1, m, hSeparator.2, hClause⟩
  refine (leaves_char '\x7b' rfl).token.bind fun _ m hOpening => ?_
  refine Leaves.bind (R := fun _ m'' => ∃ m', FieldsPhrase latitude m m' ∧
    (m' = m'' ∨ Lexeme [';'] m' m'')) (Leaves.cut ?_) fun fields m'' hFields => ?_
  · refine Leaves.bind (R := fun _ m' => FieldsPhrase latitude m m') ?_ fun fields m' hFields =>
      leaves_trailing.bind fun _ _ hTrailing => leaves_pure ⟨m', hFields, hTrailing⟩
    refine (leaves_clauseWith h m).bind fun first m' hFirst => ?_
    obtain ⟨_, hFirst⟩ := hFirst
    exact (Leaves.many hSeparator).bind fun _ _ hOthers =>
      leaves_pure (fieldsPhrase_of_steps hComma hFirst hOthers)
  · obtain ⟨m', hFields, hTrailing⟩ := hFields
    exact (leaves_char '\x7d' rfl).token.expecting.cut.bind fun _ _ hClosing =>
      leaves_pure ⟨m, m', m'', hOpening, hFields, hTrailing, hClosing⟩

include hBare hComma in
theorem leaves_selectorWith {selector : Parser Selector}
    (h : ∀ start, Leaves stripped start selector fun _ m => SelectorPhrase latitude start m) :
    Leaves stripped start (selectorWith selector) fun _ m => SelectorPhrase latitude start m := by
  refine Name.leaves_parse.token.bind fun name m hName => ?_
  refine (Leaves.many fun _ => Slice.leaves_parse hBare).bind fun slices m' hSlices => ?_
  have hHead : HeadPhrase latitude start m' := ⟨m, hName, hSlices⟩
  refine (leaves_fieldsWith hComma h).maybe.bind fun fields m'' hFields => ?_
  rcases hFields with ⟨rfl, rfl⟩ | ⟨fields, rfl, _, _, _, hOpening, hFields, hTrailing, hClosing⟩
  · refine (leaves_char '.' rfl).token.maybe.bind fun point m₃ hPoint => ?_
    rcases hPoint with ⟨rfl, rfl⟩ | ⟨point, rfl, hPoint⟩
    · exact leaves_pure (.bare hHead)
    · refine (leaves_fieldsWith hComma h).maybe.bind fun fields m₄ hFields => ?_
      rcases hFields with
        ⟨rfl, rfl⟩ | ⟨fields, rfl, _, _, _, hOpening, hFields, hTrailing, hClosing⟩
      · exact (h m₄).expecting.cut.bind fun _ _ hField => leaves_pure (.path hHead hPoint hField)
      · exact leaves_pure (.list hHead (Or.inr hPoint) hOpening hFields hTrailing hClosing)
  · exact leaves_pure (.list hHead (Or.inl rfl) hOpening hFields hTrailing hClosing)

include hBare hComma in
/-- Selectors that are read are phrases, however deep they are nested. -/
theorem leaves_selector (n : Nat) : ∀ start, Leaves stripped start (selectorUpTo n) fun _ m =>
    SelectorPhrase latitude start m := by
  induction n with
  | zero => exact fun _ _ _ _ _ hOk => nomatch hOk
  | succ n ih => exact fun _ => leaves_selectorWith hBare hComma ih

include hBare hComma in
theorem leaves_clause : Leaves stripped start clauseParser fun _ m =>
    ∃ filtered, ClausePhrase latitude filtered start m :=
  fun input _ _ hStart hOk =>
    leaves_clauseWith (leaves_selector hBare hComma (input.length + 1)) start hStart hOk

theorem clausesPhrase_of_steps {m rest : List Char} {filtered : Bool}
    (hFirst : ClausePhrase latitude filtered start m)
    (hOthers : Relation.ReflTransGen (fun m rest => ∃ m', Lexeme [';'] m m' ∧
      ∃ filtered, ClausePhrase latitude filtered m' rest) m rest) :
    ClausesPhrase latitude start rest := by
  induction hOthers using Relation.ReflTransGen.head_induction_on generalizing start filtered with
  | refl => exact .last hFirst
  | head hStep _ ih =>
      obtain ⟨m', hSemicolon, _, hNext⟩ := hStep
      exact .cons hFirst hSemicolon (ih hNext)

include hBare hComma in
theorem leaves_whole : Leaves stripped start parser fun _ rest => ∃ m m',
    Relation.ReflTransGen (ResizePhrase latitude) start m ∧
      (m = m' ∨ ClausesPhrase latitude m m') ∧ (m' = rest ∨ Lexeme [';'] m' rest) := by
  have hResize (start : List Char) : Leaves stripped start (do
      let resize ← token resizeParser
      let _ ← token (char ';')
      return resize) fun _ m => ResizePhrase latitude start m :=
    (leaves_resize hBare).token.bind fun _ m₃ hResize => (leaves_char ';' rfl).token.bind
      fun _ _ hSemicolon => by
        obtain ⟨m, m', hName, hSign, hSlice⟩ := hResize
        exact leaves_pure ⟨m, m', m₃, hName, hSign, hSlice, hSemicolon⟩
  have hClauses (start : List Char) : Leaves stripped start
      (separated (token (char ';')) clauseParser) fun _ m => ClausesPhrase latitude start m := by
    refine (leaves_clause hBare hComma).bind fun _ m hFirst => ?_
    obtain ⟨_, hFirst⟩ := hFirst
    refine Leaves.bind (Leaves.many fun start => ?_) fun _ _ hOthers =>
      leaves_pure (clausesPhrase_of_steps hFirst hOthers)
    exact (leaves_char ';' rfl).token.bind fun _ m hSemicolon =>
      (leaves_clause hBare hComma).mono fun _ _ hClause => ⟨m, hSemicolon, hClause⟩
  refine (Leaves.many hResize).bind fun resizes m hResizes => (hClauses m).maybe.bind
    fun clauses m' hClauses => leaves_trailing.bind fun _ m'' hTrailing => leaves_skipBlanks.bind
      fun _ m₃ hEnd => leaves_pure ⟨m, m', hResizes, ?_, hEnd ▸ hTrailing⟩
  rcases hClauses with ⟨_, rfl⟩ | ⟨_, _, hClauses⟩
  · exact Or.inl rfl
  · exact Or.inr hClauses

include hBare hComma in
/-- A text that is read is a sentence. -/
theorem sentence_of_parse {text : String} {request : Request}
    (h : Request.parse text = .ok request) : Sentence latitude text.toList := by
  have hOk : parser text.toList = .ok (request, []) := by
    unfold Request.parse Parser.run at h
    split at h
    · next hOk =>
        cases h
        exact hOk
    · cases h
    · cases h
  obtain ⟨m, m', hResizes, hClauses, hTrailing⟩ := leaves_whole hBare hComma rfl hOk
  refine ⟨text.toList.takeWhile isBlank, stripped text.toList, m, m',
    fun c hc => List.mem_takeWhile_imp hc, ?_, hResizes, hClauses, hTrailing⟩
  rw [stripped, List.takeWhile_append_dropWhile]

end Request

end Hyperslab
