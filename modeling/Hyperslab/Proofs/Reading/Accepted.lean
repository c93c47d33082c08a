import Hyperslab.Proofs.Reading.Word

/-! Sentences are read, as long as their rules leave nothing open. No rule then competes with
another one for what stands behind it. -/
namespace Hyperslab

open Hyperslab.Parser Grammar

variable {input rest m : List Char}

namespace Grammar

/-- Something is taken from a text, and it begins with no blank. -/
structure Advances (input rest : List Char) : Prop where
  solid : Solid input
  shorter : rest.length < input.length

theorem Advances.then (h : Advances input m) (hRest : rest.length ≤ m.length) :
    Advances input rest :=
  ⟨h.solid, Nat.lt_of_le_of_lt hRest h.shorter⟩

theorem Advances.trans (h : Advances input m) (h' : Advances m rest) : Advances input rest :=
  h.then (Nat.le_of_lt h'.shorter)

theorem Lexeme.advances {c : Char} (h : Lexeme [c] input rest)
    (hBlank : isBlank c = false := by decide) : Advances input rest :=
  ⟨solid_of_lexeme h hBlank, h.length_lt (by simp)⟩

theorem Begins.advances {kind : List Char → Prop} (h : Begins kind input rest)
    (hKind : ∀ word, kind word → word ≠ [] ∧ Solid word) : Advances input rest := by
  obtain ⟨word, hWord, hLexeme⟩ := h
  obtain ⟨hNe, hSolid⟩ := hKind word hWord
  refine ⟨?_, hLexeme.length_lt hNe⟩
  obtain ⟨blanks, _, rfl⟩ := hLexeme
  exact hSolid.append hNe

theorem Begins.advances_name (h : Begins NameWord input rest) : Advances input rest :=
  h.advances fun _ hWord => ⟨hWord.1, Name.solid_nameChars hWord.2⟩

theorem Begins.advances_operand (h : Begins OperandWord input rest) : Advances input rest :=
  h.advances fun _ hWord => ⟨hWord.ne_nil, hWord.solid⟩

theorem Begins.advances_operator {op : Operator} (h : Begins (OperatorWord op) input rest) :
    Advances input rest := by
  refine h.advances fun word hWord => ?_
  rcases hWord with rfl | ⟨rfl, rfl⟩
  · exact ⟨symbol_ne_nil op, by cases op <;> simp [Solid, Operator.symbol, isBlank]⟩
  · simp [Solid, isBlank]

/-- An operand begins with nothing that begins a conjunct of another kind or makes an operator
longer. -/
theorem Begins.operand_head (h : Begins OperandWord input rest) :
    ∀ c ∈ input.head?, isBlank c = false ∧ c ∉ ['!', '(', '='] := by
  obtain ⟨word, hWord, blanks, _, rfl⟩ := h
  obtain ⟨c, cs, rfl⟩ := List.exists_cons_of_ne_nil hWord.ne_nil
  intro d hd
  obtain rfl := Option.some.inj hd
  refine ⟨hWord.solid c rfl, ?_⟩
  have hNumber {negative : Bool} {n : Nat} {digits : List Char} (h : IsNumeral n digits)
      (word : List Char) (hWord : c :: cs = signChars negative ++ (digits ++ word)) :
      c ∉ ['!', '(', '='] := by
    have hHead := Value.signed_head (m := word) negative h.digits h.ne_nil c
    change c ∈ (signChars negative ++ (digits ++ word)).head? → _ at hHead
    rw [← hWord] at hHead
    exact (Value.number_head (hHead rfl)).2.1
  generalize hEq : c :: cs = word at hWord
  cases hWord with
  | string _ =>
      cases hEq
      decide
  | integer h _ _ => exact hNumber h [] (by simpa using hEq)
  | float h _ _ => exact hNumber h _ hEq
  | name h _ =>
      subst hEq
      intro hc
      have hNone : ∀ d ∈ ['!', '(', '='], ¬(Name.isPlain d = true ∨ d = '\\') := by decide
      exact hNone c hc (Name.nameChars_head h.2 c rfl)

mutual

theorem ConjunctPhrase.advances {latitude : Latitude} : ∀ {input rest : List Char},
    ConjunctPhrase latitude input rest → Advances input rest
  | _, _, .compare left sign right =>
      left.advances_operand.trans (sign.advances_operator.trans right.advances_operand)
  | _, _, .between _ left sign middle sign' right =>
      left.advances_operand.trans (sign.advances_operator.trans (middle.advances_operand.trans
        (sign'.advances_operator.trans right.advances_operand)))
  | _, _, .neg sign operand => (sign.advances).trans operand.advances
  | _, _, .group opening inner closing =>
      (opening.advances).trans (inner.advances.trans closing.advances)

theorem FilterPhrase.advances {latitude : Latitude} : ∀ {input rest : List Char},
    FilterPhrase latitude input rest → Advances input rest
  | _, _, .single only => only.advances
  | _, _, .cons first comma others => first.advances.trans ((comma.advances).trans others.advances)

end

end Grammar

namespace Expr

theorem reads_operandPhrase (h : Begins OperandWord input rest) (hRest : Ends operandStops rest) :
    ∃ e, Reads True (token operandParser) input e rest := by
  obtain ⟨word, hWord, hLexeme⟩ := h
  obtain ⟨e, hOperand⟩ := reads_operandWord hWord
  exact ⟨e, Reads.lexeme (fun _ hBlanks => hOperand _ (ends_blanks hBlanks hRest)) hWord.ne_nil
    hWord.solid hLexeme (hRest.mono operandStops_delimiters).solid⟩

theorem ends_operatorPhrase {op : Operator} (h : Begins (OperatorWord op) input rest) :
    Ends operandStops input := by
  obtain ⟨word, rfl | ⟨_, rfl⟩, hLexeme⟩ := h
  · exact ends_symbol hLexeme
  · exact ends_lexeme hLexeme

/-- An operator is read in either spelling in front of an operand. -/
theorem reads_operatorPhrase {op : Operator} (h : Begins (OperatorWord op) input rest)
    (hRest : ∀ c ∈ rest.head?, isBlank c = false ∧ c ∉ ['!', '(', '=']) :
    Reads True (token Operator.parse) input op rest := by
  obtain ⟨word, rfl | ⟨rfl, rfl⟩, hLexeme⟩ := h
  · exact reads_operator hLexeme hRest
  · refine Reads.lexeme (fun blanks hBlanks => Reads.of_eq ?_) (by simp) (by simp [Solid, isBlank])
      hLexeme fun c hc => (hRest c hc).1
    have hNext : ∀ c ∈ (blanks ++ rest).head?, c ≠ '=' := by
      rintro c hc rfl
      cases blanks with
      | nil => exact (hRest _ hc).2 (by simp)
      | cons b blanks =>
          obtain rfl := Option.some.inj hc
          exact absurd (hBlanks '=' (by simp)) (by decide)
    cases hText : blanks ++ rest with
    | nil => rfl
    | cons c text =>
        have hc : ('=' == c) = false :=
          beq_false_of_ne (Ne.symm (hNext c (by rw [hText]; rfl)))
        simp [Operator.parse, Operator.spellings, List.isPrefixOf, List.find?, hc]

theorem reads_compare {op : Operator} {m m' : List Char} (left : Begins OperandWord input m)
    (sign : Begins (OperatorWord op) m m') (right : Begins OperandWord m' rest)
    (hRest : Ends conjunctStops rest) : ∃ e, Reads True comparisonParser input e rest := by
  obtain ⟨a, hLeft⟩ := reads_operandPhrase left (ends_operatorPhrase sign)
  obtain ⟨b, hRight⟩ := reads_operandPhrase right hRest.mono
  refine ⟨.compare op a b, hLeft.bind ?_⟩
  refine (reads_operatorPhrase sign right.operand_head).expecting.cut.bind ?_
  refine hRight.cut.bind (reads_get.bind ?_)
  exact (passes_operator hRest).bind.maybe.bind (reads_pure _)

theorem reads_range {op op' : Operator} {m m' m'' m''' : List Char} (order : op.isOrder = true)
    (order' : op'.isOrder = true) (left : Begins OperandWord input m)
    (sign : Begins (OperatorWord op) m m') (middle : Begins OperandWord m' m'')
    (sign' : Begins (OperatorWord op') m'' m''') (right : Begins OperandWord m''' rest)
    (hRest : Ends conjunctStops rest) : ∃ e, Reads True comparisonParser input e rest := by
  obtain ⟨a, hLeft⟩ := reads_operandPhrase left (ends_operatorPhrase sign)
  obtain ⟨b, hMiddle⟩ := reads_operandPhrase middle (ends_operatorPhrase sign')
  obtain ⟨c, hRight⟩ := reads_operandPhrase right hRest.mono
  refine ⟨.conj (.compare op a b) (.compare op' b c), hLeft.bind ?_⟩
  refine (reads_operatorPhrase sign middle.operand_head).expecting.cut.bind ?_
  refine hMiddle.cut.bind (reads_get.bind ?_)
  have hUpper : Reads True (do
      let op ← token Operator.parse
      return (op, ← cut (token operandParser))) m'' (op', c) rest :=
    (reads_operatorPhrase sign' right.operand_head).bind (hRight.cut.bind (reads_pure _))
  apply hUpper.maybe.bind
  simp only [order, order', Bool.and_self, if_true]
  exact reads_pure _

mutual

/-- A conjunct is read with fuel for its length. -/
theorem reads_conjunctPhrase : ∀ {input rest : List Char},
    ConjunctPhrase .least input rest → Ends conjunctStops rest →
      ∀ n, input.length ≤ n + rest.length → ∃ e, Reads True (conjunctUpTo n) input e rest
  | _, _, .compare left sign right, hRest, n, hn => by
      have hLength := (left.advances_operand.trans
        (sign.advances_operator.trans right.advances_operand)).shorter
      obtain ⟨n, rfl⟩ := Nat.exists_eq_succ_of_ne_zero (n := n) (by omega)
      obtain ⟨e, hRead⟩ := reads_compare left sign right hRest
      exact ⟨e, reads_conjunctWith left.operand_head hRead⟩
  | _, _, .between allowed left sign middle sign' right, hRest, n, hn => by
      have hLength := (ConjunctPhrase.between allowed left sign middle sign' right).advances.shorter
      obtain ⟨n, rfl⟩ := Nat.exists_eq_succ_of_ne_zero (n := n) (by omega)
      obtain ⟨order, order'⟩ := allowed.resolve_left id
      obtain ⟨e, hRead⟩ := reads_range order order' left sign middle sign' right hRest
      exact ⟨e, reads_conjunctWith left.operand_head hRead⟩
  | _, _, .neg sign operand, hRest, n, hn => by
      have hSign := sign.length_lt (by simp)
      have hOperand := operand.advances
      have hShorter := hOperand.shorter
      obtain ⟨n, rfl⟩ := Nat.exists_eq_succ_of_ne_zero (n := n) (by omega)
      obtain ⟨e, hRead⟩ := reads_conjunctPhrase operand hRest n (by omega)
      exact ⟨.neg e, Reads.either
        ((sign.reads_char hOperand.solid).bind (hRead.bind (reads_pure _)))⟩
  | _, _, .group opening inner closing, hRest, n, hn => by
      have hOpening := opening.length_lt (by simp)
      have hShorter := inner.advances.shorter
      have hClosing := closing.length_lt (by simp)
      obtain ⟨n, rfl⟩ := Nat.exists_eq_succ_of_ne_zero (n := n) (by omega)
      obtain ⟨first, others, m, _, hFirst, hOthers⟩ :=
        reads_filterPhrase inner (ends_lexeme closing) n (by omega)
      have hOpen : Ends ['('] _ := ends_lexeme opening
      have hNoNegation := hOpen.passes_char '!'
      have hFilter := reads_filterWith hFirst hOthers (ends_lexeme closing)
      refine ⟨others.foldl .conj first, hNoNegation.bind.either_reads (Reads.either
        ((opening.reads_char inner.advances.solid).bind (hFilter.bind ?_)))⟩
      exact (closing.reads_char hRest.mono.solid).expecting.cut.bind (reads_pure _)

/-- The conjuncts of a filter are read one by one. -/
theorem reads_filterPhrase : ∀ {input rest : List Char},
    FilterPhrase .least input rest → Ends conjunctStops rest →
      ∀ n, input.length ≤ n + rest.length →
        ∃ first others m, m.length < input.length ∧ Reads True (conjunctUpTo n) input first m ∧
          ReadsRun True (token (char ',') >>= fun _ => cut (conjunctUpTo n)) m others rest
  | _, rest, .single only, hRest, n, hn => by
      obtain ⟨e, hRead⟩ := reads_conjunctPhrase only hRest n hn
      exact ⟨e, [], rest, only.advances.shorter, hRead, .nil rest⟩
  | _, _, .cons first comma others, hRest, n, hn => by
      have hFirst := first.advances.shorter
      have hComma := comma.length_lt (by simp)
      have hOthers := others.advances.shorter
      obtain ⟨e, hRead⟩ := reads_conjunctPhrase first (ends_lexeme comma) n (by omega)
      obtain ⟨second, more, m, hShorter, hSecond, hMore⟩ :=
        reads_filterPhrase others hRest n (by omega)
      exact ⟨e, second :: more, _, hFirst, hRead,
        .cons ((comma.reads_char others.advances.solid).bind hSecond.cut) (by omega) hMore⟩

end

/-- A filter is read up to what can stand behind it. -/
theorem reads_filterText (h : FilterPhrase .least input rest)
    (hRest : Ends [')', ';', '\x7d'] rest) : ∃ e, Reads True filterParser input e rest := by
  obtain ⟨first, others, m, _, hFirst, hOthers⟩ :=
    reads_filterPhrase h hRest.mono (input.length + 1) (by omega)
  refine ⟨others.foldl .conj first, ?_⟩
  unfold Reads
  rw [filterParser]
  exact reads_filterWith hFirst hOthers hRest

end Expr

namespace Grammar

/-- Where nothing is left open, a slice is written as the bounds say. -/
theorem SlicePhrase.text (h : SlicePhrase .least input rest) :
    ∃ slice, SliceText slice input rest := by
  cases h with
  | whole opening closing => exact ⟨.whole, .whole opening closing⟩
  | bounded opening bounds closing =>
      cases bounds with
      | usual text => exact ⟨_, .bounded opening text closing⟩
      | bareOpen allowed _ _ _ => exact allowed.elim
      | bareClosed allowed _ _ _ _ => exact allowed.elim

theorem slicesText_of_steps (h : Relation.ReflTransGen (SlicePhrase .least) input rest) :
    ∃ slices, SlicesText slices input rest := by
  induction h using Relation.ReflTransGen.head_induction_on with
  | refl => exact ⟨[], .nil _⟩
  | head hStep _ ih =>
      obtain ⟨slice, hSlice⟩ := hStep.text
      obtain ⟨slices, hSlices⟩ := ih
      exact ⟨slice :: slices, .cons hSlice hSlices⟩

theorem HeadPhrase.advances (h : HeadPhrase .least input rest) : Advances input rest := by
  obtain ⟨m, hName, hSlices⟩ := h
  obtain ⟨slices, hSlices⟩ := slicesText_of_steps hSlices
  exact hName.advances_name.then hSlices.length_le

/-- The name and the slices of a selector are read, also behind blanks. -/
theorem HeadPhrase.reads {blanks stops : List Char} (h : HeadPhrase .least input rest)
    (hBlanks : Blanks blanks) (hRest : Ends stops rest) (hBracket : '[' ∉ stops := by decide)
    (hStops : ∀ c ∈ stops, c ∈ delimiters := by decide) :
    ∃ name slices m, Reads True (token Name.parse) (blanks ++ input) name m ∧
      Reads True (many Slice.parse) m slices rest := by
  obtain ⟨m, hName, hSlices⟩ := h
  obtain ⟨slices, hSlices⟩ := slicesText_of_steps hSlices
  have hDelimiters := hRest.mono hStops
  have hNext := (hSlices.ends hDelimiters).mono
    (by decide : ∀ c ∈ '[' :: delimiters, c ∈ delimiters)
  obtain ⟨name, hRead⟩ := Name.reads_word hName hNext
  exact ⟨name, slices, m, hRead.blanks hBlanks,
    (hSlices.run hDelimiters).many (Slice.passes_slice hRest hBracket hStops)⟩

theorem HeadPhrase.head_ne {latitude : Latitude} (h : HeadPhrase latitude input rest) :
    ∀ c ∈ input.head?, c ≠ '\x7b' := by
  obtain ⟨m, ⟨word, hWord, blanks, _, rfl⟩, _⟩ := h
  obtain ⟨c, cs, rfl⟩ := List.exists_cons_of_ne_nil hWord.1
  rintro d hd rfl
  obtain rfl := Option.some.inj hd
  rcases Name.nameChars_head hWord.2 _ rfl with hPlain | hSlash
  · exact absurd hPlain (by decide)
  · exact absurd hSlash (by decide)

/-- Something optional is taken or nothing. -/
theorem length_le_of_optional {c : Char} (h : input = rest ∨ Lexeme [c] input rest) :
    rest.length ≤ input.length :=
  h.elim (fun h => Nat.le_of_eq (congrArg List.length h.symm))
    fun h => Nat.le_of_lt (h.length_lt (by simp))

mutual

theorem SelectorPhrase.advances : ∀ {input rest : List Char},
    SelectorPhrase .least input rest → Advances input rest
  | _, _, .bare head => head.advances
  | _, _, .path head point field => head.advances.trans ((point.advances).trans field.advances)
  | _, _, .list head point opening fields trailing closing => by
      have hPoint := length_le_of_optional point
      have hOpening := opening.length_lt (by simp)
      have hFields := fields.advances.shorter
      have hTrailing := length_le_of_optional trailing
      have hClosing := closing.length_lt (by simp)
      exact head.advances.then (by omega)

theorem ClausePhrase.advances : ∀ {filtered : Bool} {input rest : List Char},
    ClausePhrase .least filtered input rest → Advances input rest
  | _, _, _, .plain target => target.advances
  | _, _, _, .filtered target bar filter =>
      target.advances.trans ((bar.advances).trans filter.advances)

theorem FieldsPhrase.advances : ∀ {input rest : List Char},
    FieldsPhrase .least input rest → Advances input rest
  | _, _, .last clause => clause.advances
  | _, _, .cons clause sep _ others => by
      have hSep := sep.length_lt (by simp)
      have hOthers := others.advances.shorter
      exact clause.advances.then (by omega)

end

theorem ClausesPhrase.advances (h : ClausesPhrase .least input rest) : Advances input rest := by
  induction h with
  | last clause => exact clause.advances
  | cons clause semicolon _ ih => exact clause.advances.trans ((semicolon.advances).trans ih)

/-- What stands behind the name and the slices that a clause begins with. -/
theorem ClausePhrase.head {latitude : Latitude} {filtered : Bool}
    (h : ClausePhrase latitude filtered input rest) (hRest : Ends headStops rest) :
    ∃ m, HeadPhrase latitude input m ∧ Ends headStops m := by
  have hSelector {m : List Char} (hm : Ends headStops m) (h : SelectorPhrase latitude input m) :
      ∃ m, HeadPhrase latitude input m ∧ Ends headStops m := by
    cases h with
    | bare head => exact ⟨_, head, hm⟩
    | path head point _ => exact ⟨_, head, ends_lexeme point⟩
    | list head point opening _ _ _ =>
        rcases point with rfl | point
        · exact ⟨_, head, ends_lexeme opening⟩
        · exact ⟨_, head, ends_lexeme point⟩
  cases h with
  | plain target => exact hSelector hRest target
  | filtered target bar _ => exact hSelector (ends_lexeme bar) target

theorem SelectorPhrase.passes_fieldsWith {latitude : Latitude}
    (h : SelectorPhrase latitude input rest) (hSolid : Solid input) (p : Parser Selector) :
    Passes (Request.fieldsWith p) input := by
  have hHead {m : List Char} (h : HeadPhrase latitude input m) :
      Passes (Request.fieldsWith p) input :=
    (Passes.token (passes_char h.head_ne) hSolid).bind
  cases h with
  | bare head | path head _ _ | list head _ _ _ _ _ => exact hHead head

end Grammar

namespace Request

/-- No name begins at a delimiter. -/
theorem passes_spelled (h : Ends delimiters input) : Passes Name.spelled input := by
  have hAll : ∀ c ∈ delimiters, Name.isPlain c = false ∧ c ≠ '\\' := by decide
  refine ⟨⟨false, input, []⟩, rfl, ?_⟩
  rw [Name.spelled, Name.split_rest fun c hc => hAll c (h c hc)]

theorem passes_selector (n : Nat) {blanks : List Char} (hBlanks : Blanks blanks)
    (h : Ends delimiters input) : Passes (selectorUpTo n) (blanks ++ input) := by
  cases n with
  | zero => exact ⟨⟨false, blanks ++ input, []⟩, rfl, rfl⟩
  | succ n => exact ((Passes.token (passes_spelled h).bind h.solid).blanks hBlanks).bind

/-- What a separator says about the clause in front of it. -/
theorem separator_ends {c : Char} {filtered : Bool} (sep : Lexeme [c] input rest)
    (allowed : c = ';' ∨ c = ',' ∧ (filtered = false ∨ Latitude.least.commaAfterFilter)) :
    c ∈ [';', ','] ∧ isBlank c = false ∧ Ends [';', ',', '\x7d'] input ∧
      (filtered = true → Ends [';', '\x7d'] input) := by
  rcases allowed with rfl | ⟨rfl, allowed⟩
  · exact ⟨by decide, by decide, ends_lexeme sep, fun _ => ends_lexeme sep⟩
  · have hPlain := allowed.resolve_right id
    exact ⟨by decide, by decide, ends_lexeme sep,
      fun hFiltered => absurd hPlain (by simp [hFiltered])⟩

/-- A list of fields is read if its clauses are, also with a semicolon at its end. -/
theorem reads_fieldList {n : Nat} {first : Clause} {others : List Clause}
    {m m' m'' m''' : List Char} (opening : Lexeme ['\x7b'] input m) (hSolid : Solid m)
    (hFirst : Reads True (clauseWith (selectorUpTo n)) m first m')
    (hOthers : ReadsRun True (token (oneOf [';', ',']) >>= fun _ => clauseWith (selectorUpTo n)) m'
      others m'')
    (trailing : m'' = m''' ∨ Lexeme [';'] m'' m''') (closing : Lexeme ['\x7d'] m''' rest)
    (hRest : Solid rest) :
    ∃ fields, Reads True (fieldsWith (selectorUpTo n)) input fields rest := by
  rcases trailing with rfl | trailing
  · exact ⟨_, reads_fieldsWith opening hSolid hFirst hOthers closing hRest⟩
  · have hEnd : Ends ['\x7d'] m''' := ends_lexeme closing
    have hNoClause : Passes (clauseWith (selectorUpTo n)) m''' :=
      (passes_selector n Blanks.nil hEnd.mono).bind
    have hSemicolon : Reads True (token (oneOf [';', ','])) m'' ';' m''' :=
      trailing.reads_oneOf (by decide) (by decide) hEnd.mono.solid
    have hSeparated : Reads True (separated (token (oneOf [';', ',']))
        (clauseWith (selectorUpTo n))) m (first :: others) m'' :=
      hFirst.bind ((hOthers.many (hNoClause.bind_of_ok hSemicolon.eq)).bind (reads_pure _))
    have hClauses : Reads True (do
        let fields ← separated (token (oneOf [';', ','])) (clauseWith (selectorUpTo n))
        let _ ← maybe (token (char ';'))
        return fields) m (first :: others) m''' :=
      hSeparated.bind ((trailing.reads_char hEnd.mono.solid).maybe.bind (reads_pure _))
    refine ⟨first :: others, (opening.reads_char hSolid).bind (hClauses.cut.bind ?_)⟩
    exact (closing.reads_char hRest).expecting.cut.bind (reads_pure _)

mutual

/-- A selector is read with fuel for its length, also behind blanks. -/
theorem reads_selectorPhrase : ∀ {input rest : List Char},
    SelectorPhrase .least input rest → Ends selectorStops rest →
      ∀ (n : Nat) (blanks : List Char), Blanks blanks → input.length ≤ n + rest.length →
        ∃ selector, Reads True (selectorUpTo n) (blanks ++ input) selector rest
  | _, _, .bare head, hRest, n, blanks, hBlanks, hn => by
      have hHead := head.advances.shorter
      obtain ⟨n, rfl⟩ := Nat.exists_eq_succ_of_ne_zero (n := n) (by omega)
      obtain ⟨name, slices, m, hName, hSlices⟩ := head.reads hBlanks hRest
      have hNoPoint := hRest.passes_char '.'
      have hNoFields := passes_fieldsWith (selectorUpTo n) hRest
      exact ⟨.mk name slices none [], hName.bind (hSlices.bind (hNoFields.maybe.bind
        (hNoPoint.maybe.bind (reads_pure _))))⟩
  | _, _, .path head point field, hRest, n, blanks, hBlanks, hn => by
      have hHead := head.advances.shorter
      have hPoint := point.length_lt (by simp)
      have hField := field.advances
      have hShorter := hField.shorter
      obtain ⟨n, rfl⟩ := Nat.exists_eq_succ_of_ne_zero (n := n) (by omega)
      have hEnd : Ends ['.'] _ := ends_lexeme point
      obtain ⟨name, slices, m, hName, hSlices⟩ := head.reads hBlanks hEnd
      have hNoFields := passes_fieldsWith (selectorUpTo n) hEnd
      have hNoFields' := field.passes_fieldsWith hField.solid (selectorUpTo n)
      obtain ⟨child, hRead⟩ := reads_selectorPhrase field hRest n [] Blanks.nil (by omega)
      refine ⟨.mk name slices (some child) [], hName.bind (hSlices.bind
        (hNoFields.maybe.bind ?_))⟩
      refine (point.reads_char hField.solid).maybe.bind (hNoFields'.maybe.bind ?_)
      exact hRead.expecting.cut.bind (reads_pure _)
  | _, _, .list head point opening fields trailing closing, hRest, n, blanks, hBlanks, hn => by
      have hHead := head.advances.shorter
      have hPoint := length_le_of_optional point
      have hOpening := opening.length_lt (by simp)
      have hTrailing := length_le_of_optional trailing
      have hClosing := closing.length_lt (by simp)
      have hFields := fields.advances
      have hShorter := hFields.shorter
      obtain ⟨n, rfl⟩ := Nat.exists_eq_succ_of_ne_zero (n := n) (by omega)
      have hEnd : Ends [';', '\x7d'] _ := trailing.elim
        (fun h => h ▸ ends_lexeme closing) fun h => ends_lexeme h
      obtain ⟨first, others, m, _, hFirst, hOthers⟩ := reads_fieldsPhrase fields hEnd n (by omega)
      obtain ⟨clauses, hList⟩ :=
        reads_fieldList opening hFields.solid hFirst hOthers trailing closing hRest.mono.solid
      rcases point with rfl | point
      · have hOpen : Ends ['\x7b'] _ := ends_lexeme opening
        obtain ⟨name, slices, m, hName, hSlices⟩ := head.reads hBlanks hOpen
        exact ⟨.mk name slices none clauses, hName.bind (hSlices.bind (hList.maybe.bind
          (reads_pure _)))⟩
      · have hPointed : Ends ['.'] _ := ends_lexeme point
        obtain ⟨name, slices, m, hName, hSlices⟩ := head.reads hBlanks hPointed
        have hNoFields := passes_fieldsWith (selectorUpTo n) hPointed
        refine ⟨.mk name slices none clauses, hName.bind (hSlices.bind
          (hNoFields.maybe.bind ?_))⟩
        refine (point.reads_char (solid_of_lexeme opening)).maybe.bind ?_
        exact hList.maybe.bind (reads_pure _)

/-- The same for a clause. It ends at a comma only if it has no filter. -/
theorem reads_clausePhrase : ∀ {filtered : Bool} {input rest : List Char},
    ClausePhrase .least filtered input rest → Ends [';', ',', '\x7d'] rest →
      (filtered = true → Ends [';', '\x7d'] rest) →
        ∀ (n : Nat) (blanks : List Char), Blanks blanks → input.length ≤ n + rest.length →
          ∃ clause, Reads True (clauseWith (selectorUpTo n)) (blanks ++ input) clause rest
  | _, _, _, .plain target, hRest, _, n, blanks, hBlanks, hn => by
      have hNoBar := hRest.passes_char '|'
      obtain ⟨selector, hRead⟩ := reads_selectorPhrase target hRest.mono n blanks hBlanks hn
      exact ⟨.mk selector none, hRead.bind (hNoBar.bind.maybe.bind (reads_pure _))⟩
  | _, _, _, .filtered target bar filter, _, hFiltered, n, blanks, hBlanks, hn => by
      have hBar := bar.length_lt (by simp)
      have hFilter := filter.advances
      have hShorter := hFilter.shorter
      obtain ⟨selector, hRead⟩ :=
        reads_selectorPhrase target (ends_lexeme bar) n blanks hBlanks (by omega)
      obtain ⟨e, hFilterRead⟩ := Expr.reads_filterText filter (hFiltered rfl).mono
      refine ⟨.mk selector (some e), hRead.bind (Reads.bind (a := some e) ?_ (reads_pure _))⟩
      exact ((bar.reads_char hFilter.solid).bind hFilterRead.cut).maybe

/-- The clauses of a list of fields are read one by one. -/
theorem reads_fieldsPhrase : ∀ {input rest : List Char},
    FieldsPhrase .least input rest → Ends [';', '\x7d'] rest →
      ∀ n, input.length ≤ n + rest.length →
        ∃ first others m, m.length < input.length ∧
          Reads True (clauseWith (selectorUpTo n)) input first m ∧
            ReadsRun True (token (oneOf [';', ',']) >>= fun _ => clauseWith (selectorUpTo n)) m
              others rest
  | _, rest, .last clause, hRest, n, hn => by
      obtain ⟨first, hRead⟩ :=
        reads_clausePhrase clause hRest.mono (fun _ => hRest) n [] Blanks.nil hn
      exact ⟨first, [], rest, clause.advances.shorter, hRead, .nil rest⟩
  | _, _, .cons clause sep allowed others, hRest, n, hn => by
      have hClause := clause.advances.shorter
      have hSep := sep.length_lt (by simp)
      have hOthers := others.advances
      have hShorter := hOthers.shorter
      obtain ⟨second, more, m, hLess, hSecond, hMore⟩ :=
        reads_fieldsPhrase others hRest n (by omega)
      obtain ⟨hMem, hBlank, hEnd, hFiltered⟩ := separator_ends sep allowed
      obtain ⟨first, hRead⟩ :=
        reads_clausePhrase clause hEnd hFiltered n [] Blanks.nil (by omega)
      exact ⟨first, second :: more, _, hClause, hRead,
        .cons ((sep.reads_oneOf hMem hBlank hOthers.solid).bind hSecond) (by omega) hMore⟩

end

/-- A clause is read, also behind blanks. -/
theorem reads_clauseText {filtered : Bool} {blanks : List Char}
    (h : ClausePhrase .least filtered input rest) (hBlanks : Blanks blanks)
    (hRest : Ends [';'] rest) :
    ∃ clause, Reads True clauseParser (blanks ++ input) clause rest := by
  obtain ⟨clause, hRead⟩ := reads_clausePhrase h hRest.mono (fun _ => hRest.mono)
    ((blanks ++ input).length + 1) blanks hBlanks (by simp only [List.length_append]; omega)
  refine ⟨clause, ?_⟩
  unfold Reads
  rw [clauseParser]
  exact hRead

theorem passes_clause {blanks : List Char} (hBlanks : Blanks blanks) (h : Ends [';'] input) :
    Passes clauseParser (blanks ++ input) :=
  (passes_selector ((blanks ++ input).length + 1) hBlanks h.mono).bind

/-- Clauses with semicolons between them are read one by one. -/
theorem reads_clausesPhrase {blanks : List Char} (h : ClausesPhrase .least input rest)
    (hBlanks : Blanks blanks) (hRest : Ends [';'] rest) :
    ∃ first others m, m.length < input.length ∧ Reads True clauseParser (blanks ++ input) first m ∧
      ReadsRun True (token (char ';') >>= fun _ => clauseParser) m others rest := by
  induction h generalizing blanks with
  | @last _ input rest clause =>
      obtain ⟨first, hRead⟩ := reads_clauseText clause hBlanks hRest
      exact ⟨first, [], rest, clause.advances.shorter, hRead, .nil rest⟩
  | @cons _ input m m' rest clause semicolon others ih =>
      obtain ⟨second, more, m'', hShorter, hSecond, hMore⟩ := ih Blanks.nil hRest
      obtain ⟨first, hRead⟩ := reads_clauseText clause hBlanks (ends_lexeme semicolon)
      have hSemicolon := semicolon.length_lt (by simp)
      exact ⟨first, second :: more, m, clause.advances.shorter, hRead,
        .cons ((semicolon.reads_char others.advances.solid).bind hSecond) (by omega) hMore⟩

/-- What one resize with its semicolon is read by. -/
def resizeStep : Parser Resize := do
  let resize ← token resizeParser
  let _ ← token (char ';')
  return resize

/-- The assignment of a slice to a dimension is read, also behind blanks. -/
theorem reads_resizePhrase {blanks : List Char} (h : ResizePhrase .least input rest)
    (hBlanks : Blanks blanks) (hRest : Solid rest) :
    ∃ resize, Reads True resizeStep (blanks ++ input) resize rest := by
  obtain ⟨m, m', m'', ⟨word, hWord, blanks', hBlanks', rfl⟩, hSign, hSlice, hSemicolon⟩ := h
  obtain ⟨slice, hSlice⟩ := hSlice.text
  obtain ⟨spelled, hSpelled⟩ := Name.reads_spelledWord hWord
  have hEnd : Ends delimiters m := ends_lexeme hSign
  have hName : Reads True Name.parse (word ++ (blanks' ++ m)) spelled.1 (blanks' ++ m) :=
    (hSpelled _ (ends_blanks hBlanks' hEnd)).bind (reads_pure _)
  have hResize := reads_resizeWord hWord.1 (Name.solid_nameChars hWord.2) hBlanks' hName hSign
    hSlice (ends_lexeme hSemicolon)
  exact ⟨⟨spelled.1, slice⟩, (hResize.blanks hBlanks).bind
    ((hSemicolon.reads_char hRest).bind (reads_pure _))⟩

theorem advances_resize (h : ResizePhrase .least input rest) : Advances input rest := by
  obtain ⟨m, m', m'', hName, hSign, hSlice, hSemicolon⟩ := h
  obtain ⟨slice, hSlice⟩ := hSlice.text
  have hSign := hSign.length_lt (by simp)
  have hSlice := hSlice.length_lt
  have hSemicolon := hSemicolon.length_lt (by simp)
  exact hName.advances_name.then (by omega)

/-- The resizes in front of a request are read one by one. Blanks are skipped with the first. -/
theorem reads_resizeSteps {blanks : List Char}
    (h : Relation.ReflTransGen (ResizePhrase .least) input rest) (hBlanks : Blanks blanks)
    (hRest : Solid rest) : ∃ resizes blanks', Blanks blanks' ∧
      ReadsRun True resizeStep (blanks ++ input) resizes (blanks' ++ rest) := by
  induction h using Relation.ReflTransGen.head_induction_on generalizing blanks with
  | refl => exact ⟨[], blanks, hBlanks, .nil _⟩
  | @head input m hStep hOthers ih =>
      obtain ⟨resizes, blanks', hBlanks', hRun⟩ := ih Blanks.nil
      have hSolid : Solid m := by
        rcases hOthers.cases_head with rfl | ⟨_, hNext, _⟩
        · exact hRest
        · exact (advances_resize hNext).solid
      obtain ⟨resize, hResize⟩ := reads_resizePhrase hStep hBlanks hSolid
      have hShorter := (advances_resize hStep).shorter
      refine ⟨resize :: resizes, blanks', hBlanks', .cons hResize ?_ hRun⟩
      simp only [List.length_append]
      omega

/-- Behind the name of a clause stands no sign of equality. -/
theorem passes_resizeStep {filtered : Bool} {blanks : List Char}
    (h : ClausePhrase .least filtered input rest) (hBlanks : Blanks blanks)
    (hRest : Ends [';'] rest) : Passes resizeStep (blanks ++ input) := by
  obtain ⟨m, ⟨m', ⟨word, hWord, blanks', hBlanks', rfl⟩, hSlices⟩, hEnd⟩ := h.head hRest.mono
  obtain ⟨slices, hSlices⟩ := slicesText_of_steps hSlices
  obtain ⟨spelled, hSpelled⟩ := Name.reads_spelledWord hWord
  have hName : Reads True Name.parse (word ++ (blanks' ++ m')) spelled.1 (blanks' ++ m') :=
    (hSpelled _ (ends_blanks hBlanks' (hSlices.ends hEnd).mono)).bind (reads_pure _)
  have hNoResize := passes_resizeWord hWord.1 (Name.solid_nameChars hWord.2) hBlanks' hName hSlices
    hEnd
  exact (hNoResize.blanks hBlanks).bind

/-- A semicolon may be left at the end, and blanks. -/
theorem reads_trailing {blanks : List Char} (hBlanks : Blanks blanks)
    (h : input = [] ∨ Lexeme [';'] input []) (request : Request) :
    Reads True
      (do
        let _ ← maybe (token (char ';'))
        skipBlanks
        return request) (blanks ++ input) request [] := by
  rcases h with rfl | h
  · rw [List.append_nil]
    exact reads_end hBlanks request
  · have hSkip : Reads True skipBlanks [] () [] := reads_skipBlanks
    exact ((h.reads_char solid_nil).blanks hBlanks).maybe.bind (hSkip.bind (reads_pure _))

/-- A sentence that leaves nothing open is read. -/
theorem reads_sentence {text : List Char} (h : Sentence .least text) :
    ∃ request, Reads True parser text request [] := by
  obtain ⟨blanks, input, m, m', hBlanks, rfl, hResizes, hClauses, hTrailing⟩ := h
  have hEnd : Ends [';'] m' := by
    rcases hTrailing with rfl | hSemicolon
    · exact ends_nil
    · exact ends_lexeme hSemicolon
  rcases hClauses with rfl | hClauses
  · obtain ⟨resizes, blanks', hBlanks', hRun⟩ :=
      reads_resizeSteps hResizes hBlanks hEnd.mono.solid
    have hNoResize : Passes resizeStep (blanks' ++ m) :=
      ((Passes.token (passes_spelled hEnd.mono).bind.bind hEnd.mono.solid).blanks hBlanks').bind
    have hNoClause : Passes (separated (token (char ';')) clauseParser) (blanks' ++ m) :=
      (passes_clause hBlanks' hEnd).bind
    exact ⟨⟨resizes, []⟩, (hRun.many hNoResize).bind (hNoClause.maybe.bind
      (reads_trailing hBlanks' hTrailing _))⟩
  · obtain ⟨resizes, blanks', hBlanks', hRun⟩ :=
      reads_resizeSteps hResizes hBlanks hClauses.advances.solid
    obtain ⟨first, others, m'', _, hFirst, hOthers⟩ := reads_clausesPhrase hClauses hBlanks' hEnd
    have hNoResize : Passes resizeStep (blanks' ++ m) := by
      cases hClauses with
      | last clause => exact passes_resizeStep clause hBlanks' hEnd
      | cons clause semicolon _ => exact passes_resizeStep clause hBlanks' (ends_lexeme semicolon)
    have hNoMore : Passes (token (char ';') >>= fun _ => clauseParser) m' := by
      rcases hTrailing with rfl | hSemicolon
      · exact (ends_nil.passes_char ';' List.not_mem_nil (by simp)).bind
      · have hRead : Reads True (token (char ';')) m' ';' [] := hSemicolon.reads_char solid_nil
        exact (passes_clause Blanks.nil ends_nil).bind_of_ok hRead.eq
    have hSeparated : Reads True (separated (token (char ';')) clauseParser) (blanks' ++ m)
        (first :: others) m' :=
      hFirst.bind ((hOthers.many hNoMore).bind (reads_pure _))
    exact ⟨⟨resizes, first :: others⟩, (hRun.many hNoResize).bind (hSeparated.maybe.bind
      (reads_trailing Blanks.nil hTrailing _))⟩

end Request

end Hyperslab
