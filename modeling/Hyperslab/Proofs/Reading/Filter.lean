import Hyperslab.Proofs.Reading.Literal

/-! Filters as requests write them, with any blanks around their tokens, and how they are read. How
constants are written is left open: `literal v word` says that `word` stands for `v`. -/
namespace Hyperslab

/-- The constants of a filter, from left to right. -/
def Expr.constants : Expr → List Value
  | .constant v => [v]
  | .field _ => []
  | .compare _ a b => a.constants ++ b.constants
  | .conj a b => a.constants ++ b.constants
  | .neg a => a.constants

namespace Grammar

variable {literal : Value → List Char → Prop}

/-- An operand of a comparison. -/
inductive OperandText (literal : Value → List Char → Prop) :
    Expr → List Char → List Char → Prop where
  | constant {v : Value} {word input rest : List Char} (spelled : literal v word)
      (text : Lexeme word input rest) : OperandText literal (.constant v) input rest
  | field {name : String} {input rest : List Char} (named : name ≠ "")
      (text : Lexeme (Name.escape name.toList) input rest) :
      OperandText literal (.field name) input rest

mutual

/-- What stands between the commas of a filter. A range is written for the two comparisons that it
stands for. -/
inductive ConjunctText (literal : Value → List Char → Prop) :
    Expr → List Char → List Char → Prop where
  | compare {op : Operator} {a b : Expr} {input m m' rest : List Char}
      (left : OperandText literal a input m) (sign : Lexeme op.symbol.toList m m')
      (right : OperandText literal b m' rest) : ConjunctText literal (.compare op a b) input rest
  | between {op op' : Operator} {a b c : Expr} {input m m' m'' m''' rest : List Char}
      (order : op.isOrder = true) (order' : op'.isOrder = true)
      (left : OperandText literal a input m) (sign : Lexeme op.symbol.toList m m')
      (middle : OperandText literal b m' m'') (sign' : Lexeme op'.symbol.toList m'' m''')
      (right : OperandText literal c m''' rest) :
      ConjunctText literal (.conj (.compare op a b) (.compare op' b c)) input rest
  | neg {e : Expr} {input m rest : List Char} (sign : Lexeme ['!'] input m)
      (operand : ConjunctText literal e m rest) : ConjunctText literal (.neg e) input rest
  | group {e : Expr} {input m m' rest : List Char} (opening : Lexeme ['('] input m)
      (inner : FilterText literal e m m') (closing : Lexeme [')'] m' rest) :
      ConjunctText literal e input rest

/-- Conjuncts with commas between them. -/
inductive FilterText (literal : Value → List Char → Prop) :
    Expr → List Char → List Char → Prop where
  | single {e : Expr} {input rest : List Char} (only : ConjunctText literal e input rest) :
      FilterText literal e input rest
  | conj {a b : Expr} {input m m' rest : List Char} (left : FilterText literal a input m)
      (comma : Lexeme [','] m m') (right : ConjunctText literal b m' rest) :
      FilterText literal (.conj a b) input rest

end

end Grammar

namespace Operator

open Hyperslab.Parser Grammar

variable {strict : Prop} {input rest m : List Char}

/-- An operator is read up to what does not make it longer. -/
theorem reads_symbol (op : Operator) (hm : ∀ c ∈ m.head?, c ≠ '=') :
    Reads strict Operator.parse (op.symbol.toList ++ m) op m := by
  apply Reads.of_eq
  cases m with
  | nil => cases op <;> rfl
  | cons c m =>
      have hc : ('=' == c) = false := beq_false_of_ne (Ne.symm (hm c (by simp)))
      cases op with
      | lt | gt => simp [Operator.parse, spellings, symbol, List.isPrefixOf, List.find?, hc]
      | _ => rfl

theorem passes_symbol (h : ∀ c ∈ input.head?, c ∉ ['<', '>', '=', '!', '~']) :
    Passes Operator.parse input := by
  refine ⟨⟨false, input, []⟩, rfl, ?_⟩
  cases input with
  | nil => rfl
  | cons c input =>
      have hNone : ∀ d ∈ ['<', '>', '=', '!', '~'], (d == c) = false := by
        intro d hd
        exact beq_false_of_ne fun hEq => h c (by simp) (hEq ▸ hd)
      simp [Operator.parse, spellings, List.isPrefixOf, List.find?, hNone]

end Operator

namespace Grammar

open Hyperslab.Parser

variable {strict : Prop} {literal : Value → List Char → Prop} {e : Expr} {input rest : List Char}

/-- What is written for the given constants is read as them. -/
def Legible (strict : Prop) (literal : Value → List Char → Prop) (vs : List Value) : Prop :=
  ∀ v ∈ vs, ∀ word, literal v word → Value.LiteralText strict v word

theorem Legible.left {vs ws : List Value} (h : Legible strict literal (vs ++ ws)) :
    Legible strict literal vs :=
  fun v hv => h v (List.mem_append_left ws hv)

theorem Legible.right {vs ws : List Value} (h : Legible strict literal (vs ++ ws)) :
    Legible strict literal ws :=
  fun v hv => h v (List.mem_append_right vs hv)

/-- An operand begins with no blank and with nothing that begins a conjunct of another kind or
makes an operator longer. -/
theorem OperandText.head (h : OperandText literal e input rest)
    (hLegible : Legible strict literal e.constants) :
    ∀ c ∈ input.head?, isBlank c = false ∧ c ∉ ['!', '(', '='] := by
  cases h with
  | constant spelled text =>
      have hLiteral := hLegible _ (by simp [Expr.constants]) _ spelled
      obtain ⟨c, cs, rfl⟩ := List.exists_cons_of_ne_nil hLiteral.ne_nil
      obtain ⟨blanks, _, rfl⟩ := text
      simpa using hLiteral.head
  | field named text =>
      obtain ⟨blanks, _, rfl⟩ := text
      obtain ⟨c, cs, hCons⟩ := List.exists_cons_of_ne_nil
        (Name.escape_ne_nil (mt String.toList_eq_nil_iff.mp named))
      have hHead := Name.escape_head _ c (by rw [hCons]; simp)
      have hSolid := Name.escape_solid _ c (by rw [hCons]; simp)
      rw [hCons]
      simp only [List.cons_append, List.head?_cons, Option.mem_some_iff, forall_eq']
      refine ⟨hSolid, ?_⟩
      intro hc
      have hNone : ∀ d ∈ ['!', '(', '='], ¬(Name.isPlain d = true ∨ d = '\\') := by decide
      exact hNone c hc hHead

theorem OperandText.length_lt (h : OperandText literal e input rest)
    (hLegible : Legible strict literal e.constants) : rest.length < input.length := by
  cases h with
  | constant spelled text =>
      exact text.length_lt (hLegible _ (by simp [Expr.constants]) _ spelled).ne_nil
  | field named text => exact text.length_lt (Name.escape_ne_nil (by simpa using named))

theorem symbol_ne_nil (op : Operator) : op.symbol.toList ≠ [] := by
  cases op <;> decide

mutual

theorem ConjunctText.length_lt : ∀ {e : Expr} {input rest : List Char},
    ConjunctText literal e input rest → Legible strict literal e.constants →
      rest.length < input.length
  | _, _, _, .compare left sign right, hLegible => by
      have hLeft := left.length_lt hLegible.left
      have hSign := sign.length_lt (symbol_ne_nil _)
      have hRight := right.length_lt hLegible.right
      omega
  | _, _, _, .between _ _ left sign middle sign' right, hLegible => by
      have hLeft := left.length_lt hLegible.left.left
      have hSign := sign.length_lt (symbol_ne_nil _)
      have hMiddle := middle.length_lt hLegible.left.right
      have hSign' := sign'.length_lt (symbol_ne_nil _)
      have hRight := right.length_lt hLegible.right.right
      omega
  | _, _, _, .neg sign operand, hLegible => by
      have hSign := sign.length_lt (by simp)
      have hOperand := operand.length_lt hLegible
      omega
  | _, _, _, .group opening inner closing, hLegible => by
      have hOpening := opening.length_lt (by simp)
      have hInner := inner.length_lt hLegible
      have hClosing := closing.length_lt (by simp)
      omega

theorem FilterText.length_lt : ∀ {e : Expr} {input rest : List Char},
    FilterText literal e input rest → Legible strict literal e.constants →
      rest.length < input.length
  | _, _, _, .single only, hLegible => only.length_lt hLegible
  | _, _, _, .conj left comma right, hLegible => by
      have hLeft := left.length_lt hLegible.left
      have hComma := comma.length_lt (by simp)
      have hRight := right.length_lt hLegible.right
      omega

end

theorem solid_of_lexeme {c : Char} (h : Lexeme [c] input rest)
    (hc : isBlank c = false := by decide) : Solid input := by
  obtain ⟨blanks, _, rfl⟩ := h
  simpa [Solid] using hc

mutual

theorem ConjunctText.solid : ∀ {e : Expr} {input rest : List Char},
    ConjunctText literal e input rest → Legible strict literal e.constants → Solid input
  | _, _, _, .compare left _ _, hLegible => fun c hc => (left.head hLegible.left c hc).1
  | _, _, _, .between _ _ left _ _ _ _, hLegible =>
      fun c hc => (left.head hLegible.left.left c hc).1
  | _, _, _, .neg sign _, _ => solid_of_lexeme sign
  | _, _, _, .group opening _ _, _ => solid_of_lexeme opening

theorem FilterText.solid : ∀ {e : Expr} {input rest : List Char},
    FilterText literal e input rest → Legible strict literal e.constants → Solid input
  | _, _, _, .single only, hLegible => only.solid hLegible
  | _, _, _, .conj left _ _, hLegible => left.solid hLegible.left

end

end Grammar

namespace Expr

open Hyperslab.Parser Grammar

variable {strict : Prop} {literal : Value → List Char → Prop} {e : Expr} {input rest : List Char}

theorem reads_operand (h : OperandText literal e input rest)
    (hLegible : Legible strict literal e.constants) (hRest : Ends operandStops rest) :
    Reads strict (token operandParser) input e rest := by
  have hSolid : Solid rest := (hRest.mono operandStops_delimiters).solid
  cases h with
  | constant spelled text =>
      have hLiteral := hLegible _ (by simp [constants]) _ spelled
      exact Reads.lexeme (fun _ hBlanks => hLiteral.reads _ (ends_blanks hBlanks hRest))
        hLiteral.ne_nil (fun c hc => (hLiteral.head c hc).1) text hSolid
  | field named text =>
      exact Reads.lexeme
        (fun _ hBlanks => reads_field named (Name.ends_name (ends_blanks hBlanks hRest).mono))
        (Name.escape_ne_nil (by simpa using named)) (Name.escape_solid _) text hSolid

/-- What can stand behind a conjunct, blanks apart. -/
def conjunctStops : List Char := [',', ')', ';', '\x7d']

theorem ends_symbol {op : Operator} (h : Lexeme op.symbol.toList input rest) :
    Ends operandStops input := by
  obtain ⟨blanks, _, rfl⟩ := h
  cases op <;> exact ends_cons (by decide)

theorem reads_operator {op : Operator} (h : Lexeme op.symbol.toList input rest)
    (hRest : ∀ c ∈ rest.head?, isBlank c = false ∧ c ∉ ['!', '(', '=']) :
    Reads strict (token Operator.parse) input op rest := by
  refine Reads.lexeme (fun blanks hBlanks => Operator.reads_symbol op fun c hc hEq => ?_)
    (symbol_ne_nil op) ?_ h fun c hc => (hRest c hc).1
  · cases blanks with
    | nil => exact (hRest c hc).2 (by simp [hEq])
    | cons b blanks =>
        have hb := hBlanks b (by simp)
        simp only [List.cons_append, List.head?_cons, Option.mem_some_iff] at hc
        rw [hc, hEq] at hb
        exact absurd hb (by decide)
  · cases op <;> simp [Solid, Operator.symbol, isBlank]

theorem passes_operator (h : Ends conjunctStops input) : Passes (token Operator.parse) input := by
  have hNone : ∀ c ∈ conjunctStops, c ∉ ['<', '>', '=', '!', '~'] := by decide
  exact Passes.token (Operator.passes_symbol fun c hc => hNone c (h c hc))
    h.mono.solid

theorem reads_comparison {op : Operator} {a b : Expr} {m m' : List Char}
    (left : OperandText literal a input m) (sign : Lexeme op.symbol.toList m m')
    (right : OperandText literal b m' rest) (hLeft : Legible strict literal a.constants)
    (hRight : Legible strict literal b.constants) (hRest : Ends conjunctStops rest) :
    Reads strict comparisonParser input (.compare op a b) rest := by
  refine (reads_operand left hLeft (ends_symbol sign)).bind ?_
  refine (reads_operator sign (right.head hRight)).expecting.cut.bind ?_
  refine (reads_operand right hRight hRest.mono).cut.bind (reads_get.bind ?_)
  exact (passes_operator hRest).bind.maybe.bind (reads_pure _)

theorem reads_between {op op' : Operator} {a b c : Expr} {m m' m'' m''' : List Char}
    (order : op.isOrder = true) (order' : op'.isOrder = true)
    (left : OperandText literal a input m) (sign : Lexeme op.symbol.toList m m')
    (middle : OperandText literal b m' m'') (sign' : Lexeme op'.symbol.toList m'' m''')
    (right : OperandText literal c m''' rest) (hLeft : Legible strict literal a.constants)
    (hMiddle : Legible strict literal b.constants) (hRight : Legible strict literal c.constants)
    (hRest : Ends conjunctStops rest) :
    Reads strict comparisonParser input (.conj (.compare op a b) (.compare op' b c)) rest := by
  refine (reads_operand left hLeft (ends_symbol sign)).bind ?_
  refine (reads_operator sign (middle.head hMiddle)).expecting.cut.bind ?_
  refine (reads_operand middle hMiddle (ends_symbol sign')).cut.bind (reads_get.bind ?_)
  have hUpper : Reads strict (do
      let op ← token Operator.parse
      return (op, ← cut (token operandParser))) m'' (op', c) rest :=
    (reads_operator sign' (right.head hRight)).bind
      ((reads_operand right hRight hRest.mono).cut.bind (reads_pure _))
  apply hUpper.maybe.bind
  simp only [order, order', Bool.and_self, if_true]
  exact reads_pure _

theorem passes_lexeme {c : Char} (hHead : ∀ d ∈ input.head?, isBlank d = false ∧ d ≠ c) :
    Passes (token (char c)) input :=
  Passes.token (passes_char fun d hd => (hHead d hd).2) fun d hd => (hHead d hd).1

/-- A conjunct that begins with an operand is a comparison. -/
theorem reads_conjunctWith {conjunct : Parser Expr}
    (hHead : ∀ c ∈ input.head?, isBlank c = false ∧ c ∉ ['!', '(', '='])
    (h : Reads strict comparisonParser input e rest) :
    Reads strict (conjunctWith conjunct) input e rest := by
  have hNoNegation : Passes (token (char '!')) input :=
    passes_lexeme fun c hc => ⟨(hHead c hc).1, by rintro rfl; exact (hHead _ hc).2 (by simp)⟩
  have hNoGroup : Passes (token (char '(')) input :=
    passes_lexeme fun c hc => ⟨(hHead c hc).1, by rintro rfl; exact (hHead _ hc).2 (by simp)⟩
  exact hNoNegation.bind.either_reads (hNoGroup.bind.either_reads h)

theorem reads_filterWith {conjunct : Parser Expr} {first : Expr} {others : List Expr}
    {m : List Char} (hFirst : Reads strict conjunct input first m)
    (hOthers : ReadsRun strict (token (char ',') >>= fun _ => cut conjunct) m others rest)
    (hRest : Ends [')', ';', '\x7d'] rest) :
    Reads strict (filterWith conjunct) input (others.foldl .conj first) rest := by
  have hNoComma := hRest.passes_char ','
  exact hFirst.bind ((hOthers.many hNoComma.bind).bind (reads_pure _))

mutual

/-- A conjunct is read with fuel for its length. -/
theorem reads_conjunct : ∀ {e : Expr} {input rest : List Char},
    ConjunctText literal e input rest → Legible strict literal e.constants →
      Ends conjunctStops rest → ∀ n, input.length ≤ n + rest.length →
        Reads strict (conjunctUpTo n) input e rest
  | _, _, _, .compare left sign right, hLegible, hRest, n, hn => by
      have hLength := (ConjunctText.compare left sign right).length_lt hLegible
      obtain ⟨n, rfl⟩ := Nat.exists_eq_succ_of_ne_zero (n := n) (by omega)
      exact reads_conjunctWith (left.head hLegible.left)
        (reads_comparison left sign right hLegible.left hLegible.right hRest)
  | _, _, _, .between order order' left sign middle sign' right, hLegible, hRest, n, hn => by
      have hLength :=
        (ConjunctText.between order order' left sign middle sign' right).length_lt hLegible
      obtain ⟨n, rfl⟩ := Nat.exists_eq_succ_of_ne_zero (n := n) (by omega)
      exact reads_conjunctWith (left.head hLegible.left.left)
        (reads_between order order' left sign middle sign' right hLegible.left.left
          hLegible.left.right hLegible.right.right hRest)
  | _, _, _, .neg sign operand, hLegible, hRest, n, hn => by
      have hSign := sign.length_lt (by simp)
      have hOperand := operand.length_lt hLegible
      obtain ⟨n, rfl⟩ := Nat.exists_eq_succ_of_ne_zero (n := n) (by omega)
      have hRead := reads_conjunct operand hLegible hRest n (by omega)
      apply Reads.either
      exact (sign.reads_char (operand.solid hLegible)).bind (hRead.bind (reads_pure _))
  | _, _, _, .group opening inner closing, hLegible, hRest, n, hn => by
      have hOpening := opening.length_lt (by simp)
      have hInner := inner.length_lt hLegible
      have hClosing := closing.length_lt (by simp)
      obtain ⟨n, rfl⟩ := Nat.exists_eq_succ_of_ne_zero (n := n) (by omega)
      obtain ⟨first, others, m, hFirst, hOthers, rfl⟩ :=
        reads_conjuncts inner hLegible (ends_lexeme closing) n (by omega)
      have hOpen : Ends ['('] _ := ends_lexeme opening
      have hNoNegation := hOpen.passes_char '!'
      have hFilter := reads_filterWith hFirst hOthers (ends_lexeme closing)
      refine hNoNegation.bind.either_reads (Reads.either ?_)
      refine (opening.reads_char (inner.solid hLegible)).bind (hFilter.bind ?_)
      exact (closing.reads_char hRest.mono.solid).expecting.cut.bind
        (reads_pure _)

/-- The conjuncts of a filter are read one by one, and make the filter when they are grouped from
the left. -/
theorem reads_conjuncts : ∀ {e : Expr} {input rest : List Char},
    FilterText literal e input rest → Legible strict literal e.constants →
      Ends conjunctStops rest → ∀ n, input.length ≤ n + rest.length →
        ∃ first others m, Reads strict (conjunctUpTo n) input first m ∧
          ReadsRun strict (token (char ',') >>= fun _ => cut (conjunctUpTo n)) m others rest ∧
          e = others.foldl .conj first
  | e, _, rest, .single only, hLegible, hRest, n, hn =>
      ⟨e, [], rest, reads_conjunct only hLegible hRest n hn, .nil rest, rfl⟩
  | _, _, _, .conj left comma right, hLegible, hRest, n, hn => by
      have hLeft := left.length_lt hLegible.left
      have hComma := comma.length_lt (by simp)
      have hRight := right.length_lt hLegible.right
      obtain ⟨first, others, m, hFirst, hOthers, rfl⟩ :=
        reads_conjuncts left hLegible.left (ends_lexeme comma) n (by omega)
      have hRead := reads_conjunct right hLegible.right hRest n (by omega)
      have hLast : Reads strict (token (char ',') >>= fun _ => cut (conjunctUpTo n)) _ _ _ :=
        (comma.reads_char (right.solid hLegible.right)).bind hRead.cut
      refine ⟨first, others ++ [_], m, hFirst, hOthers.snoc hLast (by omega), ?_⟩
      rw [List.foldl_append]
      rfl

end

/-- A filter is read from its text. -/
theorem reads_filter (h : FilterText literal e input rest)
    (hLegible : Legible strict literal e.constants) (hRest : Ends [')', ';', '\x7d'] rest) :
    Reads strict filterParser input e rest := by
  obtain ⟨first, others, m, hFirst, hOthers, rfl⟩ :=
    reads_conjuncts h hLegible hRest.mono (input.length + 1) (by omega)
  unfold Reads
  rw [filterParser]
  exact reads_filterWith hFirst hOthers hRest

end Expr

end Hyperslab
