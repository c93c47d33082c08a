import Hyperslab.Proofs.Reading.Filter

/-! Requests as they are written, with any blanks around their tokens, and how they are read. -/
namespace Hyperslab

mutual

/-- The constants of the filters below a selector. -/
def Selector.constants : Selector → List Value
  | .mk _ _ child fields => childConstants child ++ fieldConstants fields

def Clause.constants : Clause → List Value
  | .mk target filter => target.constants ++ (filter.map Expr.constants).getD []

def childConstants : Option Selector → List Value
  | none => []
  | some child => child.constants

def fieldConstants : List Clause → List Value
  | [] => []
  | clause :: rest => clause.constants ++ fieldConstants rest

end

namespace Grammar

/-- Slices one behind the other. -/
inductive SlicesText : List Slice → List Char → List Char → Prop where
  | nil (input : List Char) : SlicesText [] input input
  | cons {slice : Slice} {slices : List Slice} {input m rest : List Char}
      (first : SliceText slice input m) (others : SlicesText slices m rest) :
      SlicesText (slice :: slices) input rest

/-- A name that is not empty, with slices. -/
def HeadText (name : String) (slices : List Slice) (input rest : List Char) : Prop :=
  name ≠ "" ∧ ∃ m, Lexeme (Name.escape name.toList) input m ∧ SlicesText slices m rest

mutual

/-- A variable alone, with a path behind it, or with a list of fields. -/
inductive SelectorText (literal : Value → List Char → Prop) :
    Selector → List Char → List Char → Prop where
  | bare {name : String} {slices : List Slice} {input rest : List Char}
      (head : HeadText name slices input rest) :
      SelectorText literal (.mk name slices none []) input rest
  | path {name : String} {slices : List Slice} {child : Selector} {input m m' rest : List Char}
      (head : HeadText name slices input m) (point : Lexeme ['.'] m m')
      (field : SelectorText literal child m' rest) :
      SelectorText literal (.mk name slices (some child) []) input rest
  | list {name : String} {slices : List Slice} {fields : List Clause}
      {input m m' m'' m''' rest : List Char} (head : HeadText name slices input m)
      (point : m = m' ∨ Lexeme ['.'] m m') (opening : Lexeme ['\x7b'] m' m'')
      (clauses : FieldsText literal fields m'' m''') (closing : Lexeme ['\x7d'] m''' rest) :
      SelectorText literal (.mk name slices none fields) input rest

/-- A selector, with a filter behind it or without. -/
inductive ClauseText (literal : Value → List Char → Prop) :
    Clause → List Char → List Char → Prop where
  | plain {target : Selector} {input rest : List Char}
      (text : SelectorText literal target input rest) :
      ClauseText literal (.mk target none) input rest
  | filtered {target : Selector} {e : Expr} {input m m' rest : List Char}
      (text : SelectorText literal target input m) (bar : Lexeme ['|'] m m')
      (filter : FilterText literal e m' rest) :
      ClauseText literal (.mk target (some e)) input rest

/-- Clauses in a list of fields. A comma may stand behind a clause without a filter. -/
inductive FieldsText (literal : Value → List Char → Prop) :
    List Clause → List Char → List Char → Prop where
  | last {clause : Clause} {input rest : List Char} (text : ClauseText literal clause input rest) :
      FieldsText literal [clause] input rest
  | cons {clause : Clause} {clauses : List Clause} {separator : Char} {input m m' rest : List Char}
      (text : ClauseText literal clause input m) (sep : Lexeme [separator] m m')
      (allowed : separator = ';' ∨ separator = ',' ∧ clause.filter = none)
      (others : FieldsText literal clauses m' rest) :
      FieldsText literal (clause :: clauses) input rest

end

/-- Resizes, each with a semicolon behind it. -/
inductive ResizesText : List Resize → List Char → List Char → Prop where
  | nil (input : List Char) : ResizesText [] input input
  | cons {resize : Resize} {resizes : List Resize} {input m m' m'' m''' rest : List Char}
      (named : resize.name ≠ "") (name : Lexeme (Name.escape resize.name.toList) input m)
      (sign : Lexeme ['='] m m') (slice : SliceText resize.slice m' m'')
      (semicolon : Lexeme [';'] m'' m''') (others : ResizesText resizes m''' rest) :
      ResizesText (resize :: resizes) input rest

/-- Clauses with semicolons between them, up to the end of the text. -/
inductive ClausesText (literal : Value → List Char → Prop) : List Clause → List Char → Prop where
  | last {clause : Clause} {input : List Char} (text : ClauseText literal clause input []) :
      ClausesText literal [clause] input
  | cons {clause : Clause} {clauses : List Clause} {input m m' : List Char}
      (text : ClauseText literal clause input m) (semicolon : Lexeme [';'] m m')
      (others : ClausesText literal clauses m') : ClausesText literal (clause :: clauses) input

/-- A whole request. Blanks may stand in front of it. -/
def RequestText (literal : Value → List Char → Prop) (request : Request) (text : List Char) :
    Prop :=
  ∃ blanks m m', Blanks blanks ∧ text = blanks ++ m ∧ ResizesText request.resizes m m' ∧
    (request.clauses = [] ∧ m' = [] ∨ ClausesText literal request.clauses m')

open Hyperslab.Parser

variable {strict : Prop} {literal : Value → List Char → Prop} {input rest stops : List Char}

theorem SlicesText.length_le {slices : List Slice} (h : SlicesText slices input rest) :
    rest.length ≤ input.length := by
  induction h with
  | nil => exact Nat.le_refl _
  | cons first _ ih =>
      have hFirst := first.length_lt
      omega

theorem SlicesText.ends {slices : List Slice} (h : SlicesText slices input rest)
    (hRest : Ends stops rest) : Ends ('[' :: stops) input := by
  cases h with
  | nil => exact hRest.mono fun c hc => List.mem_cons_of_mem _ hc
  | cons first _ => exact first.opening.mono (by simp)

theorem SlicesText.run {slices : List Slice} (h : SlicesText slices input rest)
    (hRest : Ends delimiters rest) : ReadsRun strict Slice.parse input slices rest := by
  induction h with
  | nil => exact .nil _
  | cons first others ih =>
      have hNext := (others.ends hRest).mono (by decide : ∀ c ∈ '[' :: delimiters, c ∈ delimiters)
      exact .cons (Slice.reads_slice first hNext) first.length_lt (ih hRest)

theorem HeadText.length_lt {name : String} {slices : List Slice}
    (h : HeadText name slices input rest) : rest.length < input.length := by
  obtain ⟨hName, m, hLexeme, hSlices⟩ := h
  have hLess := hLexeme.length_lt (Name.escape_ne_nil (mt String.toList_eq_nil_iff.mp hName))
  have hLe := hSlices.length_le
  omega

theorem HeadText.solid {name : String} {slices : List Slice}
    (h : HeadText name slices input rest) : Solid input := by
  obtain ⟨hName, m, ⟨blanks, _, rfl⟩, _⟩ := h
  exact (Name.escape_solid _).append (Name.escape_ne_nil (mt String.toList_eq_nil_iff.mp hName))

theorem HeadText.head_ne {name : String} {slices : List Slice}
    (h : HeadText name slices input rest) : ∀ c ∈ input.head?, c ≠ '\x7b' := by
  obtain ⟨hName, m, ⟨blanks, _, rfl⟩, _⟩ := h
  obtain ⟨c, cs, hCons⟩ :=
    List.exists_cons_of_ne_nil (Name.escape_ne_nil (mt String.toList_eq_nil_iff.mp hName))
  have hHead := Name.escape_head_ne (by decide : Name.isPlain '\x7b' = false) (by decide) c
    (by rw [hCons]; simp)
  simpa [hCons] using hHead

/-- The name and the slices of a selector are read, also behind blanks. -/
theorem HeadText.reads {name : String} {slices : List Slice} {blanks : List Char}
    (h : HeadText name slices input rest) (hBlanks : Blanks blanks) (hRest : Ends stops rest)
    (hBracket : '[' ∉ stops := by decide) (hStops : ∀ c ∈ stops, c ∈ delimiters := by decide) :
    ∃ m, Reads strict (token Name.parse) (blanks ++ input) name m ∧
      Reads strict (many Slice.parse) m slices rest := by
  obtain ⟨hName, m, hLexeme, hSlices⟩ := h
  have hDelimiters := hRest.mono hStops
  have hNext := (hSlices.ends hDelimiters).mono
    (by decide : ∀ c ∈ '[' :: delimiters, c ∈ delimiters)
  exact ⟨m, (Name.reads_lexeme hLexeme hName hNext).blanks hBlanks,
    (hSlices.run hDelimiters).many (Slice.passes_slice hRest hBracket hStops)⟩

mutual

theorem SelectorText.length_lt : ∀ {selector : Selector} {input rest : List Char},
    SelectorText literal selector input rest → Legible strict literal selector.constants →
      rest.length < input.length
  | _, _, _, .bare head, _ => head.length_lt
  | _, _, _, .path head point field, hLegible => by
      have hHead := head.length_lt
      have hPoint := point.length_lt (by simp)
      have hField := field.length_lt hLegible.left
      omega
  | _, _, _, .list head point opening clauses closing, hLegible => by
      have hHead := head.length_lt
      have hPoint : _ ≤ _ := point.elim (fun h => Nat.le_of_eq (congrArg List.length h.symm))
        fun h => Nat.le_of_lt (h.length_lt (by simp))
      have hOpening := opening.length_lt (by simp)
      have hClauses := clauses.length_lt hLegible.right
      have hClosing := closing.length_lt (by simp)
      omega

theorem ClauseText.length_lt : ∀ {clause : Clause} {input rest : List Char},
    ClauseText literal clause input rest → Legible strict literal clause.constants →
      rest.length < input.length
  | _, _, _, .plain text, hLegible => text.length_lt hLegible.left
  | _, _, _, .filtered text bar filter, hLegible => by
      have hText := text.length_lt hLegible.left
      have hBar := bar.length_lt (by simp)
      have hFilter := filter.length_lt hLegible.right
      omega

theorem FieldsText.length_lt : ∀ {clauses : List Clause} {input rest : List Char},
    FieldsText literal clauses input rest → Legible strict literal (fieldConstants clauses) →
      rest.length < input.length
  | _, _, _, .last text, hLegible => text.length_lt hLegible.left
  | _, _, _, .cons text sep _ others, hLegible => by
      have hText := text.length_lt hLegible.left
      have hSep := sep.length_lt (by simp)
      have hOthers := others.length_lt hLegible.right
      omega

end

theorem SelectorText.solid {selector : Selector} (h : SelectorText literal selector input rest) :
    Solid input := by
  cases h with
  | bare head | path head _ _ | list head _ _ _ _ => exact head.solid

/-- What can stand behind the name and the slices of a selector, blanks apart. -/
def headStops : List Char := ['.', '\x7b', ';', ',', '\x7d', '|']

theorem ClauseText.head {clause : Clause} (h : ClauseText literal clause input rest)
    (hRest : Ends headStops rest) :
    ∃ name slices m, HeadText name slices input m ∧ Ends headStops m := by
  have hSelector {selector : Selector} {m : List Char} (hm : Ends headStops m)
      (h : SelectorText literal selector input m) :
      ∃ name slices m, HeadText name slices input m ∧ Ends headStops m := by
    cases h with
    | bare head => exact ⟨_, _, _, head, hm⟩
    | path head point _ => exact ⟨_, _, _, head, ends_lexeme point⟩
    | list head point opening _ _ =>
        rcases point with rfl | point
        · exact ⟨_, _, _, head, ends_lexeme opening⟩
        · exact ⟨_, _, _, head, ends_lexeme point⟩
  cases h with
  | plain text => exact hSelector hRest text
  | filtered text bar _ => exact hSelector (ends_lexeme bar) text

theorem ResizesText.solid {resizes : List Resize} (h : ResizesText resizes input rest)
    (hRest : Solid rest) : Solid input := by
  cases h with
  | nil => exact hRest
  | cons named name _ _ _ _ =>
      obtain ⟨blanks, _, rfl⟩ := name
      exact (Name.escape_solid _).append
        (Name.escape_ne_nil (mt String.toList_eq_nil_iff.mp named))

theorem SelectorText.passes_fieldsWith {selector : Selector}
    (h : SelectorText literal selector input rest) (p : Parser Selector) :
    Passes (Request.fieldsWith p) input := by
  have hHead {name : String} {slices : List Slice} {m : List Char}
      (h : HeadText name slices input m) : Passes (Request.fieldsWith p) input :=
    (Passes.token (passes_char h.head_ne) h.solid).bind
  cases h with
  | bare head | path head _ _ | list head _ _ _ _ => exact hHead head

theorem ClauseText.solid {clause : Clause} (h : ClauseText literal clause input rest) :
    Solid input := by
  cases h with
  | plain text | filtered text _ _ => exact text.solid

theorem FieldsText.solid {clauses : List Clause} (h : FieldsText literal clauses input rest) :
    Solid input := by
  cases h with
  | last text | cons text _ _ _ => exact text.solid

theorem ClausesText.solid {clauses : List Clause} (h : ClausesText literal clauses input) :
    Solid input := by
  cases h with
  | last text | cons text _ _ => exact text.solid

theorem ClausesText.head {clauses : List Clause} (h : ClausesText literal clauses input) :
    ∃ name slices m, HeadText name slices input m ∧ Ends headStops m := by
  cases h with
  | last text => exact text.head ends_nil
  | cons text semicolon _ => exact text.head (ends_lexeme semicolon)

end Grammar

namespace Request

open Hyperslab.Parser Grammar

variable {strict : Prop} {literal : Value → List Char → Prop} {input rest : List Char}

/-- What can stand behind a selector, blanks apart. -/
def selectorStops : List Char := [';', ',', '\x7d', '|']

/-- A list of fields is read if its clauses are. -/
theorem reads_fieldsWith {selector : Parser Selector} {first : Clause} {others : List Clause}
    {m m' m'' : List Char} (opening : Lexeme ['\x7b'] input m) (hSolid : Solid m)
    (hFirst : Reads strict (clauseWith selector) m first m')
    (hOthers : ReadsRun strict (token (oneOf [';', ',']) >>= fun _ => clauseWith selector) m' others
      m'')
    (closing : Lexeme ['\x7d'] m'' rest) (hRest : Solid rest) :
    Reads strict (fieldsWith selector) input (first :: others) rest := by
  have hEnd : Ends ['\x7d'] m'' := ends_lexeme closing
  have hNoSeparator : Passes (token (oneOf [';', ','])) m'' :=
    Passes.token (passes_oneOf fun c hc => by
      have hNone : ∀ d ∈ ['\x7d'], d ∉ [';', ','] := by decide
      exact hNone c (hEnd c hc)) hEnd.mono.solid
  have hNoSemicolon := hEnd.passes_char ';'
  have hSeparated : Reads strict (separated (token (oneOf [';', ','])) (clauseWith selector)) m
      (first :: others) m'' :=
    hFirst.bind ((hOthers.many hNoSeparator.bind).bind (reads_pure _))
  have hClauses : Reads strict (do
      let fields ← separated (token (oneOf [';', ','])) (clauseWith selector)
      let _ ← maybe (token (char ';'))
      return fields) m (first :: others) m'' :=
    hSeparated.bind (hNoSemicolon.maybe.bind (reads_pure _))
  refine (opening.reads_char hSolid).bind (hClauses.cut.bind ?_)
  exact (closing.reads_char hRest).expecting.cut.bind (reads_pure _)

theorem passes_fieldsWith (selector : Parser Selector) {stops : List Char} (h : Ends stops input)
    (hBrace : '\x7b' ∉ stops := by decide) (hStops : ∀ c ∈ stops, c ∈ delimiters := by decide) :
    Passes (fieldsWith selector) input :=
  (h.passes_char '\x7b' hBrace hStops).bind

/-- A clause ends at a comma only if it has no filter. -/
def ClauseEnds (clause : Clause) (rest : List Char) : Prop :=
  Ends [';', '\x7d'] rest ∨ clause.filter = none ∧ Ends [';', ',', '\x7d'] rest

theorem ClauseEnds.selector {clause : Clause} (h : ClauseEnds clause rest) :
    Ends selectorStops rest :=
  h.elim (·.mono) (·.2.mono)

theorem clauseEnds_of_separator {clause : Clause} {c : Char} (h : Lexeme [c] input rest)
    (allowed : c = ';' ∨ c = ',' ∧ clause.filter = none) : ClauseEnds clause input := by
  rcases allowed with rfl | ⟨rfl, hNone⟩
  · exact Or.inl (ends_lexeme h)
  · exact Or.inr ⟨hNone, ends_lexeme h⟩

theorem reads_separator {clause : Clause} {c : Char} (h : Lexeme [c] input rest)
    (allowed : c = ';' ∨ c = ',' ∧ clause.filter = none) (hRest : Solid rest) :
    Reads strict (token (oneOf [';', ','])) input c rest := by
  rcases allowed with rfl | ⟨rfl, _⟩ <;> exact h.reads_oneOf (by decide) (by decide) hRest

mutual

/-- A selector is read with fuel for its length, also behind blanks. -/
theorem reads_selector : ∀ {selector : Selector} {input rest : List Char},
    SelectorText literal selector input rest → Legible strict literal selector.constants →
      Ends selectorStops rest → ∀ (n : Nat) (blanks : List Char), Blanks blanks →
        input.length ≤ n + rest.length →
          Reads strict (selectorUpTo n) (blanks ++ input) selector rest
  | _, _, _, .bare head, _, hRest, n, blanks, hBlanks, hn => by
      have hHead := head.length_lt
      obtain ⟨n, rfl⟩ := Nat.exists_eq_succ_of_ne_zero (n := n) (by omega)
      obtain ⟨m, hName, hSlices⟩ := head.reads hBlanks hRest
      have hNoPoint := hRest.passes_char '.'
      have hNoFields := passes_fieldsWith (selectorUpTo n) hRest
      exact hName.bind (hSlices.bind (hNoFields.maybe.bind (hNoPoint.maybe.bind (reads_pure _))))
  | _, _, _, .path head point field, hLegible, hRest, n, blanks, hBlanks, hn => by
      have hHead := head.length_lt
      have hPoint := point.length_lt (by simp)
      have hField := field.length_lt hLegible.left
      obtain ⟨n, rfl⟩ := Nat.exists_eq_succ_of_ne_zero (n := n) (by omega)
      have hEnd : Ends ['.'] _ := ends_lexeme point
      obtain ⟨m, hName, hSlices⟩ := head.reads hBlanks hEnd
      have hNoFields := passes_fieldsWith (selectorUpTo n) hEnd
      have hNoFields' := field.passes_fieldsWith (selectorUpTo n)
      have hRead := reads_selector field hLegible.left hRest n [] Blanks.nil (by omega)
      refine hName.bind (hSlices.bind (hNoFields.maybe.bind ?_))
      refine (point.reads_char field.solid).maybe.bind (hNoFields'.maybe.bind ?_)
      exact hRead.expecting.cut.bind (reads_pure _)
  | _, _, _, .list head point opening clauses closing, hLegible, hRest, n, blanks, hBlanks, hn => by
      have hLength := (SelectorText.list head point opening clauses closing).length_lt hLegible
      have hHead := head.length_lt
      have hOpening := opening.length_lt (by simp)
      have hClosing := closing.length_lt (by simp)
      have hOpen : Ends ['\x7b'] _ := ends_lexeme opening
      obtain ⟨n, rfl⟩ := Nat.exists_eq_succ_of_ne_zero (n := n) (by omega)
      rcases point with rfl | point
      · obtain ⟨first, others, m, rfl, _, hFirst, hOthers⟩ :=
          reads_fields clauses hLegible.right (ends_lexeme closing) n (by omega)
        have hFields := reads_fieldsWith opening clauses.solid hFirst hOthers closing
          hRest.mono.solid
        obtain ⟨m, hName, hSlices⟩ := head.reads hBlanks hOpen
        exact hName.bind (hSlices.bind (hFields.maybe.bind (reads_pure _)))
      · have hPoint := point.length_lt (by simp)
        obtain ⟨first, others, m, rfl, _, hFirst, hOthers⟩ :=
          reads_fields clauses hLegible.right (ends_lexeme closing) n (by omega)
        have hFields := reads_fieldsWith opening clauses.solid hFirst hOthers closing
          hRest.mono.solid
        have hEnd : Ends ['.'] _ := ends_lexeme point
        obtain ⟨m, hName, hSlices⟩ := head.reads hBlanks hEnd
        have hNoFields := passes_fieldsWith (selectorUpTo n) hEnd
        refine hName.bind (hSlices.bind (hNoFields.maybe.bind ?_))
        refine (point.reads_char (solid_of_lexeme opening)).maybe.bind ?_
        exact hFields.maybe.bind (reads_pure _)

/-- The same for a clause. -/
theorem reads_clause : ∀ {clause : Clause} {input rest : List Char},
    ClauseText literal clause input rest → Legible strict literal clause.constants →
      ClauseEnds clause rest → ∀ (n : Nat) (blanks : List Char), Blanks blanks →
        input.length ≤ n + rest.length →
          Reads strict (clauseWith (selectorUpTo n)) (blanks ++ input) clause rest
  | _, _, _, .plain text, hLegible, hRest, n, blanks, hBlanks, hn => by
      have hEnd : Ends [';', ',', '\x7d'] _ := hRest.elim (·.mono) (·.2)
      have hNoBar := hEnd.passes_char '|'
      have hRead := reads_selector text hLegible.left hRest.selector n blanks hBlanks hn
      exact hRead.bind (hNoBar.bind.maybe.bind (reads_pure _))
  | _, _, _, .filtered text bar filter, hLegible, hRest, n, blanks, hBlanks, hn => by
      have hBar := bar.length_lt (by simp)
      have hFilter := filter.length_lt hLegible.right
      have hEnd : Ends [';', '\x7d'] _ := hRest.elim id fun h => nomatch h.1
      have hRead := reads_selector text hLegible.left (ends_lexeme bar) n blanks hBlanks
        (by omega)
      have hFilterRead := Expr.reads_filter filter hLegible.right hEnd.mono
      refine hRead.bind (Reads.bind (a := some _) ?_ (reads_pure _))
      exact ((bar.reads_char (filter.solid hLegible.right)).bind hFilterRead.cut).maybe

/-- The clauses of a list of fields are read one by one. -/
theorem reads_fields : ∀ {clauses : List Clause} {input rest : List Char},
    FieldsText literal clauses input rest → Legible strict literal (fieldConstants clauses) →
      Ends ['\x7d'] rest → ∀ n, input.length ≤ n + rest.length →
        ∃ first others m, clauses = first :: others ∧ m.length < input.length ∧
          Reads strict (clauseWith (selectorUpTo n)) input first m ∧
            ReadsRun strict
              (token (oneOf [';', ',']) >>= fun _ => clauseWith (selectorUpTo n)) m others rest
  | _, _, rest, .last text, hLegible, hRest, n, hn =>
      ⟨_, [], rest, rfl, text.length_lt hLegible.left, reads_clause text hLegible.left
        (Or.inl hRest.mono) n [] Blanks.nil hn, .nil rest⟩
  | clause :: _, _, rest, .cons text sep allowed others, hLegible, hRest, n, hn => by
      have hText := text.length_lt hLegible.left
      have hSep := sep.length_lt (by simp)
      have hOthers := others.length_lt hLegible.right
      obtain ⟨second, more, m, rfl, hShorter, hSecond, hMore⟩ :=
        reads_fields others hLegible.right hRest n (by omega)
      have hEnd := clauseEnds_of_separator sep allowed
      have hFirst := reads_clause text hLegible.left hEnd n [] Blanks.nil (by omega)
      exact ⟨clause, second :: more, _, rfl, hText, hFirst,
        .cons ((reads_separator sep allowed others.solid).bind hSecond) (by omega) hMore⟩

end

theorem reads_clauseParser {clause : Clause} {blanks : List Char}
    (h : ClauseText literal clause input rest) (hLegible : Legible strict literal clause.constants)
    (hBlanks : Blanks blanks) (hRest : ClauseEnds clause rest) :
    Reads strict clauseParser (blanks ++ input) clause rest := by
  unfold Reads
  rw [clauseParser]
  exact reads_clause h hLegible hRest _ blanks hBlanks
    (by simp only [List.length_append]; omega)

/-- Clauses with semicolons between them are read one by one. -/
theorem reads_clauses (strict : Prop) {clauses : List Clause}
    (h : ClausesText literal clauses input)
    (hLegible : Legible strict literal (fieldConstants clauses)) {blanks : List Char}
    (hBlanks : Blanks blanks) :
    ∃ first others m, clauses = first :: others ∧ m.length < input.length ∧
      Reads strict clauseParser (blanks ++ input) first m ∧
        ReadsRun strict (token (char ';') >>= fun _ => clauseParser) m others [] := by
  induction h generalizing blanks with
  | @last clause input text =>
      exact ⟨clause, [], [], rfl, text.length_lt hLegible.left,
        reads_clauseParser text hLegible.left hBlanks (Or.inl ends_nil), .nil []⟩
  | @cons clause clauses input m m' text semicolon others ih =>
      obtain ⟨second, more, m'', rfl, hShorter, hSecond, hMore⟩ := ih hLegible.right Blanks.nil
      have hEnd : ClauseEnds clause m := Or.inl (ends_lexeme semicolon)
      have hSemicolon := semicolon.length_lt (by simp)
      exact ⟨clause, second :: more, m, rfl, text.length_lt hLegible.left,
        reads_clauseParser text hLegible.left hBlanks hEnd,
        .cons ((semicolon.reads_char others.solid).bind hSecond) (by omega) hMore⟩

/-- The assignment of a slice to a dimension is read if its name is. -/
theorem reads_resizeWord {name : String} {slice : Slice} {word blanks m m' : List Char}
    (hWord : word ≠ []) (hSolid : Solid word) (hBlanks : Blanks blanks)
    (hName : Reads strict Name.parse (word ++ (blanks ++ m)) name (blanks ++ m))
    (sign : Lexeme ['='] m m') (text : SliceText slice m' rest) (hRest : Ends delimiters rest) :
    Reads strict (token resizeParser) (word ++ (blanks ++ m)) ⟨name, slice⟩ rest := by
  have hSign : Reads strict (token (char '=')) (blanks ++ m) '=' m' :=
    (sign.reads_char text.opening.mono.solid).blanks hBlanks
  have hRead : Reads strict resizeParser (word ++ (blanks ++ m)) ⟨name, slice⟩ rest :=
    hName.bind (hSign.bind ((Slice.reads_slice text hRest).cut.bind (reads_pure _)))
  unfold Reads
  rw [token_eq, (hSolid.append hWord).dropWhile]
  exact hRead.bind (hRest.solid.reads_skipBlanks.bind (reads_pure _))

/-- The assignment of a slice to a dimension is read. -/
theorem reads_resize {resize : Resize} {m m' : List Char} (named : resize.name ≠ "")
    (name : Lexeme (Name.escape resize.name.toList) input m) (sign : Lexeme ['='] m m')
    (slice : SliceText resize.slice m' rest) (hRest : Ends delimiters rest) :
    Reads strict (token resizeParser) input resize rest := by
  obtain ⟨blanks, hBlanks, rfl⟩ := name
  have hEnd : Ends delimiters m := ends_lexeme sign
  exact reads_resizeWord (Name.escape_ne_nil (mt String.toList_eq_nil_iff.mp named))
    (Name.escape_solid _) hBlanks (Name.reads_parse named (ends_blanks hBlanks hEnd)) sign slice
    hRest

/-- The resizes in front of a request, one by one. Blanks are skipped with the first. -/
theorem reads_resizes (strict : Prop) {resizes : List Resize}
    (h : ResizesText resizes input rest) {blanks : List Char} (hBlanks : Blanks blanks)
    (hRest : Solid rest) :
    ∃ blanks', Blanks blanks' ∧
      ReadsRun strict
        (do
          let resize ← token resizeParser
          let _ ← token (char ';')
          return resize) (blanks ++ input) resizes (blanks' ++ rest) := by
  induction h generalizing blanks with
  | nil => exact ⟨blanks, hBlanks, .nil _⟩
  | cons named name sign slice semicolon others ih =>
      obtain ⟨blanks', hBlanks', hOthers⟩ := ih Blanks.nil hRest
      have hName := name.length_lt (Name.escape_ne_nil (mt String.toList_eq_nil_iff.mp named))
      have hSign := sign.length_lt (by simp)
      have hSlice := slice.length_lt
      have hSemicolon := semicolon.length_lt (by simp)
      have hEnd : Ends delimiters _ := ends_lexeme semicolon
      refine ⟨blanks', hBlanks',
        .cons (((reads_resize named name sign slice hEnd).blanks hBlanks).bind ?_) ?_ hOthers⟩
      · exact (semicolon.reads_char (others.solid hRest)).bind (reads_pure _)
      · simp only [List.nil_append, List.length_append]
        omega

/-- Behind the name of a clause stands no sign of equality. -/
theorem passes_resizeWord {name : String} {slices : List Slice} {word blanks m : List Char}
    (hWord : word ≠ []) (hSolid : Solid word) (hBlanks : Blanks blanks)
    (hName : Reads True Name.parse (word ++ (blanks ++ m)) name (blanks ++ m))
    (hSlices : SlicesText slices m rest) (hRest : Ends headStops rest) :
    Passes (token resizeParser) (word ++ (blanks ++ m)) := by
  have hNoSign := ((hSlices.ends hRest).passes_char '=').blanks hBlanks
  exact (Passes.bind_of_ok hName.eq hNoSign.bind).token (hSolid.append hWord)

theorem passes_resize {name : String} {slices : List Slice} {blanks : List Char}
    (head : HeadText name slices input rest) (hBlanks : Blanks blanks)
    (hRest : Ends headStops rest) : Passes (token resizeParser) (blanks ++ input) := by
  apply Passes.blanks hBlanks
  obtain ⟨hName, m, ⟨blanks', hBlanks', rfl⟩, hSlices⟩ := head
  exact passes_resizeWord (Name.escape_ne_nil (mt String.toList_eq_nil_iff.mp hName))
    (Name.escape_solid _) hBlanks'
    (Name.reads_parse hName (ends_blanks hBlanks' (hSlices.ends hRest).mono)) hSlices hRest

theorem solid_nil : Solid [] := by
  simp [Solid]

/-- What is left when all clauses are read: nothing but blanks. -/
theorem reads_end {blanks : List Char} (hBlanks : Blanks blanks) (request : Request) :
    Reads strict
      (do
        let _ ← maybe (token (char ';'))
        skipBlanks
        return request) blanks request [] := by
  have hNoSemicolon : Passes (token (char ';')) (blanks ++ []) :=
    (ends_nil.passes_char ';' List.not_mem_nil (by simp)).blanks hBlanks
  have hSkip : Reads strict skipBlanks blanks () [] :=
    Or.inl (by simp [skipBlanks, List.dropWhile_eq_nil_iff.mpr hBlanks])
  rw [List.append_nil] at hNoSemicolon
  exact hNoSemicolon.maybe.bind (hSkip.bind (reads_pure _))

/-- No name, no clause. -/
theorem passes_name {blanks : List Char} (hBlanks : Blanks blanks) :
    Passes (token Name.parse) blanks := by
  have h : Passes (token Name.parse) (blanks ++ []) :=
    (Passes.token (Passes.bind ⟨⟨false, [], []⟩, rfl, rfl⟩) solid_nil).blanks hBlanks
  rwa [List.append_nil] at h

/-- A whole request is read from its text. -/
theorem reads_request {request : Request} {text : List Char}
    (h : RequestText literal request text)
    (hLegible : Legible strict literal (fieldConstants request.clauses)) :
    Reads strict parser text request [] := by
  obtain ⟨blanks, m, m', hBlanks, rfl, hResizes, hClauses⟩ := h
  obtain ⟨resizes, clauses⟩ := request
  rcases hClauses with ⟨hNone, rfl⟩ | hClauses
  · simp only at hNone hResizes
    subst hNone
    obtain ⟨blanks', hBlanks', hRun⟩ := reads_resizes strict hResizes hBlanks solid_nil
    rw [List.append_nil] at hRun
    have hNoResize : Passes (token resizeParser) blanks' := by
      have h : Passes (token resizeParser) (blanks' ++ []) :=
        (Passes.token (Passes.bind ((Passes.bind ⟨⟨false, [], []⟩, rfl, rfl⟩))) solid_nil).blanks
          hBlanks'
      rwa [List.append_nil] at h
    have hNoClause : Passes (separated (token (char ';')) clauseParser) blanks' := by
      have h : Passes clauseParser blanks' := (passes_name hBlanks').bind.bind
      exact h.bind
    refine (hRun.many hNoResize.bind).bind (hNoClause.maybe.bind ?_)
    exact reads_end hBlanks' _
  · simp only at hClauses hResizes hLegible
    obtain ⟨blanks', hBlanks', hRun⟩ := reads_resizes strict hResizes hBlanks hClauses.solid
    obtain ⟨first, others, m'', rfl, _, hFirst, hOthers⟩ :=
      reads_clauses strict hClauses hLegible hBlanks'
    obtain ⟨name, slices, m, head, hEnd⟩ := hClauses.head
    have hNoSemicolon : Passes (token (char ';')) [] :=
      ends_nil.passes_char ';' List.not_mem_nil (by simp)
    have hSeparated : Reads strict (separated (token (char ';')) clauseParser) (blanks' ++ m')
        (first :: others) [] :=
      hFirst.bind ((hOthers.many hNoSemicolon.bind).bind (reads_pure _))
    refine (hRun.many (passes_resize head hBlanks' hEnd).bind).bind (hSeparated.maybe.bind ?_)
    exact reads_end Blanks.nil _

/-- The assignment of a slice with no semicolon behind it is not read: its name is taken for a
clause, and the rest is left. -/
theorem reads_unfinished (strict : Prop) {resizes : List Resize} {resize : Resize}
    {text m m' : List Char}
    (h : ResizesText resizes text input) (named : resize.name ≠ "")
    (name : Lexeme (Name.escape resize.name.toList) input m) (sign : Lexeme ['='] m m')
    (slice : SliceText resize.slice m' []) :
    Reads strict parser text ⟨resizes, [.mk (.mk resize.name [] none []) none]⟩ m := by
  have head : HeadText resize.name [] input m := ⟨named, m, name, .nil m⟩
  have hEnd : Ends ['='] m := ends_lexeme sign
  have hNoSemicolon := hEnd.passes_char ';'
  obtain ⟨blanks, hBlanks, hRun⟩ := reads_resizes strict h Blanks.nil head.solid
  have hNoResize : Passes (do
      let resize ← token resizeParser
      let _ ← token (char ';')
      return resize) (blanks ++ input) := by
    have hRead : Reads True (token resizeParser) input resize [] :=
      reads_resize named name sign slice ends_nil
    refine Passes.bind_of_ok (hRead.blanks hBlanks).eq (Passes.bind ?_)
    exact ends_nil.passes_char ';' List.not_mem_nil (by simp)
  have hSelector (n : Nat) : Reads strict (selectorUpTo (n + 1)) (blanks ++ input)
      (.mk resize.name [] none []) m := by
    obtain ⟨_, hName, hSlices⟩ := head.reads hBlanks hEnd
    have hNoFields := passes_fieldsWith (selectorUpTo n) hEnd
    have hNoPoint := hEnd.passes_char '.'
    exact hName.bind (hSlices.bind (hNoFields.maybe.bind (hNoPoint.maybe.bind (reads_pure _))))
  have hClause : Reads strict clauseParser (blanks ++ input)
      (.mk (.mk resize.name [] none []) none) m := by
    have hNoBar := hEnd.passes_char '|'
    have hRead (n : Nat) : Reads strict (clauseWith (selectorUpTo (n + 1))) (blanks ++ input)
        (.mk (.mk resize.name [] none []) none) m :=
      (hSelector n).bind (hNoBar.bind.maybe.bind (reads_pure _))
    unfold Reads
    rw [clauseParser]
    exact hRead _
  have hClauses : Reads strict (separated (token (char ';')) clauseParser) (blanks ++ input)
      [.mk (.mk resize.name [] none []) none] m :=
    hClause.bind (((ReadsRun.nil m).many hNoSemicolon.bind).bind (reads_pure _))
  have hSolid : Solid m := hEnd.mono.solid
  rw [List.nil_append] at hRun
  refine (hRun.many hNoResize).bind (hClauses.maybe.bind ?_)
  exact hNoSemicolon.maybe.bind (hSolid.reads_skipBlanks.bind (reads_pure _))

theorem parse_unfinished {resizes : List Resize} {resize : Resize} {text m m' : List Char}
    (h : ResizesText resizes text input) (named : resize.name ≠ "")
    (name : Lexeme (Name.escape resize.name.toList) input m) (sign : Lexeme ['='] m m')
    (slice : SliceText resize.slice m' []) (request : Request) :
    Request.parse (.ofList text) ≠ .ok request := by
  have hRead : Reads True parser text _ m := reads_unfinished True h named name sign slice
  obtain ⟨blanks, _, rfl⟩ := sign
  simp [Request.parse, Parser.run, hRead.eq]

end Request

end Hyperslab
