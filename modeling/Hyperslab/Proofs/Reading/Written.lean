import Hyperslab.Proofs.Reading.Request

/-! Reading inverts writing. Every request that the grammar can express has a text, and each of its
texts, whatever blanks and separators it uses, is read as that request. -/
namespace Hyperslab

open Grammar

/-- The slices that brackets can hold. -/
inductive Slice.Writable : Slice → Prop where
  | whole : Writable .whole
  | index (i : UInt64) : Writable (.index i)
  | range (first stride : UInt64) (last : Option UInt64) : Writable (.range first stride last)

namespace Expr

/-- A constant, or a field with a name. -/
inductive IsOperand : Expr → Prop where
  | constant (v : Value) : IsOperand (.constant v)
  | field (name : String) (named : name ≠ "") : IsOperand (.field name)

/-- Comparisons of operands, joined and negated in any way. -/
inductive Writable : Expr → Prop where
  | compare (op : Operator) {a b : Expr} (left : a.IsOperand) (right : b.IsOperand) :
      Writable (.compare op a b)
  | conj {a b : Expr} (left : a.Writable) (right : b.Writable) : Writable (.conj a b)
  | neg {a : Expr} (operand : a.Writable) : Writable (.neg a)

end Expr

mutual

/-- Names are not empty, and nothing has both a path and a list of fields. -/
def Selector.Writable : Selector → Prop
  | .mk name slices child fields =>
    name ≠ "" ∧ (∀ slice ∈ slices, slice.Writable) ∧ (child = none ∨ fields = []) ∧
      childWritable child ∧ fieldsWritable fields

def Clause.Writable : Clause → Prop
  | .mk target filter => target.Writable ∧ ∀ e ∈ filter, e.Writable

def childWritable : Option Selector → Prop
  | none => True
  | some child => child.Writable

def fieldsWritable : List Clause → Prop
  | [] => True
  | clause :: rest => clause.Writable ∧ fieldsWritable rest

end

namespace Request

def Writable (request : Request) : Prop :=
  (∀ resize ∈ request.resizes, resize.name ≠ "" ∧ resize.slice.Writable) ∧
    fieldsWritable request.clauses

def constants (request : Request) : List Value := fieldConstants request.clauses

/-- `text` writes the request: names are escaped, constants have their literal form. -/
def Written (request : Request) (text : String) : Prop :=
  RequestText (fun v word => word = v.chars) request text.toList

end Request

namespace Grammar

variable {literal : Value → List Char → Prop}

theorem exists_lexeme (word rest : List Char) : ∃ input, Lexeme word input rest :=
  ⟨_, Lexeme.tight word rest⟩

theorem exists_sliceText {slice : Slice} (h : slice.Writable) (rest : List Char) :
    ∃ input, SliceText slice input rest := by
  have hIndex (i : UInt64) (rest : List Char) : ∃ input, IndexText i input rest :=
    ⟨_, _, isNumeral_toDigits i.toNat, Lexeme.tight _ rest⟩
  obtain ⟨m, closing⟩ := exists_lexeme [']'] rest
  cases h with
  | whole =>
      obtain ⟨input, opening⟩ := exists_lexeme ['['] m
      exact ⟨input, .whole opening closing⟩
  | index i =>
      obtain ⟨m, first⟩ := hIndex i m
      obtain ⟨input, opening⟩ := exists_lexeme ['['] m
      exact ⟨input, .bounded opening (.index first) closing⟩
  | range i s last =>
      cases last with
      | none =>
          obtain ⟨m, colon'⟩ := exists_lexeme [':'] m
          obtain ⟨m, stride⟩ := hIndex s m
          obtain ⟨m, colon⟩ := exists_lexeme [':'] m
          obtain ⟨m, first⟩ := hIndex i m
          obtain ⟨input, opening⟩ := exists_lexeme ['['] m
          exact ⟨input, .bounded opening (.stridedOpen first colon stride colon') closing⟩
      | some j =>
          obtain ⟨m, last⟩ := hIndex j m
          obtain ⟨m, colon'⟩ := exists_lexeme [':'] m
          obtain ⟨m, stride⟩ := hIndex s m
          obtain ⟨m, colon⟩ := exists_lexeme [':'] m
          obtain ⟨m, first⟩ := hIndex i m
          obtain ⟨input, opening⟩ := exists_lexeme ['['] m
          exact ⟨input, .bounded opening (.strided first colon stride colon' last) closing⟩

theorem exists_slicesText {slices : List Slice} (h : ∀ slice ∈ slices, slice.Writable)
    (rest : List Char) : ∃ input, SlicesText slices input rest := by
  induction slices with
  | nil => exact ⟨rest, .nil rest⟩
  | cons slice slices ih =>
      obtain ⟨m, others⟩ := ih fun s hs => h s (by simp [hs])
      obtain ⟨input, first⟩ := exists_sliceText (h slice (by simp)) m
      exact ⟨input, .cons first others⟩

theorem exists_headText {name : String} {slices : List Slice} (hName : name ≠ "")
    (h : ∀ slice ∈ slices, slice.Writable) (rest : List Char) :
    ∃ input, HeadText name slices input rest := by
  obtain ⟨m, hSlices⟩ := exists_slicesText h rest
  obtain ⟨input, hLexeme⟩ := exists_lexeme (Name.escape name.toList) m
  exact ⟨input, hName, m, hLexeme, hSlices⟩

theorem exists_operandText (hLiteral : ∀ v, ∃ word, literal v word) {e : Expr} (h : e.IsOperand)
    (rest : List Char) : ∃ input, OperandText literal e input rest := by
  cases h with
  | constant v =>
      obtain ⟨word, hWord⟩ := hLiteral v
      exact ⟨_, .constant hWord (Lexeme.tight word rest)⟩
  | field name named => exact ⟨_, .field named (Lexeme.tight _ rest)⟩

/-- Any filter can stand between commas, if need be in parentheses. -/
theorem exists_filterText (hLiteral : ∀ v, ∃ word, literal v word) {e : Expr} (h : e.Writable) :
    ∀ rest, (∃ input, ConjunctText literal e input rest) ∧
      ∃ input, FilterText literal e input rest := by
  have hGroup {e : Expr} (h : ∀ rest, ∃ input, FilterText literal e input rest)
      (rest : List Char) : ∃ input, ConjunctText literal e input rest := by
    obtain ⟨m, closing⟩ := exists_lexeme [')'] rest
    obtain ⟨m, inner⟩ := h m
    obtain ⟨input, opening⟩ := exists_lexeme ['('] m
    exact ⟨input, .group opening inner closing⟩
  have hSingle {e : Expr} {rest : List Char} (h : ∃ input, ConjunctText literal e input rest) :
      (∃ input, ConjunctText literal e input rest) ∧ ∃ input, FilterText literal e input rest :=
    ⟨h, h.imp fun _ => .single⟩
  induction h with
  | compare op left right =>
      intro rest
      obtain ⟨m, hRight⟩ := exists_operandText hLiteral right rest
      obtain ⟨m, sign⟩ := exists_lexeme op.symbol.toList m
      obtain ⟨input, hLeft⟩ := exists_operandText hLiteral left m
      exact hSingle ⟨input, .compare hLeft sign hRight⟩
  | @conj a b left right ihLeft ihRight =>
      have hFilter (rest : List Char) : ∃ input, FilterText literal (.conj a b) input rest := by
        obtain ⟨m, hRight⟩ := (ihRight rest).1
        obtain ⟨m, comma⟩ := exists_lexeme [','] m
        obtain ⟨input, hLeft⟩ := (ihLeft m).2
        exact ⟨input, .conj hLeft comma hRight⟩
      intro rest
      exact ⟨hGroup hFilter rest, hFilter rest⟩
  | neg operand ih =>
      intro rest
      obtain ⟨m, hOperand⟩ := (ih rest).1
      obtain ⟨input, sign⟩ := exists_lexeme ['!'] m
      exact hSingle ⟨input, .neg sign hOperand⟩

mutual

theorem exists_selectorText (hLiteral : ∀ v, ∃ word, literal v word) :
    ∀ selector : Selector, selector.Writable →
      ∀ rest, ∃ input, SelectorText literal selector input rest
  | .mk name slices (some child) fields, ⟨hName, hSlices, hOne, hChild, _⟩, rest => by
      have hFields : fields = [] := hOne.elim (fun h => nomatch h) id
      subst hFields
      obtain ⟨m, field⟩ := exists_selectorText hLiteral child hChild rest
      obtain ⟨m, point⟩ := exists_lexeme ['.'] m
      obtain ⟨input, head⟩ := exists_headText hName hSlices m
      exact ⟨input, .path head point field⟩
  | .mk name slices none [], ⟨hName, hSlices, _⟩, rest => by
      obtain ⟨input, head⟩ := exists_headText hName hSlices rest
      exact ⟨input, .bare head⟩
  | .mk name slices none (clause :: clauses), ⟨hName, hSlices, _, _, hFields⟩, rest => by
      obtain ⟨m, closing⟩ := exists_lexeme ['\x7d'] rest
      obtain ⟨m, hClauses⟩ := exists_fieldsText hLiteral (clause :: clauses) hFields (by simp) m
      obtain ⟨m, opening⟩ := exists_lexeme ['\x7b'] m
      obtain ⟨input, head⟩ := exists_headText hName hSlices m
      exact ⟨input, .list head (Or.inl rfl) opening hClauses closing⟩

theorem exists_clauseText (hLiteral : ∀ v, ∃ word, literal v word) :
    ∀ clause : Clause, clause.Writable → ∀ rest, ∃ input, ClauseText literal clause input rest
  | .mk target none, ⟨hTarget, _⟩, rest => by
      obtain ⟨input, text⟩ := exists_selectorText hLiteral target hTarget rest
      exact ⟨input, .plain text⟩
  | .mk target (some e), ⟨hTarget, hFilter⟩, rest => by
      obtain ⟨m, filter⟩ := (exists_filterText hLiteral (hFilter e rfl) rest).2
      obtain ⟨m, bar⟩ := exists_lexeme ['|'] m
      obtain ⟨input, text⟩ := exists_selectorText hLiteral target hTarget m
      exact ⟨input, .filtered text bar filter⟩

theorem exists_fieldsText (hLiteral : ∀ v, ∃ word, literal v word) :
    ∀ clauses : List Clause, fieldsWritable clauses → clauses ≠ [] →
      ∀ rest, ∃ input, FieldsText literal clauses input rest
  | [], _, hSome, _ => absurd rfl hSome
  | [clause], ⟨hClause, _⟩, _, rest => by
      obtain ⟨input, text⟩ := exists_clauseText hLiteral clause hClause rest
      exact ⟨input, .last text⟩
  | clause :: second :: clauses, ⟨hClause, hOthers⟩, _, rest => by
      obtain ⟨m, others⟩ := exists_fieldsText hLiteral (second :: clauses) hOthers (by simp) rest
      obtain ⟨m, sep⟩ := exists_lexeme [';'] m
      obtain ⟨input, text⟩ := exists_clauseText hLiteral clause hClause m
      exact ⟨input, .cons text sep (Or.inl rfl) others⟩

end

theorem exists_resizesText {resizes : List Resize}
    (h : ∀ resize ∈ resizes, resize.name ≠ "" ∧ resize.slice.Writable) (rest : List Char) :
    ∃ input, ResizesText resizes input rest := by
  induction resizes with
  | nil => exact ⟨rest, .nil rest⟩
  | cons resize resizes ih =>
      obtain ⟨named, hSlice⟩ := h resize (by simp)
      obtain ⟨m, others⟩ := ih fun r hr => h r (by simp [hr])
      obtain ⟨m, semicolon⟩ := exists_lexeme [';'] m
      obtain ⟨m, slice⟩ := exists_sliceText hSlice m
      obtain ⟨m, sign⟩ := exists_lexeme ['='] m
      obtain ⟨input, name⟩ := exists_lexeme (Name.escape resize.name.toList) m
      exact ⟨input, .cons named name sign slice semicolon others⟩

theorem exists_clausesText (hLiteral : ∀ v, ∃ word, literal v word) {clauses : List Clause}
    (h : fieldsWritable clauses) (hSome : clauses ≠ []) :
    ∃ input, ClausesText literal clauses input := by
  induction clauses with
  | nil => exact absurd rfl hSome
  | cons clause clauses ih =>
      obtain ⟨hClause, hOthers⟩ := h
      cases clauses with
      | nil =>
          obtain ⟨input, text⟩ := exists_clauseText hLiteral clause hClause []
          exact ⟨input, .last text⟩
      | cons second clauses =>
          obtain ⟨m, others⟩ := ih hOthers (by simp)
          obtain ⟨m, semicolon⟩ := exists_lexeme [';'] m
          obtain ⟨input, text⟩ := exists_clauseText hLiteral clause hClause m
          exact ⟨input, .cons text semicolon others⟩

theorem exists_requestText (hLiteral : ∀ v, ∃ word, literal v word) {request : Request}
    (h : request.Writable) : ∃ text, RequestText literal request text := by
  obtain ⟨hResizes, hClauses⟩ := h
  by_cases hSome : request.clauses = []
  · obtain ⟨input, resizes⟩ := exists_resizesText hResizes []
    exact ⟨input, [], input, [], Blanks.nil, rfl, resizes, Or.inl ⟨hSome, rfl⟩⟩
  · obtain ⟨m, clauses⟩ := exists_clausesText hLiteral hClauses hSome
    obtain ⟨input, resizes⟩ := exists_resizesText hResizes m
    exact ⟨input, [], input, m, Blanks.nil, rfl, resizes, Or.inr clauses⟩

end Grammar

namespace Request

/-- A request whose constants read back has texts, and each of them is read as the request. -/
theorem parse_written {request : Request} (h : request.Writable)
    (hBack : ∀ v ∈ request.constants, v.ReadsBack) :
    (∃ text, request.Written text) ∧
      ∀ text, request.Written text → Request.parse text = .ok request := by
  constructor
  · have hLiteral : ∀ v : Value, ∃ word, word = v.chars := fun v => ⟨_, rfl⟩
    obtain ⟨text, hText⟩ := exists_requestText hLiteral h
    exact ⟨.ofList text, by rwa [Written, String.toList_ofList]⟩
  · intro text hText
    have hLegible :
        Legible True (fun v word => word = v.chars) (fieldConstants request.clauses) := by
      rintro v hv word rfl
      exact Value.literalText_chars (hBack v hv)
    have hRead := (reads_request hText hLegible).eq
    simp only [Request.parse, Parser.run, hRead]

/-- A text of the grammar whose literals are read is read. -/
theorem parse_requestText {literal : Value → List Char → Prop} {request : Request}
    {input : List Char} (h : RequestText literal request input)
    (hLegible : Legible True literal (fieldConstants request.clauses)) :
    Request.parse (.ofList input) = .ok request := by
  simp only [Request.parse, Parser.run, String.toList_ofList, (reads_request h hLegible).eq]

/-- A resize, a path, a list of fields and filters with constants of all kinds. -/
def sample : Request :=
  ⟨[⟨"time", .range 0 2 none⟩],
    [.mk (.mk "grid" [.index 3, .whole] (some (.mk "u" [.range 1 1 (some 4)] none [])) []) none,
      .mk (.mk "table" [] none [.mk (.mk "true" [] none []) none, .mk (.mk "b c" [] none []) none])
        (some (.conj (.compare .lt (.field "true") (.constant (.float 1.5)))
          (.neg (.conj (.compare .eq (.field "b c") (.constant (.str "\"")))
            (.compare .ne (.constant (.int (-7))) (.constant (.bool true)))))))]⟩

theorem sample_writable : sample.Writable := by
  have hFilter : Expr.Writable (.conj (.compare .lt (.field "true") (.constant (.float 1.5)))
      (.neg (.conj (.compare .eq (.field "b c") (.constant (.str "\"")))
        (.compare .ne (.constant (.int (-7))) (.constant (.bool true)))))) :=
    .conj (.compare _ (.field _ (by decide)) (.constant _))
      (.neg (.conj (.compare _ (.field _ (by decide)) (.constant _))
        (.compare _ (.constant _) (.constant _))))
  simp [sample, Writable, fieldsWritable, Clause.Writable, Selector.Writable, childWritable,
    hFilter, Slice.Writable.whole, Slice.Writable.index, Slice.Writable.range]

theorem parse_written_sample :
    sample.Writable ∧ (∀ v ∈ sample.constants, v.ReadsBack) ∧ (∃ text, sample.Written text) ∧
      ∀ text, sample.Written text → Request.parse text = .ok sample := by
  have hFloat : (Value.float 1.5).ReadsBack := by
    simp only [Value.ReadsBack]
    decide
  have hBack : ∀ v ∈ sample.constants, v.ReadsBack := by
    simpa [sample, constants, fieldConstants, Clause.constants, Selector.constants, childConstants,
      Expr.constants, Value.ReadsBack] using hFloat
  exact ⟨sample_writable, hBack, parse_written sample_writable hBack⟩

end Request

end Hyperslab
