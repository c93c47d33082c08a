import Hyperslab.Proofs.Reading.Request

/-! The grammar of requests as a set of texts. A relation between a text and the rest of it stands
for each rule, whatever the text means. Words may be spelled in any way that can be read. -/
namespace Hyperslab.Grammar

open Hyperslab.Parser

/-- Characters of a name. Any character may stand behind a backslash. -/
inductive NameChars : List Char → Prop where
  | nil : NameChars []
  | plain {c : Char} {cs : List Char} (h : Name.isPlain c = true) (others : NameChars cs) :
      NameChars (c :: cs)
  | escaped {c : Char} {cs : List Char} (others : NameChars cs) : NameChars ('\\' :: c :: cs)

def NameWord (word : List Char) : Prop := word ≠ [] ∧ NameChars word

/-- Characters between the quotes of a string. Any character may stand behind a backslash. -/
inductive StringChars : List Char → Prop where
  | nil : StringChars []
  | plain {c : Char} {cs : List Char} (h : c ≠ '"' ∧ c ≠ '\\') (others : StringChars cs) :
      StringChars (c :: cs)
  | escaped {c : Char} {cs : List Char} (others : StringChars cs) :
      StringChars ('\\' :: c :: cs)

/-- What stands in front of a number. -/
def signChars (negative : Bool) : List Char := if negative then ['-'] else []

/-- The power of ten behind a number, with its sign and its digits. -/
inductive ExponentWord : Int → List Char → Prop where
  | bare {mark : Char} {digits : List Char} {n : Nat} (hMark : mark ∈ ['e', 'E'])
      (h : IsNumeral n digits) : ExponentWord n (mark :: digits)
  | plus {mark : Char} {digits : List Char} {n : Nat} (hMark : mark ∈ ['e', 'E'])
      (h : IsNumeral n digits) : ExponentWord n (mark :: '+' :: digits)
  | minus {mark : Char} {digits : List Char} {n : Nat} (hMark : mark ∈ ['e', 'E'])
      (h : IsNumeral n digits) : ExponentWord (-n) (mark :: '-' :: digits)

/-- What makes a number a float: its point with digits behind it, its exponent, or both. -/
inductive MarksWord : List Char → Int → List Char → Prop where
  | point {fraction : List Char} (h : ∀ c ∈ fraction, Decimal.isDigit c = true) :
      MarksWord fraction 0 ('.' :: fraction)
  | both {fraction word : List Char} {e : Int} (h : ∀ c ∈ fraction, Decimal.isDigit c = true)
      (exponent : ExponentWord e word) : MarksWord fraction e ('.' :: (fraction ++ word))
  | exponent {word : List Char} {e : Int} (exponent : ExponentWord e word) : MarksWord [] e word

/-- An operand of a comparison: a string, a number that has a value, or a name that does not begin
like a number. -/
inductive OperandWord : List Char → Prop where
  | string {cs : List Char} (h : StringChars cs) : OperandWord ('"' :: (cs ++ ['"']))
  | integer {negative : Bool} {n : Nat} {digits : List Char} (h : IsNumeral n digits)
      (lower : Int64.minValue.toInt ≤ if negative then -(n : Int) else n)
      (upper : (if negative then -(n : Int) else n) ≤ Int64.maxValue.toInt) :
      OperandWord (signChars negative ++ digits)
  | float {negative : Bool} {n : Nat} {whole fraction word : List Char} {e : Int}
      (h : IsNumeral n whole) (marks : MarksWord fraction e word)
      (finite : Decimal.isFinite (Decimal.Literal.toFloat ⟨negative, whole, fraction, e⟩) = true) :
      OperandWord (signChars negative ++ (whole ++ word))
  | name {word : List Char} (h : NameWord word) (noNumber : Value.NoNumber word) :
      OperandWord word

/-- `input` begins with a word of some kind. -/
def Begins (kind : List Char → Prop) (input rest : List Char) : Prop :=
  ∃ word, kind word ∧ Lexeme word input rest

/-- Equality has two spellings. -/
def OperatorWord (op : Operator) (word : List Char) : Prop :=
  word = op.symbol.toList ∨ op = .eq ∧ word = ['=']

/-- What the rules may leave open: whether a stride may be missing between two colons, whether a
comma may separate a field with a filter from the next one, and whether a range may compare with
operators that are no orders. -/
structure Latitude where
  bareStride : Prop
  commaAfterFilter : Prop
  anyRange : Prop

namespace Latitude

/-- The rules as they are written down: no stride is missing, a comma may separate any fields, and
a range may have any operators. -/
def documented : Latitude := ⟨False, True, True⟩

/-- The least that is read. -/
def least : Latitude := ⟨False, False, False⟩

/-- The most that is read. Only the operators of ranges are restricted. -/
def most : Latitude := ⟨True, True, False⟩

end Latitude

/-- What stands between the brackets of a slice. -/
inductive BoundsPhrase (latitude : Latitude) : List Char → List Char → Prop where
  | usual {slice : Slice} {input rest : List Char} (text : BoundsText slice input rest) :
      BoundsPhrase latitude input rest
  | bareOpen {i : UInt64} {input m m' rest : List Char} (allowed : latitude.bareStride)
      (first : IndexText i input m) (colon : Lexeme [':'] m m') (colon' : Lexeme [':'] m' rest) :
      BoundsPhrase latitude input rest
  | bareClosed {i j : UInt64} {input m m' m'' rest : List Char} (allowed : latitude.bareStride)
      (first : IndexText i input m) (colon : Lexeme [':'] m m') (colon' : Lexeme [':'] m' m'')
      (last : IndexText j m'' rest) : BoundsPhrase latitude input rest

/-- A slice in its brackets. -/
inductive SlicePhrase (latitude : Latitude) : List Char → List Char → Prop where
  | whole {input m rest : List Char} (opening : Lexeme ['['] input m)
      (closing : Lexeme [']'] m rest) : SlicePhrase latitude input rest
  | bounded {input m m' rest : List Char} (opening : Lexeme ['['] input m)
      (bounds : BoundsPhrase latitude m m') (closing : Lexeme [']'] m' rest) :
      SlicePhrase latitude input rest

/-- A name with any number of slices. -/
def HeadPhrase (latitude : Latitude) (input rest : List Char) : Prop :=
  ∃ m, Begins NameWord input m ∧ Relation.ReflTransGen (SlicePhrase latitude) m rest

mutual

/-- What stands between the commas of a filter. -/
inductive ConjunctPhrase (latitude : Latitude) : List Char → List Char → Prop where
  | compare {op : Operator} {input m m' rest : List Char} (left : Begins OperandWord input m)
      (sign : Begins (OperatorWord op) m m') (right : Begins OperandWord m' rest) :
      ConjunctPhrase latitude input rest
  | between {op op' : Operator} {input m m' m'' m''' rest : List Char}
      (allowed : latitude.anyRange ∨ op.isOrder = true ∧ op'.isOrder = true)
      (left : Begins OperandWord input m) (sign : Begins (OperatorWord op) m m')
      (middle : Begins OperandWord m' m'') (sign' : Begins (OperatorWord op') m'' m''')
      (right : Begins OperandWord m''' rest) : ConjunctPhrase latitude input rest
  | neg {input m rest : List Char} (sign : Lexeme ['!'] input m)
      (operand : ConjunctPhrase latitude m rest) : ConjunctPhrase latitude input rest
  | group {input m m' rest : List Char} (opening : Lexeme ['('] input m)
      (inner : FilterPhrase latitude m m') (closing : Lexeme [')'] m' rest) :
      ConjunctPhrase latitude input rest

/-- Conjuncts with commas between them. -/
inductive FilterPhrase (latitude : Latitude) : List Char → List Char → Prop where
  | single {input rest : List Char} (only : ConjunctPhrase latitude input rest) :
      FilterPhrase latitude input rest
  | cons {input m m' rest : List Char} (first : ConjunctPhrase latitude input m)
      (comma : Lexeme [','] m m') (others : FilterPhrase latitude m' rest) :
      FilterPhrase latitude input rest

end

mutual

/-- A variable alone, with a path behind it, or with a list of fields. A semicolon may end the
list. -/
inductive SelectorPhrase (latitude : Latitude) : List Char → List Char → Prop where
  | bare {input rest : List Char} (head : HeadPhrase latitude input rest) :
      SelectorPhrase latitude input rest
  | path {input m m' rest : List Char} (head : HeadPhrase latitude input m)
      (point : Lexeme ['.'] m m') (field : SelectorPhrase latitude m' rest) :
      SelectorPhrase latitude input rest
  | list {input m m' m'' m''' m'''' rest : List Char} (head : HeadPhrase latitude input m)
      (point : m = m' ∨ Lexeme ['.'] m m') (opening : Lexeme ['\x7b'] m' m'')
      (fields : FieldsPhrase latitude m'' m''') (trailing : m''' = m'''' ∨ Lexeme [';'] m''' m'''')
      (closing : Lexeme ['\x7d'] m'''' rest) : SelectorPhrase latitude input rest

/-- A selector, with a filter behind it or without. -/
inductive ClausePhrase (latitude : Latitude) : Bool → List Char → List Char → Prop where
  | plain {input rest : List Char} (target : SelectorPhrase latitude input rest) :
      ClausePhrase latitude false input rest
  | filtered {input m m' rest : List Char} (target : SelectorPhrase latitude input m)
      (bar : Lexeme ['|'] m m') (filter : FilterPhrase latitude m' rest) :
      ClausePhrase latitude true input rest

/-- Clauses in a list of fields. -/
inductive FieldsPhrase (latitude : Latitude) : List Char → List Char → Prop where
  | last {filtered : Bool} {input rest : List Char}
      (clause : ClausePhrase latitude filtered input rest) : FieldsPhrase latitude input rest
  | cons {filtered : Bool} {separator : Char} {input m m' rest : List Char}
      (clause : ClausePhrase latitude filtered input m) (sep : Lexeme [separator] m m')
      (allowed : separator = ';' ∨
        separator = ',' ∧ (filtered = false ∨ latitude.commaAfterFilter))
      (others : FieldsPhrase latitude m' rest) : FieldsPhrase latitude input rest

end

/-- The assignment of a slice to a dimension, with its semicolon. -/
def ResizePhrase (latitude : Latitude) (input rest : List Char) : Prop :=
  ∃ m m' m'', Begins NameWord input m ∧ Lexeme ['='] m m' ∧ SlicePhrase latitude m' m'' ∧
    Lexeme [';'] m'' rest

/-- Clauses with semicolons between them. -/
inductive ClausesPhrase (latitude : Latitude) : List Char → List Char → Prop where
  | last {filtered : Bool} {input rest : List Char}
      (clause : ClausePhrase latitude filtered input rest) : ClausesPhrase latitude input rest
  | cons {filtered : Bool} {input m m' rest : List Char}
      (clause : ClausePhrase latitude filtered input m) (semicolon : Lexeme [';'] m m')
      (others : ClausesPhrase latitude m' rest) : ClausesPhrase latitude input rest

/-- A whole request: resizes, then clauses or none, then a semicolon or none. Blanks may stand in
front of it. -/
def Sentence (latitude : Latitude) (text : List Char) : Prop :=
  ∃ blanks input m m', Blanks blanks ∧ text = blanks ++ input ∧
    Relation.ReflTransGen (ResizePhrase latitude) input m ∧
      (m = m' ∨ ClausesPhrase latitude m m') ∧ (m' = [] ∨ Lexeme [';'] m' [])

end Hyperslab.Grammar
