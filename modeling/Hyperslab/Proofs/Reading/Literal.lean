import Hyperslab.Proofs.Decimal.ReadBack
import Hyperslab.Proofs.Reading.Slice

/-! Operands of comparisons: literals as they are written, and names of fields. -/
namespace Hyperslab

namespace Parser

variable {strict : Prop} {input rest : List Char}

/-- What can stand behind an operand, blanks apart. -/
def operandStops : List Char := ['<', '>', '=', '!', '~', ',', ')', ';', '\x7d']

theorem operandStops_delimiters : ∀ c ∈ operandStops, c ∈ delimiters := by
  decide

theorem reads_get : Reads strict (get : Parser (List Char)) input input input :=
  Or.inl rfl

theorem reads_oneOf {c : Char} {cs : List Char} (h : c ∈ cs) :
    Reads strict (oneOf cs) (c :: rest) c rest :=
  Or.inl (by simp [oneOf, h])

theorem passes_char {c : Char} (h : ∀ d ∈ input.head?, d ≠ c) : Passes (char c) input :=
  passes_oneOf fun d hd => by simpa using h d hd

theorem passes_someWhile {q : Char → Bool} (h : ∀ c ∈ input.head?, q c = false) :
    Passes (someWhile q) input := by
  refine ⟨⟨false, input, []⟩, rfl, ?_⟩
  cases input with
  | nil => rfl
  | cons c input => simp [someWhile, h c (by simp)]

end Parser

namespace Value

open Hyperslab.Parser Decimal

variable {strict : Prop} {input rest m : List Char}

/-- Digits begin with no sign. -/
theorem not_sign_of_digits {word : List Char} (h : ∀ c ∈ word, isDigit c = true)
    (hWord : word ≠ []) : ∀ c ∈ (word ++ rest).head?, c ∉ ['+', '-'] := by
  cases word with
  | nil => exact absurd rfl hWord
  | cons d word =>
      have hSigns : ∀ c ∈ ['+', '-'], isDigit c = false := by decide
      intro c hc hSign
      simp only [List.cons_append, List.head?_cons, Option.mem_some_iff] at hc
      have hDigit := h d (by simp)
      rw [hc, hSigns c hSign] at hDigit
      cases hDigit

/-- An optional minus sign in front of digits. -/
theorem reads_sign (negative : Bool) {word : List Char} (h : ∀ c ∈ word, isDigit c = true)
    (hWord : word ≠ []) : Reads strict (maybe (char '-'))
      ((if negative then ['-'] else []) ++ (word ++ rest)) (if negative then some '-' else none)
      (word ++ rest) := by
  cases negative with
  | false =>
      refine (passes_char fun c hc hMinus => ?_).maybe
      exact not_sign_of_digits h hWord c hc (by simp [hMinus])
  | true => exact (reads_oneOf (by simp)).maybe

/-- What ends an operand is neither a digit nor part of a number in another way. -/
theorem ends_number (h : Ends (blankChars ++ operandStops) rest) :
    ∀ c ∈ rest.head?, isDigit c = false ∧ c ≠ '.' ∧ c ∉ ['e', 'E'] := by
  have hAll : ∀ c ∈ blankChars ++ operandStops, isDigit c = false ∧ c ≠ '.' ∧ c ∉ ['e', 'E'] := by
    decide
  intro c hc
  exact hAll c (h c hc)

theorem reads_exponent (e : Int) (h : ∀ c ∈ rest.head?, isDigit c = false) :
    Reads strict exponentParser
      ('e' :: ((if e < 0 then ['-'] else []) ++ (Nat.toDigits 10 e.natAbs ++ rest))) e rest := by
  have hDigits : ∀ c ∈ Nat.toDigits 10 e.natAbs, isDigit c = true := isDigit_of_mem_toDigits
  have hSome := someWhile_append hDigits Nat.toDigits_ne_nil h
  refine (reads_oneOf (by simp)).bind ?_
  by_cases hNeg : e < 0
  · simp only [hNeg, ↓reduceIte, List.cons_append, List.nil_append]
    refine (reads_oneOf (by simp)).maybe.bind ?_
    refine (Reads.of_eq hSome).bind (Or.inl ?_)
    have hValue : -(e.natAbs : Int) = e := by omega
    simp only [ofDigits_toDigits, ↓reduceIte, hValue]
    rfl
  · simp only [hNeg, ↓reduceIte, List.nil_append]
    have hNone : Passes (oneOf ['+', '-']) (Nat.toDigits 10 e.natAbs ++ rest) :=
      passes_oneOf (not_sign_of_digits hDigits Nat.toDigits_ne_nil)
    refine hNone.maybe.bind ((Reads.of_eq hSome).bind (Or.inl ?_))
    have hValue : (e.natAbs : Int) = e := by omega
    simp only [ofDigits_toDigits, reduceCtorEq, ↓reduceIte, hValue]
    rfl

theorem passes_exponent (h : ∀ c ∈ input.head?, c ∉ ['e', 'E']) : Passes exponentParser input :=
  (passes_oneOf h).bind

/-- An optional exponent behind a point. -/
theorem reads_exponentMark (n : Numeral) (hm : Ends (blankChars ++ operandStops) m) :
    Reads strict (maybe exponentParser) (n.exponentChars ++ m) n.exponent m := by
  have hEnd := ends_number hm
  unfold Numeral.exponentChars
  cases n.exponent with
  | none => exact (passes_exponent fun c hc => (hEnd c hc).2.2).maybe
  | some e =>
      simp only [List.cons_append, List.append_assoc]
      exact (reads_exponent e fun c hc => (hEnd c hc).1).maybe

theorem exponentChars_head (n : Numeral) (hm : Ends (blankChars ++ operandStops) m) :
    ∀ c ∈ (n.exponentChars ++ m).head?, isDigit c = false ∧ c ≠ '.' := by
  unfold Numeral.exponentChars
  cases n.exponent with
  | none => exact fun c hc => ⟨(ends_number hm c hc).1, (ends_number hm c hc).2.1⟩
  | some e =>
      intro c hc
      simp only [List.cons_append, List.head?_cons, Option.mem_some_iff] at hc
      subst hc
      decide

theorem fractionChars_head (n : Numeral) (hm : Ends (blankChars ++ operandStops) m) :
    ∀ c ∈ (n.fractionChars ++ (n.exponentChars ++ m)).head?, isDigit c = false := by
  unfold Numeral.fractionChars
  cases n.fraction with
  | none => exact fun c hc => (exponentChars_head n hm c hc).1
  | some digits =>
      intro c hc
      simp only [List.cons_append, List.head?_cons, Option.mem_some_iff] at hc
      subst hc
      decide

/-- What makes a number a float: its point with digits behind it, its exponent, or both. -/
theorem reads_marks {n : Numeral} (h : n.Valid) (hm : Ends (blankChars ++ operandStops) m) :
    Reads strict
      (either
        (do
          let _ ← char '.'
          let fraction ← charsWhile isDigit
          let exponent ← maybe exponentParser
          return (fraction, exponent.getD 0))
        (return ([], ← exponentParser)))
      (n.fractionChars ++ (n.exponentChars ++ m)) (n.fraction.getD [], n.exponent.getD 0) m := by
  have hHead := exponentChars_head n hm
  unfold Numeral.fractionChars
  cases hFraction : n.fraction with
  | some digits =>
      have hDigits := charsWhile_append (h.fraction_digits digits hFraction)
        fun c hc => (hHead c hc).1
      exact Reads.either ((reads_oneOf (by simp)).bind ((Reads.of_eq hDigits).bind
        ((reads_exponentMark n hm).bind (reads_pure _))))
  | none =>
      have hNoPoint := passes_char fun c hc => (hHead c hc).2
      have hExponent := h.marked
      unfold Numeral.exponentChars at hNoPoint ⊢
      cases hSome : n.exponent with
      | none => simp [hFraction, hSome] at hExponent
      | some e =>
          simp only [hSome, List.cons_append, List.append_assoc] at hNoPoint ⊢
          exact hNoPoint.bind.either_reads
            ((reads_exponent e fun c hc => (ends_number hm c hc).1).bind (reads_pure _))

/-- A number with a point or an exponent is read as its value, or is too large. -/
theorem reads_float {n : Numeral} (h : n.Valid)
    (hFinite : strict → isFinite n.literal.toFloat = true)
    (hm : Ends (blankChars ++ operandStops) m) :
    Reads strict floatParser (n.chars ++ m) n.literal.toFloat m := by
  have hChars : n.chars ++ m = (if n.negative then ['-'] else []) ++
      (n.whole ++ (n.fractionChars ++ (n.exponentChars ++ m))) := by
    simp [Numeral.chars]
  rw [hChars]
  refine reads_get.bind ((reads_sign n.negative h.whole_digits h.whole_ne_nil).bind ?_)
  have hWhole := someWhile_append h.whole_digits h.whole_ne_nil (fractionChars_head n hm)
  refine (Reads.of_eq hWhole).bind ((reads_marks h hm).bind ?_)
  have hSign : (if n.negative then some '-' else none).isSome = n.negative := by
    cases n.negative <;> rfl
  simp only [hSign]
  show Reads strict (if isFinite n.literal.toFloat = true then _ else _) m n.literal.toFloat m
  by_cases hValue : isFinite n.literal.toFloat = true
  · rw [if_pos hValue]
    exact reads_pure _
  · rw [if_neg hValue]
    exact Or.inr ⟨fun hStrict => hValue (hFinite hStrict), _, rfl, rfl⟩

theorem integerChars_append (n : Int64) : integerChars n ++ m =
    (if decide (n.toInt < 0) then ['-'] else []) ++ (Nat.toDigits 10 n.toInt.natAbs ++ m) := by
  simp [integerChars]

/-- An integer is no float: neither a point nor an exponent follows. -/
theorem passes_float_integer (n : Int64) (hm : Ends (blankChars ++ operandStops) m) :
    Passes floatParser (integerChars n ++ m) := by
  have hDigits : ∀ c ∈ Nat.toDigits 10 n.toInt.natAbs, isDigit c = true := isDigit_of_mem_toDigits
  have hSome := someWhile_append hDigits Nat.toDigits_ne_nil fun c hc => (ends_number hm c hc).1
  have hSign : Reads True (maybe (char '-')) _ _ (_ ++ m) :=
    reads_sign (decide (n.toInt < 0)) hDigits Nat.toDigits_ne_nil
  rw [integerChars_append]
  refine Passes.bind_of_ok rfl (Passes.bind_of_ok hSign.eq (Passes.bind_of_ok hSome ?_))
  have hNoPoint := passes_char fun c hc => (ends_number hm c hc).2.1
  have hNoExponent := passes_exponent fun c hc => (ends_number hm c hc).2.2
  exact (hNoPoint.bind.either hNoExponent.bind).bind

theorem reads_integer (n : Int64) (hm : Ends (blankChars ++ operandStops) m) :
    Reads strict integerParser (integerChars n ++ m) n m := by
  have hDigits : ∀ c ∈ Nat.toDigits 10 n.toInt.natAbs, isDigit c = true := isDigit_of_mem_toDigits
  have hSome := someWhile_append hDigits Nat.toDigits_ne_nil fun c hc => (ends_number hm c hc).1
  rw [integerChars_append]
  refine reads_get.bind ((reads_sign _ hDigits Nat.toDigits_ne_nil).bind
    ((Reads.of_eq hSome).bind (Or.inl ?_)))
  have hValue : (if (if decide (n.toInt < 0) then some '-' else none).isSome then
      -(n.toInt.natAbs : Int) else n.toInt.natAbs) = n.toInt := by
    by_cases hNeg : n.toInt < 0
    · simp only [hNeg, decide_true, if_true, Option.isSome_some]
      omega
    · simp only [hNeg, decide_false, Bool.false_eq_true, if_false, Option.isSome_none]
      omega
  simp only [ofDigits_toDigits, hValue, n.minValue_le_toInt, n.toInt_le, and_self, if_true,
    Int64.ofInt_toInt]
  rfl

/-- A character that neither stands in front of another one nor at the end is no backslash. -/
theorem ne_slash_of_unescaped {c : Char} {text : List Char}
    (hEscape : ∀ d rest, c = '\\' → text = d :: rest → False)
    (hLast : c = '\\' → text = [] → False) : c ≠ '\\' := by
  rintro rfl
  cases text with
  | nil => exact hLast rfl rfl
  | cons d rest => exact hEscape d rest rfl rfl

theorem unquote_plain {c : Char} (hQuote : c ≠ '"') (hSlash : c ≠ '\\') (text : List Char) :
    unquote (c :: text) = (unquote text).map fun (s, rest) => (c :: s, rest) := by
  rw [unquote]
  · exact hQuote
  · intro d rest hEq _
    exact hSlash hEq
  · intro hEq _
    exact hSlash hEq

theorem unquote_quoted (s : List Char) :
    unquote (s.flatMap escapeInString ++ '"' :: m) = some (s, m) := by
  induction s with
  | nil => rfl
  | cons c s ih =>
      by_cases hEscape : c = '"' ∨ c = '\\'
      · have hMeant : (if c = 'n' then '\n' else if c = 't' then '\t' else c) = c := by
          rcases hEscape with rfl | rfl <;> decide
        simp [escapeInString, hEscape, unquote, ih, hMeant]
      · rw [not_or] at hEscape
        rw [List.flatMap_cons, escapeInString, if_neg (by simp [hEscape]), List.append_assoc,
          List.singleton_append, unquote_plain hEscape.1 hEscape.2, ih]
        rfl

theorem reads_string (s : String) :
    Reads strict stringParser (quoted s.toList ++ m) s m := by
  have hText : quoted s.toList ++ m = '"' :: (s.toList.flatMap escapeInString ++ '"' :: m) := by
    simp [quoted]
  rw [hText]
  refine reads_get.bind ((reads_oneOf (by simp)).bind (reads_get.bind (Or.inl ?_)))
  simp only [unquote_quoted]
  rw [String.ofList_toList]
  rfl

theorem passes_string (h : ∀ c ∈ m.head?, c ≠ '"') : Passes stringParser m :=
  Passes.bind_of_ok rfl (passes_char h).bind

/-- No number begins here. -/
def NoNumber (input : List Char) : Prop :=
  ∀ rest, input = rest ∨ input = '-' :: rest → ∀ c ∈ rest.head?, isDigit c = false

theorem NoNumber.passes (h : NoNumber input) :
    Passes floatParser input ∧ Passes integerParser input := by
  have hSign : ∃ sign rest, maybe (char '-') input = .ok (sign, rest) ∧
      ∀ c ∈ rest.head?, isDigit c = false := by
    by_cases hMinus : ∃ rest, input = '-' :: rest
    · obtain ⟨rest, rfl⟩ := hMinus
      exact ⟨some '-', rest, rfl, h rest (Or.inr rfl)⟩
    · refine ⟨none, input, (passes_char ?_).maybe_eq, h input (Or.inl rfl)⟩
      intro c hc hEq
      obtain ⟨rest, rfl⟩ := List.head?_eq_some_iff.mp hc
      exact hMinus ⟨rest, by rw [hEq]⟩
  obtain ⟨sign, rest, hSign, hDigit⟩ := hSign
  have hNone := passes_someWhile hDigit
  exact ⟨Passes.bind_of_ok rfl (Passes.bind_of_ok hSign hNone.bind),
    Passes.bind_of_ok rfl (Passes.bind_of_ok hSign hNone.bind)⟩

theorem noNumber_of_head (h : ∀ c ∈ input.head?, isDigit c = false ∧ c ≠ '-') : NoNumber input := by
  rintro rest (rfl | rfl)
  · intro c hc
    exact (h c hc).1
  · exact absurd rfl (h '-' (by simp)).2

end Value

namespace Name

open Hyperslab.Parser Decimal

variable {m : List Char}

theorem noDigit_of_not_looksLiteral {c : Char} {cs : List Char}
    (h : looksLiteral (c :: cs) = false) :
    isDigit c = false ∧ (c = '-' → ∀ d ∈ cs.head?, isDigit d = false) := by
  unfold looksLiteral at h
  rw [Bool.or_eq_false_iff] at h
  by_cases hMinus : c = '-'
  · subst hMinus
    refine ⟨by decide, ?_⟩
    intro _ d hd
    obtain ⟨rest, rfl⟩ := List.head?_eq_some_iff.mp hd
    exact h.2
  · refine ⟨?_, fun hEq => absurd hEq hMinus⟩
    obtain ⟨_, h⟩ := h
    split at h
    · next hEq =>
        cases hEq
        exact absurd rfl hMinus
    · next hEq =>
        cases hEq
        exact h
    · next hEq => cases hEq

theorem not_isDigit_of_not_isPlain {c : Char} (h : isPlain c = false) : isDigit c = false := by
  cases hDigit : isDigit c with
  | false => rfl
  | true =>
      rw [isPlain_of_isDigit hDigit] at h
      cases h

/-- A name is written so that no number is read from it. -/
theorem noNumber_escape {name : List Char} (hName : name ≠ [])
    (hm : ∀ c ∈ m.head?, isDigit c = false) : Value.NoNumber (escape name ++ m) := by
  have hSlash : ∀ text, Value.NoNumber ('\\' :: text) := fun text =>
    Value.noNumber_of_head (by simp [isDigit])
  obtain ⟨c, cs, rfl⟩ := List.exists_cons_of_ne_nil hName
  cases hLiteral : looksLiteral (c :: cs) with
  | true => simpa [escape, hLiteral] using hSlash _
  | false =>
      by_cases hPlain : isPlain c = true
      · obtain ⟨hDigit, hNext⟩ := noDigit_of_not_looksLiteral hLiteral
        have hText : escape (c :: cs) ++ m =
            c :: ((cs.flatMap fun c => if isPlain c then [c] else ['\\', c]) ++ m) := by
          simp [escape, hLiteral, hPlain]
        rw [hText]
        rintro rest (rfl | hRest)
        · simpa using hDigit
        · obtain ⟨rfl, rfl⟩ := List.cons.inj hRest
          cases cs with
          | nil => simpa using hm
          | cons d ds =>
              have hd : isDigit d = false := hNext rfl d (by simp)
              by_cases hPlain' : isPlain d = true
              · simpa [hPlain'] using hd
              · simp [hPlain', isDigit]
      · simpa [escape, hLiteral, hPlain] using hSlash _

theorem escape_head_ne {name : List Char} {c : Char} (hPlain : isPlain c = false)
    (hSlash : c ≠ '\\') : ∀ d ∈ (escape name).head?, d ≠ c := by
  rintro d hd rfl
  rcases escape_head name d hd with h | h
  · rw [h] at hPlain
    cases hPlain
  · exact hSlash h

end Name

namespace Expr

open Hyperslab.Parser

variable {strict : Prop} {m : List Char}

/-- What begins neither like a string nor like a number is read as a name. -/
theorem reads_nameOperand {input rest : List Char} {e : Expr}
    (hNoString : ∀ c ∈ input.head?, c ≠ '"') (hNoNumber : Value.NoNumber input)
    (hName : Reads strict nameParser input e rest) : Reads strict operandParser input e rest := by
  obtain ⟨hNoFloat, hNoInteger⟩ := hNoNumber.passes
  exact (Value.passes_string hNoString).bind.either_reads (hNoFloat.bind.either_reads
    (hNoInteger.bind.either_reads hName))

/-- The name of a field is read as a field, whatever it looks like. -/
theorem reads_field {name : String} (hName : name ≠ "")
    (hm : ∀ c ∈ m.head?, Name.isPlain c = false ∧ c ≠ '\\') :
    Reads strict operandParser (Name.escape name.toList ++ m) (.field name) m := by
  have hNoDigit : ∀ c ∈ m.head?, Decimal.isDigit c = false := fun c hc =>
    Name.not_isDigit_of_not_isPlain (hm c hc).1
  have hList : name.toList ≠ [] := by simpa using hName
  have hNoString : ∀ c ∈ (Name.escape name.toList ++ m).head?, c ≠ '"' := by
    intro c hc
    obtain ⟨d, ds, hCons⟩ := List.exists_cons_of_ne_nil (Name.escape_ne_nil hList)
    have hHead : c ∈ (Name.escape name.toList).head? := by simpa [hCons] using hc
    exact Name.escape_head_ne (by decide) (by decide) c hHead
  refine reads_nameOperand hNoString (Name.noNumber_escape hList hNoDigit)
    ((Name.reads_spelled hName hm).bind ?_)
  cases hEscaped : Name.looksLiteral name.toList || name.toList.any (!Name.isPlain ·) with
  | true => exact reads_pure _
  | false =>
      rw [Bool.or_eq_false_iff] at hEscaped
      have hTrue : name ≠ "true" := by
        rintro rfl
        exact absurd hEscaped.1 (by decide)
      have hFalse : name ≠ "false" := by
        rintro rfl
        exact absurd hEscaped.1 (by decide)
      simp only [hTrue, hFalse, if_false, Bool.false_eq_true]
      exact reads_pure _

/-- A truth value is read as one: no backslash stands in it. -/
theorem reads_bool (b : Bool) (hm : Ends (blankChars ++ operandStops) m) :
    Reads strict operandParser (Value.boolChars b ++ m) (.constant (.bool b)) m := by
  have hEnd := Name.ends_name (hm.mono : Ends (blankChars ++ delimiters) m)
  have hHead : ∀ c ∈ (Value.boolChars b ++ m).head?,
      c ≠ '"' ∧ Decimal.isDigit c = false ∧ c ≠ '-' := by
    cases b <;> simp [Value.boolChars, Decimal.isDigit]
  have hSpelled : Name.spelled (Value.boolChars b ++ m) =
      .ok ((.ofList (Value.boolChars b), false), m) := by
    have hFlat : ((Value.boolChars b).flatMap fun c => if Name.isPlain c then [c] else ['\\', c]) =
        Value.boolChars b := by
      cases b <;> decide
    have hSplit := Name.split_flatMap (Value.boolChars b) hEnd
    rw [hFlat] at hSplit
    have hAny : (Value.boolChars b).any (!Name.isPlain ·) = false := by
      cases b <;> decide
    rw [hAny] at hSplit
    unfold Name.spelled
    rw [hSplit]
    cases b <;> rfl
  refine reads_nameOperand (fun c hc => (hHead c hc).1)
    (Value.noNumber_of_head fun c hc => (hHead c hc).2) ((Reads.of_eq hSpelled).bind ?_)
  cases b <;> exact reads_pure _

end Expr

namespace Value

open Hyperslab.Parser Decimal

variable {strict : Prop} {m : List Char}

/-- `word` is read as the constant `v`, wherever an operand may stand. -/
structure LiteralText (strict : Prop) (v : Value) (word : List Char) : Prop where
  ne_nil : word ≠ []
  head : ∀ c ∈ word.head?, isBlank c = false ∧ c ∉ ['!', '(', '=']
  reads : ∀ m, Ends (blankChars ++ operandStops) m →
    Reads strict Expr.operandParser (word ++ m) (.constant v) m

/-- Nothing is lost when a float is written and read again. -/
def ReadsBack : Value → Prop
  | float x => isFinite x = true ∧ readFloat? (Decimal.chars x) = some x
  | _ => True

instance : DecidablePred ReadsBack
  | float x => inferInstanceAs
      (Decidable (isFinite x = true ∧ readFloat? (Decimal.chars x) = some x))
  | bool _ | int _ | str _ => isTrue trivial

def Finite : Value → Prop
  | float x => isFinite x = true
  | _ => True

theorem Finite.readsBack {v : Value} (h : v.Finite) : v.ReadsBack := by
  cases v with
  | float x => exact ⟨h, readFloat?_chars_finite h⟩
  | bool | int | str => exact trivial

/-- A number begins with a digit or a minus sign. -/
theorem number_head {c : Char} (h : isDigit c = true ∨ c = '-') :
    isBlank c = false ∧ c ∉ ['!', '(', '='] ∧ c ≠ '"' := by
  rcases h with h | rfl
  · refine ⟨isBlank_of_isDigit h, ?_, ?_⟩
    · have hAll : ∀ d ∈ ['!', '(', '='], isDigit d = false := by decide
      intro hc
      rw [hAll c hc] at h
      cases h
    · rintro rfl
      exact absurd h (by decide)
  · decide

theorem signed_head (negative : Bool) {word : List Char} (h : ∀ c ∈ word, isDigit c = true)
    (hWord : word ≠ []) :
    ∀ c ∈ ((if negative then ['-'] else []) ++ (word ++ m)).head?, isDigit c = true ∨ c = '-' := by
  obtain ⟨d, ds, rfl⟩ := List.exists_cons_of_ne_nil hWord
  cases negative with
  | true => simp
  | false =>
      intro c hc
      simp only [Bool.false_eq_true, if_false, List.nil_append, List.cons_append, List.head?_cons,
        Option.mem_some_iff] at hc
      exact Or.inl (hc ▸ h d (by simp))

theorem literalText_bool (b : Bool) : LiteralText strict (.bool b) (boolChars b) := by
  refine ⟨?_, ?_, fun m hm => Expr.reads_bool b hm⟩
  · cases b <;> decide
  · cases b <;> simp [boolChars, isBlank]

theorem literalText_string (s : String) : LiteralText strict (.str s) (quoted s.toList) := by
  refine ⟨by simp [quoted], by simp [quoted, isBlank], fun m _ => Reads.either ?_⟩
  exact (reads_string s).bind (reads_pure _)

theorem literalText_integer (n : Int64) : LiteralText strict (.int n) (integerChars n) := by
  have hDigits : ∀ c ∈ Nat.toDigits 10 n.toInt.natAbs, isDigit c = true := isDigit_of_mem_toDigits
  have hHead := fun m => signed_head (m := m) (decide (n.toInt < 0)) hDigits Nat.toDigits_ne_nil
  simp only [← integerChars_append] at hHead
  refine ⟨?_, ?_, ?_⟩
  · simp [integerChars, Nat.toDigits_ne_nil]
  · intro c hc
    have := number_head (hHead [] c (by simpa using hc))
    exact ⟨this.1, this.2.1⟩
  · intro m hm
    have hNoString := passes_string fun c hc => (number_head (hHead m c hc)).2.2
    refine hNoString.bind.either_reads ((passes_float_integer n hm).bind.either_reads ?_)
    apply Reads.either
    exact (reads_integer n hm).bind (reads_pure _)

/-- A finite float is read as the value of its numeral, or as nothing where that is too large. -/
theorem literalText_float {x : Float} (h : isFinite x = true) :
    ∃ y, readFloat? (Decimal.chars x) = some y ∧
      ∀ strict : Prop, (strict → isFinite y = true) →
        LiteralText strict (.float y) (Decimal.chars x) := by
  obtain ⟨n, hValid, hChars, _⟩ := chars_numeral h
  rw [hChars]
  refine ⟨n.literal.toFloat, readFloat?_chars hValid, fun strict hFinite => ?_⟩
  have hHead := fun m => signed_head (m := m) n.negative hValid.whole_digits
    hValid.whole_ne_nil
  have hShape : ∀ m, (if n.negative then ['-'] else []) ++
      (n.whole ++ (n.fractionChars ++ (n.exponentChars ++ m))) = n.chars ++ m := by
    simp [Numeral.chars]
  refine ⟨?_, ?_, ?_⟩
  · simp [Numeral.chars, hValid.whole_ne_nil]
  · intro c hc
    have hc' := hHead (n.fractionChars ++ (n.exponentChars ++ [])) c
      (by rw [hShape, List.append_nil]; exact hc)
    exact ⟨(number_head hc').1, (number_head hc').2.1⟩
  · intro m hm
    have hNoString := passes_string fun c hc => (number_head
      (hHead (n.fractionChars ++ (n.exponentChars ++ m)) c (by rw [hShape]; exact hc))).2.2
    refine hNoString.bind.either_reads (Reads.either ?_)
    exact (reads_float hValid hFinite hm).bind (reads_pure _)

/-- A constant that can be read back is read back. -/
theorem literalText_chars {v : Value} (h : v.ReadsBack) : LiteralText strict v v.chars := by
  cases v with
  | bool b => exact literalText_bool b
  | int n => exact literalText_integer n
  | str s => exact literalText_string s
  | float x =>
      obtain ⟨y, hRead, hText⟩ := literalText_float h.1
      obtain rfl : x = y := Option.some.inj (h.2.symm.trans hRead)
      exact hText strict fun _ => h.1

/-- Any constant with a literal form is read as some constant, or as nothing. -/
theorem exists_literalText {v : Value} (h : v.Finite) : ∃ w, LiteralText False w v.chars := by
  cases v with
  | bool b => exact ⟨_, literalText_bool b⟩
  | int n => exact ⟨_, literalText_integer n⟩
  | str s => exact ⟨_, literalText_string s⟩
  | float x =>
      obtain ⟨y, _, hText⟩ := literalText_float h
      exact ⟨_, hText False False.elim⟩

end Value

end Hyperslab
