import Hyperslab.Proofs.Decimal
import Hyperslab.Proofs.Reading.Lexeme

/-! Numbers and slices as requests write them, and how they are read. -/
namespace Hyperslab

namespace Grammar

/-- Decimal digits that write `n`. Zeros may stand in front. -/
structure IsNumeral (n : Nat) (word : List Char) : Prop where
  ne_nil : word ≠ []
  digits : ∀ c ∈ word, Decimal.isDigit c = true
  value : Decimal.ofDigits word = n

theorem isNumeral_toDigits (n : Nat) : IsNumeral n (Nat.toDigits 10 n) :=
  ⟨Nat.toDigits_ne_nil, Decimal.isDigit_of_mem_toDigits, Decimal.ofDigits_toDigits n⟩

/-- `input` begins with an index. -/
def IndexText (i : UInt64) (input rest : List Char) : Prop :=
  ∃ word, IsNumeral i.toNat word ∧ Lexeme word input rest

/-- What stands between the brackets of a slice: an index, an index and an optional last one, or
these with the stride between them. -/
inductive BoundsText : Slice → List Char → List Char → Prop where
  | index {i : UInt64} {input rest : List Char} (first : IndexText i input rest) :
      BoundsText (.index i) input rest
  | openEnd {i : UInt64} {input m rest : List Char} (first : IndexText i input m)
      (colon : Lexeme [':'] m rest) : BoundsText (.range i 1 none) input rest
  | closed {i j : UInt64} {input m m' rest : List Char} (first : IndexText i input m)
      (colon : Lexeme [':'] m m') (last : IndexText j m' rest) :
      BoundsText (.range i 1 (some j)) input rest
  | stridedOpen {i s : UInt64} {input m m' m'' rest : List Char} (first : IndexText i input m)
      (colon : Lexeme [':'] m m') (stride : IndexText s m' m'') (colon' : Lexeme [':'] m'' rest) :
      BoundsText (.range i s none) input rest
  | strided {i s j : UInt64} {input m m' m'' m''' rest : List Char} (first : IndexText i input m)
      (colon : Lexeme [':'] m m') (stride : IndexText s m' m'') (colon' : Lexeme [':'] m'' m''')
      (last : IndexText j m''' rest) : BoundsText (.range i s (some j)) input rest

/-- A slice in its brackets. -/
inductive SliceText : Slice → List Char → List Char → Prop where
  | whole {input m rest : List Char} (opening : Lexeme ['['] input m)
      (closing : Lexeme [']'] m rest) : SliceText .whole input rest
  | bounded {slice : Slice} {input m m' rest : List Char} (opening : Lexeme ['['] input m)
      (bounds : BoundsText slice m m') (closing : Lexeme [']'] m' rest) :
      SliceText slice input rest

end Grammar

namespace Decimal

open Hyperslab.Parser

variable {rest : List Char}

theorem not_isDigit_of_ends (h : Ends (blankChars ++ delimiters) rest) :
    ∀ c ∈ rest.head?, isDigit c = false := by
  have hAll : ∀ c ∈ blankChars ++ delimiters, isDigit c = false := by decide
  intro c hc
  exact hAll c (h c hc)

theorem isBlank_of_isDigit {c : Char} (h : isDigit c = true) : isBlank c = false := by
  cases hBlank : isBlank c with
  | false => rfl
  | true =>
      have hNone : ∀ d ∈ blankChars, isDigit d = false := by decide
      rw [hNone c (mem_blankChars hBlank)] at h
      cases h

end Decimal

namespace Grammar

open Hyperslab.Parser

variable {input rest : List Char}

theorem IsNumeral.solid {n : Nat} {word : List Char} (h : IsNumeral n word) : Solid word :=
  fun c hc => Decimal.isBlank_of_isDigit (h.digits c (List.mem_of_mem_head? hc))

theorem IndexText.solid {i : UInt64} (h : IndexText i input rest) : Solid input := by
  obtain ⟨word, hWord, blanks, _, rfl⟩ := h
  exact hWord.solid.append hWord.ne_nil

theorem BoundsText.solid {slice : Slice} (h : BoundsText slice input rest) : Solid input := by
  cases h with
  | index first | openEnd first _ | closed first _ _ | stridedOpen first _ _ _
  | strided first _ _ _ _ => exact first.solid

theorem SliceText.opening {slice : Slice} (h : SliceText slice input rest) : Ends ['['] input := by
  cases h with
  | whole opening _ => exact ends_lexeme opening
  | bounded opening _ _ => exact ends_lexeme opening

theorem IndexText.length_lt {i : UInt64} (h : IndexText i input rest) :
    rest.length < input.length := by
  obtain ⟨word, hWord, hLexeme⟩ := h
  exact hLexeme.length_lt hWord.ne_nil

theorem BoundsText.length_lt {slice : Slice} (h : BoundsText slice input rest) :
    rest.length < input.length := by
  cases h with
  | index first => exact first.length_lt
  | openEnd first colon =>
      have hFirst := first.length_lt
      have hColon := colon.length_lt (by simp)
      omega
  | closed first colon last =>
      have hFirst := first.length_lt
      have hColon := colon.length_lt (by simp)
      have hLast := last.length_lt
      omega
  | stridedOpen first colon stride colon' =>
      have hFirst := first.length_lt
      have hColon := colon.length_lt (by simp)
      have hStride := stride.length_lt
      have hColon' := colon'.length_lt (by simp)
      omega
  | strided first colon stride colon' last =>
      have hFirst := first.length_lt
      have hColon := colon.length_lt (by simp)
      have hStride := stride.length_lt
      have hColon' := colon'.length_lt (by simp)
      have hLast := last.length_lt
      omega

theorem SliceText.length_lt {slice : Slice} (h : SliceText slice input rest) :
    rest.length < input.length := by
  cases h with
  | whole opening closing =>
      have hOpening := opening.length_lt (by simp)
      have hClosing := closing.length_lt (by simp)
      omega
  | bounded opening bounds closing =>
      have hOpening := opening.length_lt (by simp)
      have hBounds := bounds.length_lt
      have hClosing := closing.length_lt (by simp)
      omega

end Grammar

namespace Slice

open Hyperslab.Parser Grammar

variable {strict : Prop} {input rest stops : List Char}

theorem reads_numeral {i : UInt64} {word m : List Char} (h : IsNumeral i.toNat word)
    (hm : Ends (blankChars ++ delimiters) m) : Reads strict indexParser (word ++ m) i m := by
  apply Reads.of_eq
  have hSome := someWhile_append h.digits h.ne_nil (Decimal.not_isDigit_of_ends hm)
  have hFits : i.toNat < UInt64.size := i.toNat_lt_size
  simp [indexParser, hSome, h.value, hFits]

theorem reads_index {i : UInt64} (h : IndexText i input rest) (hRest : Ends delimiters rest) :
    Reads strict (token indexParser) input i rest := by
  obtain ⟨word, hWord, hLexeme⟩ := h
  exact Reads.token (fun _ hm => reads_numeral hWord hm) hWord.ne_nil hWord.solid hLexeme hRest

theorem passes_index (h : Ends delimiters input) : Passes (token indexParser) input := by
  refine Passes.token ⟨⟨false, input, []⟩, rfl, ?_⟩ h.solid
  have hAll : ∀ c ∈ delimiters, Decimal.isDigit c = false := by decide
  cases input with
  | nil => rfl
  | cons c input => simp [indexParser, someWhile, hAll c (h c (by simp))]

/-- A colon is read without the blanks behind it. -/
theorem reads_colon (strict : Prop) (h : Lexeme [':'] input rest) :
    ∃ blanks, Blanks blanks ∧ Reads strict (char ':') input ':' (blanks ++ rest) := by
  obtain ⟨blanks, hBlanks, rfl⟩ := h
  exact ⟨blanks, hBlanks, Or.inl rfl⟩

theorem passes_colon {blanks : List Char} (h : Blanks blanks) (hRest : Ends [']'] rest) :
    Passes (char ':') (blanks ++ rest) := by
  have hNone : ∀ c ∈ blankChars ++ [']'], c ∉ [':'] := by decide
  exact passes_oneOf fun c hc => hNone c (ends_blanks h hRest c hc)

/-- The bounds of a slice are read up to the blanks in front of its closing bracket. -/
theorem reads_bounds (strict : Prop) {slice : Slice} (h : BoundsText slice input rest)
    (hRest : Ends [']'] rest) :
    ∃ blanks, Blanks blanks ∧ Reads strict bounds input slice (blanks ++ rest) := by
  have hEnd : Ends delimiters rest := hRest.mono
  cases h with
  | index first =>
      have hNoMore := passes_colon Blanks.nil hRest
      refine ⟨[], Blanks.nil, (reads_index first hEnd).bind ?_⟩
      exact hNoMore.bind.maybe.bind (reads_pure _)
  | openEnd first colon =>
      obtain ⟨blanks, hBlanks, hColon⟩ := reads_colon strict colon
      have hNoSecond := (passes_index hEnd).blanks hBlanks
      have hNoThird := passes_colon hBlanks hRest
      refine ⟨blanks, hBlanks, (reads_index first (ends_lexeme colon)).bind
        (Reads.bind (Reads.maybe (a := (none, none)) ?_) (reads_pure _))⟩
      exact hColon.bind (hNoSecond.maybe.bind (hNoThird.bind.maybe.bind (reads_pure _)))
  | closed first colon last =>
      obtain ⟨blanks, hBlanks, hColon⟩ := reads_colon strict colon
      have hNoThird := passes_colon Blanks.nil hRest
      refine ⟨[], Blanks.nil, (reads_index first (ends_lexeme colon)).bind
        (Reads.bind (Reads.maybe (a := (some _, none)) ?_) (reads_pure _))⟩
      exact hColon.bind (((reads_index last hEnd).blanks hBlanks).maybe.bind
        (hNoThird.bind.maybe.bind (reads_pure _)))
  | stridedOpen first colon stride colon' =>
      obtain ⟨blanks, hBlanks, hColon⟩ := reads_colon strict colon
      obtain ⟨blanks', hBlanks', hColon'⟩ := reads_colon strict colon'
      have hNoLast := (passes_index hEnd).blanks hBlanks'
      refine ⟨blanks', hBlanks', (reads_index first (ends_lexeme colon)).bind
        (Reads.bind (Reads.maybe (a := (some _, some none)) ?_) (reads_pure _))⟩
      have hSecond : Ends delimiters _ := ends_lexeme colon'
      exact hColon.bind (((reads_index stride hSecond).blanks hBlanks).maybe.bind
        ((hColon'.bind hNoLast.maybe).maybe.bind (reads_pure _)))
  | strided first colon stride colon' last =>
      obtain ⟨blanks, hBlanks, hColon⟩ := reads_colon strict colon
      obtain ⟨blanks', hBlanks', hColon'⟩ := reads_colon strict colon'
      refine ⟨[], Blanks.nil, (reads_index first (ends_lexeme colon)).bind
        (Reads.bind (Reads.maybe (a := (some _, some (some _))) ?_) (reads_pure _))⟩
      have hSecond : Ends delimiters _ := ends_lexeme colon'
      have hLast : Reads strict (token indexParser) _ _ _ := (reads_index last hEnd).blanks hBlanks'
      exact hColon.bind (((reads_index stride hSecond).blanks hBlanks).maybe.bind
        ((hColon'.bind hLast.maybe).maybe.bind (reads_pure _)))

/-- A slice in brackets is read as the slice that it is the text of. -/
theorem reads_slice {slice : Slice} (h : SliceText slice input rest)
    (hRest : Ends delimiters rest) : Reads strict parse input slice rest := by
  have hBracket {m m' : List Char} (h : Lexeme [']'] m m') : Ends [']'] m :=
    ends_lexeme h
  cases h with
  | whole opening closing =>
      have hEnd := hBracket closing
      have hNone := passes_index hEnd.mono
      refine (opening.reads_char hEnd.mono.solid).bind (Reads.cut ?_)
      exact hNone.bind.maybe.bind
        ((closing.reads_char hRest.solid).expecting.bind (reads_pure _))
  | bounded opening bounds closing =>
      obtain ⟨blanks, hBlanks, hBounds⟩ := reads_bounds strict bounds (hBracket closing)
      have hClosing : Reads strict (token (char ']')) _ _ _ :=
        (closing.reads_char hRest.solid).blanks hBlanks
      refine (opening.reads_char bounds.solid).bind (Reads.cut ?_)
      exact hBounds.maybe.bind (hClosing.expecting.bind (reads_pure _))

theorem passes_slice (h : Ends stops input) (hBracket : '[' ∉ stops)
    (hStops : ∀ c ∈ stops, c ∈ delimiters) : Passes parse input :=
  (h.passes_char '[' hBracket hStops).bind

end Slice

end Hyperslab
