import Hyperslab.Name
import Hyperslab.Proofs.Reading
import Hyperslab.Request.Grammar

/-! Words of a text with the blanks behind them. The blanks in front of a word belong to the word
before it, or to nothing where the text begins. -/
namespace Hyperslab

namespace Grammar

/-- Any run of blanks, also an empty one. -/
def Blanks (text : List Char) : Prop := ∀ c ∈ text, Parser.isBlank c = true

/-- `input` is `word`, any blanks, and `rest`. -/
def Lexeme (word input rest : List Char) : Prop :=
  ∃ blanks, Blanks blanks ∧ input = word ++ (blanks ++ rest)

theorem Lexeme.tight (word rest : List Char) : Lexeme word (word ++ rest) rest :=
  ⟨[], by simp [Blanks], rfl⟩

theorem Blanks.nil : Blanks [] := by
  simp [Blanks]

theorem Lexeme.length_lt {word input rest : List Char} (h : Lexeme word input rest)
    (hWord : word ≠ []) : rest.length < input.length := by
  obtain ⟨blanks, _, rfl⟩ := h
  have := List.length_pos_iff.mpr hWord
  simp only [List.length_append]
  omega

end Grammar

namespace Parser

open Grammar

variable {α : Type} {strict : Prop} {p : Parser α} {input rest : List Char} {stops : List Char}

/-- The text is over, or goes on with one of the given characters. -/
def Ends (stops rest : List Char) : Prop := ∀ c ∈ rest.head?, c ∈ stops

/-- What can stand behind a word, blanks apart. -/
def delimiters : List Char :=
  [';', ',', '\x7b', '\x7d', '[', ']', '(', ')', '|', '.', ':', '=', '!', '<', '>', '~']

def blankChars : List Char := [' ', '\t', '\r', '\n']

theorem ends_nil : Ends stops [] := by
  simp [Ends]

theorem ends_cons {c : Char} (h : c ∈ stops) : Ends stops (c :: rest) := by
  simpa [Ends] using h

theorem Ends.mono {wider : List Char} (h : Ends stops rest)
    (hSub : ∀ c ∈ stops, c ∈ wider := by decide) : Ends wider rest :=
  fun c hc => hSub c (h c hc)

/-- A word that stands for something begins with a character that is no blank. -/
def Solid (input : List Char) : Prop := ∀ c ∈ input.head?, isBlank c = false

theorem Ends.solid (h : Ends delimiters rest) : Solid rest := by
  have hAll : ∀ c ∈ delimiters, isBlank c = false := by decide
  intro c hc
  exact hAll c (h c hc)

theorem Solid.dropWhile (h : Solid input) : input.dropWhile isBlank = input := by
  cases input with
  | nil => rfl
  | cons c input => simp [h c (by simp)]

theorem dropWhile_blanks {blanks : List Char} (h : Blanks blanks) :
    (blanks ++ input).dropWhile isBlank = input.dropWhile isBlank :=
  List.dropWhile_append_of_pos h

theorem mem_blankChars {c : Char} (h : isBlank c = true) : c ∈ blankChars := by
  simp only [isBlank, Bool.or_eq_true, decide_eq_true_eq] at h
  simpa [blankChars, or_assoc] using h

/-- Behind a word stands a blank or what stands behind the blanks. -/
theorem ends_blanks {blanks : List Char} (h : Blanks blanks) (hRest : Ends stops rest) :
    Ends (blankChars ++ stops) (blanks ++ rest) := by
  cases blanks with
  | nil => exact hRest.mono fun c hc => by simp [hc]
  | cons c blanks => exact ends_cons (by simp [mem_blankChars (h c (by simp))])

theorem token_eq (p : Parser α) (input : List Char) :
    token p input = (p >>= fun a => skipBlanks >>= fun _ => pure a) (input.dropWhile isBlank) :=
  rfl

/-- Blanks in front of a token are skipped. -/
theorem token_blanks {blanks : List Char} (h : Blanks blanks) (p : Parser α) :
    token p (blanks ++ input) = token p input := by
  rw [token_eq, token_eq, dropWhile_blanks h]

theorem Reads.blanks {blanks : List Char} {a : α} (h : Blanks blanks)
    (hReads : Reads strict (Parser.token p) input a rest) :
    Reads strict (Parser.token p) (blanks ++ input) a rest := by
  unfold Reads
  rw [token_blanks h]
  exact hReads

theorem Passes.blanks {blanks : List Char} (h : Blanks blanks)
    (hPasses : Passes (Parser.token p) input) : Passes (Parser.token p) (blanks ++ input) := by
  unfold Passes
  rw [token_blanks h]
  exact hPasses

theorem reads_skipBlanks : Reads strict skipBlanks input () (input.dropWhile isBlank) :=
  Or.inl rfl

/-- Where no blanks are, none are skipped. -/
theorem Solid.reads_skipBlanks (h : Solid input) : Reads strict skipBlanks input () input :=
  Or.inl (by rw [skipBlanks, h.dropWhile])

theorem Solid.append {word : List Char} (h : Solid word) (hWord : word ≠ []) :
    Solid (word ++ input) := by
  cases word with
  | nil => exact absurd rfl hWord
  | cons c word => simpa [Solid] using h

/-- A parser that reads a word reads the lexeme of the word, with the blanks behind it. -/
theorem Reads.lexeme {word : List Char} {a : α}
    (h : ∀ blanks, Blanks blanks → Reads strict p (word ++ (blanks ++ rest)) a (blanks ++ rest))
    (hWord : word ≠ []) (hSolid : Solid word) (hLexeme : Lexeme word input rest)
    (hRest : Solid rest) : Reads strict (token p) input a rest := by
  obtain ⟨blanks, hBlanks, rfl⟩ := hLexeme
  have hBack : (blanks ++ rest).dropWhile isBlank = rest := by
    rw [dropWhile_blanks hBlanks, hRest.dropWhile]
  have hSkip : Reads strict (skipBlanks >>= fun _ => (pure a : Parser α)) (blanks ++ rest) a
      ((blanks ++ rest).dropWhile isBlank) := reads_skipBlanks.bind (reads_pure a)
  rw [hBack] at hSkip
  unfold Reads
  rw [token_eq, (hSolid.append hWord).dropWhile]
  exact (h blanks hBlanks).bind hSkip

/-- The same for a parser that needs to see where the word ends. -/
theorem Reads.token {word : List Char} {a : α}
    (h : ∀ m, Ends (blankChars ++ delimiters) m → Reads strict p (word ++ m) a m)
    (hWord : word ≠ []) (hSolid : Solid word) (hLexeme : Lexeme word input rest)
    (hRest : Ends delimiters rest) : Reads strict (token p) input a rest :=
  Reads.lexeme (fun _ hBlanks => h _ (ends_blanks hBlanks hRest)) hWord hSolid hLexeme hRest.solid

/-- A word of one character shows where the text before it ends. -/
theorem ends_lexeme {c : Char} (h : Lexeme [c] input rest) (hc : c ∈ stops := by decide) :
    Ends stops input := by
  obtain ⟨blanks, _, rfl⟩ := h
  exact ends_cons hc

theorem Passes.token (h : Passes p input) (hSolid : Solid input) : Passes (token p) input := by
  unfold Passes
  rw [token_eq, hSolid.dropWhile]
  exact h.bind

theorem passes_oneOf {cs : List Char} (h : ∀ c ∈ input.head?, c ∉ cs) :
    Passes (oneOf cs) input := by
  cases input with
  | nil => exact ⟨⟨false, [], []⟩, rfl, rfl⟩
  | cons c input =>
      have hc : c ∉ cs := h c (by simp)
      exact ⟨⟨false, c :: input, []⟩, rfl, by simp [oneOf, hc]⟩

theorem Ends.passes_char (c : Char) (h : Ends stops input) (hc : c ∉ stops := by decide)
    (hStops : ∀ d ∈ stops, d ∈ delimiters := by decide) : Passes (Parser.token (char c)) input :=
  Passes.token
    (passes_oneOf fun d hd => by
      rintro hEq
      simp only [List.mem_singleton] at hEq
      exact hc (hEq ▸ h d hd))
    (h.mono hStops).solid

end Parser

namespace Grammar.Lexeme

open Hyperslab.Parser

variable {strict : Prop} {input rest : List Char}

theorem reads_oneOf {c : Char} {cs : List Char} (h : Lexeme [c] input rest) (hc : c ∈ cs)
    (hBlank : isBlank c = false) (hRest : Solid rest) :
    Reads strict (token (oneOf cs)) input c rest :=
  Reads.lexeme (fun _ _ => Or.inl (by simp [oneOf, hc])) (by simp) (by simpa [Solid] using hBlank) h
    hRest

theorem reads_char {c : Char} (h : Lexeme [c] input rest) (hRest : Solid rest)
    (hBlank : isBlank c = false := by decide) : Reads strict (token (char c)) input c rest :=
  reads_oneOf h (by simp) hBlank hRest

end Grammar.Lexeme

namespace Name

open Hyperslab.Parser

variable {strict : Prop} {rest : List Char}

/-- Where a name ends: at the end of the text, a blank or a delimiter. -/
theorem ends_name (h : Ends (blankChars ++ delimiters) rest) :
    ∀ c ∈ rest.head?, isPlain c = false ∧ c ≠ '\\' := by
  have hAll : ∀ c ∈ blankChars ++ delimiters, isPlain c = false ∧ c ≠ '\\' := by decide
  intro c hc
  exact hAll c (h c hc)

theorem split_rest (h : ∀ c ∈ rest.head?, isPlain c = false ∧ c ≠ '\\') :
    split rest = ([], false, rest) := by
  cases rest with
  | nil => rfl
  | cons c rest =>
      obtain ⟨hPlain, hSlash⟩ := h c (by simp)
      rw [split]
      · simp [hPlain]
      · rintro d rest' rfl
        intro _
        exact hSlash rfl

theorem ne_slash_of_isPlain {c : Char} (h : isPlain c = true) : c ≠ '\\' := by
  rintro rfl
  exact absurd h (by decide)

theorem split_plain {c : Char} (h : isPlain c = true) (text : List Char) :
    split (c :: text) = (c :: (split text).1, (split text).2) := by
  rw [split]
  · simp [h]
  · intro d rest' hSlash _
    exact ne_slash_of_isPlain h hSlash

theorem split_flatMap (name : List Char)
    (h : ∀ c ∈ rest.head?, isPlain c = false ∧ c ≠ '\\') :
    split ((name.flatMap fun c => if isPlain c then [c] else ['\\', c]) ++ rest) =
      (name, name.any (!isPlain ·), rest) := by
  induction name with
  | nil => simpa using split_rest h
  | cons c name ih =>
      by_cases hPlain : isPlain c = true
      · simp [hPlain, split_plain hPlain, ih]
      · simp [hPlain, split, ih]

theorem isPlain_of_isDigit {c : Char} (h : Decimal.isDigit c = true) : isPlain c = true := by
  simp only [Decimal.isDigit, Bool.and_eq_true, decide_eq_true_eq, Char.le_def,
    UInt32.le_iff_toNat_le] at h
  have hAscii : c.toNat < 128 := by
    have hNine : '9'.val.toNat = 57 := rfl
    have hc : c.toNat = c.val.toNat := rfl
    omega
  have hDigit : c.isDigit = true := by
    simp only [Char.isDigit, Bool.and_eq_true, decide_eq_true_eq, ge_iff_le,
      UInt32.le_iff_toNat_le]
    exact h
  have hLetter : Unicode.isAlphanumeric c = true := by
    unfold Unicode.isAlphanumeric
    rw [if_pos hAscii, Char.isAlphanum, hDigit, Bool.or_true]
  rw [isPlain, hLetter, Bool.true_or]

theorem looksLiteral_plain {c : Char} {name : List Char} (h : looksLiteral (c :: name) = true) :
    isPlain c = true := by
  unfold looksLiteral at h
  rw [Bool.or_eq_true, Bool.or_eq_true] at h
  rcases h with (h | h) | h
  · cases of_decide_eq_true h
    decide
  · cases of_decide_eq_true h
    decide
  · split at h
    · next hEq =>
        cases hEq
        decide
    · next hEq =>
        cases hEq
        exact isPlain_of_isDigit h
    · next hEq => cases hEq

/-- A written name is read back, and a name that looks like a literal has a backslash. -/
theorem split_escape (name : List Char)
    (h : ∀ c ∈ rest.head?, isPlain c = false ∧ c ≠ '\\') :
    split (escape name ++ rest) =
      (name, looksLiteral name || name.any (!isPlain ·), rest) := by
  cases hLiteral : looksLiteral name with
  | false => simpa [escape, hLiteral] using split_flatMap name h
  | true =>
      cases name with
      | nil => exact absurd hLiteral (by decide)
      | cons c name =>
          have hPlain := looksLiteral_plain hLiteral
          have hTail := split_flatMap name h
          simp [escape, hLiteral, hPlain, split, hTail]

/-- A written name begins with a character of names or with a backslash. -/
theorem escape_head (name : List Char) :
    ∀ c ∈ (escape name).head?, isPlain c = true ∨ c = '\\' := by
  intro c hc
  cases name with
  | nil =>
      have hNil : escape [] = [] := by decide
      simp [hNil] at hc
  | cons d name =>
      cases hLiteral : looksLiteral (d :: name) with
      | true =>
          simp only [escape, hLiteral, ↓reduceIte, List.cons_append, List.head?_cons,
            Option.mem_some_iff] at hc
          exact Or.inr hc.symm
      | false =>
          by_cases hPlain : isPlain d = true
          · simp [escape, hLiteral, hPlain] at hc
            exact Or.inl (hc ▸ hPlain)
          · simp [escape, hLiteral, hPlain] at hc
            exact Or.inr hc.symm

theorem not_isBlank_of_isPlain {c : Char} (h : isPlain c = true) : isBlank c = false := by
  cases hBlank : isBlank c with
  | false => rfl
  | true =>
      have hNone : ∀ d ∈ blankChars, isPlain d = false := by decide
      rw [hNone c (mem_blankChars hBlank)] at h
      cases h

theorem escape_solid (name : List Char) : Solid (escape name) := by
  intro c hc
  rcases escape_head name c hc with h | rfl
  · exact not_isBlank_of_isPlain h
  · decide

theorem escape_ne_nil {name : List Char} (h : name ≠ []) : escape name ≠ [] := by
  cases name with
  | nil => exact absurd rfl h
  | cons c name =>
      by_cases hPlain : isPlain c = true <;> simp [escape, hPlain]

/-- Reading a written name gives the name, and whether a backslash was needed. -/
theorem reads_spelled {name : String} (hName : name ≠ "")
    (hRest : ∀ c ∈ rest.head?, isPlain c = false ∧ c ≠ '\\') :
    Reads strict spelled (escape name.toList ++ rest)
      (name, looksLiteral name.toList || name.toList.any (!isPlain ·)) rest := by
  apply Reads.of_eq
  have hSplit := split_escape name.toList hRest
  have hList : name.toList ≠ [] := by simpa using hName
  obtain ⟨c, cs, hCons⟩ := List.exists_cons_of_ne_nil hList
  simp only [spelled, hSplit]
  rw [← String.ofList_toList (s := name), hCons]
  simp

theorem reads_parse {name : String} (hName : name ≠ "") {m : List Char}
    (hm : Ends (blankChars ++ delimiters) m) :
    Reads strict Name.parse (escape name.toList ++ m) name m :=
  (reads_spelled hName (ends_name hm)).bind (reads_pure name)

theorem reads_lexeme {name : String} {input : List Char}
    (h : Grammar.Lexeme (escape name.toList) input rest) (hName : name ≠ "")
    (hRest : Ends delimiters rest) : Reads strict (token Name.parse) input name rest :=
  Reads.token (fun _ hm => reads_parse hName hm) (escape_ne_nil (by simpa using hName))
    (escape_solid _) h hRest

end Name

end Hyperslab
