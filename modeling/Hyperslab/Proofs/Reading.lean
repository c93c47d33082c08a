import Hyperslab.Parser

/-! How parsers run on texts. A parser reads a value from the front of a text, or it passes: it
stops and leaves other readings open. A lenient reading may also stop for good, which ends every
parser around it. Each combinator has one lemma for each of its ways through the text. -/
namespace Hyperslab

/-- What holds of all characters in a list is decided along the list. -/
instance (priority := high) decidableForallMem {p : Char → Prop} [DecidablePred p]
    (cs : List Char) : Decidable (∀ c ∈ cs, p c) :=
  List.decidableBAll p cs

namespace Parser

variable {α β : Type} {strict : Prop} {p : Parser α} {input middle rest : List Char}

/-- `p` takes `input` to `a` and leaves `rest`. A reading that is not strict may stop for good
instead. -/
def Reads (strict : Prop) (p : Parser α) (input : List Char) (a : α) (rest : List Char) : Prop :=
  p input = .ok (a, rest) ∨ ¬strict ∧ ∃ stop : Stop, stop.final = true ∧ p input = .error stop

/-- `p` stops on `input` and leaves other readings open. -/
def Passes (p : Parser α) (input : List Char) : Prop :=
  ∃ stop : Stop, stop.final = false ∧ p input = .error stop

theorem bind_ok {f : α → Parser β} {a : α} (h : p input = .ok (a, middle)) :
    (p >>= f) input = f a middle := by
  show Except.bind (p input) _ = _
  rw [h]
  rfl

theorem bind_error {f : α → Parser β} {stop : Stop} (h : p input = .error stop) :
    (p >>= f) input = .error stop := by
  show Except.bind (p input) _ = _
  rw [h]
  rfl

theorem Reads.of_eq {a : α} (h : p input = .ok (a, rest)) : Reads strict p input a rest :=
  Or.inl h

theorem Reads.eq {a : α} (h : Reads True p input a rest) : p input = .ok (a, rest) := by
  rcases h with h | ⟨hStrict, _⟩
  · exact h
  · exact absurd trivial hStrict

/-- Where a reading succeeds, it succeeds as it says. -/
theorem Reads.eq_of_ok {a b : α} {rest' : List Char} (h : Reads strict p input a rest)
    (hOk : p input = .ok (b, rest')) : b = a ∧ rest' = rest := by
  rcases h with h | ⟨_, stop, _, h⟩
  · rw [hOk] at h
    cases h
    exact ⟨rfl, rfl⟩
  · rw [hOk] at h
    cases h

theorem reads_pure (a : α) : Reads strict (pure a : Parser α) input a input :=
  Or.inl rfl

theorem Reads.bind {f : α → Parser β} {a : α} {b : β} (h : Reads strict p input a middle)
    (hNext : Reads strict (f a) middle b rest) : Reads strict (p >>= f) input b rest := by
  rcases h with h | ⟨hStrict, stop, hFinal, h⟩
  · unfold Reads
    rw [bind_ok h]
    exact hNext
  · exact Or.inr ⟨hStrict, stop, hFinal, bind_error h⟩

theorem Passes.bind {f : α → Parser β} (h : Passes p input) : Passes (p >>= f) input := by
  obtain ⟨stop, hOpen, h⟩ := h
  exact ⟨stop, hOpen, bind_error h⟩

theorem Passes.bind_of_ok {f : α → Parser β} {a : α} (h : p input = .ok (a, middle))
    (hNext : Passes (f a) middle) : Passes (p >>= f) input := by
  obtain ⟨stop, hOpen, hNext⟩ := hNext
  exact ⟨stop, hOpen, by rw [bind_ok h, hNext]⟩

theorem Reads.cut {a : α} (h : Reads strict p input a rest) :
    Reads strict (cut p) input a rest := by
  rcases h with h | ⟨hStrict, stop, hFinal, h⟩
  · exact Or.inl (by simp [Parser.cut, h])
  · exact Or.inr ⟨hStrict, _, rfl, by simp [Parser.cut, h]; rfl⟩

theorem Reads.expecting {e : Expectation} {a : α} (h : Reads strict p input a rest) :
    Reads strict (expecting e p) input a rest := by
  rcases h with h | ⟨hStrict, stop, hFinal, h⟩
  · exact Or.inl (by simp [Parser.expecting, h])
  · exact Or.inr ⟨hStrict, { stop with expected := stop.expected ++ [e] }, hFinal,
      by simp [Parser.expecting, h]⟩

theorem Reads.either {q : Parser α} {a : α} (h : Reads strict p input a rest) :
    Reads strict (either p q) input a rest := by
  rcases h with h | ⟨hStrict, ⟨final, place, expected⟩, hFinal, h⟩
  · exact Or.inl (by simp [Parser.either, h])
  · cases hFinal
    exact Or.inr ⟨hStrict, _, rfl, by simp [Parser.either, h]; rfl⟩

theorem Passes.either_eq {q : Parser α} (h : Passes p input) : either p q input = q input := by
  obtain ⟨⟨final, place, expected⟩, hOpen, h⟩ := h
  cases hOpen
  simp [Parser.either, h]

theorem Passes.either_reads {q : Parser α} {a : α} (h : Passes p input)
    (hNext : Reads strict q input a rest) : Reads strict (either p q) input a rest := by
  unfold Reads
  rw [h.either_eq]
  exact hNext

theorem Passes.either {q : Parser α} (h : Passes p input) (hNext : Passes q input) :
    Passes (either p q) input := by
  unfold Passes
  rw [h.either_eq]
  exact hNext

theorem Reads.maybe {a : α} (h : Reads strict p input a rest) :
    Reads strict (maybe p) input (some a) rest := by
  rcases h with h | ⟨hStrict, ⟨final, place, expected⟩, hFinal, h⟩
  · exact Or.inl (by simp [Parser.maybe, h])
  · cases hFinal
    exact Or.inr ⟨hStrict, _, rfl, by simp [Parser.maybe, h]; rfl⟩

theorem Passes.maybe_eq (h : Passes p input) : maybe p input = .ok (none, input) := by
  obtain ⟨⟨final, place, expected⟩, hOpen, h⟩ := h
  cases hOpen
  simp [Parser.maybe, h]

theorem Passes.maybe (h : Passes p input) : Reads strict (maybe p) input none input :=
  Or.inl h.maybe_eq

/-- A run of characters ends where the text goes on with another one. -/
theorem takeWhile_append {q : Char → Bool} {word : List Char} (h : ∀ c ∈ word, q c = true)
    (hRest : ∀ c ∈ rest.head?, q c = false) :
    (word ++ rest).takeWhile q = word ∧ (word ++ rest).dropWhile q = rest := by
  rw [List.takeWhile_append_of_pos h, List.dropWhile_append_of_pos h]
  cases rest with
  | nil => simp
  | cons c rest => simp [hRest c (by simp)]

theorem someWhile_append {q : Char → Bool} {word : List Char} (h : ∀ c ∈ word, q c = true)
    (hWord : word ≠ []) (hRest : ∀ c ∈ rest.head?, q c = false) :
    someWhile q (word ++ rest) = .ok (word, rest) := by
  obtain ⟨hTake, hDrop⟩ := takeWhile_append h hRest
  simp [someWhile, hTake, hDrop, hWord]

theorem charsWhile_append {q : Char → Bool} {word : List Char} (h : ∀ c ∈ word, q c = true)
    (hRest : ∀ c ∈ rest.head?, q c = false) :
    charsWhile q (word ++ rest) = .ok (word, rest) := by
  obtain ⟨hTake, hDrop⟩ := takeWhile_append h hRest
  simp [charsWhile, hTake, hDrop]

/-- Successive readings of `p`, each of which takes something. -/
inductive ReadsRun (strict : Prop) (p : Parser α) : List Char → List α → List Char → Prop where
  | nil (input : List Char) : ReadsRun strict p input [] input
  | cons {input middle rest : List Char} {a : α} {as : List α}
      (first : Reads strict p input a middle) (shorter : middle.length < input.length)
      (others : ReadsRun strict p middle as rest) : ReadsRun strict p input (a :: as) rest

theorem ReadsRun.snoc {a : α} {as : List α} (run : ReadsRun strict p input as middle)
    (last : Reads strict p middle a rest) (shorter : rest.length < middle.length) :
    ReadsRun strict p input (as ++ [a]) rest := by
  induction run with
  | nil => exact .cons last shorter (.nil _)
  | cons first hShorter _ ih => exact .cons first hShorter (ih last shorter)

theorem ReadsRun.length_le {as : List α} (run : ReadsRun strict p input as rest) :
    as.length + rest.length ≤ input.length := by
  induction run with
  | nil => simp
  | cons _ shorter _ ih =>
      simp only [List.length_cons]
      omega

theorem ReadsRun.upTo {as : List α} (run : ReadsRun strict p input as rest) (h : Passes p rest)
    (n : Nat) (hn : as.length ≤ n) : Reads strict (upTo p n) input as rest := by
  induction run generalizing n with
  | nil =>
      cases n with
      | zero => exact reads_pure []
      | succ n => exact h.maybe.bind (reads_pure [])
  | cons first _ _ ih =>
      cases n with
      | zero => simp at hn
      | succ n =>
          exact first.maybe.bind ((ih h n (by simpa using hn)).bind (reads_pure _))

/-- A run that goes on until its parser passes is what `many` reads. -/
theorem ReadsRun.many {as : List α} (run : ReadsRun strict p input as rest) (h : Passes p rest) :
    Reads strict (many p) input as rest :=
  run.upTo h input.length (by have := run.length_le; omega)

end Parser

end Hyperslab
