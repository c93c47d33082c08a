import Hyperslab.Proofs.Reading.Sentence

/-! What a parser leaves of the texts that it reads. Words are followed by the text behind them, and
phrases by the text behind the blanks. Each combinator has one lemma. -/
namespace Hyperslab

namespace Parser

open Grammar

variable {α β : Type} {p : Parser α} {view : List Char → List Char} {start : List Char}
  {R : α → List Char → Prop} {S : β → List Char → Prop}

/-- Where `p` reads a text that is seen as `start`, it leaves one that is seen as a text with the
property `R`. -/
def Leaves (view : List Char → List Char) (start : List Char) (p : Parser α)
    (R : α → List Char → Prop) : Prop :=
  ∀ ⦃input rest : List Char⦄ ⦃a : α⦄, view input = start → p input = .ok (a, rest) →
    R a (view rest)

/-- A text without the blanks in front of it. -/
def stripped (text : List Char) : List Char := text.dropWhile isBlank

theorem leaves_pure {a : α} (h : R a start) : Leaves view start (pure a : Parser α) R := by
  intro input rest b hStart hOk
  cases hOk
  exact hStart ▸ h

theorem leaves_refuse {place : List Char} {e : Expectation} :
    Leaves view start (refuse place e : Parser α) R :=
  fun _ _ _ _ hOk => nomatch hOk

theorem Passes.of_bind {f : α → Parser β} {a : α} {input middle : List Char}
    (h : Passes (p >>= f) input) (hOk : p input = .ok (a, middle)) : Passes (f a) middle := by
  obtain ⟨stop, hOpen, h⟩ := h
  exact ⟨stop, hOpen, (bind_ok hOk).symm.trans h⟩

theorem Leaves.bind {f : α → Parser β} (h : Leaves view start p R)
    (hNext : ∀ a m, R a m → Leaves view m (f a) S) : Leaves view start (p >>= f) S := by
  intro input rest b hStart hOk
  cases hFirst : p input with
  | error stop =>
      rw [bind_error hFirst] at hOk
      cases hOk
  | ok done =>
      obtain ⟨a, middle⟩ := done
      rw [bind_ok hFirst] at hOk
      exact hNext a _ (h hStart hFirst) rfl hOk

theorem Leaves.mono {R' : α → List Char → Prop} (h : Leaves view start p R)
    (hSub : ∀ a m, R a m → R' a m) : Leaves view start p R' :=
  fun _ _ a hStart hOk => hSub a _ (h hStart hOk)

theorem Leaves.cut (h : Leaves view start p R) : Leaves view start (cut p) R := by
  intro input rest a hStart hOk
  unfold Parser.cut at hOk
  split at hOk
  · cases hOk
  · next hFirst =>
      cases hOk
      exact h hStart hFirst

theorem Leaves.expecting {e : Expectation} (h : Leaves view start p R) :
    Leaves view start (expecting e p) R := by
  intro input rest a hStart hOk
  unfold Parser.expecting at hOk
  split at hOk
  · cases hOk
  · next hFirst =>
      cases hOk
      exact h hStart hFirst

theorem Leaves.either {q : Parser α} (h : Leaves view start p R) (h' : Leaves view start q R) :
    Leaves view start (either p q) R := by
  intro input rest a hStart hOk
  unfold Parser.either at hOk
  split at hOk
  · exact h' hStart hOk
  · cases hOk
  · next hFirst =>
      cases hOk
      exact h hStart hFirst

/-- What is tried on a text that the first parser passes. -/
theorem Leaves.either_of_passes {q : Parser α} (h : Leaves id start p R)
    (h' : Passes p start → Leaves id start q R) : Leaves id start (Parser.either p q) R := by
  intro input rest a hStart hOk
  subst hStart
  cases hFirst : p input with
  | ok done =>
      exact h rfl (hFirst.trans (by simpa [Parser.either, hFirst] using hOk))
  | error stop =>
      obtain ⟨_ | _, place, expected⟩ := stop
      · exact h' ⟨_, rfl, hFirst⟩ rfl (by simpa [Parser.either, hFirst] using hOk)
      · simp [Parser.either, hFirst] at hOk

/-- An optional part may be missing, and then leaves everything. -/
theorem Leaves.maybe (h : Leaves view start p R) : Leaves view start (maybe p) fun o m =>
    o = none ∧ m = start ∨ ∃ a, o = some a ∧ R a m := by
  intro input rest o hStart hOk
  unfold Parser.maybe at hOk
  split at hOk
  · cases hOk
    exact Or.inl ⟨rfl, hStart⟩
  · cases hOk
  · next hFirst =>
      cases hOk
      exact Or.inr ⟨_, rfl, h hStart hFirst⟩

theorem leaves_get : Leaves view start (get : Parser (List Char)) fun _ m => m = start := by
  intro input rest text hStart hOk
  cases hOk
  exact hStart

theorem Leaves.upTo {T : List Char → List Char → Prop}
    (h : ∀ start, Leaves view start p fun _ m => T start m) (n : Nat) :
    Leaves view start (upTo p n) fun _ m => Relation.ReflTransGen T start m := by
  induction n generalizing start with
  | zero => exact leaves_pure .refl
  | succ n ih =>
      refine (h start).maybe.bind fun o m ho => ?_
      rcases ho with ⟨rfl, rfl⟩ | ⟨a, rfl, hFirst⟩
      · exact leaves_pure .refl
      · exact ih.bind fun as m' hOthers => leaves_pure (.head hFirst hOthers)

/-- Repeating a parser leaves what successive steps of its relation lead to. -/
theorem Leaves.many {T : List Char → List Char → Prop}
    (h : ∀ start, Leaves view start p fun _ m => T start m) :
    Leaves view start (many p) fun _ m => Relation.ReflTransGen T start m :=
  fun input _ _ hStart hOk => Leaves.upTo h input.length hStart hOk

theorem leaves_skipBlanks : Leaves stripped start skipBlanks fun _ m => m = start := by
  intro input rest u hStart hOk
  cases hOk
  rw [← hStart]
  exact List.dropWhile_idempotent _ _

theorem Leaves.token (h : Leaves stripped start p R) : Leaves stripped start (token p) R := by
  refine leaves_skipBlanks.bind fun _ m hm => ?_
  subst hm
  refine h.bind fun a m ha => leaves_skipBlanks.bind fun _ m' hm' => leaves_pure ?_
  exact hm' ▸ ha

/-- A parser that reads a word leaves what stands behind the word and its blanks. -/
theorem Leaves.word {kind : α → List Char → Prop}
    (h : ∀ start, Leaves id start p fun a m =>
      ∃ word, kind a word ∧ word ≠ [] ∧ Solid word ∧ start = word ++ m) :
    Leaves stripped start p fun a m => Begins (kind a) start m := by
  intro input rest a hStart hOk
  obtain ⟨word, hKind, hWord, hSolid, rfl⟩ := h input rfl hOk
  rw [stripped, id, (hSolid.append hWord).dropWhile] at hStart
  refine ⟨word, hKind, rest.takeWhile isBlank, fun c hc => List.mem_takeWhile_imp hc, ?_⟩
  rw [stripped, List.takeWhile_append_dropWhile, hStart]

theorem leaves_someWhile {q : Char → Bool} : Leaves id start (someWhile q) fun word m =>
    word ≠ [] ∧ (∀ c ∈ word, q c = true) ∧ start = word ++ m := by
  intro input rest word hStart hOk
  unfold someWhile at hOk
  split at hOk
  · cases hOk
  · next hWord =>
      cases hOk
      refine ⟨by simpa using hWord, fun c hc => List.mem_takeWhile_imp hc, ?_⟩
      rw [← hStart, id, id, List.takeWhile_append_dropWhile]

theorem leaves_charsWhile {q : Char → Bool} : Leaves id start (charsWhile q) fun word m =>
    (∀ c ∈ word, q c = true) ∧ start = word ++ m := by
  intro input rest word hStart hOk
  cases hOk
  refine ⟨fun c hc => List.mem_takeWhile_imp hc, ?_⟩
  rw [← hStart, id, id, List.takeWhile_append_dropWhile]

theorem leaves_oneOf {cs : List Char} :
    Leaves id start (oneOf cs) fun c m => c ∈ cs ∧ start = c :: m := by
  intro input rest c hStart hOk
  subst hStart
  cases input with
  | nil => cases hOk
  | cons d input =>
      rw [oneOf] at hOk
      split at hOk
      · next hc =>
          cases hOk
          exact ⟨hc, rfl⟩
      · cases hOk

/-- One of some characters that are no blanks is a word. -/
theorem leaves_mark {cs : List Char} (h : ∀ c ∈ cs, isBlank c = false) :
    Leaves stripped start (oneOf cs) fun c m => c ∈ cs ∧ Lexeme [c] start m := by
  have hWord : Leaves stripped start (oneOf cs) fun c m =>
      Begins (fun word => c ∈ cs ∧ word = [c]) start m := by
    refine Leaves.word fun start => leaves_oneOf.mono fun c m hc => ?_
    exact ⟨[c], ⟨hc.1, rfl⟩, by simp, by simpa [Solid] using h c hc.1, hc.2⟩
  refine hWord.mono fun c m hBegins => ?_
  obtain ⟨word, ⟨hc, rfl⟩, hLexeme⟩ := hBegins
  exact ⟨hc, hLexeme⟩

theorem leaves_char (c : Char) (h : isBlank c = false) :
    Leaves stripped start (char c) fun _ m => Lexeme [c] start m := by
  refine (leaves_mark (by simpa using h)).mono fun d m hd => ?_
  rw [List.mem_singleton.mp hd.1] at hd
  exact hd.2

end Parser

end Hyperslab
