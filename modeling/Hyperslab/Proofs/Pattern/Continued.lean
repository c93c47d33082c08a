import Hyperslab.Pattern.Reader

/-! What the readers of patterns make of a text that goes on with the closing parenthesis of a group
around it. They read the same, and leave the rest with the same continuation behind it. -/
namespace Hyperslab.Pattern

mutual

theorem length_skipSpace_le : (text : List Char) → (skipSpace text).length ≤ text.length
  | [] => Nat.le_refl _
  | c :: text => by
      rw [skipSpace]
      split
      · exact Nat.le_succ_of_le (length_skipSpace_le text)
      · split
        · exact Nat.le_succ_of_le (length_skipComment_le text)
        · exact Nat.le_refl _

theorem length_skipComment_le :
    (text : List Char) → (skipSpace.skipComment text).length ≤ text.length
  | [] => Nat.le_refl _
  | c :: text => by
      rw [skipSpace.skipComment]
      split
      · exact Nat.le_succ_of_le (length_skipSpace_le text)
      · exact Nat.le_succ_of_le (length_skipComment_le text)

end

theorem length_skip_le (flags : Flags) (text : List Char) :
    (flags.skip text).length ≤ text.length := by
  unfold Flags.skip
  split
  · exact length_skipSpace_le text
  · exact Nat.le_refl _

/-- The second text is the first one, or goes on where the first one ends with what closes a group
that is to be the whole text. -/
inductive Continues : List Char → List Char → Prop where
  | ended : Continues [] []
  | closed : Continues [] [')', '$']
  | cons (c : Char) {text text' : List Char} (h : Continues text text') :
      Continues (c :: text) (c :: text')

namespace Continues

variable {text text' : List Char}

theorem append : (text : List Char) → Continues text (text ++ [')', '$'])
  | [] => .closed
  | c :: text => .cons c (append text)

theorem length_le (h : Continues text text') : text.length ≤ text'.length := by
  induction h with
  | ended => exact Nat.le_refl _
  | closed => exact Nat.zero_le _
  | cons c _ ih => exact Nat.succ_le_succ ih

mutual

theorem skipSpace {text text' : List Char} (h : Continues text text') :
    Continues (skipSpace text) (skipSpace text') := by
  cases h with
  | ended => exact .ended
  | closed => exact .closed
  | cons c h =>
      simp only [Pattern.skipSpace]
      split
      · exact h.skipSpace
      · split
        · exact h.skipComment
        · exact .cons c h

theorem skipComment {text text' : List Char} (h : Continues text text') :
    Continues (skipSpace.skipComment text) (skipSpace.skipComment text') := by
  cases h with
  | ended => exact .ended
  | closed =>
      -- An open comment swallows the closing parenthesis as well, so nothing is left of either.
      exact .ended
  | cons c h =>
      simp only [Pattern.skipSpace.skipComment]
      split
      · exact h.skipSpace
      · exact h.skipComment

end

theorem skip (h : Continues text text') (flags : Flags) :
    Continues (flags.skip text) (flags.skip text') := by
  unfold Flags.skip
  split
  · exact h.skipSpace
  · exact h

theorem cons_right {c : Char} (h : Continues (c :: text) text') :
    ∃ behind, text' = c :: behind ∧ Continues text behind := by
  cases h with
  | cons _ h => exact ⟨_, rfl, h⟩

theorem cons_cons_right {c d : Char} (h : Continues (c :: d :: text) text') :
    ∃ behind, text' = c :: d :: behind ∧ Continues text behind := by
  obtain ⟨_, rfl, hMore⟩ := h.cons_right
  obtain ⟨behind, rfl, hBehind⟩ := hMore.cons_right
  exact ⟨behind, rfl, hBehind⟩

theorem nil_inv (h : Continues text []) : text = [] := by
  cases h
  rfl

/-- What begins the longer text begins the shorter one, except where the group is closed. -/
theorem cons_inv {c : Char} (h : Continues text (c :: text')) (hOpen : c ≠ ')') :
    ∃ before, text = c :: before ∧ Continues before text' := by
  cases h with
  | closed => exact absurd rfl hOpen
  | cons _ h => exact ⟨_, rfl, h⟩

theorem not_cons {c : Char} (h : Continues text text') (hOpen : c ≠ ')')
    (hNot : ∀ rest, text = c :: rest → False) : ∀ rest, text' = c :: rest → False := by
  rintro rest rfl
  obtain ⟨before, hSame, _⟩ := h.cons_inv hOpen
  exact hNot before hSame

theorem not_cons_cons {c d : Char} (h : Continues text text') (hOpen : c ≠ ')') (hOpen' : d ≠ ')')
    (hNot : ∀ rest, text = c :: d :: rest → False) :
    ∀ rest, text' = c :: d :: rest → False := by
  rintro rest rfl
  obtain ⟨_, rfl, hMore⟩ := h.cons_inv hOpen
  obtain ⟨before, rfl, _⟩ := hMore.cons_inv hOpen'
  exact hNot before rfl

theorem dropWhile (h : Continues text text') (test : Char → Bool)
    (hTest : test ')' = true → test '$' = true) :
    Continues (text.dropWhile test) (text'.dropWhile test) := by
  induction h with
  | ended => exact .ended
  | closed =>
      cases hMark : test ')' with
      | false =>
          rw [List.dropWhile_cons_of_neg (by simp [hMark])]
          exact .closed
      | true =>
          rw [List.dropWhile_cons_of_pos hMark, List.dropWhile_cons_of_pos (hTest hMark)]
          exact .ended
  | cons c h ih =>
      cases hTest' : test c with
      | false =>
          rw [List.dropWhile_cons_of_neg (by simp [hTest']),
            List.dropWhile_cons_of_neg (by simp [hTest'])]
          exact .cons c h
      | true =>
          rw [List.dropWhile_cons_of_pos hTest', List.dropWhile_cons_of_pos hTest']
          exact ih

/-- What is taken up to a character that is there does not depend on the continuation. -/
theorem takeWhile (h : Continues text text') {test : Char → Bool}
    (hStop : text.dropWhile test ≠ []) : text'.takeWhile test = text.takeWhile test := by
  induction h with
  | ended => rfl
  | closed => exact absurd rfl hStop
  | cons d h ih =>
      cases hTest : test d with
      | false =>
          rw [List.takeWhile_cons_of_neg (by simp [hTest]),
            List.takeWhile_cons_of_neg (by simp [hTest])]
      | true =>
          rw [List.dropWhile_cons_of_pos hTest] at hStop
          rw [List.takeWhile_cons_of_pos hTest, List.takeWhile_cons_of_pos hTest, ih hStop]

theorem head? {c : Char} (h : Continues text text') (hOpen : c ≠ ')') :
    text.head? = some c ↔ text'.head? = some c := by
  cases h with
  | ended | cons => exact Iff.rfl
  | closed => simp [hOpen.symm]

theorem peek? {c : Char} (h : Continues text text') (hOpen : c ≠ ')') (flags : Flags) :
    flags.peek? text = some c ↔ flags.peek? text' = some c := by
  unfold Flags.peek?
  split
  · exact h.head? hOpen
  · have hBlank : Unicode.isWhiteSpace ')' = true → Unicode.isWhiteSpace '$' = true := by decide
    have hDrop := h.dropWhile _ hBlank
    generalize text.dropWhile _ = here, text'.dropWhile _ = here' at hDrop ⊢
    split
    · next more =>
        obtain ⟨more', rfl, hMore⟩ := hDrop.cons_right
        exact (hMore.dropWhile _ hBlank).head? hOpen
    · next hPlain =>
        split
        · exact absurd rfl (hDrop.not_cons (by decide) hPlain _)
        · exact hDrop.head? hOpen

end Continues

/-- If there is a first result, then there is a second one that it is related to. -/
inductive AgreesBy {α : Type} (R : α → α → Prop) : Option α → Option α → Prop where
  | none {x' : Option α} : AgreesBy R none x'
  | some {a a' : α} (h : R a a') : AgreesBy R (some a) (some a')

/-- The same result with a continuation of the rest. -/
inductive Resumes {α : Type} : α × List Char → α × List Char → Prop where
  | intro {a : α} {rest rest' : List Char} (h : Continues rest rest') :
      Resumes (a, rest) (a, rest')

abbrev Agrees {α : Type} : Option (α × List Char) → Option (α × List Char) → Prop :=
  AgreesBy Resumes

namespace AgreesBy

variable {α β : Type} {x x' : Option (α × List Char)} {text text' : List Char}

/-- What does not come from the text is the same for both. -/
theorem given {o : Option β} {R : α → α → Prop} {f f' : β → Option α}
    (hNext : ∀ b, AgreesBy R (f b) (f' b)) : AgreesBy R (o >>= f) (o >>= f') := by
  cases o with
  | none => exact .none
  | some b => exact hNext b

theorem rest {a : α} (h : Continues text text') :
    Agrees (Option.some (a, text)) (Option.some (a, text')) :=
  .some (.intro h)

theorem andThen {R : α → α → Prop} {S : β → β → Prop} {o o' : Option α} {f f' : α → Option β}
    (h : AgreesBy R o o') (hNext : ∀ {a a'}, R a a' → AgreesBy S (f a) (f' a')) :
    AgreesBy S (o >>= f) (o' >>= f') := by
  cases h with
  | none => exact .none
  | some hBoth => exact hNext hBoth

theorem bind {S : β → β → Prop} {f f' : α × List Char → Option β} (h : Agrees x x')
    (hNext : ∀ {a : α} {rest rest' : List Char}, Continues rest rest' →
      AgreesBy S (f (a, rest)) (f' (a, rest'))) :
    AgreesBy S (x >>= f) (x' >>= f') :=
  h.andThen fun ⟨hRest⟩ => hNext hRest

theorem map (g : α → β) (h : Agrees x x') :
    Agrees (x.map fun (a, rest) => (g a, rest)) (x'.map fun (a, rest) => (g a, rest)) := by
  cases h with
  | none => exact .none
  | some hBoth =>
      obtain ⟨hRest⟩ := hBoth
      exact .rest hRest

theorem mapped {o : Option α} (h : Continues text text') :
    Agrees (o.map fun a => (a, text)) (o.map fun a => (a, text')) := by
  cases o with
  | none => exact .none
  | some a => exact .rest h

end AgreesBy

/-- Both results are there and agree, or neither is. -/
inductive Matched {α : Type} : Option (α × List Char) → Option (α × List Char) → Prop where
  | absent : Matched none none
  | present {a : α} {rest rest' : List Char} (h : Continues rest rest') :
      Matched (some (a, rest)) (some (a, rest'))

section Escapes

variable {flags : Flags} {text text' : List Char}

theorem readFixedHex_agrees (n : Nat) (hText : Continues text text') :
    Agrees (readFixedHex flags n text) (readFixedHex flags n text') := by
  induction n generalizing text text' with
  | zero => exact .rest hText
  | succ n ih =>
      cases hText with
      | ended | closed => exact .none
      | cons c hText =>
          exact .given fun digit => (ih (hText.skip flags)).bind fun hRest => .rest hRest

theorem readBracedHex_agrees {n m : Nat} (hFuel : n ≤ m) (hText : Continues text text') :
    Agrees (readBracedHex flags n text) (readBracedHex flags m text') := by
  induction n generalizing m text text' with
  | zero => exact .none
  | succ n ih =>
      obtain ⟨m, rfl⟩ := Nat.exists_eq_add_of_lt hFuel
      have hSkip := hText.skip flags
      rw [readBracedHex, readBracedHex]
      generalize flags.skip text = here, flags.skip text' = here' at hSkip ⊢
      cases hSkip with
      | ended | closed => exact .none
      | cons c hText =>
          by_cases hClose : c = '\x7d'
          · subst hClose
            exact .rest (hText.skip flags)
          · simp only
            exact .given fun digit =>
              (ih (Nat.le_add_right n m) hText).bind fun hRest => .rest hRest

theorem readHex_agrees (letter : Char) (hText : Continues text text') :
    Agrees (readHex flags letter text) (readHex flags letter text') := by
  have hSkip := hText.skip flags
  rw [readHex, readHex]
  generalize flags.skip text = here, flags.skip text' = here' at hSkip ⊢
  split
  · cases hSkip with
    | cons _ hText =>
        refine (readBracedHex_agrees (Nat.succ_le_succ hText.length_le) hText).bind fun hRest => ?_
        dsimp only
        split
        · exact .none
        · exact .given fun c => .rest hRest
  · next hPlain =>
      dsimp only
      generalize (if letter = 'x' then 2 else if letter = 'u' then 4 else 8) = count
      split
      · exact absurd rfl (hSkip.not_cons (by decide) hPlain _)
      · refine (readFixedHex_agrees count hSkip).bind fun hRest => ?_
        exact .given fun c => .rest hRest

theorem readPropertyName_agrees {n m : Nat} (hFuel : n ≤ m) (hText : Continues text text') :
    Agrees (readPropertyName flags n text) (readPropertyName flags m text') := by
  induction n generalizing m text text' with
  | zero => exact .none
  | succ n ih =>
      obtain ⟨m, rfl⟩ := Nat.exists_eq_add_of_lt hFuel
      have hSkip := hText.skip flags
      rw [readPropertyName, readPropertyName]
      generalize flags.skip text = here, flags.skip text' = here' at hSkip ⊢
      cases hSkip with
      | ended | closed => exact .none
      | cons c hText =>
          by_cases hClose : c = '\x7d'
          · subst hClose
            exact .rest hText
          · simp only
            exact (ih (Nat.le_add_right n m) hText).bind fun hRest => .rest hRest

theorem readProperty_agrees (negated : Bool) (hText : Continues text text') :
    Agrees (readProperty flags negated text) (readProperty flags negated text') := by
  have hSkip := hText.skip flags
  rw [readProperty, readProperty]
  generalize flags.skip text = here, flags.skip text' = here' at hSkip ⊢
  cases hSkip with
  | ended | closed => exact .none
  | cons c hText =>
      by_cases hBrace : c = '\x7b'
      · subst hBrace
        refine (readPropertyName_agrees (Nat.succ_le_succ hText.length_le) hText).bind
          fun {name} _ _ hRest => ?_
        simp only [List.head?_cons, ne_eq, not_true_eq_false, if_false]
        split
        · exact .none
        · rcases splitProperty name with ⟨property, _ | ⟨value, excluded⟩⟩
          · exact .given fun s => .rest hRest
          · exact .given fun s => .rest hRest
      · simp only
        split
        · exact .none
        · simp only [List.head?_cons, ne_eq, Option.some.injEq, hBrace, not_false_eq_true, if_true]
          split
          · exact .none
          · exact .given fun s => .rest (hText.skip flags)

theorem readName_agrees (test : Char → Bool) {n m : Nat} (hFuel : n ≤ m)
    (hText : Continues text text') :
    Agrees (readWordEdge.readName flags test n text)
      (readWordEdge.readName flags test m text') := by
  induction n generalizing m text text' with
  | zero => exact .none
  | succ n ih =>
      obtain ⟨m, rfl⟩ := Nat.exists_eq_add_of_lt hFuel
      unfold readWordEdge.readName
      cases hText with
      | ended | closed => exact .none
      | cons c hText =>
          by_cases hClose : c = '\x7d'
          · subst hClose
            exact .rest hText
          · simp only
            split
            · exact .map _ (ih (Nat.le_add_right n m) (hText.skip flags))
            · exact .none

theorem readWordEdge_agrees (hText : Continues text text') :
    Agrees (readWordEdge flags text) (readWordEdge flags text') := by
  unfold readWordEdge
  split
  · next more =>
      obtain ⟨more', rfl, hMore⟩ := hText.cons_right
      have hSkip := hMore.skip flags
      simp only
      generalize flags.skip more = here, flags.skip more' = here' at hSkip ⊢
      cases hSkip with
      | ended | closed => exact .none
      | cons c hName =>
          simp only
          split
          · exact .rest (.cons _ hMore)
          · refine (readName_agrees _ (Nat.add_le_add_right hName.length_le 2)
              (.cons c hName)).bind fun hRest => ?_
            dsimp only
            split
            all_goals first
              | exact .rest hRest
              | exact .none
  · next hPlain =>
      split
      · exact absurd rfl (hText.not_cons (by decide) hPlain _)
      · exact .rest hText

theorem readEscape_agrees (hText : Continues text text') :
    Agrees (readEscape flags text) (readEscape flags text') := by
  unfold readEscape
  cases hText with
  | ended | closed => exact .none
  | cons c hText =>
      dsimp only
      split
      · exact readHex_agrees c hText
      · split
        · exact .map _ (readProperty_agrees _ hText)
        · cases shorthand flags c with
          | some s =>
              dsimp only
              split
              · exact .rest hText
              · exact .none
          | none =>
              dsimp only
              split
              · exact .rest hText
              · split
                all_goals first
                  | exact .rest hText
                  | exact .none
                  | exact .map _ (readWordEdge_agrees hText)

end Escapes

section Classes

variable {flags : Flags} {text text' : List Char}

theorem readSetItem_agrees (hText : Continues text text') :
    Agrees (readSetItem flags text) (readSetItem flags text') := by
  unfold readSetItem
  cases hText with
  | ended | closed => exact .none
  | cons c hText =>
      by_cases hEscape : c = '\\'
      · subst hEscape
        exact readEscape_agrees hText
      · simp only
        exact .rest hText

theorem readSetRange_agrees (hText : Continues text text') :
    Agrees (readSetRange flags text) (readSetRange flags text') := by
  unfold readSetRange
  refine (readSetItem_agrees hText).bind fun {first rest rest'} hRest => ?_
  have hSkip := hRest.skip flags
  simp only
  generalize flags.skip rest = here, flags.skip rest' = here' at hSkip ⊢
  split
  · exact .none
  · next more =>
      obtain ⟨more', rfl, hMore⟩ := hSkip.cons_right
      have hBracket := hMore.peek? (c := ']') (by decide) flags
      have hHyphen := hMore.peek? (c := '-') (by decide) flags
      simp only [hBracket, hHyphen]
      split
      · exact .mapped hSkip
      · have hSecond := hMore.skip flags
        generalize flags.skip more = here, flags.skip more' = here' at hSecond ⊢
        cases hSecond with
        | ended | closed => exact .none
        | cons c hSecond =>
            simp only
            refine (readSetItem_agrees (.cons c hSecond)).bind fun hRest => ?_
            refine .given fun low => .given fun high => ?_
            split
            · exact .rest hRest
            · exact .none
  · next hMore hPlain =>
      split
      · exact absurd hSkip.nil_inv hMore
      · exact absurd rfl (hSkip.not_cons (by decide) hPlain _)
      · exact .mapped hSkip

theorem takeCircumflex_agrees (hText : Continues text text') :
    ∃ negated rest rest', takeCircumflex text = (negated, rest) ∧
      takeCircumflex text' = (negated, rest') ∧ Continues rest rest' := by
  unfold takeCircumflex
  split
  · next rest =>
      obtain ⟨rest', rfl, hRest⟩ := hText.cons_right
      exact ⟨true, rest, rest', rfl, rfl, hRest⟩
  · next hPlain =>
      split
      · exact absurd rfl (hText.not_cons (by decide) hPlain _)
      · exact ⟨false, text, text', rfl, rfl, hText⟩

/-- What names a class, up to the colon and the bracket that end the name. -/
theorem namedClass_agrees (g : CharSet → CharSet) (hText : Continues text text') :
    Matched
      (match text.dropWhile (· ≠ ':') with
        | ':' :: ']' :: rest =>
          (namedClass? (text.takeWhile (· ≠ ':'))).map fun s => (g s, rest)
        | _ => none)
      (match text'.dropWhile (· ≠ ':') with
        | ':' :: ']' :: rest =>
          (namedClass? (text'.takeWhile (· ≠ ':'))).map fun s => (g s, rest)
        | _ => none) := by
  have hDrop := hText.dropWhile (· ≠ ':') (by decide)
  have hTake : text.dropWhile (· ≠ ':') ≠ [] → _ := hText.takeWhile
  generalize text.dropWhile (· ≠ ':') = here, text'.dropWhile (· ≠ ':') = here' at hDrop hTake ⊢
  split
  · next rest =>
      obtain ⟨rest', rfl, hRest⟩ := hDrop.cons_cons_right
      rw [hTake nofun]
      cases namedClass? (text.takeWhile (· ≠ ':')) with
      | none => exact .absent
      | some s => exact .present hRest
  · next hOther =>
      split
      · exact absurd rfl (hDrop.not_cons_cons (by decide) (by decide) hOther _)
      · exact .absent

theorem readNamedClass_matched (flags : Flags) (hText : Continues text text') :
    Matched (readNamedClass? flags text) (readNamedClass? flags text') := by
  unfold readNamedClass?
  split
  · next rest =>
      obtain ⟨rest', rfl, hRest⟩ := hText.cons_cons_right
      obtain ⟨negated, name, name', hCut, hCut', hName⟩ := takeCircumflex_agrees hRest
      simp only [hCut, hCut']
      exact namedClass_agrees _ hName
  · next hOther =>
      split
      · exact absurd rfl (hText.not_cons_cons (by decide) (by decide) hOther _)
      · exact .absent

theorem takeHyphens_agrees (flags : Flags) {n m : Nat} (hFuel : n ≤ m) (hEnough : text.length < n)
    (hText : Continues text text') :
    ∃ hyphens rest rest', openSet.takeHyphens flags n text = (hyphens, rest) ∧
      openSet.takeHyphens flags m text' = (hyphens, rest') ∧ Continues rest rest' := by
  induction n generalizing m text text' with
  | zero => exact absurd hEnough (Nat.not_lt_zero _)
  | succ n ih =>
      obtain ⟨m, rfl⟩ := Nat.exists_eq_add_of_lt hFuel
      unfold openSet.takeHyphens
      split
      · next rest hSame =>
          cases hSame
          obtain ⟨rest', rfl, hRest⟩ := hText.cons_right
          have hShorter := length_skip_le flags rest
          rw [List.length_cons] at hEnough
          obtain ⟨hyphens, after, after', hTake, hTake', hAfter⟩ :=
            ih (Nat.le_add_right n m) (by omega) (hRest.skip flags)
          simp only [hTake, hTake']
          exact ⟨_, after, after', rfl, rfl, hAfter⟩
      · next hPlain =>
          split
          · exact absurd rfl (hText.not_cons (by decide) (hPlain n · rfl) _)
          · exact ⟨_, _, _, rfl, rfl, hText⟩

theorem openSet_agrees (flags : Flags) (hText : Continues text text') :
    ∃ negated items rest rest', openSet flags text = (negated, items, rest) ∧
      openSet flags text' = (negated, items, rest') ∧ Continues rest rest' := by
  obtain ⟨negated, items, items', hCut, hCut', hItems⟩ :=
    takeCircumflex_agrees (hText.skip flags)
  have hSkip : Continues (if negated then flags.skip items else items)
      (if negated then flags.skip items' else items') := by
    split
    · exact hItems.skip flags
    · exact hItems
  obtain ⟨hyphens, rest, rest', hTake, hTake', hRest⟩ := takeHyphens_agrees flags
    (Nat.succ_le_succ hSkip.length_le) (Nat.lt_succ_self _) hSkip
  simp only [openSet, hCut, hCut', hTake, hTake']
  split
  · next rest =>
      obtain ⟨rest', rfl, hMore⟩ := hRest.cons_right
      exact ⟨negated, _, _, _, rfl, rfl, hMore.skip flags⟩
  · next hOther =>
      split
      · obtain ⟨_, rfl, _⟩ := hRest.cons_inv (by decide)
        exact absurd rfl (hOther _ rfl)
      · exact ⟨negated, hyphens, rest, rest', rfl, rfl, hRest⟩

theorem readSet_agrees {n m : Nat} (hFuel : n ≤ m) {pending : Option (SetOperation × SetNode)}
    {items : List SetNode} (hText : Continues text text') :
    Agrees (readSet flags n pending items text) (readSet flags m pending items text') := by
  induction n generalizing m pending items text text' with
  | zero =>
      rw [readSet]
      exact .none
  | succ n ih =>
      obtain ⟨m, rfl⟩ := Nat.exists_eq_add_of_lt hFuel
      have hLess : n ≤ n + m := Nat.le_add_right n m
      have hSkip := hText.skip flags
      unfold readSet
      simp only
      generalize flags.skip text = here, flags.skip text' = here' at hSkip ⊢
      split
      · exact .none
      · next rest =>
          obtain ⟨rest', rfl, hRest⟩ := hSkip.cons_right
          exact .rest hRest
      · next rest =>
          obtain ⟨rest', rfl, hRest⟩ := hSkip.cons_cons_right
          exact ih hLess hRest
      · next rest =>
          obtain ⟨rest', rfl, hRest⟩ := hSkip.cons_cons_right
          exact ih hLess hRest
      · next rest =>
          obtain ⟨rest', rfl, hRest⟩ := hSkip.cons_cons_right
          exact ih hLess hRest
      · next rest =>
          obtain ⟨rest', rfl, hRest⟩ := hSkip.cons_right
          simp only
          have hNamed := readNamedClass_matched flags hSkip
          generalize readNamedClass? flags ('[' :: rest) = named,
            readNamedClass? flags ('[' :: rest') = named' at hNamed ⊢
          cases hNamed with
          | present hAfter =>
              simp only
              split
              · exact ih hLess hAfter
              · exact .none
          | absent =>
              obtain ⟨negated, first, inner, inner', hOpen, hOpen', hInner⟩ :=
                openSet_agrees flags hRest
              simp only [hOpen, hOpen']
              refine (ih hLess hInner).bind fun hAfter => ?_
              exact .given fun closed => ih hLess hAfter
      · next hEnd hClose hBoth hMinus hTilde hOpen =>
          split
          · exact absurd hSkip.nil_inv hEnd
          · exact absurd rfl (hSkip.not_cons (by decide) hClose _)
          · exact absurd rfl (hSkip.not_cons_cons (by decide) (by decide) hBoth _)
          · exact absurd rfl (hSkip.not_cons_cons (by decide) (by decide) hMinus _)
          · exact absurd rfl (hSkip.not_cons_cons (by decide) (by decide) hTilde _)
          · exact absurd rfl (hSkip.not_cons (by decide) hOpen _)
          · exact (readSetRange_agrees hSkip).bind fun hRest => ih hLess hRest

end Classes

end Hyperslab.Pattern
