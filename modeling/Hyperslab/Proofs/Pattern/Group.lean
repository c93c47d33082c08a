import Hyperslab.Proofs.Pattern.Continued

/-! Groups and alternatives in front of a closing parenthesis: what is read up to the end of a text
is read up to that parenthesis as well, with the same expression. -/
namespace Hyperslab.Pattern

variable {flags : Flags} {text text' : List Char}

theorem readDigits_agrees (flags : Flags) {n m : Nat} (hFuel : n ≤ m) (hEnough : text.length < n)
    (hText : Continues text text') :
    ∃ digits rest rest', readCount.go flags n text = (digits, rest) ∧
      readCount.go flags m text' = (digits, rest') ∧ Continues rest rest' := by
  induction n generalizing m text text' with
  | zero => exact absurd hEnough (Nat.not_lt_zero _)
  | succ n ih =>
      obtain ⟨m, rfl⟩ := Nat.exists_eq_add_of_lt hFuel
      cases hText with
      | ended => exact ⟨[], _, _, rfl, rfl, .ended⟩
      | closed => exact ⟨[], _, _, rfl, rfl, .closed⟩
      | @cons c rest rest' hRest =>
          unfold readCount.go
          simp only
          split
          · have hShorter := length_skip_le flags rest
            rw [List.length_cons] at hEnough
            obtain ⟨digits, after, after', hGo, hGo', hAfter⟩ :=
              ih (Nat.le_add_right n m) (by omega) (hRest.skip flags)
            simp only [hGo, hGo']
            exact ⟨_, after, after', rfl, rfl, hAfter⟩
          · exact ⟨[], _, _, rfl, rfl, .cons c hRest⟩

theorem skipBlanks_continues {n m : Nat} (hFuel : n ≤ m) (hEnough : text.length < n)
    (hText : Continues text text') :
    Continues (readCount.blanks flags n text) (readCount.blanks flags m text') := by
  induction n generalizing m text text' with
  | zero => exact absurd hEnough (Nat.not_lt_zero _)
  | succ n ih =>
      obtain ⟨m, rfl⟩ := Nat.exists_eq_add_of_lt hFuel
      cases hText with
      | ended => exact .ended
      | closed => exact .closed
      | @cons c rest rest' hRest =>
          unfold readCount.blanks
          split
          · have hShorter := length_skip_le flags rest
            rw [List.length_cons] at hEnough
            exact ih (Nat.le_add_right n m) (by omega) (hRest.skip flags)
          · exact .cons c hRest

theorem readCount_agrees (flags : Flags) (hText : Continues text text') :
    ∃ count rest rest', readCount flags text = (count, rest) ∧
      readCount flags text' = (count, rest') ∧ Continues rest rest' := by
  have hBegin := hText.dropWhile Unicode.isWhiteSpace (by decide)
  have hEnough : (text.dropWhile Unicode.isWhiteSpace).length < text.length + 1 :=
    Nat.lt_succ_of_le (List.dropWhile_sublist _).length_le
  obtain ⟨digits, rest, rest', hGo, hGo', hRest⟩ := readDigits_agrees flags
    (Nat.succ_le_succ hText.length_le) hEnough hBegin
  simp only [readCount, hGo, hGo']
  exact ⟨_, _, _, rfl, rfl,
    skipBlanks_continues (Nat.succ_le_succ hRest.length_le) (Nat.lt_succ_self _) hRest⟩

/-- Two numbers with what is left, or flags with the character that ends them. -/
inductive ResumesTwo {α β : Type} : α × β × List Char → α × β × List Char → Prop where
  | intro {a : α} {b : β} {rest rest' : List Char} (h : Continues rest rest') :
      ResumesTwo (a, b, rest) (a, b, rest')

theorem readUpper_agrees (low : Nat) (hText : Continues text text') :
    AgreesBy ResumesTwo (readUpper flags low text) (readUpper flags low text') := by
  obtain ⟨high, rest, rest', hHigh, hHigh', hRest⟩ := readCount_agrees flags hText
  simp only [readUpper, hHigh, hHigh']
  refine .given fun high => ?_
  split
  · next rest =>
      obtain ⟨rest', rfl, hEnd⟩ := hRest.cons_right
      simp only
      split
      · exact .some (.intro hEnd)
      · exact .none
  · exact .none

theorem readBounds_agrees (hText : Continues text text') :
    AgreesBy ResumesTwo (readBounds flags text) (readBounds flags text') := by
  obtain ⟨low, rest, rest', hLow, hLow', hRest⟩ :=
    readCount_agrees flags (hText.skip flags)
  simp only [readBounds, hLow, hLow']
  split
  · next more =>
      obtain ⟨more', rfl, hMore⟩ := hRest.cons_right
      refine .given fun low => ?_
      have hSkip := hMore.skip flags
      generalize flags.skip more = here, flags.skip more' = here' at hSkip ⊢
      split
      · next rest =>
          obtain ⟨rest', rfl, hRest⟩ := hSkip.cons_right
          exact .some (.intro hRest)
      · next hPlain =>
          split
          · exact absurd rfl (hSkip.not_cons (by decide) hPlain _)
          · exact readUpper_agrees low hSkip
  · next rest =>
      obtain ⟨rest', rfl, hEnd⟩ := hRest.cons_right
      simp only
      cases bound? low with
      | none => exact .none
      | some low => exact .some (.intro hEnd)
  · exact .none

theorem readFlags_agrees (flags : Flags) (seen : List Char) (hText : Continues text text') :
    AgreesBy ResumesTwo (readFlags flags seen text) (readFlags flags seen text') := by
  induction hText generalizing flags seen with
  | ended | closed =>
      rw [readFlags]
      exact .none
  | cons c hText ih =>
      unfold readFlags
      split
      · split
        · exact .none
        · split
          · exact .none
          · exact .some (.intro hText)
      · split
        · exact .none
        · split
          · exact ih _ _
          · exact .given fun flags => ih _ _

theorem readGroupName_agrees (hText : Continues text text') :
    Agrees (readGroupName text) (readGroupName text') := by
  have hDrop := hText.dropWhile (· ≠ '>') (by decide)
  have hTake : text.dropWhile (· ≠ '>') ≠ [] → _ := hText.takeWhile
  unfold readGroupName
  simp only
  generalize text.dropWhile (· ≠ '>') = here, text'.dropWhile (· ≠ '>') = here' at hDrop hTake ⊢
  split
  · next rest =>
      obtain ⟨rest', rfl, hRest⟩ := hDrop.cons_right
      rw [hTake nofun]
      simp only
      split
      · split
        · exact .rest hRest
        · exact .none
      · exact .none
  · exact .none

/-- The same opening with a continuation of the rest. -/
inductive OpeningResumes : Opening → Opening → Prop where
  | flags {flags : Flags} {rest rest' : List Char} (h : Continues rest rest') :
      OpeningResumes (.flags flags rest) (.flags flags rest')
  | group {flags : Flags} {remembers : Bool} {name : Option (List Char)} {rest rest' : List Char}
      (h : Continues rest rest') :
      OpeningResumes (.group flags remembers name rest) (.group flags remembers name rest')

theorem named_agrees {x x' : Option (List Char × List Char)} (h : Agrees x x') :
    AgreesBy OpeningResumes
      (x.map fun (name, rest) => .group flags true (some name) rest)
      (x'.map fun (name, rest) => .group flags true (some name) rest) := by
  cases h with
  | none => exact .none
  | some hBoth =>
      obtain ⟨hRest⟩ := hBoth
      exact .some (.group hRest)

theorem readQualifier_agrees (hText : Continues text text') :
    AgreesBy OpeningResumes (readQualifier flags text) (readQualifier flags text') := by
  unfold readQualifier
  split
  · next rest =>
      obtain ⟨rest', rfl, hRest⟩ := hText.cons_cons_right
      exact named_agrees (readGroupName_agrees hRest)
  · next rest =>
      obtain ⟨rest', rfl, hRest⟩ := hText.cons_right
      exact named_agrees (readGroupName_agrees hRest)
  · next hNotP hPlain =>
      split
      · exact absurd rfl (hText.not_cons_cons (by decide) (by decide) hNotP _)
      · exact absurd rfl (hText.not_cons (by decide) hPlain _)
      · have hFlags := readFlags_agrees flags [] hText
        refine hFlags.andThen fun ⟨hRest⟩ => ?_
        simp only
        split
        · exact .some (.flags hRest)
        · exact .some (.group hRest)

theorem readOpening_agrees (hText : Continues text text') :
    AgreesBy OpeningResumes (readOpening flags text) (readOpening flags text') := by
  have hSkip := hText.skip flags
  unfold readOpening
  generalize flags.skip text = here, flags.skip text' = here' at hSkip ⊢
  split
  · next rest =>
      obtain ⟨rest', rfl, hRest⟩ := hSkip.cons_right
      exact readQualifier_agrees hRest
  · next hPlain =>
      split
      · exact absurd rfl (hSkip.not_cons (by decide) hPlain _)
      · exact .some (.group hSkip)

/-- The same expression in front of a continuation of what is left to read. -/
inductive ReaderResumes : Node × ReaderState → Node × ReaderState → Prop where
  | intro {node : Node} {rest rest' : List Char} {flags : Flags} {names : List (List Char)}
      (h : Continues rest rest') :
      ReaderResumes (node, ⟨rest, flags, names⟩) (node, ⟨rest', flags, names⟩)

theorem skipReluctant_continues (hText : Continues text text') :
    Continues (skipReluctant text) (skipReluctant text') := by
  unfold skipReluctant
  split
  · next rest =>
      obtain ⟨rest', rfl, hRest⟩ := hText.cons_right
      exact hRest
  · next hPlain =>
      split
      · exact absurd rfl (hText.not_cons (by decide) hPlain _)
      · exact hText

/-- Behind the alternatives in a group its closing parenthesis is read. It stands in the shorter
text already, so it is not the one that follows that text. -/
theorem AgreesBy.close {β : Type} {S : β → β → Prop} {x x' : Option (Node × ReaderState)}
    {f : Nat → Node → List (List Char) → List Char → Option β} {n m : Nat}
    (h : AgreesBy ReaderResumes x x')
    (hNext : ∀ {node names rest rest'}, Continues rest rest' →
      AgreesBy S (f n node names rest) (f m node names rest')) :
    AgreesBy S
      (x >>= fun (node, after) => match after.text with
        | ')' :: rest => f n node after.names rest
        | _ => .none)
      (x' >>= fun (node, after) => match after.text with
        | ')' :: rest => f m node after.names rest
        | _ => .none) := by
  refine h.andThen fun hBoth => ?_
  cases hBoth with
  | @intro node inner inner' flags names hInner =>
      simp only
      split
      · next rest =>
          obtain ⟨rest', rfl, hRest⟩ := hInner.cons_right
          exact hNext hRest
      · exact .none

/-- What is read up to the end of a text is read with more fuel in front of the parenthesis that
closes the group around it. -/
theorem readAlternatives_agrees {n m : Nat} (hFuel : n ≤ m) {done : List Node}
    {parts : List (Option Node)} {names : List (List Char)} (hText : Continues text text') :
    AgreesBy ReaderResumes (readAlternatives n done parts ⟨text, flags, names⟩)
      (readAlternatives m done parts ⟨text', flags, names⟩) := by
  induction n generalizing m done parts flags names text text' with
  | zero =>
      rw [readAlternatives]
      exact .none
  | succ n ih =>
      obtain ⟨m, rfl⟩ := Nat.exists_eq_add_of_lt hFuel
      have hLess : n ≤ n + m := Nat.le_add_right n m
      have hAgain (low : Nat) (high : Option Nat) {rest rest' : List Char}
          (hRest : Continues rest rest') : AgreesBy ReaderResumes
            (repeatLast low high parts >>= fun parts =>
              readAlternatives n done parts ⟨skipReluctant rest, flags, names⟩)
            (repeatLast low high parts >>= fun parts =>
              readAlternatives (n + m) done parts ⟨skipReluctant rest', flags, names⟩) :=
        .given fun parts => ih hLess (skipReluctant_continues hRest)
      have hSkip := hText.skip flags
      unfold readAlternatives
      simp only
      generalize flags.skip text = here, flags.skip text' = here' at hSkip ⊢
      -- One case for each character that the reader tells apart, in its order.
      split
      · -- At its end the shorter text is done. The parenthesis behind it ends them as well.
        cases hSkip with
        | ended => exact .some (.intro .ended)
        | closed => exact .some (.intro .closed)
      · obtain ⟨rest', rfl, hRest⟩ := hSkip.cons_right
        exact .some (.intro hSkip)
      · obtain ⟨rest', rfl, hRest⟩ := hSkip.cons_right
        exact ih hLess hRest
      · obtain ⟨rest', rfl, hRest⟩ := hSkip.cons_right
        refine (readOpening_agrees hRest).andThen fun hOpening => ?_
        cases hOpening with
        | flags hAfter => exact ih hLess hAfter
        | @group inner remembers name after after' hAfter =>
            have hInner : ∀ names, AgreesBy ReaderResumes
                (readAlternatives n [] [] ⟨after, inner, names⟩)
                (readAlternatives (n + m) [] [] ⟨after', inner, names⟩) := fun names =>
              ih hLess hAfter
            have hGroup : ∀ names, AgreesBy ReaderResumes _ _ := fun names =>
              (hInner names).close
                (f := fun fuel node names rest => readAlternatives fuel done
                  (some ⟨if remembers then .group node.regex else node.regex, 1 + node.depth⟩
                    :: parts) ⟨rest, flags, names⟩)
                fun hClosed => ih hLess hClosed
            cases name with
            | none => exact hGroup names
            | some name =>
                simp only
                split
                · exact .none
                · exact hGroup (name :: names)
      · obtain ⟨rest', rfl, hRest⟩ := hSkip.cons_right
        obtain ⟨negated, first, items, items', hOpen, hOpen', hItems⟩ :=
          openSet_agrees flags hRest
        simp only [hOpen, hOpen']
        refine (readSet_agrees (Nat.succ_le_succ hItems.length_le) hItems).bind fun hAfter => ?_
        exact .given fun node => ih hLess hAfter
      · obtain ⟨rest', rfl, hRest⟩ := hSkip.cons_right
        exact hAgain 0 (some 1) hRest
      · obtain ⟨rest', rfl, hRest⟩ := hSkip.cons_right
        exact hAgain 0 none hRest
      · obtain ⟨rest', rfl, hRest⟩ := hSkip.cons_right
        exact hAgain 1 none hRest
      · obtain ⟨rest', rfl, hRest⟩ := hSkip.cons_right
        refine (readBounds_agrees hRest).andThen fun ⟨hAfter⟩ => ?_
        exact hAgain _ _ (hAfter.skip flags)
      · obtain ⟨rest', rfl, hRest⟩ := hSkip.cons_right
        exact .given fun regex => ih hLess hRest
      · obtain ⟨rest', rfl, hRest⟩ := hSkip.cons_right
        exact ih hLess hRest
      · obtain ⟨rest', rfl, hRest⟩ := hSkip.cons_right
        exact ih hLess hRest
      · obtain ⟨rest', rfl, hRest⟩ := hSkip.cons_right
        refine (readEscape_agrees hRest).bind fun hAfter => ?_
        exact .given fun regex => ih hLess hAfter
      · obtain ⟨rest', rfl, hRest⟩ := hSkip.cons_right
        -- The character is none of those above, so it stands for itself in both texts.
        split
        case h_14 hSame =>
          cases hSame
          exact .given fun regex => ih hLess hRest
        all_goals simp_all

end Hyperslab.Pattern
