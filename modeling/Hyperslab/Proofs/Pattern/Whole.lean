import Hyperslab.Pattern.Whole
import Hyperslab.Proofs.Pattern.Group
import Hyperslab.Proofs.Pattern.Matches

/-! Patterns that are to match whole texts. Written between the start and the end of the text, a
pattern matches as a whole if it can be read by itself; a pattern that cannot may close the group
around it, and is then looked for in parts of the text. -/
namespace Hyperslab.Pattern

open Regex (read?)

/-- The pattern can be read by itself. -/
def StandsAlone (pattern : String) : Prop := (read? pattern.toList).isSome

instance (pattern : String) : Decidable (StandsAlone pattern) :=
  inferInstanceAs (Decidable (_ = true))

/-- Does the pattern match the text from its start to its end? There is no answer if the pattern
cannot be read, or if its automata would take more than `limit` bytes. -/
def matchWhole? (pattern : String) (limit : Nat) (text : String) : Option Bool := do
  let r ← read? pattern.toList
  if r.whole.size ≤ limit then some (decide (r.FullMatch text)) else none

section Anchored

variable {n : Nat} {rest : List Char} {parts : List (Option Node)} {names : List (List Char)}

theorem readAlternatives_start :
    readAlternatives (n + 1) [] [] ⟨'^' :: rest, {}, names⟩ =
      readAlternatives n [] [some ⟨.look .textStart, 0⟩] ⟨rest, {}, names⟩ := rfl

theorem readAlternatives_group :
    readAlternatives (n + 1) [] parts ⟨'(' :: '?' :: ':' :: rest, {}, names⟩ =
      (readAlternatives n [] [] ⟨rest, {}, names⟩ >>= fun (node, after) =>
        match after.text with
        | ')' :: rest =>
          readAlternatives n [] (some ⟨node.regex, 1 + node.depth⟩ :: parts)
            ⟨rest, {}, after.names⟩
        | _ => none) := rfl

theorem readAlternatives_end {first second : Node} :
    readAlternatives (n + 2) [] [some second, some first] ⟨['$'], {}, names⟩ =
      some (concatenate [some first, some second, some ⟨.look .textEnd, 0⟩], ⟨[], {}, names⟩) := rfl

end Anchored

theorem read_eq_some {text : List Char} {r : Regex} (h : read? text = some r) :
    ∃ node flags names, node.regex = r ∧
      readAlternatives (text.length + 1) [] [] ⟨text, {}, []⟩ =
        some (node, ⟨[], flags, names⟩) := by
  obtain ⟨⟨node, left, flags, names⟩, hRead, h⟩ := Option.bind_eq_some_iff.mp h
  simp only at h
  split at h
  · next hDone =>
      obtain ⟨rfl, _⟩ : left = [] ∧ node.depth ≤ maxDepth := by simpa using hDone
      exact ⟨node, flags, names, Option.some.inj h, hRead⟩
  · cases h

/-- A pattern that can be read by itself is the group between the start and the end of the text. -/
theorem read_anchored {pattern : String} {r whole : Regex} (h : read? pattern.toList = some r)
    (hWhole : read? (anchored pattern) = some whole) : whole = r.whole := by
  obtain ⟨node, flags, names, rfl, hRead⟩ := read_eq_some h
  obtain ⟨node', flags', names', rfl, hRead'⟩ := read_eq_some hWhole
  have hText : anchored pattern = '^' :: '(' :: '?' :: ':' :: (pattern.toList ++ [')', '$']) := rfl
  have hFuel : (anchored pattern).length + 1 = pattern.toList.length + 5 + 2 := by
    simp [hText]
  rw [hFuel, hText, readAlternatives_start, readAlternatives_group] at hRead'
  have hLess : pattern.toList.length + 1 ≤ pattern.toList.length + 5 := by omega
  have hGroup : AgreesBy ReaderResumes _ (readAlternatives _ [] [] ⟨_, {}, []⟩) :=
    readAlternatives_agrees hLess (.append pattern.toList)
  rw [hRead] at hGroup
  generalize readAlternatives (pattern.toList.length + 5) [] [] _ = inner at hGroup hRead'
  cases hGroup with
  | some hBoth =>
      cases hBoth with
      | intro hRest =>
          cases hRest with
          | ended => cases hRead'
          | closed =>
              simp only [Option.bind_eq_bind, Option.bind_some, readAlternatives_end] at hRead'
              cases hRead'
              rfl

/-- A pattern that can be read by itself is compiled to its expression between the start and the end
of the text, if that is within the limit. -/
theorem compile_standsAlone {pattern : String} {limit : Nat} {r whole : Regex}
    (h : read? pattern.toList = some r) (hCompile : compile? pattern limit = some whole) :
    whole = r.whole ∧ r.whole.size ≤ limit := by
  obtain ⟨hWhole, hSize⟩ := Option.filter_eq_some_iff.mp hCompile
  obtain rfl := read_anchored h hWhole
  exact ⟨rfl, by simpa using hSize⟩

/-- Where a pattern has been compiled, it has an answer for whole texts if it can be read by itself,
and then the search gives that answer. -/
theorem matchWhole_iff {pattern : String} {limit : Nat} {regex : Regex} (text : String)
    (answer : Bool) (hCompile : compile? pattern limit = some regex) :
    matchWhole? pattern limit text = some answer ↔
      regex.isMatch text = answer ∧ StandsAlone pattern := by
  unfold matchWhole? StandsAlone
  cases hRead : read? pattern.toList with
  | none => simp
  | some r =>
      obtain ⟨rfl, hSize⟩ := compile_standsAlone hRead hCompile
      simp [hSize, ← Regex.isMatch_whole]

end Hyperslab.Pattern
