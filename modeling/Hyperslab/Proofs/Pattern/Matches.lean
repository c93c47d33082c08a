import Hyperslab.Pattern.Simplify

/-! What a regular expression means, apart from how texts are searched: between which positions of a
text it matches. The search by sets of positions finds exactly these matches. -/
namespace Hyperslab.Pattern

/-- From one position to another in `n` steps of a relation. -/
def Steps (R : Nat → Nat → Prop) : Nat → Nat → Nat → Prop
  | 0, p, q => q = p
  | n + 1, p, q => ∃ m, R p m ∧ Steps R n m q

namespace Regex

mutual

/-- The expression matches the text from position `p` up to position `q`. The upper bound of a
repetition counts as its lower bound if it is less. -/
def Matches (text : Array Char) : Regex → Nat → Nat → Prop
  | literal cs, p, q => q = p + cs.length ∧ ∀ i < cs.length, text[p + i]? = cs[i]?
  | set s, p, q => q = p + 1 ∧ ∃ c, text[p]? = some c ∧ s.contains c
  | look l, p, q => q = p ∧ l.holds (if p = 0 then none else text[p - 1]?) text[p]?
  | group r, p, q => r.Matches text p q
  | seq rs, p, q => MatchesAll text rs p q
  | alt rs, p, q => MatchesAny text rs p q
  | repeated r low high, p, q =>
    ∃ n, low ≤ n ∧ (∀ m ∈ high, n ≤ max low m) ∧ Steps (r.Matches text) n p q

/-- All expressions match, each from where the one before it ends. -/
def MatchesAll (text : Array Char) : List Regex → Nat → Nat → Prop
  | [], p, q => q = p
  | r :: rs, p, q => ∃ m, r.Matches text p m ∧ MatchesAll text rs m q

/-- One of the expressions matches. -/
def MatchesAny (text : Array Char) : List Regex → Nat → Nat → Prop
  | [], _, _ => False
  | r :: rs, p, q => r.Matches text p q ∨ MatchesAny text rs p q

end

/-- The expression matches the text from its start to its end. -/
def FullMatch (r : Regex) (text : String) : Prop :=
  r.Matches text.toList.toArray 0 text.toList.length

end Regex

section Steps

variable {R : Nat → Nat → Prop} {size m n p q : Nat}

theorem steps_add : Steps R (m + n) p q ↔ ∃ o, Steps R m p o ∧ Steps R n o q := by
  induction m generalizing p with
  | zero => simp [Steps]
  | succ m ih =>
      rw [Nat.add_right_comm]
      constructor
      · rintro ⟨p', hFirst, hRest⟩
        obtain ⟨o, hm, hn⟩ := ih.mp hRest
        exact ⟨o, ⟨p', hFirst, hm⟩, hn⟩
      · rintro ⟨o, ⟨p', hFirst, hm⟩, hn⟩
        exact ⟨p', hFirst, ih.mpr ⟨o, hm, hn⟩⟩

/-- The relation never leads back, and from the positions of a text never out of it. -/
def Within (size : Nat) (R : Nat → Nat → Prop) : Prop :=
  ∀ p q, R p q → p ≤ q ∧ q ≤ max p size

theorem Within.steps (hWithin : Within size R) : Within size (Steps R n) := by
  induction n with
  | zero =>
      rintro p q rfl
      omega
  | succ n ih =>
      rintro p q ⟨p', hFirst, hRest⟩
      have := hWithin p p' hFirst
      have := ih p' q hRest
      omega

/-- Steps that do not move can be left out, so no more are needed than there are characters between
the ends. -/
theorem Within.shorten (hWithin : Within size R) (h : Steps R n p q) :
    ∃ m ≤ q - p, Steps R m p q := by
  induction n generalizing p with
  | zero => exact ⟨0, Nat.zero_le _, h⟩
  | succ n ih =>
      obtain ⟨p', hFirst, hRest⟩ := h
      obtain ⟨m, hLess, hm⟩ := ih hRest
      have hMoved := (hWithin _ _ hFirst).1
      have hRemains := (hWithin.steps _ _ hRest).1
      rcases Nat.eq_or_lt_of_le hMoved with rfl | hMoved
      · exact ⟨m, hLess, hm⟩
      · exact ⟨m + 1, by omega, p', hFirst, hm⟩

end Steps

section Search

variable {R : Nat → Nat → Prop} {find : List Nat → List Nat} {n q : Nat} {ps : List Nat}

theorem mem_mergePositions {qs : List Nat} : q ∈ mergePositions ps qs ↔ q ∈ ps ∨ q ∈ qs := by
  induction ps, qs using mergePositions.induct with
  | case1 => simp [mergePositions]
  | case2 => simp [mergePositions]
  | case3 p ps p' qs hLess ih => rw [mergePositions, if_pos hLess]; simp [ih, or_assoc]
  | case4 p ps p' qs hLess hLess' ih =>
      rw [mergePositions, if_neg hLess, if_pos hLess']
      simp [ih, or_left_comm]
  | case5 p ps p' qs hLess hLess' ih =>
      have hSame : p' = p := by omega
      rw [mergePositions, if_neg hLess, if_neg hLess', hSame]
      simp only [List.mem_cons, ih, or_assoc, or_left_comm, or_self_left]

/-- The step takes a set of positions to all that one of them is related to. -/
def Finds (find : List Nat → List Nat) (R : Nat → Nat → Prop) : Prop :=
  ∀ ps q, q ∈ find ps ↔ ∃ p ∈ ps, R p q

/-- A step that changes nothing could as well be repeated. -/
theorem iterate_succ (find : List Nat → List Nat) (n : Nat) (ps : List Nat) :
    iterate find (n + 1) ps = iterate find n (find ps) := by
  rw [iterate]
  split
  · next hFixed =>
      rw [hFixed]
      cases n with
      | zero => rfl
      | succ n => rw [iterate, if_pos hFixed]
  · rfl

theorem mem_iterate (hFind : Finds find R) :
    q ∈ iterate find n ps ↔ ∃ p ∈ ps, Steps R n p q := by
  induction n generalizing ps with
  | zero => simp [iterate, Steps]
  | succ n ih =>
      rw [iterate_succ, ih]
      constructor
      · rintro ⟨p', hFound, hRest⟩
        obtain ⟨p, hp, hFirst⟩ := (hFind _ _).mp hFound
        exact ⟨p, hp, p', hFirst, hRest⟩
      · rintro ⟨p, hp, p', hFirst, hRest⟩
        exact ⟨p', (hFind _ _).mpr ⟨p, hp, hFirst⟩, hRest⟩

/-- What a step from the frontier finds for the first time. -/
def fresh (find : List Nat → List Nat) (seen frontier : List Nat) : List Nat :=
  (find frontier).filter fun p => !seen.contains p

theorem reach_succ (find : List Nat → List Nat) (n : Nat) (seen frontier : List Nat) :
    reach find (n + 1) seen frontier =
      if (fresh find seen frontier).isEmpty then seen
      else reach find n (mergePositions seen (fresh find seen frontier))
        (fresh find seen frontier) :=
  rfl

/-- What the search keeps: a position that has been seen is on the frontier, or all that it leads
to has been seen as well. -/
structure Explored (R : Nat → Nat → Prop) (seen frontier : List Nat) : Prop where
  inside : ∀ p ∈ frontier, p ∈ seen
  closed : ∀ p ∈ seen, p ∉ frontier → ∀ q, R p q → q ∈ seen

namespace Explored

variable {seen frontier : List Nat}

theorem mem_step (h : Explored R seen frontier) (hFind : Finds find R) :
    q ∈ mergePositions seen (fresh find seen frontier) ↔ q ∈ seen ∨ ∃ p ∈ seen, R p q := by
  simp only [mem_mergePositions, fresh, List.mem_filter, hFind _ _]
  constructor
  · rintro (hSeen | ⟨⟨p, hp, hFirst⟩, -⟩)
    · exact Or.inl hSeen
    · exact Or.inr ⟨p, h.inside p hp, hFirst⟩
  · rintro (hSeen | ⟨p, hp, hFirst⟩)
    · exact Or.inl hSeen
    · by_cases hSeen : q ∈ seen
      · exact Or.inl hSeen
      · have hFrontier : p ∈ frontier :=
          Decidable.byContradiction fun hInner => hSeen (h.closed p hp hInner q hFirst)
        exact Or.inr ⟨⟨p, hFrontier, hFirst⟩, by simpa using hSeen⟩

theorem step (h : Explored R seen frontier) (hFind : Finds find R) :
    Explored R (mergePositions seen (fresh find seen frontier)) (fresh find seen frontier) where
  inside p hp := mem_mergePositions.mpr (Or.inr hp)
  closed p hp hInner q hFirst := by
    have hSeen : p ∈ seen := (mem_mergePositions.mp hp).resolve_right hInner
    exact (h.mem_step hFind).mpr (Or.inr ⟨p, hSeen, hFirst⟩)

/-- Where a step finds nothing new, no number of steps leads out of what has been seen. -/
theorem steps_mem (h : Explored R seen frontier) (hFind : Finds find R)
    (hDone : fresh find seen frontier = []) {p : Nat} (hp : p ∈ seen) (hSteps : Steps R n p q) :
    q ∈ seen := by
  induction n generalizing p with
  | zero =>
      rw [show q = p from hSteps]
      exact hp
  | succ n ih =>
      obtain ⟨p', hFirst, hRest⟩ := hSteps
      have hNext := (h.mem_step hFind).mpr (Or.inr ⟨p, hp, hFirst⟩)
      rw [hDone, mem_mergePositions] at hNext
      exact ih (hNext.resolve_right (by simp)) hRest

end Explored

/-- The search returns what is reached in at most `n` steps, also where it stops early. -/
theorem mem_reach {seen frontier : List Nat} (h : Explored R seen frontier)
    (hFind : Finds find R) :
    q ∈ reach find n seen frontier ↔ ∃ p ∈ seen, ∃ m ≤ n, Steps R m p q := by
  induction n generalizing seen frontier with
  | zero => simp [reach, Steps]
  | succ n ih =>
      rw [reach_succ]
      split
      · next hDone =>
          constructor
          · exact fun hSeen => ⟨q, hSeen, 0, Nat.zero_le _, rfl⟩
          · rintro ⟨p, hp, m, -, hSteps⟩
            exact h.steps_mem hFind (List.isEmpty_iff.mp hDone) hp hSteps
      · rw [ih (h.step hFind)]
        constructor
        · rintro ⟨p, hp, m, hLess, hSteps⟩
          rcases (h.mem_step hFind).mp hp with hSeen | ⟨p', hSeen, hFirst⟩
          · exact ⟨p, hSeen, m, by omega, hSteps⟩
          · exact ⟨p', hSeen, m + 1, by omega, p, hFirst, hSteps⟩
        · rintro ⟨p, hp, m, hLess, hSteps⟩
          cases m with
          | zero => exact ⟨p, (h.mem_step hFind).mpr (Or.inl hp), 0, Nat.zero_le _, hSteps⟩
          | succ m =>
              obtain ⟨p', hFirst, hRest⟩ := hSteps
              exact ⟨p', (h.mem_step hFind).mpr (Or.inr ⟨p, hp, hFirst⟩), m, by omega, hRest⟩

theorem finds_step (text : Array Char) (test : Char → Bool) :
    Finds (step text test) fun p q => q = p + 1 ∧ ∃ c, text[p]? = some c ∧ test c := by
  intro ps q
  simp only [step, List.mem_filterMap]
  refine exists_congr fun p => and_congr_right fun _ => ?_
  cases text[p]? with
  | none => simp
  | some c => by_cases h : test c <;> simp [h, eq_comm (a := q)]

end Search

namespace Regex

variable {text : Array Char}

theorem matches_literal_nil {p q : Nat} : (literal []).Matches text p q ↔ q = p := by
  simp [Matches]

theorem matches_literal_cons {c : Char} {cs : List Char} {p q : Nat} :
    (literal (c :: cs)).Matches text p q ↔
      text[p]? = some c ∧ (literal cs).Matches text (p + 1) q := by
  simp only [Matches, List.length_cons, Nat.forall_lt_succ_left, List.getElem?_cons_zero,
    List.getElem?_cons_succ, Nat.add_zero, Nat.add_right_comm p _ 1, ← Nat.add_assoc]
  exact and_left_comm

theorem finds_literal (text : Array Char) (cs : List Char) :
    Finds (fun ps => cs.foldl (fun ps c => step text (· = c) ps) ps)
      ((literal cs).Matches text) := by
  induction cs with
  | nil =>
      intro ps q
      simp [matches_literal_nil]
  | cons c cs ih =>
      intro ps q
      simp only [List.foldl_cons, ih _ _, finds_step _ _ _ _, matches_literal_cons]
      constructor
      · rintro ⟨_, ⟨p, hp, rfl, d, hd, hTest⟩, hRest⟩
        exact ⟨p, hp, by simpa [hd] using hTest, hRest⟩
      · rintro ⟨p, hp, hc, hRest⟩
        exact ⟨p + 1, ⟨p, hp, rfl, c, hc, by simp⟩, hRest⟩

theorem within_literal (cs : List Char) : Within text.size ((literal cs).Matches text) := by
  induction cs with
  | nil =>
      intro p q h
      rw [matches_literal_nil.mp h]
      omega
  | cons c cs ih =>
      intro p q h
      obtain ⟨hc, hRest⟩ := matches_literal_cons.mp h
      have := (Array.getElem?_eq_some_iff.mp hc).1
      have := ih _ _ hRest
      omega

mutual

theorem within_matches : (r : Regex) → Within text.size (r.Matches text)
  | literal cs => within_literal cs
  | set s => by
      rintro p q ⟨rfl, c, hc, -⟩
      have := (Array.getElem?_eq_some_iff.mp hc).1
      omega
  | look l => by
      rintro p q ⟨rfl, -⟩
      omega
  | group r => r.within_matches
  | seq rs => within_matchesAll rs
  | alt rs => within_matchesAny rs
  | repeated r low high => fun p q ⟨_, _, _, h⟩ => r.within_matches.steps p q h

theorem within_matchesAll : (rs : List Regex) → Within text.size (MatchesAll text rs)
  | [] => by
      rintro p q rfl
      omega
  | r :: rs => by
      rintro p q ⟨m, hFirst, hRest⟩
      have := r.within_matches _ _ hFirst
      have := within_matchesAll rs _ _ hRest
      omega

theorem within_matchesAny : (rs : List Regex) → Within text.size (MatchesAny text rs)
  | [] => fun _ _ h => h.elim
  | r :: rs => fun p q h => h.elim (r.within_matches p q) (within_matchesAny rs p q)

end

/-- A repetition starts with its lower bound, and goes on from there. -/
theorem matches_repeated {r : Regex} {low optional : Nat} {high : Option Nat} {p q : Nat}
    (hOptional : optional = match high with
      | some high => high - low
      | none => text.size + 1) :
    (repeated r low high).Matches text p q ↔
      ∃ o, Steps (r.Matches text) low p o ∧ ∃ m ≤ optional, Steps (r.Matches text) m o q := by
  rw [Matches]
  constructor
  · rintro ⟨n, hLow, hHigh, h⟩
    obtain ⟨m, rfl⟩ := Nat.exists_eq_add_of_le hLow
    obtain ⟨o, hFirst, hRest⟩ := steps_add.mp h
    refine ⟨o, hFirst, ?_⟩
    cases high with
    | some high =>
        have := hHigh high rfl
        exact ⟨m, by simp only [hOptional]; omega, hRest⟩
    | none =>
        -- There may be more steps than the search takes, but some of them do not move.
        obtain ⟨m', hFew, hRest'⟩ := r.within_matches.shorten hRest
        have := r.within_matches.steps _ _ hRest
        exact ⟨m', by simp only [hOptional]; omega, hRest'⟩
  · rintro ⟨o, hFirst, m, hLess, hRest⟩
    refine ⟨low + m, Nat.le_add_right _ _, ?_, steps_add.mpr ⟨o, hFirst, hRest⟩⟩
    rintro high' hHigh
    cases high with
    | none => cases hHigh
    | some high =>
        cases hHigh
        simp only [hOptional] at hLess
        omega

mutual

theorem finds_ends (text : Array Char) : (r : Regex) → Finds (r.ends text) (r.Matches text)
  | literal cs => finds_literal text cs
  | set s => finds_step text s.contains
  | look l => by
      intro ps q
      simp only [ends, Matches, List.mem_filter]
      constructor
      · rintro ⟨hq, h⟩
        exact ⟨q, hq, rfl, h⟩
      · rintro ⟨p, hp, rfl, h⟩
        exact ⟨hp, h⟩
  | group r => r.finds_ends text
  | seq rs => finds_endsAll text rs
  | alt rs => finds_endsAny text rs
  | repeated r low high => by
      intro ps q
      have hFind := r.finds_ends text
      have hStart : ∀ start, Explored (r.Matches text) start start :=
        fun start => ⟨fun _ h => h, fun _ h h' => absurd h h'⟩
      simp only [ends, mem_reach (hStart _) hFind, mem_iterate hFind, matches_repeated rfl]
      constructor
      · rintro ⟨o, ⟨p, hp, hFirst⟩, hRest⟩
        exact ⟨p, hp, o, hFirst, hRest⟩
      · rintro ⟨p, hp, o, hFirst, hRest⟩
        exact ⟨o, ⟨p, hp, hFirst⟩, hRest⟩

theorem finds_endsAll (text : Array Char) :
    (rs : List Regex) → Finds (endsAll text rs) (MatchesAll text rs)
  | [] => by
      intro ps q
      simp [endsAll, MatchesAll]
  | r :: rs => by
      intro ps q
      simp only [endsAll, MatchesAll, finds_endsAll text rs _ _, r.finds_ends text _ _]
      constructor
      · rintro ⟨m, ⟨p, hp, hFirst⟩, hRest⟩
        exact ⟨p, hp, m, hFirst, hRest⟩
      · rintro ⟨p, hp, m, hFirst, hRest⟩
        exact ⟨m, ⟨p, hp, hFirst⟩, hRest⟩

theorem finds_endsAny (text : Array Char) :
    (rs : List Regex) → Finds (endsAny text rs) (MatchesAny text rs)
  | [] => by
      intro ps q
      simp [endsAny, MatchesAny]
  | r :: rs => by
      intro ps q
      simp only [endsAny, MatchesAny, mem_mergePositions, r.finds_ends text _ _,
        finds_endsAny text rs _ _, ← exists_or, ← and_or_left]

end

/-- A text has a match if the search finds the end of one. -/
theorem isMatch_iff {r : Regex} {text : String} :
    r.isMatch text ↔
      ∃ p ≤ text.toList.length, ∃ q, r.Matches text.toList.toArray p q := by
  have hFound : r.isMatch text ↔
      ∃ q, q ∈ r.ends text.toList.toArray (List.range (text.toList.length + 1)) := by
    simp [isMatch, List.eq_nil_iff_forall_not_mem]
  simp only [hFound, r.finds_ends _ _ _, List.mem_range, Nat.lt_succ_iff]
  constructor
  · rintro ⟨q, p, hp, h⟩
    exact ⟨p, hp, q, h⟩
  · rintro ⟨p, hp, q, h⟩
    exact ⟨q, p, hp, h⟩

instance (r : Regex) (text : String) : Decidable (r.FullMatch text) :=
  decidable_of_iff (text.toList.length ∈ r.ends text.toList.toArray [0])
    (by simp [r.finds_ends _ _ _, FullMatch])

/-! Expressions side by side in the form that the reader gives them. -/

theorem matchesAll_append {rs ss : List Regex} {p q : Nat} :
    MatchesAll text (rs ++ ss) p q ↔ ∃ m, MatchesAll text rs p m ∧ MatchesAll text ss m q := by
  induction rs generalizing p with
  | nil => simp [MatchesAll]
  | cons r rs ih =>
      simp only [List.cons_append, MatchesAll, ih]
      constructor
      · rintro ⟨o, hFirst, m, hMid, hRest⟩
        exact ⟨m, ⟨o, hFirst, hMid⟩, hRest⟩
      · rintro ⟨m, ⟨o, hFirst, hMid⟩, hRest⟩
        exact ⟨o, hFirst, m, hMid, hRest⟩

theorem matchesAll_singleton {r : Regex} {p q : Nat} :
    MatchesAll text [r] p q ↔ r.Matches text p q := by
  simp [MatchesAll]

theorem matchesAll_parts {r : Regex} {p q : Nat} :
    MatchesAll text r.parts p q ↔ r.Matches text p q := by
  unfold parts
  split
  · exact Iff.rfl
  · exact matchesAll_singleton

theorem matchesAll_flatMap_parts {rs : List Regex} {p q : Nat} :
    MatchesAll text (rs.flatMap parts) p q ↔ MatchesAll text rs p q := by
  induction rs generalizing p with
  | nil => exact Iff.rfl
  | cons r rs ih =>
      simp only [List.flatMap_cons, matchesAll_append, matchesAll_parts, ih, MatchesAll]

theorem matches_literal_append {cs ds : List Char} {p q : Nat} :
    (literal (cs ++ ds)).Matches text p q ↔
      ∃ m, (literal cs).Matches text p m ∧ (literal ds).Matches text m q := by
  induction cs generalizing p with
  | nil => simp [matches_literal_nil]
  | cons c cs ih =>
      simp only [List.cons_append, matches_literal_cons, ih, exists_and_left, and_assoc]

theorem matchesAll_prepend {r : Regex} {rs : List Regex} {p q : Nat} :
    MatchesAll text (r.prepend rs) p q ↔ MatchesAll text (r :: rs) p q := by
  unfold prepend
  split
  · simp only [MatchesAll, matches_literal_append]
    constructor
    · rintro ⟨m, ⟨o, hFirst, hMid⟩, hRest⟩
      exact ⟨o, hFirst, m, hMid, hRest⟩
    · rintro ⟨o, hFirst, m, hMid, hRest⟩
      exact ⟨m, ⟨o, hFirst, hMid⟩, hRest⟩
  · exact Iff.rfl

theorem matchesAll_foldr_prepend {rs : List Regex} {p q : Nat} :
    MatchesAll text (rs.foldr prepend []) p q ↔ MatchesAll text rs p q := by
  induction rs generalizing p with
  | nil => exact Iff.rfl
  | cons r rs ih => simp only [List.foldr_cons, matchesAll_prepend, MatchesAll, ih]

theorem matches_concat {rs : List Regex} {p q : Nat} :
    (concat rs).Matches text p q ↔ MatchesAll text rs p q := by
  have hParts : MatchesAll text ((rs.flatMap parts).foldr prepend []) p q ↔
      MatchesAll text rs p q :=
    matchesAll_foldr_prepend.trans matchesAll_flatMap_parts
  rw [← hParts, concat]
  split
  · next r hOne =>
      rw [hOne]
      exact matchesAll_singleton.symm
  · exact Iff.rfl

/-- The expression between the start and the end of the text. -/
def whole (r : Regex) : Regex := concat [look .textStart, r, look .textEnd]

theorem matches_textStart {p q : Nat} (hp : p ≤ text.size) :
    (look .textStart).Matches text p q ↔ q = p ∧ p = 0 := by
  rw [Matches, Look.holds]
  split
  · simp_all
  · next hLater =>
      rw [Array.getElem?_eq_getElem (by omega)]
      simp [hLater]

theorem matches_textEnd {p q : Nat} (hp : p ≤ text.size) :
    (look .textEnd).Matches text p q ↔ q = p ∧ p = text.size := by
  have hEnd : text.size ≤ p ↔ p = text.size := ⟨Nat.le_antisymm hp, fun h => h ▸ Nat.le_refl _⟩
  rw [Matches, Look.holds, Option.isNone_iff_eq_none, Array.getElem?_eq_none_iff, hEnd]

theorem matches_whole {r : Regex} {p q : Nat} (hp : p ≤ text.size) :
    r.whole.Matches text p q ↔ p = 0 ∧ q = text.size ∧ r.Matches text 0 text.size := by
  simp only [whole, matches_concat, MatchesAll, matches_textStart hp]
  constructor
  · rintro ⟨_, ⟨rfl, rfl⟩, m, hMatch, o, hEnd, rfl⟩
    have hm : m ≤ text.size := by simpa using (r.within_matches _ _ hMatch).2
    obtain ⟨rfl, rfl⟩ := (matches_textEnd hm).mp hEnd
    exact ⟨rfl, rfl, hMatch⟩
  · rintro ⟨rfl, rfl, hMatch⟩
    exact ⟨0, ⟨rfl, rfl⟩, _, hMatch, _, (matches_textEnd (Nat.le_refl _)).mpr ⟨rfl, rfl⟩, rfl⟩

/-- To look for an expression between the start and the end of a text is to match it whole. -/
theorem isMatch_whole {r : Regex} {text : String} : r.whole.isMatch text ↔ r.FullMatch text := by
  rw [isMatch_iff]
  constructor
  · rintro ⟨p, hp, q, h⟩
    exact ((matches_whole (by simpa using hp)).mp h).2.2
  · intro h
    exact ⟨0, Nat.zero_le _, _, (matches_whole (Nat.zero_le _)).mpr ⟨rfl, rfl, h⟩⟩

end Regex

end Hyperslab.Pattern
