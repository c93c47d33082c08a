import Hyperslab.Proofs.Filter.Bound

/-! The text of a filter as a text of the grammar. Nested conjunctions are written without
parentheses and read grouped from the left, so what is read agrees with what was written only up to
the grouping. -/
namespace Hyperslab.Filter

open Grammar

/-- `Agrees e f` does not see how conjunctions are grouped. -/
structure Regrouping (Agrees : Expr → Filter → Prop) : Prop where
  conj : ∀ {a b f g}, g.isConjunction = false → Agrees a f → Agrees b g →
    Agrees (.conj a b) (.conj f g)
  neg : ∀ {a f}, Agrees a f → Agrees (.neg a) (.neg f)
  assoc : ∀ {e f g h}, Agrees e (.conj (.conj f g) h) → Agrees e (.conj f (.conj g h))

variable {literal : Value → List Char → Prop} {Agrees : Expr → Filter → Prop}
variable {schema : Schema} {limits : Limits} {sequence : VarId}

/-- How the text of a filter can be read: by itself, behind another filter and a comma, and between
commas if it is no conjunction. -/
structure Rereads (literal : Value → List Char → Prop) (Agrees : Expr → Filter → Prop)
    (f : Filter) : Prop where
  alone : ∃ e, Agrees e f ∧ ∀ rest, FilterText literal e (f.chars ++ rest) rest
  behind : ∀ {e g}, Agrees e g → ∃ e', Agrees e' (.conj g f) ∧ ∀ input rest,
    FilterText literal e input (',' :: (f.chars ++ rest)) → FilterText literal e' input rest
  conjunct : f.isConjunction = false →
    ∃ e, Agrees e f ∧ ∀ rest, ConjunctText literal e (f.chars ++ rest) rest

theorem Rereads.of_conjunct (hAgrees : Regrouping Agrees) {f : Filter} {e : Expr}
    (hSingle : f.isConjunction = false) (h : Agrees e f)
    (hText : ∀ rest, ConjunctText literal e (f.chars ++ rest) rest) :
    f.Rereads literal Agrees where
  alone := ⟨e, h, fun rest => .single (hText rest)⟩
  behind := fun {e₀} _ hBefore => ⟨.conj e₀ e, hAgrees.conj hSingle hBefore h, fun _ rest hInput =>
    .conj hInput (Lexeme.tight [','] _) (hText rest)⟩
  conjunct := fun _ => ⟨e, h, hText⟩

theorem chars_conj (a b : Filter) : (conj a b).chars = a.chars ++ ',' :: b.chars := by
  simp [conj, chars, conjoinedChars]

theorem chars_neg (a : Filter) : (neg a).chars =
    if a.isConjunction then '!' :: '(' :: a.chars ++ [')'] else '!' :: a.chars := by
  simp [neg, chars, negatedChars]

theorem Rereads.conj (hAgrees : Regrouping Agrees) {a b : Filter} (ha : a.Rereads literal Agrees)
    (hb : b.Rereads literal Agrees) : (conj a b).Rereads literal Agrees := by
  have hChars : ∀ rest, (Filter.conj a b).chars ++ rest = a.chars ++ ',' :: (b.chars ++ rest) := by
    intro rest
    rw [chars_conj, List.append_assoc, List.cons_append]
  refine ⟨?_, fun hBefore => ?_, fun hConj => by cases hConj⟩
  · obtain ⟨e, hMeans, hText⟩ := ha.alone
    obtain ⟨e', hMeans', hText'⟩ := hb.behind hMeans
    refine ⟨e', hMeans', ?_⟩
    intro rest
    rw [hChars]
    exact hText' _ rest (hText _)
  · obtain ⟨e, hMeans, hText⟩ := ha.behind hBefore
    obtain ⟨e', hMeans', hText'⟩ := hb.behind hMeans
    refine ⟨e', hAgrees.assoc hMeans', ?_⟩
    intro input rest hInput
    rw [hChars] at hInput
    exact hText' _ rest (hText _ _ hInput)

theorem Rereads.neg (hAgrees : Regrouping Agrees) {a : Filter} (ha : a.Rereads literal Agrees) :
    (neg a).Rereads literal Agrees := by
  cases hConj : a.isConjunction with
  | true =>
      obtain ⟨e, hMeans, hText⟩ := ha.alone
      refine .of_conjunct hAgrees rfl (hAgrees.neg hMeans) fun rest => ?_
      have hChars : (Filter.neg a).chars ++ rest = '!' :: '(' :: (a.chars ++ ')' :: rest) := by
        simp [chars_neg, hConj]
      rw [hChars]
      exact .neg (Lexeme.tight ['!'] _) (.group (Lexeme.tight ['('] _) (hText _)
        (Lexeme.tight [')'] rest))
  | false =>
      obtain ⟨e, hMeans, hText⟩ := ha.conjunct hConj
      refine .of_conjunct hAgrees rfl (hAgrees.neg hMeans) fun rest => ?_
      have hChars : (Filter.neg a).chars ++ rest = '!' :: (a.chars ++ rest) := by
        simp [chars_neg, hConj]
      rw [hChars]
      exact .neg (Lexeme.tight ['!'] _) (hText rest)

def isComparison : Filter → Bool
  | compare _ _ _ _ => true
  | _ => false

/-- The text of a filter of a sequence is read as what it was, up to the grouping of conjunctions,
if the texts of its comparisons are. -/
theorem Bound.rereads (hAgrees : Regrouping Agrees)
    (hCompare : ∀ {f : Filter}, f.Bound schema limits sequence → f.isComparison = true →
      ∃ e, Agrees e f ∧ ∀ rest, ConjunctText literal e (f.chars ++ rest) rest)
    {f : Filter} (h : f.Bound schema limits sequence) : f.Rereads literal Agrees := by
  induction h with
  | compare hl hr hOriented =>
      obtain ⟨e, hMeans, hText⟩ := hCompare (.compare hl hr hOriented) rfl
      exact .of_conjunct hAgrees rfl hMeans hText
  | conj _ _ iha ihb => exact .conj hAgrees iha ihb
  | neg _ ih => exact .neg hAgrees ih

/-- The text of an operand, where the constant reads as `v'` in place of `v`. -/
theorem IsOperand.exists_text (hLiteral : ∀ v : Value, v.Finite → ∃ v', literal v' v.chars)
    {f : Filter} (h : f.IsOperand schema sequence) :
    ∃ e, ∀ rest, OperandText literal e (f.chars ++ rest) rest := by
  cases h with
  | constant v hFinite =>
      obtain ⟨v', hSpelled⟩ := hLiteral v hFinite
      refine ⟨.constant v', ?_⟩
      intro rest
      rw [chars]
      exact .constant hSpelled (Lexeme.tight _ rest)
  | field v name hName _ =>
      refine ⟨.field name, ?_⟩
      intro rest
      rw [chars]
      exact .field hName (Lexeme.tight _ rest)

/-- Whatever its constants read as, the text of a filter of a sequence is a filter. -/
theorem Bound.exists_text (hLiteral : ∀ v : Value, v.Finite → ∃ v', literal v' v.chars)
    {f : Filter} (h : f.Bound schema limits sequence) :
    ∃ e, ∀ rest, FilterText literal e (f.chars ++ rest) rest := by
  have hAny : Regrouping fun _ _ => True :=
    ⟨fun _ _ _ => trivial, fun _ => trivial, fun _ => trivial⟩
  have hCompare {g : Filter} (hBound : g.Bound schema limits sequence)
      (hComparison : g.isComparison = true) :
      ∃ e, True ∧ ∀ rest, ConjunctText literal e (g.chars ++ rest) rest := by
    cases hBound with
    | @compare op lhs rhs regex hl hr _ =>
        obtain ⟨a, ha⟩ := hl.exists_text hLiteral
        obtain ⟨b, hb⟩ := hr.exists_text hLiteral
        refine ⟨.compare op a b, trivial, ?_⟩
        intro rest
        rw [chars, List.append_assoc, List.append_assoc]
        exact .compare (ha _) (Lexeme.tight _ _) (hb rest)
    | conj | neg => cases hComparison
  obtain ⟨e, _, hText⟩ := (h.rereads hAny hCompare).alone
  exact ⟨e, hText⟩

end Hyperslab.Filter
