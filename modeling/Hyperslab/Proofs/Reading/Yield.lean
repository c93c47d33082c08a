import Hyperslab.Proofs.Reading.Written

/-! What can be read can be written. A parser yields a property if all that it reads has it,
whatever the text is. -/
namespace Hyperslab

namespace Parser

variable {α β : Type} {p : Parser α} {P : α → Prop} {Q : β → Prop}

/-- All that `p` reads has the property `P`. -/
def Yields (p : Parser α) (P : α → Prop) : Prop :=
  ∀ ⦃input rest : List Char⦄ ⦃a : α⦄, p input = .ok (a, rest) → P a

theorem yields_any : Yields p fun _ => True :=
  fun _ _ _ _ => trivial

theorem yields_pure {a : α} (h : P a) : Yields (pure a : Parser α) P := by
  intro input rest b hOk
  cases hOk
  exact h

theorem Yields.bind {f : α → Parser β} (h : Yields p P) (hNext : ∀ a, P a → Yields (f a) Q) :
    Yields (p >>= f) Q := by
  intro input rest b hOk
  cases hFirst : p input with
  | error stop =>
      rw [bind_error hFirst] at hOk
      cases hOk
  | ok done =>
      obtain ⟨a, middle⟩ := done
      rw [bind_ok hFirst] at hOk
      exact hNext a (h hFirst) hOk

theorem Yields.mono {P' : α → Prop} (h : Yields p P) (hSub : ∀ a, P a → P' a) : Yields p P' :=
  fun _ _ a hOk => hSub a (h hOk)

theorem Yields.cut (h : Yields p P) : Yields (cut p) P := by
  intro input rest a hOk
  unfold Parser.cut at hOk
  split at hOk
  · cases hOk
  · next hFirst =>
      cases hOk
      exact h hFirst

theorem Yields.expecting {e : Expectation} (h : Yields p P) : Yields (expecting e p) P := by
  intro input rest a hOk
  unfold Parser.expecting at hOk
  split at hOk
  · cases hOk
  · next hFirst =>
      cases hOk
      exact h hFirst

theorem Yields.either {q : Parser α} (h : Yields p P) (h' : Yields q P) :
    Yields (either p q) P := by
  intro input rest a hOk
  unfold Parser.either at hOk
  split at hOk
  · exact h' hOk
  · cases hOk
  · next hFirst =>
      cases hOk
      exact h hFirst

theorem Yields.maybe (h : Yields p P) : Yields (maybe p) fun o => ∀ a ∈ o, P a := by
  intro input rest o hOk
  unfold Parser.maybe at hOk
  split at hOk
  · cases hOk
    simp
  · cases hOk
  · next hFirst =>
      cases hOk
      simpa using h hFirst

theorem Yields.token (h : Yields p P) : Yields (token p) P :=
  yields_any.bind fun _ _ => h.bind fun _ ha => yields_any.bind fun _ _ => yields_pure ha

theorem Yields.upTo (h : Yields p P) (n : Nat) : Yields (upTo p n) fun as => ∀ a ∈ as, P a := by
  induction n with
  | zero => exact yields_pure (by simp)
  | succ n ih =>
      refine h.maybe.bind fun o ho => ?_
      cases o with
      | none => exact yields_pure (by simp)
      | some a =>
          refine ih.bind fun as has => yields_pure fun b hb => ?_
          rcases List.mem_cons.mp hb with rfl | hb
          · exact ho b rfl
          · exact has b hb

theorem Yields.many (h : Yields p P) : Yields (many p) fun as => ∀ a ∈ as, P a :=
  fun input _ _ hOk => h.upTo input.length hOk

theorem Yields.separated {separator : Parser β} (h : Yields p P) :
    Yields (separated separator p) fun as => ∀ a ∈ as, P a := by
  have hMany : Yields (Parser.many (separator >>= fun _ => p)) fun as => ∀ a ∈ as, P a :=
    (yields_any.bind fun _ _ => h).many
  refine h.bind fun first hFirst => hMany.bind fun others hOthers => yields_pure fun a ha => ?_
  rcases List.mem_cons.mp ha with rfl | ha
  · exact hFirst
  · exact hOthers a ha

end Parser

open Hyperslab.Parser

theorem Name.yields_spelled : Yields Name.spelled fun spelled => spelled.1 ≠ "" := by
  intro input rest spelled hOk
  unfold Name.spelled at hOk
  split at hOk
  · cases hOk
  · next name escaped rest' hSome hSplit =>
      cases hOk
      intro hEmpty
      have hNil : name = [] := by simpa using congrArg String.toList hEmpty
      exact hSome hNil

theorem Name.yields_parse : Yields Name.parse (· ≠ "") :=
  Name.yields_spelled.bind fun _ h => yields_pure h

namespace Slice

theorem yields_bounds : Yields bounds Slice.Writable := by
  refine yields_any.bind fun first _ => yields_any.bind fun more _ => ?_
  rcases more with _ | ⟨last, _ | _ | last⟩
  · exact yields_pure (.index first)
  · exact yields_pure (.range first 1 last)
  · exact yields_pure (.range first _ none)
  · exact yields_pure (.range first _ (some last))

theorem yields_parse : Yields Slice.parse Slice.Writable := by
  have hInner : Yields (do
      let slice ← maybe bounds
      let _ ← expecting .closingBracket (token (char ']'))
      return slice.getD whole) Slice.Writable := by
    refine yields_bounds.maybe.bind fun slice hSlice => yields_any.bind fun _ _ => ?_
    cases slice with
    | none => exact yields_pure .whole
    | some slice => exact yields_pure (hSlice slice rfl)
  exact yields_any.bind fun _ _ => hInner.cut

end Slice

namespace Value

/-- Every number that is read as a float is finite. -/
theorem yields_float : Yields floatParser fun x => Decimal.isFinite x = true := by
  refine yields_any.bind fun start _ => yields_any.bind fun sign _ => yields_any.bind fun whole _ =>
    yields_any.bind fun marks _ => ?_
  obtain ⟨fraction, exponent⟩ := marks
  intro input rest x hOk
  simp only at hOk
  split at hOk
  · next hFinite =>
      cases hOk
      exact hFinite
  · cases hOk

end Value

namespace Expr

/-- The floats among the constants are finite. -/
def Finite (e : Expr) : Prop := ∀ v ∈ e.constants, v.Finite

theorem finite_append {vs ws : List Value} (h : ∀ v ∈ vs, v.Finite) (h' : ∀ v ∈ ws, v.Finite) :
    ∀ v ∈ vs ++ ws, v.Finite :=
  fun v hv => (List.mem_append.mp hv).elim (h v) (h' v)

theorem yields_name : Yields nameParser fun e => e.IsOperand ∧ e.Finite := by
  refine Name.yields_spelled.bind fun spelled hName => yields_pure ?_
  obtain ⟨name, escaped⟩ := spelled
  have hField : (field name).IsOperand ∧ (field name).Finite :=
    ⟨.field name hName, by simp [Finite, constants]⟩
  have hBool (b : Bool) : (constant (.bool b)).IsOperand ∧ (constant (.bool b)).Finite :=
    ⟨.constant _, by simp [Finite, constants, Value.Finite]⟩
  simp only
  split
  · exact hField
  · split
    · exact hBool true
    · split
      · exact hBool false
      · exact hField

theorem yields_operand : Yields operandParser fun e => e.IsOperand ∧ e.Finite := by
  have hString : Yields (do return constant (.str (← Value.stringParser)))
      fun e => e.IsOperand ∧ e.Finite :=
    yields_any.bind fun s _ => yields_pure
      ⟨.constant _, by simp [Finite, constants, Value.Finite]⟩
  have hFloat : Yields (do return constant (.float (← Value.floatParser)))
      fun e => e.IsOperand ∧ e.Finite :=
    Value.yields_float.bind fun x hx => yields_pure
      ⟨.constant _, by simpa [Finite, constants, Value.Finite] using hx⟩
  have hInteger : Yields (do return constant (.int (← Value.integerParser)))
      fun e => e.IsOperand ∧ e.Finite :=
    yields_any.bind fun n _ => yields_pure
      ⟨.constant _, by simp [Finite, constants, Value.Finite]⟩
  exact hString.either (hFloat.either (hInteger.either yields_name))

theorem yields_comparison : Yields comparisonParser fun e => e.Writable ∧ e.Finite := by
  have hOperand := yields_operand.token
  refine hOperand.bind fun a ha => yields_any.bind fun op _ => hOperand.cut.bind fun b hb =>
    yields_any.bind fun place _ => ?_
  have hUpper : Yields (do
      let op ← token Operator.parse
      return (op, ← cut (token operandParser))) fun bound => bound.2.IsOperand ∧ bound.2.Finite :=
    yields_any.bind fun op _ => hOperand.cut.bind fun c hc => yields_pure hc
  refine hUpper.maybe.bind fun upper hUpper => ?_
  rcases upper with _ | ⟨op', c⟩
  · exact yields_pure ⟨.compare op ha.1 hb.1, finite_append ha.2 hb.2⟩
  · have hc := hUpper _ rfl
    intro input rest e hOk
    simp only at hOk
    split at hOk
    · cases hOk
      exact ⟨.conj (.compare op ha.1 hb.1) (.compare op' hb.1 hc.1),
        finite_append (finite_append ha.2 hb.2) (finite_append hb.2 hc.2)⟩
    · cases hOk

theorem foldl_conj {first : Expr} {others : List Expr} (h : first.Writable ∧ first.Finite)
    (hOthers : ∀ e ∈ others, e.Writable ∧ e.Finite) :
    (others.foldl .conj first).Writable ∧ (others.foldl .conj first).Finite := by
  induction others generalizing first with
  | nil => exact h
  | cons e others ih =>
      have he := hOthers e (by simp)
      exact ih ⟨.conj h.1 he.1, finite_append h.2 he.2⟩ fun e he => hOthers e (by simp [he])

theorem yields_filterWith {conjunct : Parser Expr}
    (h : Yields conjunct fun e => e.Writable ∧ e.Finite) :
    Yields (filterWith conjunct) fun e => e.Writable ∧ e.Finite := by
  have hOther : Yields (token (char ',') >>= fun _ => cut conjunct)
      fun e => e.Writable ∧ e.Finite := yields_any.bind fun _ _ => h.cut
  exact h.bind fun first hFirst => hOther.many.bind fun others hOthers =>
    yields_pure (foldl_conj hFirst hOthers)

theorem yields_conjunct (n : Nat) :
    Yields (conjunctUpTo n) fun e => e.Writable ∧ e.Finite := by
  induction n with
  | zero => exact fun _ _ _ hOk => nomatch hOk
  | succ n ih =>
      have hNegation : Yields (do
          let _ ← token (char '!')
          return Expr.neg (← conjunctUpTo n)) fun e => e.Writable ∧ e.Finite :=
        yields_any.bind fun _ _ => ih.bind fun e he => yields_pure ⟨.neg he.1, he.2⟩
      have hGroup : Yields (do
          let _ ← token (char '(')
          let inner ← filterWith (conjunctUpTo n)
          let _ ← cut (expecting .closingParenthesis (token (char ')')))
          return inner) fun e => e.Writable ∧ e.Finite :=
        yields_any.bind fun _ _ => (yields_filterWith ih).bind fun e he =>
          yields_any.bind fun _ _ => yields_pure he
      exact hNegation.either (hGroup.either yields_comparison)

theorem yields_filter : Yields filterParser fun e => e.Writable ∧ e.Finite :=
  fun input _ _ hOk => yields_filterWith (yields_conjunct (input.length + 1)) hOk

end Expr

namespace Request

/-- What the texts of clauses give: clauses that can be written, with finite constants. -/
def FieldsSound (clauses : List Clause) : Prop :=
  fieldsWritable clauses ∧ ∀ v ∈ fieldConstants clauses, v.Finite

theorem fieldsSound_of_forall {clauses : List Clause}
    (h : ∀ clause ∈ clauses, clause.Writable ∧ ∀ v ∈ clause.constants, v.Finite) :
    FieldsSound clauses := by
  induction clauses with
  | nil => exact ⟨trivial, by simp [fieldConstants]⟩
  | cons clause clauses ih =>
      obtain ⟨hWritable, hFinite⟩ := ih fun c hc => h c (by simp [hc])
      have hClause := h clause (by simp)
      exact ⟨⟨hClause.1, hWritable⟩, Expr.finite_append hClause.2 hFinite⟩

theorem yields_clauseWith {selector : Parser Selector}
    (h : Yields selector fun s => s.Writable ∧ ∀ v ∈ s.constants, v.Finite) :
    Yields (clauseWith selector) fun c => c.Writable ∧ ∀ v ∈ c.constants, v.Finite := by
  have hFilter : Yields (token (char '|') >>= fun _ => cut Expr.filterParser)
      fun e => e.Writable ∧ e.Finite := yields_any.bind fun _ _ => Expr.yields_filter.cut
  refine h.bind fun target hTarget => hFilter.maybe.bind fun filter hFilter => yields_pure ?_
  refine ⟨⟨hTarget.1, fun e he => (hFilter e he).1⟩, Expr.finite_append hTarget.2 ?_⟩
  cases filter with
  | none => simp
  | some e => exact (hFilter e rfl).2

theorem yields_fieldsWith {selector : Parser Selector}
    (h : Yields selector fun s => s.Writable ∧ ∀ v ∈ s.constants, v.Finite) :
    Yields (fieldsWith selector) FieldsSound := by
  have hInner : Yields (do
      let fields ← separated (token (oneOf [';', ','])) (clauseWith selector)
      let _ ← maybe (token (char ';'))
      return fields) FieldsSound :=
    (yields_clauseWith h).separated.bind fun fields hFields =>
      yields_any.bind fun _ _ => yields_pure (fieldsSound_of_forall hFields)
  exact yields_any.bind fun _ _ => hInner.cut.bind fun fields hFields =>
    yields_any.bind fun _ _ => yields_pure hFields

theorem yields_selectorWith {selector : Parser Selector}
    (h : Yields selector fun s => s.Writable ∧ ∀ v ∈ s.constants, v.Finite) :
    Yields (selectorWith selector) fun s => s.Writable ∧ ∀ v ∈ s.constants, v.Finite := by
  refine Name.yields_parse.token.bind fun name hName => Slice.yields_parse.many.bind
    fun slices hSlices => (yields_fieldsWith h).maybe.bind fun fields hFields => ?_
  have hList {fields : List Clause} (hFields : FieldsSound fields) :
      (Selector.mk name slices none fields).Writable ∧
        ∀ v ∈ (Selector.mk name slices none fields).constants, v.Finite :=
    ⟨⟨hName, hSlices, Or.inl rfl, trivial, hFields.1⟩,
      Expr.finite_append (by simp [childConstants]) hFields.2⟩
  have hBare := @hList [] (fieldsSound_of_forall (by simp))
  cases fields with
  | some fields => exact yields_pure (hList (hFields fields rfl))
  | none =>
      refine yields_any.bind fun point _ => ?_
      cases point with
      | none => exact yields_pure hBare
      | some c =>
          refine (yields_fieldsWith h).maybe.bind fun fields hFields => ?_
          cases fields with
          | some fields => exact yields_pure (hList (hFields fields rfl))
          | none =>
              refine h.expecting.cut.bind fun child hChild => yields_pure ?_
              exact ⟨⟨hName, hSlices, Or.inr rfl, hChild.1, trivial⟩,
                Expr.finite_append hChild.2 (by simp [fieldConstants])⟩

theorem yields_selector (n : Nat) :
    Yields (selectorUpTo n) fun s => s.Writable ∧ ∀ v ∈ s.constants, v.Finite := by
  induction n with
  | zero => exact fun _ _ _ hOk => nomatch hOk
  | succ n ih => exact yields_selectorWith ih

theorem yields_clauses :
    Yields clauseParser fun c => c.Writable ∧ ∀ v ∈ c.constants, v.Finite :=
  fun input _ _ hOk => yields_clauseWith (yields_selector (input.length + 1)) hOk

theorem yields_resize :
    Yields resizeParser fun resize => resize.name ≠ "" ∧ resize.slice.Writable :=
  Name.yields_parse.bind fun _ hName => yields_any.bind fun _ _ =>
    Slice.yields_parse.cut.bind fun _ hSlice => yields_pure ⟨hName, hSlice⟩

/-- A request that is read can be written, and its constants are finite. -/
theorem yields_request :
    Yields parser fun request => request.Writable ∧ ∀ v ∈ request.constants, v.Finite := by
  have hResize : Yields (do
      let resize ← token resizeParser
      let _ ← token (char ';')
      return resize) fun resize => resize.name ≠ "" ∧ resize.slice.Writable :=
    yields_resize.token.bind fun _ h => yields_any.bind fun _ _ => yields_pure h
  have hClauses : Yields (separated (token (char ';')) clauseParser) FieldsSound :=
    yields_clauses.separated.mono fun _ => fieldsSound_of_forall
  refine hResize.many.bind fun resizes hResizes => hClauses.maybe.bind fun clauses hClauses =>
    yields_any.bind fun _ _ => yields_any.bind fun _ _ => yields_pure ?_
  have hSound : FieldsSound (clauses.getD []) := by
    cases clauses with
    | none => exact fieldsSound_of_forall (by simp)
    | some clauses => exact hClauses clauses rfl
  exact ⟨⟨hResizes, hSound.1⟩, hSound.2⟩

theorem parse_sound {text : String} {request : Request} (h : Request.parse text = .ok request) :
    request.Writable ∧ ∀ v ∈ request.constants, v.Finite := by
  unfold Request.parse Parser.run at h
  split at h
  · next hOk =>
      cases h
      exact yields_request hOk
  · cases h
  · cases h

end Request

end Hyperslab
