import Hyperslab.Proofs.Filter.Text
import Hyperslab.Proofs.Request.Mention
import Hyperslab.Proofs.Slice.Text
import Hyperslab.Proofs.View.Whole

/-! The clause that a view writes for a variable is a clause of the grammar, and mentions what is
shown of the variable. -/
namespace Hyperslab

open Grammar

namespace View

/-- The slices that the clause of a segment asks for. -/
def rewrittenSlices (slices : List Slice) : List Slice :=
  if slices.any (·.constrained) then slices.map Slice.rewritten else []

theorem slicesText (slices : List Slice) (rest : List Char) :
    SlicesText (rewrittenSlices slices) (slicesChars slices ++ rest) rest := by
  have hRun :
      SlicesText (slices.map Slice.rewritten) (slices.flatMap Slice.chars ++ rest) rest := by
    induction slices with
    | nil => exact .nil rest
    | cons slice slices ih =>
        rw [List.map_cons, List.flatMap_cons, List.append_assoc]
        exact .cons (Slice.text_rewritten slice _) ih
  simp only [rewrittenSlices, slicesChars]
  split
  · exact hRun
  · exact .nil rest

/-- The name that a clause begins with. -/
def clauseName (view : View) (v : VarId) : String :=
  if (view.schema.var v).isTopLevel then view.schema.varName v else (view.schema.var v).name

/-- The fields that are listed behind the name of a variable. -/
def listed (view : View) (v : VarId) : List VarId :=
  if (view.schema.var v).isCompound && !view.isWhole v then
    (view.schema.var v).fields.filter view.selects
  else []

variable {view : View}

theorem mem_listed (hTree : view.schema.Tree) (hInStep : view.InStep) {v f : VarId} :
    f ∈ view.listed v ↔ f ∈ (view.schema.var v).fields ∧ f ∈ view.vars ∧ ¬view.Whole v := by
  rw [← isWhole_iff hTree hInStep, listed]
  split
  · next hPart =>
      obtain ⟨_, hWhole⟩ := by simpa using hPart
      simp [selects, hWhole]
  · next hWhole =>
      simp only [List.not_mem_nil, false_iff]
      rintro ⟨hField, _, hPart⟩
      exact hWhole (by simp [hTree.isCompound hField, hPart])

theorem clauseChars_eq (hTree : view.schema.Tree) (hInStep : view.InStep) {segment : Segment}
    (h : segment ∈ view.segments) : view.clauseChars segment.var =
      view.nameChars segment.var ++ slicesChars segment.slices ++
        (if (view.listed segment.var).isEmpty then []
          else '\x7b' :: [';'].intercalate ((view.listed segment.var).map view.clauseChars) ++
            ['\x7d']) ++
          filterChars segment.filter := by
  have hFields : (if (view.schema.var segment.var).isCompound && !view.isWhole segment.var then
      ((view.schema.var segment.var).fields.filter view.selects).map fun field =>
        if segment.var.index < field.index ∧ field.index < view.schema.vars.size then
          view.clauseChars field
        else []
      else []) = (view.listed segment.var).map view.clauseChars := by
    rw [listed]
    split
    · apply List.map_congr_left
      intro f hf
      have hField := (List.mem_filter.mp hf).1
      exact if_pos ⟨hTree.after hField, hTree.lt_size hField⟩
    · rfl
  rw [clauseChars, hInStep.segment?_of_mem h]
  simp only [hFields, List.isEmpty_map]

variable {literal : Value → List Char → Prop}

/-- Clauses with semicolons between them make a list of fields. -/
theorem fieldsText {chars : VarId → List Char} {fields : List VarId} {clauses : List Clause}
    (h : List.Forall₂ (fun f clause => ∀ rest, ClauseText literal clause (chars f ++ rest) rest)
      fields clauses) (hSome : fields ≠ []) (rest : List Char) :
    FieldsText literal clauses ([';'].intercalate (fields.map chars) ++ rest) rest := by
  induction h with
  | nil => exact absurd rfl hSome
  | @cons f clause fields clauses hText hTexts ih =>
      cases hTexts with
      | nil => simpa using .last (hText rest)
      | cons _ _ =>
          have hOthers := ih (by simp)
          rw [List.map_cons] at hOthers
          rw [List.map_cons, List.map_cons, List.intercalate_cons_cons, List.append_assoc,
            List.append_assoc]
          exact .cons (hText _) (Lexeme.tight [';'] _) (Or.inl rfl) hOthers

/-- The compound around a variable, in which its clause is read. -/
def scope (view : View) (v : VarId) : Option VarId :=
  match (view.schema.var v).owner with
  | .group _ => none
  | .compound c => some c

theorem scope_of_mem (hTree : view.schema.Tree) {c f : VarId}
    (h : f ∈ (view.schema.var c).fields) : view.scope f = some c := by
  rw [scope, hTree.owner h]

theorem scope_of_isTopLevel {v : VarId} (h : (view.schema.var v).isTopLevel = true) :
    view.scope v = none := by
  cases hOwner : (view.schema.var v).owner with
  | group g => rw [scope, hOwner]
  | compound c =>
      rw [Variable.isTopLevel, hOwner] at h
      cases h

theorem scope_of_mem_listed (hTree : view.schema.Tree) (hInStep : view.InStep) {v f : VarId}
    (h : f ∈ view.listed v) : view.scope f = some v :=
  scope_of_mem hTree ((mem_listed hTree hInStep).mp h).1

/-- The variable is listed, or stands at the top. -/
def Listed (view : View) (v : VarId) : Prop :=
  v ∈ view.vars ∧ ((view.schema.var v).isTopLevel = true ∨
    ∃ c, v ∈ (view.schema.var c).fields ∧ ¬view.Whole c)

/-- Each listed variable is found again by the name that its clause uses, and filters have texts of
the grammar. -/
structure Spelled (literal : Value → List Char → Prop) (view : View) : Prop where
  tree : view.schema.Tree
  inStep : view.InStep
  name : ∀ v, view.Listed v → view.clauseName v ≠ "" ∧
    view.schema.Denotes (view.scope v) (view.clauseName v) v
  filter : ∀ segment ∈ view.segments, ∀ filter ∈ segment.filter,
    ∃ e, ∀ rest, FilterText literal e (filter.chars ++ rest) rest

/-- The clause mentions what is shown of the variable, with the slices that are written for it. -/
def Describes (view : View) (v : VarId) (clause : Clause) : Prop :=
  ∀ x given, clause.target.Mentions view.schema (view.scope v) x given ↔
    view.Shown v x ∧ ∃ segment ∈ view.segments, segment.var = x ∧
      given = rewrittenSlices segment.slices

/-- The text of a filter that may be there is read as an expression that may be there. -/
def OptionalFilterText (literal : Value → List Char → Prop) : Option Filter → Option Expr → Prop
  | none, none => True
  | some g, some e => ∀ rest, FilterText literal e (g.chars ++ rest) rest
  | _, _ => False

/-- A selector and an optional filter make a clause. -/
theorem exists_clauseText {selector : Selector} {filter : Option Filter} {text : List Char}
    (hText : ∀ rest, SelectorText literal selector (text ++ rest) rest)
    (hFilter : ∀ g ∈ filter, ∃ e, ∀ rest, FilterText literal e (g.chars ++ rest) rest) :
    ∃ e, OptionalFilterText literal filter e ∧
      ∀ rest, ClauseText literal (.mk selector e) (text ++ filterChars filter ++ rest) rest := by
  cases filter with
  | none => exact ⟨none, trivial, fun rest => .plain (by simpa [filterChars] using hText rest)⟩
  | some g =>
      obtain ⟨e, he⟩ := hFilter g rfl
      refine ⟨some e, he, ?_⟩
      intro rest
      rw [filterChars, List.append_assoc]
      exact .filtered (hText _) (Lexeme.tight ['|'] _) (he rest)

/-- The selector of a clause as it is written. -/
theorem selectorText {segment : Segment} {clauses : List Clause}
    (hName : view.clauseName segment.var ≠ "")
    (hClauses : List.Forall₂ (fun f clause => ∀ rest,
      ClauseText literal clause (view.clauseChars f ++ rest) rest)
        (view.listed segment.var) clauses)
    (rest : List Char) : SelectorText literal
      (.mk (view.clauseName segment.var) (rewrittenSlices segment.slices) none clauses)
      (view.nameChars segment.var ++ slicesChars segment.slices ++
        (if (view.listed segment.var).isEmpty then []
          else '\x7b' :: [';'].intercalate ((view.listed segment.var).map view.clauseChars) ++
            ['\x7d']) ++ rest) rest := by
  have hHead (m : List Char) : HeadText (view.clauseName segment.var)
      (rewrittenSlices segment.slices)
      (view.nameChars segment.var ++ (slicesChars segment.slices ++ m)) m :=
    ⟨hName, _, Lexeme.tight _ _, slicesText segment.slices m⟩
  cases hNone : view.listed segment.var with
  | nil =>
      rw [hNone] at hClauses
      cases hClauses
      simpa using .bare (hHead rest)
  | cons f fields =>
      rw [← hNone]
      have hSome : view.listed segment.var ≠ [] := by simp [hNone]
      rw [if_neg (by simpa using hSome)]
      simp only [List.append_assoc, List.cons_append, List.nil_append]
      exact .list (hHead _) (Or.inl rfl) (Lexeme.tight ['\x7b'] _) (fieldsText hClauses hSome _)
        (Lexeme.tight ['\x7d'] rest)

/-- A clause describes its variable if the clauses in its list of fields do. -/
theorem Spelled.describes (h : view.Spelled literal) {segment : Segment} {clauses : List Clause}
    (hMem : segment ∈ view.segments) (hDenotes : view.schema.Denotes (view.scope segment.var)
      (view.clauseName segment.var) segment.var)
    (hClauses : List.Forall₂ view.Describes (view.listed segment.var) clauses)
    (filter : Option Expr) : view.Describes segment.var
      (.mk (.mk (view.clauseName segment.var) (rewrittenSlices segment.slices) none clauses)
        filter) := by
  intro x given
  constructor
  · intro hMentions
    cases hMentions with
    | self hSelf =>
        obtain rfl := hSelf.unique hDenotes
        exact ⟨.self, segment, hMem, rfl, rfl⟩
    | field hSelf hIn hField =>
        obtain rfl := hSelf.unique hDenotes
        obtain ⟨f, hf, hDescribes⟩ := exists_of_forall₂_right hClauses hIn
        obtain ⟨hField', hSelected, hPart⟩ := (mem_listed h.tree h.inStep).mp hf
        rw [← scope_of_mem h.tree hField'] at hField
        obtain ⟨hShown, hGiven⟩ := (hDescribes x given).mp hField
        exact ⟨hShown.head hField' hSelected hPart, hGiven⟩
  · rintro ⟨hShown, other, hOther, rfl, rfl⟩
    rcases shown_iff.mp hShown with hSame | ⟨hPart, f, hField, hSelected, hDeep⟩
    · rw [h.inStep.segment_unique hOther hMem hSame]
      exact .self hDenotes
    · have hf := (mem_listed h.tree h.inStep).mpr ⟨hField, hSelected, hPart⟩
      obtain ⟨clause, hIn, hDescribes⟩ := exists_of_forall₂_right hClauses.flip hf
      refine .field hDenotes hIn ?_
      rw [← scope_of_mem h.tree hField]
      exact (hDescribes _ _).mpr ⟨hDeep, other, hOther, rfl, rfl⟩

/-- What clauses inherit from the clauses in their lists of fields holds of the clause that is
written for a listed variable. -/
theorem Spelled.exists_clause (h : view.Spelled literal) {Holds : VarId → Clause → Prop}
    (hBuild : ∀ segment ∈ view.segments, view.Listed segment.var → ∀ clauses filter,
      List.Forall₂ Holds (view.listed segment.var) clauses →
        OptionalFilterText literal segment.filter filter → Holds segment.var
          (.mk (.mk (view.clauseName segment.var) (rewrittenSlices segment.slices) none clauses)
            filter)) (v : VarId) (hv : view.Listed v) :
    ∃ clause, Holds v clause ∧
      ∀ rest, ClauseText literal clause (view.clauseChars v ++ rest) rest := by
  obtain ⟨segment, hMem, rfl⟩ := h.inStep.exists_segment hv.1
  obtain ⟨hName, _⟩ := h.name _ hv
  obtain ⟨clauses, hClauses⟩ := exists_forall₂ (view.listed segment.var) fun f hf => by
    obtain ⟨hField, hSelected, hPart⟩ := (mem_listed h.tree h.inStep).mp hf
    have hAfter := h.tree.after hField
    have hSize := h.tree.lt_size hField
    exact Spelled.exists_clause h hBuild f ⟨hSelected, Or.inr ⟨_, hField, hPart⟩⟩
  obtain ⟨e, hFilter, hText⟩ := exists_clauseText
    (selectorText hName (hClauses.imp fun _ _ h => h.2)) (h.filter segment hMem)
  refine ⟨_, hBuild segment hMem hv clauses e (hClauses.imp fun _ _ h => h.1) hFilter, ?_⟩
  intro rest
  rw [clauseChars_eq h.tree h.inStep hMem]
  exact hText rest
termination_by view.schema.vars.size - v.index

/-- The clause that is written for a listed variable is one that describes it. -/
theorem Spelled.clause (h : view.Spelled literal) (v : VarId) (hv : view.Listed v) :
    ∃ clause, view.Describes v clause ∧
      ∀ rest, ClauseText literal clause (view.clauseChars v ++ rest) rest := by
  refine h.exists_clause (fun segment hMem hListed clauses filter hClauses _ => ?_) v hv
  exact h.describes hMem (h.name _ hListed).2 hClauses filter

end View

end Hyperslab
