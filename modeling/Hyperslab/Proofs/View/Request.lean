import Hyperslab.Proofs.View.Clause

/-! The request that a view writes is read as one that resizes the same dimensions and mentions what
the view shows. A view of nothing but resizes is not read at all, since the last resize lacks its
semicolon. -/
namespace Hyperslab

open Grammar

namespace View

variable {view : View} {literal : Value → List Char → Prop}

theorem clausesText {chars : VarId → List Char} {vars : List VarId} {clauses : List Clause}
    (h : List.Forall₂ (fun v clause => ∀ rest, ClauseText literal clause (chars v ++ rest) rest)
      vars clauses) (hSome : vars ≠ []) :
    ClausesText literal clauses ([';'].intercalate (vars.map chars)) := by
  induction h with
  | nil => exact absurd rfl hSome
  | @cons v clause vars clauses hText hTexts ih =>
      cases hTexts with
      | nil => simpa using .last (by simpa using hText [])
      | cons _ _ =>
          have hOthers := ih (by simp)
          rw [List.map_cons] at hOthers
          rw [List.map_cons, List.map_cons, List.intercalate_cons_cons, List.append_assoc]
          exact .cons (hText _) (Lexeme.tight [';'] _) hOthers

/-- Texts with semicolons between them are texts with semicolons behind them, up to the last part.
-/
theorem intercalate_append (texts : List (List Char)) {others : List (List Char)}
    (h : others ≠ []) : [';'].intercalate (texts ++ others) =
      texts.flatMap (· ++ [';']) ++ [';'].intercalate others := by
  induction texts with
  | nil => rfl
  | cons text texts ih =>
      rw [List.cons_append, List.intercalate_cons_of_ne_nil (by simp [h]), ih]
      simp

/-- The resize that is written for a dimension. -/
def resizeOf (view : View) (entry : DimId × Slice) : Resize :=
  ⟨(view.schema.dimName? entry.1).getD "", entry.2.rewritten⟩

/-- Each resized dimension is found again by its name. -/
def DimsSpelled (view : View) : Prop :=
  ∀ entry ∈ view.resizes, ∃ name, view.schema.dimName? entry.1 = some name ∧ name ≠ "" ∧
    view.schema.findDimension? name = some entry.1

def resizeText (view : View) (entry : DimId × Slice) : List Char :=
  Name.escape (view.resizeOf entry).name.toList ++ '=' :: entry.2.chars

theorem resizeChars_eq (h : view.DimsSpelled) :
    view.resizeChars = view.resizes.map view.resizeText := by
  rw [resizeChars, ← List.filterMap_eq_map]
  apply List.filterMap_congr
  intro entry hEntry
  obtain ⟨name, hName, _⟩ := h entry hEntry
  simp [resizeText, resizeOf, hName]

theorem name_ne_empty (h : view.DimsSpelled) {entry : DimId × Slice}
    (hEntry : entry ∈ view.resizes) :
    (view.resizeOf entry).name ≠ "" := by
  obtain ⟨name, hName, hSome, _⟩ := h entry hEntry
  simpa [resizeOf, hName] using hSome

theorem resizesText {entries : List (DimId × Slice)}
    (h : ∀ entry ∈ entries, (view.resizeOf entry).name ≠ "") (rest : List Char) :
    ResizesText (entries.map view.resizeOf)
      ((entries.map view.resizeText).flatMap (· ++ [';']) ++ rest) rest := by
  induction entries with
  | nil => exact .nil rest
  | cons entry entries ih =>
      have hOthers := ih fun e he => h e (by simp [he])
      simp only [List.map_cons, List.flatMap_cons, resizeText, List.append_assoc, List.cons_append,
        List.nil_append]
      exact .cons (h entry (by simp)) (Lexeme.tight _ _) (Lexeme.tight ['='] _)
        (Slice.text_rewritten entry.2 _) (Lexeme.tight [';'] _) hOthers

/-- The selected variables of groups. -/
def tops (view : View) : List VarId :=
  view.vars.filter fun v => (view.schema.var v).isTopLevel

theorem mem_tops {v : VarId} :
    v ∈ view.tops ↔ v ∈ view.vars ∧ (view.schema.var v).isTopLevel = true := by
  simp [tops]

theorem scope_of_mem_tops {v : VarId} (h : v ∈ view.tops) : view.scope v = none :=
  scope_of_isTopLevel (mem_tops.mp h).2

theorem listed_of_mem_tops {v : VarId} (h : v ∈ view.tops) : view.Listed v :=
  ⟨(mem_tops.mp h).1, Or.inl (mem_tops.mp h).2⟩

theorem parser_of_parse {text : List Char} {request : Request}
    (h : Request.parse (.ofList text) = .ok request) :
    Request.parser text = .ok (request, []) := by
  rw [Request.parse, Parser.run, String.toList_ofList] at h
  split at h
  · next hRead =>
      cases h
      exact hRead
  · cases h
  · cases h

/-- A view of resizes only has no text that is read. -/
theorem parse_resizes (hDims : view.DimsSpelled) (hSome : view.resizes ≠ []) (request : Request) :
    Request.parse (.ofList ([';'].intercalate (view.resizes.map view.resizeText))) ≠
      .ok request := by
  obtain ⟨entries, last, hEntries⟩ := (List.eq_nil_or_concat view.resizes).resolve_left hSome
  have hNames : ∀ entry ∈ view.resizes, (view.resizeOf entry).name ≠ "" :=
    fun entry => name_ne_empty hDims
  rw [hEntries, List.concat_eq_append] at hNames ⊢
  have hLast : SliceText (view.resizeOf last).slice last.2.chars [] := by
    simpa [resizeOf] using Slice.text_rewritten last.2 []
  have hOthers := resizesText (fun e (he : e ∈ entries) => hNames e (by simp [he]))
    (view.resizeText last)
  rw [List.map_append, intercalate_append _ (by simp), List.map_singleton,
    List.intercalate_singleton]
  exact Request.parse_unfinished hOthers (hNames last (by simp)) (Lexeme.tight _ _)
    (Lexeme.tight ['='] _) hLast request

/-- The text that a view writes is a request, unless resizes are all that it has. The request
resizes the dimensions of the view, and has a clause for each of its top-level variables. -/
theorem requestText_requestChars (hDims : view.DimsSpelled) {Holds : VarId → Clause → Prop}
    (hClauses : ∀ v ∈ view.tops, ∃ clause, Holds v clause ∧
      ∀ rest, ClauseText literal clause (view.clauseChars v ++ rest) rest)
    (hSome : view.resizes = [] ∨ view.tops ≠ []) :
    ∃ clauses, List.Forall₂ Holds view.tops clauses ∧
      RequestText literal ⟨view.resizes.map view.resizeOf, clauses⟩ view.requestChars := by
  obtain ⟨clauses, hClauses⟩ := exists_forall₂ view.tops hClauses
  refine ⟨clauses, hClauses.imp fun _ _ h => h.1, ?_⟩
  have hChars : view.requestChars = [';'].intercalate
      (view.resizes.map view.resizeText ++ view.tops.map view.clauseChars) := by
    rw [requestChars, resizeChars_eq hDims, tops]
  rw [hChars]
  by_cases hTops : view.tops = []
  · rw [hTops] at hClauses ⊢
    cases hClauses
    rw [hSome.resolve_right (not_not.mpr hTops)]
    exact ⟨[], [], [], Blanks.nil, rfl, .nil [], Or.inl ⟨rfl, rfl⟩⟩
  · rw [intercalate_append _ (by simpa using hTops)]
    exact ⟨[], _, _, Blanks.nil, rfl, resizesText (fun _ => name_ne_empty hDims) _,
      Or.inr (clausesText (hClauses.imp fun _ _ h => h.2) hTops)⟩

/-- A view of resizes only writes them and nothing behind the last one. -/
theorem parse_of_tops_eq_nil (hDims : view.DimsSpelled) (hTops : view.tops = [])
    (hResizes : view.resizes ≠ []) (request : Request) :
    Request.parse (.ofList view.requestChars) ≠ .ok request := by
  have hChars : view.requestChars = [';'].intercalate (view.resizes.map view.resizeText) := by
    unfold tops at hTops
    rw [requestChars, resizeChars_eq hDims, hTops, List.map_nil, List.append_nil]
  rw [hChars]
  exact parse_resizes hDims hResizes request

/-- Where the request that a view writes is read, it resizes the dimensions of the view, and has the
clauses that are written for its top-level variables. -/
theorem parse_requestChars (hDims : view.DimsSpelled) {Holds : VarId → Clause → Prop}
    (hClauses : ∀ v ∈ view.tops, ∃ clause, Holds v clause ∧
      ∀ rest, ClauseText literal clause (view.clauseChars v ++ rest) rest)
    (hLegible : ∀ vs, Legible False literal vs) {request : Request}
    (hParse : Request.parse (.ofList view.requestChars) = .ok request) :
    request.resizes = view.resizes.map view.resizeOf ∧
      List.Forall₂ Holds view.tops request.clauses := by
  have hSome : view.resizes = [] ∨ view.tops ≠ [] := by
    by_contra hNone
    rw [not_or, not_not] at hNone
    exact parse_of_tops_eq_nil hDims hNone.2 hNone.1 request hParse
  obtain ⟨clauses, hHolds, hText⟩ := requestText_requestChars hDims hClauses hSome
  have hRead := Request.reads_request hText (hLegible _)
  rw [(hRead.eq_of_ok (parser_of_parse hParse)).1]
  exact ⟨rfl, hHolds⟩

/-- The clauses of the request that is read describe the top-level variables one by one. -/
theorem Spelled.parse_requestChars (h : view.Spelled literal) (hDims : view.DimsSpelled)
    (hLegible : ∀ vs, Legible False literal vs) {request : Request}
    (hParse : Request.parse (.ofList view.requestChars) = .ok request) :
    request.resizes = view.resizes.map view.resizeOf ∧
      List.Forall₂ view.Describes view.tops request.clauses :=
  View.parse_requestChars hDims
    (fun v hv => h.clause v (listed_of_mem_tops hv)) hLegible hParse

end View

end Hyperslab
