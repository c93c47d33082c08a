import Hyperslab.Proofs.View.Run

/-! A request as the edits that it stands for. Names are resolved and filters are bound to their
sequences before the first edit is made, since neither depends on what is selected. -/
namespace Hyperslab

open SameResult (bind_eq_ok_iff)

/-- The edits that a request can stand for. -/
inductive Edit.Elaborated (limits : Limits) (schema : Schema) : Edit → Prop where
  | select (v : VarId) (slices : List Slice) : Elaborated limits schema (.addVariable v slices)
  | filter {v : VarId} {e : Expr} {filter : Filter}
      (hSequence : (schema.var v).isSequence = true)
      (hCompile : e.compile schema limits v 1 = .ok filter) :
      Elaborated limits schema (.setFilter v filter)

/-- The edits for the filter of a clause with the given target. -/
def filterEdits (limits : Limits) (schema : Schema) (target : VarId) :
    Option Expr → Except Fault (List Edit)
  | none => .ok []
  | some e =>
    if (schema.var target).isSequence then do
      return [.setFilter target (← e.compile schema limits target 1)]
    else .error (.filterTarget (schema.varName target))

mutual

/-- The edits of a selector, and the variable at the end of its path. -/
def Selector.edits (limits : Limits) (schema : Schema) (scope : Option VarId) :
    Selector → Except Fault (List Edit × VarId)
  | .mk name slices child fields => do
    let v ← schema.resolve scope name
    let inFields ← clausesEdits limits schema (some v) fields
    let (onPath, target) ← childEdits limits schema v child
    return (.addVariable v slices :: (inFields ++ onPath), target)

def childEdits (limits : Limits) (schema : Schema) (v : VarId) :
    Option Selector → Except Fault (List Edit × VarId)
  | none => .ok ([], v)
  | some child => child.edits limits schema (some v)

/-- The edits of clauses in the same scope. -/
def clausesEdits (limits : Limits) (schema : Schema) (scope : Option VarId) :
    List Clause → Except Fault (List Edit)
  | [] => .ok []
  | clause :: rest => do
    return (← clause.edits limits schema scope) ++ (← clausesEdits limits schema scope rest)

def Clause.edits (limits : Limits) (schema : Schema) (scope : Option VarId) :
    Clause → Except Fault (List Edit)
  | .mk target filter => do
    let (selecting, v) ← target.edits limits schema scope
    return selecting ++ (← filterEdits limits schema v filter)

end

section Elaborated

variable {limits : Limits} {schema : Schema}

theorem elaborated_filter {target : VarId} {filter : Option Expr} {edits : List Edit}
    (h : filterEdits limits schema target filter = .ok edits) :
    ∀ edit ∈ edits, edit.Elaborated limits schema := by
  cases filter with
  | none =>
      cases h
      exact nofun
  | some e =>
      rw [filterEdits] at h
      split at h
      · next hSequence =>
          obtain ⟨filter, hCompile, h⟩ := exists_of_bind_eq_ok h
          cases h
          exact List.forall_mem_singleton.mpr (.filter hSequence hCompile)
      · cases h

mutual

/-- A request selects variables, and it attaches filters that are bound to their sequences. -/
theorem elaborated_selector : ∀ (s : Selector) {scope : Option VarId} {edits : List Edit}
    {v : VarId}, s.edits limits schema scope = .ok (edits, v) →
      ∀ edit ∈ edits, edit.Elaborated limits schema
  | .mk name slices child fields, scope, edits, v, h => by
    rw [Selector.edits] at h
    obtain ⟨w, _, h⟩ := exists_of_bind_eq_ok h
    obtain ⟨inFields, hInFields, h⟩ := exists_of_bind_eq_ok h
    obtain ⟨⟨onPath, target⟩, hOnPath, h⟩ := exists_of_bind_eq_ok h
    cases h
    refine List.forall_mem_cons.mpr ⟨.select w slices, List.forall_mem_append.mpr ⟨?_, ?_⟩⟩
    · exact elaborated_clauses fields hInFields
    · exact elaborated_child child hOnPath

theorem elaborated_child : ∀ (child : Option Selector) {c : VarId} {edits : List Edit}
    {v : VarId}, childEdits limits schema c child = .ok (edits, v) →
      ∀ edit ∈ edits, edit.Elaborated limits schema
  | none, c, edits, v, h => by
    cases h
    exact nofun
  | some s, c, edits, v, h => by
    rw [childEdits] at h
    exact elaborated_selector s h

theorem elaborated_clauses : ∀ (clauses : List Clause) {scope : Option VarId}
    {edits : List Edit}, clausesEdits limits schema scope clauses = .ok edits →
      ∀ edit ∈ edits, edit.Elaborated limits schema
  | [], scope, edits, h => by
    cases h
    exact nofun
  | clause :: clauses, scope, edits, h => by
    rw [clausesEdits] at h
    obtain ⟨first, hFirst, h⟩ := exists_of_bind_eq_ok h
    obtain ⟨rest, hRest, h⟩ := exists_of_bind_eq_ok h
    cases h
    refine List.forall_mem_append.mpr ⟨?_, ?_⟩
    · exact elaborated_clause clause hFirst
    · exact elaborated_clauses clauses hRest

theorem elaborated_clause : ∀ (clause : Clause) {scope : Option VarId} {edits : List Edit},
    clause.edits limits schema scope = .ok edits → ∀ edit ∈ edits, edit.Elaborated limits schema
  | .mk target filter, scope, edits, h => by
    rw [Clause.edits] at h
    obtain ⟨⟨selecting, v⟩, hSelecting, h⟩ := exists_of_bind_eq_ok h
    obtain ⟨filtering, hFiltering, h⟩ := exists_of_bind_eq_ok h
    cases h
    refine List.forall_mem_append.mpr ⟨?_, ?_⟩
    · exact elaborated_selector target hSelecting
    · exact elaborated_filter hFiltering

end

theorem Edit.Elaborated.asks {edit : Edit} (h : edit.Elaborated limits schema) :
    edit.asks.isSome = true := by
  cases h with
  | select | filter => rfl

/-- Each edit of a request selects a variable. -/
theorem asks_of_clausesEdits {scope : Option VarId} {clauses : List Clause} {edits : List Edit}
    (h : clausesEdits limits schema scope clauses = .ok edits) :
    ∀ edit ∈ edits, edit.asks.isSome = true :=
  fun edit hMem => (elaborated_clauses clauses h edit hMem).asks

theorem clausesEdits_cons {scope : Option VarId} {clause : Clause} {clauses : List Clause}
    {edits : List Edit} : clausesEdits limits schema scope (clause :: clauses) = .ok edits ↔
      ∃ first, clause.edits limits schema scope = .ok first ∧
        ∃ rest, clausesEdits limits schema scope clauses = .ok rest ∧ edits = first ++ rest := by
  rw [clausesEdits]
  simp only [bind_eq_ok_iff]
  refine exists_congr fun first => and_congr_right fun _ => exists_congr fun rest =>
    and_congr_right fun _ => ?_
  exact ⟨fun h => (Except.ok.inj h).symm, fun h => congrArg Except.ok h.symm⟩

/-- Clauses in another order stand for the same edits in another order. -/
theorem clausesEdits_perm {scope : Option VarId} {clauses others : List Clause}
    (hPerm : clauses.Perm others) {edits : List Edit}
    (h : clausesEdits limits schema scope clauses = .ok edits) :
    ∃ edits', clausesEdits limits schema scope others = .ok edits' ∧ edits.Perm edits' := by
  induction hPerm generalizing edits with
  | nil => exact ⟨edits, h, .refl edits⟩
  | cons clause _ ih =>
      obtain ⟨first, hFirst, rest, hRest, rfl⟩ := clausesEdits_cons.mp h
      obtain ⟨rest', hRest', hPerm⟩ := ih hRest
      exact ⟨_, clausesEdits_cons.mpr ⟨first, hFirst, rest', hRest', rfl⟩, hPerm.append_left first⟩
  | swap clause clause' clauses =>
      obtain ⟨first, hFirst, _, hMore, rfl⟩ := clausesEdits_cons.mp h
      obtain ⟨second, hSecond, rest, hRest, rfl⟩ := clausesEdits_cons.mp hMore
      have hMore' := clausesEdits_cons.mpr ⟨first, hFirst, rest, hRest, rfl⟩
      refine ⟨_, clausesEdits_cons.mpr ⟨second, hSecond, _, hMore', rfl⟩, ?_⟩
      exact List.perm_append_comm_assoc first second rest
  | trans _ _ ih ih' =>
      obtain ⟨middle, hMiddle, hPerm⟩ := ih h
      obtain ⟨edits', hEdits', hPerm'⟩ := ih' hMiddle
      exact ⟨edits', hEdits', hPerm.trans hPerm'⟩

end Elaborated

namespace View

variable {view view' : View} {limits : Limits} {schema : Schema}

theorem apply_schema {edit : Edit} (h : (view.apply edit).toExcept = .ok view') :
    view'.schema = view.schema := by
  cases edit with
  | addVariable => exact addVariable_schema h
  | addResize =>
      obtain ⟨_, _, rfl⟩ := addResize_ok h
      rfl
  | setFilter => exact setFilter_schema h
  | addAttribute =>
      obtain ⟨_, rfl⟩ := Edited.toExcept_eq_ok h
      rw [apply, addAttribute]
      split <;> rfl
  | expand =>
      obtain ⟨_, rfl⟩ := Edited.toExcept_eq_ok h
      rw [apply, expand]
      split <;> rfl
  | finish =>
      obtain ⟨_, _, _, rfl⟩ := finish_ok h
      rfl

theorem run_schema {edits : List Edit} (hSchema : view.schema = schema)
    (h : view.run edits = .ok view') : view'.schema = schema := by
  induction edits generalizing view with
  | nil =>
      cases h
      exact hSchema
  | cons edit edits ih =>
      obtain ⟨next, hEdit, h⟩ := run_cons.mp h
      exact ih ((apply_schema hEdit).trans hSchema) h

/-- What one computation after the other does are the edits of both. -/
theorem bind_run
    {first rest : Except Fault (List Edit)} {step : Except Fault View}
    {next : View → Except Fault View} (hSchema : view.schema = schema)
    (hStep : ∀ view₁, step = .ok view₁ ↔
      ∃ edits, first = .ok edits ∧ view.run edits = .ok view₁)
    (hNext : ∀ view₁, view₁.schema = schema → (next view₁ = .ok view' ↔
      ∃ edits, rest = .ok edits ∧ view₁.run edits = .ok view')) :
    step >>= next = .ok view' ↔ ∃ edits, (do return (← first) ++ (← rest)) = .ok edits ∧
      view.run edits = .ok view' := by
  simp only [bind_eq_ok_iff]
  constructor
  · rintro ⟨view₁, hFirst, hRest⟩
    obtain ⟨edits, hEdits, hRun⟩ := (hStep view₁).mp hFirst
    have hSchema₁ := run_schema hSchema hRun
    obtain ⟨more, hMore, hRun'⟩ := (hNext view₁ hSchema₁).mp hRest
    exact ⟨_, ⟨edits, hEdits, more, hMore, rfl⟩, run_append.mpr ⟨view₁, hRun, hRun'⟩⟩
  · rintro ⟨_, ⟨edits, hEdits, more, hMore, hBoth⟩, hRun⟩
    cases hBoth
    obtain ⟨view₁, hRun, hRun'⟩ := run_append.mp hRun
    have hSchema₁ := run_schema hSchema hRun
    exact ⟨view₁, (hStep view₁).mpr ⟨edits, hEdits, hRun⟩,
      (hNext view₁ hSchema₁).mpr ⟨more, hMore, hRun'⟩⟩

theorem addFilter_run {v : VarId} (filter : Option Expr) (hSchema : view.schema = schema) :
    addFilter limits view v filter = .ok view' ↔
      ∃ edits, filterEdits limits schema v filter = .ok edits ∧ view.run edits = .ok view' := by
  cases filter with
  | none =>
      constructor
      · exact fun h => ⟨[], rfl, h⟩
      · rintro ⟨_, hEdits, h⟩
        cases hEdits
        exact h
  | some e =>
      simp only [addFilter, filterEdits, hSchema]
      split
      · simp only [bind_eq_ok_iff]
        constructor
        · rintro ⟨filter, hFilter, hSet⟩
          exact ⟨_, ⟨filter, hFilter, rfl⟩, run_cons.mpr ⟨view', hSet, rfl⟩⟩
        · rintro ⟨_, ⟨filter, hFilter, hEdits⟩, h⟩
          cases hEdits
          obtain ⟨_, hSet, hDone⟩ := run_cons.mp h
          cases hDone
          exact ⟨filter, hFilter, hSet⟩
      · constructor
        · intro h
          cases h
        · rintro ⟨_, hEdits, _⟩
          cases hEdits

mutual

/-- Selecting is resolving all names first, and then making the edits. -/
theorem select_run : ∀ (s : Selector) {view view' : View} {scope : Option VarId} {v : VarId},
    view.schema = schema → (select limits view scope s = .ok (view', v) ↔
        ∃ edits, s.edits limits schema scope = .ok (edits, v) ∧ view.run edits = .ok view')
  | .mk name slices child fields, view, view', scope, v, hSchema => by
    simp only [select, Selector.edits, bind_eq_ok_iff]
    constructor
    · rintro ⟨w, hName, view₁, hAdd, view₂, hFields, hChild⟩
      have hSchema₁ := (addVariable_schema hAdd).trans hSchema
      obtain ⟨inFields, hInFields, hRun₁⟩ :=
        (selectFields_run fields hSchema₁).mp hFields
      have hSchema₂ := run_schema hSchema₁ hRun₁
      obtain ⟨onPath, hOnPath, hRun₂⟩ :=
        (selectChild_run child hSchema₂).mp hChild
      refine ⟨_, ⟨w, hSchema ▸ hName, inFields, hInFields, (onPath, v), hOnPath, rfl⟩, ?_⟩
      exact run_cons.mpr ⟨view₁, hAdd, run_append.mpr ⟨view₂, hRun₁, hRun₂⟩⟩
    · rintro ⟨_, ⟨w, hName, inFields, hInFields, ⟨onPath, _⟩, hOnPath, hEdits⟩, hRun⟩
      cases hEdits
      obtain ⟨view₁, hAdd, hRun⟩ := run_cons.mp hRun
      obtain ⟨view₂, hRun₁, hRun₂⟩ := run_append.mp hRun
      have hSchema₁ := (addVariable_schema hAdd).trans hSchema
      have hSchema₂ := run_schema hSchema₁ hRun₁
      refine ⟨w, hSchema ▸ hName, view₁, hAdd, view₂, ?_, ?_⟩
      · exact (selectFields_run fields hSchema₁).mpr ⟨inFields, hInFields, hRun₁⟩
      · exact (selectChild_run child hSchema₂).mpr ⟨onPath, hOnPath, hRun₂⟩

theorem selectChild_run :
    ∀ (child : Option Selector) {view view' : View} {c v : VarId}, view.schema = schema →
      (selectChild limits view c child = .ok (view', v) ↔
        ∃ edits, childEdits limits schema c child = .ok (edits, v) ∧ view.run edits = .ok view')
  | none, view, view', c, v, hSchema => by
    constructor
    · intro h
      cases h
      exact ⟨[], rfl, rfl⟩
    · rintro ⟨_, hEdits, hRun⟩
      cases hEdits
      cases hRun
      rfl
  | some s, view, view', c, v, hSchema => by
    rw [selectChild, childEdits]
    exact select_run s hSchema

theorem selectFields_run :
    ∀ (fields : List Clause) {view view' : View} {c : VarId}, view.schema = schema →
      (selectFields limits view c fields = .ok view' ↔
        ∃ edits, clausesEdits limits schema (some c) fields = .ok edits ∧
          view.run edits = .ok view')
  | [], view, view', c, hSchema => by
    constructor
    · exact fun h => ⟨[], rfl, h⟩
    · rintro ⟨_, hEdits, hRun⟩
      cases hEdits
      exact hRun
  | clause :: fields, view, view', c, hSchema => by
    rw [selectFields, clausesEdits]
    exact bind_run hSchema
      (fun _ => selectClause_run clause hSchema)
      fun _ hSchema₁ => selectFields_run fields hSchema₁

theorem selectClause_run : ∀ (clause : Clause) {view view' : View} {scope : Option VarId},
    view.schema = schema → (selectClause limits view scope clause = .ok view' ↔
        ∃ edits, clause.edits limits schema scope = .ok edits ∧ view.run edits = .ok view')
  | .mk target filter, view, view', scope, hSchema => by
    simp only [selectClause, Clause.edits, bind_eq_ok_iff]
    constructor
    · rintro ⟨⟨view₁, v⟩, hTarget, hFilter⟩
      obtain ⟨selecting, hSelecting, hRun₁⟩ :=
        (select_run target hSchema).mp hTarget
      have hSchema₁ := run_schema hSchema hRun₁
      obtain ⟨filtering, hFiltering, hRun₂⟩ := (addFilter_run filter hSchema₁).mp hFilter
      exact ⟨_, ⟨(selecting, v), hSelecting, filtering, hFiltering, rfl⟩,
        run_append.mpr ⟨view₁, hRun₁, hRun₂⟩⟩
    · rintro ⟨_, ⟨⟨selecting, v⟩, hSelecting, filtering, hFiltering, hEdits⟩, hRun⟩
      cases hEdits
      obtain ⟨view₁, hRun₁, hRun₂⟩ := run_append.mp hRun
      have hSchema₁ := run_schema hSchema hRun₁
      exact ⟨(view₁, v), (select_run target hSchema).mpr
        ⟨selecting, hSelecting, hRun₁⟩, (addFilter_run filter hSchema₁).mpr
          ⟨filtering, hFiltering, hRun₂⟩⟩

end

/-- The clauses of a request are its edits, made in order. -/
theorem selectAll_run (clauses : List Clause)
    {view view' : View} (hSchema : view.schema = schema) :
    selectAll limits view clauses = .ok view' ↔
      ∃ edits, clausesEdits limits schema none clauses = .ok edits ∧
        view.run edits = .ok view' := by
  induction clauses generalizing view with
  | nil =>
      constructor
      · exact fun h => ⟨[], rfl, h⟩
      · rintro ⟨_, hEdits, hRun⟩
        cases hEdits
        exact hRun
  | cons clause clauses ih =>
      rw [selectAll, clausesEdits]
      exact bind_run hSchema
        (fun _ => selectClause_run clause hSchema) fun _ hSchema₁ => ih hSchema₁

end View

end Hyperslab
