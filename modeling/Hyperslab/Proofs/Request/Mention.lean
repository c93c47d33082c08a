import Hyperslab.Proofs.Schema
import Hyperslab.Proofs.View.Edit
import Hyperslab.Request.Compile

/-! Which variables the selectors of a request name, and that selecting them adds just these to a
view. A name stands for a variable in its scope; paths and field lists open the scope of the
variable in front of them. -/
namespace Hyperslab

namespace Schema

/-- What a name stands for: the only top-level variable with that qualified name, or the first field
with that name of the compound around it. -/
inductive Denotes (schema : Schema) : Option VarId → String → VarId → Prop where
  | topLevel {name : String} {v : VarId} (h : v ∈ schema.topLevel)
      (hName : schema.varName v = absolute name)
      (hOnly : ∀ w ∈ schema.topLevel, schema.varName w = absolute name → w = v) :
      Denotes schema none name v
  | field {c v : VarId} {name : String} {before after : List VarId}
      (h : (schema.var c).fields = before ++ v :: after) (hName : (schema.var v).name = name)
      (hFirst : ∀ f ∈ before, (schema.var f).name ≠ name) : Denotes schema (some c) name v

variable {schema : Schema} {scope : Option VarId} {name : String} {v w : VarId}

theorem mem_findVars : w ∈ schema.findVars name ↔
    w ∈ schema.topLevel ∧ schema.varName w = absolute name := by
  simp [findVars]

theorem denotes_of_resolve (h : schema.resolve scope name = .ok v) :
    schema.Denotes scope name v := by
  cases scope with
  | none =>
      simp only [resolve] at h
      split at h
      · next w hFound =>
          cases h
          have hMem {w : VarId} :
              w ∈ schema.topLevel ∧ schema.varName w = absolute name ↔ w = v := by
            rw [← mem_findVars, hFound, List.mem_singleton]
          obtain ⟨hTop, hName⟩ := hMem.mpr rfl
          exact .topLevel hTop hName fun w hw hw' => hMem.mp ⟨hw, hw'⟩
      · cases h
      · cases h
  | some c =>
      simp only [resolve] at h
      split at h
      · split at h
        · next w hFound =>
            cases h
            obtain ⟨hName, before, after, hFields, hFirst⟩ :=
              List.find?_eq_some_iff_append.mp hFound
            exact .field hFields (by simpa using hName) fun f hf => by simpa using hFirst f hf
        · cases h
      · cases h

theorem field?_of_first {c : VarId} {before after : List VarId}
    (hFields : (schema.var c).fields = before ++ v :: after) (hName : (schema.var v).name = name)
    (hFirst : ∀ f ∈ before, (schema.var f).name ≠ name) : schema.field? c name = some v :=
  List.find?_eq_some_iff_append.mpr
    ⟨by simpa using hName, before, after, hFields, fun f hf => by simpa using hFirst f hf⟩

theorem nodup_topLevel (schema : Schema) : schema.topLevel.Nodup := by
  refine List.Nodup.filter _ (List.Nodup.map ?_ List.nodup_range)
  intro i j hEq
  cases hEq
  rfl

/-- What a name stands for is found. -/
theorem resolve_of_denotes (hTree : schema.Tree) (h : schema.Denotes scope name v) :
    schema.resolve scope name = .ok v := by
  cases h with
  | topLevel hTop hName hOnly =>
      have hFound : schema.findVars name = [v] := by
        have hNodup : (schema.findVars name).Nodup := schema.nodup_topLevel.filter _
        rw [← List.perm_singleton, List.perm_ext_iff_of_nodup hNodup (List.nodup_singleton v)]
        intro w
        rw [mem_findVars, List.mem_singleton]
        exact ⟨fun hw => hOnly w hw.1 hw.2, fun hw => hw ▸ ⟨hTop, hName⟩⟩
      simp only [resolve, hFound]
  | @field c _ _ before after hFields hName hFirst =>
      have hCompound : (schema.var c).isCompound = true :=
        hTree.isCompound (f := v) (by simp [hFields])
      simp only [resolve, hCompound, if_true, field?_of_first hFields hName hFirst]

/-- A name stands for one variable at most. -/
theorem Denotes.unique (h : schema.Denotes scope name v) (h' : schema.Denotes scope name w) :
    v = w := by
  cases h with
  | topLevel hTop hName _ =>
      cases h' with
      | topLevel _ _ hOnly => exact hOnly v hTop hName
  | field hFields hName hFirst =>
      cases h' with
      | field hFields' hName' hFirst' =>
          have hFound := field?_of_first hFields hName hFirst
          exact Option.some.inj (hFound.symm.trans (field?_of_first hFields' hName' hFirst'))

theorem Denotes.isTopLevel (h : schema.Denotes none name v) :
    (schema.var v).isTopLevel = true := by
  cases h with
  | topLevel hTop _ _ => exact (List.mem_filter.mp hTop).2

theorem Denotes.mem_fields {c : VarId} (h : schema.Denotes (some c) name v) :
    v ∈ (schema.var c).fields := by
  cases h with
  | field hFields _ _ => simp [hFields]

/-- The compound around a variable is the scope in which it has been named. -/
theorem Denotes.scope_of_owner (hTree : schema.Tree) {c : VarId}
    (h : schema.Denotes scope name v) (hOwner : (schema.var v).owner = .compound c) :
    scope = some c := by
  cases scope with
  | none =>
      have hTop := h.isTopLevel
      rw [Variable.isTopLevel, hOwner] at hTop
      cases hTop
  | some d =>
      have hEq := (hTree.owner h.mem_fields).symm.trans hOwner
      exact congrArg some (Owner.compound.inj hEq)

end Schema

/-- The selector names the variable with these slices: by its own name, by its path, or in its field
list. -/
inductive Selector.Mentions (schema : Schema) :
    Option VarId → Selector → VarId → List Slice → Prop where
  | self {scope : Option VarId} {name : String} {slices : List Slice} {child : Option Selector}
      {fields : List Clause} {v : VarId} (h : schema.Denotes scope name v) :
      Mentions schema scope (.mk name slices child fields) v slices
  | child {scope : Option VarId} {name : String} {slices given : List Slice} {child : Selector}
      {fields : List Clause} {v x : VarId} (h : schema.Denotes scope name v)
      (hChild : Mentions schema (some v) child x given) :
      Mentions schema scope (.mk name slices (some child) fields) x given
  | field {scope : Option VarId} {name : String} {slices given : List Slice}
      {child : Option Selector} {fields : List Clause} {clause : Clause} {v x : VarId}
      (h : schema.Denotes scope name v) (hMem : clause ∈ fields)
      (hField : Mentions schema (some v) clause.target x given) :
      Mentions schema scope (.mk name slices child fields) x given

/-- The request names the variable with these slices. -/
def Request.Mentions (request : Request) (schema : Schema) (v : VarId) (slices : List Slice) :
    Prop :=
  ∃ clause ∈ request.clauses, clause.target.Mentions schema none v slices

/-- The request names the variable. -/
def Request.Names (request : Request) (schema : Schema) (v : VarId) : Prop :=
  ∃ slices, request.Mentions schema v slices

variable {schema : Schema}

/-- A field is named inside its compound only, which is named before it. -/
theorem Selector.Mentions.enclosing (hTree : schema.Tree) {scope : Option VarId} {s : Selector}
    {c x : VarId} {slices : List Slice} (h : s.Mentions schema scope x slices)
    (hField : x ∈ (schema.var c).fields) :
    scope = some c ∨ ∃ given, s.Mentions schema scope c given := by
  induction h with
  | self hName => exact Or.inl (hName.scope_of_owner hTree (hTree.owner hField))
  | child hName _ ih =>
      rcases ih hField with hEq | ⟨given, hAbove⟩
      · cases hEq
        exact Or.inr ⟨_, .self hName⟩
      · exact Or.inr ⟨given, .child hName hAbove⟩
  | field hName hMem _ ih =>
      rcases ih hField with hEq | ⟨given, hAbove⟩
      · cases hEq
        exact Or.inr ⟨_, .self hName⟩
      · exact Or.inr ⟨given, .field hName hMem hAbove⟩

theorem Request.Names.enclosing {request : Request} (hTree : schema.Tree) {c x : VarId}
    (h : request.Names schema x) (hField : x ∈ (schema.var c).fields) : request.Names schema c := by
  obtain ⟨slices, clause, hMem, hNamed⟩ := h
  rcases hNamed.enclosing hTree hField with hEq | ⟨given, hAbove⟩
  · cases hEq
  · exact ⟨given, clause, hMem, hAbove⟩

namespace View

/-- A filter selects nothing. -/
theorem InStep.addFilter_grows {limits : Limits} {view view' : View} (hInStep : view.InStep)
    {v : VarId} {filter : Option Expr} (hSelected : v ∈ view.vars)
    (h : addFilter limits view v filter = .ok view') :
    Grows view view' fun _ _ => False := by
  unfold addFilter at h
  split at h
  · cases h
    exact .refl view
  · split at h
    · obtain ⟨_, _, hSet⟩ := exists_of_bind_eq_ok h
      exact hInStep.setFilter_grows hSelected hSet
    · cases h

mutual

/-- Selecting adds what the selector names. The variable at the end of its path is selected then. -/
theorem select_grows {limits : Limits} (hTree : schema.Tree) : ∀ (s : Selector)
    {view view' : View} {scope : Option VarId} {v : VarId}, view.schema = schema →
      view.InStep → (∀ c ∈ scope, c ∈ view.vars) →
        select limits view scope s = .ok (view', v) →
          Grows view view' (s.Mentions schema scope) ∧ v ∈ view'.vars
  | .mk name slices child fields, view, view', scope, v, hSchema, hInStep, hScope, h => by
    rw [select] at h
    obtain ⟨w, hName, h⟩ := exists_of_bind_eq_ok h
    obtain ⟨view₁, hAdd, h⟩ := exists_of_bind_eq_ok h
    obtain ⟨view₂, hFields, h⟩ := exists_of_bind_eq_ok h
    rw [hSchema] at hName
    have hName := Schema.denotes_of_resolve hName
    have hAdd := hInStep.addVariable_grows (fun c hOwner => hScope c
      (hName.scope_of_owner hTree (hSchema ▸ hOwner))) hAdd
    have hSelected : w ∈ view₁.vars := (hAdd.vars w).mpr (Or.inr ⟨slices, rfl, rfl⟩)
    have hFields := selectFields_grows hTree fields (hAdd.schema.trans hSchema)
      (hAdd.inStep hInStep) hSelected hFields
    have hSelected' : w ∈ view₂.vars := (hFields.vars w).mpr (Or.inl hSelected)
    obtain ⟨hChild, hEnd⟩ := selectChild_grows hTree child
      ((hFields.schema.trans hAdd.schema).trans hSchema) (hFields.inStep (hAdd.inStep hInStep))
      hSelected' h
    refine ⟨((hAdd.trans hFields).trans hChild).congr ?_, hEnd⟩
    intro x given
    constructor
    · rintro ((⟨rfl, rfl⟩ | ⟨clause, hMem, hField⟩) | ⟨child, rfl, hNamed⟩)
      · exact .self hName
      · exact .field hName hMem hField
      · exact .child hName hNamed
    · intro hNamed
      cases hNamed with
      | self hSelf => exact Or.inl (Or.inl ⟨hSelf.unique hName, rfl⟩)
      | field hSelf hMem hField => exact Or.inl (Or.inr ⟨_, hMem, hSelf.unique hName ▸ hField⟩)
      | child hSelf hChild => exact Or.inr ⟨_, rfl, hSelf.unique hName ▸ hChild⟩

theorem selectChild_grows {limits : Limits} (hTree : schema.Tree) : ∀ (child : Option Selector)
    {view view' : View} {c v : VarId}, view.schema = schema → view.InStep → c ∈ view.vars →
      selectChild limits view c child = .ok (view', v) →
        Grows view view' (fun x given => ∃ s ∈ child, s.Mentions schema (some c) x given) ∧
          v ∈ view'.vars
  | none, view, view', c, v, _, _, hSelected, h => by
    cases h
    exact ⟨(Grows.refl view).congr (by simp), hSelected⟩
  | some s, view, view', c, v, hSchema, hInStep, hSelected, h => by
    rw [selectChild] at h
    obtain ⟨hGrows, hEnd⟩ := select_grows hTree s hSchema hInStep (by simpa using hSelected) h
    exact ⟨hGrows.congr (by simp), hEnd⟩

theorem selectFields_grows {limits : Limits} (hTree : schema.Tree) : ∀ (fields : List Clause)
    {view view' : View} {c : VarId}, view.schema = schema → view.InStep → c ∈ view.vars →
      selectFields limits view c fields = .ok view' →
        Grows view view' fun x given =>
          ∃ clause ∈ fields, clause.target.Mentions schema (some c) x given
  | [], view, view', c, _, _, _, h => by
    cases h
    exact (Grows.refl view).congr (by simp)
  | clause :: fields, view, view', c, hSchema, hInStep, hSelected, h => by
    rw [selectFields] at h
    obtain ⟨view₁, hClause, h⟩ := exists_of_bind_eq_ok h
    have hClause :=
      selectClause_grows hTree clause hSchema hInStep (by simpa using hSelected) hClause
    have hFields := selectFields_grows hTree fields (hClause.schema.trans hSchema)
      (hClause.inStep hInStep) ((hClause.vars c).mpr (Or.inl hSelected)) h
    exact (hClause.trans hFields).congr (by simp)

theorem selectClause_grows {limits : Limits} (hTree : schema.Tree) : ∀ (clause : Clause)
    {view view' : View} {scope : Option VarId}, view.schema = schema → view.InStep →
      (∀ c ∈ scope, c ∈ view.vars) → selectClause limits view scope clause = .ok view' →
        Grows view view' (clause.target.Mentions schema scope)
  | .mk target filter, view, view', scope, hSchema, hInStep, hScope, h => by
    rw [selectClause] at h
    obtain ⟨⟨view₁, v⟩, hTarget, h⟩ := exists_of_bind_eq_ok h
    obtain ⟨hGrows, hEnd⟩ := select_grows hTree target hSchema hInStep hScope hTarget
    have hFilter := (hGrows.inStep hInStep).addFilter_grows hEnd h
    exact (hGrows.trans hFilter).congr (by simp [Clause.target])

end

theorem selectAll_grows {limits : Limits} (hTree : schema.Tree) (clauses : List Clause)
    {view view' : View} (hSchema : view.schema = schema) (hInStep : view.InStep)
    (h : selectAll limits view clauses = .ok view') :
    Grows view view' fun x given =>
      ∃ clause ∈ clauses, clause.target.Mentions schema none x given := by
  induction clauses generalizing view with
  | nil =>
      cases h
      exact (Grows.refl _).congr (by simp)
  | cons clause clauses ih =>
      rw [selectAll] at h
      obtain ⟨view₁, hClause, h⟩ := exists_of_bind_eq_ok h
      have hClause := selectClause_grows hTree clause hSchema hInStep (by simp) hClause
      have hRest := ih (hClause.schema.trans hSchema) (hClause.inStep hInStep) h
      exact (hClause.trans hRest).congr (by simp)

end View

end Hyperslab
