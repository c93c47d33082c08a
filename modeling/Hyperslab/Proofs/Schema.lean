import Hyperslab.Schema

/-! The tree of the variables of a schema. In a schema that is declared entry by entry, a field
comes after its compound and belongs to no other one. -/
namespace Hyperslab.Schema

/-- The schema is what some list of entries declares. -/
def Declared (schema : Schema) : Prop :=
  ∃ name entries, (empty name).declareAll entries = .ok schema

/-- How the variables of a schema hold each other. -/
structure Tree (s : Schema) : Prop where
  after : ∀ {c f : VarId}, f ∈ (s.var c).fields → c.index < f.index
  lt_size : ∀ {c f : VarId}, f ∈ (s.var c).fields → f.index < s.vars.size
  owner : ∀ {c f : VarId}, f ∈ (s.var c).fields → (s.var f).owner = .compound c
  isCompound : ∀ {c f : VarId}, f ∈ (s.var c).fields → (s.var c).isCompound = true

theorem var_of_size_le {s : Schema} {v : VarId} (h : s.vars.size ≤ v.index) :
    s.var v = default := by
  simp [var, Array.getD_eq_getD_getElem?, Array.getElem?_eq_none h]

theorem var_pushVar (s : Schema) (owner : Owner) (name : String) (kind : VarKind)
    (dims : List DimId) (v : VarId) : (s.pushVar owner name kind dims).var v =
      if v.index = s.vars.size then ⟨name, kind, dims, [], owner⟩ else s.var v := by
  simp only [var, pushVar, Array.getD_eq_getD_getElem?, Array.getElem?_push]
  split <;> rfl

theorem var_addField {s : Schema} {c : VarId} (hc : c.index < s.vars.size) (v : VarId) :
    (s.addField c).var v =
      if v = c then { s.var c with fields := (s.var c).fields ++ [⟨s.vars.size⟩] }
      else s.var v := by
  have hIndex : v = c ↔ c.index = v.index := by
    cases v
    cases c
    simp [eq_comm]
  simp only [var, addField, Array.getD_eq_getD_getElem?, Array.getElem?_setIfInBounds, hIndex, hc]
  split <;> simp

theorem tree_of_vars {s s' : Schema} (h : s.Tree) (hVars : s'.vars = s.vars) : s'.Tree := by
  have hVar : s'.var = s.var := by
    funext v
    simp [var, hVars]
  constructor
  · intro c f hf
    rw [hVar] at hf
    exact h.after hf
  · intro c f hf
    rw [hVar] at hf
    rw [hVars]
    exact h.lt_size hf
  · intro c f hf
    rw [hVar] at hf ⊢
    exact h.owner hf
  · intro c f hf
    rw [hVar] at hf ⊢
    exact h.isCompound hf

theorem tree_empty (name : String) : (empty name).Tree := by
  have hNone (c f : VarId) : f ∉ ((empty name).var c).fields := by
    rw [var_of_size_le (by simp [empty])]
    simp [default]
  exact ⟨fun hf => absurd hf (hNone _ _), fun hf => absurd hf (hNone _ _),
    fun hf => absurd hf (hNone _ _), fun hf => absurd hf (hNone _ _)⟩

theorem Tree.pushVar {s : Schema} (h : s.Tree) (owner : Owner) (name : String) (kind : VarKind)
    (dims : List DimId) : (s.pushVar owner name kind dims).Tree := by
  have hOld {c f : VarId} (hf : f ∈ ((s.pushVar owner name kind dims).var c).fields) :
      f ∈ (s.var c).fields ∧ (s.pushVar owner name kind dims).var c = s.var c ∧
        (s.pushVar owner name kind dims).var f = s.var f := by
    rw [var_pushVar] at hf
    split at hf
    · cases hf
    · next hc =>
        have hSize := h.lt_size hf
        refine ⟨hf, ?_, ?_⟩
        · rw [var_pushVar, if_neg hc]
        · rw [var_pushVar, if_neg (by omega)]
  have hSize : (s.pushVar owner name kind dims).vars.size = s.vars.size + 1 := by
    simp [Schema.pushVar]
  constructor
  · intro c f hf
    exact h.after (hOld hf).1
  · intro c f hf
    have hLt := h.lt_size (hOld hf).1
    omega
  · intro c f hf
    rw [(hOld hf).2.2]
    exact h.owner (hOld hf).1
  · intro c f hf
    rw [(hOld hf).2.1]
    exact h.isCompound (hOld hf).1

theorem lt_size_of_isCompound {s : Schema} {c : VarId} (h : (s.var c).isCompound = true) :
    c.index < s.vars.size := by
  apply Nat.lt_of_not_le
  intro hLe
  rw [var_of_size_le hLe] at h
  cases h

section PushField

variable {s : Schema} {compound : VarId} (hCompound : (s.var compound).isCompound = true)
  (name : String) (kind : VarKind) (dims : List DimId)
include hCompound

theorem var_pushField (v : VarId) :
    ((s.addField compound).pushVar (.compound compound) name kind dims).var v =
      if v.index = s.vars.size then ⟨name, kind, dims, [], .compound compound⟩
      else if v = compound then
        { s.var compound with fields := (s.var compound).fields ++ [⟨s.vars.size⟩] }
      else s.var v := by
  have hSize : (s.addField compound).vars.size = s.vars.size := by
    simp [addField]
  rw [var_pushVar, hSize, var_addField (lt_size_of_isCompound hCompound)]

theorem mem_fields_pushField {c f : VarId}
    (hf : f ∈ (((s.addField compound).pushVar (.compound compound) name kind dims).var c).fields) :
    f ∈ (s.var c).fields ∨ c = compound ∧ f = ⟨s.vars.size⟩ := by
  rw [var_pushField hCompound] at hf
  split at hf
  · cases hf
  · split at hf
    · next hEq =>
        subst hEq
        simpa using hf
    · exact Or.inl hf

/-- A new field changes an earlier variable in its fields at most. -/
theorem var_pushField_of_lt {v : VarId} (hLt : v.index < s.vars.size) :
    (((s.addField compound).pushVar (.compound compound) name kind dims).var v).owner =
        (s.var v).owner ∧
      (((s.addField compound).pushVar (.compound compound) name kind dims).var v).isCompound =
        (s.var v).isCompound := by
  rw [var_pushField hCompound, if_neg (by omega)]
  split
  · next hEq =>
      subst hEq
      exact ⟨rfl, rfl⟩
  · exact ⟨rfl, rfl⟩

/-- A new field is entered behind all variables and among the fields of its compound only. -/
theorem Tree.pushField (h : s.Tree) :
    ((s.addField compound).pushVar (.compound compound) name kind dims).Tree := by
  have hIndex := lt_size_of_isCompound hCompound
  have hSize : ((s.addField compound).pushVar (.compound compound) name kind dims).vars.size =
      s.vars.size + 1 := by
    simp [Schema.pushVar, addField]
  constructor
  · intro c f hf
    rcases mem_fields_pushField hCompound _ _ _ hf with hOld | ⟨rfl, rfl⟩
    · exact h.after hOld
    · exact hIndex
  · intro c f hf
    rcases mem_fields_pushField hCompound _ _ _ hf with hOld | ⟨rfl, rfl⟩
    · have hLt := h.lt_size hOld
      omega
    · rw [hSize]
      exact Nat.lt_succ_self _
  · intro c f hf
    rcases mem_fields_pushField hCompound _ _ _ hf with hOld | ⟨rfl, rfl⟩
    · rw [(var_pushField_of_lt hCompound _ _ _ (h.lt_size hOld)).1]
      exact h.owner hOld
    · rw [var_pushField hCompound, if_pos rfl]
  · intro c f hf
    rcases mem_fields_pushField hCompound _ _ _ hf with hOld | ⟨rfl, rfl⟩
    · have hLt := Nat.lt_trans (h.after hOld) (h.lt_size hOld)
      rw [(var_pushField_of_lt hCompound _ _ _ hLt).2]
      exact h.isCompound hOld
    · rw [(var_pushField_of_lt hCompound _ _ _ hIndex).2]
      exact hCompound

end PushField

/-- What holds of a schema without variables, and of a schema with one variable more than one it
holds of, holds of all schemas that are declared. -/
theorem Declared.induction {P : Schema → Prop} (hEmpty : ∀ name, P (empty name))
    (hVars : ∀ {s s' : Schema}, P s → s'.vars = s.vars → P s')
    (hVar : ∀ {s : Schema} (g : GroupId) (name : String) (kind : VarKind) (dims : List DimId),
      P s → P (s.pushVar (.group g) name kind dims))
    (hField : ∀ {s : Schema} {compound : VarId} (name : String) (kind : VarKind)
      (dims : List DimId), P s → (s.var compound).isCompound = true →
        P ((s.addField compound).pushVar (.compound compound) name kind dims))
    {schema : Schema} (h : schema.Declared) : P schema := by
  have hDeclare {s s' : Schema} (entry : Declaration) (hs : P s)
      (hOk : s.declare entry = .ok s') : P s' := by
    cases entry with
    | group | dimension | anonymous | enumeration =>
        cases hOk
        exact hVars hs rfl
    | var owner name kind dims =>
        cases owner with
        | group g =>
            cases hOk
            exact hVar g name kind dims hs
        | compound v =>
            simp only [Schema.declare] at hOk
            split at hOk
            · next hCompound =>
                cases hOk
                exact hField name kind dims hs hCompound
            · cases hOk
  have hDeclareAll (entries : List Declaration) : ∀ {s : Schema} {place : Nat}, P s →
      declareAll.go s place entries = .ok schema → P schema := by
    induction entries with
    | nil =>
        intro s place hs hOk
        cases hOk
        exact hs
    | cons entry entries ih =>
        intro s place hs hOk
        simp only [declareAll.go] at hOk
        split at hOk
        · next hStep => exact ih (hDeclare entry hs hStep) hOk
        · cases hOk
  obtain ⟨name, entries, hOk⟩ := h
  exact hDeclareAll entries (hEmpty name) hOk

/-- What is declared is a tree. -/
theorem Declared.tree {schema : Schema} (h : schema.Declared) : schema.Tree :=
  h.induction tree_empty tree_of_vars (fun _ name kind dims hs => hs.pushVar _ name kind dims)
    fun name kind dims hs hCompound => hs.pushField hCompound name kind dims

/-- A compound lists its fields as they were declared. -/
theorem Declared.pairwise_fields {schema : Schema} (h : schema.Declared) (c : VarId) :
    (schema.var c).fields.Pairwise fun f g => f.index < g.index := by
  suffices hBoth : schema.Tree ∧ ∀ c, (schema.var c).fields.Pairwise fun f g => f.index < g.index
    from hBoth.2 c
  refine h.induction
    (P := fun s => s.Tree ∧ ∀ c, (s.var c).fields.Pairwise fun f g => f.index < g.index)
    (fun name => ⟨tree_empty name, fun c => ?_⟩) ?_ ?_ ?_
  · rw [var_of_size_le (by simp [empty])]
    exact List.Pairwise.nil
  · rintro s s' ⟨hTree, hs⟩ hVars
    refine ⟨tree_of_vars hTree hVars, fun c => ?_⟩
    rw [var, hVars]
    exact hs c
  · rintro s g name kind dims ⟨hTree, hs⟩
    refine ⟨hTree.pushVar _ name kind dims, fun c => ?_⟩
    rw [var_pushVar]
    split
    · exact List.Pairwise.nil
    · exact hs c
  · rintro s compound name kind dims ⟨hTree, hs⟩ hCompound
    refine ⟨hTree.pushField hCompound name kind dims, fun c => ?_⟩
    rw [var_pushField hCompound]
    split
    · exact List.Pairwise.nil
    · split
      · -- The new field comes after all variables.
        refine List.pairwise_append.mpr ⟨hs compound, List.pairwise_singleton _ _, ?_⟩
        intro f hf g hg
        obtain rfl := List.mem_singleton.mp hg
        exact hTree.lt_size hf
      · exact hs c

/-- No compound lists a field twice. -/
theorem Declared.nodup_fields {schema : Schema} (h : schema.Declared) (c : VarId) :
    (schema.var c).fields.Nodup := by
  refine (h.pairwise_fields c).imp ?_
  rintro f g hLt rfl
  exact Nat.lt_irrefl _ hLt

/-- Each compound lists the variables that it holds. -/
def Complete (s : Schema) : Prop :=
  ∀ c f : VarId, (s.var f).owner = .compound c → f ∈ (s.var c).fields

theorem complete_of_vars {s s' : Schema} (h : s.Complete) (hVars : s'.vars = s.vars) :
    s'.Complete := by
  intro c f hOwner
  have hVar : s'.var = s.var := by
    funext v
    simp [var, hVars]
  rw [hVar] at hOwner ⊢
  exact h c f hOwner

theorem complete_empty (name : String) : (empty name).Complete := by
  intro c f hOwner
  rw [var_of_size_le (by simp [empty])] at hOwner
  cases hOwner

/-- A variable without an owner among the compounds is no field of any. -/
theorem Complete.pushVar {s : Schema} (h : s.Complete) (g : GroupId) (name : String)
    (kind : VarKind) (dims : List DimId) : (s.pushVar (.group g) name kind dims).Complete := by
  intro c f hOwner
  rw [var_pushVar] at hOwner
  split at hOwner
  · cases hOwner
  · next hf =>
      have hField := h c f hOwner
      rw [var_pushVar]
      split
      · next hc =>
          rw [var_of_size_le (Nat.le_of_eq hc.symm)] at hField
          cases hField
      · exact hField

theorem Complete.pushField {s : Schema} (h : s.Complete) {compound : VarId}
    (hCompound : (s.var compound).isCompound = true) (name : String) (kind : VarKind)
    (dims : List DimId) :
    ((s.addField compound).pushVar (.compound compound) name kind dims).Complete := by
  have hIndex := lt_size_of_isCompound hCompound
  intro c f hOwner
  rw [var_pushField hCompound] at hOwner ⊢
  split at hOwner
  · next hf =>
      cases hOwner
      rw [if_neg (by omega), if_pos rfl]
      have hNew : f = ⟨s.vars.size⟩ := by
        cases f
        exact congrArg VarId.mk hf
      simp [hNew]
  · have hField : f ∈ (s.var c).fields := by
      apply h
      split at hOwner
      · next hf => exact hf ▸ hOwner
      · exact hOwner
    have hc : c.index ≠ s.vars.size := by
      intro hc
      rw [var_of_size_le (Nat.le_of_eq hc.symm)] at hField
      cases hField
    rw [if_neg hc]
    split
    · next hEq =>
        subst hEq
        simp [hField]
    · exact hField

/-- What is declared lists the fields of its compounds. -/
theorem Declared.complete {schema : Schema} (h : schema.Declared) : schema.Complete :=
  h.induction complete_empty complete_of_vars
    (fun g name kind dims hs => hs.pushVar g name kind dims)
    fun name kind dims hs hCompound => hs.pushField hCompound name kind dims

/-- A structure with a structure in it, and a sequence. -/
def sampleEntries : List Declaration :=
  [.var (.group root) "s" .record [], .var (.compound ⟨0⟩) "a" (.atomic .int32) [],
    .var (.compound ⟨0⟩) "t" .record [], .var (.compound ⟨2⟩) "x" (.atomic .int32) [],
    .var (.group root) "q" .sequence [], .var (.compound ⟨4⟩) "m" (.atomic .int32) [],
    .var (.compound ⟨4⟩) "n" (.atomic .int32) []]

/-- The schema that these entries declare. -/
def sample : Schema :=
  { empty "nested" with
    vars := #[⟨"s", .record, [], [⟨1⟩, ⟨2⟩], .group root⟩,
      ⟨"a", .atomic .int32, [], [], .compound ⟨0⟩⟩, ⟨"t", .record, [], [⟨3⟩], .compound ⟨0⟩⟩,
      ⟨"x", .atomic .int32, [], [], .compound ⟨2⟩⟩, ⟨"q", .sequence, [], [⟨5⟩, ⟨6⟩], .group root⟩,
      ⟨"m", .atomic .int32, [], [], .compound ⟨4⟩⟩, ⟨"n", .atomic .int32, [], [], .compound ⟨4⟩⟩] }

theorem sample_declared : sample.Declared := ⟨"nested", sampleEntries, rfl⟩

/-- `v` is a field of `c`, or of something below `c`. -/
inductive Below (s : Schema) (c : VarId) : VarId → Prop where
  | field {f : VarId} (h : f ∈ (s.var c).fields) : Below s c f
  | step {f g : VarId} (h : Below s c f) (hField : g ∈ (s.var f).fields) : Below s c g

variable {s : Schema}

theorem Below.trans {c d v : VarId} (h : s.Below c d) (h' : s.Below d v) : s.Below c v := by
  induction h' with
  | field hv => exact .step h hv
  | step _ hv ih => exact .step ih hv

theorem Below.head {c f v : VarId} (hField : f ∈ (s.var c).fields) (h : s.Below f v) :
    s.Below c v :=
  (Below.field hField).trans h

/-- The way down from a compound begins with one of its fields. -/
theorem Below.first {c v : VarId} (h : s.Below c v) :
    ∃ f ∈ (s.var c).fields, v = f ∨ s.Below f v := by
  induction h with
  | @field f hv => exact ⟨f, hv, Or.inl rfl⟩
  | step _ hv ih =>
      obtain ⟨f, hf, rfl | hBelow⟩ := ih
      · exact ⟨_, hf, Or.inr (.field hv)⟩
      · exact ⟨f, hf, Or.inr (.step hBelow hv)⟩

theorem Tree.parent_unique (h : s.Tree) {c c' f : VarId} (hf : f ∈ (s.var c).fields)
    (hf' : f ∈ (s.var c').fields) : c = c' := by
  have hOwner := (h.owner hf).symm.trans (h.owner hf')
  exact Owner.compound.inj hOwner

/-- What is above a field is its compound or above that. -/
theorem Tree.below_parent (h : s.Tree) {c c' v : VarId} (hv : v ∈ (s.var c').fields)
    (hBelow : s.Below c v) : c = c' ∨ s.Below c c' := by
  cases hBelow with
  | field hField => exact Or.inl (h.parent_unique hField hv)
  | step hUp hField => exact Or.inr (h.parent_unique hField hv ▸ hUp)

/-- Of two compounds around a variable one is around the other. -/
theorem Tree.below_of_common (h : s.Tree) {c d v : VarId} (hc : s.Below c v) (hd : s.Below d v) :
    c = d ∨ s.Below c d ∨ s.Below d c := by
  induction hc with
  | field hField =>
      rcases h.below_parent hField hd with rfl | hBelow
      · exact Or.inl rfl
      · exact Or.inr (Or.inr hBelow)
  | step hUp hField ih =>
      rcases h.below_parent hField hd with rfl | hBelow
      · exact Or.inr (Or.inl hUp)
      · exact ih hBelow

theorem Tree.lt_of_below (h : s.Tree) {c v : VarId} (hBelow : s.Below c v) : c.index < v.index := by
  induction hBelow with
  | field hField => exact h.after hField
  | step _ hField ih => exact Nat.lt_trans ih (h.after hField)

/-- No field of a compound is below another one. -/
theorem Tree.not_below_sibling (h : s.Tree) {c f g : VarId} (hf : f ∈ (s.var c).fields)
    (hg : g ∈ (s.var c).fields) : ¬s.Below f g := by
  intro hBelow
  have hAfter := h.after hf
  rcases h.below_parent hg hBelow with rfl | hUp
  · exact Nat.lt_irrefl _ hAfter
  · exact Nat.lt_asymm hAfter (h.lt_of_below hUp)

theorem Tree.not_isTopLevel_of_below (h : s.Tree) {c v : VarId} (hBelow : s.Below c v) :
    (s.var v).isTopLevel = false := by
  cases hBelow with
  | field hField | step _ hField => simp [Variable.isTopLevel, h.owner hField]

end Hyperslab.Schema
