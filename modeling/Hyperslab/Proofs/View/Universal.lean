import Hyperslab.Proofs.View.Extent
import Hyperslab.Proofs.View.References
import Hyperslab.Proofs.View.Whole

/-! The view of everything in a schema. It selects the variables of the groups, and expanding it
reaches all fields of all compounds. -/
namespace Hyperslab

namespace Slice

/-- A whole dimension is taken index by index. -/
theorem indices_full (size : UInt64) :
    (full size).indices = (List.range size.toNat).map UInt64.ofNat := by
  rw [indices, firstIndices, Nat.min_self, count_full]
  simp [nth, full]

end Slice

namespace Schema

variable {schema : Schema}

theorem mem_varIds {v : VarId} : v ∈ schema.varIds ↔ v.index < schema.vars.size := by
  simp only [varIds, List.mem_map, List.mem_range]
  exact ⟨fun ⟨_, hLt, hEq⟩ => hEq ▸ hLt, fun hLt => ⟨_, hLt, rfl⟩⟩

theorem nodup_varIds (schema : Schema) : schema.varIds.Nodup := by
  refine List.Nodup.map ?_ List.nodup_range
  intro i j hEq
  cases hEq
  rfl

theorem mem_topLevel {v : VarId} :
    v ∈ schema.topLevel ↔ v ∈ schema.varIds ∧ (schema.var v).isTopLevel = true :=
  List.mem_filter

/-- Every variable is in a group, or below a compound that is in a group. -/
theorem Tree.reaches (hTree : schema.Tree) (hComplete : schema.Complete) (v : VarId)
    (hv : v ∈ schema.varIds) : v ∈ schema.topLevel ∨
      ∃ c ∈ schema.topLevel, (schema.var c).isCompound = true ∧ schema.Below c v := by
  cases hOwner : (schema.var v).owner with
  | group g => exact Or.inl (mem_topLevel.mpr ⟨hv, by rw [Variable.isTopLevel, hOwner]⟩)
  | compound c =>
      have hField := hComplete c v hOwner
      have hAfter := hTree.after hField
      have hc : c ∈ schema.varIds := mem_varIds.mpr (hAfter.trans (mem_varIds.mp hv))
      rcases hTree.reaches hComplete c hc with hTop | ⟨d, hd, hCompound, hBelow⟩
      · exact Or.inr ⟨c, hTop, hTree.isCompound hField, .field hField⟩
      · exact Or.inr ⟨d, hd, hCompound, .step hBelow hField⟩
termination_by v.index

theorem Tree.not_mem_topLevel (hTree : schema.Tree) {c f : VarId}
    (hField : f ∈ (schema.var c).fields) : f ∉ schema.topLevel := by
  intro hTop
  have hNot := hTree.not_isTopLevel_of_below (.field hField)
  rw [(mem_topLevel.mp hTop).2] at hNot
  cases hNot

end Schema

/-- The segment of a variable that is selected whole. -/
def Segment.entire (schema : Schema) (v : VarId) : Segment where
  var := v
  slices := (schema.var v).dims.map fun d => .full (schema.dimension d).size
  dimensions := (schema.var v).dims.map schema.dimension
  projection := (schema.var v).dims.map fun d => .full (schema.dimension d).size
  filter := none

theorem mapM_eq_ok_map {ε α β : Type} {f : α → Except ε β} {g : α → β} {xs : List α}
    (h : ∀ x ∈ xs, f x = .ok (g x)) : xs.mapM f = .ok (xs.map g) := by
  induction xs with
  | nil => rfl
  | cons x xs ih =>
      rw [List.mapM_cons, h x (by simp), ih fun y hy => h y (by simp [hy])]
      rfl

namespace View

variable {view : View} {schema : Schema}

/-- Selecting a variable of a group that was not selected puts it behind the others. -/
theorem addVariable_fresh (hOpen : view.isFinished = false) {v : VarId}
    (hTop : (view.schema.var v).isTopLevel = true) (hNew : v ∉ view.vars) :
    (view.addVariable v []).toExcept = .ok (view.push (.fresh v [])) := by
  have hEnclosing : view.selectEnclosing v = view := by
    cases hOwner : (view.schema.var v).owner with
    | group g => rw [selectEnclosing, hOwner]
    | compound c =>
        rw [Variable.isTopLevel, hOwner] at hTop
        cases hTop
  have hSelects : ¬view.selects v = true := by simpa [selects] using hNew
  rw [addVariable, if_neg (by simp [hOpen]), if_neg (by simp)]
  simp only [hEnclosing]
  rw [if_neg hSelects]
  rfl

theorem addAll_fresh (hOpen : view.isFinished = false) {vs : List VarId}
    (hTop : ∀ v ∈ vs, (view.schema.var v).isTopLevel = true) (hNodup : (view.vars ++ vs).Nodup) :
    view.addAll vs = .ok (view.pushAll vs) := by
  induction vs generalizing view with
  | nil => simp [addAll]
  | cons v vs ih =>
      have hNew : v ∉ view.vars := fun hv => (List.nodup_append.mp hNodup).2.2 v hv v (by simp) rfl
      have hOthers : ((view.push (.fresh v [])).vars ++ vs).Nodup := by
        rw [vars_push, List.append_assoc]
        exact hNodup
      have hPushed : (view.push (.fresh v [])).isFinished = false := hOpen
      rw [addAll, addVariable_fresh hOpen (hTop v (by simp)) hNew]
      change (view.push (.fresh v [])).addAll vs = _
      rw [ih hPushed (fun w hw => hTop w (by simp [hw])) hOthers, pushAll_cons]

/-- The open view of all variables of groups. -/
def roots (schema : Schema) : View :=
  (empty schema).pushAll schema.topLevel

@[simp] theorem vars_roots (schema : Schema) : (roots schema).vars = schema.topLevel := by
  simp [roots, empty]

theorem inStep_roots (schema : Schema) : (roots schema).InStep :=
  (inStep_empty schema).pushAll schema.nodup_topLevel

theorem addAll_topLevel (schema : Schema) :
    (empty schema).addAll schema.topLevel = .ok (roots schema) :=
  addAll_fresh rfl (fun _ hv => (Schema.mem_topLevel.mp hv).2) schema.nodup_topLevel

section Expanded

variable (hTree : schema.Tree) (hComplete : schema.Complete)
include hTree

theorem mem_expanded_roots (v : VarId) : v ∈ (roots schema).expanded.vars ↔ v ∈ schema.topLevel ∨
    ∃ c ∈ (roots schema).bareCompounds, schema.Below c v := by
  have hClosed : ∀ c v, v ∈ (schema.var c).fields → v ∈ (roots schema).vars →
      c ∈ (roots schema).vars := by
    intro c v hField hv
    rw [vars_roots] at hv
    exact absurd hv (hTree.not_mem_topLevel hField)
  have hExpanded := (inStep_roots schema).mem_expanded_vars hTree hClosed v
  rwa [vars_roots] at hExpanded

include hComplete in
/-- Expanding reaches every variable of the schema, and reaches it once. -/
theorem expanded_roots_perm : (roots schema).expanded.vars.Perm schema.varIds := by
  have hNodup := (inStep_roots schema).expanded.nodup
  rw [List.perm_ext_iff_of_nodup hNodup schema.nodup_varIds]
  intro v
  rw [mem_expanded_roots hTree]
  constructor
  · rintro (hTop | ⟨c, _, hBelow⟩)
    · exact (Schema.mem_topLevel.mp hTop).1
    · rw [Schema.mem_varIds]
      cases hBelow with
      | field hField | step _ hField => exact hTree.lt_size hField
  · intro hv
    refine (hTree.reaches hComplete v hv).imp_right ?_
    rintro ⟨c, hTop, hCompound, hBelow⟩
    refine ⟨c, (inStep_roots schema).mem_bareCompounds.mpr
      ⟨?_, (Schema.mem_topLevel.mp hTop).2, hCompound, ?_⟩, hBelow⟩
    · rwa [vars_roots]
    · rw [vars_roots]
      exact fun f hField => hTree.not_mem_topLevel hField

end Expanded

theorem segments_expanded_roots (schema : Schema) : (roots schema).expanded.segments =
    (roots schema).expanded.vars.map (Segment.fresh · []) := by
  have hRoots : (roots schema).segments = (roots schema).vars.map (Segment.fresh · []) := by
    rw [vars_roots]
    rfl
  rw [vars_expanded, List.map_append, ← hRoots]
  rfl

/-- The finished view of everything. -/
def everything (schema : Schema) : View :=
  { (roots schema).expanded with
    segments := (roots schema).expanded.vars.map (Segment.entire schema)
    references := some (roots schema).expanded.collectReferences }

theorem positions_fresh (view : View) (v : VarId) : view.positions (.fresh v []) =
    (view.schema.var v).dims.map fun d => (Slice.whole, d) := by
  have hZip (dims : List DimId) : (List.replicate dims.length Slice.whole).zip dims =
      dims.map fun d => (Slice.whole, d) := by
    induction dims with
    | nil => rfl
    | cons d dims ih => simp [List.replicate_succ, ih]
  exact hZip _

/-- All of a dimension as it was declared. -/
def entireExtent (schema : Schema) (d : DimId) : Extent :=
  ⟨.full (schema.dimension d).size, schema.dimension d, .full (schema.dimension d).size⟩

/-- Without resizes a variable that is asked for whole has its dimensions as they were declared. -/
theorem resolveSegment_fresh (hResizes : view.resizes = []) (hResized : view.resized = [])
    (v : VarId) : view.resolveSegment (.fresh v []) =
      .ok (.ofList ((view.schema.var v).dims.map (entireExtent view.schema))) := by
  refine resolveSegment_eq_ok.mpr ⟨_, ?_, rfl⟩
  rw [positions_fresh, List.mapM_map]
  refine mapM_eq_ok_map fun d _ => ?_
  simp [extentAt, entireExtent, Slice.whole, dimension, resized?, resize?, hResizes, hResized]

theorem finish_roots (schema : Schema) :
    (roots schema).finish.toExcept = .ok (everything schema) := by
  let fixed (v : VarId) : Extents := .ofList ((schema.var v).dims.map (entireExtent schema))
  have hFixed : (roots schema).expanded.segments.mapM (roots schema).expanded.resolveSegment =
      .ok ((roots schema).expanded.vars.map fixed) := by
    rw [segments_expanded_roots, List.mapM_map]
    exact mapM_eq_ok_map fun v _ => resolveSegment_fresh rfl rfl v
  have hSettled : (roots schema).expanded.segments.zipWith Segment.fix
      ((roots schema).expanded.vars.map fixed) =
        (roots schema).expanded.vars.map (Segment.entire schema) := by
    rw [segments_expanded_roots, List.zipWith_map, List.zipWith_self]
    refine List.map_congr_left fun v _ => ?_
    simp [fixed, Segment.fix, Segment.fresh, Segment.entire, Extents.ofList, entireExtent,
      Function.comp_def]
  rw [finish, if_neg (by simp [roots, isFinished, empty, pushAll])]
  simp only [hFixed, hSettled]
  rfl

theorem inStep_everything (schema : Schema) : (everything schema).InStep :=
  (inStep_roots schema).finish (finish_roots schema)

/-- A schema has a view of everything. -/
theorem universal_eq (schema : Schema) : universal schema = .ok (everything schema) := by
  rw [universal, addAll_topLevel]
  exact finish_roots schema

/-- The finished view is all of the schema: each variable once with its dimensions as they were
declared and all of their indices, the shared dimensions and enumerations that variables have, and
all compounds as whole ones. -/
structure Covers (schema : Schema) (view : View) : Prop where
  schema_eq : view.schema = schema
  finished : view.isFinished = true
  vars : view.vars.Perm schema.varIds
  dimensions : ∀ segment ∈ view.segments,
    segment.dimensions = (schema.var segment.var).dims.map schema.dimension
  indices : ∀ segment ∈ view.segments, segment.projection.map Slice.indices =
    (schema.var segment.var).dims.map fun d =>
      (List.range (schema.dimension d).size.toNat).map UInt64.ofNat
  dims : ∀ d, view.refersTo (.dimension d) = true ↔
    (schema.dimension d).isShared = true ∧ ∃ v ∈ schema.varIds, d ∈ (schema.var v).dims
  enums : ∀ e, view.refersTo (.enumeration e) = true ↔
    ∃ v ∈ schema.varIds, (schema.var v).kind = .atomic (.enumerated e)
  compounds : ∀ v, v ∈ view.wholeCompounds ↔
    v ∈ schema.varIds ∧ (schema.var v).isCompound = true

@[simp] theorem vars_everything (schema : Schema) :
    (everything schema).vars = (roots schema).expanded.vars := rfl

theorem mem_everything {segment : Segment} : segment ∈ (everything schema).segments ↔
    ∃ v ∈ (everything schema).vars, segment = .entire schema v := by
  rw [vars_everything]
  simp only [everything, List.mem_map, eq_comm]

/-- Nothing is restricted, and nothing below any variable is missing. -/
theorem whole_everything (hTree : schema.Tree) (hComplete : schema.Complete) (c : VarId) :
    (everything schema).Whole c := by
  intro v hBelow
  have hv : v ∈ (everything schema).vars := by
    rw [vars_everything, (expanded_roots_perm hTree hComplete).mem_iff, Schema.mem_varIds]
    cases hBelow with
    | field hField | step _ hField => exact hTree.lt_size hField
  refine ⟨.entire schema v, mem_everything.mpr ⟨v, hv, rfl⟩, rfl, rfl, fun slice hSlice => ?_⟩
  obtain ⟨_, _, rfl⟩ := List.mem_map.mp hSlice
  rfl

/-- The references to dimensions are those of the variables. -/
theorem mem_referredDims_roots (hTree : schema.Tree) (hComplete : schema.Complete) {d : DimId} :
    d ∈ (roots schema).expanded.referredDims ↔
      (schema.dimension d).isShared = true ∧ ∃ v ∈ schema.varIds, d ∈ (schema.var v).dims := by
  have hPerm := expanded_roots_perm hTree hComplete
  rw [mem_referredDims, segments_expanded_roots]
  constructor
  · rintro (⟨_, hResize⟩ | ⟨hShared, segment, hMem, slice, hPosition, _⟩)
    · cases hResize
    · obtain ⟨v, hv, rfl⟩ := List.mem_map.mp hMem
      rw [positions_fresh] at hPosition
      obtain ⟨e, he, hEq⟩ := List.mem_map.mp hPosition
      cases hEq
      exact ⟨hShared, v, hPerm.mem_iff.mp hv, he⟩
  · rintro ⟨hShared, v, hv, hd⟩
    refine Or.inr ⟨hShared, .fresh v [], List.mem_map_of_mem (hPerm.mem_iff.mpr hv), .whole, ?_,
      rfl⟩
    rw [positions_fresh]
    exact List.mem_map_of_mem hd

theorem covers_everything (hSchema : schema.Declared) : (everything schema).Covers schema := by
  have hTree := hSchema.tree
  have hPerm := expanded_roots_perm hTree hSchema.complete
  have hVars : (everything schema).vars.Perm schema.varIds := by
    rwa [vars_everything]
  refine ⟨rfl, rfl, hVars, ?_, ?_, fun d => ?_, fun e => ?_, fun v => ?_⟩
  · intro segment hMem
    obtain ⟨v, _, rfl⟩ := mem_everything.mp hMem
    rfl
  · intro segment hMem
    obtain ⟨v, _, rfl⟩ := mem_everything.mp hMem
    simp [Segment.entire, Function.comp_def, Slice.indices_full]
  · have hRefers : (everything schema).refersTo (.dimension d) = true ↔
        d ∈ (roots schema).expanded.referredDims := decide_eq_true_iff
    rw [hRefers, mem_referredDims_roots hTree hSchema.complete]
  · have hRefers : (everything schema).refersTo (.enumeration e) = true ↔
        e ∈ (roots schema).expanded.referredEnums := decide_eq_true_iff
    simp only [hRefers, mem_referredEnums, hPerm.mem_iff]
    rfl
  · have hWhole : (everything schema).isWhole v = true :=
      (isWhole_iff hTree (inStep_everything schema) v).mpr
        (whole_everything hTree hSchema.complete v)
    rw [wholeCompounds, List.mem_filter, hVars.mem_iff, hWhole, Bool.and_true]
    rfl

end View

end Hyperslab
