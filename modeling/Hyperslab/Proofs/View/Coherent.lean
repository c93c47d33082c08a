import Hyperslab.Proofs.View.Step

/-! What holds of every view that edits of an empty one lead to, at whatever edit they stop and
whichever of them are refused. -/
namespace Hyperslab

/-- A schema with a shared and an anonymous dimension, a variable that has both of them, and a
sequence. -/
def Schema.gridEntries : List Declaration :=
  [.dimension root "t" 10, .anonymous 4, .var (.group root) "v" (.atomic .int32) [⟨0⟩, ⟨1⟩],
    .var (.group root) "q" .sequence [], .var (.compound ⟨1⟩) "m" (.atomic .int32) []]

/-- The schema that these entries declare. -/
def Schema.grid : Schema :=
  { empty "grid" with
    dims := #[⟨10, some (root, "t")⟩, .anonymous 4]
    vars := #[⟨"v", .atomic .int32, [⟨0⟩, ⟨1⟩], [], .group root⟩,
      ⟨"q", .sequence, [], [⟨2⟩], .group root⟩, ⟨"m", .atomic .int32, [], [], .compound ⟨1⟩⟩] }

theorem Schema.grid_declared : grid.Declared := ⟨"grid", gridEntries, rfl⟩

namespace View

/-- The invariant of views. What is kept in two places is in step, variables are selected behind the
compounds around them, and resizes are of shared dimensions, once each, by slices that fit. -/
structure Coherent (view : View) : Prop extends InStep view where
  enclosed : ∀ before v, before ++ [v] <+: view.vars →
    ∀ c, (view.schema.var v).owner = .compound c → c ∈ before
  rank : ∀ segment ∈ view.segments,
    segment.slices.length ≤ (view.schema.var segment.var).rank
  filter : ∀ segment ∈ view.segments, segment.filter.isSome = true →
    (view.schema.var segment.var).isSequence = true
  nodup_resizes : (view.resizes.map (·.1)).Nodup
  resizes : ∀ d slice, (d, slice) ∈ view.resizes →
    (view.schema.dimension d).isShared = true ∧ 1 ≤ slice.stride ∧
      ∃ stop, slice.stop = some stop ∧ slice.start ≤ stop ∧ stop ≤ (view.schema.dimension d).size

theorem coherent_empty (schema : Schema) : (empty schema).Coherent where
  toInStep := inStep_empty schema
  enclosed := by simp [empty]
  rank := by simp [empty]
  filter := by simp [empty]
  nodup_resizes := by simp [empty]
  resizes := by simp [empty]

section Preserved

variable {view : View} (h : view.Coherent)
include h

theorem Coherent.push {v : VarId} {slices : List Slice} (hNew : v ∉ view.vars)
    (hEnclosed : ∀ c, (view.schema.var v).owner = .compound c → c ∈ view.vars)
    (hRank : slices.length ≤ (view.schema.var v).rank) :
    (view.push (.fresh v slices)).Coherent := by
  constructor
  · exact h.toInStep.push hNew
  · intro before w hPrefix
    rw [vars_push, List.prefix_concat_iff] at hPrefix
    rcases hPrefix with hLast | hEarlier
    · obtain ⟨rfl, hSame⟩ := List.append_inj' hLast rfl
      obtain rfl : w = v := by simpa [Segment.fresh] using hSame
      exact hEnclosed
    · exact h.enclosed before w hEarlier
  · intro segment hMem
    rcases List.mem_append.mp hMem with hOld | hNew
    · exact h.rank segment hOld
    · cases List.mem_singleton.mp hNew
      exact hRank
  · intro segment hMem hFilter
    rcases List.mem_append.mp hMem with hOld | hNew
    · exact h.filter segment hOld hFilter
    · cases List.mem_singleton.mp hNew
      cases hFilter
  · exact h.nodup_resizes
  · exact h.resizes

/-- A segment can change in its slices and its filter, as far as the variable allows. -/
theorem Coherent.modifySegment (v : VarId) {change : Segment → Segment}
    (hVar : ∀ segment, (change segment).var = segment.var)
    (hRank : ∀ segment ∈ view.segments, segment.var = v →
      (change segment).slices.length ≤ (view.schema.var v).rank)
    (hFilter : ∀ segment ∈ view.segments, segment.var = v → (change segment).filter.isSome = true →
      (view.schema.var v).isSequence = true) : (view.modifySegment v change).Coherent := by
  constructor
  · exact h.toInStep.modifySegment v hVar
  · exact h.enclosed
  · intro segment hMem
    obtain ⟨other, hOther, rfl⟩ := h.mem_modifySegment.mp hMem
    split
    · next hSame =>
        rw [hVar, hSame]
        exact hRank other hOther hSame
    · exact h.rank other hOther
  · intro segment hMem hSome
    obtain ⟨other, hOther, rfl⟩ := h.mem_modifySegment.mp hMem
    split at hSome
    · next hSame =>
        rw [if_pos hSame, hVar, hSame]
        exact hFilter other hOther hSame hSome
    · next hOtherVar =>
        rw [if_neg hOtherVar]
        exact h.filter other hOther hSome
  · exact h.nodup_resizes
  · exact h.resizes

theorem Coherent.resize {d : DimId} {slice fitted : Slice}
    (hShared : (view.schema.dimension d).isShared = true)
    (hFit : slice.fit (view.schema.dimension d).size = .ok fitted) :
    (view.enter d fitted).Coherent := by
  refine ⟨h.toInStep.enter d fitted, h.enclosed, h.rank, h.filter,
    nodup_enterResize d fitted h.nodup_resizes, ?_⟩
  intro e given hEntry
  rcases mem_enterResize hEntry with hOld | hNew
  · exact h.resizes e given hOld
  · cases hNew
    obtain ⟨rfl, hStride, hStart, hStop, _⟩ := Slice.fit_ok hFit
    refine ⟨hShared, ?_, _, rfl, hStart, hStop⟩
    have hPos := UInt64.lt_iff_toNat_lt.mp (UInt64.pos_iff_ne_zero.mpr hStride)
    exact UInt64.le_iff_toNat_le.mpr hPos

theorem Coherent.settle {segments : List Segment} {references : References}
    (hSettled : List.Forall₂ (fun segment resolved =>
      view.settleSegment segment = .ok resolved) view.segments segments) :
    Coherent { view with segments, references := some references } := by
  constructor
  · exact h.toInStep.settle hSettled
  · exact h.enclosed
  · intro resolved hMem
    obtain ⟨segment, hSegment, hSettle⟩ := exists_of_forall₂_right hSettled hMem
    obtain ⟨hVar, _, extents, hHas, hFixes⟩ := settleSegment_ok hSettle
    rw [hHas.slices, List.length_map, ← hFixes.length_eq, length_positions, hVar]
  · intro resolved hMem hFilter
    obtain ⟨segment, hSegment, hSettle⟩ := exists_of_forall₂_right hSettled hMem
    obtain ⟨hVar, hSame, _⟩ := settleSegment_ok hSettle
    rw [hVar]
    exact h.filter segment hSegment (hSame ▸ hFilter)
  · exact h.nodup_resizes
  · exact h.resizes

end Preserved

theorem Coherent.step {view view' : View} (h : view.Coherent) (hStep : Step view view') :
    view'.Coherent := by
  cases hStep with
  | select hNew hEnclosed hRank => exact h.push hNew hEnclosed hRank
  | slice hRank =>
      refine h.modifySegment _ (fun _ => rfl) (fun _ _ _ => hRank) ?_
      intro segment hMem hVar hFilter
      exact hVar ▸ h.filter segment hMem hFilter
  | filter hSequence =>
      refine h.modifySegment _ (fun _ => rfl) ?_ fun _ _ _ _ => hSequence
      intro segment hMem hVar
      exact hVar ▸ h.rank segment hMem
  | resize hShared hFit => exact h.resize hShared hFit
  | annotate =>
      exact ⟨h.toInStep.step .annotate, h.enclosed, h.rank, h.filter, h.nodup_resizes, h.resizes⟩
  | resolve hSettled => exact h.settle hSettled

theorem Coherent.steps {view view' : View} (h : view.Coherent) (hSteps : Steps view view') :
    view'.Coherent := by
  induction hSteps with
  | refl => exact h
  | tail _ hStep ih => exact ih.step hStep

/-- A step selects behind what is selected, if it selects anything. -/
theorem Step.vars_prefix {view view' : View} (h : Step view view') : view.vars <+: view'.vars := by
  cases h with
  | select =>
      rw [vars_push]
      exact List.prefix_append _ _
  | slice | filter | resize | annotate | resolve => exact List.prefix_rfl

theorem Steps.vars_prefix {view view' : View} (h : Steps view view') :
    view.vars <+: view'.vars := by
  induction h with
  | refl => exact List.prefix_rfl
  | tail _ hStep ih => exact ih.trans hStep.vars_prefix

/-- A dimension that is resized once is looked up as it stands there. -/
theorem lookup_eq_some {α : Type} {entries : List (DimId × α)} (h : (entries.map (·.1)).Nodup)
    {d : DimId} {x : α} : entries.lookup d = some x ↔ (d, x) ∈ entries := by
  induction entries with
  | nil => simp
  | cons entry entries ih =>
      obtain ⟨e, y⟩ := entry
      rw [List.map_cons, List.nodup_cons] at h
      rw [lookup_cons, List.mem_cons, ← ih h.2]
      by_cases hSame : d = e
      · subst hSame
        have hOnce : entries.lookup d ≠ some x := by
          intro hIn
          exact h.1 (List.mem_map.mpr ⟨_, (ih h.2).mp hIn, rfl⟩)
        simp [hOnce, eq_comm]
      · simp [hSame]

theorem Coherent.resize?_eq_some {view : View} (h : view.Coherent) {d : DimId} {slice : Slice} :
    view.resize? d = some slice ↔ (d, slice) ∈ view.resizes :=
  lookup_eq_some h.nodup_resizes

theorem Coherent.resized?_eq_some {view : View} (h : view.Coherent) {d : DimId}
    {dimension : Dimension} : view.resized? d = some dimension ↔
      ∃ slice, (d, slice) ∈ view.resizes ∧
        dimension = (view.schema.dimension d).resized slice.count := by
  rw [h.resized, Option.map_eq_some_iff]
  simp only [h.resize?_eq_some, eq_comm]

theorem reached_coherent {schema : Schema} (hSchema : schema.Declared) (edits : List Edit) :
    ((empty schema).applyAll edits).schema = schema ∧ ((empty schema).applyAll edits).Coherent ∧
      ∀ more, ((empty schema).applyAll edits).vars <+:
        ((empty schema).applyAll (edits ++ more)).vars := by
  have hSteps : Steps (empty schema) ((empty schema).applyAll edits) :=
    (inStep_empty schema).applyAll_steps hSchema.tree hSchema.complete edits
  have hSame : ((empty schema).applyAll edits).schema = schema := hSteps.schema
  refine ⟨hSame, (coherent_empty schema).steps hSteps, fun more => ?_⟩
  have hAppend : (empty schema).applyAll (edits ++ more) =
      ((empty schema).applyAll edits).applyAll more := List.foldl_append
  rw [hAppend]
  apply Steps.vars_prefix
  apply ((inStep_empty schema).steps hSteps).applyAll_steps
  · rw [hSame]
    exact hSchema.tree
  · rw [hSame]
    exact hSchema.complete

/-- Whatever edits a view has seen, its variables are those of its segments, once each, behind those
that were selected before them and behind the compounds around them; slices and filters stand where
the variable allows them; and the dimensions that are resized are those entered, each with the size
of its slice. -/
theorem applyAll_coherent {schema : Schema} (hSchema : schema.Declared) (edits more : List Edit) :
    ((empty schema).applyAll edits).schema = schema ∧
      ((empty schema).applyAll edits).Coherent ∧
      ((empty schema).applyAll edits).vars =
        ((empty schema).applyAll edits).segments.map (·.var) ∧
      ((empty schema).applyAll edits).vars <+: ((empty schema).applyAll (edits ++ more)).vars ∧
      (((empty schema).applyAll edits).resized.map (·.1)).Nodup ∧
      (∀ d dimension, (d, dimension) ∈ ((empty schema).applyAll edits).resized ↔
        ∃ slice, (d, slice) ∈ ((empty schema).applyAll edits).resizes ∧
          dimension = (schema.dimension d).resized slice.count) ∧
      ∀ d dimension, ((empty schema).applyAll edits).resized? d = some dimension ↔
        ∃ slice, (d, slice) ∈ ((empty schema).applyAll edits).resizes ∧
          dimension = (schema.dimension d).resized slice.count := by
  obtain ⟨hSame, hCoherent, hPrefix⟩ := reached_coherent hSchema edits
  have hResized : ∀ d dimension, ((empty schema).applyAll edits).resized? d = some dimension ↔
      ∃ slice, (d, slice) ∈ ((empty schema).applyAll edits).resizes ∧
        dimension = (schema.dimension d).resized slice.count := by
    intro d dimension
    rw [hCoherent.resized?_eq_some, hSame]
  refine ⟨hSame, hCoherent, hCoherent.vars_eq, hPrefix more, hCoherent.nodup_resized,
    fun d dimension => ?_, hResized⟩
  rw [← lookup_eq_some hCoherent.nodup_resized]
  exact hResized d dimension

/-- Edits of which the second and the third are refused. -/
def gridEdits : List Edit :=
  [.addResize ⟨0⟩ (.range 2 2 (some 8)), .addResize ⟨1⟩ .whole,
    .setFilter ⟨0⟩ (.constant (.bool true)), .addVariable ⟨2⟩ [],
    .setFilter ⟨1⟩ (.constant (.bool true)), .addVariable ⟨0⟩ [.index 1]]

theorem applyAll_coherent_grid : Schema.grid.Declared ∧
    ((empty .grid).applyAll gridEdits).Coherent ∧
      ((empty .grid).applyAll gridEdits).segments.map (·.var) = [⟨1⟩, ⟨2⟩, ⟨0⟩] ∧
        ((empty .grid).applyAll gridEdits).resized? ⟨0⟩ = some ⟨4, some (Schema.root, "t")⟩ := by
  obtain ⟨_, hCoherent, hVars, _, _, _, hResized⟩ :=
    applyAll_coherent Schema.grid_declared gridEdits [.finish]
  refine ⟨Schema.grid_declared, hCoherent, hVars ▸ by decide +kernel, (hResized ⟨0⟩ _).mpr ?_⟩
  exact ⟨⟨2, 2, some 9, true⟩, by decide +kernel, by decide⟩

end View

end Hyperslab
