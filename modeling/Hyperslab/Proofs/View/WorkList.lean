import Hyperslab.Proofs.View.Refused

/-! Expanding as a loop over a work list. The bare compounds are filled one after the other, and the
compounds among the fields that this selects are put behind those that wait. The loop ends, and
selects what expanding level by level selects, in the same order. -/
namespace Hyperslab

/-- A list in which nothing is repeated stays as it is when repetitions are dropped. -/
theorem eraseDups_of_nodup {α : Type} [BEq α] [LawfulBEq α] {xs : List α} (h : xs.Nodup) :
    xs.eraseDups = xs := by
  induction xs with
  | nil => rfl
  | cons x xs ih =>
      obtain ⟨hx, hxs⟩ := List.nodup_cons.mp h
      have hOthers : xs.filter (fun y => !y == x) = xs := by
        apply List.filter_eq_self.mpr
        intro y hy
        have hNe : y ≠ x := fun hSame => hx (hSame ▸ hy)
        simp [hNe]
      rw [List.eraseDups_cons, hOthers, ih hxs]

namespace View

/-- A view that is being expanded, and the compounds that wait to be filled. -/
structure Filling where
  view : View
  pending : List VarId

namespace Filling

/-- At first all bare compounds wait. -/
def initial (view : View) : Filling := ⟨view, view.bareCompounds⟩

/-- Select a field behind all others, unless it is selected. A compound has to be filled in turn. -/
def addField (filling : Filling) (f : VarId) : Filling :=
  if filling.view.selects f then filling
  else if (filling.view.schema.var f).isCompound then
    ⟨filling.view.push (.fresh f []), filling.pending ++ [f]⟩
  else ⟨filling.view.push (.fresh f []), filling.pending⟩

/-- Fill the compound that has waited longest, if one waits. -/
def round? (filling : Filling) : Option Filling :=
  match filling.pending with
  | [] => none
  | c :: pending =>
    some ((filling.view.schema.var c).fields.foldl addField ⟨filling.view, pending⟩)

/-- As many rounds of the loop lead from one state of it to the other. -/
inductive RunsFor : Filling → Filling → Nat → Prop where
  | zero (filling : Filling) : RunsFor filling filling 0
  | succ {start middle finish : Filling} {rounds : Nat} (first : start.round? = some middle)
      (others : RunsFor middle finish rounds) : RunsFor start finish (rounds + 1)

variable {start middle finish : Filling}

theorem RunsFor.trans {first second : Nat} (left : RunsFor start middle first)
    (right : RunsFor middle finish second) : RunsFor start finish (first + second) := by
  induction left with
  | zero =>
      rw [Nat.zero_add]
      exact right
  | succ hFirst _ ih =>
      rw [Nat.add_right_comm]
      exact .succ hFirst (ih right)

/-- Where the loop can end, it ends there: every run of it is the beginning of that one. -/
theorem RunsFor.of_halted {rounds used : Nat} (run : RunsFor start finish rounds)
    (hHalted : finish.pending = []) (other : RunsFor start middle used) :
    ∃ left, used + left = rounds ∧ RunsFor middle finish left := by
  induction other generalizing rounds with
  | zero => exact ⟨rounds, Nat.zero_add _, run⟩
  | succ hFirst _ ih =>
      cases run with
      | zero =>
          rw [round?, hHalted] at hFirst
          cases hFirst
      | succ hFirst' others =>
          cases hFirst.symm.trans hFirst'
          obtain ⟨left, hLeft, hRun⟩ := ih others
          exact ⟨left, by omega, hRun⟩

end Filling

/-- The fields of some compounds, one compound after the other. -/
def fieldsOf (schema : Schema) (level : List VarId) : List VarId :=
  level.flatMap fun c => (schema.var c).fields

/-- The compounds among some variables. -/
def compoundsAmong (schema : Schema) (vs : List VarId) : List VarId :=
  vs.filter fun v => (schema.var v).isCompound

namespace Filling

/-- New fields are selected in their order, and the compounds among them wait in that order. -/
theorem foldl_addField {fields : List VarId} (filling : Filling) (hNodup : fields.Nodup)
    (hNew : ∀ f ∈ fields, f ∉ filling.view.vars) :
    fields.foldl addField filling = ⟨filling.view.pushAll fields,
      filling.pending ++ compoundsAmong filling.view.schema fields⟩ := by
  induction fields generalizing filling with
  | nil => simp [compoundsAmong]
  | cons f fields ih =>
      obtain ⟨hf, hNodup⟩ := List.nodup_cons.mp hNodup
      have hSelected : ¬filling.view.selects f = true := by
        simpa [selects] using hNew f (by simp)
      have hOthers : ∀ g ∈ fields, g ∉ (filling.view.push (.fresh f [])).vars := by
        intro g hg hMem
        rw [vars_push, List.mem_append, List.mem_singleton] at hMem
        rcases hMem with hOld | rfl
        · exact hNew g (by simp [hg]) hOld
        · exact hf hg
      rw [List.foldl_cons, addField, if_neg hSelected, pushAll_cons, compoundsAmong,
        List.filter_cons]
      split
      · rw [ih _ hNodup hOthers, List.append_assoc]
        rfl
      · exact ih _ hNodup hOthers

/-- The compounds of a level are filled one after the other, and those among their fields wait
behind all others. -/
theorem runsFor_level {view : View} {level pending : List VarId}
    (hNodup : (fieldsOf view.schema level).Nodup)
    (hNew : ∀ f ∈ fieldsOf view.schema level, f ∉ view.vars) :
    RunsFor ⟨view, level ++ pending⟩
      ⟨view.pushAll (fieldsOf view.schema level),
        pending ++ compoundsAmong view.schema (fieldsOf view.schema level)⟩ level.length := by
  induction level generalizing view pending with
  | nil =>
      show RunsFor ⟨view, pending⟩ ⟨view.pushAll [], pending ++ []⟩ 0
      rw [pushAll_nil, List.append_nil]
      exact .zero _
  | cons c level ih =>
      have hSplit : fieldsOf view.schema (c :: level) =
          (view.schema.var c).fields ++ fieldsOf view.schema level := List.flatMap_cons
      rw [hSplit] at hNodup hNew ⊢
      obtain ⟨hFields, hLevel, hApart⟩ := List.nodup_append.mp hNodup
      have hRound : round? ⟨view, c :: level ++ pending⟩ =
          some ⟨view.pushAll (view.schema.var c).fields,
            level ++ pending ++ compoundsAmong view.schema (view.schema.var c).fields⟩ :=
        congrArg some (foldl_addField ⟨view, level ++ pending⟩ hFields
          fun f hf => hNew f (List.mem_append_left _ hf))
      have hOthers : ∀ f ∈ fieldsOf view.schema level,
          f ∉ (view.pushAll (view.schema.var c).fields).vars := by
        intro f hf hMem
        rw [vars_pushAll] at hMem
        rcases List.mem_append.mp hMem with hOld | hField
        · exact hNew f (List.mem_append_right _ hf) hOld
        · exact hApart f hField f hf rfl
      have hRun := @ih (view.pushAll (view.schema.var c).fields)
        (pending ++ compoundsAmong view.schema (view.schema.var c).fields) hLevel hOthers
      rw [schema_pushAll, pushAll_pushAll, List.append_assoc, ← List.append_assoc level] at hRun
      rw [compoundsAmong, List.filter_append]
      exact .succ hRound hRun

end Filling

section Levels

variable {schema : Schema} {selected level : List VarId}

/-- Compounds have no field in common. -/
theorem nodup_fieldsOf (hTree : schema.Tree) (hFields : ∀ c, (schema.var c).fields.Nodup)
    (hLevel : level.Nodup) : (fieldsOf schema level).Nodup := by
  induction level with
  | nil => exact List.nodup_nil
  | cons c level ih =>
      obtain ⟨hc, hLevel⟩ := List.nodup_cons.mp hLevel
      refine List.nodup_append.mpr ⟨hFields c, ih hLevel, ?_⟩
      rintro f hf g hg rfl
      obtain ⟨c', hc', hf'⟩ := List.mem_flatMap.mp hg
      exact hc (hTree.parent_unique hf hf' ▸ hc')

/-- Of an untouched level all fields are missing. -/
theorem Untouched.missingFields_eq (h : Untouched schema selected level)
    (hNodup : (fieldsOf schema level).Nodup) :
    missingFields schema selected level = fieldsOf schema level := by
  have hMissing : (fieldsOf schema level).filter (fun v => v ∉ selected) =
      fieldsOf schema level := by
    apply List.filter_eq_self.mpr
    intro f hf
    obtain ⟨c, hc, hField⟩ := List.mem_flatMap.mp hf
    simpa using h.below c hc f (.field hField)
  rw [missingFields]
  exact (congrArg List.eraseDups hMissing).trans (eraseDups_of_nodup hNodup)

end Levels

namespace Filling

variable {view : View} {level : List VarId}

theorem runsFor_missingFields (hTree : view.schema.Tree)
    (hFields : ∀ c, (view.schema.var c).fields.Nodup)
    (hUntouched : Untouched view.schema view.vars level) (hLevel : level.Nodup) :
    RunsFor ⟨view, level⟩ ⟨view.pushAll (missingFields view.schema view.vars level),
      compoundsAmong view.schema (missingFields view.schema view.vars level)⟩ level.length := by
  have hNodup := nodup_fieldsOf hTree hFields hLevel
  have hMissing := hUntouched.missingFields_eq hNodup
  have hNew : ∀ f ∈ fieldsOf view.schema level, f ∉ view.vars := by
    intro f hf
    rw [← hMissing] at hf
    exact (mem_missingFields.mp hf).2
  have hRun := @runsFor_level view level [] hNodup hNew
  rw [List.append_nil, List.nil_append] at hRun
  rw [hMissing]
  exact hRun

/-- The loop over an untouched level ends with all selected that is missing below the level. It
fills the compounds of the level, and each compound that it selects, once. -/
theorem runsFor_missingBelow (hTree : view.schema.Tree)
    (hFields : ∀ c, (view.schema.var c).fields.Nodup) (depth : Nat)
    (hUntouched : Untouched view.schema view.vars level) (hLevel : level.Nodup)
    (hDepth : ∀ c ∈ level, view.schema.vars.size ≤ depth + c.index) :
    RunsFor ⟨view, level⟩ ⟨view.pushAll (missingBelow view.schema depth view.vars level), []⟩
      (level.length +
        (compoundsAmong view.schema (missingBelow view.schema depth view.vars level)).length) := by
  induction depth generalizing view level with
  | zero =>
      have hRun := runsFor_missingFields hTree hFields hUntouched hLevel
      have hNone := hUntouched.missingFields_eq_nil hTree
        fun c hc => Nat.zero_add c.index ▸ hDepth c hc
      rw [hNone] at hRun
      exact hRun
  | succ depth ih =>
      have hRun := runsFor_missingFields hTree hFields hUntouched hLevel
      rw [missingBelow]
      split
      · next hEmpty =>
          rw [List.isEmpty_iff.mp hEmpty] at hRun
          exact hRun
      · have hNext := hUntouched.next hTree
        have hNodup : (compoundsAmong view.schema
            (missingFields view.schema view.vars level)).Nodup := (nodup_eraseDups _).filter _
        rw [← vars_pushAll] at hNext
        have hOthers := @ih (view.pushAll (missingFields view.schema view.vars level)) _ hTree
          hFields hNext hNodup (hUntouched.next_depth hTree hDepth)
        rw [pushAll_pushAll, vars_pushAll, schema_pushAll] at hOthers
        have hCount := hRun.trans hOthers
        rw [compoundsAmong, List.filter_append, List.length_append]
        exact hCount

end Filling

/-- `added` is what the bare compounds of the view stand for: all that is below them, each variable
once and behind the compound around it. -/
structure Fills (view : View) (added : List VarId) : Prop where
  mem : ∀ v, v ∈ added ↔ ∃ c ∈ view.vars, (view.schema.var c).isTopLevel = true ∧
    (view.schema.var c).isCompound = true ∧ (∀ f ∈ (view.schema.var c).fields, f ∉ view.vars) ∧
      view.schema.Below c v
  nodup : (view.vars ++ added).Nodup
  enclosed : ∀ before v, before ++ [v] <+: added →
    ∀ c, (view.schema.var v).owner = .compound c → c ∈ view.vars ++ before

/-- No selected top-level compound waits for its fields. -/
def IsFilled (view : View) : Prop :=
  ∀ c ∈ view.vars, (view.schema.var c).isTopLevel = true → (view.schema.var c).fields ≠ [] →
    ∃ f ∈ (view.schema.var c).fields, f ∈ view.vars

theorem expand_eq {view : View} (hOpen : view.isFinished = false) :
    view.expand = .done view.expanded := by
  rw [expand, if_neg (by simp [hOpen])]

section Expanded

variable {view : View} (hTree : view.schema.Tree)
include hTree

theorem Fills.isFilled {added : List VarId} (hFills : view.Fills added) :
    (view.pushAll added).IsFilled := by
  intro c hc hTop hSome
  rw [vars_pushAll, List.mem_append] at hc
  rw [schema_pushAll] at hTop hSome ⊢
  simp only [vars_pushAll, List.mem_append]
  rcases hc with hOld | hNew
  · by_cases hField : ∃ f ∈ (view.schema.var c).fields, f ∈ view.vars
    · obtain ⟨f, hf, hMem⟩ := hField
      exact ⟨f, hf, Or.inl hMem⟩
    · -- A bare compound has got its first field.
      obtain ⟨f, hf⟩ := List.exists_mem_of_ne_nil _ hSome
      have hBare : ∀ g ∈ (view.schema.var c).fields, g ∉ view.vars :=
        fun g hg hMem => hField ⟨g, hg, hMem⟩
      refine ⟨f, hf, Or.inr ((hFills.mem f).mpr ?_)⟩
      exact ⟨c, hOld, hTop, hTree.isCompound hf, hBare, .field hf⟩
  · obtain ⟨c', _, _, _, _, hBelow⟩ := (hFills.mem c).mp hNew
    rw [hTree.not_isTopLevel_of_below hBelow] at hTop
    cases hTop

variable (h : view.Coherent)
include h

theorem Coherent.untouched : Untouched view.schema view.vars view.bareCompounds :=
  h.untouched_bareCompounds hTree fun _ _ hField hv => h.owner_mem hv (hTree.owner hField)

theorem Coherent.fills :
    view.Fills (missingBelow view.schema view.schema.vars.size view.vars view.bareCompounds) := by
  have hMem := (missingBelow_spec hTree view.schema.vars.size (h.untouched hTree)
    fun c _ => Nat.le_add_right _ _).1
  have hExpanded : view.expanded.Coherent := h.steps (h.expanded_steps hTree)
  have hVars := vars_expanded view
  constructor
  · intro v
    rw [hMem]
    simp only [h.mem_bareCompounds, and_assoc]
  · rw [← hVars]
    exact hExpanded.nodup
  · intro before v hBefore c hOwner
    refine hExpanded.enclosed (view.vars ++ before) v ?_ c hOwner
    rw [hVars, List.append_assoc]
    exact (List.prefix_append_right_inj _).mpr hBefore

/-- What is filled is not expanded any further. -/
theorem IsFilled.expanded_eq (hFilled : view.IsFilled) : view.expanded = view := by
  rw [h.expanded_eq_self_iff hTree]
  intro c hc
  obtain ⟨hMem, hTop, _, hBare⟩ := h.mem_bareCompounds.mp hc
  by_contra hSome
  obtain ⟨f, hf, hSelected⟩ := hFilled c hMem hTop hSome
  exact hBare f hf hSelected

end Expanded

/-- Expanding an open view selects behind all others what its bare compounds stand for, and changes
nothing else. The loop over the compounds that wait comes to this end in every run, with one round
for each bare compound and for each compound that it selects. Then no compound waits, and expanding
once more changes nothing. -/
theorem expand_fills {schema : Schema} (hSchema : schema.Declared) (edits : List Edit)
    (hOpen : ((empty schema).applyAll edits).isFinished = false) :
    ∃ added, ((empty schema).applyAll edits).Fills added ∧
      ((empty schema).applyAll edits).expand =
        .done (((empty schema).applyAll edits).pushAll added) ∧
      (((empty schema).applyAll edits).pushAll added).IsFilled ∧
      (((empty schema).applyAll edits).pushAll added).expand =
        .done (((empty schema).applyAll edits).pushAll added) ∧
      ∀ filling used,
        Filling.RunsFor (.initial ((empty schema).applyAll edits)) filling used →
          ∃ left, used + left = ((empty schema).applyAll edits).bareCompounds.length +
              (compoundsAmong schema added).length ∧
            filling.RunsFor ⟨((empty schema).applyAll edits).pushAll added, []⟩ left := by
  obtain ⟨hSame, hCoherent, _⟩ := reached_coherent hSchema edits
  generalize (empty schema).applyAll edits = view at *
  subst hSame
  have hTree := hSchema.tree
  have hFills := hCoherent.fills hTree
  have hFilled := hFills.isFilled hTree
  have hCoherent' : view.expanded.Coherent := hCoherent.steps (hCoherent.expanded_steps hTree)
  have hAgain : view.expanded.expanded = view.expanded := hFilled.expanded_eq hTree hCoherent'
  have hRun := Filling.runsFor_missingBelow hTree hSchema.nodup_fields view.schema.vars.size
    (hCoherent.untouched hTree) hCoherent.nodup_bareCompounds
    fun c _ => Nat.le_add_right _ _
  have hOpen' : view.expanded.isFinished = false := hOpen
  have hStable : view.expanded.expand = .done view.expanded := by
    rw [expand_eq hOpen', hAgain]
  exact ⟨_, hFills, expand_eq hOpen, hFilled, hStable, fun _ _ hUsed => hRun.of_halted rfl hUsed⟩

/-- A structure without a selected field, and a sequence with one. -/
def halfFilledEdits : List Edit := [.addVariable ⟨0⟩ [], .addVariable ⟨5⟩ []]

/-- Two rounds fill the structure and the structure in it. Nothing is added to the sequence. -/
theorem expand_fills_sample : Schema.sample.Declared ∧
    ((empty .sample).applyAll halfFilledEdits).isFinished = false ∧
    ((empty .sample).applyAll halfFilledEdits).vars = [⟨0⟩, ⟨4⟩, ⟨5⟩] ∧
    ((empty .sample).applyAll halfFilledEdits).expand =
      .done (((empty .sample).applyAll halfFilledEdits).pushAll [⟨1⟩, ⟨2⟩, ⟨3⟩]) ∧
    Filling.RunsFor (.initial ((empty .sample).applyAll halfFilledEdits))
      ⟨((empty .sample).applyAll halfFilledEdits).pushAll [⟨1⟩, ⟨2⟩, ⟨3⟩], []⟩ 2 := by
  have hOpen : ((empty .sample).applyAll halfFilledEdits).isFinished = false := by decide +kernel
  have hVars : ((empty .sample).applyAll halfFilledEdits).vars = [⟨0⟩, ⟨4⟩, ⟨5⟩] := by
    decide +kernel
  have hAll : ((empty .sample).applyAll halfFilledEdits).expand.view.vars =
      [⟨0⟩, ⟨4⟩, ⟨5⟩] ++ [⟨1⟩, ⟨2⟩, ⟨3⟩] := by
    decide +kernel
  have hBare : ((empty .sample).applyAll halfFilledEdits).bareCompounds.length = 1 := by
    decide +kernel
  obtain ⟨added, _, hExpand, _, _, hRuns⟩ :=
    expand_fills Schema.sample_declared halfFilledEdits hOpen
  rw [hExpand, Edited.done, vars_pushAll, hVars] at hAll
  obtain rfl := List.append_cancel_left hAll
  obtain ⟨left, hLeft, hRun⟩ := hRuns _ 0 (.zero _)
  rw [hBare] at hLeft
  obtain rfl : left = 2 := by
    have hCompounds : (compoundsAmong .sample [⟨1⟩, ⟨2⟩, ⟨3⟩]).length = 1 := by decide
    omega
  exact ⟨Schema.sample_declared, hOpen, hVars, hExpand, hRun⟩

end View

end Hyperslab
