import Hyperslab.View.Edit
import Mathlib.Data.List.Nodup

/-! What a view keeps in two places: the selected variables beside their segments, and the resized
dimensions beside their slices. Edits change both places, and here each change is shown to keep them
in step. -/
namespace Hyperslab.View

/-- What is kept in two places agrees: the variables that are looked up are those of the segments,
each of them once, and a dimension is resized to the size of its slice. -/
structure InStep (view : View) : Prop where
  vars_eq : view.vars = view.segments.map (·.var)
  nodup : view.vars.Nodup
  nodup_resized : (view.resized.map (·.1)).Nodup
  resized : ∀ d, view.resized? d =
    (view.resize? d).map fun slice => (view.schema.dimension d).resized slice.count

theorem inStep_empty (schema : Schema) : (empty schema).InStep where
  vars_eq := rfl
  nodup := List.nodup_nil
  nodup_resized := List.nodup_nil
  resized := fun _ => rfl

theorem position?_eq_none {view : View} {v : VarId} : view.position? v = none ↔ v ∉ view.vars := by
  rw [position?, List.idxOf?_eq_none_iff]

theorem position?_eq_some {view : View} {v : VarId} {i : Nat} (h : view.position? v = some i) :
    view.vars[i]? = some v := by
  obtain ⟨hLt, hSame, _⟩ := List.findIdx?_eq_some_iff_getElem.mp h
  rw [List.getElem?_eq_getElem hLt, eq_of_beq hSame]

theorem position?_eq_some_iff {view : View} (hNodup : view.vars.Nodup) {v : VarId} {i : Nat} :
    view.position? v = some i ↔ view.vars[i]? = some v := by
  refine ⟨position?_eq_some, fun hVar => ?_⟩
  obtain ⟨hLt, rfl⟩ := List.getElem?_eq_some_iff.mp hVar
  refine List.idxOf?_eq_some_iff.mpr ⟨hLt, rfl, fun j hj hSame => ?_⟩
  exact Nat.ne_of_lt hj ((hNodup.getElem_inj_iff).mp hSame)

/-- Variables at one position are the same. -/
theorem position?_inj {view : View} {v w : VarId} {i : Nat} (h : view.position? v = some i)
    (h' : view.position? w = some i) : v = w :=
  Option.some.inj ((position?_eq_some h).symm.trans (position?_eq_some h'))

theorem mem_of_segment? {view : View} {v : VarId} {segment : Segment}
    (h : view.segment? v = some segment) : segment ∈ view.segments := by
  obtain ⟨i, _, hSegment⟩ := Option.bind_eq_some_iff.mp h
  exact List.mem_of_getElem? hSegment

section InStep

variable {view : View} (h : view.InStep)
include h

/-- At each position stands the segment of the variable that is looked up there. -/
theorem InStep.getElem?_vars (i : Nat) : view.vars[i]? = view.segments[i]?.map (·.var) := by
  rw [h.vars_eq, List.getElem?_map]

theorem InStep.segment?_eq_some {v : VarId} {segment : Segment}
    (hFind : view.segment? v = some segment) :
    segment ∈ view.segments ∧ segment.var = v := by
  obtain ⟨i, hPosition, hSegment⟩ := Option.bind_eq_some_iff.mp hFind
  have hVar := position?_eq_some hPosition
  rw [h.getElem?_vars, hSegment] at hVar
  exact ⟨List.mem_of_getElem? hSegment, Option.some.inj hVar⟩

theorem InStep.segment?_eq_none {v : VarId} : view.segment? v = none ↔ v ∉ view.vars := by
  rw [← position?_eq_none, segment?, Option.bind_eq_none_iff]
  refine ⟨fun hNone => ?_, fun hNone i hPosition => ?_⟩
  · cases hPosition : view.position? v with
    | none => rfl
    | some i =>
        have hVar := position?_eq_some hPosition
        rw [h.getElem?_vars, hNone i hPosition] at hVar
        cases hVar
  · rw [hNone] at hPosition
    cases hPosition

theorem InStep.mem_vars {segment : Segment} (hMem : segment ∈ view.segments) :
    segment.var ∈ view.vars := by
  rw [h.vars_eq]
  exact List.mem_map_of_mem hMem

/-- A selected variable has a segment. -/
theorem InStep.exists_segment {v : VarId} (hSelected : v ∈ view.vars) :
    ∃ segment ∈ view.segments, segment.var = v := by
  rw [h.vars_eq] at hSelected
  exact List.mem_map.mp hSelected

/-- A variable has one segment only. -/
theorem InStep.segment_unique {segment other : Segment} (hMem : segment ∈ view.segments)
    (hMem' : other ∈ view.segments) (hVar : segment.var = other.var) : segment = other := by
  have hNodup := h.nodup
  rw [h.vars_eq] at hNodup
  exact List.inj_on_of_nodup_map hNodup hMem hMem' hVar

theorem InStep.segment?_of_mem {segment : Segment} (hMem : segment ∈ view.segments) :
    view.segment? segment.var = some segment := by
  cases hFind : view.segment? segment.var with
  | none => exact absurd (h.mem_vars hMem) (h.segment?_eq_none.mp hFind)
  | some other =>
      obtain ⟨hOther, hVar⟩ := h.segment?_eq_some hFind
      rw [h.segment_unique hOther hMem hVar]

end InStep

@[simp] theorem vars_push (view : View) (segment : Segment) :
    (view.push segment).vars = view.vars ++ [segment.var] := rfl

/-- Only the segment of the variable changes. -/
theorem getElem?_modifySegment (view : View) (v : VarId) (change : Segment → Segment) (i : Nat) :
    (view.modifySegment v change).segments[i]? =
      if view.position? v = some i then view.segments[i]?.map change else view.segments[i]? := by
  unfold modifySegment
  cases hPosition : view.position? v with
  | none => simp
  | some j =>
      rw [List.getElem?_modify]
      simp only [Option.some.injEq]
      split <;> simp

theorem segment?_modifySegment (view : View) (v : VarId) (change : Segment → Segment) (x : VarId) :
    (view.modifySegment v change).segment? x =
      if x = v then (view.segment? x).map change else view.segment? x := by
  have hPosition : (view.modifySegment v change).position? x = view.position? x := rfl
  rw [segment?, hPosition, segment?]
  cases hx : view.position? x with
  | none => simp
  | some i =>
      rw [Option.bind_some, Option.bind_some, getElem?_modifySegment]
      by_cases hSame : x = v
      · rw [if_pos hSame, if_pos (hSame ▸ hx)]
      · rw [if_neg hSame, if_neg fun hv => hSame (position?_inj hx hv)]

section InStep

variable {view : View} (h : view.InStep)
include h

/-- The segment that changes is told by its variable. -/
theorem InStep.segments_modifySegment (v : VarId) (change : Segment → Segment) :
    (view.modifySegment v change).segments =
      view.segments.map fun segment => if segment.var = v then change segment else segment := by
  refine List.ext_getElem? fun i => ?_
  simp only [getElem?_modifySegment, List.getElem?_map, position?_eq_some_iff h.nodup,
    h.getElem?_vars]
  cases view.segments[i]? with
  | none => simp
  | some segment =>
      simp only [Option.map_some, Option.some.injEq]
      split <;> rfl

theorem InStep.mem_modifySegment {v : VarId} {change : Segment → Segment} {segment : Segment} :
    segment ∈ (view.modifySegment v change).segments ↔
      ∃ other ∈ view.segments, segment = if other.var = v then change other else other := by
  simp [h.segments_modifySegment, eq_comm]

/-- A change that keeps the variable of a segment keeps what is selected. -/
theorem InStep.modifySegment (v : VarId) {change : Segment → Segment}
    (hVar : ∀ segment, (change segment).var = segment.var) :
    (view.modifySegment v change).InStep := by
  refine ⟨?_, h.nodup, h.nodup_resized, h.resized⟩
  rw [h.segments_modifySegment, List.map_map]
  refine h.vars_eq.trans (List.map_congr_left fun segment _ => ?_)
  simp only [Function.comp_apply]
  split
  · exact (hVar segment).symm
  · rfl

theorem InStep.push {segment : Segment} (hNew : segment.var ∉ view.vars) :
    (view.push segment).InStep := by
  refine ⟨?_, ?_, h.nodup_resized, h.resized⟩
  · simp [View.push, h.vars_eq]
  · rw [vars_push, ← List.concat_eq_append, List.nodup_concat]
    exact ⟨hNew, h.nodup⟩

end InStep

@[simp] theorem pushAll_nil (view : View) : view.pushAll [] = view := by
  simp [pushAll]

theorem pushAll_cons (view : View) (v : VarId) (added : List VarId) :
    view.pushAll (v :: added) = (view.push (.fresh v [])).pushAll added := by
  simp [pushAll, push, Segment.fresh]

theorem pushAll_pushAll (view : View) (added more : List VarId) :
    (view.pushAll added).pushAll more = view.pushAll (added ++ more) := by
  simp [pushAll]

@[simp] theorem vars_pushAll (view : View) (added : List VarId) :
    (view.pushAll added).vars = view.vars ++ added := rfl

@[simp] theorem schema_pushAll (view : View) (added : List VarId) :
    (view.pushAll added).schema = view.schema := rfl

theorem InStep.pushAll {view : View} (h : view.InStep) {added : List VarId}
    (hNodup : (view.vars ++ added).Nodup) : (view.pushAll added).InStep := by
  refine ⟨?_, hNodup, h.nodup_resized, h.resized⟩
  simp [View.pushAll, h.vars_eq, Segment.fresh, Function.comp_def]

/-- Enclosing compounds are selected behind all others, without slices and filters. -/
theorem selectEnclosing_eq (view : View) (v : VarId) :
    ∃ added : List VarId, view.selectEnclosing v = view.pushAll added := by
  induction v using selectEnclosing.induct view with
  | case1 v g hOwner => exact ⟨[], by rw [selectEnclosing, hOwner]; simp⟩
  | case2 v c hOwner hSelected =>
      exact ⟨[], by rw [selectEnclosing, hOwner]; simp [hSelected]⟩
  | case3 v c hOwner hMissing hBefore ih =>
      obtain ⟨added, hAdded⟩ := ih
      refine ⟨added ++ [c], ?_⟩
      rw [selectEnclosing, hOwner]
      simp [hMissing, hBefore, hAdded, push, pushAll, Segment.fresh]
  | case4 v c hOwner hMissing hBefore =>
      exact ⟨[], by rw [selectEnclosing, hOwner]; simp [hMissing, hBefore]⟩

theorem selectEnclosing_schema (view : View) (v : VarId) :
    (view.selectEnclosing v).schema = view.schema := by
  obtain ⟨added, hEq⟩ := selectEnclosing_eq view v
  rw [hEq, schema_pushAll]

/-- Only variables before the field are selected around it. -/
theorem mem_selectEnclosing_before (view : View) (v : VarId) :
    ∀ x ∈ (view.selectEnclosing v).vars, x ∈ view.vars ∨ x.index < v.index := by
  induction v using selectEnclosing.induct view with
  | case1 v g hOwner =>
      rw [selectEnclosing, hOwner]
      exact fun x hx => Or.inl hx
  | case2 v c hOwner hSelected =>
      rw [selectEnclosing, hOwner]
      simp only [hSelected, if_true]
      exact fun x hx => Or.inl hx
  | case3 v c hOwner hMissing hBefore ih =>
      rw [selectEnclosing, hOwner]
      simp only [hMissing, Bool.false_eq_true, if_false, hBefore, if_true, vars_push, Segment.fresh,
        List.mem_append, List.mem_singleton]
      rintro x (hx | rfl)
      · exact (ih x hx).imp_right fun hLt => Nat.lt_trans hLt hBefore
      · exact Or.inr hBefore
  | case4 v c hOwner hMissing hBefore =>
      rw [selectEnclosing, hOwner]
      simp only [hMissing, Bool.false_eq_true, if_false, hBefore]
      exact fun x hx => Or.inl hx

/-- A variable is not selected around itself. -/
theorem mem_of_mem_selectEnclosing {view : View} {v : VarId}
    (h : v ∈ (view.selectEnclosing v).vars) : v ∈ view.vars :=
  (mem_selectEnclosing_before view v v h).resolve_right (Nat.lt_irrefl _)

theorem InStep.selectEnclosing {view : View} (h : view.InStep) (v : VarId) :
    (view.selectEnclosing v).InStep := by
  induction v using selectEnclosing.induct view with
  | case1 v g hOwner =>
      rw [View.selectEnclosing, hOwner]
      exact h
  | case2 v c hOwner hSelected =>
      rw [View.selectEnclosing, hOwner]
      simp only [hSelected, if_true]
      exact h
  | case3 v c hOwner hMissing hBefore ih =>
      rw [View.selectEnclosing, hOwner]
      simp only [hMissing, Bool.false_eq_true, if_false, hBefore, if_true]
      exact ih.push fun hc => hMissing (by simpa [selects] using mem_of_mem_selectEnclosing hc)
  | case4 v c hOwner hMissing hBefore =>
      rw [View.selectEnclosing, hOwner]
      simp only [hMissing, Bool.false_eq_true, if_false, hBefore]
      exact h

/-- Where the enclosing compound of a field is selected, nothing is missing around it. -/
theorem selectEnclosing_of_selected {view : View} {v : VarId}
    (h : ∀ c, (view.schema.var v).owner = .compound c → c ∈ view.vars) :
    view.selectEnclosing v = view := by
  rw [selectEnclosing]
  split
  · rfl
  · next c hOwner =>
      rw [if_pos (by simpa [selects] using h c hOwner)]

theorem enterResize_cases (resizes : List (DimId × Slice)) (d : DimId) (slice : Slice) :
    (d ∈ resizes.map (·.1) ∧
        enterResize resizes d slice =
          resizes.map fun entry => if entry.1 = d then (d, slice) else entry) ∨
      d ∉ resizes.map (·.1) ∧ enterResize resizes d slice = resizes ++ [(d, slice)] := by
  have hAny : resizes.any (·.1 = d) = true ↔ d ∈ resizes.map (·.1) := by simp
  unfold enterResize
  split
  · next h => exact Or.inl ⟨hAny.mp h, rfl⟩
  · next h => exact Or.inr ⟨mt hAny.mpr h, rfl⟩

theorem mem_enterResize {resizes : List (DimId × Slice)} {d : DimId} {slice : Slice}
    {entry : DimId × Slice} (h : entry ∈ enterResize resizes d slice) :
    entry ∈ resizes ∨ entry = (d, slice) := by
  rcases enterResize_cases resizes d slice with ⟨_, hEq⟩ | ⟨_, hEq⟩
  · rw [hEq] at h
    obtain ⟨other, hOther, rfl⟩ := List.mem_map.mp h
    split
    · exact Or.inr rfl
    · exact Or.inl hOther
  · rw [hEq] at h
    simpa using h

/-- No dimension is entered twice. -/
theorem nodup_enterResize {resizes : List (DimId × Slice)} (d : DimId) (slice : Slice)
    (h : (resizes.map (·.1)).Nodup) : ((enterResize resizes d slice).map (·.1)).Nodup := by
  rcases enterResize_cases resizes d slice with ⟨_, hEq⟩ | ⟨hNew, hEq⟩
  · have hKeys : (enterResize resizes d slice).map (·.1) = resizes.map (·.1) := by
      rw [hEq, List.map_map]
      apply List.map_congr_left
      intro entry _
      simp only [Function.comp_apply]
      split
      · next hSame => exact hSame.symm
      · rfl
    exact hKeys ▸ h
  · rw [hEq, List.map_append]
    refine List.nodup_append.mpr ⟨h, by simp, ?_⟩
    rintro a ha b hb rfl
    obtain rfl : a = d := by simpa using hb
    exact hNew ha

theorem lookup_cons {α : Type} (d e : DimId) (x : α) (entries : List (DimId × α)) :
    ((d, x) :: entries).lookup e = if e = d then some x else entries.lookup e := by
  rw [List.lookup_cons]
  by_cases hSame : e = d
  · rw [if_pos hSame, beq_iff_eq.mpr hSame]
  · rw [if_neg hSame, beq_eq_false_iff_ne.mpr hSame]

/-- The latest resize of a dimension counts. -/
theorem lookup_enterResize (resizes : List (DimId × Slice)) (d : DimId) (slice : Slice)
    (e : DimId) : (enterResize resizes d slice).lookup e =
      if e = d then some slice else resizes.lookup e := by
  have hReplaced (entries : List (DimId × Slice)) :
      (entries.map fun entry => if entry.1 = d then (d, slice) else entry).lookup e =
        if e = d then (entries.lookup d).map (fun _ => slice) else entries.lookup e := by
    induction entries with
    | nil => simp
    | cons entry entries ih =>
        obtain ⟨e', given⟩ := entry
        rw [List.map_cons, lookup_cons, lookup_cons]
        by_cases hEntry : e' = d
        · rw [if_pos hEntry, lookup_cons, ih, if_pos hEntry.symm]
          split <;> simp_all
        · rw [if_neg hEntry, lookup_cons, ih, if_neg (Ne.symm hEntry)]
          split <;> simp_all
  rcases enterResize_cases resizes d slice with ⟨hMem, hEq⟩ | ⟨hNew, hEq⟩
  · have hSome : (resizes.lookup d).isSome = true := by
      obtain ⟨entry, hEntry, hSame⟩ := List.mem_map.mp hMem
      rw [Option.isSome_iff_ne_none, Ne, List.lookup_eq_none_iff]
      exact fun hNone => by simpa [hSame] using hNone entry hEntry
    obtain ⟨given, hGiven⟩ := Option.isSome_iff_exists.mp hSome
    rw [hEq, hReplaced, hGiven, Option.map_some]
  · have hNone : resizes.lookup d = none := by
      rw [List.lookup_eq_none_iff]
      intro entry hEntry
      have hOther : d ≠ entry.1 := fun hSame => hNew (hSame ▸ List.mem_map_of_mem hEntry)
      simpa using hOther
    rw [hEq, List.lookup_append, lookup_cons, List.lookup_nil]
    split
    · next hSame => rw [hSame, hNone, Option.none_or]
    · exact Option.or_none

theorem lookup_enterResized (resized : List (DimId × Dimension)) (d : DimId)
    (dimension : Dimension) (e : DimId) : (enterResized resized d dimension).lookup e =
      if e = d then some dimension else resized.lookup e := by
  rw [enterResized, lookup_cons]
  split
  · rfl
  · next hOther =>
      induction resized with
      | nil => rfl
      | cons entry resized ih =>
          obtain ⟨e', given⟩ := entry
          rw [List.filter_cons, lookup_cons]
          split
          · rw [lookup_cons, ih]
          · next hDropped =>
              have hSame : e' = d := by simpa using hDropped
              rw [ih, if_neg (hSame ▸ hOther)]

theorem nodup_enterResized {resized : List (DimId × Dimension)} (d : DimId)
    (dimension : Dimension) (h : (resized.map (·.1)).Nodup) :
    ((enterResized resized d dimension).map (·.1)).Nodup := by
  rw [enterResized, List.map_cons, List.nodup_cons]
  refine ⟨fun hMem => ?_, h.sublist (List.filter_sublist.map _)⟩
  obtain ⟨entry, hEntry, hSame⟩ := List.mem_map.mp hMem
  have hKept := (List.mem_filter.mp hEntry).2
  simp [hSame] at hKept

/-- A resize is entered with the dimension that it leads to. -/
theorem InStep.enter {view : View} (h : view.InStep) (d : DimId) (slice : Slice) :
    (view.enter d slice).InStep := by
  refine ⟨h.vars_eq, h.nodup, nodup_enterResized d _ h.nodup_resized, fun e => ?_⟩
  rw [resized?, resize?, View.enter, lookup_enterResized, lookup_enterResize]
  have hOld := h.resized e
  rw [resized?, resize?] at hOld
  split
  · next hSame => rw [hSame, Option.map_some]
  · exact hOld

end Hyperslab.View
