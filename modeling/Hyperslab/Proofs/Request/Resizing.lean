import Hyperslab.Proofs.Request.Run
import Hyperslab.Proofs.Slice
import Hyperslab.Proofs.View.Request

/-! The resizes of a request. Each dimension is entered once, under a name that finds it again, and
resizes that are written and read again select the same indices. -/
namespace Hyperslab

namespace Slice

variable {s f g : Slice} {size : UInt64}

/-- A slice that has been fitted fits as it is. -/
theorem fit_fit (h : s.fit size = .ok f) (h' : f.fit size = .ok g) : g = f := by
  obtain ⟨rfl, _⟩ := fit_ok h
  obtain ⟨rfl, _⟩ := fit_ok h'
  exact resolve_of_isResolved rfl size

/-- A slice of a request selects the same indices when what fits is written and read again, and is
written as before. -/
theorem rewritten_fit_of_writable (hWritable : s.Writable) (h : s.fit size = .ok f)
    (h' : f.rewritten.fit size = .ok g) :
    g.indices = f.indices ∧ g.count = f.count ∧ g.chars = f.chars := by
  cases hWritable with
  | whole =>
      obtain ⟨rfl, _⟩ := fit_ok h
      obtain ⟨rfl, _⟩ := fit_ok h'
      exact ⟨rfl, rfl, rfl⟩
  | index | range => exact rewritten_fit h rfl h'

/-- A slice of a request that fits is written as one that fits. -/
theorem rewritten_fits_of_writable (hWritable : s.Writable) (h : s.fit size = .ok f) :
    ∃ g, f.rewritten.fit size = .ok g := by
  cases hWritable with
  | whole =>
      obtain ⟨rfl, _⟩ := fit_ok h
      exact whole_fits size
  | index | range => exact rewritten_fits h rfl

end Slice

namespace Schema

variable {schema : Schema} {name : String} {d : DimId}

theorem absolute_absolute (name : String) : absolute (absolute name) = absolute name := by
  have hSlash : (absolute name).toList.head? = some '/' := by
    unfold absolute
    split
    · next h => exact h
    · simp
  rw [absolute, if_pos hSlash]

theorem absolute_ne_empty (name : String) : absolute name ≠ "" := by
  unfold absolute
  split
  · next h =>
      intro hEmpty
      rw [hEmpty] at h
      cases h
  · intro hEmpty
    have := congrArg String.toList hEmpty
    simp at this

/-- A dimension that has been found is found by its own name. -/
theorem findDimension?_dimName (h : schema.findDimension? name = some d) :
    ∃ own, schema.dimName? d = some own ∧ own ≠ "" ∧ schema.findDimension? own = some d := by
  have hOwn : schema.dimName? d = some (absolute name) := by
    simpa using List.find?_some h
  refine ⟨absolute name, hOwn, absolute_ne_empty name, ?_⟩
  unfold findDimension? at h ⊢
  rwa [absolute_absolute]

theorem isShared_of_dimName? {own : String} (h : schema.dimName? d = some own) :
    (schema.dimension d).isShared = true := by
  obtain ⟨home, hHome, _⟩ := Option.map_eq_some_iff.mp h
  simp [Dimension.isShared, hHome]

end Schema

namespace View

variable {view view' : View}

/-- One resize of a request, and those behind it. -/
theorem addResizes_cons {resize : Resize} {resizes : List Resize}
    (h : view.addResizes (resize :: resizes) = .ok view') :
    ∃ d fitted, view.schema.findDimension? resize.name = some d ∧
      resize.slice.fit (view.schema.dimension d).size = .ok fitted ∧
        (view.enter d fitted).addResizes resizes = .ok view' := by
  rw [addResizes] at h
  split at h
  · cases h
  · next d hFind =>
      split at h
      · cases h
      · next fitted hFit =>
          obtain ⟨view₁, hResize, h⟩ := exists_of_bind_eq_ok h
          obtain ⟨again, hAgain, rfl⟩ := addResize_ok hResize
          rw [Slice.fit_fit hFit hAgain] at h
          exact ⟨d, fitted, hFind, hFit, h⟩

/-- The resizes of a view: each dimension once, found by its name, with a slice that fits it. -/
structure Entered (schema : Schema) (resizes : List (DimId × Slice)) : Prop where
  nodup : (resizes.map (·.1)).Nodup
  named : ∀ entry ∈ resizes, ∃ name, schema.dimName? entry.1 = some name ∧ name ≠ "" ∧
    schema.findDimension? name = some entry.1
  fits : ∀ entry ∈ resizes, ∃ asked : Slice, asked.Writable ∧
    asked.fit (schema.dimension entry.1).size = .ok entry.2

theorem Entered.tail {schema : Schema} {entry : DimId × Slice} {entries : List (DimId × Slice)}
    (h : Entered schema (entry :: entries)) : Entered schema entries where
  nodup := (List.nodup_cons.mp h.nodup).2
  named := fun other hOther => h.named other (List.mem_cons_of_mem _ hOther)
  fits := fun other hOther => h.fits other (List.mem_cons_of_mem _ hOther)

theorem Entered.head_ne {schema : Schema} {entry other : DimId × Slice}
    {entries : List (DimId × Slice)} (h : Entered schema (entry :: entries))
    (hOther : other ∈ entries) : other.1 ≠ entry.1 := by
  intro hSame
  have hMem : other.1 ∈ entries.map (·.1) := List.mem_map_of_mem hOther
  rw [hSame] at hMem
  exact (List.nodup_cons.mp h.nodup).1 hMem

theorem Entered.enter {schema : Schema} {resizes : List (DimId × Slice)}
    (h : Entered schema resizes) {name : String} {d : DimId} {asked fitted : Slice}
    (hFind : schema.findDimension? name = some d) (hWritable : asked.Writable)
    (hFit : asked.fit (schema.dimension d).size = .ok fitted) :
    Entered schema (enterResize resizes d fitted) := by
  refine ⟨nodup_enterResize d fitted h.nodup, ?_, ?_⟩
  · intro entry hEntry
    rcases mem_enterResize hEntry with hOld | rfl
    · exact h.named entry hOld
    · exact Schema.findDimension?_dimName hFind
  · intro entry hEntry
    rcases mem_enterResize hEntry with hOld | rfl
    · exact h.fits entry hOld
    · exact ⟨asked, hWritable, hFit⟩

theorem addResizes_entered (resizes : List Resize)
    (hWritable : ∀ resize ∈ resizes, resize.slice.Writable)
    (hView : Entered view.schema view.resizes) (h : view.addResizes resizes = .ok view') :
    Entered view.schema view'.resizes := by
  induction resizes generalizing view with
  | nil =>
      cases h
      exact hView
  | cons resize resizes ih =>
      obtain ⟨d, fitted, hFind, hFit, h⟩ := addResizes_cons h
      exact @ih (view.enter d fitted) (fun r hr => hWritable r (by simp [hr]))
        (hView.enter hFind (hWritable resize (by simp)) hFit) h

theorem Entered.dimsSpelled (h : Entered view.schema view.resizes) : view.DimsSpelled := h.named

/-- The same dimension with slices that select the same indices and are written alike. -/
def SameResize (a b : DimId × Slice) : Prop :=
  b.1 = a.1 ∧ b.2.indices = a.2.indices ∧ b.2.count = a.2.count ∧ b.2.chars = a.2.chars

/-- Resizes that are written and read again are entered in the same order. -/
theorem addResizes_resizeOf {source : View} (entries : List (DimId × Slice))
    (hEntries : Entered source.schema entries) (hSchema : view.schema = source.schema)
    (hNew : ∀ entry ∈ entries, entry.1 ∉ view.resizes.map (·.1))
    (h : view.addResizes (entries.map source.resizeOf) = .ok view') :
    ∃ entered, view'.resizes = view.resizes ++ entered ∧
      List.Forall₂ SameResize entries entered := by
  induction entries generalizing view with
  | nil =>
      cases h
      exact ⟨[], by simp, .nil⟩
  | cons entry entries ih =>
      obtain ⟨d, fitted, hFind, hFit, h⟩ := addResizes_cons h
      obtain ⟨name, hName, _, hOwn⟩ := hEntries.named entry (by simp)
      obtain ⟨asked, hWritable, hAsked⟩ := hEntries.fits entry (by simp)
      have hSame : d = entry.1 := by
        rw [hSchema] at hFind
        simp only [resizeOf, hName, Option.getD_some] at hFind
        exact Option.some.inj (hFind.symm.trans hOwn)
      subst hSame
      rw [hSchema] at hFit
      have hIndices := Slice.rewritten_fit_of_writable hWritable hAsked hFit
      have hKey := hNew entry (by simp)
      rcases enterResize_cases view.resizes entry.1 fitted with ⟨hOld, _⟩ | ⟨_, hEq⟩
      · exact absurd hOld hKey
      · have hFresh : ∀ e ∈ entries, e.1 ∉ (view.enter entry.1 fitted).resizes.map (·.1) := by
          intro e he
          simp only [View.enter, hEq, List.map_append, List.map_singleton, List.mem_append,
            List.mem_singleton, not_or]
          exact ⟨hNew e (by simp [he]), hEntries.head_ne he⟩
        obtain ⟨entered, hEntered, hAll⟩ :=
          @ih (view.enter entry.1 fitted) hEntries.tail hSchema hFresh h
        exact ⟨(entry.1, fitted) :: entered, by simpa [View.enter, hEq] using hEntered,
          .cons ⟨rfl, hIndices⟩ hAll⟩

/-- Resizes that are written are accepted again. -/
theorem exists_addResizes_resizeOf {source : View} (entries : List (DimId × Slice))
    (hEntries : Entered source.schema entries) (hSchema : view.schema = source.schema)
    (hOpen : view.isFinished = false) :
    ∃ view', view.addResizes (entries.map source.resizeOf) = .ok view' := by
  induction entries generalizing view with
  | nil => exact ⟨view, rfl⟩
  | cons entry entries ih =>
      obtain ⟨name, hName, _, hFind⟩ := hEntries.named entry (by simp)
      obtain ⟨asked, hWritable, hAsked⟩ := hEntries.fits entry (by simp)
      obtain ⟨fitted, hFit⟩ := Slice.rewritten_fits_of_writable hWritable hAsked
      have hShared := Schema.isShared_of_dimName? hName
      rw [← hSchema] at hFind hFit hShared
      have hResize : (view.addResize entry.1 fitted).toExcept =
          .ok (view.enter entry.1 fitted) := by
        simp only [addResize, hOpen, hShared, Slice.fit_self hFit, Bool.false_eq_true, if_false,
          Bool.not_true]
        rfl
      obtain ⟨view', hView⟩ := @ih (view.enter entry.1 fitted)
        hEntries.tail hSchema hOpen
      refine ⟨view', ?_⟩
      rw [List.map_cons, addResizes]
      simp only [resizeOf, hName, Option.getD_some, hFind, hFit, hResize]
      exact hView

end View

end Hyperslab
