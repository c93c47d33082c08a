import Hyperslab.Proofs.Request.Outcome

/-! What an accepted request selects: the variables that it names, and all that is in the top-level
compounds that it names without any field. -/
namespace Hyperslab

variable {request : Request} {limits : Limits} {schema : Schema} {view : View}

/-- Where a field of `c` is named, or `c` is a named field itself, no bare compound holds the fields
of `c`. -/
theorem Request.NamesBare.not_below (hTree : schema.Tree) {c d f : VarId}
    (h : request.NamesBare schema d) (hField : f ∈ (schema.var c).fields)
    (hNames : request.Names schema c)
    (hOther : (schema.var c).isTopLevel = false ∨
      ∃ g ∈ (schema.var c).fields, request.Names schema g) : ¬schema.Below d f := by
  intro hBelow
  rcases hTree.below_parent hField hBelow with rfl | hAbove
  · rcases hOther with hNested | ⟨g, hg, hNamed⟩
    · rw [h.isTopLevel] at hNested
      cases hNested
    · exact h.fields g hg hNamed
  · obtain ⟨g, hg, hNamed⟩ := hNames.of_below hTree hAbove
    exact h.fields g hg hNamed

/-- The selected variables are those that the request names, and those below its bare compounds;
none is selected twice. So a nested compound does not stand for its fields, and being read by a
filter selects nothing. -/
theorem Request.compile_selects (hSchema : schema.Declared)
    (h : request.compile limits schema = .ok view) :
    view.vars.Nodup ∧
      (∀ v, v ∈ view.vars ↔
        request.Names schema v ∨ ∃ c, request.NamesBare schema c ∧ schema.Below c v) ∧
      (∀ c, request.Names schema c → (schema.var c).isTopLevel = false →
        ∀ f ∈ (schema.var c).fields, ¬request.Names schema f → f ∉ view.vars) ∧
      (∀ c f, f ∈ (schema.var c).fields → ¬request.Names schema f →
        (∃ g ∈ (schema.var c).fields, request.Names schema g) → f ∉ view.vars) := by
  have hTree := hSchema.tree
  have hOutcome := outcome hTree h
  have hUnread : ∀ {c f}, f ∈ (schema.var c).fields → ¬request.Names schema f →
      request.Names schema c → ((schema.var c).isTopLevel = false ∨
        ∃ g ∈ (schema.var c).fields, request.Names schema g) → f ∉ view.vars := by
    intro c f hField hNot hNames hOther hf
    rcases (hOutcome.vars f).mp hf with hNamed | ⟨d, hd, hBelow⟩
    · exact hNot hNamed
    · exact hd.not_below hTree hField hNames hOther hBelow
  refine ⟨hOutcome.inStep.nodup, hOutcome.vars, fun c hNames hNested f hField hNot => ?_,
    fun c f hField hNot hOther => ?_⟩
  · exact hUnread hField hNot hNames (Or.inl hNested)
  · obtain ⟨g, hg, hNamed⟩ := hOther
    exact hUnread hField hNot (hNamed.enclosing hTree hg) (Or.inr ⟨g, hg, hNamed⟩)

/-- It names a nested structure without its field, and reads a field that it does not name. -/
def Request.selectionSample : Request :=
  ⟨[], [.mk (.mk "s" [] none [.mk (.mk "t" [] none []) none]) none,
    .mk (.mk "q" [] (some (.mk "m" [] none [])) []) none,
    .mk (.mk "/q" [] none []) (some (.compare .lt (.constant (.int 1)) (.field "n")))]⟩

/-- Neither `s.t.x` nor `q.n` is selected. -/
theorem Request.compile_selects_sample : ∃ view,
    selectionSample.compile {} .sample = .ok view ∧ view.vars = [⟨0⟩, ⟨2⟩, ⟨4⟩, ⟨5⟩] ∧
      view.vars.Nodup ∧ ∀ v, v ∈ view.vars ↔ selectionSample.Names .sample v ∨
        ∃ c, selectionSample.NamesBare .sample c ∧ Schema.sample.Below c v := by
  obtain ⟨view, hView, hVars⟩ : ∃ view ∈ (selectionSample.compile {} .sample).toOption,
      view.vars = [⟨0⟩, ⟨2⟩, ⟨4⟩, ⟨5⟩] := by
    decide +kernel
  have hCompile := eq_ok_of_mem_toOption hView
  obtain ⟨hNodup, hSelects, _, _⟩ := compile_selects Schema.sample_declared hCompile
  exact ⟨view, hCompile, hVars, hNodup, hSelects⟩

end Hyperslab
