import Hyperslab.Proofs.Schema.Forest
import Hyperslab.Schema.Builder

/-! What the calls of a builder make of a schema. A call does what its entry declares, or fails and
changes nothing. The schema that a builder is left with is thus declared by the entries of the calls
that succeed, and is a forest. -/
namespace Hyperslab.Builder

open Schema

/-- The node that an entry adds. -/
def newNode (s : Schema) : Declaration → Node
  | .group _ _ => .group ⟨s.groups.size⟩
  | .dimension _ _ _ | .anonymous _ => .dimension ⟨s.dims.size⟩
  | .enumeration _ _ _ _ => .enumeration ⟨s.enums.size⟩
  | .var _ _ _ _ => .var ⟨s.vars.size⟩

theorem run_get (s : Schema) : (get : Builder Schema).run.run s = pure (.ok s, s) := rfl

theorem run_enterField (s : Schema) (holder : VarId) (name : String) :
    (enterField holder name).run.run s =
      if (s.var holder).isCompound then pure (.ok (), s.addField holder)
      else pure (.error (.notCompound (s.var holder).name name), s) := by
  simp only [enterField, ExceptT.run_bind, StateT.run_bind, run_get, pure_bind]
  split <;> rfl

/-- A call leaves the schema that its entry declares and returns the new node, or fails and leaves
the schema as it was. -/
theorem run_call (s : Schema) (entry : Declaration) :
    (call entry).run.run s = match s.declare entry with
      | .ok s' => (.ok (newNode s entry), s')
      | .error fault => (.error fault, s) := by
  cases entry with
  | group parent name =>
      change (Except.ok (Node.group ⟨(s.groups.push _).size - 1⟩), _) = _
      rw [Array.size_push]
      rfl
  | dimension | anonymous =>
      change (Except.ok (Node.dimension ⟨(s.dims.push _).size - 1⟩), _) = _
      rw [Array.size_push]
      rfl
  | enumeration =>
      change (Except.ok (Node.enumeration ⟨(s.enums.push _).size - 1⟩), _) = _
      rw [Array.size_push]
      rfl
  | var owner name kind dims =>
      cases owner with
      | group g => rfl
      | compound c =>
          simp only [call, Builder.var, bind_pure_comp, ExceptT.run_map, ExceptT.run_bind,
            StateT.run_map, StateT.run_bind, run_get, run_enterField, declare, pure_bind]
          split <;> rfl

/-- Each call refers to nodes that are there when it is made. -/
def inRange (s : Schema) : List Declaration → Bool
  | [] => true
  | entry :: rest => entry.inRange s && inRange ((call entry).run.run s).2 rest

theorem run_callAll_cons (s : Schema) (entry : Declaration) (rest : List Declaration) :
    ((callAll (entry :: rest)).run s).2 = ((callAll rest).run ((call entry).run.run s).2).2 := by
  rw [callAll, List.mapM_cons]
  rfl

/-- The entries of the calls that succeed declare the schema that the calls make. -/
theorem declareAll_accepted (entries : List Declaration) :
    ∀ s : Schema, inRange s entries = true → ∃ accepted, accepted.Sublist entries ∧
      s.allInRange accepted = true ∧
        ∀ place, declareAll.go s place accepted = .ok ((callAll entries).run s).2 := by
  induction entries with
  | nil => exact fun s _ => ⟨[], .slnil, rfl, fun _ => rfl⟩
  | cons entry rest ih =>
      intro s hInRange
      rw [inRange, Bool.and_eq_true] at hInRange
      obtain ⟨accepted, hSublist, hAccepted, hDeclared⟩ := ih _ hInRange.2
      rw [run_callAll_cons]
      have hRun := run_call s entry
      cases hStep : s.declare entry with
      | ok s' =>
          rw [hStep] at hRun
          rw [hRun] at hAccepted hDeclared ⊢
          refine ⟨entry :: accepted, hSublist.cons_cons entry, ?_, fun place => ?_⟩
          · simp only [allInRange, hInRange.1, hStep, hAccepted, Bool.and_self]
          · simp only [declareAll.go, hStep, hDeclared]
      | error fault =>
          rw [hStep] at hRun
          rw [hRun] at hAccepted hDeclared ⊢
          exact ⟨accepted, hSublist.cons entry, hAccepted, hDeclared⟩

theorem built_grounded {name : String} {entries : List Declaration}
    (hInRange : inRange (.empty name) entries = true) : (built name entries).Grounded := by
  obtain ⟨accepted, _, hAccepted, hDeclared⟩ := declareAll_accepted entries _ hInRange
  exact ⟨name, accepted, hAccepted, hDeclared 0⟩

/-- A call that fails changes nothing. -/
theorem unchanged_of_failed {s s' : Schema} {entry : Declaration} {fault : Fault}
    (h : (call entry).run.run s = (.error fault, s')) : s' = s := by
  rw [run_call] at h
  cases hStep : s.declare entry with
  | ok s'' =>
      rw [hStep] at h
      cases h
  | error fault' =>
      rw [hStep] at h
      cases h
      rfl

/-- Calls that refer to nodes before them make a forest, in which all walks end, whether they
succeed or fail. One that fails changes nothing. -/
theorem built_forest (name : String) (entries : List Declaration)
    (hInRange : inRange (.empty name) entries = true) :
    (∀ s s' entry fault, (call entry).run.run s = (.error fault, s') → s' = s) ∧
      (built name entries).Forest ∧ (built name entries).Walks := by
  have hForest := (built_grounded hInRange).forest
  exact ⟨fun _ _ _ _ hFailed => unchanged_of_failed hFailed, hForest, hForest.walks⟩

/-- Nested groups, a structure in a structure, and two calls that fail since what is to hold the
variable is atomic. -/
def sampleCalls : List Declaration :=
  [.group root "a", .var (.group ⟨1⟩) "s" .record [], .group ⟨1⟩ "b",
    .var (.compound ⟨0⟩) "x" (.atomic .int32) [], .var (.compound ⟨1⟩) "y" .sequence [],
    .var (.compound ⟨0⟩) "t" .record [], .var (.group ⟨2⟩) "v" (.atomic .int8) [],
    .var (.compound ⟨2⟩) "z" (.atomic .int32) [], .var (.compound ⟨3⟩) "w" .record []]

theorem built_forest_sample : inRange (.empty "nested") sampleCalls = true ∧
    ((callAll sampleCalls).run (.empty "nested")).1 = [.ok (.group ⟨1⟩), .ok (.var ⟨0⟩),
      .ok (.group ⟨2⟩), .ok (.var ⟨1⟩), .error (.notCompound "x" "y"), .ok (.var ⟨2⟩),
      .ok (.var ⟨3⟩), .ok (.var ⟨4⟩), .error (.notCompound "v" "w")] ∧
    ((built "nested" sampleCalls).var ⟨0⟩).fields = [⟨1⟩, ⟨2⟩] ∧
    (built "nested" sampleCalls).varName ⟨4⟩ = "/a/s.t.z" ∧
    (built "nested" sampleCalls).findVars "a/b/v" = [⟨3⟩] ∧
    (built "nested" sampleCalls).Forest ∧ (built "nested" sampleCalls).Walks := by
  have hInRange : inRange (.empty "nested") sampleCalls = true := by decide +kernel
  refine ⟨hInRange, rfl, rfl, by decide +kernel, by decide +kernel, ?_⟩
  exact (built_forest "nested" sampleCalls hInRange).2

end Hyperslab.Builder
