import Hyperslab.Proofs.Filter.WellFormed

/-! Which fields of a row a filter reads. The fields that it lists are the variables at its leaves,
and of a row it sees nothing but what the row has under their names. -/
namespace Hyperslab

namespace Filter

open View (enterOnce foldl_enterOnce)

mutual

/-- The walk over the leaves enters them one by one. -/
theorem collectFields_eq : ∀ (filter : Filter) (found : List VarId),
    filter.collectFields found = filter.leaves.foldl enterOnce found
  | .constant _, _ => rfl
  | .field _ _, _ => rfl
  | .compare _ lhs rhs _, found => by
      rw [collectFields, leaves, List.foldl_append, collectFields_eq lhs, collectFields_eq rhs]
  | .joined _ operands, found => by
      rw [collectFields, leaves, collectFieldsOf_eq operands]

theorem collectFieldsOf_eq : ∀ (filters : List Filter) (found : List VarId),
    collectFieldsOf found filters = (leavesOf filters).foldl enterOnce found
  | [], _ => rfl
  | filter :: rest, found => by
      rw [collectFieldsOf, leavesOf, List.foldl_append, collectFields_eq filter,
        collectFieldsOf_eq rest]

end

theorem fields_eq (filter : Filter) : filter.fields = filter.leaves.eraseDups := by
  rw [fields, collectFields_eq, foldl_enterOnce]
  simp

theorem mem_fields {filter : Filter} {v : VarId} : v ∈ filter.fields ↔ v ∈ filter.leaves := by
  rw [fields_eq, List.mem_eraseDups]

/-- The rows have the same under the names of the given variables. -/
def RowsAgree (schema : Schema) (vs : List VarId) (row row' : Row) : Prop :=
  ∀ v ∈ vs, row.get? (schema.var v).name = row'.get? (schema.var v).name

variable {schema : Schema} {limits : Limits} {sequence : VarId} {filter : Filter}
  {row row' : Row}

theorem RowsAgree.left {vs ws : List VarId} (h : RowsAgree schema (vs ++ ws) row row') :
    RowsAgree schema vs row row' :=
  fun v hv => h v (List.mem_append_left ws hv)

theorem RowsAgree.right {vs ws : List VarId} (h : RowsAgree schema (vs ++ ws) row row') :
    RowsAgree schema ws row row' :=
  fun v hv => h v (List.mem_append_right vs hv)

/-- The name at a leaf is that of its variable. -/
theorem name_of_filterField {v : VarId} {name : String}
    (h : schema.filterField sequence name = .ok (.field v name)) : (schema.var v).name = name := by
  unfold Schema.filterField at h
  simp only at h
  split at h
  · cases h
  · next w hField =>
      split at h
      · cases h
      · split at h
        · cases h
        · simp only [Except.ok.injEq, field.injEq] at h
          rw [← h.1, h.2]

theorem IsOperand.evaluate_congr (h : filter.IsOperand schema sequence)
    (hRows : RowsAgree schema filter.leaves row row') :
    filter.evaluate schema row = filter.evaluate schema row' := by
  cases h with
  | constant => rfl
  | field v name _ bound =>
      have hSame := hRows v (by simp [leaves])
      rw [name_of_filterField bound] at hSame
      rw [evaluate, evaluate, readField, readField, hSame]

/-- A filter of a sequence does not tell rows apart that have the same under the names of its
leaves. -/
theorem Bound.evaluate_congr (h : filter.Bound schema limits sequence)
    (hRows : RowsAgree schema filter.leaves row row') :
    filter.evaluate schema row = filter.evaluate schema row' := by
  induction h with
  | compare left right _ =>
      rw [Filter.leaves] at hRows
      rw [evaluate, evaluate, left.evaluate_congr hRows.left, right.evaluate_congr hRows.right]
  | conj _ _ iha ihb =>
      rw [Filter.conj, Filter.leaves, leavesOf, leavesOf, leavesOf, List.append_nil] at hRows
      rw [evaluate_conj, evaluate_conj, accepts, accepts, accepts, accepts, iha hRows.left,
        ihb hRows.right]
  | neg _ ih =>
      rw [Filter.neg, Filter.leaves, leavesOf, leavesOf, List.append_nil] at hRows
      rw [evaluate_neg, evaluate_neg, accepts, accepts, ih hRows]

end Filter

/-- A filter of an accepted text reads the fields that it lists and nothing else: rows that have the
same under their names give the same result or the same fault. Each variable at a leaf is listed
once, in the order of first appearance. -/
theorem Request.filter_reads_fields {schema : Schema} {limits : Limits} {text : String}
    {view : View} (h : compileText limits schema text = .ok view) {v : VarId} {filter : Filter}
    (hFilter : view.filter? v = some filter) :
    (∀ row row', Filter.RowsAgree schema filter.fields row row' →
      filter.evaluate schema row = filter.evaluate schema row' ∧
        view.matchRow v row = view.matchRow v row') ∧
      filter.fields = filter.leaves.eraseDups ∧ filter.fields.Nodup ∧
        ∀ w, w ∈ filter.fields ↔ w ∈ filter.leaves := by
  obtain ⟨request, _, hWritable, hFinite, hCompile⟩ := compileText_ok h
  obtain ⟨hSchema, hBound⟩ := compile_filtersBound hWritable hFinite hCompile
  obtain ⟨segment, hFind, hOwn⟩ := Option.bind_eq_some_iff.mp hFilter
  have hFilterBound := hBound segment (View.mem_of_segment? hFind) filter hOwn
  refine ⟨fun row row' hRows => ?_, filter.fields_eq, ?_, fun _ => Filter.mem_fields⟩
  · have hLeaves : Filter.RowsAgree schema filter.leaves row row' :=
      fun w hw => hRows w (Filter.mem_fields.mpr hw)
    have hEvaluate := hFilterBound.evaluate_congr hLeaves
    refine ⟨hEvaluate, ?_⟩
    have hMatch (row : Row) : view.matchRow v row =
        view.whenFinished .matchRow (filter.accepts schema row) := by
      rw [View.matchRow, hFind, Option.bind_some, hOwn, hSchema]
    rw [hMatch, hMatch, Filter.accepts, Filter.accepts, hEvaluate]
  · rw [filter.fields_eq]
    exact View.nodup_eraseDups _

/-- Two rows that differ in a datum that no field of the filter names, and want the same one of
those that it reads. -/
theorem Request.filter_reads_fields_sample : ∃ view filter,
    compileText {} .sample "/q|5<n,m>1,n!=2" = .ok view ∧ view.filter? ⟨4⟩ = some filter ∧
      filter.fields = [⟨6⟩, ⟨5⟩] ∧
        view.matchRow ⟨4⟩ (.ofList [("k", .scalar (.int 1)), ("n", .scalar (.int 7))]) =
          view.matchRow ⟨4⟩ (.ofList [("n", .scalar (.int 7)), ("k", .array [])]) := by
  have hRun : ∃ view ∈ (compileText {} .sample "/q|5<n,m>1,n!=2").toOption,
      ∃ filter ∈ view.filter? ⟨4⟩, filter.fields = [⟨6⟩, ⟨5⟩] := by
    decide +kernel
  obtain ⟨view, hView, filter, hFilter, hFields⟩ := hRun
  have hView := eq_ok_of_mem_toOption hView
  refine ⟨view, filter, hView, hFilter, hFields, ?_⟩
  refine ((filter_reads_fields hView hFilter).1 _ _ ?_).2
  rw [hFields]
  intro v hv
  obtain rfl | rfl : v = ⟨6⟩ ∨ v = ⟨5⟩ := by simpa using hv
  · rfl
  · rfl

end Hyperslab
