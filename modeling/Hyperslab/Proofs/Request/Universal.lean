import Hyperslab.Proofs.View.Request
import Hyperslab.Proofs.View.Universal

/-! The text of the view of everything. It lists the variables of the groups by their names, and is
read as the same view where these names are distinct. -/
namespace Hyperslab

open Grammar

namespace Schema

variable {schema : Schema}

/-- The qualified names of the variables of groups, as a request writes them. -/
def namesText (schema : Schema) : String :=
  ";".intercalate (schema.topLevel.map fun v => Name.written (schema.varName v))

/-- The clause that names a variable of a group and nothing else. -/
def nameClause (schema : Schema) (v : VarId) : Clause :=
  .mk (.mk (schema.varName v) [] none []) none

/-- Qualified names begin with a slash. -/
theorem head?_groupName (schema : Schema) (g : GroupId) :
    (schema.groupName g).toList.head? = some '/' := by
  have hFold (path : List GroupId) (name : String) (hName : name.toList.head? = some '/') :
      (path.foldl (fun name h => name ++ (schema.group h).name ++ "/") name).toList.head? =
        some '/' := by
    induction path generalizing name with
    | nil => exact hName
    | cons h path ih =>
        refine ih _ ?_
        simp [hName]
  exact hFold _ "/" rfl

theorem head?_varName {v : VarId} (hTop : (schema.var v).isTopLevel = true) :
    (schema.varName v).toList.head? = some '/' := by
  rw [Variable.isTopLevel] at hTop
  split at hTop
  · next g hOwner =>
      rw [varName, hOwner]
      simp [head?_groupName]
  · cases hTop

theorem absolute_varName {v : VarId} (hTop : (schema.var v).isTopLevel = true) :
    absolute (schema.varName v) = schema.varName v :=
  if_pos (head?_varName hTop)

theorem varName_ne_empty {v : VarId} (hTop : (schema.var v).isTopLevel = true) :
    schema.varName v ≠ "" := by
  intro hEmpty
  have hHead := head?_varName hTop
  rw [hEmpty] at hHead
  cases hHead

/-- Where the names are distinct, each of them stands for its variable. -/
theorem denotes_varName (hNames : (schema.topLevel.map schema.varName).Nodup) {v : VarId}
    (hv : v ∈ schema.topLevel) : schema.Denotes none (schema.varName v) v := by
  have hSame := absolute_varName (mem_topLevel.mp hv).2
  refine .topLevel hv hSame.symm fun w hw hEq => ?_
  rw [hSame] at hEq
  exact List.inj_on_of_nodup_map hNames hw hv hEq

theorem toList_namesText (schema : Schema) : schema.namesText.toList =
    [';'].intercalate (schema.topLevel.map fun v => Name.escape (schema.varName v).toList) := by
  simp [namesText, Name.written, String.toList_intercalate, Function.comp_def]

/-- The names with semicolons between them are read as a clause for each. -/
theorem parse_namesText (schema : Schema) :
    Request.parse schema.namesText = .ok ⟨[], schema.topLevel.map schema.nameClause⟩ := by
  have hText (v : VarId) (hv : v ∈ schema.topLevel) (rest : List Char) :
      ClauseText (fun _ _ => False) (schema.nameClause v)
        (Name.escape (schema.varName v).toList ++ rest) rest :=
    .plain (.bare ⟨varName_ne_empty (mem_topLevel.mp hv).2, rest, Lexeme.tight _ rest, .nil rest⟩)
  have hRequest : RequestText (fun _ _ => False) ⟨[], schema.topLevel.map schema.nameClause⟩
      schema.namesText.toList := by
    rw [toList_namesText]
    by_cases hTops : schema.topLevel = []
    · rw [hTops]
      exact ⟨[], [], [], Blanks.nil, rfl, .nil [], Or.inl ⟨rfl, rfl⟩⟩
    · have hClauses : List.Forall₂ (fun v clause => ∀ rest, ClauseText (fun _ _ => False) clause
            (Name.escape (schema.varName v).toList ++ rest) rest)
          schema.topLevel (schema.topLevel.map schema.nameClause) :=
        List.forall₂_map_right_iff.mpr (List.forall₂_same.mpr hText)
      exact ⟨[], _, _, Blanks.nil, rfl, .nil _, Or.inr (View.clausesText hClauses hTops)⟩
  rw [← String.ofList_toList (s := schema.namesText)]
  exact Request.parse_requestText hRequest nofun

end Schema

namespace View

variable {schema : Schema} {view : View} {limits : Limits}

/-- A clause that is a name selects what the name stands for. -/
theorem selectClause_nameClause (hTree : schema.Tree)
    (hNames : (schema.topLevel.map schema.varName).Nodup) {v : VarId} (hv : v ∈ schema.topLevel)
    (hSchema : view.schema = schema) :
    selectClause limits view none (schema.nameClause v) = (view.addVariable v []).toExcept := by
  have hResolve : view.schema.resolve none (schema.varName v) = .ok v := by
    rw [hSchema]
    exact Schema.resolve_of_denotes hTree (Schema.denotes_varName hNames hv)
  rw [Schema.nameClause, selectClause, select, hResolve]
  change ((view.addVariable v []).toExcept >>= fun view => _) >>= _ = _
  cases (view.addVariable v []).toExcept with
  | error fault => rfl
  | ok view' => rfl

theorem selectAll_nameClauses (hTree : schema.Tree)
    (hNames : (schema.topLevel.map schema.varName).Nodup) {vs : List VarId}
    (hTop : ∀ v ∈ vs, v ∈ schema.topLevel) (hSchema : view.schema = schema) :
    selectAll limits view (vs.map schema.nameClause) = view.addAll vs := by
  induction vs generalizing view with
  | nil => rfl
  | cons v vs ih =>
      rw [List.map_cons, selectAll, addAll,
        selectClause_nameClause hTree hNames (hTop v (by simp)) hSchema]
      cases hAdd : (view.addVariable v []).toExcept with
      | error fault => rfl
      | ok view' =>
          exact ih (fun w hw => hTop w (by simp [hw])) ((addVariable_schema hAdd).trans hSchema)

/-- The selected variables of groups are those of the schema. -/
theorem tops_everything (hTree : schema.Tree) : (everything schema).tops = schema.topLevel := by
  let missing := missingBelow schema schema.vars.size schema.topLevel (roots schema).bareCompounds
  have hVars : (everything schema).vars = schema.topLevel ++ missing := by
    rw [vars_everything, vars_expanded, vars_roots]
    rfl
  have hTops : schema.topLevel.filter (fun v => (schema.var v).isTopLevel) = schema.topLevel :=
    List.filter_eq_self.mpr fun v hv => (Schema.mem_topLevel.mp hv).2
  have hFields : missing.filter (fun v => (schema.var v).isTopLevel) = [] := by
    rw [List.filter_eq_nil_iff]
    intro v hv
    obtain ⟨c, hField⟩ := field_of_missingBelow _ hv
    simp [hTree.not_isTopLevel_of_below (.field hField)]
  rw [tops, hVars, List.filter_append]
  exact (congrArg₂ (· ++ ·) hTops hFields).trans (List.append_nil _)

/-- A variable of a group is written as its name. -/
theorem clauseChars_everything (hSchema : schema.Declared) {v : VarId} (hv : v ∈ schema.topLevel) :
    (everything schema).clauseChars v = Name.escape (schema.varName v).toList := by
  have hTree := hSchema.tree
  obtain ⟨hId, hTop⟩ := Schema.mem_topLevel.mp hv
  have hVars := (covers_everything hSchema).vars
  have hInStep := inStep_everything schema
  have hMem : Segment.entire schema v ∈ (everything schema).segments :=
    mem_everything.mpr ⟨v, hVars.mem_iff.mpr hId, rfl⟩
  have hListed : (everything schema).listed v = [] := by
    have hWhole : (everything schema).isWhole v = true :=
      (isWhole_iff hTree hInStep v).mpr (whole_everything hTree hSchema.complete v)
    rw [listed, hWhole]
    simp
  have hSlices : slicesChars (Segment.entire schema v).slices = [] :=
    if_neg (by simp [Segment.entire, Slice.full])
  have hName : (everything schema).nameChars v = Name.escape (schema.varName v).toList := by
    have hNamed : ((everything schema).schema.var v).isTopLevel = true := hTop
    simp only [nameChars, hNamed, if_true]
    rfl
  have hChars : (everything schema).clauseChars v =
      (everything schema).nameChars v ++ slicesChars (Segment.entire schema v).slices ++
        (if ((everything schema).listed v).isEmpty then []
          else '\x7b' :: [';'].intercalate (((everything schema).listed v).map
            (everything schema).clauseChars) ++ ['\x7d']) ++ filterChars none :=
    clauseChars_eq hTree hInStep hMem
  rw [hChars, hName, hSlices, hListed]
  simp [filterChars]

/-- The text of the view of everything. -/
theorem requestText_everything (hSchema : schema.Declared) :
    (everything schema).requestText = .ok schema.namesText := by
  have hClauses : (everything schema).tops.map (everything schema).clauseChars =
      schema.topLevel.map fun v => Name.escape (schema.varName v).toList := by
    rw [tops_everything hSchema.tree]
    exact List.map_congr_left fun v hv => clauseChars_everything hSchema hv
  have hChars : (everything schema).requestChars = schema.namesText.toList := by
    rw [Schema.toList_namesText, ← hClauses]
    rfl
  rw [requestText, hChars, String.ofList_toList]
  rfl

/-- The text is compiled to the view again. -/
theorem compileText_namesText (hSchema : schema.Declared)
    (hNames : (schema.topLevel.map schema.varName).Nodup)
    (hLimit : ∀ limit ∈ limits.elements?, ∀ segment ∈ (everything schema).segments,
      segment.count ≤ limit) :
    Request.compileText limits schema schema.namesText = .ok (everything schema) := by
  have hSelected : selectAll limits (empty schema) (schema.topLevel.map schema.nameClause) =
      .ok (roots schema) := by
    rw [selectAll_nameClauses hSchema.tree hNames (fun _ hv => hv) rfl]
    exact addAll_topLevel schema
  rw [Request.compileText, Schema.parse_namesText]
  exact Request.compile_iff.mpr
    ⟨⟨empty schema, roots schema, rfl, hSelected, finish_roots schema⟩, hLimit⟩

/-- Every schema that is declared has a view of everything. It selects each variable once, whole,
and refers to all that the variables use. Its text lists the names of the variables of groups, and
where these are distinct, the text is compiled to the same view. -/
theorem universal_complete (hSchema : schema.Declared) : ∃ view,
    universal schema = .ok view ∧ view.Covers schema ∧
      view.requestText = .ok schema.namesText ∧
        ((schema.topLevel.map schema.varName).Nodup → ∀ limits : Limits,
          (∀ limit ∈ limits.elements?, ∀ segment ∈ view.segments, segment.count ≤ limit) →
            Request.compileText limits schema schema.namesText = .ok view) :=
  ⟨everything schema, universal_eq schema, covers_everything hSchema,
    requestText_everything hSchema, fun hNames _ hLimit =>
      compileText_namesText hSchema hNames hLimit⟩

/-- A compound in a group, and variables with shared and anonymous dimensions. -/
theorem universal_complete_gallery : Schema.gallery.Declared ∧
    (Schema.gallery.topLevel.map Schema.gallery.varName).Nodup ∧
      ∃ view, universal .gallery = .ok view ∧ view.Covers .gallery ∧
        view.vars = [⟨0⟩, ⟨2⟩, ⟨3⟩, ⟨1⟩] ∧ view.requestText = .ok "/a/b/r;/w;/c/u" ∧
          Request.compileText {} .gallery "/a/b/r;/w;/c/u" = .ok view := by
  have hNames : (Schema.gallery.topLevel.map Schema.gallery.varName).Nodup := by decide +kernel
  have hRun : Schema.gallery.namesText = "/a/b/r;/w;/c/u" ∧
      ∃ view ∈ (universal .gallery).toOption, view.vars = [⟨0⟩, ⟨2⟩, ⟨3⟩, ⟨1⟩] := by
    decide +kernel
  obtain ⟨hText, other, hOther, hVars⟩ := hRun
  obtain ⟨view, hView, hCovers, hWritten, hCompiled⟩ :=
    universal_complete Schema.gallery_grounded.declared
  have hSame : other = view := Except.ok.inj ((eq_ok_of_mem_toOption hOther).symm.trans hView)
  rw [hText] at hWritten hCompiled
  exact ⟨Schema.gallery_grounded.declared, hNames, view, hView, hCovers, hSame ▸ hVars, hWritten,
    hCompiled hNames {} nofun⟩

end View

end Hyperslab
