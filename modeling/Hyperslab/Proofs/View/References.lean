import Hyperslab.Proofs.Schema.Group
import Hyperslab.Proofs.View.Extent

/-! The nodes that a finished view refers to. They are what a reader needs to describe the selected
variables: the dimensions that are resized or taken whole, the enumerations among the types, and the
groups around all of these. -/
namespace Hyperslab.View

/-- Some variable of the finished view has the dimension at a position that the view was not asked
to slice. -/
def TakesWhole (view finished : View) (d : DimId) : Prop :=
  ∃ v ∈ finished.vars, ∃ j : Nat, (view.schema.var v).dims[j]? = some d ∧
    (view.requested v j).constrained = false

/-- What a finished view refers to, in terms of what the view was asked for. -/
structure Collects (view finished : View) : Prop where
  nodup_dims : finished.collected.dims.Nodup
  nodup_enums : finished.collected.enums.Nodup
  nodup_groups : finished.collected.groups.Nodup
  dims : ∀ d, d ∈ finished.collected.dims ↔ (∃ slice, (d, slice) ∈ finished.resizes) ∨
    (view.schema.dimension d).isShared = true ∧ view.TakesWhole finished d
  enums : ∀ e, e ∈ finished.collected.enums ↔
    ∃ v ∈ finished.vars, (view.schema.var v).kind = .atomic (.enumerated e)
  groups : ∀ g, g ∈ finished.collected.groups ↔
    (∃ v ∈ finished.vars, ∃ h, view.schema.Holds h v ∧ view.schema.Encloses g h) ∨
      (∃ d ∈ finished.collected.dims, ∃ h name,
        (view.schema.dimension d).home = some (h, name) ∧ view.schema.Encloses g h) ∨
        ∃ e ∈ finished.collected.enums, view.schema.Encloses g (view.schema.enumeration e).group
  parents : ∀ g ∈ finished.collected.groups, ∀ p, (view.schema.group g).parent = some p →
    p ∈ finished.collected.groups
  nodup_nodes : finished.nodes.Nodup
  nodes : ∀ node, node ∈ finished.nodes ↔ (∃ d ∈ finished.collected.dims, node = .dimension d) ∨
    (∃ e ∈ finished.collected.enums, node = .enumeration e) ∨ ∃ v ∈ finished.vars, node = .var v
  refersTo : ∀ node, finished.refersTo node = true ↔
    node ∈ finished.nodes ∨ ∃ g ∈ finished.collected.groups, node = .group g

variable {view finished : View}

/-- References are those of the expanded view, and resizing is over before. -/
theorem finish_collected (h : view.finish.toExcept = .ok finished) :
    finished.collected = view.expanded.collectReferences ∧ finished.resizes = view.resizes := by
  obtain ⟨_, segments, _, rfl⟩ := finish_ok h
  exact ⟨rfl, rfl⟩

theorem mem_positions {segment : Segment} {slice : Slice} {d : DimId} :
    (slice, d) ∈ view.positions segment ↔
      ∃ j : Nat, (view.schema.var segment.var).dims[j]? = some d ∧
        slice = segment.slices[j]?.getD .whole := by
  have hPositions : view.positions segment = view.schema.positions segment.var segment.slices := rfl
  rw [hPositions, List.mem_iff_getElem?]
  constructor
  · rintro ⟨j, hPosition⟩
    obtain ⟨_, hDim⟩ := List.getElem?_zip_eq_some.mp hPosition
    rw [Schema.getElem?_positions hDim] at hPosition
    cases hPosition
    exact ⟨j, hDim, rfl⟩
  · rintro ⟨j, hDim, rfl⟩
    exact ⟨j, Schema.getElem?_positions hDim _⟩

theorem mem_referredDims {d : DimId} : d ∈ view.referredDims ↔
    (∃ slice, (d, slice) ∈ view.resizes) ∨ (view.schema.dimension d).isShared = true ∧
      ∃ segment ∈ view.segments, ∃ slice, (slice, d) ∈ view.positions segment ∧
        slice.constrained = false := by
  refine mem_foldl_enterOnce.trans (or_congr ?_ ?_)
  · simp [List.mem_map]
  · simp only [List.mem_flatMap, List.mem_filterMap]
    constructor
    · rintro ⟨segment, hSegment, ⟨slice, e⟩, hPosition, hTaken⟩
      simp only [Option.ite_none_right_eq_some, Bool.and_eq_true, Bool.not_eq_true'] at hTaken
      obtain ⟨⟨hWhole, hShared⟩, hSame⟩ := hTaken
      cases hSame
      exact ⟨hShared, segment, hSegment, slice, hPosition, hWhole⟩
    · rintro ⟨hShared, segment, hSegment, slice, hPosition, hWhole⟩
      exact ⟨segment, hSegment, (slice, d), hPosition, by simp [hWhole, hShared]⟩

/-- No dimension is resized twice, and none is entered behind itself. -/
theorem Coherent.nodup_referredDims (h : view.Coherent) : view.referredDims.Nodup :=
  nodup_foldl_enterOnce _ h.nodup_resizes

theorem mem_referredEnums {e : EnumId} : e ∈ view.referredEnums ↔
    ∃ v ∈ view.vars, (view.schema.var v).kind = .atomic (.enumerated e) := by
  simp only [referredEnums, List.mem_eraseDups, List.mem_filterMap]
  refine exists_congr fun v => and_congr_right fun _ => ?_
  cases (view.schema.var v).kind with
  | atomic type => cases type <;> simp [AtomicType.enumeration?]
  | record | sequence => simp

theorem mem_referredGroups {dims : List DimId} {enums : List EnumId} {g : GroupId} :
    g ∈ view.referredGroups dims enums ↔
      (∃ v ∈ view.vars, g ∈ view.schema.rootPath (view.schema.owningGroup v)) ∨
        (∃ d ∈ dims, ∃ h name, (view.schema.dimension d).home = some (h, name) ∧
          g ∈ view.schema.rootPath h) ∨
          ∃ e ∈ enums, g ∈ view.schema.rootPath (view.schema.enumeration e).group := by
  simp only [referredGroups, List.mem_eraseDups, List.mem_flatMap, List.mem_append, List.mem_map,
    List.mem_filterMap, Option.map_eq_some_iff, Prod.exists, or_assoc]
  constructor
  · rintro ⟨h, ⟨v, hv, rfl⟩ | ⟨d, hd, h', name, hHome, rfl⟩ | ⟨e, he, rfl⟩, hPath⟩
    · exact Or.inl ⟨v, hv, hPath⟩
    · exact Or.inr (Or.inl ⟨d, hd, h', name, hHome, hPath⟩)
    · exact Or.inr (Or.inr ⟨e, he, hPath⟩)
  · rintro (⟨v, hv, hPath⟩ | ⟨d, hd, h, name, hHome, hPath⟩ | ⟨e, he, hPath⟩)
    · exact ⟨_, Or.inl ⟨v, hv, rfl⟩, hPath⟩
    · exact ⟨_, Or.inr (Or.inl ⟨d, hd, h, name, hHome, rfl⟩), hPath⟩
    · exact ⟨_, Or.inr (Or.inr ⟨e, he, rfl⟩), hPath⟩

/-- The dimensions that a finished view refers to are resized or taken whole. -/
theorem InStep.mem_dims (h : view.InStep)
    (hFinish : view.finish.toExcept = .ok finished) (d : DimId) : d ∈ finished.collected.dims ↔
      (∃ slice, (d, slice) ∈ finished.resizes) ∨
        (view.schema.dimension d).isShared = true ∧ view.TakesWhole finished d := by
  obtain ⟨hCollected, hResizes⟩ := finish_collected hFinish
  have hDims : finished.collected.dims = view.expanded.referredDims := by rw [hCollected]; rfl
  rw [hDims, mem_referredDims, hResizes]
  refine or_congr Iff.rfl (and_congr_right fun _ => ?_)
  rw [TakesWhole, finish_vars hFinish]
  constructor
  · rintro ⟨segment, hSegment, slice, hPosition, hWhole⟩
    obtain ⟨j, hDim, rfl⟩ := mem_positions.mp hPosition
    rw [← h.requested_eq hSegment] at hWhole
    exact ⟨segment.var, h.expanded.mem_vars hSegment, j, hDim, hWhole⟩
  · rintro ⟨v, hv, j, hDim, hWhole⟩
    obtain ⟨segment, hSegment, rfl⟩ := h.expanded.exists_segment hv
    rw [h.requested_eq hSegment] at hWhole
    exact ⟨segment, hSegment, _, mem_positions.mpr ⟨j, hDim, rfl⟩, hWhole⟩

theorem finish_enums (hFinish : view.finish.toExcept = .ok finished) (e : EnumId) :
    e ∈ finished.collected.enums ↔
      ∃ v ∈ finished.vars, (view.schema.var v).kind = .atomic (.enumerated e) := by
  obtain ⟨hCollected, _⟩ := finish_collected hFinish
  rw [hCollected, finish_vars hFinish]
  exact mem_referredEnums

theorem finish_groups (hFinish : view.finish.toExcept = .ok finished) (g : GroupId) :
    g ∈ finished.collected.groups ↔
      (∃ v ∈ finished.vars, g ∈ view.schema.rootPath (view.schema.owningGroup v)) ∨
        (∃ d ∈ finished.collected.dims, ∃ h name,
          (view.schema.dimension d).home = some (h, name) ∧ g ∈ view.schema.rootPath h) ∨
          ∃ e ∈ finished.collected.enums,
            g ∈ view.schema.rootPath (view.schema.enumeration e).group := by
  obtain ⟨hCollected, _⟩ := finish_collected hFinish
  rw [hCollected, finish_vars hFinish]
  exact mem_referredGroups

/-- What comes from lists without repetition, and from different ones, is not repeated. -/
theorem nodup_nodes (hDims : view.collected.dims.Nodup) (hEnums : view.collected.enums.Nodup)
    (hVars : view.vars.Nodup) : view.nodes.Nodup := by
  have hDims : (view.collected.dims.map Node.dimension).Nodup :=
    hDims.map fun _ _ hSame => Node.dimension.inj hSame
  have hEnums : (view.collected.enums.map Node.enumeration).Nodup :=
    hEnums.map fun _ _ hSame => Node.enumeration.inj hSame
  have hVars : (view.vars.map Node.var).Nodup := hVars.map fun _ _ hSame => Node.var.inj hSame
  refine List.nodup_append.mpr ⟨List.nodup_append.mpr ⟨hDims, hEnums, ?_⟩, hVars, ?_⟩
  · simp
  · rintro node hNode _ hVar rfl
    obtain ⟨v, _, rfl⟩ := List.mem_map.mp hVar
    simp at hNode

theorem mem_nodes {node : Node} : node ∈ view.nodes ↔
    (∃ d ∈ view.collected.dims, node = .dimension d) ∨
      (∃ e ∈ view.collected.enums, node = .enumeration e) ∨ ∃ v ∈ view.vars, node = .var v := by
  simp only [nodes, List.mem_append, List.mem_map, or_assoc, eq_comm]

theorem refersTo_iff {node : Node} : view.refersTo node = true ↔
    node ∈ view.nodes ∨ ∃ g ∈ view.collected.groups, node = .group g := by
  rw [mem_nodes]
  cases node <;> simp [refersTo, selects]

/-- The groups of the references, as what holds the variables and what encloses it. -/
theorem mem_groups (hSchema : view.schema.Grounded) (hFinish : view.finish.toExcept = .ok finished)
    (g : GroupId) : g ∈ finished.collected.groups ↔
      (∃ v ∈ finished.vars, ∃ h, view.schema.Holds h v ∧ view.schema.Encloses g h) ∨
        (∃ d ∈ finished.collected.dims, ∃ h name,
          (view.schema.dimension d).home = some (h, name) ∧ view.schema.Encloses g h) ∨
          ∃ e ∈ finished.collected.enums,
            view.schema.Encloses g (view.schema.enumeration e).group := by
  have hHolds (v : VarId) : g ∈ view.schema.rootPath (view.schema.owningGroup v) ↔
      ∃ h, view.schema.Holds h v ∧ view.schema.Encloses g h := by
    have hDeclared := hSchema.declared
    simp only [← Schema.owningGroup_eq_iff hDeclared.tree hDeclared.complete,
      ← hSchema.groupsOrdered.mem_rootPath, exists_eq_left']
  simp only [finish_groups hFinish, hHolds, hSchema.groupsOrdered.mem_rootPath]

/-- With a group, the references have the group around it. -/
theorem parent_mem_groups (hSchema : view.schema.Grounded)
    (hFinish : view.finish.toExcept = .ok finished) {g p : GroupId}
    (hMem : g ∈ finished.collected.groups) (hParent : (view.schema.group g).parent = some p) :
    p ∈ finished.collected.groups := by
  have hOuter {h : GroupId} (hEncloses : view.schema.Encloses g h) : view.schema.Encloses p h :=
    hEncloses.outer hParent
  rw [mem_groups hSchema hFinish] at hMem ⊢
  rcases hMem with ⟨v, hv, h, hHolds, hEncloses⟩ | ⟨d, hd, h, name, hHome, hEncloses⟩ |
    ⟨e, he, hEncloses⟩
  · exact Or.inl ⟨v, hv, h, hHolds, hOuter hEncloses⟩
  · exact Or.inr (Or.inl ⟨d, hd, h, name, hHome, hOuter hEncloses⟩)
  · exact Or.inr (Or.inr ⟨e, he, hOuter hEncloses⟩)

theorem Coherent.collects (h : view.Coherent) (hSchema : view.schema.Grounded)
    (hFinish : view.finish.toExcept = .ok finished) : view.Collects finished := by
  have hExpanded := h.steps (h.expanded_steps hSchema.declared.tree)
  obtain ⟨hCollected, _⟩ := finish_collected hFinish
  have hDims : finished.collected.dims.Nodup := by
    rw [hCollected]
    exact hExpanded.nodup_referredDims
  have hEnums : finished.collected.enums.Nodup := by
    rw [hCollected]
    exact nodup_eraseDups _
  have hVars : finished.vars.Nodup := by
    rw [finish_vars hFinish]
    exact hExpanded.nodup
  constructor
  · exact hDims
  · exact hEnums
  · rw [hCollected]
    exact nodup_eraseDups _
  · exact h.mem_dims hFinish
  · exact finish_enums hFinish
  · exact mem_groups hSchema hFinish
  · intro g hMem p
    exact parent_mem_groups hSchema hFinish hMem
  · exact nodup_nodes hDims hEnums hVars
  · exact fun _ => mem_nodes
  · exact fun _ => refersTo_iff

/-- Whatever edits a view has seen when it is finished, its references are the dimensions that are
resized or taken whole, the enumerations among the types of its variables, and the groups around all
of these, each once. -/
theorem finish_references {schema : Schema} (hSchema : schema.Grounded) (edits : List Edit)
    {finished : View} (hFinish : ((empty schema).applyAll edits).finish.toExcept = .ok finished) :
    ((empty schema).applyAll edits).Collects finished := by
  obtain ⟨hSame, hCoherent, _⟩ := reached_coherent hSchema.declared edits
  exact hCoherent.collects (hSame.symm ▸ hSchema) hFinish

/-- Edits that resize a dimension, slice the variable that has it, and select a compound. -/
def galleryEdits : List Edit :=
  [.addResize ⟨1⟩ (.range 0 2 (some 5)), .addVariable ⟨2⟩ [.index 1], .addVariable ⟨0⟩ []]

/-- A dimension that is resized is referred to although it is taken whole nowhere. -/
theorem finish_references_gallery : Schema.gallery.Grounded ∧ ∃ finished,
    ((empty .gallery).applyAll galleryEdits).finish.toExcept = .ok finished ∧
      finished.collected = ⟨[⟨1⟩, ⟨0⟩], [⟨0⟩], [⟨0⟩, ⟨1⟩, ⟨2⟩]⟩ ∧
        ((empty .gallery).applyAll galleryEdits).Collects finished := by
  have hRun : ∃ finished ∈ ((empty .gallery).applyAll galleryEdits).finish.toExcept.toOption,
      finished.collected = ⟨[⟨1⟩, ⟨0⟩], [⟨0⟩], [⟨0⟩, ⟨1⟩, ⟨2⟩]⟩ := by
    decide +kernel
  obtain ⟨finished, hFinished, hCollected⟩ := hRun
  have hFinish := eq_ok_of_mem_toOption hFinished
  exact ⟨Schema.gallery_grounded, finished, hFinish, hCollected,
    finish_references Schema.gallery_grounded galleryEdits hFinish⟩

end Hyperslab.View
