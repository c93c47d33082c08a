import Hyperslab.Proofs.Request.Universal
import Hyperslab.Proofs.Schema.Group

/-! The groups and the variables of a schema as two forests. Every entry refers to nodes before it,
so that what holds a node has the smaller number, and a walk from a node to what holds it ends. -/
namespace Hyperslab.Schema

/-- How the nodes of a schema hold each other. Only the root is in no group, and what holds a node
has a smaller number. A compound lists the variables that name it, and nothing else has fields. -/
structure Forest (s : Schema) : Prop where
  group_lt : ∀ {g p : GroupId}, (s.group g).parent = some p → p.index < g.index
  root_only : ∀ {g : GroupId}, g ∈ s.groupIds → ((s.group g).parent = none ↔ g = root)
  home : ∀ {v : VarId} {g : GroupId}, v ∈ s.varIds → (s.var v).owner = .group g → g ∈ s.groupIds
  compound_lt : ∀ {v c : VarId}, (s.var v).owner = .compound c → c.index < v.index
  isCompound : ∀ {v c : VarId}, (s.var v).owner = .compound c → (s.var c).isCompound = true
  fields : ∀ c : VarId, (s.var c).fields = s.varIds.filter fun v => (s.var v).owner = .compound c
  nodup_fields : ∀ c : VarId, (s.var c).fields.Nodup
  no_fields : ∀ {c : VarId}, (s.var c).isCompound = false → (s.var c).fields = []

theorem mem_groupIds {s : Schema} {g : GroupId} : g ∈ s.groupIds ↔ g.index < s.groups.size := by
  simp only [groupIds, List.mem_map, List.mem_range]
  exact ⟨fun ⟨_, hLt, hEq⟩ => hEq ▸ hLt, fun hLt => ⟨_, hLt, rfl⟩⟩

theorem pairwise_varIds (s : Schema) : s.varIds.Pairwise fun v w => v.index < w.index :=
  List.pairwise_map.mpr List.pairwise_lt_range

/-- What has an owner among the compounds is there. -/
theorem mem_varIds_of_owner {s : Schema} {v c : VarId} (hOwner : (s.var v).owner = .compound c) :
    v ∈ s.varIds := by
  apply mem_varIds.mpr
  apply Nat.lt_of_not_le
  intro hLe
  rw [var_of_size_le hLe] at hOwner
  cases hOwner

/-- The name of a variable of a group is a slash and something else. -/
theorem exists_rest {s : Schema} {v : VarId} (hTop : (s.var v).isTopLevel = true) :
    ∃ rest, s.varName v = "/" ++ rest := by
  obtain ⟨rest, hRest⟩ := List.head?_eq_some_iff.mp (head?_varName hTop)
  exact ⟨String.ofList rest, String.toList_inj.mp (by simp [hRest])⟩

/-- The fields of a compound are the variables that name it, in the order of their declaration. -/
theorem Declared.fields_eq {s : Schema} (h : s.Declared) (c : VarId) :
    (s.var c).fields = s.varIds.filter fun v => (s.var v).owner = .compound c := by
  have hMem (v : VarId) :
      v ∈ (s.var c).fields ↔ v ∈ s.varIds.filter fun v => (s.var v).owner = .compound c := by
    rw [List.mem_filter, decide_eq_true_eq]
    constructor
    · intro hField
      exact ⟨mem_varIds.mpr (h.tree.lt_size hField), h.tree.owner hField⟩
    · rintro ⟨_, hOwner⟩
      exact h.complete c v hOwner
  have hPerm := (List.perm_ext_iff_of_nodup (h.nodup_fields c)
    ((nodup_varIds s).filter fun v => (s.var v).owner = .compound c)).mpr hMem
  refine hPerm.eq_of_pairwise ?_ (h.pairwise_fields c) ((pairwise_varIds s).filter _)
  intro v w _ _ hLt hGt
  exact absurd hGt (Nat.lt_asymm hLt)

/-- All groups but the root are in one. -/
def RootOnly (s : Schema) : Prop :=
  0 < s.groups.size ∧ ∀ g : GroupId, g ∈ s.groupIds → ((s.group g).parent = none ↔ g = root)

theorem Grounded.rootOnly {s : Schema} (h : s.Grounded) : s.RootOnly := by
  refine h.induction (P := RootOnly) (fun name => ?_) fun {s s' entry} hs _ hOk => ?_
  · refine ⟨Nat.one_pos, fun g hg => ?_⟩
    have hRoot : g = root := congrArg GroupId.mk (Nat.lt_one_iff.mp (mem_groupIds.mp hg))
    simp [hRoot, group, root, empty]
  · rcases groups_of_declare hOk with hSame | ⟨parent, name, rfl, hPush⟩
    · rw [RootOnly, groupIds, hSame]
      simp only [group, hSame]
      exact hs
    · have hSize : s'.groups.size = s.groups.size + 1 := by simp [hPush]
      refine ⟨by omega, fun g hg => ?_⟩
      rw [group, hPush, Array.getD_eq_getD_getElem?, Array.getElem?_push]
      split
      · next hNew =>
          have hNe : g ≠ root := by
            rintro rfl
            have hPos := hs.1
            rw [← hNew] at hPos
            exact Nat.lt_irrefl _ hPos
          simp [hNe]
      · next hOld =>
          have hLt := mem_groupIds.mp hg
          have hBefore : g ∈ s.groupIds := mem_groupIds.mpr (by omega)
          rw [← hs.2 g hBefore, group, Array.getD_eq_getD_getElem?]

/-- Only the entry of a variable adds one, behind the others, and none changes what holds those. -/
theorem owner_of_declare {s s' : Schema} {entry : Declaration} (h : s.declare entry = .ok s') :
    s'.vars = s.vars ∨ ∃ owner name kind dims, entry = .var owner name kind dims ∧
      s'.vars.size = s.vars.size + 1 ∧
        ∀ v, (s'.var v).owner = if v.index = s.vars.size then owner else (s.var v).owner := by
  cases entry with
  | group | dimension | anonymous | enumeration =>
      cases h
      exact Or.inl rfl
  | var owner name kind dims =>
      refine Or.inr ⟨owner, name, kind, dims, rfl, ?_⟩
      cases owner with
      | group g =>
          cases h
          refine ⟨by simp [pushVar], fun v => ?_⟩
          rw [var_pushVar]
          split <;> rfl
      | compound c =>
          simp only [Schema.declare] at h
          split at h
          · next hCompound =>
              cases h
              refine ⟨by simp [pushVar, addField], fun v => ?_⟩
              rw [var_pushField hCompound]
              split
              · rfl
              · split
                · next hEq => rw [hEq]
                · rfl
          · cases h

/-- No entry takes a group away. -/
theorem groupIds_of_declare {s s' : Schema} {entry : Declaration} (h : s.declare entry = .ok s')
    {g : GroupId} (hg : g ∈ s.groupIds) : g ∈ s'.groupIds := by
  rw [mem_groupIds] at hg ⊢
  rcases groups_of_declare h with hSame | ⟨parent, name, _, hPush⟩
  · rwa [hSame]
  · rw [hPush, Array.size_push]
    exact Nat.lt_succ_of_lt hg

/-- Variables lie in groups of the schema. -/
def Housed (s : Schema) : Prop :=
  ∀ v g, v ∈ s.varIds → (s.var v).owner = .group g → g ∈ s.groupIds

theorem Grounded.housed {s : Schema} (h : s.Grounded) : s.Housed := by
  refine h.induction (P := Housed) (fun name v g hv => ?_) ?_
  · exact absurd (mem_varIds.mp hv) (Nat.not_lt_zero _)
  · intro s s' entry hs hInRange hOk v g hv hOwner
    apply groupIds_of_declare hOk
    rcases owner_of_declare hOk with hSame | ⟨owner, name, kind, dims, rfl, hSize, hOwners⟩
    · rw [varIds, hSame] at hv
      rw [var, hSame] at hOwner
      exact hs v g hv hOwner
    · rw [hOwners] at hOwner
      split at hOwner
      · cases hOwner
        simp only [Declaration.inRange, Owner.inRange, Bool.and_eq_true] at hInRange
        exact mem_groupIds.mpr (of_decide_eq_true hInRange.1.1)
      · next hNe =>
          have hLt := mem_varIds.mp hv
          exact hs v g (mem_varIds.mpr (by omega)) hOwner

theorem Grounded.forest {s : Schema} (h : s.Grounded) : s.Forest where
  group_lt hParent := h.groupsOrdered _ _ hParent
  root_only hg := h.rootOnly.2 _ hg
  home hv hOwner := h.housed _ _ hv hOwner
  compound_lt hOwner := h.declared.tree.after (h.declared.complete _ _ hOwner)
  isCompound hOwner := h.declared.tree.isCompound (h.declared.complete _ _ hOwner)
  fields := h.declared.fields_eq
  nodup_fields := h.declared.nodup_fields
  no_fields {c} hAtomic := by
    apply List.eq_nil_iff_forall_not_mem.mpr
    intro f hField
    rw [h.declared.tree.isCompound hField] at hAtomic
    cases hAtomic

/-- The walk from a variable to what holds it, up to a group, for a number of rounds at most. -/
def owningGroupFor (s : Schema) : Nat → VarId → Option GroupId
  | 0, _ => none
  | rounds + 1, v =>
    match (s.var v).owner with
    | .group g => some g
    | .compound c => s.owningGroupFor rounds c

/-- The walk from a group to the one around it, up to one that is in none. The groups that it has
come through are turned around at its end. -/
def rootPathFor (s : Schema) : Nat → GroupId → List GroupId → Option (List GroupId)
  | 0, _, _ => none
  | rounds + 1, g, path =>
    match (s.group g).parent with
    | some p => s.rootPathFor rounds p (path ++ [p])
    | none => some path.reverse

/-- The name of a group from a walk of so many rounds. -/
def groupNameFor (s : Schema) (rounds : Nat) (g : GroupId) : Option String :=
  (s.rootPathFor rounds g [g]).map fun path =>
    (path.drop 1).foldl (fun name h => name ++ (s.group h).name ++ "/") "/"

/-- The name of a variable from names of compounds around it, so many inside each other. -/
def varNameFor (s : Schema) (rounds : Nat) : Nat → VarId → Option String
  | 0, _ => none
  | depth + 1, v =>
    match (s.var v).owner with
    | .group g => (s.groupNameFor rounds g).map (· ++ (s.var v).name)
    | .compound c => (s.varNameFor rounds depth c).map (· ++ "." ++ (s.var v).name)

/-- The walks of a schema end after as many rounds as their node has nodes before it, each with the
one right answer, and what they find is found again. -/
structure Walks (s : Schema) : Prop where
  owningGroup : ∀ v ∈ s.varIds, ∀ rounds, v.index < rounds →
    s.owningGroupFor rounds v = some (s.owningGroup v)
  rootPath : ∀ g ∈ s.groupIds, ∀ rounds, g.index < rounds →
    s.rootPathFor rounds g [g] = some (s.rootPath g)
  varName : ∀ v ∈ s.varIds, ∀ rounds depth, s.groups.size ≤ rounds → v.index < depth →
    s.varNameFor rounds depth v = some (s.varName v)
  ancestor : ∀ v ∈ s.varIds, ∃ t ∈ s.topLevel, (v = t ∨ s.Below t v) ∧
    (s.var t).owner = .group (s.owningGroup v) ∧ s.owningGroup t = s.owningGroup v ∧
      ∀ u ∈ s.topLevel, v = u ∨ s.Below u v → u = t
  path : ∀ g ∈ s.groupIds, (s.rootPath g).head? = some root ∧ (s.rootPath g).getLast? = some g ∧
    (s.rootPath g).Nodup
  found : ∀ v ∈ s.topLevel, v ∈ s.findVars (s.varName v) ∧ ∃ rest, s.varName v = "/" ++ rest ∧
    (rest.toList.head? ≠ some '/' → v ∈ s.findVars rest)

namespace Forest

variable {s : Schema} (h : s.Forest)
include h

theorem mem_fields {c f : VarId} : f ∈ (s.var c).fields ↔ (s.var f).owner = .compound c := by
  rw [h.fields, List.mem_filter, decide_eq_true_eq]
  exact ⟨And.right, fun hOwner => ⟨mem_varIds_of_owner hOwner, hOwner⟩⟩

theorem tree : s.Tree where
  after hField := h.compound_lt (h.mem_fields.mp hField)
  lt_size hField := mem_varIds.mp (mem_varIds_of_owner (h.mem_fields.mp hField))
  owner hField := h.mem_fields.mp hField
  isCompound hField := h.isCompound (h.mem_fields.mp hField)

theorem complete : s.Complete := fun _ _ hOwner => h.mem_fields.mpr hOwner

theorem owningGroupFor_eq (v : VarId) {rounds : Nat} (hRounds : v.index < rounds) :
    s.owningGroupFor rounds v = some (s.owningGroup v) := by
  induction v using owningGroup.induct s generalizing rounds with
  | case1 v g hOwner =>
      obtain ⟨rounds, rfl⟩ := Nat.exists_eq_succ_of_ne_zero (Nat.ne_zero_of_lt hRounds)
      rw [owningGroupFor, owningGroup, hOwner]
  | case2 v c hOwner hBefore ih =>
      obtain ⟨rounds, rfl⟩ := Nat.exists_eq_succ_of_ne_zero (Nat.ne_zero_of_lt hRounds)
      rw [owningGroupFor, owningGroup, hOwner]
      simp only [hBefore, if_true]
      exact ih (by omega)
  | case3 v c hOwner hBefore => exact absurd (h.compound_lt hOwner) hBefore

/-- The walk to the root collects the path from the root, behind what it has collected before. -/
theorem rootPathFor_eq (g : GroupId) {rounds : Nat} (hRounds : g.index < rounds)
    (path : List GroupId) :
    s.rootPathFor rounds g (path ++ [g]) = some (s.rootPath g ++ path.reverse) := by
  induction g using rootPath.induct s generalizing rounds path with
  | case1 g p hParent hBefore ih =>
      obtain ⟨rounds, rfl⟩ := Nat.exists_eq_succ_of_ne_zero (Nat.ne_zero_of_lt hRounds)
      rw [rootPathFor, rootPath, hParent]
      simp only [hBefore, if_true]
      rw [ih (by omega) (path ++ [g])]
      simp
  | case2 g p hParent hBefore => exact absurd (h.group_lt hParent) hBefore
  | case3 g hNone =>
      obtain ⟨rounds, rfl⟩ := Nat.exists_eq_succ_of_ne_zero (Nat.ne_zero_of_lt hRounds)
      rw [rootPathFor, rootPath, hNone]
      simp

theorem groupNameFor_eq (g : GroupId) {rounds : Nat} (hRounds : g.index < rounds) :
    s.groupNameFor rounds g = some (s.groupName g) := by
  have hPath : s.rootPathFor rounds g [g] = some (s.rootPath g) := by
    simpa using h.rootPathFor_eq g hRounds []
  rw [groupNameFor, hPath, Option.map_some, List.drop_one, groupName]

theorem varNameFor_eq (v : VarId) (hv : v ∈ s.varIds) {rounds depth : Nat}
    (hRounds : s.groups.size ≤ rounds) (hDepth : v.index < depth) :
    s.varNameFor rounds depth v = some (s.varName v) := by
  induction v using varName.induct s generalizing depth with
  | case1 v g hOwner =>
      obtain ⟨depth, rfl⟩ := Nat.exists_eq_succ_of_ne_zero (Nat.ne_zero_of_lt hDepth)
      have hGroup := (mem_groupIds.mp (h.home hv hOwner)).trans_le hRounds
      rw [varNameFor, varName, hOwner]
      simp only
      rw [h.groupNameFor_eq g hGroup, Option.map_some]
  | case2 v c hOwner hBefore ih =>
      obtain ⟨depth, rfl⟩ := Nat.exists_eq_succ_of_ne_zero (Nat.ne_zero_of_lt hDepth)
      have hc : c ∈ s.varIds := mem_varIds.mpr (hBefore.trans (mem_varIds.mp hv))
      rw [varNameFor, varName, hOwner]
      simp only [hBefore, if_true]
      rw [ih hc (by omega), Option.map_some]
  | case3 v c hOwner hBefore => exact absurd (h.compound_lt hOwner) hBefore

/-- The path to a group comes down from the root, past groups with ever larger numbers. -/
theorem rootPath_spec (g : GroupId) (hg : g ∈ s.groupIds) :
    (s.rootPath g).head? = some root ∧ (s.rootPath g).getLast? = some g ∧
      (s.rootPath g).Pairwise (fun p q => p.index < q.index) ∧
        ∀ p ∈ s.rootPath g, p.index ≤ g.index := by
  induction g using rootPath.induct s with
  | case1 g p hParent hBefore ih =>
      have hp : p ∈ s.groupIds := mem_groupIds.mpr (hBefore.trans (mem_groupIds.mp hg))
      obtain ⟨hHead, hLast, hPairwise, hBound⟩ := ih hp
      rw [rootPath, hParent]
      simp only [hBefore, if_true]
      refine ⟨by rw [List.head?_append, hHead]; rfl, by simp, ?_, ?_⟩
      · refine List.pairwise_append.mpr ⟨hPairwise, List.pairwise_singleton _ _, ?_⟩
        intro q hq r hr
        rw [List.mem_singleton.mp hr]
        exact (hBound q hq).trans_lt hBefore
      · intro q hq
        rcases List.mem_append.mp hq with hOuter | hSelf
        · exact (hBound q hOuter).trans hBefore.le
        · rw [List.mem_singleton.mp hSelf]
  | case2 g p hParent hBefore => exact absurd (h.group_lt hParent) hBefore
  | case3 g hNone =>
      rw [rootPath, hNone, (h.root_only hg).mp hNone]
      simp

/-- Every variable is below one variable of a group, or is it, and is in the same group. -/
theorem ancestor_spec (v : VarId) (hv : v ∈ s.varIds) :
    ∃ t ∈ s.topLevel, (v = t ∨ s.Below t v) ∧ (s.var t).owner = .group (s.owningGroup v) := by
  induction v using owningGroup.induct s with
  | case1 v g hOwner =>
      refine ⟨v, mem_topLevel.mpr ⟨hv, by rw [Variable.isTopLevel, hOwner]⟩, Or.inl rfl, ?_⟩
      rw [owningGroup, hOwner]
  | case2 v c hOwner hBefore ih =>
      have hc : c ∈ s.varIds := mem_varIds.mpr (hBefore.trans (mem_varIds.mp hv))
      have hField := h.mem_fields.mpr hOwner
      obtain ⟨t, ht, hAbove, hGroup⟩ := ih hc
      refine ⟨t, ht, Or.inr ?_, ?_⟩
      · rcases hAbove with rfl | hBelow
        · exact .field hField
        · exact .step hBelow hField
      · rw [owningGroup, hOwner]
        simp only [hBefore, if_true]
        exact hGroup
  | case3 v c hOwner hBefore => exact absurd (h.compound_lt hOwner) hBefore

/-- No variable of a group is below another one. -/
theorem ancestor_unique {t u v : VarId} (ht : t ∈ s.topLevel) (hu : u ∈ s.topLevel)
    (htv : v = t ∨ s.Below t v) (huv : v = u ∨ s.Below u v) : u = t := by
  have hNone {a b : VarId} (hb : b ∈ s.topLevel) : ¬s.Below a b := by
    intro hBelow
    have hNot := h.tree.not_isTopLevel_of_below hBelow
    rw [(mem_topLevel.mp hb).2] at hNot
    cases hNot
  rcases htv with rfl | htv
  · rcases huv with rfl | huv
    · rfl
    · exact absurd huv (hNone ht)
  · rcases huv with rfl | huv
    · exact absurd htv (hNone hu)
    · rcases h.tree.below_of_common huv htv with hSame | hBelow | hBelow
      · exact hSame
      · exact absurd hBelow (hNone ht)
      · exact absurd hBelow (hNone hu)

/-- In such a schema the walks end. -/
theorem walks : s.Walks where
  owningGroup v _ _ hRounds := h.owningGroupFor_eq v hRounds
  rootPath g _ _ hRounds := by simpa using h.rootPathFor_eq g hRounds []
  varName v hv _ _ hRounds hDepth := h.varNameFor_eq v hv hRounds hDepth
  ancestor v hv := by
    obtain ⟨t, ht, hAbove, hGroup⟩ := h.ancestor_spec v hv
    refine ⟨t, ht, hAbove, hGroup, ?_, fun u hu huv => h.ancestor_unique ht hu hAbove huv⟩
    rw [owningGroup, hGroup]
  path g hg := by
    obtain ⟨hHead, hLast, hPairwise, _⟩ := h.rootPath_spec g hg
    refine ⟨hHead, hLast, hPairwise.imp ?_⟩
    rintro p q hLt rfl
    exact Nat.lt_irrefl _ hLt
  found v hv := by
    obtain ⟨rest, hName⟩ := exists_rest (mem_topLevel.mp hv).2
    refine ⟨mem_findVars.mpr ⟨hv, (absolute_varName (mem_topLevel.mp hv).2).symm⟩, rest, hName, ?_⟩
    intro hRest
    exact mem_findVars.mpr ⟨hv, hName.trans (if_neg hRest).symm⟩

end Forest

end Hyperslab.Schema
