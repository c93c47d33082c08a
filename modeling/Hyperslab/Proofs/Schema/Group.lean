import Hyperslab.Proofs.Schema

/-! The groups of a schema that is declared entry by entry, where each entry refers to nodes before
it. Every group then lies behind the groups around it, and every variable is in one group. -/
namespace Hyperslab

/-- What holds a variable is a node of the schema. -/
def Owner.inRange (s : Schema) : Owner → Bool
  | group g => g.index < s.groups.size
  | compound c => c.index < s.vars.size

def AtomicType.inRange (s : Schema) (type : AtomicType) : Bool :=
  type.enumeration?.all fun e => e.index < s.enums.size

def VarKind.inRange (s : Schema) : VarKind → Bool
  | atomic type => type.inRange s
  | record | sequence => true

/-- The entry refers to nodes of the schema only. -/
def Declaration.inRange (s : Schema) : Declaration → Bool
  | group parent _ => parent.index < s.groups.size
  | dimension g _ _ => g.index < s.groups.size
  | anonymous _ => true
  | enumeration g _ base _ => g.index < s.groups.size && base.inRange s
  | var owner _ kind dims =>
    owner.inRange s && kind.inRange s && dims.all fun d => d.index < s.dims.size

namespace Schema

/-- Each entry refers to nodes that are there when it is added. -/
def allInRange (s : Schema) : List Declaration → Bool
  | [] => true
  | entry :: rest =>
    entry.inRange s && match s.declare entry with
      | .ok s' => s'.allInRange rest
      | .error _ => true

/-- The schema is declared by entries that refer to nodes before them. Entries cannot do otherwise
where a node gets its number only by being declared. -/
def Grounded (schema : Schema) : Prop :=
  ∃ name entries, (empty name).allInRange entries = true ∧
    (empty name).declareAll entries = .ok schema

theorem Grounded.declared {schema : Schema} (h : schema.Grounded) : schema.Declared := by
  obtain ⟨name, entries, _, hOk⟩ := h
  exact ⟨name, entries, hOk⟩

/-- A group lies behind the one that holds it. -/
def GroupsOrdered (s : Schema) : Prop :=
  ∀ g p, (s.group g).parent = some p → p.index < g.index

theorem groupsOrdered_empty (name : String) : (empty name).GroupsOrdered := by
  intro g p hParent
  rw [group, Array.getD_eq_getD_getElem?] at hParent
  cases hIndex : g.index with
  | zero => simp [empty, hIndex] at hParent
  | succ n =>
      simp [empty, hIndex] at hParent
      cases hParent

/-- Only the entry of a group adds one, and it adds one behind the others. -/
theorem groups_of_declare {s s' : Schema} {entry : Declaration} (h : s.declare entry = .ok s') :
    s'.groups = s.groups ∨ ∃ parent name,
      entry = .group parent name ∧ s'.groups = s.groups.push ⟨name, some parent⟩ := by
  cases entry with
  | group parent name =>
      cases h
      exact Or.inr ⟨parent, name, rfl, rfl⟩
  | dimension | anonymous | enumeration =>
      cases h
      exact Or.inl rfl
  | var owner name kind dims =>
      cases owner with
      | group g =>
          cases h
          exact Or.inl rfl
      | compound c =>
          simp only [Schema.declare] at h
          split at h
          · cases h
            exact Or.inl rfl
          · cases h

theorem GroupsOrdered.declare {s s' : Schema} {entry : Declaration} (h : s.GroupsOrdered)
    (hInRange : entry.inRange s = true) (hOk : s.declare entry = .ok s') : s'.GroupsOrdered := by
  intro g p hParent
  rcases groups_of_declare hOk with hSame | ⟨parent, name, rfl, hPush⟩
  · apply h
    rwa [group, ← hSame]
  · rw [group, hPush, Array.getD_eq_getD_getElem?, Array.getElem?_push] at hParent
    split at hParent
    · next hNew =>
        cases hParent
        rw [hNew]
        exact of_decide_eq_true hInRange
    · apply h
      rwa [group, Array.getD_eq_getD_getElem?]

/-- What holds of a schema with nothing but its root, and with every entry that refers to nodes of
the schema, holds of all schemas that such entries declare. -/
theorem Grounded.induction {P : Schema → Prop} (hEmpty : ∀ name, P (empty name))
    (hDeclare : ∀ {s s' : Schema} {entry : Declaration}, P s → entry.inRange s = true →
      s.declare entry = .ok s' → P s') {schema : Schema} (h : schema.Grounded) : P schema := by
  have hDeclareAll (entries : List Declaration) : ∀ {s : Schema} {place : Nat}, P s →
      s.allInRange entries = true → declareAll.go s place entries = .ok schema → P schema := by
    induction entries with
    | nil =>
        intro s place hs _ hOk
        cases hOk
        exact hs
    | cons entry entries ih =>
        intro s place hs hInRange hOk
        simp only [declareAll.go] at hOk
        simp only [allInRange, Bool.and_eq_true] at hInRange
        split at hOk
        · next hStep =>
            rw [hStep] at hInRange
            exact ih (hDeclare hs hInRange.1 hStep) hInRange.2 hOk
        · cases hOk
  obtain ⟨name, entries, hInRange, hOk⟩ := h
  exact hDeclareAll entries (hEmpty name) hInRange hOk

theorem Grounded.groupsOrdered {schema : Schema} (h : schema.Grounded) :
    schema.GroupsOrdered :=
  h.induction groupsOrdered_empty fun hs hInRange hOk => hs.declare hInRange hOk

/-- `h` is the group `g` or a group around it. -/
inductive Encloses (s : Schema) (h : GroupId) : GroupId → Prop where
  | self : Encloses s h h
  | inner {g p : GroupId} (parent : (s.group g).parent = some p) (outer : Encloses s h p) :
      Encloses s h g

theorem Encloses.outer {s : Schema} {g h p : GroupId} (hEncloses : s.Encloses h g)
    (hParent : (s.group h).parent = some p) : s.Encloses p g := by
  induction hEncloses with
  | self => exact .inner hParent .self
  | inner hInner _ ih => exact .inner hInner ih

theorem GroupsOrdered.mem_rootPath {s : Schema} (hOrdered : s.GroupsOrdered) {g h : GroupId} :
    h ∈ s.rootPath g ↔ s.Encloses h g := by
  induction g using rootPath.induct s with
  | case1 g p hParent hBefore ih =>
      rw [rootPath, hParent]
      simp only [hBefore, if_true, List.mem_append, List.mem_singleton, ih]
      constructor
      · rintro (hOuter | rfl)
        · exact .inner hParent hOuter
        · exact .self
      · intro hEncloses
        cases hEncloses with
        | self => exact Or.inr rfl
        | inner hSame hOuter =>
            rw [hParent] at hSame
            cases hSame
            exact Or.inl hOuter
  | case2 g p hParent hBefore => exact absurd (hOrdered g p hParent) hBefore
  | case3 g hNone =>
      rw [rootPath, hNone, List.mem_singleton]
      constructor
      · rintro rfl
        exact .self
      · intro hEncloses
        cases hEncloses with
        | self => rfl
        | inner hSome _ =>
            rw [hNone] at hSome
            cases hSome

/-- The variable is in the group, by itself or with the compound around it. -/
inductive Holds (s : Schema) (g : GroupId) : VarId → Prop where
  | group {v : VarId} (owner : (s.var v).owner = .group g) : Holds s g v
  | compound {v c : VarId} (owner : (s.var v).owner = .compound c) (outer : Holds s g c) :
      Holds s g v

theorem owningGroup_eq_iff {s : Schema} (hTree : s.Tree) (hComplete : s.Complete) {g : GroupId}
    {v : VarId} : s.owningGroup v = g ↔ s.Holds g v := by
  induction v using owningGroup.induct s with
  | case1 v h hOwner =>
      rw [owningGroup, hOwner]
      constructor
      · rintro rfl
        exact .group hOwner
      · intro hHolds
        cases hHolds with
        | group hSame => exact Owner.group.inj (hOwner.symm.trans hSame)
        | compound hOther _ =>
            rw [hOwner] at hOther
            cases hOther
  | case2 v c hOwner hBefore ih =>
      rw [owningGroup, hOwner]
      simp only [hBefore, if_true, ih]
      constructor
      · exact .compound hOwner
      · intro hHolds
        cases hHolds with
        | group hOther =>
            rw [hOwner] at hOther
            cases hOther
        | compound hSame hOuter =>
            rw [hOwner] at hSame
            cases hSame
            exact hOuter
  | case3 v c hOwner hBefore => exact absurd (hTree.after (hComplete c v hOwner)) hBefore

/-- Nested groups, with shared dimensions in two of them and an enumeration in another one that is
the type of a field. -/
def galleryEntries : List Declaration :=
  [.group root "a", .group ⟨1⟩ "b", .group root "c", .dimension ⟨1⟩ "x" 5, .dimension root "y" 6,
    .anonymous 3, .dimension ⟨3⟩ "z" 2, .enumeration ⟨2⟩ "hue" .uint8 [("red", 0), ("blue", 1)],
    .var (.group ⟨2⟩) "r" .record [],
    .var (.compound ⟨0⟩) "e" (.atomic (.enumerated ⟨0⟩)) [⟨0⟩, ⟨2⟩],
    .var (.group root) "w" (.atomic .int32) [⟨1⟩], .var (.group ⟨3⟩) "u" (.atomic .int32) [⟨3⟩]]

/-- The schema that these entries declare. -/
def gallery : Schema where
  name := "gallery"
  groups := #[⟨"", none⟩, ⟨"a", some root⟩, ⟨"b", some ⟨1⟩⟩, ⟨"c", some root⟩]
  dims := #[⟨5, some (⟨1⟩, "x")⟩, ⟨6, some (root, "y")⟩, .anonymous 3, ⟨2, some (⟨3⟩, "z")⟩]
  enums := #[⟨"hue", .uint8, [("red", 0), ("blue", 1)], ⟨2⟩⟩]
  vars := #[⟨"r", .record, [], [⟨1⟩], .group ⟨2⟩⟩,
    ⟨"e", .atomic (.enumerated ⟨0⟩), [⟨0⟩, ⟨2⟩], [], .compound ⟨0⟩⟩,
    ⟨"w", .atomic .int32, [⟨1⟩], [], .group root⟩, ⟨"u", .atomic .int32, [⟨3⟩], [], .group ⟨3⟩⟩]

theorem gallery_grounded : gallery.Grounded := ⟨"gallery", galleryEntries, by decide, rfl⟩

end Schema

end Hyperslab
