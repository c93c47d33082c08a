import Hyperslab.Proofs.View.Universal
import Hyperslab.ViewCache

/-! What a cache of views answers, in terms of the calls that were made before. A schema has a view
in the cache if it was asked for since it was last dropped, and all requests in between are served
the same one. -/
namespace Hyperslab.ViewCache

/-- What a cache can be called for. -/
inductive Call where
  | get (key : Nat)
  | invalidate (key : Nat)
  | clear
  | size
  | isEmpty
  deriving DecidableEq, Repr

/-- The cache behind a call, where the catalog has the schemas by their numbers. -/
def apply (catalog : Nat → Schema) (cache : ViewCache) : Call → ViewCache
  | .get key => (cache.get key (catalog key)).2
  | .invalidate key => (cache.invalidate key).2
  | .clear => cache.clear
  | .size | .isEmpty => cache

/-- The cache behind calls one after the other. -/
def run (catalog : Nat → Schema) (cache : ViewCache) (calls : List Call) : ViewCache :=
  calls.foldl (apply catalog) cache

/-- The cache behind all calls that were made of it. -/
def after (catalog : Nat → Schema) (calls : List Call) : ViewCache := run catalog empty calls

/-- The answer to a request for a view behind these calls. -/
def served (catalog : Nat → Schema) (calls : List Call) (key : Nat) : Except Fault CachedView :=
  ((after catalog calls).get key (catalog key)).1

/-- The view of the schema was asked for since it was last dropped. -/
def Held (calls : List Call) (key : Nat) : Prop :=
  ∃ before later, calls = before ++ .get key :: later ∧ .clear ∉ later ∧ .invalidate key ∉ later

/-- The view of the schema was dropped between some calls and others: all views were, or dropping it
was asked for and found it. -/
def Dropped (catalog : Nat → Schema) (before : List Call) (key : Nat) (between : List Call) :
    Prop :=
  .clear ∈ between ∨ ∃ first rest, between = first ++ .invalidate key :: rest ∧
    ((after catalog (before ++ first)).invalidate key).1 = true

/-- A place in a list is its end or lies before it. -/
theorem snoc_eq_append_cons {α : Type} {xs before later : List α} {x y : α} :
    xs ++ [x] = before ++ y :: later ↔
      (later = [] ∧ xs = before ∧ x = y) ∨
        ∃ init, later = init ++ [x] ∧ xs = before ++ y :: init := by
  constructor
  · intro h
    rcases List.eq_nil_or_concat later with rfl | ⟨init, last, rfl⟩
    · obtain ⟨rfl, hLast⟩ := List.append_inj' h rfl
      exact Or.inl ⟨rfl, rfl, List.singleton_inj.mp hLast⟩
    · rw [List.concat_eq_append, ← List.cons_append, ← List.append_assoc] at h
      obtain ⟨rfl, hLast⟩ := List.append_inj' h rfl
      cases hLast
      exact Or.inr ⟨init, List.concat_eq_append, rfl⟩
  · rintro (⟨rfl, rfl, rfl⟩ | ⟨init, rfl, rfl⟩)
    · rfl
    · simp

variable {catalog : Nat → Schema} {cache : ViewCache} {key : Nat} {cached : CachedView}

theorem run_snoc (calls : List Call) (call : Call) :
    run catalog cache (calls ++ [call]) = (run catalog cache calls).apply catalog call := by
  simp [run]

theorem after_snoc (calls : List Call) (call : Call) :
    after catalog (calls ++ [call]) = (after catalog calls).apply catalog call :=
  run_snoc calls call

/-- A view that is there is served again, and nothing changes. -/
theorem get_known (h : cache.entries.lookup key = some cached) (schema : Schema) :
    cache.get key schema = (.ok cached, cache) := by
  rw [get, h]

/-- A view that is not there is built, and no view before it has its serial number. -/
theorem get_fresh (h : cache.entries.lookup key = none) (schema : Schema) :
    cache.get key schema = (.ok ⟨cache.built, View.everything schema⟩,
      ⟨(key, ⟨cache.built, View.everything schema⟩) :: cache.entries, cache.built + 1⟩) := by
  rw [get, h, View.universal_eq]

theorem lookup_cons (k : Nat) (cached : CachedView) (entries : List (Nat × CachedView)) :
    ((k, cached) :: entries).lookup key = if key = k then some cached else entries.lookup key := by
  rw [List.lookup_cons]
  split
  · next hSame => rw [if_pos (beq_iff_eq.mp hSame)]
  · next hOther => rw [if_neg (beq_eq_false_iff_ne.mp hOther)]

theorem lookup_filter (entries : List (Nat × CachedView)) (dropped : Nat) :
    (entries.filter (·.1 ≠ dropped)).lookup key =
      if key = dropped then none else entries.lookup key := by
  induction entries with
  | nil => simp
  | cons entry entries ih =>
      rw [List.filter_cons, lookup_cons]
      by_cases hDropped : entry.1 = dropped
      · rw [if_neg (by simpa using hDropped), ih, hDropped]
        split <;> rfl
      · rw [if_pos (by simpa using hDropped), lookup_cons, ih]
        by_cases hSame : key = entry.1
        · rw [if_pos hSame, if_neg (hSame ▸ hDropped)]
          rw [if_pos hSame]
        · rw [if_neg hSame, if_neg hSame]

/-- A call leaves the view of a schema as it is, unless it asks for it or drops it. -/
theorem lookup_apply {call : Call} (hGet : call ≠ .get key) (hClear : call ≠ .clear)
    (hDrop : call ≠ .invalidate key) :
    (cache.apply catalog call).entries.lookup key = cache.entries.lookup key := by
  cases call with
  | get k =>
      have hOther : key ≠ k := fun hSame => hGet (hSame ▸ rfl)
      cases hFind : cache.entries.lookup k with
      | some found => rw [apply, get_known hFind]
      | none =>
          rw [apply, get_fresh hFind]
          exact (lookup_cons k _ _).trans (if_neg hOther)
  | invalidate k =>
      have hOther : key ≠ k := fun hSame => hDrop (hSame ▸ rfl)
      rw [apply, invalidate, lookup_filter, if_neg hOther]
  | clear => exact absurd rfl hClear
  | size | isEmpty => rfl

/-- A view that is there stays, unless it is dropped. -/
theorem lookup_apply_of_some {call : Call} (h : cache.entries.lookup key = some cached)
    (hKept : ¬(call = .clear ∨ call = .invalidate key)) :
    (cache.apply catalog call).entries.lookup key = some cached := by
  obtain ⟨hClear, hDrop⟩ := not_or.mp hKept
  by_cases hGet : call = .get key
  · rw [hGet, apply, get_known h, h]
  · rw [lookup_apply hGet hClear hDrop, h]

/-- What one call makes of which views are there. -/
theorem isSome_lookup_apply (call : Call) :
    ((cache.apply catalog call).entries.lookup key).isSome = true ↔ call = .get key ∨
      (cache.entries.lookup key).isSome = true ∧ call ≠ .clear ∧ call ≠ .invalidate key := by
  by_cases hGet : call = .get key
  · subst hGet
    refine iff_of_true ?_ (Or.inl rfl)
    cases hFind : cache.entries.lookup key with
    | some found => simp [apply, get_known hFind, hFind]
    | none => simp [apply, get_fresh hFind]
  · by_cases hClear : call = .clear
    · subst hClear
      simp [apply, clear]
    · by_cases hDrop : call = .invalidate key
      · subst hDrop
        rw [apply, invalidate, lookup_filter]
        simp
      · simp [lookup_apply hGet hClear hDrop, hGet, hClear, hDrop]

theorem held_snoc (calls : List Call) (call : Call) : Held (calls ++ [call]) key ↔
    call = .get key ∨ Held calls key ∧ call ≠ .clear ∧ call ≠ .invalidate key := by
  constructor
  · rintro ⟨before, later, hCalls, hClear, hDrop⟩
    rcases snoc_eq_append_cons.mp hCalls with ⟨_, _, rfl⟩ | ⟨init, rfl, rfl⟩
    · exact Or.inl rfl
    · simp only [List.mem_append, List.mem_singleton, not_or] at hClear hDrop
      exact Or.inr ⟨⟨before, init, rfl, hClear.1, hDrop.1⟩, Ne.symm hClear.2, Ne.symm hDrop.2⟩
  · rintro (rfl | ⟨⟨before, later, rfl, hClear, hDrop⟩, hNoClear, hNoDrop⟩)
    · exact ⟨calls, [], rfl, List.not_mem_nil, List.not_mem_nil⟩
    · refine ⟨before, later ++ [call], by simp, ?_, ?_⟩
      · simp [hClear, Ne.symm hNoClear]
      · simp [hDrop, Ne.symm hNoDrop]

/-- A view is there exactly if the calls have asked for it since they have last dropped it. -/
theorem isSome_lookup_after (calls : List Call) :
    ((after catalog calls).entries.lookup key).isSome = true ↔ Held calls key := by
  induction calls using List.reverseRecOn with
  | nil => simp [after, run, empty, Held]
  | append_singleton calls call ih => rw [after_snoc, isSome_lookup_apply, held_snoc, ih]

/-- The invariant of caches: schemas and serial numbers occur once, and each view is that of its
schema. -/
structure Sound (catalog : Nat → Schema) (cache : ViewCache) : Prop where
  nodup : (cache.entries.map (·.1)).Nodup
  view : ∀ entry ∈ cache.entries, View.universal (catalog entry.1) = .ok entry.2.view
  built : ∀ entry ∈ cache.entries, entry.2.serial < cache.built
  serial : ∀ entry ∈ cache.entries, ∀ other ∈ cache.entries,
    entry.2.serial = other.2.serial → entry.1 = other.1

theorem sound_empty (catalog : Nat → Schema) : Sound catalog empty :=
  ⟨List.nodup_nil, nofun, nofun, nofun⟩

/-- Views may be dropped. -/
theorem Sound.sublist (h : cache.Sound catalog) {entries : List (Nat × CachedView)}
    (hSub : entries.Sublist cache.entries) : Sound catalog { cache with entries } where
  nodup := h.nodup.sublist (hSub.map _)
  view := fun entry hMem => h.view entry (hSub.subset hMem)
  built := fun entry hMem => h.built entry (hSub.subset hMem)
  serial := fun entry hMem other hOther =>
    h.serial entry (hSub.subset hMem) other (hSub.subset hOther)

/-- A view may be built for a schema that has none. -/
theorem Sound.build (h : cache.Sound catalog) (hNone : cache.entries.lookup key = none) :
    Sound catalog ⟨(key, ⟨cache.built, View.everything (catalog key)⟩) :: cache.entries,
      cache.built + 1⟩ where
  nodup := by
    rw [List.map_cons, List.nodup_cons]
    refine ⟨fun hKey => ?_, h.nodup⟩
    obtain ⟨entry, hMem, rfl⟩ := List.mem_map.mp hKey
    simpa using List.lookup_eq_none_iff.mp hNone entry hMem
  view := by
    intro entry hMem
    rcases List.mem_cons.mp hMem with rfl | hOld
    · exact View.universal_eq _
    · exact h.view entry hOld
  built := by
    intro entry hMem
    rcases List.mem_cons.mp hMem with rfl | hOld
    · exact Nat.lt_succ_self _
    · exact Nat.lt_succ_of_lt (h.built entry hOld)
  serial := by
    intro entry hMem other hOther hSame
    rcases List.mem_cons.mp hMem with rfl | hOld
    · rcases List.mem_cons.mp hOther with rfl | hOld'
      · rfl
      · exact absurd hSame (Nat.ne_of_gt (h.built other hOld'))
    · rcases List.mem_cons.mp hOther with rfl | hOld'
      · exact absurd hSame (Nat.ne_of_lt (h.built entry hOld))
      · exact h.serial entry hOld other hOld' hSame

theorem Sound.apply (h : cache.Sound catalog) (call : Call) :
    (cache.apply catalog call).Sound catalog := by
  cases call with
  | get k =>
      cases hFind : cache.entries.lookup k with
      | some found =>
          rw [ViewCache.apply, get_known hFind]
          exact h
      | none =>
          rw [ViewCache.apply, get_fresh hFind]
          exact h.build hFind
  | invalidate k => exact h.sublist List.filter_sublist
  | clear => exact h.sublist (List.nil_sublist _)
  | size | isEmpty => exact h

theorem Sound.run (h : cache.Sound catalog) (calls : List Call) :
    (cache.run catalog calls).Sound catalog := by
  induction calls generalizing cache with
  | nil => exact h
  | cons call calls ih => exact ih (h.apply call)

theorem sound_after (catalog : Nat → Schema) (calls : List Call) :
    (after catalog calls).Sound catalog :=
  (sound_empty catalog).run calls

theorem mem_of_lookup (h : cache.entries.lookup key = some cached) :
    (key, cached) ∈ cache.entries := by
  obtain ⟨before, later, hEntries, _⟩ := List.lookup_eq_some_iff.mp h
  rw [hEntries]
  exact List.mem_append_right _ List.mem_cons_self

/-- A serial number that is given out already belongs to some of the given schemas only. -/
structure Confined (keys : Nat → Prop) (serial : Nat) (cache : ViewCache) : Prop where
  built : serial < cache.built
  keys : ∀ entry ∈ cache.entries, entry.2.serial = serial → keys entry.1

section Confined

variable {keys : Nat → Prop} {serial : Nat}

/-- Serial numbers are not given out again. -/
theorem Confined.apply (h : Confined keys serial cache) (call : Call) :
    Confined keys serial (cache.apply catalog call) := by
  cases call with
  | get k =>
      cases hFind : cache.entries.lookup k with
      | some found =>
          rw [ViewCache.apply, get_known hFind]
          exact h
      | none =>
          rw [ViewCache.apply, get_fresh hFind]
          refine ⟨Nat.lt_succ_of_lt h.built, ?_⟩
          intro entry hMem hSerial
          rcases List.mem_cons.mp hMem with rfl | hOld
          · exact absurd hSerial (Nat.ne_of_gt h.built)
          · exact h.keys entry hOld hSerial
  | invalidate k => exact ⟨h.built, fun entry hMem => h.keys entry (List.mem_of_mem_filter hMem)⟩
  | clear => exact ⟨h.built, nofun⟩
  | size | isEmpty => exact h

theorem Confined.run (h : Confined keys serial cache) (calls : List Call) :
    Confined keys serial (cache.run catalog calls) := by
  induction calls generalizing cache with
  | nil => exact h
  | cons call calls ih => exact ih (h.apply call)

/-- What is served for any other schema has another serial number. -/
theorem Confined.serial_ne (h : Confined keys serial cache) (hOther : ¬keys key) {schema : Schema}
    (hGet : (cache.get key schema).1 = .ok cached) : cached.serial ≠ serial := by
  intro hSerial
  cases hFind : cache.entries.lookup key with
  | some found =>
      rw [get_known hFind] at hGet
      cases hGet
      exact hOther (h.keys _ (mem_of_lookup hFind) hSerial)
  | none =>
      rw [get_fresh hFind] at hGet
      cases hGet
      exact absurd hSerial (Nat.ne_of_gt h.built)

end Confined

/-- A view that is served is that of the schema. It is there afterwards, and its serial number
belongs to no other schema. -/
theorem Sound.get (h : cache.Sound catalog) (hGet : (cache.get key (catalog key)).1 = .ok cached) :
    View.universal (catalog key) = .ok cached.view ∧
      (cache.apply catalog (.get key)).entries.lookup key = some cached ∧
        Confined (· = key) cached.serial (cache.apply catalog (.get key)) := by
  have hLookup : (cache.apply catalog (.get key)).entries.lookup key = some cached := by
    cases hFind : cache.entries.lookup key with
    | some found =>
        rw [get_known hFind] at hGet
        cases hGet
        rw [ViewCache.apply, get_known hFind, hFind]
    | none =>
        rw [get_fresh hFind] at hGet
        cases hGet
        rw [ViewCache.apply, get_fresh hFind, lookup_cons, if_pos rfl]
  have hSound := h.apply (.get key)
  have hMem := mem_of_lookup hLookup
  refine ⟨hSound.view _ hMem, hLookup, hSound.built _ hMem, ?_⟩
  intro entry hEntry hSerial
  exact hSound.serial entry hEntry _ hMem hSerial

/-- A cache serves every schema. -/
theorem exists_get (cache : ViewCache) (key : Nat) (schema : Schema) :
    ∃ cached, (cache.get key schema).1 = .ok cached := by
  cases hFind : cache.entries.lookup key with
  | some found => exact ⟨found, by rw [get_known hFind]⟩
  | none => exact ⟨_, by rw [get_fresh hFind]⟩

/-- A view is dropped before a further call, or by it. -/
theorem dropped_snoc (before between : List Call) (call : Call) :
    Dropped catalog before key (between ++ [call]) ↔ Dropped catalog before key between ∨
      call = .clear ∨ call = .invalidate key ∧
        ((after catalog (before ++ between)).invalidate key).1 = true := by
  constructor
  · rintro (hClear | ⟨first, rest, hBetween, hFound⟩)
    · rcases List.mem_append.mp hClear with hEarlier | hLast
      · exact Or.inl (Or.inl hEarlier)
      · exact Or.inr (Or.inl (List.mem_singleton.mp hLast).symm)
    · rcases snoc_eq_append_cons.mp hBetween with ⟨_, rfl, rfl⟩ | ⟨init, rfl, rfl⟩
      · exact Or.inr (Or.inr ⟨rfl, hFound⟩)
      · exact Or.inl (Or.inr ⟨first, init, rfl, hFound⟩)
  · rintro ((hClear | ⟨first, rest, rfl, hFound⟩) | rfl | ⟨rfl, hFound⟩)
    · exact Or.inl (List.mem_append_left _ hClear)
    · exact Or.inr ⟨first, rest ++ [call], by simp, hFound⟩
    · exact Or.inl (List.mem_append_right _ List.mem_cons_self)
    · exact Or.inr ⟨between, [], rfl, hFound⟩

/-- Once the only schema with a serial number is dropped, none has it. -/
theorem Confined.drop {serial : Nat} (h : Confined (· = key) serial cache) {call : Call}
    (hDrop : call = .clear ∨ call = .invalidate key) :
    Confined (fun _ => False) serial (cache.apply catalog call) := by
  refine ⟨(h.apply call).built, ?_⟩
  intro entry hMem hSerial
  have hKey : entry.1 = key := (h.apply call).keys entry hMem hSerial
  rcases hDrop with rfl | rfl
  · exact absurd hMem List.not_mem_nil
  · exact of_decide_eq_true (List.mem_filter.mp hMem).2 hKey

/-- From one request for a view on, it stays there until it is dropped, and from then on no schema
has its serial number. -/
theorem kept_or_dropped {before : List Call}
    (hLookup : (after catalog before).entries.lookup key = some cached)
    (hConfined : Confined (· = key) cached.serial (after catalog before)) (between : List Call) :
    ¬Dropped catalog before key between ∧
        (after catalog (before ++ between)).entries.lookup key = some cached ∧
          Confined (· = key) cached.serial (after catalog (before ++ between)) ∨
      Dropped catalog before key between ∧
        Confined (fun _ => False) cached.serial (after catalog (before ++ between)) := by
  induction between using List.reverseRecOn with
  | nil =>
      rw [List.append_nil]
      exact Or.inl ⟨by simp [Dropped], hLookup, hConfined⟩
  | append_singleton between call ih =>
      rw [← List.append_assoc, after_snoc, dropped_snoc]
      rcases ih with ⟨hKept, hThere, hOnly⟩ | ⟨hDropped, hNone⟩
      · by_cases hDrop : call = .clear ∨ call = .invalidate key
        · refine Or.inr ⟨Or.inr (hDrop.imp_right fun hCall => ⟨hCall, ?_⟩), hOnly.drop hDrop⟩
          exact Option.isSome_iff_exists.mpr ⟨cached, hThere⟩
        · refine Or.inl ⟨?_, lookup_apply_of_some hThere hDrop, hOnly.apply call⟩
          rintro (hBefore | hClear | ⟨hInvalidate, _⟩)
          · exact hKept hBefore
          · exact hDrop (Or.inl hClear)
          · exact hDrop (Or.inr hInvalidate)
      · exact Or.inr ⟨Or.inl hDropped, hNone.apply call⟩

/-- Two requests for the view of a schema are served the same one unless it was dropped between
them. -/
theorem serial_eq_iff {before between : List Call} {first again : CachedView}
    (hFirst : served catalog before key = .ok first)
    (hAgain : served catalog (before ++ .get key :: between) key = .ok again) :
    again.serial = first.serial ↔ ¬Dropped catalog (before ++ [.get key]) key between := by
  obtain ⟨_, hLookup, hConfined⟩ := (sound_after catalog before).get hFirst
  rw [← after_snoc] at hLookup hConfined
  rw [served, List.append_cons] at hAgain
  rcases kept_or_dropped hLookup hConfined between with ⟨hKept, hThere, _⟩ | ⟨hDropped, hNone⟩
  · rw [get_known hThere] at hAgain
    cases hAgain
    exact iff_of_true rfl hKept
  · exact iff_of_false (hNone.serial_ne not_false hAgain) (not_not_intro hDropped)

/-- What is served for two schemas has two serial numbers. -/
theorem serial_ne_of_ne {before between : List Call} {other : Nat} {first second : CachedView}
    (hFirst : served catalog before key = .ok first)
    (hSecond : served catalog (before ++ .get key :: between) other = .ok second)
    (hOther : other ≠ key) : second.serial ≠ first.serial := by
  obtain ⟨_, _, hConfined⟩ := (sound_after catalog before).get hFirst
  have hLater : Confined (· = key) first.serial
      (((after catalog before).apply catalog (.get key)).run catalog between) :=
    hConfined.run between
  rw [← after_snoc, after, run, run, ← List.foldl_append, ← List.append_cons] at hLater
  exact hLater.serial_ne hOther hSecond

/-- The views that are there are those of the schemas that were asked for since they were last
dropped, one for each. -/
theorem entries_after (catalog : Nat → Schema) (calls : List Call) :
    ∃ keys : List Nat, keys.Nodup ∧ (∀ key, key ∈ keys ↔ Held calls key) ∧
      (after catalog calls).size = keys.length := by
  refine ⟨(after catalog calls).entries.map (·.1), (sound_after catalog calls).nodup, fun key => ?_,
    (List.length_map _).symm⟩
  calc
    _ ↔ ((after catalog calls).entries.lookup key).isSome = true := by simp [List.lookup_isSome_iff]
    _ ↔ _ := isSome_lookup_after calls

/-- Each request for the view of a schema is served the one with everything in it. Two requests are
served the same view exactly if they are for the same schema, and it was not dropped between them.
Dropping a view finds it if it was asked for since it was last dropped, and as many views are there
as there are such schemas. -/
theorem serves_history (catalog : Nat → Schema) :
    (∀ calls key, ∃ cached, served catalog calls key = .ok cached ∧
      View.universal (catalog key) = .ok cached.view) ∧
    (∀ before between key first again, served catalog before key = .ok first →
      served catalog (before ++ .get key :: between) key = .ok again →
        (again.serial = first.serial ↔ ¬Dropped catalog (before ++ [.get key]) key between)) ∧
    (∀ before between key other first second, other ≠ key →
      served catalog before key = .ok first →
        served catalog (before ++ .get key :: between) other = .ok second →
          second.serial ≠ first.serial) ∧
    (∀ calls key, ((after catalog calls).invalidate key).1 = true ↔ Held calls key) ∧
    ∀ calls, ∃ keys : List Nat, keys.Nodup ∧ (∀ key, key ∈ keys ↔ Held calls key) ∧
      (after catalog calls).size = keys.length ∧
        ((after catalog calls).isEmpty = true ↔ keys = []) := by
  refine ⟨fun calls key => ?_, ?_, ?_, fun calls key => isSome_lookup_after calls, fun calls => ?_⟩
  · obtain ⟨cached, hServed⟩ := exists_get (after catalog calls) key (catalog key)
    exact ⟨cached, hServed, ((sound_after catalog calls).get hServed).1⟩
  · intro before between key first again hFirst hAgain
    exact serial_eq_iff hFirst hAgain
  · intro before between key other first second hOther hFirst hSecond
    exact serial_ne_of_ne hFirst hSecond hOther
  · obtain ⟨keys, hNodup, hKeys, hSize⟩ := entries_after catalog calls
    refine ⟨keys, hNodup, hKeys, hSize, ?_⟩
    rw [isEmpty, decide_eq_true_iff, hSize, List.length_eq_zero_iff]

/-- The schemas of a catalog with two different ones. -/
def shelf : Nat → Schema
  | 0 => .gallery
  | _ => .sample

/-- A view is served again while another one is built, and built again after it was dropped. -/
theorem serves_history_shelf : ∃ first again other rebuilt,
    served shelf [] 0 = .ok first ∧ served shelf [.get 0, .get 1] 0 = .ok again ∧
      served shelf [.get 0] 1 = .ok other ∧
        served shelf [.get 0, .get 1, .invalidate 0] 0 = .ok rebuilt ∧
          View.universal .gallery = .ok rebuilt.view ∧ View.universal .sample = .ok other.view ∧
            again.serial = first.serial ∧ other.serial ≠ first.serial ∧
              rebuilt.serial ≠ first.serial := by
  obtain ⟨hServed, hSame, hOther, hDropped, _⟩ := serves_history shelf
  obtain ⟨first, hFirst, _⟩ := hServed [] 0
  obtain ⟨again, hAgain, _⟩ := hServed [.get 0, .get 1] 0
  obtain ⟨other, hOne, hOneView⟩ := hServed [.get 0] 1
  obtain ⟨rebuilt, hRebuilt, hRebuiltView⟩ := hServed [.get 0, .get 1, .invalidate 0] 0
  have hHeld : Held [.get 0, .get 1] 0 := ⟨[], [.get 1], rfl, by decide, by decide⟩
  have hKept : ¬Dropped shelf [.get 0] 0 [.get 1] := by
    rintro (hClear | ⟨before, later, hCalls, _⟩)
    · revert hClear
      decide
    · have hMem : Call.invalidate 0 ∈ [Call.get 1] := by simp [hCalls]
      revert hMem
      decide
  refine ⟨first, again, other, rebuilt, hFirst, hAgain, hOne, hRebuilt, hRebuiltView, hOneView,
    (hSame [] [.get 1] 0 first again hFirst hAgain).mpr hKept,
    hOther [] [] 0 1 first other (by decide) hFirst hOne, fun hSerial => ?_⟩
  refine (hSame [] [.get 1, .invalidate 0] 0 first rebuilt hFirst hRebuilt).mp hSerial ?_
  exact Or.inr ⟨[.get 1], [], rfl, (hDropped _ _).mpr hHeld⟩

end Hyperslab.ViewCache
