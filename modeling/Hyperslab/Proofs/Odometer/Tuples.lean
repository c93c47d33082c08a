import Mathlib.Data.List.Induction
import Hyperslab.Proofs.Odometer
import Hyperslab.Proofs.Slice.Indices

/-! Which tuples an odometer gives, and in which order. The number that its counters stand for is
the place of the next tuple among all tuples of indices in lexicographic order. -/
namespace Hyperslab.Odometer

/-- All tuples with an index of each slice, the last position fastest. -/
def tuples : List Slice → List (List UInt64)
  | [] => [[]]
  | slice :: slices => slice.indices.flatMap fun i => (tuples slices).map (i :: ·)

/-- What an odometer can be asked for. -/
inductive Call where
  | next
  | reset
  deriving DecidableEq, Repr

/-- The odometer after a call. -/
def call (o : Odometer) : Call → Odometer
  | .next => o.next.2
  | .reset => o.reset

/-- The odometer after calls one after the other. -/
def run (o : Odometer) (calls : List Call) : Odometer := calls.foldl call o

/-- How many tuples have been asked for since the odometer was started or reset. -/
def asked (calls : List Call) : Nat :=
  calls.foldl (fun n call => match call with
    | .next => n + 1
    | .reset => 0) 0

variable {slice : Slice} {slices : List Slice} {counters : List UInt64} {o : Odometer}

/-- A place in a concatenation of lists of one length is a place in one of them. -/
theorem getElem?_flatMap {α β : Type} {f : α → List β} {n m : Nat} (xs : List α)
    (hLength : ∀ x ∈ xs, (f x).length = n) (hm : m < n) (k : Nat) :
    (xs.flatMap f)[k * n + m]? = xs[k]?.bind fun x => (f x)[m]? := by
  induction xs generalizing k with
  | nil => simp
  | cons x xs ih =>
      have hFirst := hLength x (by simp)
      cases k with
      | zero =>
          rw [List.flatMap_cons, Nat.zero_mul, Nat.zero_add,
            List.getElem?_append_left (by omega)]
          simp
      | succ k =>
          have hBehind : (k + 1) * n + m = (f x).length + (k * n + m) := by
            rw [hFirst, Nat.succ_mul]
            omega
          rw [List.flatMap_cons, hBehind, List.getElem?_append_right (Nat.le_add_right _ _),
            Nat.add_sub_cancel_left, ih fun y hy => hLength y (by simp [hy])]
          simp

@[simp] theorem length_tuples (slices : List Slice) : (tuples slices).length = volume slices := by
  induction slices with
  | nil => rfl
  | cons slice slices ih =>
      simp only [tuples, volume_cons, List.length_flatMap, List.length_map, ih, List.map_const',
        List.sum_replicate_nat, Slice.length_indices]

/-- A tuple has an index of each slice, and any such choice is a tuple. -/
theorem mem_tuples {tuple : List UInt64} : tuple ∈ tuples slices ↔
    List.Forall₂ (fun slice i => i ∈ slice.indices) slices tuple := by
  induction slices generalizing tuple with
  | nil => simp [tuples]
  | cons slice slices ih =>
      simp only [tuples, List.mem_flatMap, List.mem_map, List.forall₂_cons_left_iff, ih]
      constructor
      · rintro ⟨i, hi, rest, hRest, rfl⟩
        exact ⟨i, rest, hi, hRest, rfl⟩
      · rintro ⟨i, rest, hi, hRest, rfl⟩
        exact ⟨i, hi, rest, hRest, rfl⟩

theorem pairwise_tuples (slices : List Slice) :
    (tuples slices).Pairwise (List.Lex (· < ·)) := by
  induction slices with
  | nil => exact List.pairwise_singleton _ _
  | cons slice slices ih =>
      rw [tuples, List.pairwise_flatMap]
      constructor
      · intro i _
        rw [List.pairwise_map]
        exact ih.imp fun hLt => .cons hLt
      · refine slice.pairwise_indices.imp fun hLt => ?_
        intro tuple hTuple other hOther
        obtain ⟨rest, _, rfl⟩ := List.mem_map.mp hTuple
        obtain ⟨rest', _, rfl⟩ := List.mem_map.mp hOther
        exact .rel hLt

example : tuples [.full 2, .range 1 3 (some 7)] =
    [[0, 1], [0, 4], [0, 7], [1, 1], [1, 4], [1, 7]] := by
  decide

/-- The counters point at the tuple in the place that they stand for. -/
theorem getElem?_tuples (h : Within slices counters) :
    (tuples slices)[place slices counters]? =
      some (slices.zipWith (fun slice counter => slice.nth counter) counters) := by
  induction h with
  | nil => rfl
  | @cons slice counter slices counters hLt hRest ih =>
      have hPlace : place slices counters < volume slices := place_lt hRest
      rw [tuples, place, getElem?_flatMap _ (by simp) hPlace, Slice.getElem?_indices hLt,
        Option.bind_some, List.getElem?_map, ih]
      rfl

/-- The odometer has given `n` tuples of the slices, or all of them if there are not as many. -/
inductive Stands (slices : List Slice) : Nat → Odometer → Prop where
  | before {counters : List UInt64} (within : Within slices counters) :
      Stands slices (place slices counters) ⟨slices, counters, false⟩
  | behind {counters : List UInt64} {n : Nat} (all : volume slices ≤ n) :
      Stands slices n ⟨slices, counters, true⟩

theorem stands_start (slices : List Slice) : Stands slices 0 (start slices) := by
  cases hEmpty : slices.any (·.count = 0) with
  | true =>
      rw [start, hEmpty]
      exact .behind (Nat.le_of_eq (volume_eq_zero hEmpty))
  | false =>
      have hStands := Stands.before (within_start hEmpty)
      rw [place_zero] at hStands
      rw [start, hEmpty]
      exact hStands

/-- The next tuple is the one that the odometer stands before. -/
theorem Stands.next {n : Nat} (h : Stands slices n o) :
    o.next.1 = (tuples slices)[n]? ∧ Stands slices (n + 1) o.next.2 := by
  cases h with
  | @before counters hWithin =>
      obtain ⟨hSome, hNone⟩ := advance_spec hWithin
      have hTuple := getElem?_tuples hWithin
      simp only [Odometer.next, Bool.false_eq_true, if_false, current, hTuple]
      cases hAdvance : advance slices counters with
      | some counters' =>
          obtain ⟨hWithin', hPlace⟩ := hSome counters' hAdvance
          refine ⟨rfl, ?_⟩
          rw [← hPlace]
          exact .before hWithin'
      | none => exact ⟨rfl, .behind (Nat.le_of_eq (hNone hAdvance).symm)⟩
  | @behind counters n hAll =>
      have hNoTuple : (tuples slices)[n]? = none := by
        rw [List.getElem?_eq_none_iff, length_tuples]
        exact hAll
      exact ⟨hNoTuple.symm, .behind (Nat.le_succ_of_le hAll)⟩

theorem Stands.slices_eq {n : Nat} (h : Stands slices n o) : o.slices = slices := by
  cases h <;> rfl

/-- Whatever was called before, the odometer stands before the tuple that has not been asked for. -/
theorem stands_run (slices : List Slice) (calls : List Call) :
    Stands slices (asked calls) ((start slices).run calls) := by
  induction calls using List.reverseRecOn with
  | nil => exact stands_start slices
  | append_singleton calls last ih =>
      rw [run, List.foldl_append, asked, List.foldl_append]
      cases last with
      | next => exact ih.next.2
      | reset =>
          change Stands slices 0 (start ((start slices).run calls).slices)
          rw [ih.slices_eq]
          exact stands_start slices

/-- Counting up, with every operation checked. -/
def advanceChecked : List Slice → List UInt64 → Option (Option (List UInt64))
  | slice :: slices, counter :: counters => do
    match ← advanceChecked slices counters with
    | some counters' => some (some (counter :: counters'))
    | none =>
      let counter' ← addChecked counter 1
      let count ← slice.countChecked
      if counter' < count then some (some (counter' :: counters.map fun _ => 0)) else some none
  | _, _ => some none

/-- The next tuple and the odometer after it, with every operation checked. -/
def nextChecked (o : Odometer) : Option (Option (List UInt64) × Odometer) :=
  if o.done then some (none, o)
  else do
    let tuple ← (o.slices.zip o.counters).mapM fun (slice, counter) => slice.nthChecked counter
    match ← advanceChecked o.slices o.counters with
    | some counters => some (some tuple, { o with counters })
    | none => some (some tuple, { o with counters := o.slices.map fun _ => 0, done := true })

theorem advanceChecked_eq (h : Within slices counters) :
    advanceChecked slices counters = some (advance slices counters) := by
  induction h with
  | nil => rfl
  | @cons slice counter slices counters hLt _ ih =>
      rw [advanceChecked, advance, ih, Option.bind_eq_bind, Option.bind_some]
      cases advance slices counters with
      | some counters' => rfl
      | none =>
          have hSum : counter.toNat + (1 : UInt64).toNat ≤ maxWord :=
            Nat.le_sub_one_of_lt (Nat.lt_of_le_of_lt (UInt64.lt_iff_toNat_lt.mp hLt)
              slice.count.toNat_lt)
          simp only [addChecked, if_pos hSum, Slice.countChecked_eq, Option.bind_eq_bind,
            Option.bind_some]
          split <;> rfl

theorem mapM_nthChecked (h : Within slices counters) :
    (slices.zip counters).mapM (fun (slice, counter) => slice.nthChecked counter) =
      some (slices.zipWith (fun slice counter => slice.nth counter) counters) := by
  induction h with
  | nil => rfl
  | cons hLt _ ih =>
      simp only [List.zip_cons_cons, List.mapM_cons, Slice.nthChecked_eq hLt, ih]
      rfl

theorem Stands.nextChecked {n : Nat} (h : Stands slices n o) : o.nextChecked = some o.next := by
  cases h with
  | @before counters hWithin =>
      simp only [Odometer.nextChecked, Odometer.next, Bool.false_eq_true, if_false, current,
        mapM_nthChecked hWithin, advanceChecked_eq hWithin, Option.bind_eq_bind, Option.bind_some]
      cases advance slices counters <;> rfl
  | behind => rfl

/-- An odometer gives all tuples of indices, each once and in lexicographic order, and then none. It
does so again after it is reset, at whatever tuple that is. No operation on the way leaves the range
of a word. -/
theorem next_enumerates (slices : List Slice) (calls : List Call) :
    ((start slices).run calls).next.1 = (tuples slices)[asked calls]? ∧
      ((start slices).run calls).nextChecked = some ((start slices).run calls).next ∧
      ((start slices).run calls).total.toNat = min (tuples slices).length maxWord ∧
      (∀ tuple, tuple ∈ tuples slices ↔
        List.Forall₂ (fun slice i => i ∈ slice.indices) slices tuple) ∧
      (tuples slices).Pairwise (List.Lex (· < ·)) ∧
      ∀ slice : Slice, slice.countChecked = some slice.count ∧
        ∀ i, i ∈ slice.indices ↔ slice.Selects i := by
  have hStands := stands_run slices calls
  refine ⟨hStands.next.1, hStands.nextChecked, ?_, fun _ => mem_tuples, pairwise_tuples slices,
    fun slice => ⟨slice.countChecked_eq, fun _ => Slice.mem_indices⟩⟩
  rw [total, hStands.slices_eq, toNat_productClamped, length_tuples, List.map_map]
  rfl

end Hyperslab.Odometer
