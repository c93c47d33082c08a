import Hyperslab.View.Edit

/-!
A cache with one view of everything for each schema. Schemas are told apart by numbers, not by what
is in them. Each view that is built gets a serial number of its own, so that it can be seen whether
two answers are the same view or only equal ones.
-/

namespace Hyperslab

/-- A view with its serial number. -/
structure CachedView where
  serial : Nat
  view : View

/-- The views by the numbers of their schemas, and how many views have been built so far. -/
structure ViewCache where
  entries : List (Nat × CachedView)
  built : Nat

namespace ViewCache

def empty : ViewCache := ⟨[], 0⟩

/-- The view of everything in the schema with number `key`. It is built when it is first asked
for. -/
def get (cache : ViewCache) (key : Nat) (schema : Schema) :
    Except Fault CachedView × ViewCache :=
  match cache.entries.lookup key with
  | some cached => (.ok cached, cache)
  | none =>
    match View.universal schema with
    | .error fault => (.error fault, cache)
    | .ok view =>
      let cached := ⟨cache.built, view⟩
      (.ok cached, ⟨(key, cached) :: cache.entries, cache.built + 1⟩)

/-- Drop the view of a schema. The answer tells whether there was one. -/
def invalidate (cache : ViewCache) (key : Nat) : Bool × ViewCache :=
  ((cache.entries.lookup key).isSome,
    { cache with entries := cache.entries.filter (·.1 ≠ key) })

/-- Drop all views. -/
def clear (cache : ViewCache) : ViewCache := { cache with entries := [] }

def size (cache : ViewCache) : Nat := cache.entries.length

def isEmpty (cache : ViewCache) : Bool := cache.size = 0

end ViewCache

end Hyperslab
