import Mathlib.Data.List.AList

/-! Finite maps with at most one value for a key, and the list of their values. -/

namespace TypeDBDriver.Library

/-- `std::collections::HashMap`. The order of the entries stands for the unspecified
iteration order. -/
abbrev HashMap (κ ν : Type) := AList fun _ : κ => ν

namespace HashMap

variable {κ ν : Type}

def values (map : HashMap κ ν) : List ν := map.entries.map (·.2)

variable [DecidableEq κ] {map : HashMap κ ν} {key : κ} {value : ν}

theorem mem_values (found : map.lookup key = some value) : value ∈ values map :=
  List.mem_map.mpr ⟨⟨key, value⟩, AList.mem_lookup_iff.mp found, rfl⟩

theorem values_insert (map : HashMap κ ν) (key : κ) (value : ν) :
    values (map.insert key value) = value :: values (map.erase key) := rfl

private theorem map_kerase_perm {entries : List (Sigma fun _ : κ => ν)}
    (found : entries.dlookup key = some value) :
    (entries.map (·.2)).Perm (value :: (entries.kerase key).map (·.2)) := by
  induction entries with
  | nil => cases found
  | cons entry rest ih =>
    obtain ⟨other, content⟩ := entry
    by_cases same : key = other
    · subst same
      rw [List.dlookup_cons_eq, Option.some.injEq] at found
      subst found
      have removed : List.kerase key (⟨key, content⟩ :: rest) = rest := List.kerase_cons_eq rfl
      rw [removed]
      exact .refl _
    · rw [List.dlookup_cons_ne rest ⟨other, content⟩ same] at found
      rw [List.kerase_cons_ne same]
      exact ((ih found).cons content).trans (.swap value content _)

theorem values_perm (found : map.lookup key = some value) :
    (values map).Perm (value :: values (map.erase key)) :=
  map_kerase_perm found

theorem values_erase_of_lookup_eq_none (absent : map.lookup key = none) :
    values (map.erase key) = values map := by
  have unlisted : key ∉ map.entries.keys := List.dlookup_eq_none.mp absent
  exact congrArg (List.map (·.2)) (List.kerase_of_notMem_keys unlisted)

theorem lookup_of_mem {entry : Sigma fun _ : κ => ν} (listed : entry ∈ map.entries) :
    map.lookup entry.1 = some entry.2 :=
  AList.mem_lookup_iff.mpr listed

theorem values_nodup (injective : ∀ {first second : κ} {value : ν}, map.lookup first = some value →
      map.lookup second = some value → first = second) : (values map).Nodup := by
  refine List.Nodup.map_on ?_ map.nodupKeys.nodup
  intro left leftListed right rightListed same
  obtain ⟨first, value⟩ := left
  obtain ⟨second, other⟩ := right
  cases same
  have sameKey : first = second :=
    injective (lookup_of_mem leftListed) (lookup_of_mem rightListed)
  rw [sameKey]

end HashMap

end TypeDBDriver.Library
