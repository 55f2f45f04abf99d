import Mathlib.Data.List.Nodup
import Mathlib.Data.List.Perm.Basic

/-!
# Maps in the order of insertion

A map that is iterated in the order in which its keys came in.  A key that is set again keeps
its place, and one that is set after it was erased goes to the end.

What is in a map is said by `get`, and `get_set` and `get_erase` follow it through the
operations; `size_set` and `size_erase` follow the number of keys.
-/

universe u v

/-- The entries of a map, no two of them with one key. -/
structure InsertionMap (K : Type u) (V : Type v) where
  entries : List (K × V)
  nodup : (entries.map Prod.fst).Nodup

namespace InsertionMap

variable {K : Type u} {V : Type v} [DecidableEq K] {m : InsertionMap K V} {j k : K} {v w : V}

def empty : InsertionMap K V := ⟨[], List.nodup_nil⟩

def keys (m : InsertionMap K V) : List K := m.entries.map Prod.fst

def size (m : InsertionMap K V) : ℕ := m.entries.length

def get (m : InsertionMap K V) (k : K) : Option V :=
  (m.entries.find? fun entry => entry.1 = k).map Prod.snd

def erase (m : InsertionMap K V) (k : K) : InsertionMap K V where
  entries := m.entries.filter fun entry => entry.1 != k
  nodup := m.nodup.sublist (List.filter_sublist.map Prod.fst)

theorem get_eq_some_iff : m.get k = some v ↔ (k, v) ∈ m.entries := by
  rw [get, Option.map_eq_some_iff]
  constructor
  · rintro ⟨⟨j, w⟩, hfind, rfl⟩
    have hkey : j = k := by simpa using List.find?_some hfind
    rw [← hkey]
    exact List.mem_of_find?_eq_some hfind
  · intro hmem
    cases hfind : m.entries.find? fun entry => entry.1 = k with
    | none => exact absurd (decide_eq_true rfl) (List.find?_eq_none.mp hfind _ hmem)
    | some entry =>
        have hkey : entry.1 = k := by simpa using List.find?_some hfind
        have hsame := List.inj_on_of_nodup_map m.nodup (List.mem_of_find?_eq_some hfind) hmem hkey
        exact ⟨entry, rfl, by rw [hsame]⟩

theorem mem_keys_iff : k ∈ m.keys ↔ ∃ v, m.get k = some v := by
  simp only [get_eq_some_iff, keys, List.mem_map, Prod.exists, exists_and_right, exists_eq_right]

theorem get_eq_none_iff : m.get k = none ↔ k ∉ m.keys := by
  rw [mem_keys_iff, not_exists, Option.eq_none_iff_forall_ne_some]

instance (m : InsertionMap K V) (k : K) : Decidable (k ∈ m.keys) :=
  decidable_of_iff ((m.get k).isSome = true)
    (by rw [Option.isSome_iff_exists, mem_keys_iff])

/-- The entries with the one of a key set: in its place, or at the end. -/
def setEntries (entries : List (K × V)) (k : K) (v : V) : List (K × V) :=
  if k ∈ entries.map Prod.fst then
    entries.map fun entry => if entry.1 = k then (k, v) else entry
  else entries ++ [(k, v)]

theorem map_fst_setEntries (entries : List (K × V)) (k : K) (v : V) :
    (setEntries entries k v).map Prod.fst =
      if k ∈ entries.map Prod.fst then entries.map Prod.fst
      else entries.map Prod.fst ++ [k] := by
  unfold setEntries
  split
  · rw [List.map_map]
    refine List.map_congr_left fun entry _ => ?_
    rw [Function.comp_apply]
    split
    · exact Eq.symm ‹_›
    · rfl
  · rw [List.map_append, List.map_singleton]

def set (m : InsertionMap K V) (k : K) (v : V) : InsertionMap K V where
  entries := setEntries m.entries k v
  nodup := by
    rw [map_fst_setEntries]
    split
    · exact m.nodup
    · rename_i hnew
      rw [List.nodup_append_comm, List.singleton_append, List.nodup_cons]
      exact ⟨hnew, m.nodup⟩

theorem mem_setEntries {entries : List (K × V)} :
    (j, w) ∈ setEntries entries k v ↔ if j = k then w = v else (j, w) ∈ entries := by
  unfold setEntries
  by_cases hhas : k ∈ entries.map Prod.fst
  · rw [if_pos hhas, List.mem_map]
    constructor
    · rintro ⟨entry, hmem, hentry⟩
      by_cases hkey : entry.1 = k
      · rw [if_pos hkey, Prod.mk.injEq] at hentry
        rw [if_pos hentry.1.symm]
        exact hentry.2.symm
      · rw [if_neg hkey] at hentry
        rw [hentry] at hmem hkey
        rw [if_neg hkey]
        exact hmem
    · intro h
      split at h
      · rename_i hkey
        obtain ⟨entry, hmem, hentry⟩ := List.mem_map.mp hhas
        exact ⟨entry, hmem, by rw [if_pos hentry, hkey, h]⟩
      · rename_i hkey
        exact ⟨(j, w), h, if_neg hkey⟩
  · rw [if_neg hhas, List.mem_append, List.mem_singleton, Prod.mk.injEq]
    split
    · rename_i hkey
      rw [hkey]
      refine ⟨fun h => ?_, fun h => .inr ⟨rfl, h⟩⟩
      rcases h with h | h
      · exact absurd (List.mem_map_of_mem h) hhas
      · exact h.2
    · rename_i hkey
      exact ⟨fun h => h.resolve_right fun h => hkey h.1, .inl⟩

theorem get_set : (m.set k v).get j = if j = k then some v else m.get j := by
  refine Option.ext fun w => ?_
  rw [get_eq_some_iff, set, mem_setEntries]
  split
  · rw [Option.some.injEq, eq_comm]
  · exact get_eq_some_iff.symm

theorem keys_set : (m.set k v).keys = if k ∈ m.keys then m.keys else m.keys ++ [k] :=
  (map_fst_setEntries m.entries k v).trans (if_congr Iff.rfl rfl rfl)

omit [DecidableEq K] in
theorem size_eq : m.size = m.keys.length := (List.length_map Prod.fst).symm

theorem size_set : (m.set k v).size = if k ∈ m.keys then m.size else m.size + 1 := by
  rw [size_eq, keys_set, size_eq]
  split
  · rfl
  · rw [List.length_append, List.length_singleton]

theorem get_erase : (m.erase k).get j = if j = k then none else m.get j := by
  refine Option.ext fun w => ?_
  rw [get_eq_some_iff, erase, List.mem_filter, ← get_eq_some_iff]
  by_cases hkey : j = k
  · simp [hkey]
  · simp [hkey]

theorem mem_keys_erase (h : j ∈ (m.erase k).keys) : j ∈ m.keys := by
  obtain ⟨w, hget⟩ := mem_keys_iff.mp h
  rw [get_erase] at hget
  split at hget
  · cases hget
  · exact mem_keys_iff.mpr ⟨w, hget⟩

theorem keys_erase : (m.erase k).keys = m.keys.erase k := by
  have hnodup : m.keys.Nodup := m.nodup
  rw [hnodup.erase_eq_filter, keys, keys, erase, List.filter_map]
  rfl

theorem size_erase_le : (m.erase k).size ≤ m.size := List.length_filter_le ..

theorem size_erase (h : k ∈ m.keys) : (m.erase k).size + 1 = m.size := by
  rw [size_eq, keys_erase, size_eq]
  exact List.length_erase_add_one h

end InsertionMap
