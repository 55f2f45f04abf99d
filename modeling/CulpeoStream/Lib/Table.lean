import Mathlib.Data.List.Basic

/-!
# Records with a key

A list of records that is searched by a key, and in which a record replaces the ones
with the same key in place.
-/

namespace Table

universe u v

variable {α : Type u} {κ : Type v} [DecidableEq κ]

/-- A replaced record is found under its own key, and no other key sees it. -/
theorem find?_replace (key : α → κ) (a : α) (k : κ) (l : List α) :
    (l.map fun b => if key b = key a then a else b).find? (fun b => key b = k) =
      if k = key a then (l.find? fun b => key b = k).map fun _ => a
      else l.find? fun b => key b = k := by
  have hkey : ∀ b, key (if key b = key a then a else b) = key b := by
    intro b
    split
    · exact Eq.symm ‹_›
    · rfl
  simp only [List.find?_map, Function.comp_def, hkey]
  split
  · subst k
    cases hfind : l.find? fun b => key b = key a with
    | none => rfl
    | some b =>
        have hb : key b = key a := by simpa using List.find?_some hfind
        simp [hb]
  · rename_i hne
    cases hfind : l.find? fun b => key b = k with
    | none => rfl
    | some b =>
        have hb : key b = k := by simpa using List.find?_some hfind
        have hne' : key b ≠ key a := by rwa [hb]
        simp [hne']

end Table
