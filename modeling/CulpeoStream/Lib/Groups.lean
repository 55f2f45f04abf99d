import CulpeoStream.Lib.Checks
import Mathlib.Data.List.Nodup

/-!
# Names within groups

Things that are grouped by a key and have names.  `Distinct` asks of every group of two or
more that its names are good and differ from each other; a thing that is alone in its group
may have any name.  It is enough to look at the keys that occur (`distinct_iff_of_keys`), and
within a group to go through the names with a list of those that were seen (`fresh_cons`).
A map that keeps apart what has different keys, and what has different names, keeps the
condition (`distinct_map`).

A program checks this group by group, in the order in which the keys first occur, and it goes
through a group with the names seen so far (`checkGroups_iff`).
-/

namespace Groups

universe u v w x y z

variable {α : Type u} {β : Type v} {κ : Type w} {ν : Type x} {κ' : Type y} {ν' : Type z}
  [DecidableEq κ] [DecidableEq κ']

/-- The things with a key. -/
def group (key : α → κ) (xs : List α) (k : κ) : List α := xs.filter fun x => key x = k

/-- In every group of two or more the names are good, and no two are the same. -/
def Distinct (key : α → κ) (name : α → ν) (good : ν → Prop) (xs : List α) : Prop :=
  ∀ k, 2 ≤ (group key xs k).length →
    (∀ x ∈ group key xs k, good (name x)) ∧ ((group key xs k).map name).Nodup

theorem mem_group {key : α → κ} {xs : List α} {k : κ} {x : α} :
    x ∈ group key xs k ↔ x ∈ xs ∧ key x = k := by
  rw [group, List.mem_filter, decide_eq_true_eq]

/-- It is enough to look at the keys that occur. -/
theorem distinct_iff_of_keys {key : α → κ} {name : α → ν} {good : ν → Prop} {xs : List α}
    {keys : List κ} (hkeys : ∀ x ∈ xs, key x ∈ keys) :
    Distinct key name good xs ↔ ∀ k ∈ keys, 2 ≤ (group key xs k).length →
      (∀ x ∈ group key xs k, good (name x)) ∧ ((group key xs k).map name).Nodup := by
  refine ⟨fun h k _ => h k, fun h k htwo => ?_⟩
  obtain ⟨x, hx⟩ : ∃ x, x ∈ group key xs k :=
    List.exists_mem_of_length_pos (by omega)
  obtain ⟨hmem, rfl⟩ := mem_group.mp hx
  exact h (key x) (hkeys x hmem) htwo

/-- The same with the names compared in pairs. -/
theorem distinct_iff_pairwise {key : α → κ} {name : α → ν} {good : ν → Prop} {xs : List α} :
    Distinct key name good xs ↔ ∀ k, 2 ≤ xs.countP (fun x => key x = k) →
      (∀ x ∈ xs, key x = k → good (name x)) ∧
        xs.Pairwise fun x y => key x = k → key y = k → name x ≠ name y := by
  refine forall_congr' fun k => ?_
  rw [List.countP_eq_length_filter, List.Nodup, List.pairwise_map, group, List.pairwise_filter]
  simp only [List.mem_filter, decide_eq_true_eq, and_imp]

/-- Names that are good in two ways. -/
theorem distinct_and {key : α → κ} {name : α → ν} {good good' : ν → Prop} {xs : List α} :
    Distinct key name (fun n => good n ∧ good' n) xs ↔
      Distinct key name good xs ∧
        ∀ k, 2 ≤ (group key xs k).length → ∀ x ∈ group key xs k, good' (name x) := by
  constructor
  · intro h
    exact ⟨fun k htwo => ⟨fun x hx => ((h k htwo).1 x hx).1, (h k htwo).2⟩,
      fun k htwo x hx => ((h k htwo).1 x hx).2⟩
  · rintro ⟨h, hgood⟩ k htwo
    exact ⟨fun x hx => ⟨(h k htwo).1 x hx, hgood k htwo x hx⟩, (h k htwo).2⟩

/-! ### Going through the names -/

/-- Names that are good, differ from each other, and were not seen. -/
def Fresh (good : ν → Prop) (seen names : List ν) : Prop :=
  (∀ n ∈ names, good n) ∧ names.Nodup ∧ ∀ n ∈ names, n ∉ seen

theorem fresh_nil (good : ν → Prop) (seen : List ν) : Fresh good seen [] :=
  ⟨nofun, List.nodup_nil, nofun⟩

theorem fresh_cons {good : ν → Prop} {seen names : List ν} {n : ν} :
    Fresh good seen (n :: names) ↔ good n ∧ n ∉ seen ∧ Fresh good (n :: seen) names := by
  rw [Fresh, Fresh, List.forall_mem_cons, List.forall_mem_cons, List.nodup_cons]
  constructor
  · rintro ⟨⟨hgood, hrest⟩, ⟨hnew, hnodup⟩, hn, hseen⟩
    refine ⟨hgood, hn, hrest, hnodup, fun m hm => ?_⟩
    rw [List.mem_cons, not_or]
    exact ⟨fun heq => hnew (heq ▸ hm), hseen m hm⟩
  · rintro ⟨hgood, hn, hrest, hnodup, hseen⟩
    refine ⟨⟨hgood, hrest⟩, ⟨fun hm => hseen n hm List.mem_cons_self, hnodup⟩, hn, ?_⟩
    exact fun m hm hold => hseen m hm (List.mem_cons_of_mem n hold)

theorem fresh_nil_iff {good : ν → Prop} {name : α → ν} {xs : List α} :
    Fresh good [] (xs.map name) ↔ (∀ x ∈ xs, good (name x)) ∧ (xs.map name).Nodup := by
  rw [Fresh, List.forall_mem_map]
  exact ⟨fun h => ⟨h.1, h.2.1⟩, fun h => ⟨h.1, h.2, fun n _ => List.not_mem_nil⟩⟩

/-! ### Checking group by group -/

section Check

variable {ε : Type y} {key : α → κ} {name : α → ν} {good : ν → Prop}

/-- The names of a group are checked with a list of those that were seen. -/
theorem scan_iff {scan : List ν → List α → Except ε PUnit}
    (hnil : ∀ seen, scan seen [] = .ok ⟨⟩)
    (hcons : ∀ seen x xs, scan seen (x :: xs) = .ok ⟨⟩ ↔
      good (name x) ∧ name x ∉ seen ∧ scan (name x :: seen) xs = .ok ⟨⟩)
    (seen : List ν) (xs : List α) :
    scan seen xs = .ok ⟨⟩ ↔ Fresh good seen (xs.map name) := by
  induction xs generalizing seen with
  | nil => exact ⟨fun _ => fresh_nil good seen, fun _ => hnil seen⟩
  | cons x xs ih => rw [hcons, ih, List.map_cons, fresh_cons]

/-- The groups are checked in the order in which the keys first occur; a group of one is
skipped. -/
theorem checkGroups_iff {xs : List α} {check : κ → Except ε PUnit}
    {scan : κ → List ν → List α → Except ε PUnit}
    (hcheck : ∀ k, check k =
      if (group key xs k).length < 2 then .ok ⟨⟩ else scan k [] (group key xs k))
    (hscan : ∀ k seen xs, scan k seen xs = .ok ⟨⟩ ↔ Fresh good seen (xs.map name)) :
    (xs.map key).eraseDups.forM check = .ok ⟨⟩ ↔ Distinct key name good xs := by
  have hkeys : ∀ x ∈ xs, key x ∈ (xs.map key).eraseDups := fun x hx =>
    List.mem_eraseDups.mpr (List.mem_map_of_mem hx)
  rw [Checks.forM_eq_ok_iff, distinct_iff_of_keys hkeys]
  refine forall₂_congr fun k _ => ?_
  rw [hcheck, ← fresh_nil_iff]
  by_cases htwo : (group key xs k).length < 2
  · rw [if_pos htwo]
    exact ⟨fun _ h => absurd h (Nat.not_le.mpr htwo), fun _ => rfl⟩
  · rw [if_neg htwo, hscan]
    exact ⟨fun h _ => h, fun h => h (Nat.not_lt.mp htwo)⟩

end Check

/-! ### Maps -/

section Map

variable {key : α → κ} {name : α → ν} {good : ν → Prop} {key' : β → κ'} {name' : β → ν'}
  {good' : ν' → Prop} {f : β → α} {ys : List β}

theorem group_map (hkey : ∀ y ∈ ys, ∀ z ∈ ys, key (f y) = key (f z) ↔ key' y = key' z) {z : β}
    (hz : z ∈ ys) : group key (ys.map f) (key (f z)) = (group key' ys (key' z)).map f := by
  rw [group, group, List.filter_map]
  refine congrArg (List.map f) (List.filter_congr fun y hy => ?_)
  exact decide_eq_decide.mpr (hkey y hy z hz)

theorem nodup_map_iff (hname : ∀ y ∈ ys, ∀ z ∈ ys, name (f y) = name (f z) ↔ name' y = name' z) :
    ((ys.map f).map name).Nodup ↔ (ys.map name').Nodup := by
  rw [List.map_map, List.Nodup, List.Nodup, List.pairwise_map, List.pairwise_map]
  exact List.Pairwise.iff_of_mem fun hy hz => not_congr (hname _ hy _ hz)

/-- **Maps.**  Keys and names that are equal after the map just if they were before. -/
theorem distinct_map (hkey : ∀ y ∈ ys, ∀ z ∈ ys, key (f y) = key (f z) ↔ key' y = key' z)
    (hname : ∀ y ∈ ys, ∀ z ∈ ys, name (f y) = name (f z) ↔ name' y = name' z)
    (hgood : ∀ y ∈ ys, good (name (f y)) ↔ good' (name' y)) :
    Distinct key name good (ys.map f) ↔ Distinct key' name' good' ys := by
  have hgroup : ∀ z ∈ ys, (2 ≤ (group key (ys.map f) (key (f z))).length →
      (∀ x ∈ group key (ys.map f) (key (f z)), good (name x)) ∧
        ((group key (ys.map f) (key (f z))).map name).Nodup) ↔
      (2 ≤ (group key' ys (key' z)).length →
        (∀ y ∈ group key' ys (key' z), good' (name' y)) ∧
          ((group key' ys (key' z)).map name').Nodup) := by
    intro z hz
    have hmem : ∀ y ∈ group key' ys (key' z), y ∈ ys := fun y hy => (mem_group.mp hy).1
    rw [group_map hkey hz, List.length_map, List.forall_mem_map,
      nodup_map_iff fun y hy z hz => hname y (hmem y hy) z (hmem z hz)]
    exact imp_congr_right fun _ => and_congr_left fun _ =>
      forall₂_congr fun y hy => hgood y (hmem y hy)
  rw [distinct_iff_of_keys fun x hx => List.mem_map_of_mem hx,
    distinct_iff_of_keys fun y hy => List.mem_map_of_mem hy, List.map_map, List.forall_mem_map,
    List.forall_mem_map]
  exact forall₂_congr hgroup

end Map

end Groups
