import Mathlib.Data.List.Nodup
import Mathlib.Logic.Function.Basic

/-!
# Parties that hold things

A table of named things, each with a mark that says whether it lies idle, and parties of
which each holds at most one thing.  A party takes up a new thing or one that is there,
and gives it up again; a thing can be marked idle at any time.

Two properties of such a table are kept under conditions that are stated move by move.

* **Exclusive** (`Exclusive.apply`): no thing has two holders, as long as no party takes
  up a thing that is held.
* **Marked** (`Marked.apply`): a thing is idle exactly when nobody holds it, as long as
  moreover a holder marks what it gives up, and nobody marks a thing that is held.
-/

namespace Tenancy

universe u v

variable {ι : Type u} {α : Type v}

structure Thing (α : Type v) where
  name : α
  idle : Bool

/-- Who holds which thing, by its place in the table. -/
structure State (ι : Type u) (α : Type v) where
  holds : ι → Option ℕ
  things : List (Thing α)

inductive Move (ι : Type u) (α : Type v) where
  | rests
  /-- Take up a new thing. -/
  | begins (i : ι) (name : α)
  /-- Take up a thing that is there. -/
  | resumes (i : ι) (ref : ℕ)
  /-- Give up a thing and mark it. -/
  | leaves (i : ι)
  /-- Give up a thing without marking it. -/
  | drops (i : ι)
  | marks (ref : ℕ)

/-- Set the mark of a thing. -/
def mark (idle : Bool) (things : List (Thing α)) (ref : ℕ) : List (Thing α) :=
  things.modify ref fun thing => { thing with idle }

theorem getElem?_mark (idle : Bool) (things : List (Thing α)) (ref k : ℕ) :
    (mark idle things ref)[k]? = (things[k]?).map fun thing =>
      if ref = k then { thing with idle } else thing :=
  List.getElem?_modify _ _ _ _

/-- A thing of the table after a mark. -/
theorem marked_cases {idle : Bool} {things : List (Thing α)} {ref k : ℕ} {thing : Thing α}
    (h : (mark idle things ref)[k]? = some thing) :
    (k = ref ∧ thing.idle = idle) ∨ (k ≠ ref ∧ things[k]? = some thing) := by
  rw [getElem?_mark] at h
  obtain ⟨old, hold, hthing⟩ := Option.map_eq_some_iff.mp h
  by_cases hk : ref = k
  · rw [if_pos hk] at hthing
    cases hthing
    exact .inl ⟨hk.symm, rfl⟩
  · rw [if_neg hk] at hthing
    cases hthing
    exact .inr ⟨Ne.symm hk, hold⟩

theorem names_mark (idle : Bool) (things : List (Thing α)) (ref : ℕ) :
    (mark idle things ref).map Thing.name = things.map Thing.name := by
  refine List.ext_getElem? fun k => ?_
  rw [List.getElem?_map, List.getElem?_map, getElem?_mark, Option.map_map]
  refine congrArg (Option.map · things[k]?) (funext fun thing => ?_)
  show Thing.name (if ref = k then _ else _) = thing.name
  split
  · rfl
  · rfl

/-- Replacing a thing by itself under another mark. -/
theorem set_eq_mark {things : List (Thing α)} {ref : ℕ} {thing : Thing α}
    (h : things[ref]? = some thing) (idle : Bool) :
    things.set ref { thing with idle } = mark idle things ref := by
  refine List.ext_getElem? fun k => ?_
  rw [getElem?_mark, List.getElem?_set]
  split
  · rename_i hk
    subst hk
    rw [h]
    obtain ⟨hlt, -⟩ := List.getElem?_eq_some_iff.mp h
    rw [if_pos hlt, Option.map_some]
  · exact Option.map_id'.symm

@[simp] theorem length_mark (idle : Bool) (things : List (Thing α)) (ref : ℕ) :
    (mark idle things ref).length = things.length :=
  List.length_modify _ _ _

section Apply

variable [DecidableEq ι]

namespace State

/-- The table after a move. -/
def apply (s : State ι α) : Move ι α → State ι α
  | .rests => s
  | .begins i name =>
      { holds := Function.update s.holds i (some s.things.length)
        things := s.things ++ [⟨name, false⟩] }
  | .resumes i ref =>
      { holds := Function.update s.holds i (some ref), things := mark false s.things ref }
  | .leaves i =>
      match s.holds i with
      | none => s
      | some ref =>
          { holds := Function.update s.holds i none, things := mark true s.things ref }
  | .drops i => { s with holds := Function.update s.holds i none }
  | .marks ref => { s with things := mark true s.things ref }

theorem apply_leaves_none {s : State ι α} {i : ι} (h : s.holds i = none) :
    s.apply (.leaves i) = s := by
  show (match s.holds i with | none => s | some _ => _) = s
  rw [h]

theorem apply_leaves_some {s : State ι α} {i : ι} {ref : ℕ} (h : s.holds i = some ref) :
    s.apply (.leaves i) =
      { holds := Function.update s.holds i none, things := mark true s.things ref } := by
  show (match s.holds i with | none => s | some _ => _) = _
  rw [h]

/-- A party takes up a thing with empty hands, and only one that is there. -/
def Allows (s : State ι α) : Move ι α → Prop
  | .begins i _ => s.holds i = none
  | .resumes i ref => s.holds i = none ∧ ref < s.things.length
  | _ => True

/-- Nobody holds the thing. -/
def Vacant (s : State ι α) (ref : ℕ) : Prop := ∀ i, s.holds i ≠ some ref

/-- What is there and is held by one party at most. -/
structure Exclusive (s : State ι α) : Prop where
  known : ∀ i ref, s.holds i = some ref → ref < s.things.length
  once : ∀ i j ref, s.holds i = some ref → s.holds j = some ref → i = j

/-- A thing is idle exactly when nobody holds it. -/
def Marked (s : State ι α) : Prop :=
  ∀ ref thing, s.things[ref]? = some thing → (thing.idle = false ↔ ∃ i, s.holds i = some ref)

/-- What is taken up is vacant. -/
def Considerate (s : State ι α) : Move ι α → Prop
  | .resumes _ ref => s.Vacant ref
  | _ => True

/-- What is given up is marked, and only what nobody holds is marked otherwise. -/
def Orderly (s : State ι α) : Move ι α → Prop
  | .drops i => s.holds i = none
  | .marks ref => s.Vacant ref
  | _ => True

/-- A party that takes up a vacant thing. -/
theorem once_update {holds : ι → Option ℕ}
    (honce : ∀ i j ref, holds i = some ref → holds j = some ref → i = j) {k : ι}
    {taken : Option ℕ} (hvacant : ∀ ref, taken = some ref → ∀ i, holds i ≠ some ref) (i j : ι)
    (ref : ℕ) (hi : Function.update holds k taken i = some ref)
    (hj : Function.update holds k taken j = some ref) : i = j := by
  rw [Function.update_apply] at hi hj
  split at hi
  · rename_i hik
    split at hj
    · rename_i hjk
      rw [hik, hjk]
    · exact absurd hj (hvacant ref hi j)
  · split at hj
    · exact absurd hi (hvacant ref hj i)
    · exact honce i j ref hi hj

/-- **One move keeps a table exclusive.** -/
theorem Exclusive.apply {s : State ι α} (h : s.Exclusive) {m : Move ι α} (hm : s.Allows m)
    (hconsiderate : s.Considerate m) : (s.apply m).Exclusive := by
  cases m with
  | rests => exact h
  | begins i name =>
      refine ⟨fun j ref hj => ?_, once_update h.once fun ref href j hj => ?_⟩
      · show ref < (s.things ++ [_]).length
        rw [List.length_append, List.length_singleton]
        replace hj : Function.update s.holds i (some s.things.length) j = some ref := hj
        rw [Function.update_apply] at hj
        split at hj
        · cases hj
          omega
        · exact Nat.lt_succ_of_lt (h.known j ref hj)
      · cases href
        exact absurd (h.known j _ hj) (Nat.lt_irrefl _)
  | resumes i ref =>
      refine ⟨fun j ref' hj => ?_, once_update h.once fun ref' href j => ?_⟩
      · show ref' < (mark false s.things ref).length
        rw [length_mark]
        replace hj : Function.update s.holds i (some ref) j = some ref' := hj
        rw [Function.update_apply] at hj
        split at hj
        · cases hj
          exact hm.2
        · exact h.known j ref' hj
      · cases href
        exact hconsiderate j
  | leaves i =>
      cases hi : s.holds i with
      | none =>
          rw [apply_leaves_none hi]
          exact h
      | some ref =>
          rw [apply_leaves_some hi]
          refine ⟨fun j ref' hj => ?_, once_update h.once nofun⟩
          show ref' < (mark true s.things ref).length
          rw [length_mark]
          replace hj : Function.update s.holds i none j = some ref' := hj
          rw [Function.update_apply] at hj
          split at hj
          · cases hj
          · exact h.known j ref' hj
  | drops i =>
      refine ⟨fun j ref hj => ?_, once_update h.once nofun⟩
      replace hj : Function.update s.holds i none j = some ref := hj
      rw [Function.update_apply] at hj
      split at hj
      · cases hj
      · exact h.known j ref hj
  | marks ref =>
      refine ⟨fun j ref' hj => ?_, h.once⟩
      show ref' < (mark true s.things ref).length
      rw [length_mark]
      exact h.known j ref' hj

/-- The holders of a thing that the moving party did not hold. -/
theorem holder_update {holds : ι → Option ℕ} {i : ι} {ref : ℕ} (hi : holds i ≠ some ref)
    (taken : Option ℕ) :
    (∃ j, Function.update holds i taken j = some ref) ↔
      taken = some ref ∨ ∃ j, holds j = some ref := by
  constructor
  · rintro ⟨j, hj⟩
    rw [Function.update_apply] at hj
    split at hj
    · exact .inl hj
    · exact .inr ⟨j, hj⟩
  · rintro (htaken | ⟨j, hj⟩)
    · exact ⟨i, by rw [Function.update_self, htaken]⟩
    · refine ⟨j, ?_⟩
      rw [Function.update_of_ne]
      · exact hj
      · rintro rfl
        exact hi hj

/-- **One move keeps the marks of an exclusive table.** -/
theorem Marked.apply {s : State ι α} (h : s.Marked) (hexclusive : s.Exclusive) {m : Move ι α}
    (hm : s.Allows m) (horderly : s.Orderly m) : (s.apply m).Marked := by
  cases m with
  | rests => exact h
  | begins i name =>
      intro ref thing hthing
      replace hthing : (s.things ++ [⟨name, false⟩])[ref]? = some thing := hthing
      replace hm : s.holds i = none := hm
      show _ ↔ ∃ j, Function.update s.holds i (some s.things.length) j = some ref
      rw [holder_update (by rw [hm]; nofun)]
      rw [List.getElem?_append] at hthing
      split at hthing
      · rename_i hlt
        rw [h ref thing hthing]
        refine ⟨.inr, fun hor => hor.resolve_left fun heq => ?_⟩
        cases heq
        exact Nat.lt_irrefl _ hlt
      · rename_i hge
        rw [List.getElem?_singleton] at hthing
        obtain ⟨hzero, hnew⟩ := Option.ite_none_right_eq_some.mp hthing
        cases hnew
        exact iff_of_true rfl (.inl (congrArg some (by omega)))
  | resumes i ref =>
      intro ref' thing hthing
      show _ ↔ ∃ j, Function.update s.holds i (some ref) j = some ref'
      rcases marked_cases hthing with ⟨rfl, hidle⟩ | ⟨hne, hold⟩
      · exact iff_of_true hidle ⟨i, Function.update_self _ _ _⟩
      · rw [h ref' thing hold, holder_update (by rw [hm.1]; nofun)]
        refine ⟨.inr, fun hor => hor.resolve_left fun heq => ?_⟩
        exact hne (Option.some.inj heq).symm
  | leaves i =>
      cases hi : s.holds i with
      | none =>
          rw [apply_leaves_none hi]
          exact h
      | some ref =>
          rw [apply_leaves_some hi]
          intro ref' thing hthing
          show _ ↔ ∃ j, Function.update s.holds i none j = some ref'
          rcases marked_cases hthing with ⟨rfl, hidle⟩ | ⟨hne, hold⟩
          · rw [hidle]
            refine iff_of_false (by decide) fun ⟨j, hj⟩ => ?_
            rw [Function.update_apply] at hj
            split at hj
            · cases hj
            · rename_i hji
              exact hji (hexclusive.once j i _ hj hi)
          · have hother : s.holds i ≠ some ref' := by
              rw [hi]
              exact fun heq => hne (Option.some.inj heq).symm
            rw [h ref' thing hold, holder_update hother]
            exact ⟨.inr, fun hor => hor.resolve_left nofun⟩
  | drops i =>
      intro ref thing hthing
      replace horderly : s.holds i = none := horderly
      show _ ↔ ∃ j, Function.update s.holds i none j = some ref
      rw [h ref thing hthing, holder_update (by rw [horderly]; nofun)]
      exact ⟨.inr, fun hor => hor.resolve_left nofun⟩
  | marks ref =>
      intro ref' thing hthing
      rcases marked_cases hthing with ⟨rfl, hidle⟩ | ⟨hne, hold⟩
      · rw [hidle]
        exact iff_of_false (by decide) fun ⟨i, hi⟩ => horderly i hi
      · exact h ref' thing hold

/-- No two things have one name. -/
def Distinct (s : State ι α) : Prop := (s.things.map Thing.name).Nodup

/-- A new thing gets a name of its own. -/
def Fresh (s : State ι α) : Move ι α → Prop
  | .begins _ name => name ∉ s.things.map Thing.name
  | _ => True

/-- **One move keeps the names distinct.** -/
theorem Distinct.apply {s : State ι α} (h : s.Distinct) {m : Move ι α} (hfresh : s.Fresh m) :
    (s.apply m).Distinct := by
  cases m with
  | rests => exact h
  | begins i name =>
      show ((s.things ++ [(⟨name, false⟩ : Thing α)]).map Thing.name).Nodup
      rw [List.map_append, List.nodup_append]
      refine ⟨h, List.nodup_singleton name, fun a ha b hb => ?_⟩
      rw [List.map_singleton, List.mem_singleton] at hb
      rintro rfl
      rw [hb] at ha
      exact hfresh ha
  | resumes i ref =>
      show ((mark false s.things ref).map Thing.name).Nodup
      rw [names_mark]
      exact h
  | leaves i =>
      cases hi : s.holds i with
      | none =>
          rw [apply_leaves_none hi]
          exact h
      | some ref =>
          rw [apply_leaves_some hi]
          show ((mark true s.things ref).map Thing.name).Nodup
          rw [names_mark]
          exact h
  | drops i => exact h
  | marks ref =>
      show ((mark true s.things ref).map Thing.name).Nodup
      rw [names_mark]
      exact h

end State

end Apply

/-- **In an exclusive table with distinct names, a name has one holder at most.** -/
theorem State.Exclusive.holder_of_name {s : State ι α} (h : s.Exclusive) (hdistinct : s.Distinct)
    {i j : ι} {ref ref' : ℕ} {name : α} (hi : s.holds i = some ref)
    (hj : s.holds j = some ref') (hname : (s.things.map Thing.name)[ref]? = some name)
    (hname' : (s.things.map Thing.name)[ref']? = some name) : i = j := by
  obtain ⟨hlt, hget⟩ := List.getElem?_eq_some_iff.mp hname
  obtain ⟨hlt', hget'⟩ := List.getElem?_eq_some_iff.mp hname'
  obtain rfl : ref = ref' := (hdistinct.getElem_inj_iff).mp (hget.trans hget'.symm)
  exact h.once i j ref hi hj

end Tenancy
