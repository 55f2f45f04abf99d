import CulpeoStream.Lib.Search

/-!
# Trimming

Over an arbitrary alphabet: `strip blank x` is `x` without the blank characters at its ends.
Blanks that are put around a text are stripped as well (`strip_append_left`,
`strip_append_right`), and so a text can be cut at a mark before or after it is stripped
(`exists_find_strip`).
-/

namespace Strip

open Search

universe u

variable {α : Type u} {blank : α → Bool}

/-- The text without the blank characters at its ends. -/
def strip (blank : α → Bool) (x : List α) : List α := (x.dropWhile blank).rdropWhile blank

theorem strip_append_left {l : List α} (hl : ∀ c ∈ l, blank c = true) (x : List α) :
    strip blank (l ++ x) = strip blank x := by
  rw [strip, strip, List.dropWhile_append_of_pos hl]

theorem strip_append_right {r : List α} (hr : ∀ c ∈ r, blank c = true) (x : List α) :
    strip blank (x ++ r) = strip blank x := by
  have hnil : r.dropWhile blank = [] := List.dropWhile_eq_nil_iff.mpr hr
  have hback : ∀ t : List α, (t ++ r).rdropWhile blank = t.rdropWhile blank := by
    intro t
    have hreverse : ∀ c ∈ r.reverse, blank c = true := fun c hc => hr c (List.mem_reverse.mp hc)
    rw [List.rdropWhile, List.reverse_append, List.dropWhile_append_of_pos hreverse,
      List.rdropWhile]
  rw [strip, strip, List.dropWhile_append]
  split
  · rename_i hempty
    rw [hnil, List.isEmpty_iff.mp hempty]
  · exact hback _

/-- A text is what is left when it is stripped, with blanks around it. -/
theorem exists_strip (blank : α → Bool) (x : List α) :
    ∃ l r, (∀ c ∈ l, blank c = true) ∧ (∀ c ∈ r, blank c = true) ∧
      x = l ++ (strip blank x ++ r) := by
  refine ⟨x.takeWhile blank, (x.dropWhile blank).rtakeWhile blank,
    fun c hc => List.mem_takeWhile_imp hc, fun c hc => List.mem_rtakeWhile_imp hc, ?_⟩
  rw [strip, List.rdropWhile_append_rtakeWhile, List.takeWhile_append_dropWhile]

theorem strip_subset (blank : α → Bool) (x : List α) : strip blank x ⊆ x := by
  intro c hc
  have hkept := List.rdropWhile_prefix blank (l := x.dropWhile blank)
  exact (List.dropWhile_suffix blank).subset (hkept.subset hc)

theorem strip_eq_nil_iff {x : List α} : strip blank x = [] ↔ ∀ c ∈ x, blank c = true := by
  obtain ⟨l, r, hl, hr, hx⟩ := exists_strip blank x
  constructor
  · intro h
    rw [hx, h, List.nil_append, List.forall_mem_append]
    exact ⟨hl, hr⟩
  · intro h
    rw [strip, List.dropWhile_eq_nil_iff.mpr h]
    rfl

theorem strip_strip (x : List α) : strip blank (strip blank x) = strip blank x := by
  obtain ⟨l, r, hl, hr, hx⟩ := exists_strip blank x
  conv_rhs => rw [hx]
  rw [strip_append_left hl, strip_append_right hr]

/-- What is left begins with a character that is not blank. -/
theorem strip_head {x : List α} {c : α} (hc : c ∈ (strip blank x).head?) : blank c = false := by
  have hfront : ∀ {t : List α}, c ∈ (t.dropWhile blank).head? → blank c = false := by
    intro t ht
    cases hdrop : t.dropWhile blank with
    | nil =>
        rw [hdrop] at ht
        cases ht
    | cons d rest =>
        rw [hdrop] at ht
        cases ht
        have hne : t.dropWhile blank ≠ [] := by
          rw [hdrop]
          exact List.cons_ne_nil _ _
        have hkept := List.head_dropWhile_not blank hne
        simpa only [hdrop, List.head_cons] using hkept
  refine hfront (t := x) ?_
  obtain ⟨r, hr⟩ : strip blank x <+: x.dropWhile blank := List.rdropWhile_prefix blank _
  rw [← hr]
  exact List.mem_head?_append_of_mem_head? hc

theorem strip_last {x : List α} {c : α} (hc : c ∈ (strip blank x).getLast?) :
    blank c = false := by
  have hne : strip blank x ≠ [] := by
    rintro hnil
    rw [hnil] at hc
    cases hc
  have hlast : (strip blank x).getLast hne = c :=
    Option.some.inj ((List.getLast?_eq_some_getLast hne).symm.trans hc)
  rw [← hlast, ← Bool.not_eq_true]
  exact List.rdropWhile_last_not blank (x.dropWhile blank) hne

/-- A text that begins and ends with characters that are not blank. -/
theorem strip_eq_self {x : List α} (hfront : ∀ c ∈ x.head?, blank c = false)
    (hback : ∀ c ∈ x.getLast?, blank c = false) : strip blank x = x := by
  have hdrop : x.dropWhile blank = x := by
    cases x with
    | nil => rfl
    | cons c rest =>
        rw [List.dropWhile_cons_of_neg]
        rw [hfront c rfl]
        exact Bool.false_ne_true
  rw [strip, hdrop, List.rdropWhile_eq_self_iff]
  intro hne
  rw [hback _ (List.getLast?_eq_some_getLast hne)]
  exact Bool.false_ne_true

theorem dropWhile_mark {mark : α} (hmark : blank mark = false) (u v : List α) :
    (u ++ mark :: v).dropWhile blank = u.dropWhile blank ++ mark :: v := by
  rw [List.dropWhile_append]
  split
  · rename_i hempty
    rw [List.isEmpty_iff.mp hempty, List.dropWhile_cons_of_neg, List.nil_append]
    rw [hmark]
    exact Bool.false_ne_true
  · rfl

/-- A text with a mark that is not blank. -/
theorem strip_mark {mark : α} (hmark : blank mark = false) (u v : List α) :
    strip blank (u ++ mark :: v) = u.dropWhile blank ++ mark :: v.rdropWhile blank := by
  rw [strip, dropWhile_mark hmark, List.rdropWhile, List.reverse_append, List.reverse_cons,
    List.append_assoc, List.singleton_append, dropWhile_mark hmark, List.reverse_append,
    List.reverse_cons, List.reverse_reverse, List.append_assoc, List.singleton_append,
    List.rdropWhile]

section Find

variable [DecidableEq α]

/-- **Cutting a stripped text.**  The first mark cuts the stripped text into what is left of
the two parts, up to blanks. -/
theorem exists_find_strip {mark : α} (hmark : blank mark = false) {u : List α} (hu : mark ∉ u)
    (v : List α) :
    ∃ k, find [mark] (strip blank (u ++ mark :: v)) = some k ∧
      strip blank ((strip blank (u ++ mark :: v)).take k) = strip blank u ∧
      strip blank ((strip blank (u ++ mark :: v)).drop (k + 1)) = strip blank v := by
  have hnot : mark ∉ u.dropWhile blank := fun h => hu ((List.dropWhile_suffix blank).subset h)
  have hfront : strip blank (u.dropWhile blank) = strip blank u := by
    conv_rhs => rw [← List.takeWhile_append_dropWhile (p := blank) (l := u)]
    exact (strip_append_left (fun c hc => List.mem_takeWhile_imp hc) _).symm
  have hback : strip blank (v.rdropWhile blank) = strip blank v := by
    conv_rhs => rw [← List.rdropWhile_append_rtakeWhile (p := blank) (l := v)]
    exact (strip_append_right (fun c hc => List.mem_rtakeWhile_imp hc) _).symm
  rw [strip_mark hmark]
  refine ⟨_, find_mark hnot _, ?_, ?_⟩
  · rw [List.take_left, hfront]
  · rw [← List.drop_drop, List.drop_left]
    exact hback

/-- **Pieces of a stripped text.**  They are the same up to blanks. -/
theorem map_strip_splitOn {mark : α} (hmark : blank mark = false) (x : List α) :
    (splitOn [mark] (strip blank x)).map (strip blank) =
      (splitOn [mark] x).map (strip blank) := by
  have hnot : ∀ {l : List α}, (∀ c ∈ l, blank c = true) → mark ∉ l := by
    intro l hl hmem
    rw [hl mark hmem] at hmark
    cases hmark
  have hleft : ∀ {l : List α}, (∀ c ∈ l, blank c = true) → ∀ y,
      (splitOn [mark] (l ++ y)).map (strip blank) = (splitOn [mark] y).map (strip blank) := by
    intro l hl y
    induction y using mark_induction mark with
    | single y hy =>
        have hly : mark ∉ l ++ y := by
          rw [List.mem_append, not_or]
          exact ⟨hnot hl, hy⟩
        rw [splitOn_mark_none hly, splitOn_mark_none hy, List.map_singleton, List.map_singleton,
          strip_append_left hl]
    | cons y r hy _ =>
        have hly : mark ∉ l ++ y := by
          rw [List.mem_append, not_or]
          exact ⟨hnot hl, hy⟩
        rw [← List.append_assoc, splitOn_mark hly, splitOn_mark hy, List.map_cons, List.map_cons,
          strip_append_left hl]
  have hright : ∀ {r : List α}, (∀ c ∈ r, blank c = true) → ∀ y,
      (splitOn [mark] (y ++ r)).map (strip blank) = (splitOn [mark] y).map (strip blank) := by
    intro r hr y
    induction y using mark_induction mark with
    | single y hy =>
        have hyr : mark ∉ y ++ r := by
          rw [List.mem_append, not_or]
          exact ⟨hy, hnot hr⟩
        rw [splitOn_mark_none hyr, splitOn_mark_none hy, List.map_singleton, List.map_singleton,
          strip_append_right hr]
    | cons y z hy ih =>
        rw [List.append_assoc, List.cons_append, splitOn_mark hy, splitOn_mark hy, List.map_cons,
          List.map_cons, ih]
  obtain ⟨l, r, hl, hr, hx⟩ := exists_strip blank x
  conv_rhs => rw [hx]
  rw [hleft hl, hright hr]

end Find

end Strip
