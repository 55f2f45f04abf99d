import Mathlib.Data.List.Basic
import Mathlib.Data.List.DropRight
import Mathlib.Data.List.Infix

/-!
# Substring search and splitting on lists

The list counterpart of a `string_view`'s `find`: `find pat s` is the index of
the first occurrence of `pat` in `s`, and `splitOn pat s` cuts `s` at the
successive first occurrences of `pat`.  Everything is stated over an arbitrary
alphabet.

* `IsFirst pat s t` is what `find` decides (`find_eq_some_iff`), and
  `find_take_eq_some_iff` says what a search in a truncated string sees.
* `find_append_of_head_notMem` skips a stretch that cannot start an occurrence;
  it is the only way occurrences are located below.
* `splitOn_intercalate` is the inverse law: pieces in which the separator's head
  does not occur come back out of their joined text.
-/

namespace Search

universe u

variable {α : Type u}

/-- `pat` occurs in `s` at index `t`, and nowhere before. -/
def IsFirst (pat s : List α) (t : ℕ) : Prop :=
  pat <+: s.drop t ∧ t ≤ s.length ∧ ∀ i < t, ¬ pat <+: s.drop i

theorem isFirst_zero {pat s : List α} : IsFirst pat s 0 ↔ pat <+: s := by
  simp [IsFirst]

theorem isFirst_cons_succ {pat s : List α} {a : α} {t : ℕ} :
    IsFirst pat (a :: s) (t + 1) ↔ ¬ pat <+: a :: s ∧ IsFirst pat s t := by
  constructor
  · rintro ⟨hocc, hlen, hmin⟩
    refine ⟨hmin 0 (by omega), by simpa using hocc, by simpa using hlen, ?_⟩
    intro i hi
    simpa using hmin (i + 1) (by omega)
  · rintro ⟨hhead, hocc, hlen, hmin⟩
    refine ⟨by simpa using hocc, by simpa using hlen, ?_⟩
    rintro (_ | i) hi
    · simpa using hhead
    · simpa using hmin i (by omega)

/-- An occurrence ends inside the string. -/
theorem IsFirst.add_length_le {pat s : List α} {t : ℕ} (h : IsFirst pat s t) :
    t + pat.length ≤ s.length := by
  have hlen := h.1.length_le
  have ht := h.2.1
  rw [List.length_drop] at hlen
  omega

/-- The string around its first occurrence. -/
theorem IsFirst.split {pat s : List α} {t : ℕ} (h : IsFirst pat s t) :
    s = s.take t ++ (pat ++ s.drop (t + pat.length)) := by
  obtain ⟨rest, hrest⟩ := h.1
  have hdrop : s.drop (t + pat.length) = rest := by
    rw [← List.drop_drop, ← hrest, List.drop_left]
  rw [hdrop, hrest, List.take_append_drop]

/-- A prefix of `s.take n` at index `i` is a prefix of `s` there that ends within
the first `n` elements. -/
theorem prefix_drop_take_iff {pat s : List α} {n i : ℕ} (hpat : pat ≠ []) :
    pat <+: (s.take n).drop i ↔ pat <+: s.drop i ∧ i + pat.length ≤ n := by
  have hpos : 0 < pat.length := List.length_pos_iff.mpr hpat
  rw [List.drop_take, List.prefix_take_iff]
  constructor
  · rintro ⟨hocc, hlen⟩
    exact ⟨hocc, by omega⟩
  · rintro ⟨hocc, hlen⟩
    exact ⟨hocc, by omega⟩

variable [DecidableEq α]

/-- Index of the first occurrence of `pat`, scanning from the left. -/
def find (pat : List α) : List α → Option ℕ
  | [] => if pat = [] then some 0 else none
  | a :: s => if pat <+: a :: s then some 0 else (find pat s).map (· + 1)

theorem find_eq_some_iff {pat s : List α} {t : ℕ} :
    find pat s = some t ↔ IsFirst pat s t := by
  induction s generalizing t with
  | nil =>
      by_cases hp : pat = []
      · subst hp
        cases t <;> simp [find, IsFirst]
      · simp only [find, if_neg hp, reduceCtorEq, false_iff]
        rintro ⟨hocc, -, -⟩
        exact hp (by simpa using hocc)
  | cons a s ih =>
      by_cases hp : pat <+: a :: s
      · rw [find, if_pos hp]
        cases t with
        | zero => simp [isFirst_zero, hp]
        | succ t => simp [isFirst_cons_succ, hp]
      · rw [find, if_neg hp]
        cases t with
        | zero => simp [isFirst_zero, hp]
        | succ t => simp [isFirst_cons_succ, hp, ih]

/-- There is one first occurrence. -/
theorem IsFirst.unique {pat s : List α} {t t' : ℕ} (h : IsFirst pat s t)
    (h' : IsFirst pat s t') : t = t' :=
  Option.some.inj ((find_eq_some_iff.mpr h).symm.trans (find_eq_some_iff.mpr h'))

/-- Searching a truncated string finds exactly the first occurrences that end
inside the truncation. -/
theorem find_take_eq_some_iff {pat s : List α} {n t : ℕ} (hpat : pat ≠ []) :
    find pat (s.take n) = some t ↔ IsFirst pat s t ∧ t + pat.length ≤ n := by
  rw [find_eq_some_iff]
  constructor
  · rintro ⟨hocc, -, hmin⟩
    rw [prefix_drop_take_iff hpat] at hocc
    refine ⟨⟨hocc.1, ?_, fun i hi hpre => hmin i hi ?_⟩, hocc.2⟩
    · have hlen := hocc.1.length_le
      have hpos : 0 < pat.length := List.length_pos_iff.mpr hpat
      rw [List.length_drop] at hlen
      omega
    · exact (prefix_drop_take_iff hpat).mpr ⟨hpre, by omega⟩
  · rintro ⟨hfirst, hn⟩
    refine ⟨(prefix_drop_take_iff hpat).mpr ⟨hfirst.1, hn⟩, ?_, fun i hi hpre => ?_⟩
    · have hend := hfirst.add_length_le
      rw [List.length_take]
      omega
    · exact hfirst.2.2 i hi ((prefix_drop_take_iff hpat).mp hpre).1

/-- A stretch without the pattern's first element contains no start of an
occurrence. -/
theorem find_append_of_head_notMem {p : α} {pat l r : List α} (hl : p ∉ l) :
    find (p :: pat) (l ++ r) = (find (p :: pat) r).map (· + l.length) := by
  induction l with
  | nil => simp
  | cons a l ih =>
      rw [List.mem_cons, not_or] at hl
      have hhead : ¬ (p :: pat) <+: a :: (l ++ r) := by
        rw [List.cons_prefix_cons]
        exact fun h => hl.1 h.1
      rw [List.cons_append, find, if_neg hhead, ih hl.2, Option.map_map]
      congr 1

theorem find_self_append {pat r : List α} : find pat (pat ++ r) = some 0 := by
  rw [find_eq_some_iff, isFirst_zero]
  exact List.prefix_append pat r

/-- The first occurrence of one mark. -/
theorem find_mark {mark : α} {l : List α} (hl : mark ∉ l) (r : List α) :
    find [mark] (l ++ mark :: r) = some l.length := by
  rw [find_append_of_head_notMem hl]
  have hself : find [mark] (mark :: r) = some 0 := find_self_append
  rw [hself]
  exact congrArg some (Nat.zero_add _)

/-- A text is cut at its first mark in one way. -/
theorem append_mark_inj {mark : α} {l l' r r' : List α} (hl : mark ∉ l) (hl' : mark ∉ l')
    (h : l ++ mark :: r = l' ++ mark :: r') : l = l' ∧ r = r' := by
  have hlength : some l.length = some l'.length := by
    rw [← find_mark hl r, h, find_mark hl' r']
  obtain ⟨hleft, hright⟩ := List.append_inj h (Option.some.inj hlength)
  exact ⟨hleft, (List.cons.inj hright).2⟩

theorem find_mark_none {mark : α} {l : List α} (hl : mark ∉ l) : find [mark] l = none := by
  have hfind : find [mark] (l ++ []) = (find [mark] []).map (· + l.length) :=
    find_append_of_head_notMem hl
  rw [List.append_nil] at hfind
  rw [hfind]
  rfl

/-- Where the pattern occurs, the search does not go past. -/
theorem exists_find_append (pat l r : List α) :
    ∃ t ≤ l.length, find pat (l ++ (pat ++ r)) = some t := by
  induction l with
  | nil => exact ⟨0, le_rfl, find_self_append⟩
  | cons a l ih =>
      obtain ⟨t, ht, hfind⟩ := ih
      rw [List.cons_append, find]
      split
      · exact ⟨0, Nat.zero_le _, rfl⟩
      · exact ⟨t + 1, by rw [List.length_cons]; omega, by rw [hfind]; rfl⟩

/-! ### Splitting -/

/-- Cut `s` at the successive first occurrences of `pat`, with `fuel` bounding
the number of cuts. -/
def splitFuel (pat : List α) : ℕ → List α → List (List α)
  | 0, s => [s]
  | fuel + 1, s =>
      match find pat s with
      | none => [s]
      | some t => s.take t :: splitFuel pat fuel (s.drop (t + pat.length))

/-- The pieces of `s` between the occurrences of `pat`, read from the left. -/
def splitOn (pat s : List α) : List (List α) :=
  splitFuel pat s.length s

theorem splitFuel_of_find_none {pat s : List α} (fuel : ℕ) (h : find pat s = none) :
    splitFuel pat fuel s = [s] := by
  cases fuel with
  | zero => rfl
  | succ fuel => simp [splitFuel, h]

/-- Any fuel that covers the string gives the same pieces. -/
theorem splitFuel_eq_splitOn {pat : List α} (hpat : pat ≠ []) :
    ∀ (fuel : ℕ) (s : List α), s.length ≤ fuel → splitFuel pat fuel s = splitOn pat s := by
  have hpos : 0 < pat.length := List.length_pos_iff.mpr hpat
  have key : ∀ (m n : ℕ) (s : List α), s.length ≤ m → s.length ≤ n →
      splitFuel pat m s = splitFuel pat n s := by
    intro m
    induction m with
    | zero =>
        intro n s hm _
        have hnil : s = [] := List.length_eq_zero_iff.mp (by omega)
        subst hnil
        rw [splitFuel_of_find_none 0 (by simp [find, hpat]),
          splitFuel_of_find_none n (by simp [find, hpat])]
    | succ m ih =>
        intro n s hm hn
        cases hf : find pat s with
        | none => rw [splitFuel_of_find_none _ hf, splitFuel_of_find_none _ hf]
        | some t =>
            have hend := (find_eq_some_iff.mp hf).add_length_le
            obtain ⟨n, rfl⟩ : ∃ k, n = k + 1 := ⟨n - 1, by omega⟩
            simp only [splitFuel, hf]
            rw [ih n (s.drop (t + pat.length)) (by rw [List.length_drop]; omega)
              (by rw [List.length_drop]; omega)]
  intro fuel s hs
  exact key fuel s.length s hs le_rfl

theorem splitOn_of_find_none {pat s : List α} (h : find pat s = none) :
    splitOn pat s = [s] :=
  splitFuel_of_find_none _ h

theorem splitOn_of_find_some {pat s : List α} {t : ℕ} (hpat : pat ≠ [])
    (h : find pat s = some t) :
    splitOn pat s = s.take t :: splitOn pat (s.drop (t + pat.length)) := by
  have hpos : 0 < pat.length := List.length_pos_iff.mpr hpat
  have hend := (find_eq_some_iff.mp h).add_length_le
  obtain ⟨n, hn⟩ : ∃ k, s.length = k + 1 := ⟨s.length - 1, by omega⟩
  rw [splitOn, hn]
  simp only [splitFuel, h]
  rw [splitFuel_eq_splitOn hpat n _ (by rw [List.length_drop]; omega)]

/-- **Splitting inverts joining.**  Pieces that never contain the separator's
first element are read back from their joined text. -/
theorem splitOn_intercalate {p : α} {sep : List α} :
    ∀ {pieces : List (List α)}, pieces ≠ [] → (∀ l ∈ pieces, p ∉ l) →
      splitOn (p :: sep) ((p :: sep).intercalate pieces) = pieces := by
  intro pieces
  induction pieces with
  | nil => intro h; exact absurd rfl h
  | cons l rest ih =>
      intro _ hmem
      have hl : p ∉ l := hmem l (by simp)
      cases rest with
      | nil =>
          have hnone : find (p :: sep) l = none := by
            have hskip : find (p :: sep) (l ++ []) = (find (p :: sep) []).map (· + l.length) :=
              find_append_of_head_notMem hl
            rw [List.append_nil] at hskip
            simp [hskip, find]
          simpa using splitOn_of_find_none hnone
      | cons l' rest =>
          have hjoin : (p :: sep).intercalate (l :: l' :: rest) =
              l ++ ((p :: sep) ++ (p :: sep).intercalate (l' :: rest)) := by
            simp [List.intercalate]
          have hfind : find (p :: sep) (l ++ ((p :: sep) ++
              (p :: sep).intercalate (l' :: rest))) = some l.length := by
            rw [find_append_of_head_notMem hl, find_self_append]
            simp
          rw [hjoin, splitOn_of_find_some (by simp) hfind, List.take_left,
            ← List.drop_drop, List.drop_left, List.drop_left,
            ih (by simp) (fun x hx => hmem x (by simp [hx]))]

/-! ### Cutting at one mark -/

theorem splitOn_mark_none {mark : α} {l : List α} (hl : mark ∉ l) : splitOn [mark] l = [l] :=
  splitOn_of_find_none (find_mark_none hl)

theorem splitOn_mark {mark : α} {l : List α} (hl : mark ∉ l) (r : List α) :
    splitOn [mark] (l ++ mark :: r) = l :: splitOn [mark] r := by
  rw [splitOn_of_find_some (List.cons_ne_nil _ _) (find_mark hl r), List.take_left,
    ← List.drop_drop, List.drop_left]
  rfl

theorem splitOn_mark_ne_nil (mark : α) (x : List α) : splitOn [mark] x ≠ [] := by
  by_cases hmem : mark ∈ x
  · obtain ⟨l, r, rfl, hl⟩ := List.eq_append_cons_of_mem hmem
    rw [splitOn_mark hl]
    exact List.cons_ne_nil _ _
  · rw [splitOn_mark_none hmem]
    exact List.cons_ne_nil _ _

/-- There is more than one piece exactly if there is a mark. -/
theorem two_le_length_splitOn {mark : α} {x : List α} :
    2 ≤ (splitOn [mark] x).length ↔ mark ∈ x := by
  constructor
  · intro h
    by_contra hmem
    rw [splitOn_mark_none hmem, List.length_singleton] at h
    omega
  · intro hmem
    obtain ⟨l, r, rfl, hl⟩ := List.eq_append_cons_of_mem hmem
    have hpos := List.length_pos_iff.mpr (splitOn_mark_ne_nil mark r)
    rw [splitOn_mark hl, List.length_cons]
    omega

/-- Induction on the marks in a text. -/
theorem mark_induction {P : List α → Prop} (mark : α) (single : ∀ l, mark ∉ l → P l)
    (cons : ∀ l r, mark ∉ l → P r → P (l ++ mark :: r)) (x : List α) : P x := by
  induction h : x.length using Nat.strong_induction_on generalizing x with
  | _ n ih =>
      by_cases hmem : mark ∈ x
      · obtain ⟨l, r, rfl, hl⟩ := List.eq_append_cons_of_mem hmem
        refine cons l r hl (ih r.length ?_ r rfl)
        rw [← h, List.length_append, List.length_cons]
        omega
      · exact single x hmem

/-- At one mark, a text is cut as by the library's `List.splitOn`. -/
theorem splitOn_mark_eq (mark : α) (x : List α) : splitOn [mark] x = x.splitOn mark := by
  induction x using mark_induction mark with
  | single l hl => rw [splitOn_mark_none hl, List.splitOn_eq_singleton hl]
  | cons l r hl ih =>
      rw [splitOn_mark hl, List.splitOn_append_cons_self, List.splitOn_eq_singleton hl, ih]
      rfl

/-- Two marks in a row, behind a stretch without marks. -/
theorem find_pair {mark : α} {l : List α} (hl : mark ∉ l) (r : List α) :
    (find [mark, mark] (l ++ mark :: r)).isSome = true ↔
      r.head? = some mark ∨ (find [mark, mark] r).isSome = true := by
  have hhead : [mark, mark] <+: mark :: r ↔ r.head? = some mark := by
    cases r with
    | nil => simp
    | cons a r => simp [List.cons_prefix_cons, eq_comm]
  rw [find_append_of_head_notMem hl, Option.isSome_map, find]
  split
  · next h => exact iff_of_true rfl (.inl (hhead.mp h))
  · next h =>
    rw [Option.isSome_map]
    exact ⟨.inr, fun hor => hor.resolve_left fun hr => h (hhead.mpr hr)⟩

/-- A piece without characters: the text is empty, starts or ends with a mark, or has two marks
in a row. -/
theorem nil_mem_splitOn {mark : α} (x : List α) :
    [] ∈ splitOn [mark] x ↔ x = [] ∨ x.head? = some mark ∨ x.getLast? = some mark ∨
      (find [mark, mark] x).isSome = true := by
  induction x using mark_induction mark with
  | single l hl =>
      have hpair : find [mark, mark] l = none := by
        have hfind : find [mark, mark] (l ++ []) = _ := find_append_of_head_notMem hl
        rw [List.append_nil] at hfind
        rw [hfind]
        rfl
      rw [splitOn_mark_none hl, List.mem_singleton, hpair]
      constructor
      · intro h
        exact .inl h.symm
      · rintro (h | h | h | h)
        · exact h.symm
        · exact absurd (List.mem_of_mem_head? h) hl
        · exact absurd (List.mem_of_getLast? h) hl
        · cases h
  | cons l r hl ih =>
      have hhead : (l ++ mark :: r).head? = some mark ↔ l = [] := by
        cases l with
        | nil => simp
        | cons a l =>
            have hne : a ≠ mark := fun h => hl (h ▸ List.mem_cons_self)
            simp [hne]
      have hlast : (l ++ mark :: r).getLast? = some mark ↔ r = [] ∨ r.getLast? = some mark := by
        cases r with
        | nil => simp
        | cons a r => simp
      have hne : l ++ mark :: r ≠ [] := by simp
      rw [splitOn_mark hl, List.mem_cons, ih, hhead, hlast, find_pair hl, or_iff_right hne,
        eq_comm (a := ([] : List α))]
      grind

/-- The pieces of a text that is put together at a mark. -/
theorem splitOn_flatMap {mark : α} {first : List α} {rest : List (List α)}
    (h : ∀ l ∈ first :: rest, mark ∉ l) :
    splitOn [mark] (first ++ rest.flatMap (mark :: ·)) = first :: rest := by
  induction rest generalizing first with
  | nil =>
      rw [List.flatMap_nil, List.append_nil]
      exact splitOn_mark_none (h first List.mem_cons_self)
  | cons l rest ih =>
      have hfirst := h first List.mem_cons_self
      rw [List.flatMap_cons, List.cons_append, splitOn_mark hfirst,
        ih fun l hl => h l (List.mem_cons_of_mem first hl)]

/-- Every text is put together from pieces without the mark. -/
theorem exists_flatMap (mark : α) (x : List α) :
    ∃ first rest, x = first ++ rest.flatMap (mark :: ·) ∧ ∀ l ∈ first :: rest, mark ∉ l := by
  induction x using mark_induction mark with
  | single l hl =>
      exact ⟨l, [], by rw [List.flatMap_nil, List.append_nil],
        List.forall_mem_cons.mpr ⟨hl, fun _ h => absurd h List.not_mem_nil⟩⟩
  | cons l r hl ih =>
      obtain ⟨first, rest, rfl, hrest⟩ := ih
      exact ⟨l, first :: rest, by rw [List.flatMap_cons, List.cons_append],
        List.forall_mem_cons.mpr ⟨hl, hrest⟩⟩

end Search
