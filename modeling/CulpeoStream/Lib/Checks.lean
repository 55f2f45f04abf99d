import Mathlib.Data.List.Forall2

/-!
# Computations that can fail

A chain of checks in `Except` succeeds when all of its parts do, and fails with the error
of the first part that does not.  A list that is checked item by item keeps what every
item keeps (`map_mapM_ok`).

`Only P x` says that `x` can fail with errors of the kind `P` only.  It is decided part by
part (`only_bind`), and item by item (`only_mapM`), up to the first failure.
-/

namespace Checks

universe u v w

variable {ε : Type u} {α β : Type v}

/-- Two computations have the same result, or both fail. -/
def SameOutcome {ε' : Type w} (x : Except ε α) (y : Except ε' α) : Prop :=
  x.toOption = y.toOption

/-- A computation that succeeds has succeeded in its first part. -/
theorem exists_of_bind_ok {x : Except ε α} {k : α → Except ε β} {b : β}
    (h : x >>= k = .ok b) : ∃ a, x = .ok a ∧ k a = .ok b := by
  cases x with
  | error e => cases h
  | ok a => exact ⟨a, rfl, h⟩

theorem exists_bind_ok_iff {x : Except ε α} {k : α → Except ε β} :
    (∃ b, x >>= k = .ok b) ↔ ∃ a, x = .ok a ∧ ∃ b, k a = .ok b := by
  constructor
  · rintro ⟨b, h⟩
    obtain ⟨a, hx, hk⟩ := exists_of_bind_ok h
    exact ⟨a, hx, b, hk⟩
  · rintro ⟨a, rfl, hk⟩
    exact hk

theorem map_ok_iff {x : Except ε α} {f : α → β} {b : β} :
    x.map f = .ok b ↔ ∃ a, x = .ok a ∧ f a = b := by
  cases x with
  | error e => exact iff_of_false nofun nofun
  | ok a =>
      constructor
      · exact fun h => ⟨a, rfl, Except.ok.inj h⟩
      · rintro ⟨a, h, rfl⟩
        rw [Except.ok.inj h]
        rfl

theorem error_ne_ok {e : ε} (a : α) : (Except.error e : Except ε α) ≠ .ok a := by
  intro h
  cases h

theorem not_exists_error_ok {e : ε} : ¬ ∃ a : α, (Except.error e : Except ε α) = .ok a := by
  rintro ⟨a, h⟩
  exact error_ne_ok a h

theorem mapError_ok_iff {ε' : Type w} {f : ε → ε'} {x : Except ε α} {a : α} :
    x.mapError f = .ok a ↔ x = .ok a := by
  cases x with
  | error e => exact iff_of_false (error_ne_ok a) (error_ne_ok a)
  | ok b =>
      constructor
      · intro h
        cases h
        rfl
      · intro h
        cases h
        rfl

theorem bind_ok {x : Except ε α} {k : α → Except ε β} {a : α} {b : β} (hx : x = .ok a)
    (hk : k a = .ok b) : x >>= k = .ok b := by
  rw [hx]
  exact hk

/-- A computation that fails has failed in its first part or after it. -/
theorem error_of_bind_error {x : Except ε α} {k : α → Except ε β} {e : ε}
    (h : x >>= k = .error e) : x = .error e ∨ ∃ a, x = .ok a ∧ k a = .error e := by
  cases x with
  | error e' =>
      cases h
      exact .inl rfl
  | ok a => exact .inr ⟨a, rfl, h⟩

/-- A loop fails at the first item that fails. -/
theorem foldlM_error_iff {σ : Type v} {f : σ → α → Except ε σ} {e : ε} {as : List α} :
    ∀ {s : σ}, as.foldlM f s = .error e ↔ ∃ before a after mid, as = before ++ a :: after ∧
      before.foldlM f s = .ok mid ∧ f mid a = .error e := by
  induction as with
  | nil =>
      intro s
      refine iff_of_false nofun ?_
      rintro ⟨before, a, after, -, hsplit, -⟩
      cases before <;> cases hsplit
  | cons a as ih =>
      intro s
      rw [List.foldlM_cons]
      constructor
      · intro h
        rcases error_of_bind_error h with hfirst | ⟨mid, hmid, hrest⟩
        · exact ⟨[], a, as, s, rfl, rfl, hfirst⟩
        · obtain ⟨before, a', after, mid', rfl, hbefore, ha⟩ := ih.mp hrest
          exact ⟨a :: before, a', after, mid', rfl, bind_ok hmid hbefore, ha⟩
      · rintro ⟨before, a', after, mid, hsplit, hbefore, ha⟩
        cases before with
        | nil =>
            obtain ⟨rfl, rfl⟩ := List.cons.inj hsplit
            cases hbefore
            rw [ha]
            rfl
        | cons b before =>
            obtain ⟨rfl, rfl⟩ := List.cons.inj hsplit
            rw [List.foldlM_cons] at hbefore
            obtain ⟨s', hs', hrest⟩ := exists_of_bind_ok hbefore
            rw [hs']
            exact ih.mpr ⟨before, a', after, mid, rfl, hrest, ha⟩

/-- What every item keeps, the list keeps. -/
theorem map_mapM_ok {γ : Type w} {f : α → Except ε β} {g : β → γ} {g' : α → γ}
    (hf : ∀ {a b}, f a = .ok b → g b = g' a) :
    ∀ {as : List α} {bs : List β}, as.mapM f = .ok bs → bs.map g = as.map g' := by
  intro as
  induction as with
  | nil =>
      intro bs h
      cases h
      rfl
  | cons a as ih =>
      intro bs h
      rw [List.mapM_cons] at h
      obtain ⟨b, hb, h⟩ := exists_of_bind_ok h
      obtain ⟨bs', hbs, h⟩ := exists_of_bind_ok h
      cases h
      rw [List.map_cons, List.map_cons, hf hb, ih hbs]

/-- A list is checked with success only if every item is. -/
theorem exists_ok_of_mapM_ok {f : α → Except ε β} :
    ∀ {as : List α} {bs : List β}, as.mapM f = .ok bs → ∀ a ∈ as, ∃ b, f a = .ok b := by
  intro as
  induction as with
  | nil =>
      intro bs _ a ha
      cases ha
  | cons a as ih =>
      intro bs h a' ha'
      rw [List.mapM_cons] at h
      obtain ⟨b, hb, h⟩ := exists_of_bind_ok h
      obtain ⟨bs', hbs, -⟩ := exists_of_bind_ok h
      rcases List.mem_cons.mp ha' with rfl | hmem
      · exact ⟨b, hb⟩
      · exact ih hbs a' hmem

/-- An item of the result comes from an item of the list. -/
theorem exists_of_mem_mapM_ok {f : α → Except ε β} :
    ∀ {as : List α} {bs : List β}, as.mapM f = .ok bs → ∀ b ∈ bs, ∃ a ∈ as, f a = .ok b := by
  intro as
  induction as with
  | nil =>
      intro bs h b hb
      cases h
      cases hb
  | cons a as ih =>
      intro bs h b hb
      rw [List.mapM_cons] at h
      obtain ⟨b', hb', h⟩ := exists_of_bind_ok h
      obtain ⟨bs', hbs, h⟩ := exists_of_bind_ok h
      cases h
      rcases List.mem_cons.mp hb with rfl | hmem
      · exact ⟨a, List.mem_cons_self, hb'⟩
      · obtain ⟨a', ha', hparse⟩ := ih hbs b hmem
        exact ⟨a', List.mem_cons_of_mem a ha', hparse⟩

/-- A list is checked item by item. -/
theorem mapM_ok_iff_forall₂ {f : α → Except ε β} {R : α → β → Prop}
    (hf : ∀ a b, f a = .ok b ↔ R a b) :
    ∀ {as : List α} {bs : List β}, as.mapM f = .ok bs ↔ List.Forall₂ R as bs := by
  intro as
  induction as with
  | nil =>
      intro bs
      rw [List.mapM_nil, List.forall₂_nil_left_iff]
      exact ⟨fun h => (Except.ok.inj h).symm, fun h => congrArg Except.ok h.symm⟩
  | cons a as ih =>
      intro bs
      rw [List.mapM_cons, List.forall₂_cons_left_iff]
      constructor
      · intro h
        obtain ⟨b, hb, h⟩ := exists_of_bind_ok h
        obtain ⟨bs', hbs, h⟩ := exists_of_bind_ok h
        exact ⟨b, bs', (hf a b).mp hb, ih.mp hbs, (Except.ok.inj h).symm⟩
      · rintro ⟨b, bs', hb, hbs, rfl⟩
        rw [(hf a b).mpr hb, ih.mpr hbs]
        rfl

/-- A list is checked with success if every item is. -/
theorem exists_mapM_ok_iff {f : α → Except ε β} {as : List α} :
    (∃ bs, as.mapM f = .ok bs) ↔ ∀ a ∈ as, ∃ b, f a = .ok b := by
  refine ⟨fun ⟨_, h⟩ => exists_ok_of_mapM_ok h, fun h => ?_⟩
  induction as with
  | nil => exact ⟨[], rfl⟩
  | cons a as ih =>
      rw [List.forall_mem_cons] at h
      obtain ⟨b, hb⟩ := h.1
      obtain ⟨bs, hbs⟩ := ih h.2
      refine ⟨b :: bs, ?_⟩
      rw [List.mapM_cons, hb, hbs]
      rfl

/-- A list of which an item passes if it has a property, with a known value. -/
theorem mapM_eq_ok_iff {f : α → Except ε β} {good : α → Prop} {g : α → β} :
    ∀ {as : List α} {bs : List β}, (∀ a ∈ as, ∀ b, f a = .ok b ↔ good a ∧ b = g a) →
      (as.mapM f = .ok bs ↔ (∀ a ∈ as, good a) ∧ bs = as.map g) := by
  intro as
  induction as with
  | nil =>
      intro bs _
      rw [List.mapM_nil, List.map_nil]
      exact ⟨fun h => ⟨nofun, (Except.ok.inj h).symm⟩, fun h => congrArg Except.ok h.2.symm⟩
  | cons a as ih =>
      intro bs h
      rw [List.forall_mem_cons] at h
      rw [List.mapM_cons, List.forall_mem_cons]
      constructor
      · intro hok
        obtain ⟨b, hb, hok⟩ := exists_of_bind_ok hok
        obtain ⟨bs', hbs, hok⟩ := exists_of_bind_ok hok
        cases hok
        obtain ⟨hgood, rfl⟩ := (h.1 b).mp hb
        obtain ⟨hrest, rfl⟩ := (ih h.2).mp hbs
        exact ⟨⟨hgood, hrest⟩, rfl⟩
      · rintro ⟨⟨hgood, hrest⟩, rfl⟩
        rw [(h.1 (g a)).mpr ⟨hgood, rfl⟩, (ih h.2).mpr ⟨hrest, rfl⟩]
        rfl

theorem forM_eq_ok_iff {f : α → Except ε PUnit} {as : List α} :
    as.forM f = .ok ⟨⟩ ↔ ∀ a ∈ as, f a = .ok ⟨⟩ := by
  induction as with
  | nil => exact ⟨fun _ => nofun, fun _ => rfl⟩
  | cons a as ih =>
      have hcons : (a :: as).forM f = (f a >>= fun _ => as.forM f) := rfl
      rw [hcons, List.forall_mem_cons, ← ih]
      constructor
      · intro h
        obtain ⟨_, ha, has⟩ := exists_of_bind_ok h
        exact ⟨ha, has⟩
      · rintro ⟨ha, has⟩
        rw [ha]
        exact has

/-! ### Kinds of errors -/

/-- The errors of a computation are of a kind. -/
def Only (P : ε → Prop) (x : Except ε α) : Prop := ∀ e, x = .error e → P e

variable {P : ε → Prop}

theorem only_ok (a : α) : Only P (.ok a : Except ε α) := nofun

theorem only_error {e : ε} : Only P (.error e : Except ε α) ↔ P e := by
  constructor
  · intro h
    exact h e rfl
  · intro h e' he
    cases he
    exact h

theorem only_bind {x : Except ε α} {k : α → Except ε β} :
    Only P (x >>= k) ↔ Only P x ∧ ∀ a, x = .ok a → Only P (k a) := by
  cases x with
  | error e =>
      refine ⟨fun h => ⟨only_error.mpr (h e rfl), nofun⟩, fun h => ?_⟩
      exact only_error.mpr (only_error.mp h.1)
  | ok a =>
      refine ⟨fun h => ⟨only_ok a, fun _ hok => ?_⟩, fun h => h.2 a rfl⟩
      cases hok
      exact h

/-- A part that gives `v` unless it fails otherwise. -/
theorem only_bind_read {x : Except ε α} {k : α → Except ε β} {A B : Prop} {v : α}
    (hx : Only P x ↔ A) (hv : A → x = .ok v) (hk : A → (Only P (k v) ↔ B)) :
    Only P (x >>= k) ↔ A ∧ B := by
  rw [only_bind, hx]
  refine and_congr_right fun hA => ?_
  rw [hv hA, ← hk hA]
  constructor
  · intro h
    exact h v rfl
  · intro h a ha
    cases ha
    exact h

/-- A part after which nothing can fail. -/
theorem only_bind_ok {x : Except ε α} {k : α → β} :
    Only P (x >>= fun a => .ok (k a)) ↔ Only P x := by
  rw [only_bind]
  exact and_iff_left fun _ _ => only_ok _

/-- The items of a list, up to the first one that fails. -/
def OnlyEach (P : ε → Prop) (f : α → Except ε β) : List α → Prop
  | [] => True
  | a :: as => Only P (f a) ∧ ((∃ b, f a = .ok b) → OnlyEach P f as)

theorem onlyEach_of_forall {f : α → Except ε β} (h : ∀ a, Only P (f a)) (as : List α) :
    OnlyEach P f as := by
  induction as with
  | nil => exact trivial
  | cons a as ih => exact ⟨h a, fun _ => ih⟩

theorem only_mapM {f : α → Except ε β} (as : List α) :
    Only P (as.mapM f) ↔ OnlyEach P f as := by
  induction as with
  | nil => exact iff_of_true (only_ok _) trivial
  | cons a as ih =>
      rw [List.mapM_cons, only_bind, OnlyEach]
      refine and_congr_right fun _ => ?_
      have hrest : ∀ b : β, Only P (do let bs ← as.mapM f; return b :: bs) ↔ OnlyEach P f as :=
        fun b => only_bind_ok.trans ih
      constructor
      · rintro h ⟨b, hb⟩
        exact (hrest b).mp (h b hb)
      · intro h b hb
        exact (hrest b).mpr (h ⟨b, hb⟩)

end Checks
