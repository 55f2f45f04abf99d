import Mathlib.Data.List.Induction

/-!
# Monitors of a log

A monitor goes along a log and says of every entry whether it may come next.  What the monitor
has come to at the end stands for the log: a property of logs is shown by one of the states of
the monitor, entry by entry (`follow_induction`).
-/

structure Monitor (S E : Type) where
  /-- The entry may come next. -/
  allows : S → E → Bool
  after : S → E → S

namespace Monitor

variable {S E : Type} {M : Monitor S E} {s t : S} {e : E} {log log' : List E}

/-- What the monitor comes to, if it allows the log. -/
def follow (M : Monitor S E) (s : S) : List E → Option S
  | [] => some s
  | e :: log => if M.allows s e then M.follow (M.after s e) log else none

theorem follow_cons_eq_some :
    M.follow s (e :: log) = some t ↔ M.allows s e = true ∧ M.follow (M.after s e) log = some t := by
  rw [follow]
  split
  · rename_i hallows
    exact ⟨fun h => ⟨hallows, h⟩, And.right⟩
  · rename_i hallows
    exact ⟨fun h => (by cases h), fun h => absurd h.1 hallows⟩

theorem follow_append_eq_some :
    M.follow s (log ++ log') = some t ↔
      ∃ u, M.follow s log = some u ∧ M.follow u log' = some t := by
  induction log generalizing s with
  | nil => simp [follow]
  | cons e log ih =>
      rw [List.cons_append, follow_cons_eq_some, ih]
      simp only [follow_cons_eq_some]
      constructor
      · rintro ⟨hallows, u, hlog, hlog'⟩
        exact ⟨u, ⟨hallows, hlog⟩, hlog'⟩
      · rintro ⟨u, ⟨hallows, hlog⟩, hlog'⟩
        exact ⟨hallows, u, hlog, hlog'⟩

/-- One more entry. -/
theorem follow_concat (h : M.follow s log = some t) (hallows : M.allows t e = true) :
    M.follow s (log ++ [e]) = some (M.after t e) :=
  follow_append_eq_some.mpr ⟨t, h, follow_cons_eq_some.mpr ⟨hallows, rfl⟩⟩

/-- An entry in the middle has been allowed. -/
theorem exists_of_follow (h : M.follow s (log ++ e :: log') = some t) :
    ∃ u, M.follow s log = some u ∧ M.allows u e = true ∧
      M.follow (M.after u e) log' = some t := by
  obtain ⟨u, hlog, hrest⟩ := follow_append_eq_some.mp h
  obtain ⟨hallows, hlog'⟩ := follow_cons_eq_some.mp hrest
  exact ⟨u, hlog, hallows, hlog'⟩

/-- **Along a log.**  What every allowed entry takes from one state of the monitor to the next
one holds of the log. -/
theorem follow_induction {I : List E → S → Prop} (hnil : I [] s)
    (hconcat : ∀ log t e, I log t → M.allows t e = true → I (log ++ [e]) (M.after t e)) :
    ∀ {log t}, M.follow s log = some t → I log t := by
  intro log
  induction log using List.reverseRecOn with
  | nil =>
      intro t h
      cases h
      exact hnil
  | append_singleton log e ih =>
      intro t h
      obtain ⟨u, hlog, hallows, hend⟩ := exists_of_follow h
      cases hend
      exact hconcat log u e (ih hlog) hallows

/-- What an allowed entry leaves as it is from a state on stays so. -/
theorem follow_invariant {I : S → Prop} (hstep : ∀ t e, I t → M.allows t e = true → I (M.after t e))
    (h : M.follow s log = some t) (hs : I s) : I t :=
  follow_induction (I := fun _ => I) hs (fun _ t e => hstep t e) h

end Monitor
