import Mathlib.Data.Int.Order.Basic
import CulpeoStream.Lib.History

/-!
# Fixed windows

A limiter that counts the events of a window.  The first event that comes `reach` or more
after the window was opened opens a new one, and is accepted whatever the limit is; every
other event is counted, and accepted if the count is within the limit.  The counter is a
machine integer with `size` values.

Such a limiter does not bound the accepted events of every interval of length `reach`: the
end of one window and the beginning of the next may be close together.  It does in a run in
which a window is opened only when no accepted event is within `reach` any more, the limit
is not zero and the counter does not overflow (`Spaced`, `bounded`).
-/

namespace FixedWindow

open History

universe u v w

variable {σ : Type u} {C : Type v} {R : Type w}

/-- What makes a state machine a counter: its window, the time of an event and whether an
effect is that of an accepted one. -/
structure Counter (σ : Type u) (C : Type v) (R : Type w) where
  act : C → σ → R
  next : R → σ
  opened : σ → ℤ
  counted : σ → ℕ
  time : C → ℤ
  accepts : R → Bool
  limit : ℕ
  reach : ℤ
  size : ℕ

variable (L : Counter σ C R)

namespace Counter

/-- The event opens a window. -/
def Opens (s : σ) (c : C) : Prop := L.reach ≤ L.time c - L.opened s

instance (s : σ) (c : C) : Decidable (L.Opens s c) :=
  inferInstanceAs (Decidable (L.reach ≤ L.time c - L.opened s))

structure IsCounter : Prop where
  opens : ∀ s c, L.Opens s c → L.accepts (L.act c s) = true ∧
    L.opened (L.next (L.act c s)) = L.time c ∧ L.counted (L.next (L.act c s)) = 1
  counts : ∀ s c, ¬ L.Opens s c →
    L.accepts (L.act c s) = decide ((L.counted s + 1) % L.size ≤ L.limit) ∧
      L.opened (L.next (L.act c s)) = L.opened s ∧
      L.counted (L.next (L.act c s)) = (L.counted s + 1) % L.size

/-- The run of the events from a state. -/
def run (s : σ) (events : List C) : List (Record σ C R) := history L.act L.next s events

/-- The times of the accepted events. -/
def accepted (past : List (Record σ C R)) : List ℤ :=
  (past.filter fun r => L.accepts r.result).map fun r => L.time r.call

/-- How many accepted events the interval from `t` on contains. -/
def load (past : List (Record σ C R)) (t : ℤ) : ℕ :=
  (L.accepted past).countP fun u => t ≤ u ∧ u < t + L.reach

/-- The clock does not go back. -/
def Monotone (events : List C) : Prop := events.Pairwise fun c d => L.time c ≤ L.time d

/-- An event that does no harm: it opens a window only if an event may be accepted at all
and none of those before is within reach, and otherwise the counter has room for it. -/
structure Spaced (past : List (Record σ C R)) (s : σ) (c : C) : Prop where
  positive : L.Opens s c → 1 ≤ L.limit
  clear : L.Opens s c → ∀ t ∈ L.accepted past, L.reach ≤ L.time c - t
  room : ¬ L.Opens s c → L.counted s + 1 < L.size

instance (past : List (Record σ C R)) (s : σ) (c : C) : Decidable (L.Spaced past s c) :=
  decidable_of_iff ((L.Opens s c → 1 ≤ L.limit) ∧
      (L.Opens s c → ∀ t ∈ L.accepted past, L.reach ≤ L.time c - t) ∧
        (¬ L.Opens s c → L.counted s + 1 < L.size))
    ⟨fun ⟨hpositive, hclear, hroom⟩ => ⟨hpositive, hclear, hroom⟩,
      fun h => ⟨h.positive, h.clear, h.room⟩⟩

/-- All events of a run are spaced. -/
def AllSpaced (run : List (Record σ C R)) : Prop :=
  ∀ past r post, run = past ++ r :: post → L.Spaced past r.before r.call

end Counter

variable {L}

theorem allSpaced_nil : L.AllSpaced [] := by
  intro past r post h
  cases past <;> cases h

theorem allSpaced_concat {past : List (Record σ C R)} {r : Record σ C R} :
    L.AllSpaced (past ++ [r]) ↔ L.AllSpaced past ∧ L.Spaced past r.before r.call := by
  constructor
  · intro h
    refine ⟨fun pre q post hpast => h pre q (post ++ [r]) ?_, h past r [] rfl⟩
    rw [hpast, List.append_assoc, List.cons_append]
  · rintro ⟨hpast, hlast⟩ pre q post hsplit
    rcases split_concat hsplit with ⟨rfl, rfl⟩ | ⟨mid, rfl, hmid⟩
    · rw [List.append_cancel_right hsplit] at hlast
      exact hlast
    · exact hpast pre q mid hmid

theorem allSpaced_pair {first second : Record σ C R} :
    L.AllSpaced [first, second] ↔
      L.Spaced [] first.before first.call ∧ L.Spaced [first] second.before second.call := by
  rw [show [first, second] = [first] ++ [second] from rfl, allSpaced_concat,
    ← List.nil_append [first], allSpaced_concat]
  exact and_congr_left' (and_iff_right allSpaced_nil)

theorem accepted_append (past post : List (Record σ C R)) :
    L.accepted (past ++ post) = L.accepted past ++ L.accepted post := by
  rw [Counter.accepted, List.filter_append, List.map_append]
  rfl

theorem accepted_singleton (r : Record σ C R) :
    L.accepted [r] = if L.accepts r.result then [L.time r.call] else [] := by
  by_cases h : L.accepts r.result = true <;> simp [Counter.accepted, h]

theorem accepted_cons {r : Record σ C R} (h : L.accepts r.result = true)
    (rest : List (Record σ C R)) :
    L.accepted (r :: rest) = L.time r.call :: L.accepted rest := by
  rw [Counter.accepted, List.filter_cons_of_pos (by simpa using h), List.map_cons,
    ← Counter.accepted]

theorem mem_accepted {past : List (Record σ C R)} {t : ℤ} (h : t ∈ L.accepted past) :
    ∃ r ∈ past, L.time r.call = t := by
  obtain ⟨r, hr, ht⟩ := List.mem_map.mp h
  exact ⟨r, (List.mem_filter.mp hr).1, ht⟩

/-- What the counter knows of the past: the events accepted in the present window come
last, there are no more of them than were counted, and those before are out of reach of one
of them. -/
structure Windowed (L : Counter σ C R) (past : List (Record σ C R)) (s : σ) : Prop where
  split : ∃ old current, L.accepted past = old ++ current ∧
    (∀ t ∈ old, ∃ u ∈ current, L.reach ≤ u - t) ∧ current.length ≤ L.counted s
  bounded : ∀ t, L.load past t ≤ L.limit

/-- One more accepted event: only those that are within reach of it matter. -/
theorem load_append {past : List (Record σ C R)} {r : Record σ C R}
    (haccepts : L.accepts r.result = true) {old current : List ℤ}
    (hsplit : L.accepted past = old ++ current)
    (hold : ∀ t ∈ old, L.reach ≤ L.time r.call - t) (hbounded : ∀ t, L.load past t ≤ L.limit)
    (hlength : current.length + 1 ≤ L.limit) (t : ℤ) : L.load (past ++ [r]) t ≤ L.limit := by
  rw [Counter.load, accepted_append, accepted_singleton, if_pos haccepts, List.countP_append,
    ← Counter.load]
  by_cases hin : t ≤ L.time r.call ∧ L.time r.call < t + L.reach
  · have hnone : (old.countP fun u => t ≤ u ∧ u < t + L.reach) = 0 := by
      rw [List.countP_eq_zero]
      intro u hu
      have hfar := hold u hu
      simp only [decide_eq_true_eq, not_and]
      omega
    have hcurrent : (current.countP fun u => t ≤ u ∧ u < t + L.reach) ≤ current.length :=
      List.countP_le_length
    have hlast : ([L.time r.call].countP fun u => t ≤ u ∧ u < t + L.reach) ≤ 1 :=
      List.countP_le_length
    rw [Counter.load, hsplit, List.countP_append, hnone]
    omega
  · have hlast : ([L.time r.call].countP fun u => t ≤ u ∧ u < t + L.reach) = 0 := by
      rw [List.countP_eq_zero]
      intro u hu
      rw [List.mem_singleton.mp hu]
      simpa using hin
    rw [hlast]
    exact hbounded t

theorem Windowed.step (hL : L.IsCounter) {past : List (Record σ C R)} {s : σ}
    (h : Windowed L past s) {c : C} (hspaced : L.Spaced past s c)
    (hclock : ∀ r ∈ past, L.time r.call ≤ L.time c) :
    Windowed L (past ++ [⟨s, c, L.act c s⟩]) (L.next (L.act c s)) := by
  obtain ⟨old, current, hsplit, hold, hcounted⟩ := h.split
  by_cases hopens : L.Opens s c
  · obtain ⟨haccepts, -, hone⟩ := hL.opens s c hopens
    refine ⟨⟨L.accepted past, [L.time c], ?_, ?_, ?_⟩, ?_⟩
    · rw [accepted_append, accepted_singleton, if_pos haccepts]
    · exact fun t ht => ⟨L.time c, List.mem_singleton_self _, hspaced.clear hopens t ht⟩
    · rw [hone]
      exact Nat.le_refl 1
    · exact load_append haccepts (List.append_nil _).symm (hspaced.clear hopens) h.bounded
        (hspaced.positive hopens)
  · obtain ⟨haccepts, -, hnext⟩ := hL.counts s c hopens
    rw [Nat.mod_eq_of_lt (hspaced.room hopens)] at haccepts hnext
    by_cases hroom : L.counted s + 1 ≤ L.limit
    · rw [decide_eq_true hroom] at haccepts
      refine ⟨⟨old, current ++ [L.time c], ?_, ?_, ?_⟩, ?_⟩
      · rw [accepted_append, accepted_singleton, if_pos haccepts, hsplit, List.append_assoc]
      · intro t ht
        obtain ⟨u, hu, hfar⟩ := hold t ht
        exact ⟨u, List.mem_append_left _ hu, hfar⟩
      · rw [hnext, List.length_append, List.length_singleton]
        omega
      · refine load_append haccepts hsplit (fun t ht => ?_) h.bounded (by omega)
        -- The clock has not gone back since the event that put `t` out of reach.
        obtain ⟨u, hu, hfar⟩ := hold t ht
        obtain ⟨r, hr, rfl⟩ := mem_accepted (hsplit ▸ List.mem_append_right old hu)
        have hle := hclock r hr
        show L.reach ≤ L.time c - t
        omega
    · rw [decide_eq_false hroom] at haccepts
      have hkeeps : L.accepted (past ++ [⟨s, c, L.act c s⟩]) = L.accepted past := by
        rw [accepted_append, accepted_singleton, haccepts]
        simp
      refine ⟨⟨old, current, ?_, hold, ?_⟩, fun t => ?_⟩
      · rw [hkeeps, hsplit]
      · rw [hnext]
        omega
      · rw [Counter.load, hkeeps]
        exact h.bounded t

/-- **The bound.**  In a run of spaced events no interval of length `reach` contains more
accepted events than the limit. -/
theorem bounded (hL : L.IsCounter) {s : σ} {events : List C} (hclock : L.Monotone events)
    (hspaced : L.AllSpaced (L.run s events)) (t : ℤ) : L.load (L.run s events) t ≤ L.limit := by
  refine (history_induction (J := fun past s => L.AllSpaced past → Windowed L past s)
    (G := fun _ => True) ?_ ?_ events (fun _ _ => trivial) hclock hspaced).bounded t
  · exact fun _ => ⟨⟨[], [], rfl, by simp, Nat.zero_le _⟩, fun t => Nat.zero_le _⟩
  · intro past s c ih _ horder hall
    obtain ⟨hpast, hlast⟩ := allSpaced_concat.mp hall
    exact (ih hpast).step hL hlast horder

/-! ### Bursts -/

/-- Events at the moment at which a window was opened are accepted up to the limit. -/
theorem burst (hL : L.IsCounter) (hreach : 0 < L.reach) (hsize : L.limit < L.size) {c : C} :
    ∀ (k : ℕ) {s : σ}, L.opened s = L.time c → L.counted s + k ≤ L.limit →
      L.accepted (L.run s (List.replicate k c)) = List.replicate k (L.time c) := by
  intro k
  induction k with
  | zero => intro s _ _; rfl
  | succ k ih =>
      intro s hopened hroom
      have hcounts : ¬ L.Opens s c := by
        show ¬ L.reach ≤ L.time c - L.opened s
        omega
      obtain ⟨haccepts, hsame, hnext⟩ := hL.counts s c hcounts
      rw [Nat.mod_eq_of_lt (by omega)] at haccepts hnext
      rw [decide_eq_true (by omega)] at haccepts
      have hrest := ih (hsame.trans hopened) (by rw [hnext]; omega)
      rw [Counter.run, List.replicate_succ, history_cons, accepted_cons haccepts,
        List.replicate_succ, ← Counter.run, hrest]

/-- **The converse.**  After a window has been opened by an event that is not spaced, a
burst at the same moment exceeds the limit. -/
theorem exceeded (hL : L.IsCounter) (hreach : 0 < L.reach) (hsize : L.limit < L.size) {s : σ}
    {events : List C} {c : C} (hclock : L.Monotone (events ++ [c]))
    (hopens : L.Opens (final L.act L.next s events) c)
    (hspaced : ¬ L.Spaced (L.run s events) (final L.act L.next s events) c) :
    ∃ k t, L.limit < L.load (L.run s (events ++ c :: List.replicate k c)) t := by
  obtain ⟨haccepts, hopened, hone⟩ := hL.opens _ c hopens
  -- What the run accepts when the burst has `k` more events.
  have hrun : ∀ k, k + 1 ≤ max 1 L.limit →
      L.accepted (L.run s (events ++ c :: List.replicate k c)) =
        L.accepted (L.run s events) ++ List.replicate (k + 1) (L.time c) := by
    intro k hk
    have hburst : L.accepted (L.run (L.next (L.act c (final L.act L.next s events)))
        (List.replicate k c)) = List.replicate k (L.time c) := by
      rcases Nat.eq_zero_or_pos k with rfl | hpos
      · rfl
      · exact burst hL hreach hsize k hopened (by rw [hone]; omega)
    rw [Counter.run, history_append, history_cons, accepted_append, accepted_cons haccepts,
      List.replicate_succ, ← Counter.run, ← Counter.run, hburst]
  have hlast : ∀ k t, t ≤ L.time c → L.time c < t + L.reach →
      (List.replicate (k + 1) (L.time c)).countP (fun u => t ≤ u ∧ u < t + L.reach) = k + 1 := by
    intro k t hle hlt
    rw [List.countP_replicate, if_pos (by simpa using ⟨hle, hlt⟩)]
  by_cases hlimit : 1 ≤ L.limit
  · -- One of the events before is still within reach.
    obtain ⟨t, ht, hnear⟩ : ∃ t ∈ L.accepted (L.run s events), L.time c - t < L.reach := by
      by_contra hnone
      simp only [not_exists, not_and, not_lt] at hnone
      exact hspaced ⟨fun _ => hlimit, fun _ => hnone, fun h => absurd hopens h⟩
    obtain ⟨r, hr, rfl⟩ := mem_accepted ht
    have hle : L.time r.call ≤ L.time c :=
      (List.pairwise_append.mp hclock).2.2 _ (call_mem_of_mem_history hr) c
        (List.mem_singleton_self c)
    refine ⟨L.limit - 1, L.time r.call, ?_⟩
    have hfirst : 1 ≤ (L.accepted (L.run s events)).countP
        fun u => L.time r.call ≤ u ∧ u < L.time r.call + L.reach :=
      List.one_le_countP_iff.mpr ⟨_, ht, decide_eq_true ⟨le_rfl, by omega⟩⟩
    rw [Counter.load, hrun _ (by omega), List.countP_append, hlast _ _ hle (by omega)]
    omega
  · refine ⟨0, L.time c, ?_⟩
    rw [Counter.load, hrun 0 (by omega), List.countP_append, hlast 0 _ le_rfl (by omega)]
    omega

end FixedWindow
