import CulpeoStream.Lib.History
import CulpeoStream.Lib.Ledger

/-!
# One counter for two directions

A party that keeps a single position for what comes in and what goes out.  An entry
that comes in is accepted only at the position, and moves it; an entry that goes out is
stamped with the position, and moves it as well.  Each side of the link believes to own
the positions of its own entries.

A run is a list of `Act`s.  The party may end the run, and nothing happens afterwards;
it may refuse to send; and it may move the position without anything going out, but
then nothing ever goes out.

As long as the entries are one-way, sharing the position does no harm: entries that
come in contiguously all meet it (`Runs.meets`), and those that go out are contiguous
(`Runs.stamps_contiguous`).

`Simulates` is what a state machine has to satisfy to be such a party as far as one of
its positions is concerned, and `Simulates.independent` is the result for its runs.
-/

namespace SharedCounter

open Ledger

universe u

variable {P : Type u}

/-- What one side offers: an entry that comes in names its position, one that goes out
is given one. -/
inductive Entry (P : Type u) where
  | inward (pos : Option P) (len : P)
  | outward (len : P)

namespace Entry

def isInward : Entry P → Bool
  | inward _ _ => true
  | outward _ => false

def pos : Entry P → Option P
  | inward pos _ => pos
  | outward _ => none

def len : Entry P → P
  | inward _ len => len
  | outward len => len

end Entry

/-- One entry of a run: the position before and after it, none once the run is over,
and what went out. -/
structure Act (P : Type u) where
  before : Option P
  entry : Entry P
  after : Option P
  stamps : List (Option P × P)

variable [AddMonoid P]

/-- **What the party does with an entry.**  Whether sent entries are seen is the same
for the whole run. -/
inductive Legal (visible : Prop) : Act P → Prop where
  | finished (entry : Entry P) : Legal visible ⟨none, entry, none, []⟩
  | accepted (now len : P) :
      Legal visible ⟨some now, .inward (some now) len, some (now + len), []⟩
  | ended (now : P) (pos : Option P) (len : P) :
      Legal visible ⟨some now, .inward pos len, none, []⟩
  | refused (now len : P) : Legal visible ⟨some now, .outward len, some now, []⟩
  | sent (hvisible : visible) (now len : P) :
      Legal visible ⟨some now, .outward len, some (now + len), [(some now, len)]⟩
  | hidden (hvisible : ¬ visible) (now len : P) :
      Legal visible ⟨some now, .outward len, some (now + len), []⟩

/-- A run from a position.  It may also be ended from outside, between two entries. -/
def Runs (visible : Prop) : Option P → List (Act P) → Prop
  | _, [] => True
  | now, a :: acts =>
      (a.before = now ∨ a.before = none) ∧ Legal visible a ∧ Runs visible a.after acts

variable {visible : Prop} {acts : List (Act P)}

/-- The entries of a run. -/
def entries (acts : List (Act P)) : List (Entry P) := acts.map Act.entry

/-- What went out in a run. -/
def stamps (acts : List (Act P)) : List (Option P × P) := acts.flatMap Act.stamps

theorem Runs.of_none {now : Option P} (h : Runs visible none acts) : Runs visible now acts := by
  cases acts with
  | nil => trivial
  | cons a acts =>
      obtain ⟨hbefore, hrest⟩ := h
      exact ⟨.inr (or_self_iff.mp hbefore), hrest⟩

/-- **Entries that come in meet the position**, when they are contiguous and the run is
one-way. -/
theorem Runs.meets {now : Option P} {next : P} (h : Runs visible now acts)
    (honeWay : OneWay Entry.isInward Entry.len (entries acts))
    (hnext : ∀ p, now = some p → (∃ e ∈ entries acts, e.isInward = true) → next = p)
    (hcontiguous : Contiguous Entry.pos Entry.len next ((entries acts).filter Entry.isInward)) :
    ∀ a ∈ acts, ∀ p, a.before = some p → a.entry.isInward = true → a.entry.pos = some p := by
  induction acts generalizing now next with
  | nil => nofun
  | cons a acts ih =>
      obtain ⟨hbefore, hlegal, hrest⟩ := h
      have ⟨hhead, htail⟩ := oneWay_cons.mp honeWay
      simp only [entries, List.map_cons] at hcontiguous hnext
      rw [List.forall_mem_cons]
      cases hlegal with
      | finished entry =>
          refine ⟨nofun, ?_⟩
          cases entry with
          | inward pos len =>
              rw [List.filter_cons_of_pos rfl, contiguous_cons] at hcontiguous
              exact ih hrest htail nofun hcontiguous.2
          | outward len =>
              rw [List.filter_cons_of_neg Bool.false_ne_true] at hcontiguous
              exact ih hrest htail nofun hcontiguous
      | accepted q len =>
          obtain rfl : some q = now := hbefore.resolve_right nofun
          obtain rfl : next = q := hnext q rfl ⟨_, List.mem_cons_self, rfl⟩
          rw [List.filter_cons_of_pos rfl, contiguous_cons] at hcontiguous
          refine ⟨fun p hp _ => hp, ih hrest htail ?_ hcontiguous.2⟩
          rintro p ⟨⟩ -
          rfl
      | ended q pos len =>
          obtain rfl : some q = now := hbefore.resolve_right nofun
          obtain rfl : next = q := hnext q rfl ⟨_, List.mem_cons_self, rfl⟩
          rw [List.filter_cons_of_pos rfl, contiguous_cons] at hcontiguous
          refine ⟨fun p hp _ => ?_, ih hrest htail nofun hcontiguous.2⟩
          rw [← hp]
          exact hcontiguous.1
      | refused q len =>
          obtain rfl : some q = now := hbefore.resolve_right nofun
          rw [List.filter_cons_of_neg Bool.false_ne_true] at hcontiguous
          refine ⟨nofun, ih hrest htail ?_ hcontiguous⟩
          rintro p ⟨⟩ ⟨e, he, hinward⟩
          exact hnext q rfl ⟨e, List.mem_cons_of_mem _ he, hinward⟩
      | sent _ q len | hidden _ q len =>
          obtain rfl : some q = now := hbefore.resolve_right nofun
          rw [List.filter_cons_of_neg Bool.false_ne_true] at hcontiguous
          refine ⟨nofun, ih hrest htail ?_ hcontiguous⟩
          -- Something comes in later, so this entry has not moved the position.
          rintro p ⟨⟩ ⟨e, he, hinward⟩
          have hzero : len = 0 := hhead e he (by rw [hinward]; nofun)
          rw [hnext q rfl ⟨e, List.mem_cons_of_mem _ he, hinward⟩, hzero, add_zero]

theorem Runs.stamps_eq_nil (hvisible : ¬ visible) {now : Option P} (h : Runs visible now acts) :
    stamps acts = [] := by
  induction acts generalizing now with
  | nil => rfl
  | cons a acts ih =>
      obtain ⟨-, hlegal, hrest⟩ := h
      have hnone : a.stamps = [] := by
        cases hlegal with
        | sent hyes _ _ => exact absurd hyes hvisible
        | _ => rfl
      rw [stamps, List.flatMap_cons, hnone]
      exact ih hrest

/-- **Entries that go out are contiguous**, when the run is one-way. -/
theorem Runs.stamps_contiguous {now : Option P} {next : P} (h : Runs visible now acts)
    (honeWay : OneWay Entry.isInward Entry.len (entries acts))
    (hnext : ∀ p, now = some p → (∃ e ∈ entries acts, e.isInward = false) → next = p) :
    Contiguous Prod.fst Prod.snd next (stamps acts) := by
  by_cases hvisible : visible
  case neg =>
    rw [h.stamps_eq_nil hvisible]
    exact contiguous_nil
  induction acts generalizing now next with
  | nil => exact contiguous_nil
  | cons a acts ih =>
      obtain ⟨hbefore, hlegal, hrest⟩ := h
      have ⟨hhead, htail⟩ := oneWay_cons.mp honeWay
      simp only [entries, List.map_cons] at hnext
      rw [stamps, List.flatMap_cons]
      cases hlegal with
      | finished entry => exact ih hrest htail nofun
      | ended q pos len => exact ih hrest htail nofun
      | accepted q len =>
          obtain rfl : some q = now := hbefore.resolve_right nofun
          refine ih hrest htail ?_
          rintro p ⟨⟩ ⟨e, he, houtward⟩
          -- An outward entry is still to come, so the inward one cannot have moved the counter.
          have hzero : len = 0 := hhead e he (by rw [houtward]; nofun)
          rw [hnext q rfl ⟨e, List.mem_cons_of_mem _ he, houtward⟩, hzero, add_zero]
      | refused q len =>
          obtain rfl : some q = now := hbefore.resolve_right nofun
          refine ih hrest htail ?_
          rintro p ⟨⟩ ⟨e, he, houtward⟩
          exact hnext q rfl ⟨e, List.mem_cons_of_mem _ he, houtward⟩
      | sent _ q len =>
          obtain rfl : some q = now := hbefore.resolve_right nofun
          obtain rfl : next = q := hnext q rfl ⟨_, List.mem_cons_self, rfl⟩
          rw [List.singleton_append, contiguous_cons]
          refine ⟨rfl, ih hrest htail ?_⟩
          rintro p ⟨⟩ -
          rfl
      | hidden hno _ _ => exact absurd hvisible hno

theorem Legal.after {a : Act P} (h : Legal visible a) {q : P} (hq : a.after = some q) :
    ∃ p, a.before = some p ∧ (q = p ∨ q = p + a.entry.len) := by
  cases h with
  | finished entry => cases hq
  | ended now pos len => cases hq
  | refused now len =>
      cases hq
      exact ⟨q, rfl, .inl rfl⟩
  | accepted now len | sent _ now len | hidden _ now len =>
      cases hq
      exact ⟨now, rfl, .inr rfl⟩

omit [AddMonoid P] in
/-- The inward entries are those of the items that are received. -/
theorem filter_inward {T F : Type u} {entry : T → Entry P} {received : T → Option F}
    {pos : F → Option P} {len : F → P}
    (hsome : ∀ {t f}, received t = some f → entry t = .inward (pos f) (len f))
    (hnone : ∀ {t}, received t = none → (entry t).isInward = false) (ts : List T) :
    (ts.map entry).filter Entry.isInward =
      (ts.filterMap received).map fun f => .inward (pos f) (len f) := by
  induction ts with
  | nil => rfl
  | cons t ts ih =>
      rw [List.map_cons, List.filterMap_cons]
      cases ht : received t with
      | none => rw [List.filter_cons_of_neg (by rw [hnone ht]; exact Bool.false_ne_true), ih]
      | some f => rw [hsome ht, List.filter_cons_of_pos rfl, ih, List.map_cons]

/-! ### State machines that keep such a position -/

section Simulation

open History

variable {σ C R : Type u} (act : C → σ → R) (next : R → σ) (offer : C → Option (Entry P))
  (position : σ → Option P) (out : Record σ C R → List (Option P × P))

/-- A call that is about the position, as an act. -/
def actOf (rec : Record σ C R) : Option (Act P) :=
  (offer rec.call).map fun entry =>
    ⟨position rec.before, entry, position (next rec.result), out rec⟩

/-- **A state machine that shares a position between two directions**: the calls that
offer an entry are legal, and the others leave the position alone or end the run. -/
structure Simulates (visible : Prop) (J : σ → List C → Prop) : Prop where
  step : ∀ s c cs, J s (c :: cs) → J (next (act c s)) cs
  offered : ∀ s c cs entry, J s (c :: cs) → offer c = some entry →
    Legal visible
      ⟨position s, entry, position (next (act c s)), out ⟨s, c, act c s⟩⟩
  elsewhere : ∀ s c cs, J s (c :: cs) → offer c = none →
    (position (next (act c s)) = position s ∨ position (next (act c s)) = none) ∧
      out ⟨s, c, act c s⟩ = []

variable {act next offer position out} {J : σ → List C → Prop}

omit [AddMonoid P] in
theorem entries_actOf (cs : List C) (s : σ) :
    entries ((history act next s cs).filterMap (actOf next offer position out)) =
      cs.filterMap offer := by
  induction cs generalizing s with
  | nil => rfl
  | cons c cs ih =>
      rw [history_cons, List.filterMap_cons, List.filterMap_cons, actOf]
      cases offer c with
      | none => exact ih _
      | some entry =>
          rw [Option.map_some, entries, List.map_cons]
          exact congrArg (entry :: ·) (ih _)

theorem Simulates.runs (h : Simulates act next offer position out visible J) (cs : List C) :
    ∀ {s : σ}, J s cs →
      Runs visible (position s)
        ((history act next s cs).filterMap (actOf next offer position out)) ∧
      stamps ((history act next s cs).filterMap (actOf next offer position out)) =
        (history act next s cs).flatMap out := by
  induction cs with
  | nil =>
      intro s _
      exact ⟨trivial, rfl⟩
  | cons c cs ih =>
      intro s hs
      obtain ⟨hruns, hstamps⟩ := ih (h.step s c cs hs)
      rw [history_cons, List.filterMap_cons, List.flatMap_cons, actOf]
      cases hoffer : offer c with
      | none =>
          obtain ⟨hposition, hout⟩ := h.elsewhere s c cs hs hoffer
          rw [hout]
          refine ⟨?_, hstamps⟩
          -- A call that is no act leaves the counter alone or ends the run.
          rcases hposition with hsame | hnone
          · rw [← hsame]
            exact hruns
          · rw [hnone] at hruns
            exact hruns.of_none
      | some entry =>
          refine ⟨⟨.inl rfl, h.offered s c cs entry hs hoffer, hruns⟩, ?_⟩
          rw [Option.map_some, stamps, List.flatMap_cons]
          exact congrArg (out ⟨s, c, act c s⟩ ++ ·) hstamps

/-- Every call of a run is made in a state that satisfies the invariant. -/
theorem Simulates.before (h : Simulates act next offer position out visible J) {cs : List C}
    {s : σ} (hs : J s cs) :
    ∀ rec ∈ history act next s cs,
      rec.result = act rec.call rec.before ∧ ∃ cs', J rec.before (rec.call :: cs') := by
  refine history_forall_rest (J := J) h.step ?_ cs hs
  intro s c cs hs
  exact ⟨rfl, cs, hs⟩

/-- **The two directions are independent in a one-way run**: entries that come in
contiguously meet the position, and those that go out are contiguous. -/
theorem Simulates.independent (h : Simulates act next offer position out visible J) {cs : List C}
    {s : σ} (hs : J s cs) {base : P} (hbase : position s = some base)
    (honeWay : OneWay Entry.isInward Entry.len (cs.filterMap offer))
    (hinward : Contiguous Entry.pos Entry.len base
      ((cs.filterMap offer).filter Entry.isInward)) :
    (∀ rec ∈ history act next s cs, ∀ entry p, offer rec.call = some entry →
      entry.isInward = true → position rec.before = some p → entry.pos = some p) ∧
    Contiguous Prod.fst Prod.snd base ((history act next s cs).flatMap out) := by
  obtain ⟨hruns, hstamps⟩ := h.runs cs hs
  have hnext : ∀ p, position s = some p → base = p := by
    intro p hp
    rw [hbase, Option.some.injEq] at hp
    exact hp
  rw [← @entries_actOf P σ C R act next offer position out cs s] at honeWay hinward
  refine ⟨fun rec hrec entry p hoffer hin hp => ?_, ?_⟩
  · refine hruns.meets honeWay (fun p hp _ => hnext p hp) hinward
      ⟨position rec.before, entry, position (next rec.result), out rec⟩ ?_ p hp hin
    exact List.mem_filterMap.mpr ⟨rec, hrec, by rw [actOf, hoffer, Option.map_some]⟩
  · rw [← hstamps]
    exact hruns.stamps_contiguous honeWay fun p hp _ => hnext p hp

end Simulation

end SharedCounter
