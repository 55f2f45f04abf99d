import CulpeoStream.Lib.History
import CulpeoStream.Session.AuthRefresh

/-!
# Challenges over whole runs

`AuthRefreshManager` under any sequence of `generate`, `validate_and_consume` and `clear`.
A run is a list of `AuthTurn`s with the clock and the CSPRNG each of them sees.

* `bytesToHex_of_hexToBytes` and `constantTimeEqual_iff`: the hexadecimal codec and the
  comparison do what their names say.
* `act_cases`: what one call does, listed in `Acts`.
* `Accounts`: what the fields of the manager say about the calls made so far; every call
  keeps it (`Accounts.step`).
* `challenges_of_run`: at most one challenge is outstanding, challenges keep their distance,
  and each is accepted at most once, in time and by its own nonce.
-/

namespace CulpeoStream.Session

open Message History

/-! ### The codec and the comparison -/

theorem hexChar_of_fromHex {c v : UInt8} (h : fromHex c = some v) :
    v.toNat < 16 ∧ hexChar v = toLowerAscii c := by
  have hall : ∀ n : Fin 256, (fromHex (UInt8.ofNat n)).all fun v =>
      v.toNat < 16 && hexChar v = toLowerAscii (UInt8.ofNat n) := by decide +kernel
  have hc := hall ⟨c.toNat, c.toNat_lt⟩
  rw [UInt8.ofNat_toNat, h] at hc
  simpa using hc

/-- The two digits of a byte come back from it. -/
theorem nibbles {h l : UInt8} (hh : h.toNat < 16) (hl : l.toNat < 16) :
    (((h <<< 4) ||| l) >>> 4) &&& 0x0f = h ∧ ((h <<< 4) ||| l) &&& 0x0f = l := by
  have hall : ∀ a b : Fin 16,
      (((UInt8.ofNat a <<< 4) ||| UInt8.ofNat b) >>> 4) &&& 0x0f = UInt8.ofNat a ∧
        ((UInt8.ofNat a <<< 4) ||| UInt8.ofNat b) &&& 0x0f = UInt8.ofNat b := by decide +kernel
  have hboth := hall ⟨h.toNat, hh⟩ ⟨l.toNat, hl⟩
  rwa [UInt8.ofNat_toNat, UInt8.ofNat_toNat] at hboth

theorem bytesToHex_of_hexPairs {hex bytes : Bytes} (heven : hex.length % 2 = 0)
    (h : hexPairs hex = some bytes) : bytesToHex bytes = hex.map toLowerAscii := by
  induction hex using hexPairs.induct generalizing bytes with
  | case1 c d rest hv lv tail hrest hd hc ih =>
      rw [hexPairs, hc, hd, hrest] at h
      cases h
      rw [List.length_cons, List.length_cons] at heven
      have htail := ih (by omega) hrest
      obtain ⟨hhigh, hchar⟩ := hexChar_of_fromHex hc
      obtain ⟨hlow, dchar⟩ := hexChar_of_fromHex hd
      obtain ⟨hfirst, hsecond⟩ := nibbles hhigh hlow
      rw [bytesToHex, List.flatMap_cons, hfirst, hsecond, hchar, dchar]
      exact congrArg _ htail
  | case2 c d rest hnone ih =>
      rw [hexPairs] at h
      split at h
      · exact (hnone _ _ _ ‹_› ‹_› ‹_›).elim
      · cases h
  | case3 hex hshort =>
      match hex, hshort with
      | [], _ =>
          cases h
          rfl
      | [c], _ => cases heven
      | c :: d :: rest, hshort => exact (hshort c d rest rfl).elim

/-- **Decoding.**  A text that decodes is the hexadecimal text of what it decodes to, up to
the case of its letters. -/
theorem bytesToHex_of_hexToBytes {hex bytes : Bytes} (h : hexToBytes hex = some bytes) :
    hex.length = 64 ∧ hex.map toLowerAscii = bytesToHex bytes := by
  rw [hexToBytes] at h
  split at h
  · cases h
  · rename_i hlength
    have h64 : hex.length = 64 := not_not.mp hlength
    exact ⟨h64, (bytesToHex_of_hexPairs (by rw [h64]) h).symm⟩

theorem foldl_diff_eq_zero {ps : List (UInt8 × UInt8)} {diff : UInt8} :
    ps.foldl (fun diff p => diff ||| (p.1 ^^^ p.2)) diff = 0 ↔
      diff = 0 ∧ ∀ p ∈ ps, p.1 = p.2 := by
  induction ps generalizing diff with
  | nil => simp
  | cons p ps ih =>
      rw [List.foldl_cons, ih, UInt8.or_eq_zero_iff, UInt8.xor_eq_zero_iff, List.forall_mem_cons,
        and_assoc]

/-- **Comparison.** -/
theorem constantTimeEqual_iff {a b : Bytes} : constantTimeEqual a b = true ↔ a = b := by
  unfold constantTimeEqual
  split
  · rename_i hlength
    refine ⟨fun h => absurd h Bool.false_ne_true, fun h => absurd (congrArg _ h) hlength⟩
  · rename_i hlength
    have hsame : a.length = b.length := not_not.mp hlength
    rw [beq_iff_eq, foldl_diff_eq_zero]
    constructor
    · rintro ⟨-, hall⟩
      refine List.ext_getElem hsame fun k ha hb => ?_
      exact hall (a[k], b[k]) (List.mem_iff_getElem.mpr ⟨k, by simpa using ⟨ha, hb⟩, by simp⟩)
    · rintro rfl
      refine ⟨rfl, fun p hp => ?_⟩
      obtain ⟨k, hk, rfl⟩ := List.mem_iff_getElem.mp hp
      simp

/-! ### Calls -/

inductive AuthCall where
  | generate
  | validateAndConsume (echoedHex : Bytes)
  | clear
  deriving DecidableEq

/-- A call on the manager, and what it reads from its surroundings. -/
structure AuthTurn where
  call : AuthCall
  ambient : Ambient := {}

def AuthTurn.now (turn : AuthTurn) : ℤ := turn.ambient.steadyNow

/-- What a call returns. -/
inductive AuthAnswer where
  | generated (result : Except Error Bytes)
  | validated (result : Except Error Unit)
  | cleared

structure AuthOutcome where
  mgr : AuthRefreshManager
  answer : AuthAnswer

/-- The effect of a call. -/
def AuthTurn.act (minIntervalS timeoutS : UInt32) (turn : AuthTurn) (mgr : AuthRefreshManager) :
    AuthOutcome :=
  match turn.call with
  | .generate =>
      ⟨(mgr.generate turn.ambient minIntervalS).2,
        .generated (mgr.generate turn.ambient minIntervalS).1⟩
  | .validateAndConsume echoedHex =>
      ⟨(mgr.validateAndConsume turn.now echoedHex timeoutS).2,
        .validated (mgr.validateAndConsume turn.now echoedHex timeoutS).1⟩
  | .clear => ⟨mgr.clear, .cleared⟩

/-- **What a call on the manager can do.** -/
inductive Acts (minIntervalS timeoutS : UInt32) (turn : AuthTurn) (mgr : AuthRefreshManager) :
    AuthOutcome → Prop where
  | refuses {e : Error} (hcall : turn.call = .generate) :
      Acts minIntervalS timeoutS turn mgr ⟨mgr, .generated (.error e)⟩
  | issues {nonce : Bytes} (hcall : turn.call = .generate) (hpending : mgr.pending = false)
      (hrate : mgr.lastIssued ≠ 0 →
        minIntervalS.toNat ≤ AuthRefreshManager.elapsedSeconds turn.now mgr.lastIssued) :
      Acts minIntervalS timeoutS turn mgr
        ⟨{ nonce, pending := true, issuedAt := turn.now, lastIssued := turn.now },
          .generated (.ok (bytesToHex nonce))⟩
  | rejects {hex : Bytes} {e : Error} {mgr' : AuthRefreshManager}
      (hcall : turn.call = .validateAndConsume hex) (hpending : mgr'.pending = false)
      (hlast : mgr'.lastIssued = mgr.lastIssued) :
      Acts minIntervalS timeoutS turn mgr ⟨mgr', .validated (.error e)⟩
  | accepts {hex : Bytes} (hcall : turn.call = .validateAndConsume hex)
      (hpending : mgr.pending = true)
      (htime : AuthRefreshManager.elapsedSeconds turn.now mgr.issuedAt < timeoutS.toNat)
      (hnonce : hexToBytes hex = some mgr.nonce) :
      Acts minIntervalS timeoutS turn mgr ⟨mgr.clear, .validated (.ok ())⟩
  | clears (hcall : turn.call = .clear) :
      Acts minIntervalS timeoutS turn mgr ⟨mgr.clear, .cleared⟩

section Cases

variable {minIntervalS timeoutS : UInt32} {turn : AuthTurn} {mgr : AuthRefreshManager}

theorem generate_cases (hcall : turn.call = .generate) :
    Acts minIntervalS timeoutS turn mgr
      ⟨(mgr.generate turn.ambient minIntervalS).2,
        .generated (mgr.generate turn.ambient minIntervalS).1⟩ := by
  unfold AuthRefreshManager.generate
  split
  · exact .refuses hcall
  · rename_i hpending
    split
    · exact .refuses hcall
    · rename_i hrate
      split
      · exact .refuses hcall
      · refine .issues hcall (by simpa using hpending) fun hlast => ?_
        exact not_lt.mp fun hearly => hrate ⟨hlast, hearly⟩

theorem validateAndConsume_cases {hex : Bytes} (hcall : turn.call = .validateAndConsume hex) :
    Acts minIntervalS timeoutS turn mgr
      ⟨(mgr.validateAndConsume turn.now hex timeoutS).2,
        .validated (mgr.validateAndConsume turn.now hex timeoutS).1⟩ := by
  unfold AuthRefreshManager.validateAndConsume
  split
  · rename_i hpending
    exact .rejects hcall (by simpa using hpending) rfl
  · rename_i hpending
    have hpend : mgr.pending = true := by simpa using hpending
    split
    · exact .rejects hcall rfl rfl
    · rename_i hexpired
      split
      · exact .rejects hcall rfl rfl
      · rename_i echoed hdecode
        split
        · rename_i hequal
          refine .accepts hcall hpend ?_ (by rw [hdecode, constantTimeEqual_iff.mp hequal])
          simpa [AuthRefreshManager.isExpired, hpend] using hexpired
        · exact .rejects hcall rfl rfl

/-- **Every call is one of these.** -/
theorem act_cases (minIntervalS timeoutS : UInt32) (turn : AuthTurn) (mgr : AuthRefreshManager) :
    Acts minIntervalS timeoutS turn mgr (turn.act minIntervalS timeoutS mgr) := by
  unfold AuthTurn.act
  cases hcall : turn.call with
  | generate => exact generate_cases hcall
  | validateAndConsume hex => exact validateAndConsume_cases hcall
  | clear => exact .clears hcall

end Cases

/-! ### Runs -/

abbrev AuthRecord := Record AuthRefreshManager AuthTurn AuthOutcome

/-- The records of a run from a new manager. -/
def authHistory (minIntervalS timeoutS : UInt32) (turns : List AuthTurn) : List AuthRecord :=
  history (AuthTurn.act minIntervalS timeoutS) AuthOutcome.mgr {} turns

namespace AuthRecord

/-- The call is a `generate` that returned this text. -/
def Returns (rec : AuthRecord) (hex : Bytes) : Prop :=
  rec.result.answer = .generated (.ok hex)

/-- The call is a `validate_and_consume` that accepted this text. -/
def AcceptsHex (rec : AuthRecord) (hex : Bytes) : Prop :=
  rec.call.call = .validateAndConsume hex ∧ rec.result.answer = .validated (.ok ())

/-- The call is a `validate_and_consume` or a `clear`. -/
def Ends (rec : AuthRecord) : Prop :=
  rec.call.call ≠ .generate

def now (rec : AuthRecord) : ℤ := rec.call.now

end AuthRecord

/-- The texts that have been handed out and have not come to an end yet, one more call
having been made. -/
def stillOutstanding (texts : List Bytes) (rec : AuthRecord) : List Bytes :=
  match rec.result.answer with
  | .generated (.ok hex) => texts ++ [hex]
  | .generated (.error _) => texts
  | .validated _ => []
  | .cleared => []

/-- The challenges that are pending after some calls. -/
def outstanding (past : List AuthRecord) : List Bytes :=
  past.foldl stillOutstanding []

theorem outstanding_concat (past : List AuthRecord) (rec : AuthRecord) :
    outstanding (past ++ [rec]) = stillOutstanding (outstanding past) rec := by
  rw [outstanding, List.foldl_append]
  rfl

/-- **What the manager knows of the past**: its one challenge is the latest that was handed
out, and `lastIssued` is as late as any of them. -/
structure Accounts (past : List AuthRecord) (mgr : AuthRefreshManager) : Prop where
  handedOut : outstanding past = if mgr.pending then [bytesToHex mgr.nonce] else []
  issued : mgr.pending = true → ∃ pre g mid, past = pre ++ g :: mid ∧
    g.Returns (bytesToHex mgr.nonce) ∧ g.now = mgr.issuedAt ∧
    ∀ rec ∈ mid, ¬ rec.Ends ∧ ∀ hex, ¬ rec.Returns hex
  ended : mgr.pending = false → ∀ pre g mid hex, past = pre ++ g :: mid → g.Returns hex →
    ∃ rec ∈ mid, rec.Ends
  last : ∀ g ∈ past, ∀ hex, g.Returns hex → mgr.lastIssued ≠ 0 ∧ g.now ≤ mgr.lastIssued
  renewed : mgr.pending = true → ∀ pre a mid hex, past = pre ++ a :: mid → a.AcceptsHex hex →
    ∃ g ∈ mid, ∃ hex', g.Returns hex'

theorem accounts_nil : Accounts [] {} where
  handedOut := rfl
  issued h := by cases h
  ended _ pre g mid hex h := by simp at h
  last g hg := by cases hg
  renewed h := by cases h

namespace Accounts

variable {past : List AuthRecord} {mgr mgr' : AuthRefreshManager} {rec : AuthRecord}

/-- A call that ends the challenge. -/
theorem ends (h : Accounts past mgr) (hends : rec.Ends) (hanswer : ∀ hex, ¬ rec.Returns hex)
    (hout : outstanding (past ++ [rec]) = []) (hpending : mgr'.pending = false)
    (hlast : mgr'.lastIssued = mgr.lastIssued) : Accounts (past ++ [rec]) mgr' where
  handedOut := by rw [hout, hpending]; rfl
  issued hpend := by rw [hpending] at hpend; cases hpend
  ended _ pre g mid hex hsplit hg := by
    rcases split_concat hsplit with ⟨rfl, -⟩ | ⟨mid', rfl, -⟩
    · exact absurd hg (hanswer hex)
    · exact ⟨rec, by simp, hends⟩
  last g hg hex hret := by
    rw [hlast]
    rcases List.mem_append.mp hg with hg | hg
    · exact h.last g hg hex hret
    · rw [List.mem_singleton] at hg
      exact absurd (hg ▸ hret) (hanswer hex)
  renewed hpend := by rw [hpending] at hpend; cases hpend

/-- A `generate` that fails. -/
theorem refuses (h : Accounts past mgr) {e : Error} (hcall : rec.call.call = .generate)
    (hanswer : rec.result.answer = .generated (.error e)) : Accounts (past ++ [rec]) mgr where
  handedOut := by rw [outstanding_concat, stillOutstanding, hanswer, ← h.handedOut]
  issued hpend := by
    obtain ⟨pre, g, mid, rfl, hret, hnow, hmid⟩ := h.issued hpend
    refine ⟨pre, g, mid ++ [rec], by simp, hret, hnow, fun r hr => ?_⟩
    rcases List.mem_append.mp hr with hr | hr
    · exact hmid r hr
    · rw [List.mem_singleton] at hr
      subst hr
      refine ⟨fun hends => hends hcall, fun hex hret => ?_⟩
      rw [AuthRecord.Returns, hanswer] at hret
      cases hret
  ended hpend pre g mid hex hsplit hg := by
    rcases split_concat hsplit with ⟨rfl, -⟩ | ⟨mid', rfl, hpast⟩
    · rw [AuthRecord.Returns, hanswer] at hg
      cases hg
    · obtain ⟨r, hr, hends⟩ := h.ended hpend pre g mid' hex hpast hg
      exact ⟨r, List.mem_append_left _ hr, hends⟩
  last g hg hex hret := by
    rcases List.mem_append.mp hg with hg | hg
    · exact h.last g hg hex hret
    · rw [List.mem_singleton] at hg
      rw [hg, AuthRecord.Returns, hanswer] at hret
      cases hret
  renewed hpend pre a mid hex hsplit ha := by
    rcases split_concat hsplit with ⟨rfl, -⟩ | ⟨mid', rfl, hpast⟩
    · have hbad := ha.2
      rw [hanswer] at hbad
      cases hbad
    · obtain ⟨g, hg, hret⟩ := h.renewed hpend pre a mid' hex hpast ha
      exact ⟨g, List.mem_append_left _ hg, hret⟩

/-- A `generate` that succeeds. -/
theorem issues (h : Accounts past mgr) (hpending : mgr.pending = false) (hpos : 0 < rec.now)
    (horder : ∀ g ∈ past, g.now ≤ rec.now)
    (hanswer : rec.Returns (bytesToHex mgr'.nonce)) (hpend : mgr'.pending = true)
    (hissued : mgr'.issuedAt = rec.now) (hlast : mgr'.lastIssued = rec.now) :
    Accounts (past ++ [rec]) mgr' where
  handedOut := by
    rw [outstanding_concat, stillOutstanding, hanswer, h.handedOut, hpending, hpend]
    rfl
  issued _ := ⟨past, rec, [], rfl, hanswer, hissued.symm, by simp⟩
  ended hidle := by rw [hpend] at hidle; cases hidle
  last g hg hex hret := by
    rw [hlast]
    refine ⟨ne_of_gt hpos, ?_⟩
    rcases List.mem_append.mp hg with hg | hg
    · exact horder g hg
    · rw [List.mem_singleton.mp hg]
  renewed _ pre a mid hex hsplit ha := by
    rcases split_concat hsplit with ⟨rfl, -⟩ | ⟨mid', rfl, -⟩
    · have hbad := ha.2
      rw [show a.result.answer = _ from hanswer] at hbad
      cases hbad
    · exact ⟨rec, by simp, _, hanswer⟩

/-- **Every call keeps the accounts.** -/
theorem step (minIntervalS timeoutS : UInt32) (turn : AuthTurn) (h : Accounts past mgr)
    (hpos : 0 < turn.now) (horder : ∀ rec ∈ past, rec.call.now ≤ turn.now) :
    Accounts (past ++ [⟨mgr, turn, turn.act minIntervalS timeoutS mgr⟩])
      (turn.act minIntervalS timeoutS mgr).mgr := by
  have hacts := act_cases minIntervalS timeoutS turn mgr
  generalize turn.act minIntervalS timeoutS mgr = out at hacts
  cases hacts with
  | refuses hcall => exact h.refuses hcall rfl
  | issues hcall hpending _ => exact h.issues hpending hpos horder rfl rfl rfl rfl
  | rejects hcall hpending hlast =>
      refine h.ends ?_ (fun hex hret => by cases hret) (outstanding_concat _ _) hpending hlast
      simp [AuthRecord.Ends, hcall]
  | accepts hcall _ _ _ =>
      refine h.ends ?_ (fun hex hret => by cases hret) (outstanding_concat _ _) rfl rfl
      simp [AuthRecord.Ends, hcall]
  | clears hcall =>
      refine h.ends ?_ (fun hex hret => by cases hret) (outstanding_concat _ _) rfl rfl
      simp [AuthRecord.Ends, hcall]

end Accounts

section Run

variable {minIntervalS timeoutS : UInt32} {turns : List AuthTurn}

/-- The clock of a run is positive and does not go back. -/
def ClockRuns (turns : List AuthTurn) : Prop :=
  (∀ turn ∈ turns, 0 < turn.now) ∧ turns.Pairwise fun turn turn' => turn.now ≤ turn'.now

theorem accounts_of_run (hclock : ClockRuns turns) :
    Accounts (authHistory minIntervalS timeoutS turns)
      (final (AuthTurn.act minIntervalS timeoutS) AuthOutcome.mgr {} turns) :=
  history_induction (J := Accounts) (G := fun turn => 0 < turn.now) accounts_nil
    (fun _ _ turn h hpos horder => h.step minIntervalS timeoutS turn hpos horder) turns hclock.1
    hclock.2

/-- **What was known when a call was made.** -/
theorem accounts_of_split (hclock : ClockRuns turns) {pre post : List AuthRecord}
    {rec : AuthRecord} (h : authHistory minIntervalS timeoutS turns = pre ++ rec :: post) :
    Accounts pre rec.before ∧ Acts minIntervalS timeoutS rec.call rec.before rec.result := by
  obtain ⟨cs₁, cs₂, rfl, rfl, hrec⟩ := history_split h
  have hpast : ClockRuns cs₁ :=
    ⟨fun turn hturn => hclock.1 turn (List.mem_append_left _ hturn),
      (List.pairwise_append.mp hclock.2).1⟩
  have haccounts := @accounts_of_run minIntervalS timeoutS cs₁ hpast
  rw [hrec]
  exact ⟨haccounts, act_cases _ _ _ _⟩

/-- The clock does not go back between two records. -/
theorem now_le_of_split (hclock : ClockRuns turns) {pre post : List AuthRecord}
    {g rec : AuthRecord} (h : authHistory minIntervalS timeoutS turns = pre ++ rec :: post)
    (hg : g ∈ pre) : g.now ≤ rec.now := by
  have horder := hclock.2
  rw [← @map_call_history _ _ _ (AuthTurn.act minIntervalS timeoutS) AuthOutcome.mgr turns {},
    List.pairwise_map] at horder
  rw [authHistory] at h
  rw [h, List.pairwise_append] at horder
  exact horder.2.2 g hg rec List.mem_cons_self

theorem outstanding_length_le {past : List AuthRecord} {mgr : AuthRefreshManager}
    (h : Accounts past mgr) : (outstanding past).length ≤ 1 := by
  rw [h.handedOut]
  split
  · exact le_rfl
  · exact Nat.zero_le 1

/-- Two challenges keep their distance, and the first one has come to an end. -/
theorem generates_separated (hclock : ClockRuns turns) {pre mid post : List AuthRecord}
    {g g' : AuthRecord} {hex hex' : Bytes}
    (h : authHistory minIntervalS timeoutS turns = pre ++ g :: (mid ++ g' :: post))
    (hg : g.Returns hex) (hg' : g'.Returns hex') :
    (∃ rec ∈ mid, rec.Ends) ∧ (minIntervalS.toNat : ℤ) * 1000000000 ≤ g'.now - g.now := by
  have hsplit : authHistory minIntervalS timeoutS turns = (pre ++ g :: mid) ++ g' :: post := by
    rw [h, List.append_assoc, List.cons_append]
  obtain ⟨haccounts, hacts⟩ := accounts_of_split hclock hsplit
  have hle := now_le_of_split hclock hsplit (g := g) (by simp)
  unfold AuthRecord.Returns at hg'
  cases hresult : g'.result
  rw [hresult] at hacts hg'
  cases hacts with
  | issues _ hpending hrate =>
      refine ⟨haccounts.ended hpending pre g mid hex rfl hg, ?_⟩
      obtain ⟨hlast, hearlier⟩ := haccounts.last g (by simp) hex hg
      have hinterval := hrate hlast
      rw [AuthRefreshManager.elapsedSeconds] at hinterval
      have hnow : g'.call.now = g'.now := rfl
      rw [hnow] at hinterval
      rcases le_total g'.before.lastIssued g'.now with hlater | hsooner
      · rw [Int.tdiv_eq_ediv_of_nonneg (by omega)] at hinterval
        omega
      · have hnonpos : (g'.now - g'.before.lastIssued).tdiv 1000000000 ≤ Int.tdiv 0 1000000000 :=
          Int.tdiv_le_tdiv (by decide) (by omega)
        rw [Int.zero_tdiv] at hnonpos
        omega
  | _ => cases hg'

/-- An accepted text is that of the latest challenge, which is pending and not too old. -/
theorem accepts_latest (hclock : ClockRuns turns) {pre post : List AuthRecord} {rec : AuthRecord}
    {hex : Bytes} (h : authHistory minIntervalS timeoutS turns = pre ++ rec :: post)
    (haccept : rec.AcceptsHex hex) :
    rec.before.pending = true ∧ ∃ pre' g mid nonce, pre = pre' ++ g :: mid ∧
      g.Returns (bytesToHex nonce) ∧ (∀ r ∈ mid, ¬ r.Ends ∧ ∀ hex', ¬ r.Returns hex') ∧
      rec.now - g.now < (timeoutS.toNat : ℤ) * 1000000000 ∧ hex.length = 64 ∧
      hexToBytes hex = some nonce ∧ hex.map toLowerAscii = bytesToHex nonce := by
  obtain ⟨haccounts, hacts⟩ := accounts_of_split hclock h
  obtain ⟨hcall, hanswer⟩ := haccept
  cases hresult : rec.result
  rw [hresult] at hacts hanswer
  cases hacts with
  | accepts hcall' hpending htime hnonce =>
      rw [hcall] at hcall'
      cases hcall'
      obtain ⟨pre', g, mid, hpre, hreturns, hissued, hmid⟩ := haccounts.issued hpending
      obtain ⟨hlength, hlower⟩ := bytesToHex_of_hexToBytes hnonce
      refine ⟨hpending, pre', g, mid, rec.before.nonce, hpre, hreturns, hmid, ?_, hlength, hnonce,
        hlower⟩
      have hle : g.now ≤ rec.now := now_le_of_split hclock h (by simp [hpre])
      rw [AuthRefreshManager.elapsedSeconds, ← hissued, show rec.call.now = rec.now from rfl,
        Int.tdiv_eq_ediv_of_nonneg (by omega)] at htime
      omega
  | _ => cases hanswer

/-- Between two accepted texts there is another challenge. -/
theorem accepts_renewed (hclock : ClockRuns turns) {pre mid post : List AuthRecord}
    {a a' : AuthRecord} {hex hex' : Bytes}
    (h : authHistory minIntervalS timeoutS turns = pre ++ a :: (mid ++ a' :: post))
    (ha : a.AcceptsHex hex) (ha' : a'.AcceptsHex hex') : ∃ g ∈ mid, ∃ hex, g.Returns hex := by
  have hsplit : authHistory minIntervalS timeoutS turns = (pre ++ a :: mid) ++ a' :: post := by
    rw [h, List.append_assoc, List.cons_append]
  exact (accounts_of_split hclock hsplit).1.renewed (accepts_latest hclock hsplit ha').1 pre a mid
    hex rfl ha

/-- Nothing is pending after a `validate_and_consume`. -/
theorem idle_of_validates (hclock : ClockRuns turns) {rec : AuthRecord} {hex : Bytes}
    (hmem : rec ∈ authHistory minIntervalS timeoutS turns)
    (hcall : rec.call.call = .validateAndConsume hex) : rec.result.mgr.pending = false := by
  obtain ⟨pre, post, h⟩ := List.append_of_mem hmem
  have hacts := (accounts_of_split hclock h).2
  generalize rec.result = result at hacts
  cases hacts with
  | refuses hcall' | issues hcall' _ _ | clears hcall' =>
      rw [hcall] at hcall'
      cases hcall'
  | rejects _ hpending _ => exact hpending
  | accepts _ _ _ _ => rfl

/-- **Challenges over whole runs.**  For every sequence of calls on a clock that does not go
back, with any nonces: at most one challenge is outstanding; two challenges are separated by a
`validate_and_consume` or a `clear` and by the minimal interval; what is accepted is, up to
case, the text of the latest challenge, pending and not older than the timeout; between two
acceptances there is another challenge; and nothing is pending after a `validate_and_consume`. -/
theorem challenges_of_run (minIntervalS timeoutS : UInt32) (turns : List AuthTurn)
    (hclock : ClockRuns turns) :
    (∀ pre post, authHistory minIntervalS timeoutS turns = pre ++ post →
      (outstanding pre).length ≤ 1) ∧
    (∀ pre g mid g' post hex hex',
      authHistory minIntervalS timeoutS turns = pre ++ g :: (mid ++ g' :: post) →
      g.Returns hex → g'.Returns hex' →
      (∃ rec ∈ mid, rec.Ends) ∧ (minIntervalS.toNat : ℤ) * 1000000000 ≤ g'.now - g.now) ∧
    (∀ pre rec post hex, authHistory minIntervalS timeoutS turns = pre ++ rec :: post →
      rec.AcceptsHex hex →
      rec.before.pending = true ∧ ∃ pre' g mid nonce, pre = pre' ++ g :: mid ∧
        g.Returns (bytesToHex nonce) ∧ (∀ r ∈ mid, ¬ r.Ends ∧ ∀ hex', ¬ r.Returns hex') ∧
        rec.now - g.now < (timeoutS.toNat : ℤ) * 1000000000 ∧ hex.length = 64 ∧
        hexToBytes hex = some nonce ∧ hex.map toLowerAscii = bytesToHex nonce) ∧
    (∀ pre a mid a' post hex hex',
      authHistory minIntervalS timeoutS turns = pre ++ a :: (mid ++ a' :: post) →
      a.AcceptsHex hex → a'.AcceptsHex hex' → ∃ g ∈ mid, ∃ hex, g.Returns hex) ∧
    (∀ rec ∈ authHistory minIntervalS timeoutS turns, ∀ hex,
      rec.call.call = .validateAndConsume hex → rec.result.mgr.pending = false) := by
  refine ⟨fun pre post h => ?_, fun _ _ _ _ _ _ _ h => generates_separated hclock h,
    fun _ _ _ _ h => accepts_latest hclock h, fun _ _ _ _ _ _ _ h => accepts_renewed hclock h,
    fun _ hmem _ => idle_of_validates hclock hmem⟩
  cases post with
  | nil =>
      rw [List.append_nil] at h
      rw [← h]
      exact outstanding_length_le (accounts_of_run hclock)
  | cons rec post => exact outstanding_length_le (accounts_of_split hclock h).1

end Run

/-- A challenge that is answered after a second, and the next one half a minute later. -/
def exampleExchange : List AuthTurn :=
  [{ call := .generate
     ambient := { steadyNow := 1000000000, draw := fun _ => some fun _ => 0xab } },
    { call := .validateAndConsume (bytesToHex (List.replicate 32 0xab))
      ambient := { steadyNow := 2000000000 } },
    { call := .generate
      ambient := { steadyNow := 31000000000, draw := fun _ => some fun _ => 0xcd } }]

/-- Both challenges of the exchange are handed out, the second one after thirty seconds. -/
theorem challenges_of_run_example :
    (authHistory 30 30 exampleExchange).map (fun rec => rec.result.mgr.pending) =
      [true, false, true] ∧
    ∀ pre g mid g' post hex hex',
      authHistory 30 30 exampleExchange = pre ++ g :: (mid ++ g' :: post) →
      g.Returns hex → g'.Returns hex' →
      (∃ rec ∈ mid, rec.Ends) ∧ ((30 : UInt32).toNat : ℤ) * 1000000000 ≤ g'.now - g.now :=
  ⟨by decide,
    (challenges_of_run 30 30 exampleExchange
      ⟨by simp [exampleExchange, AuthTurn.now], by simp [exampleExchange, AuthTurn.now]⟩).2.1⟩

end CulpeoStream.Session
