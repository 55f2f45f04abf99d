import CulpeoStream.Lib.Utf8Cuts
import CulpeoStream.Message.Chars

/-!
# `transport_ws.cpp`: the reason of a close

A WebSocket close frame has room for a reason of 123 bytes.  `WsTransport::close` cuts a longer
one behind the 123rd byte, which is within a character when the next byte continues one
(`close_sendable_iff`).
-/

namespace CulpeoStream.Transport

open Message Utf8

/-- A control character, other than a tab, gives way to a question mark. -/
def sanitize (c : UInt8) : UInt8 := if c < 0x20 ∧ c ≠ ch '\t' then ch '?' else c

/-- `WsTransport::close`: what the close callback is called with. -/
def WsTransport.close (code : ℤ) (reason : Bytes) : ℤ × Bytes :=
  let reason := if 123 < reason.length then reason.take 123 else reason
  (code, reason.map sanitize)

/-- A reason that a close frame can carry, made from this one. -/
structure Sendable (reason sent : Bytes) : Prop where
  valid : IsValid sent
  length_le : sent.length ≤ 123
  no_control : ∀ c ∈ sent, c < 0x20 → c = ch '\t'
  made : ∃ n, sent = (reason.take n).map sanitize

theorem sanitize_no_control (c : UInt8) : sanitize c < 0x20 → sanitize c = ch '\t' := by
  have htab : ¬ ch '?' < 0x20 := by decide
  unfold sanitize
  split
  · exact fun h => absurd h htab
  · rename_i hkept
    intro hlow
    by_contra hne
    exact hkept ⟨hlow, hne⟩

theorem sanitize_ascii (c : UInt8) (h : c.toNat < 0x80) : (sanitize c).toNat < 0x80 := by
  unfold sanitize
  split
  · decide
  · exact h

theorem sanitize_other (c : UInt8) (h : 0x80 ≤ c.toNat) : sanitize c = c := by
  refine if_neg fun hlow => ?_
  have hlt : c.toNat < 0x20 := UInt8.lt_iff_toNat_lt.mp hlow.1
  omega

/-- A byte continues a character exactly if it does so after the replacement. -/
theorem isContinuation_sanitize (c : UInt8) : isContinuation (sanitize c) = isContinuation c := by
  by_cases h : c.toNat < 0x80
  · have hno : ∀ b : UInt8, b.toNat < 0x80 → isContinuation b = false := by
      intro b hb
      rw [isContinuation, decide_eq_false (by omega), Bool.false_and]
    rw [hno _ (sanitize_ascii c h), hno c h]
  · rw [sanitize_other c (by omega)]

theorem close_eq (code : ℤ) (reason : Bytes) :
    WsTransport.close code reason = (code, (reason.take 123).map sanitize) := by
  unfold WsTransport.close
  dsimp only
  split
  · rfl
  · rw [List.take_of_length_le (by omega)]

/-- The cut is within a character if the byte behind it continues one. -/
theorem isValid_close_iff {reason : Bytes} (hvalid : IsValid reason) (code : ℤ) :
    IsValid (WsTransport.close code reason).2 ↔
      ∀ c ∈ reason[123]?, isContinuation c = false := by
  have hsanitized : IsValid (reason.map sanitize) :=
    hvalid.map_ascii sanitize_ascii sanitize_other
  rw [close_eq, List.map_take, isValid_take_iff hsanitized, List.getElem?_map]
  simp [isContinuation_sanitize]

/-- **The reason can be sent** exactly if the byte behind the cut, if there is one, does not
continue a character. -/
theorem close_sendable_iff {reason : Bytes} (hvalid : IsValid reason) (code : ℤ) :
    Sendable reason (WsTransport.close code reason).2 ↔
      ∀ c ∈ reason[123]?, isContinuation c = false := by
  rw [← isValid_close_iff hvalid code]
  refine ⟨Sendable.valid, fun h => ⟨h, ?_, ?_, 123, congrArg Prod.snd (close_eq code reason)⟩⟩
  · rw [close_eq, List.length_map, List.length_take]
    exact Nat.min_le_left _ _
  · rw [close_eq]
    intro c hc
    obtain ⟨d, -, rfl⟩ := List.mem_map.mp hc
    exact sanitize_no_control d

/-- U+00E9, which takes two bytes, 62 times. -/
def accents : Bytes := (List.replicate 62 'é').flatMap octets

set_option maxRecDepth 4000 in
/-- The last character is cut in two. -/
theorem not_close_sendable :
    ¬ ∀ (code : ℤ) (reason : Bytes), IsValid reason →
      Sendable reason (WsTransport.close code reason).2 := by
  intro hsendable
  have hvalid : IsValid accents := ⟨_, rfl⟩
  have hcut := (isValid_close_iff hvalid 1000).mp (hsendable 1000 accents hvalid).valid
  exact absurd (hcut 0xA9 (by decide)) (by decide)

/-- A longer reason, with a line break: the cut is between two characters. -/
def farewell : Bytes := utf8 "So\n" ++ accents

set_option maxRecDepth 4000 in
theorem close_sendable_farewell :
    123 < farewell.length ∧ Sendable farewell (WsTransport.close 1000 farewell).2 := by
  refine ⟨by decide, (close_sendable_iff (by decide) 1000).mpr ?_⟩
  decide

end CulpeoStream.Transport
