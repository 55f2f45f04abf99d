import CulpeoStream.Dotnet.Http2Framing
import CulpeoStream.Http2.Envelope
import CulpeoStream.Typescript.Http2

/-!
# The envelopes of the three transports

TypeScript and C# write the type octet first, and then the length of the payload.  C++ writes
the length first, and it counts the type octet: this is the envelope of section C.4.  So an
envelope is read as the frame it was written for exactly if both sides are C++ or neither is
(`envelopes_interoperate_iff`).
-/

namespace CulpeoStream

open Framing
open Message (Bytes)

inductive Transport where
  | cpp
  | typescript
  | dotnet
  deriving DecidableEq, Repr

namespace Transport

/-- The envelope that a transport writes. -/
def envelope : Transport → Tagged.Frame → Option Bytes
  | cpp, f => (Http2.encodeH2Envelope f.1 f.2).toOption
  | typescript, f => (Typescript.H2.encodeFrame f.1 f.2).toOption
  | dotnet, f => some (Dotnet.writeFrameAsync [] f.1 f.2)

/-- A transport reads some bytes as one frame, and nothing is left over.  In C# this is to
hold however the bytes come in. -/
def Reads : Transport → Bytes → Tagged.Frame → Prop
  | cpp, bytes, f => Http2.RecvState.drainFrames ⟨bytes⟩ = ([f], {})
  | typescript, bytes, f =>
      Typescript.H2.decodeFrame bytes Typescript.H2.defaultMaxPayloadBytes =
        .ok (some ⟨f.1, f.2, bytes.length⟩)
  | dotnet, bytes, f =>
      ∀ {σ : Type} (S : Source σ UInt8) (stream : σ), S.left stream = bytes →
        (Dotnet.readFrameAsync S stream Dotnet.defaultMaxPayloadBytes).2 = .ok f ∧
          S.left (Dotnet.readFrameAsync S stream Dotnet.defaultMaxPayloadBytes).1 = []

end Transport

/-! ### What each transport writes and reads -/

section Frames

variable {f : Tagged.Frame} (hlength : f.2.length < 2 ^ 20)
include hlength

theorem envelope_tagged {writer : Transport} (h : writer ≠ .cpp) :
    writer.envelope f = some (Tagged.encode f) := by
  cases writer with
  | cpp => exact absurd rfl h
  | typescript =>
      have hencode : Typescript.H2.encodeFrame f.1 f.2 = .ok (Tagged.encode f) :=
        if_neg (by omega)
      show (Typescript.H2.encodeFrame f.1 f.2).toOption = _
      rw [hencode]
      rfl
  | dotnet => exact congrArg some (Dotnet.writeFrameAsync_eq [] (by omega))

/-- The envelope of C++: its length is below `2 ^ 24`, so it begins with a zero octet. -/
theorem envelope_cpp :
    ∃ b₁ b₂ b₃, Http2.encodeH2Envelope f.1 f.2 = .ok (0 :: b₁ :: b₂ :: b₃ :: f.1 :: f.2) := by
  have hsize : f.2.length < Http2.kH2MaxFrameSize.toNat := by
    rwa [show Http2.kH2MaxFrameSize.toNat = 2 ^ 20 from Http2.toNat_kMaxFrameSize]
  have hand : ∀ x : ℕ, x &&& 255 = x % 256 := fun x => Nat.and_two_pow_sub_one_eq_mod x 8
  have hzero : (((1 + f.2.length.toUInt32) >>> 24) &&& 0xFF).toUInt8 = 0 := by
    apply UInt8.toNat_inj.mp
    simp [Nat.shiftRight_eq_div_pow, hand]
    omega
  have hencode := Http2.encodeH2Envelope_ok f.1 hsize
  rw [Http2.lengthOctets, hzero] at hencode
  exact ⟨_, _, _, hencode⟩

/-- C++ reads what it writes. -/
theorem reads_cpp_cpp {bytes : Bytes} (h : Transport.cpp.envelope f = some bytes) :
    Transport.cpp.Reads bytes f := by
  obtain ⟨b₁, b₂, b₃, hencode⟩ := envelope_cpp hlength
  have hbytes : some (0 :: b₁ :: b₂ :: b₃ :: f.1 :: f.2) = some bytes := by
    rw [← h]
    show _ = (Http2.encodeH2Envelope f.1 f.2).toOption
    rw [hencode]
    rfl
  cases hbytes
  have hfront : Http2.envelopeFormat.front (0 :: b₁ :: b₂ :: b₃ :: f.1 :: f.2) =
      .frame f [] := by
    have := Http2.envelopeFront_envelope hencode []
    rwa [List.append_nil] at this
  have hsplit : Http2.envelopeFormat.split (0 :: b₁ :: b₂ :: b₃ :: f.1 :: f.2) = ([f], []) := by
    rw [Format.split_frame hfront]
    rfl
  show (_, _) = _
  rw [Format.drain_short (by rw [hsplit]; rfl), hsplit]

/-- TypeScript and C# read a tagged frame. -/
theorem reads_tagged {reader : Transport} (h : reader ≠ .cpp) :
    reader.Reads (Tagged.encode f) f := by
  cases reader with
  | cpp => exact absurd rfl h
  | typescript =>
      have hvalue := BigEndian.value_octets (by omega : f.2.length < 2 ^ 32)
      have hlimit : ¬ Typescript.H2.defaultMaxPayloadBytes < (f.2.length : ℤ) := by
        unfold Typescript.H2.defaultMaxPayloadBytes
        omega
      have htotal : (Tagged.encode f).length = Typescript.H2.HEADER_SIZE + f.2.length := by
        simp only [Tagged.encode, List.cons_append, List.length_cons, List.length_append,
          BigEndian.length_octets, Typescript.H2.HEADER_SIZE]
        omega
      show Typescript.H2.decodeFrame (Tagged.encode f) _ = _
      rw [htotal]
      unfold Tagged.encode BigEndian.octets
      simp only [List.cons_append, List.nil_append]
      rw [Typescript.H2.decodeFrame_cons, hvalue, if_neg hlimit, if_neg (Nat.lt_irrefl _),
        List.take_length]
  | dotnet =>
      intro σ S stream hleft
      have hmax : Dotnet.defaultMaxPayloadBytes.toInt = 2 ^ 24 := by decide
      refine Dotnet.readFrameAsync_frame (by decide) ?_
      rw [hleft, ← List.append_nil (Tagged.encode f)]
      exact Tagged.front_encode ⟨rfl, by rw [hmax]; omega, by omega⟩ []

/-- TypeScript and C# take the first octet of an envelope of C++ for its type. -/
theorem not_reads_cpp {reader : Transport} (h : reader ≠ .cpp) (htype : f.1 ≠ 0)
    {bytes : Bytes} (hbytes : Transport.cpp.envelope f = some bytes) : ¬ reader.Reads bytes f := by
  obtain ⟨b₁, b₂, b₃, hencode⟩ := envelope_cpp hlength
  have hbytes : (Http2.encodeH2Envelope f.1 f.2).toOption = some bytes := hbytes
  rw [hencode] at hbytes
  cases hbytes
  cases reader with
  | cpp => exact absurd rfl h
  | typescript =>
      intro hread
      have hread : Typescript.H2.decodeFrame (0 :: b₁ :: b₂ :: b₃ :: f.1 :: f.2) _ = _ := hread
      rw [Typescript.H2.decodeFrame_cons] at hread
      split at hread
      · cases hread
      · split at hread
        · cases hread
        · have htag := congrArg (fun r => r.toOption.bind fun d => d.map fun d => d.typeOctet) hread
          exact htype (Option.some.inj htag).symm
  | dotnet =>
      intro hread
      have hleft : Source.scheduled.left ((0 :: b₁ :: b₂ :: b₃ :: f.1 :: f.2 : Bytes), fun _ => 1) =
          0 :: b₁ :: b₂ :: b₃ :: f.1 :: f.2 := rfl
      obtain ⟨next, -, hcons⟩ := Dotnet.readFrameAsync_cons
        (by decide : 0 ≤ Dotnet.defaultMaxPayloadBytes) hleft
      obtain ⟨hok, -⟩ := hread Source.scheduled (_, fun _ => 1) rfl
      rw [hcons] at hok
      split at hok
      · cases hok
      · cases hpayload : (Dotnet.readExactlyAsync Source.scheduled next
          (BigEndian.value b₁ b₂ b₃ f.1)).2 with
        | error exn =>
            rw [hpayload] at hok
            cases hok
        | ok payload =>
            rw [hpayload] at hok
            exact htype (congrArg Prod.fst (Except.ok.inj hok)).symm

omit hlength in
/-- C++ takes the type octet for the first octet of a length, which is too large then. -/
theorem not_cpp_reads (htype : f.1 ≠ 0) : ¬ Transport.cpp.Reads (Tagged.encode f) f := by
  have hpos : 0 < f.1.toNat := Nat.pos_of_ne_zero fun h => htype (UInt8.toNat_inj.mp h)
  have hfront : Http2.envelopeFormat.front (Tagged.encode f) = .malformed := by
    show Http2.envelopeFront (Tagged.encode f) = _
    unfold Tagged.encode BigEndian.octets
    simp only [List.cons_append, List.nil_append]
    rw [Http2.envelopeFront_cons]
    refine if_pos (.inr (UInt32.lt_iff_toNat_lt.mpr ?_))
    rw [Http2.toNat_readLength, Http2.toNat_kMaxFrameSize]
    omega
  intro hread
  have hframes := congrArg Prod.fst hread
  have hdrain : (Http2.envelopeFormat.drain (Tagged.encode f)).1 = [] := by
    rw [Format.drain_fst, Format.split_malformed hfront]
  exact List.cons_ne_nil _ _ (hframes.symm.trans hdrain)

/-- **Who reads whom.**  A transport reads the envelope of another as the frame that it was
written for exactly if both are C++ or neither is. -/
theorem envelopes_interoperate_iff (writer reader : Transport) (htype : f.1 = 1 ∨ f.1 = 2) :
    ∃ bytes, writer.envelope f = some bytes ∧
      (reader.Reads bytes f ↔ (writer = .cpp ↔ reader = .cpp)) := by
  have htype : f.1 ≠ 0 := by
    rcases htype with htype | htype <;> rw [htype] <;> decide
  by_cases hwriter : writer = .cpp
  · subst hwriter
    obtain ⟨b₁, b₂, b₃, hencode⟩ := envelope_cpp hlength
    have hbytes : Transport.cpp.envelope f = some (0 :: b₁ :: b₂ :: b₃ :: f.1 :: f.2) := by
      show (Http2.encodeH2Envelope f.1 f.2).toOption = _
      rw [hencode]
      rfl
    refine ⟨_, hbytes, ?_⟩
    by_cases hreader : reader = .cpp
    · subst hreader
      exact iff_of_true (reads_cpp_cpp hlength hbytes) Iff.rfl
    · exact iff_of_false (not_reads_cpp hlength hreader htype hbytes)
        fun hiff => hreader (hiff.mp rfl)
  · refine ⟨_, envelope_tagged hlength hwriter, ?_⟩
    by_cases hreader : reader = .cpp
    · subst hreader
      exact iff_of_false (not_cpp_reads htype) fun hiff => hwriter (hiff.mpr rfl)
    · exact iff_of_true (reads_tagged hlength hreader) (iff_of_false hwriter hreader)

end Frames

/-- A media frame of C#, for TypeScript and for C++. -/
theorem envelopes_interoperate_iff_media :
    (∃ bytes, Transport.dotnet.envelope (2, [7, 8, 9]) = some bytes ∧
      (Transport.typescript.Reads bytes (2, [7, 8, 9]) ↔
        (Transport.dotnet = .cpp ↔ Transport.typescript = .cpp))) ∧
    ∃ bytes, Transport.dotnet.envelope (2, [7, 8, 9]) = some bytes ∧
      (Transport.cpp.Reads bytes (2, [7, 8, 9]) ↔
        (Transport.dotnet = .cpp ↔ Transport.cpp = .cpp)) :=
  ⟨envelopes_interoperate_iff (by decide) .dotnet .typescript (.inr rfl),
    envelopes_interoperate_iff (by decide) .dotnet .cpp (.inr rfl)⟩

/-- **C++ and TypeScript do not read each other's envelopes.** -/
theorem envelopes_differ :
    Transport.cpp.envelope (1, []) = some [0, 0, 0, 1, 1] ∧
      ¬ Transport.typescript.Reads [0, 0, 0, 1, 1] (1, []) ∧
      Transport.typescript.envelope (1, []) = some [1, 0, 0, 0, 0] ∧
      ¬ Transport.cpp.Reads [1, 0, 0, 0, 0] (1, []) := by
  refine ⟨rfl, ?_, rfl, ?_⟩
  · exact not_reads_cpp (by decide) (by decide) (by decide) rfl
  · exact @not_cpp_reads (1, []) (by decide)

end CulpeoStream
