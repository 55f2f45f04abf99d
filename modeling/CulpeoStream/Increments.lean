import CulpeoStream.Dotnet.PcmStride
import CulpeoStream.Session.FrameSizing
import CulpeoStream.Typescript.PcmStep

/-!
# The offset of a frame in four programs

A frame moves the offset of its stream, and C++, TypeScript, the C# server and the C# client
each count for themselves by how much.  Bytes and messages they count alike.  On a stream of
time the client and C++ round down what the other two refuse, and what the four read from a
content type differs; they agree exactly on plain PCM content types and whole samples
(`increments_agree_iff`).
-/

namespace CulpeoStream

open Message Session Utf16

/-- A declaration with this content type and this offset type. -/
def declared (decl : StreamDeclaration) (contentType : String) (offsetType : OffsetType) :
    StreamDeclaration :=
  { decl with contentType := Utf8.utf8 contentType, offsetType := some offsetType }

def typescriptOffsetType : OffsetType → Typescript.OffsetType
  | .time => .time
  | .byte => .byte
  | .message => .message

def dotnetOffsetType : OffsetType → Dotnet.OffsetType
  | .time => .time
  | .byte => .byte
  | .message => .message

/-! ### The increments -/

/-- How far `advance_offset` moves a stream that was registered from a declaration; none where
it reports an error. -/
def cppIncrement (decl : StreamDeclaration) (id : Bytes) (n : ℕ) : Option ℤ :=
  (advanceOffset (StreamRegistry.infoOfDeclaration decl id) n.toUInt64).toOption.map
    fun advanced => advanced.offset.toNat

def typescriptIncrement (rt : Typescript.Runtime) (contentType : Text)
    (offsetType : Typescript.OffsetType) (n : ℕ) : Option ℤ :=
  (Typescript.computeOffsetIncrement rt offsetType n contentType).toOption.map Int.ofNat

/-- How far `AdvanceOffset` moves a stream of the server; none where the stream cannot be
built or the frame is refused. -/
def serverIncrement (rt : Dotnet.Runtime) (id contentType : Text) (type : Dotnet.CulpeoStreamType)
    (purpose : Option Text) (currentOffset : Int64) (offsetType : Dotnet.OffsetType) (n : ℕ) :
    Option ℤ :=
  match Dotnet.StreamState.create rt id contentType type purpose currentOffset offsetType with
  | .error _ => none
  | .ok stream => (stream.advanceOffset n).toOption.map
      fun advanced => (advanced.currentOffset - currentOffset).toInt

/-- The client refuses nothing. -/
def clientIncrement (rt : Dotnet.Runtime) (contentType : Text) (offsetType : Dotnet.OffsetType)
    (n : ℕ) : Option ℤ :=
  some (Dotnet.computeOffsetIncrement (Dotnet.ClientStreamState.create rt contentType offsetType) n)

/-- What is counted is counted by all: time only of plain PCM, and in whole samples. -/
def Countable (contentType : String) (offsetType : OffsetType) (n : ℕ) : Prop :=
  offsetType = .time → ∃ pcm,
    parseContentType (Utf8.utf8 contentType) = .ok (.audioPcm pcm) ∧
      PlainPcm (Utf8.utf8 contentType) pcm ∧ pcm.stride ∣ n

/-! ### C++ -/

section Cpp

variable (decl : StreamDeclaration) (id : Bytes) {contentType : String}

/-- A fresh stream has room for every increment. -/
theorem cppIncrement_eq (n : ℕ) :
    cppIncrement decl id n =
      (frameIncrement (StreamRegistry.infoOfDeclaration decl id) n.toUInt64).toOption.map
        fun increment => (increment.toNat : ℤ) := by
  unfold cppIncrement advanceOffset
  cases frameIncrement (StreamRegistry.infoOfDeclaration decl id) n.toUInt64 with
  | error e => rfl
  | ok increment =>
      have hoffset : (StreamRegistry.infoOfDeclaration decl id).offset = 0 := rfl
      have hmax : (0xFFFFFFFFFFFFFFFF : UInt64).toNat = 2 ^ 64 - 1 := by decide
      have hlt := increment.toNat_lt
      dsimp only
      rw [hoffset, UInt64.sub_zero, if_neg, UInt64.zero_add]
      · rfl
      · rw [UInt64.lt_iff_toNat_lt, hmax]
        omega

theorem cppIncrement_time {pcm : AudioPcmContentType}
    (hparse : parseContentType (Utf8.utf8 contentType) = .ok (.audioPcm pcm)) {n : ℕ}
    (hn : n < 2 ^ 64) :
    cppIncrement (declared decl contentType .time) id n = some ((n / pcm.stride : ℕ) : ℤ) := by
  have husable := pcmUsable_of_parseContentType hparse
  obtain ⟨increment, hincrement, hnat⟩ := computePcmIncrement_stride husable n.toUInt64
  have hframe : frameIncrement (StreamRegistry.infoOfDeclaration
      (declared decl contentType .time) id) n.toUInt64 = .ok increment := by
    rw [← hincrement, frameIncrement, StreamRegistry.infoOfDeclaration, declared, hparse]
    rfl
  have hstride : PcmParams.stride ⟨pcm.rate, pcm.channels, pcm.bits⟩ = pcm.stride := rfl
  rw [Nat.toUInt64_eq, UInt64.toNat_ofNat_of_lt' hn, hstride] at hnat
  rw [cppIncrement_eq, hframe, ← hnat]
  rfl

/-- C++ counts time only by the parameters of PCM. -/
theorem exists_pcm_of_cppIncrement {n : ℕ} {increment : ℤ}
    (h : cppIncrement (declared decl contentType .time) id n = some increment) :
    ∃ pcm, parseContentType (Utf8.utf8 contentType) = .ok (.audioPcm pcm) := by
  rw [cppIncrement_eq, frameIncrement, StreamRegistry.infoOfDeclaration, declared] at h
  dsimp only [Option.getD_some] at h
  split at h
  · cases h
  · rename_i params hparams
    split at hparams
    · exact ⟨_, ‹_›⟩
    · cases hparams

end Cpp

/-! ### C# -/

section Dotnet

variable {rt : Dotnet.Runtime} (id : Text) (type : Dotnet.CulpeoStreamType)
  (purpose : Option Text) (currentOffset : Int64)

/-- The offset of a stream moves by its increment. -/
theorem serverIncrement_eq {contentType : Text} {offsetType : Dotnet.OffsetType}
    {stream : Dotnet.StreamState} (hcreate : Dotnet.StreamState.create rt id contentType type
      purpose currentOffset offsetType = .ok stream)
    (hoffset : stream.currentOffset = currentOffset) (n : ℕ) :
    serverIncrement rt id contentType type purpose currentOffset offsetType n =
      (stream.getIncrement n).toOption.map fun increment => (Int64.ofNat increment).toInt := by
  unfold serverIncrement Dotnet.StreamState.advanceOffset
  rw [hcreate]
  dsimp only
  cases stream.getIncrement n with
  | error e => rfl
  | ok increment =>
      dsimp only
      rw [hoffset]
      simp [Except.toOption]

variable (hrt : Dotnet.UppersAscii rt) {raw : Bytes} {pcm : AudioPcmContentType}
  (h : PcmText raw pcm)
include hrt h

theorem serverIncrement_time (hplain : PlainPcm raw pcm) {n : ℕ} (hn : n < 2 ^ 63) :
    serverIncrement rt id (Utf8.decode raw) type purpose currentOffset .time n =
      if pcm.stride ∣ n then some ((n / pcm.stride : ℕ) : ℤ) else none := by
  have hpos := h.stride_pos
  have hquotient : n / pcm.stride ≤ n := Nat.div_le_self n pcm.stride
  have hcreate : ∃ stream : Dotnet.StreamState, Dotnet.StreamState.create rt id
      (Utf8.decode raw) type purpose currentOffset .time = .ok stream ∧
        stream.currentOffset = currentOffset ∧
          stream.getIncrement n = Dotnet.StreamState.getPcmIncrement n pcm.stride := by
    unfold Dotnet.StreamState.create
    rw [dif_pos rfl, Dotnet.getRequiredPcmStride_plain hrt h hplain]
    exact ⟨_, rfl, rfl, rfl⟩
  obtain ⟨stream, hcreate, hoffset, hincrement⟩ := hcreate
  rw [serverIncrement_eq id type purpose currentOffset hcreate hoffset, hincrement,
    Dotnet.StreamState.getPcmIncrement]
  by_cases hdvd : pcm.stride ∣ n
  · rw [if_neg (not_not.mpr (Nat.mod_eq_zero_of_dvd hdvd)), if_pos hdvd, Except.toOption,
      Option.map_some, Int64.toInt_ofNat_of_lt (by omega)]
  · rw [if_pos fun hzero => hdvd (Nat.dvd_of_mod_eq_zero hzero), if_neg hdvd]
    rfl

theorem plain_of_serverIncrement {n : ℕ} {increment : ℤ}
    (hsome : serverIncrement rt id (Utf8.decode raw) type purpose currentOffset .time n =
      some increment) : PlainPcm raw pcm := by
  unfold serverIncrement Dotnet.StreamState.create at hsome
  rw [dif_pos rfl] at hsome
  cases hstride : Dotnet.getRequiredPcmStride rt (Utf8.decode raw) with
  | error e =>
      rw [hstride] at hsome
      cases hsome
  | ok stride => exact Dotnet.plain_of_getRequiredPcmStride hrt h hstride

omit id type purpose currentOffset in
theorem clientIncrement_time (hplain : PlainPcm raw pcm) (n : ℕ) :
    clientIncrement rt (Utf8.decode raw) .time n = some ((n / pcm.stride : ℕ) : ℤ) := by
  have hpos := h.stride_pos
  obtain ⟨samples, hsamples, hint⟩ := Dotnet.computePcmBytesPerSample_plain hrt h hplain
  unfold clientIncrement Dotnet.computeOffsetIncrement Dotnet.ClientStreamState.create
  dsimp only
  rw [hsamples]
  dsimp only
  rw [hint, if_pos (by omega), Int.toNat_natCast]

end Dotnet

/-! ### The four together -/

/-- **The four increments** are the same, or all four refuse, exactly if the frame is
countable. -/
theorem increments_agree_iff {typescript : Typescript.Runtime}
    (htypescript : Typescript.LowersAscii typescript) {dotnet : Dotnet.Runtime}
    (hdotnet : Dotnet.UppersAscii dotnet) (decl : StreamDeclaration) (cppId : Bytes)
    (id : Text) (type : Dotnet.CulpeoStreamType) (purpose : Option Text) (currentOffset : Int64)
    (contentType : String) (offsetType : OffsetType) {n : ℕ} (hn : n < 2 ^ 31) :
    (∃ increment : Option ℤ,
      cppIncrement (declared decl contentType offsetType) cppId n = increment ∧
      typescriptIncrement typescript (utf16 contentType) (typescriptOffsetType offsetType) n =
        increment ∧
      serverIncrement dotnet id (utf16 contentType) type purpose currentOffset
        (dotnetOffsetType offsetType) n = increment ∧
      clientIncrement dotnet (utf16 contentType) (dotnetOffsetType offsetType) n = increment) ↔
      Countable contentType offsetType n := by
  rw [← Utf8.decode_utf8]
  cases offsetType with
  | time =>
      constructor
      · rintro ⟨increment, hcpp, hts, hserver, hclient⟩ -
        -- the client counts, so all others do
        rw [← hclient, clientIncrement] at hcpp hts hserver
        obtain ⟨pcm, hparse⟩ := exists_pcm_of_cppIncrement decl cppId hcpp
        have htext := pcmText_of_parse hparse
        have hplain := plain_of_serverIncrement id type purpose currentOffset hdotnet htext hserver
        refine ⟨pcm, hparse, hplain, ?_⟩
        by_contra hdvd
        rw [dotnetOffsetType, serverIncrement_time id type purpose currentOffset hdotnet htext
          hplain (by omega), if_neg hdvd] at hserver
        cases hserver
      · intro h
        obtain ⟨pcm, hparse, hplain, hdvd⟩ := h rfl
        have htext := pcmText_of_parse hparse
        have htypescript := Typescript.computeOffsetIncrement_pcm htypescript htext hplain.media
          hplain.rate_pos n
        rw [if_pos hdvd] at htypescript
        refine ⟨some ((n / pcm.stride : ℕ) : ℤ), cppIncrement_time decl cppId hparse (by omega),
          ?_, ?_, clientIncrement_time hdotnet htext hplain n⟩
        · rw [typescriptIncrement, typescriptOffsetType, htypescript]
          rfl
        · rw [dotnetOffsetType, serverIncrement_time id type purpose currentOffset hdotnet htext
            hplain (by omega), if_pos hdvd]
  | byte =>
      have hsize : n.toUInt64.toNat = n := UInt64.toNat_ofNat_of_lt' (Nat.lt_trans hn (by decide))
      refine iff_of_true ⟨some n, ?_, rfl, ?_, rfl⟩ fun htime => absurd htime (by decide)
      · rw [cppIncrement_eq, frameIncrement, StreamRegistry.infoOfDeclaration, declared]
        exact congrArg some (congrArg Nat.cast hsize)
      · rw [serverIncrement_eq id type purpose currentOffset rfl rfl]
        exact congrArg some (Int64.toInt_ofNat_of_lt (by omega))
  | message =>
      refine iff_of_true ⟨some 1, ?_, rfl, ?_, rfl⟩ fun htime => absurd htime (by decide)
      · rw [cppIncrement_eq, frameIncrement, StreamRegistry.infoOfDeclaration, declared]
        rfl
      · rw [serverIncrement_eq id type purpose currentOffset rfl rfl]
        rfl

/-- Samples of one channel and sixteen bits. -/
def pcmSamples : String := "audio/pcm;rate=16000;channels=1;bits=16"

theorem increments_agree_iff_samples :
    cppIncrement (declared ⟨[], .input, [], [], 0, false, none⟩ pcmSamples .time) [] 640 =
        some 320 ∧
      typescriptIncrement ⟨List.map lowerAscii⟩ (utf16 pcmSamples) .time 640 = some 320 ∧
      serverIncrement ⟨List.map upperAscii⟩ [] (utf16 pcmSamples) .input none 0 .time 640 =
        some 320 ∧
      clientIncrement ⟨List.map upperAscii⟩ (utf16 pcmSamples) .time 640 = some 320 := by
  have hcountable : Countable pcmSamples .time 640 := by
    intro _
    exact ⟨⟨16000, 1, 16⟩, by decide,
      ⟨by decide, by decide, by decide, by decide⟩, by decide⟩
  obtain ⟨increment, hcpp, hts, hserver, hclient⟩ :=
    (@increments_agree_iff ⟨List.map lowerAscii⟩ (fun _ _ => rfl) ⟨List.map upperAscii⟩
      (fun _ _ => rfl) ⟨[], .input, [], [], 0, false, none⟩ [] [] .input none 0 pcmSamples .time
      640 (by decide)).mpr hcountable
  have hvalue : cppIncrement (declared ⟨[], .input, [], [], 0, false, none⟩ pcmSamples .time) []
      640 = some 320 := by decide
  rw [hvalue] at hcpp
  rw [← hcpp] at hts hserver hclient
  exact ⟨hvalue, hts, hserver, hclient⟩

/-- **An octet too many** is rounded away by C++ and the client and refused by the others. -/
theorem odd_octet_divides :
    cppIncrement (declared ⟨[], .input, [], [], 0, false, none⟩ pcmSamples .time) [] 641 =
        some 320 ∧
      typescriptIncrement ⟨List.map lowerAscii⟩ (utf16 pcmSamples) .time 641 = none ∧
      serverIncrement ⟨List.map upperAscii⟩ [] (utf16 pcmSamples) .input none 0 .time 641 = none ∧
      clientIncrement ⟨List.map upperAscii⟩ (utf16 pcmSamples) .time 641 = some 320 := by
  decide +kernel

end CulpeoStream
