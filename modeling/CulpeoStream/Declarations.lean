import CulpeoStream.Dotnet.Init
import CulpeoStream.Lib.Checks
import CulpeoStream.Lib.Groups
import CulpeoStream.Lib.Utf8
import CulpeoStream.Session.Init
import CulpeoStream.Session.Validation
import CulpeoStream.Typescript.Streams

/-!
# The checks on stream declarations

C++, TypeScript and C# check the same things of the streams of an init, but they do not mean
the same by an empty string.  For C++ it is the string without characters.  TypeScript trims
the string first, and C# calls `IsNullOrWhiteSpace`; white space is not the same in the two.
Each accepts a list of declarations by the same rule with its own notion of blank
(`cpp_accepts`, `typescript_accepts`, `dotnet_accepts`).  So they agree on the rule about
empty strings exactly if a list that meets it has no blank string where that counts
(`validators_agree_iff`).
-/

namespace CulpeoStream

open Message (Bytes ascii)
open Utf16 Utf8

/-- A declaration as it is written in the body of an init. -/
structure Declaration where
  contentType : String
  type : String
  offsetType : String
  purpose : Option String := none
  deriving DecidableEq, Repr

namespace Declaration

/-- The purpose; one that is left out counts as the empty one. -/
def name (d : Declaration) : String := d.purpose.getD ""

def LegalType (d : Declaration) : Prop := d.type = "input" ∨ d.type = "output" ∨ d.type = "duplex"

def LegalOffsetType (d : Declaration) : Prop :=
  d.offsetType = "time" ∨ d.offsetType = "byte" ∨ d.offsetType = "message"

/-- The rule for the streams of a session, for a notion of blank strings. -/
def Rule (blank : String → Prop) (limit : ℕ) (ds : List Declaration) : Prop :=
  ds ≠ [] ∧ ds.length ≤ limit ∧
    (∀ d ∈ ds, ¬ blank d.contentType ∧ d.LegalType ∧ d.LegalOffsetType) ∧
      Groups.Distinct type name (fun purpose => ¬ blank purpose) ds

end Declaration

/-! ### Words -/

/-- The value that goes with one of three words. -/
def select {α ε : Type} [DecidableEq α] (x y z : α) (a b c : ε) (s : α) : Option ε :=
  if s = x then some a else if s = y then some b else if s = z then some c else none

section Select

variable {α α' ε : Type} [DecidableEq α] [DecidableEq α'] {x y z : α} {a b c : ε}

theorem select_map {f : α → α'} (hf : Function.Injective f) (s : α) :
    select (f x) (f y) (f z) a b c (f s) = select x y z a b c s := by
  rw [select, select]
  exact if_congr hf.eq_iff rfl (if_congr hf.eq_iff rfl (if_congr hf.eq_iff rfl rfl))

theorem exists_select_iff {s : α} :
    (∃ e, select x y z a b c s = some e) ↔ s = x ∨ s = y ∨ s = z := by
  rw [← Option.isSome_iff_exists, select]
  grind

/-- Different words go with different values. -/
theorem select_getD_inj {e : ε} (hab : a ≠ b) (hac : a ≠ c) (hbc : b ≠ c) {s t : α}
    (hs : s = x ∨ s = y ∨ s = z) (ht : t = x ∨ t = y ∨ t = z) :
    (select x y z a b c s).getD e = (select x y z a b c t).getD e ↔ s = t := by
  unfold select
  grind

end Select

namespace Declaration

theorem legalType_iff {ε : Type} (a b c : ε) (d : Declaration) :
    d.LegalType ↔ ∃ type, select "input" "output" "duplex" a b c d.type = some type := by
  rw [exists_select_iff, LegalType]

theorem legalOffsetType_iff {ε : Type} (a b c : ε) (d : Declaration) :
    d.LegalOffsetType ↔
      ∃ offsetType, select "time" "byte" "message" a b c d.offsetType = some offsetType := by
  rw [exists_select_iff, LegalOffsetType]

/-- An implementation that keeps apart the legal types and the purposes checks the rule. -/
theorem distinct_iff {α κ ν : Type} [DecidableEq κ] {f : Declaration → α} {key : α → κ}
    {name' : α → ν} {good : ν → Prop} {encode : String → ν} {blank : String → Prop}
    (hencode : Function.Injective encode)
    (hkey : ∀ d e : Declaration, d.LegalType → e.LegalType →
      (key (f d) = key (f e) ↔ d.type = e.type))
    (hname : ∀ d, name' (f d) = encode d.name) (hgood : ∀ s, good (encode s) ↔ ¬ blank s)
    {ds : List Declaration} (hlegal : ∀ d ∈ ds, d.LegalType) :
    Groups.Distinct key name' good (ds.map f) ↔
      Groups.Distinct type name (fun purpose => ¬ blank purpose) ds := by
  refine Groups.distinct_map (fun d hd e he => hkey d e (hlegal d hd) (hlegal e he)) ?_ ?_
  · intro d _ e _
    rw [hname, hname, hencode.eq_iff]
  · intro d _
    rw [hname]
    exact hgood d.name

/-! ### C++ -/

def cppItem (d : Declaration) : Session.Json :=
  .object ([(ascii "content_type", .string (utf8 d.contentType)),
    (ascii "type", .string (utf8 d.type)), (ascii "offset_type", .string (utf8 d.offsetType))]
      ++ (d.purpose.map fun purpose => (ascii "purpose", .string (utf8 purpose))).toList)

/-- What `handle_init` makes of a declaration. -/
def cppDeclaration (d : Declaration) : Session.StreamDeclaration where
  contentType := utf8 d.contentType
  direction := (Session.parseStreamDirection (utf8 d.type)).getD .input
  purpose := utf8 d.name
  offsetType := Session.parseOffsetType (utf8 d.offsetType)

theorem parseStreamDirection_utf8 (s : String) :
    Session.parseStreamDirection (utf8 s) =
      select "input" "output" "duplex" .input .output .duplex s := by
  rw [Session.parseStreamDirection, show ascii "input" = utf8 "input" by decide,
    show ascii "output" = utf8 "output" by decide, show ascii "duplex" = utf8 "duplex" by decide]
  exact select_map utf8_injective s

theorem parseOffsetType_utf8 (s : String) :
    Session.parseOffsetType (utf8 s) = select "time" "byte" "message" .time .byte .message s := by
  rw [Session.parseOffsetType, show ascii "time" = utf8 "time" by decide,
    show ascii "byte" = utf8 "byte" by decide, show ascii "message" = utf8 "message" by decide]
  exact select_map utf8_injective s

/-- The members of a declaration in JSON. -/
theorem cppItem_at (d : Declaration) :
    d.cppItem.at? (ascii "content_type") = some (.string (utf8 d.contentType)) ∧
      d.cppItem.at? (ascii "type") = some (.string (utf8 d.type)) ∧
      d.cppItem.at? (ascii "offset_type") = some (.string (utf8 d.offsetType)) ∧
      d.cppItem.at? (ascii "purpose") = (d.purpose.map fun purpose => .string (utf8 purpose)) ∧
      d.cppItem.at? (ascii "id") = none ∧ d.cppItem.at? (ascii "resume_offset") = none := by
  obtain ⟨contentType, type, offsetType, purpose⟩ := d
  cases purpose with
  | none => exact ⟨rfl, rfl, rfl, rfl, rfl, rfl⟩
  | some purpose => exact ⟨rfl, rfl, rfl, rfl, rfl, rfl⟩

/-- The two checks that are left when every member has the right kind. -/
theorem parseDeclaration_eq (d : Declaration) :
    Session.parseDeclaration d.cppItem = do
      let direction ← Session.orThrow (Session.invalidStreams (ascii "Invalid stream type"))
        (Session.parseStreamDirection (utf8 d.type))
      let offsetType ← Session.orThrow
        (Session.invalidStreams (ascii "Unrecognised offset_type value"))
        (Session.parseOffsetType (utf8 d.offsetType))
      return { contentType := utf8 d.contentType, direction, purpose := utf8 d.name
               offsetType := some offsetType } := by
  obtain ⟨hcontent, htype, hoffset, hpurpose, hid, hresume⟩ := d.cppItem_at
  have hname : Session.optionalMember d.cppItem (ascii "purpose") Session.Json.getString [] =
      .ok (utf8 d.name) := by
    rw [Session.optionalMember, hpurpose, name]
    cases d.purpose with
    | none => rfl
    | some purpose => rfl
  unfold Session.parseDeclaration
  rw [hname, Session.optionalMember, Session.optionalMember, hcontent, htype, hoffset, hid,
    hresume, Session.Json.contains, hresume]
  rfl

theorem parseDeclaration_cppItem (d : Declaration) (decl : Session.StreamDeclaration) :
    Session.parseDeclaration d.cppItem = .ok decl ↔
      (d.LegalType ∧ d.LegalOffsetType) ∧ decl = d.cppDeclaration := by
  have htypes := d.legalType_iff Session.StreamDirection.input .output .duplex
  have hoffsets := d.legalOffsetType_iff Session.OffsetType.time .byte .message
  rw [← parseStreamDirection_utf8] at htypes
  rw [← parseOffsetType_utf8] at hoffsets
  rw [parseDeclaration_eq, htypes, hoffsets, cppDeclaration]
  cases hdirection : Session.parseStreamDirection (utf8 d.type) with
  | none => exact ⟨nofun, nofun⟩
  | some direction =>
      cases hoffset : Session.parseOffsetType (utf8 d.offsetType) with
      | none => exact ⟨nofun, nofun⟩
      | some offsetType =>
          exact ⟨fun h => ⟨⟨⟨_, rfl⟩, _, rfl⟩, (Except.ok.inj h).symm⟩,
            fun h => congrArg Except.ok h.2.symm⟩

/-- The body of an init holds these declarations. -/
def CppBody (body : Session.Json) (ds : List Declaration) : Prop :=
  body.at? (ascii "streams") = some (.array (ds.map cppItem))

theorem parseDeclarations_iff {body : Session.Json} {ds : List Declaration}
    (hbody : CppBody body ds) (decls : List Session.StreamDeclaration) :
    Session.parseDeclarations body = .ok decls ↔
      (∀ d ∈ ds, d.LegalType ∧ d.LegalOffsetType) ∧ decls = ds.map cppDeclaration := by
  unfold Session.parseDeclarations
  rw [hbody]
  show (ds.map cppItem).mapM Session.parseDeclaration = .ok decls ↔ _
  rw [List.mapM_map]
  exact Checks.mapM_eq_ok_iff fun d _ decl => d.parseDeclaration_cppItem decl

/-- **C++** means by a blank string the empty one. -/
theorem cpp_accepts {body : Session.Json} {ds : List Declaration} (hbody : CppBody body ds)
    (maxStreams : UInt32) :
    (∃ decls, Session.parseDeclarations body = .ok decls ∧
      Session.validateDeclarations decls maxStreams = .ok ()) ↔
      Rule (· = "") maxStreams.toNat ds := by
  have hempty : ∀ s, utf8 s ≠ [] ↔ ¬ s = "" := fun s =>
    not_congr (utf8_injective.eq_iff (a := s) (b := ""))
  have hkey : ∀ d e : Declaration, d.LegalType → e.LegalType →
      (d.cppDeclaration.direction = e.cppDeclaration.direction ↔ d.type = e.type) := by
    intro d e hd he
    show (Session.parseStreamDirection (utf8 d.type)).getD .input =
      (Session.parseStreamDirection (utf8 e.type)).getD .input ↔ _
    rw [parseStreamDirection_utf8, parseStreamDirection_utf8]
    exact select_getD_inj (by decide) (by decide) (by decide) hd he
  have hrule : (∀ d ∈ ds, d.LegalType ∧ d.LegalOffsetType) →
      (Session.validateDeclarations (ds.map cppDeclaration) maxStreams = .ok () ↔
        Rule (· = "") maxStreams.toNat ds) := by
    intro hlegal
    rw [Session.validateDeclarations_iff, List.length_map, List.forall_mem_map,
      distinct_iff utf8_injective hkey (fun _ => rfl) hempty fun d hd => (hlegal d hd).1]
    refine and_congr (not_congr List.map_eq_nil_iff) (and_congr_right fun _ =>
      and_congr_left fun _ => forall₂_congr fun d hd => ?_)
    obtain ⟨_, hoffset⟩ := (d.legalOffsetType_iff _ _ _).mp (hlegal d hd).2
    rw [← parseOffsetType_utf8] at hoffset
    refine and_congr (hempty d.contentType) ⟨fun _ => hlegal d hd, fun _ hnone => ?_⟩
    cases hoffset.symm.trans hnone
  constructor
  · rintro ⟨decls, hparse, hvalid⟩
    obtain ⟨hlegal, rfl⟩ := (parseDeclarations_iff hbody decls).mp hparse
    exact (hrule hlegal).mp hvalid
  · intro h
    have hlegal : ∀ d ∈ ds, d.LegalType ∧ d.LegalOffsetType := fun d hd => (h.2.2.1 d hd).2
    exact ⟨_, (parseDeclarations_iff hbody _).mpr ⟨hlegal, rfl⟩, (hrule hlegal).mpr h⟩

/-! ### TypeScript -/

/-- Nothing is left of a string when it is trimmed. -/
def BlankTs (s : String) : Prop := Typescript.trim (utf16 s) = []

def tsRaw (d : Declaration) : Typescript.RawStreamDeclaration where
  contentType := utf16 d.contentType
  type := utf16 d.type
  offsetType := utf16 d.offsetType
  purpose := d.purpose.map utf16

def directionOf (s : String) : Option Typescript.StreamDirection :=
  select "input" "output" "duplex" .input .output .duplex s

def offsetTypeOf (s : String) : Option Typescript.OffsetType :=
  select "time" "byte" "message" .time .byte .message s

/-- A declaration that has been checked. -/
def tsDeclaration (d : Declaration) : Typescript.StreamDeclaration where
  contentType := utf16 d.contentType
  type := (directionOf d.type).getD .input
  offsetType := (offsetTypeOf d.offsetType).getD .message
  purpose := d.purpose.map utf16

theorem assertValidDirection_eq (s : String) :
    Typescript.assertValidDirection (utf16 s) = (directionOf s).elim
      (.error (Typescript.invalidStreams
        (utf16 "Stream types must be input, output, or duplex."))) .ok := by
  rw [directionOf, ← select_map utf16_injective, Typescript.assertValidDirection, select]
  grind

theorem checkOffsetType_eq (s : String) :
    Typescript.checkOffsetType (utf16 s) = (offsetTypeOf s).elim
      (.error (Typescript.invalidStreams (utf16 "Invalid or missing offset_type '" ++ utf16 s
        ++ utf16 "'. Must be 'time', 'byte', or 'message'."))) .ok := by
  rw [offsetTypeOf, ← select_map utf16_injective, Typescript.checkOffsetType, select]
  grind

theorem checkDeclaration_tsRaw (d : Declaration) (stream : Typescript.StreamDeclaration) :
    Typescript.checkDeclaration d.tsRaw = .ok stream ↔
      (¬ BlankTs d.contentType ∧ d.LegalType ∧ d.LegalOffsetType) ∧ stream = d.tsDeclaration := by
  have htypes := d.legalType_iff Typescript.StreamDirection.input .output .duplex
  have hoffsets := d.legalOffsetType_iff Typescript.OffsetType.time .byte .message
  rw [← directionOf] at htypes
  rw [← offsetTypeOf] at hoffsets
  rw [htypes, hoffsets, Typescript.checkDeclaration, tsDeclaration]
  show (if (Typescript.trim (utf16 d.contentType)).isEmpty then _ else
    (Typescript.assertValidDirection (utf16 d.type) >>= fun type =>
      Typescript.checkOffsetType (utf16 d.offsetType) >>= fun offsetType => _)) = _ ↔ _
  rw [assertValidDirection_eq, checkOffsetType_eq]
  by_cases hblank : BlankTs d.contentType
  · rw [if_pos (List.isEmpty_iff.mpr hblank)]
    exact ⟨nofun, fun h => absurd hblank h.1.1⟩
  · rw [if_neg (mt List.isEmpty_iff.mp hblank)]
    cases directionOf d.type with
    | none => exact ⟨nofun, nofun⟩
    | some type =>
        cases offsetTypeOf d.offsetType with
        | none => exact ⟨nofun, nofun⟩
        | some offsetType =>
            exact ⟨fun h => ⟨⟨hblank, ⟨_, rfl⟩, _, rfl⟩, (Except.ok.inj h).symm⟩,
              fun h => congrArg Except.ok h.2.symm⟩

/-- The purpose of a checked declaration; none counts as the empty one. -/
def tsName (stream : Typescript.StreamDeclaration) : Text := stream.purpose.getD []

theorem validatePurposes_cons_ts (type : Typescript.StreamDirection) (seen : List Text)
    (stream : Typescript.StreamDeclaration) (rest : List Typescript.StreamDeclaration) :
    Typescript.validatePurposes type seen (stream :: rest) = .ok () ↔
      Typescript.trim (tsName stream) ≠ [] ∧ tsName stream ∉ seen ∧
        Typescript.validatePurposes type (tsName stream :: seen) rest = .ok () := by
  rw [tsName, Typescript.validatePurposes]
  cases stream.purpose with
  | none => exact ⟨nofun, fun h => absurd rfl h.1⟩
  | some purpose =>
      show (if (Typescript.trim purpose).isEmpty then _ else if purpose ∈ seen then _ else
          Typescript.validatePurposes type (purpose :: seen) rest) = _ ↔
        Typescript.trim purpose ≠ [] ∧ purpose ∉ seen ∧
          Typescript.validatePurposes type (purpose :: seen) rest = _
      by_cases hblank : Typescript.trim purpose = []
      · rw [if_pos (List.isEmpty_iff.mpr hblank)]
        exact ⟨nofun, fun h => absurd hblank h.1⟩
      · rw [if_neg (mt List.isEmpty_iff.mp hblank)]
        by_cases hseen : purpose ∈ seen
        · rw [if_pos hseen]
          exact ⟨nofun, fun h => absurd hseen h.2.1⟩
        · rw [if_neg hseen]
          exact ⟨fun h => ⟨hblank, hseen, h⟩, fun h => h.2.2⟩

theorem validateGroups_iff_ts (streams : List Typescript.StreamDeclaration) :
    (streams.map Typescript.StreamDeclaration.type).eraseDups.forM
        (Typescript.validateGroup streams) = .ok () ↔
      Groups.Distinct Typescript.StreamDeclaration.type tsName
        (fun purpose => Typescript.trim purpose ≠ []) streams :=
  Groups.checkGroups_iff (fun _ => rfl) fun type =>
    Groups.scan_iff (fun _ => rfl) (validatePurposes_cons_ts type)

/-- **TypeScript** means by a blank string one of which nothing is left when it is trimmed. -/
theorem typescript_accepts (ds : List Declaration) (maxStreamCount : ℕ) :
    Typescript.validateRawDeclarations (ds.map tsRaw) maxStreamCount = .ok () ↔
      Rule BlankTs maxStreamCount ds := by
  have hblank : ∀ s, Typescript.trim (utf16 s) ≠ [] ↔ ¬ BlankTs s := fun s => Iff.rfl
  have hkey : ∀ d e : Declaration, d.LegalType → e.LegalType →
      (d.tsDeclaration.type = e.tsDeclaration.type ↔ d.type = e.type) := fun d e hd he =>
    select_getD_inj (by decide) (by decide) (by decide) hd he
  have hname : ∀ d : Declaration, tsName d.tsDeclaration = utf16 d.name := by
    intro d
    show (d.purpose.map utf16).getD [] = utf16 (d.purpose.getD "")
    cases d.purpose with
    | none => rfl
    | some purpose => rfl
  have hgroups : (∀ d ∈ ds, ¬ BlankTs d.contentType ∧ d.LegalType ∧ d.LegalOffsetType) →
      (((ds.map tsDeclaration).map Typescript.StreamDeclaration.type).eraseDups.forM
          (Typescript.validateGroup (ds.map tsDeclaration)) = .ok () ↔
        Groups.Distinct type name (fun purpose => ¬ BlankTs purpose) ds) := by
    intro hgood
    rw [validateGroups_iff_ts]
    exact distinct_iff utf16_injective hkey hname hblank fun d hd => (hgood d hd).2.1
  have hchecked : ∀ streams, (ds.map tsRaw).mapM Typescript.checkDeclaration = .ok streams ↔
      (∀ d ∈ ds, ¬ BlankTs d.contentType ∧ d.LegalType ∧ d.LegalOffsetType) ∧
        streams = ds.map tsDeclaration := by
    intro streams
    rw [List.mapM_map]
    exact Checks.mapM_eq_ok_iff fun d _ stream => d.checkDeclaration_tsRaw stream
  -- The checks of the number of streams come first.
  rw [Typescript.validateRawDeclarations, List.isEmpty_map, List.length_map]
  by_cases hempty : ds = []
  · rw [if_pos (List.isEmpty_iff.mpr hempty)]
    exact ⟨nofun, fun h => absurd hempty h.1⟩
  · rw [if_neg (mt List.isEmpty_iff.mp hempty)]
    by_cases hlimit : maxStreamCount < ds.length
    · rw [if_pos hlimit]
      exact ⟨nofun, fun h => absurd hlimit (Nat.not_lt.mpr h.2.1)⟩
    · rw [if_neg hlimit]
      constructor
      · intro h
        obtain ⟨streams, hparse, hvalid⟩ := Checks.exists_of_bind_ok h
        obtain ⟨hgood, rfl⟩ := (hchecked streams).mp hparse
        exact ⟨hempty, Nat.not_lt.mp hlimit, hgood, (hgroups hgood).mp hvalid⟩
      · rintro ⟨-, -, hgood, hdistinct⟩
        rw [(hchecked _).mpr ⟨hgood, rfl⟩]
        exact (hgroups hgood).mpr hdistinct

/-! ### C# -/

/-- `IsNullOrWhiteSpace`. -/
def BlankDotnet (s : String) : Prop := Dotnet.isNullOrWhiteSpace (some (utf16 s)) = true

def dotnetItem (d : Declaration) : Dotnet.JsonElement :=
  .named ([(utf16 "content_type", .string (some (utf16 d.contentType))),
    (utf16 "type", .string (some (utf16 d.type))),
    (utf16 "offset_type", .string (some (utf16 d.offsetType)))]
      ++ (d.purpose.map fun purpose => (utf16 "purpose", .string (some (utf16 purpose)))).toList)

/-- What `ParseInitBody` makes of a declaration. -/
def dotnetDeclaration (d : Declaration) : Dotnet.StreamInitDeclaration where
  contentType := utf16 d.contentType
  type := (Dotnet.tryParseStreamType (utf16 d.type)).getD .input
  purpose := d.purpose.map utf16
  idHint := none
  resumeOffset := none
  offsetType := (Dotnet.tryParseOffsetType (utf16 d.offsetType)).getD .message

theorem tryParseStreamType_utf16 (s : String) :
    Dotnet.tryParseStreamType (utf16 s) =
      select "input" "output" "duplex" .input .output .duplex s :=
  select_map utf16_injective s

theorem tryParseOffsetType_utf16 (s : String) :
    Dotnet.tryParseOffsetType (utf16 s) = select "time" "byte" "message" .time .byte .message s :=
  select_map utf16_injective s

/-- The properties of a declaration in JSON. -/
theorem dotnetItem_properties (d : Declaration) :
    d.dotnetItem.stringProperty (utf16 "content_type") = .ok (some (utf16 d.contentType)) ∧
      d.dotnetItem.stringProperty (utf16 "type") = .ok (some (utf16 d.type)) ∧
      d.dotnetItem.stringProperty (utf16 "offset_type") = .ok (some (utf16 d.offsetType)) ∧
      d.dotnetItem.stringProperty (utf16 "purpose") = .ok (d.purpose.map utf16) ∧
      d.dotnetItem.stringProperty (utf16 "id") = .ok none ∧
      d.dotnetItem.int64Property (utf16 "resume_offset") = .ok none := by
  obtain ⟨contentType, type, offsetType, purpose⟩ := d
  cases purpose with
  | none => exact ⟨rfl, rfl, rfl, rfl, rfl, rfl⟩
  | some purpose => exact ⟨rfl, rfl, rfl, rfl, rfl, rfl⟩

theorem checkStreamType_ok_iff (contentType typeValue : Text)
    (declared : Text × Dotnet.CulpeoStreamType) :
    Dotnet.checkStreamType (some contentType) (some typeValue) = .ok declared ↔
      Dotnet.isNullOrWhiteSpace (some contentType) ≠ true ∧
        Dotnet.tryParseStreamType typeValue = some declared.2 ∧ contentType = declared.1 := by
  unfold Dotnet.checkStreamType
  rw [Option.bind_some]
  cases Dotnet.tryParseStreamType typeValue with
  | none => exact ⟨nofun, fun h => absurd h.2.1 nofun⟩
  | some type =>
      by_cases hblank : Dotnet.isNullOrWhiteSpace (some contentType) = true
      · show (if _ then _ else _) = _ ↔ _
        rw [if_pos hblank]
        exact ⟨nofun, fun h => absurd hblank h.1⟩
      · show (if _ then _ else _) = _ ↔ _
        rw [if_neg hblank]
        constructor
        · intro h
          cases h
          exact ⟨hblank, rfl, rfl⟩
        · rintro ⟨-, htype, rfl⟩
          rw [Option.some_inj.mp htype]

theorem checkOffsetType_ok_iff (value : Text) (offsetType : Dotnet.OffsetType) :
    Dotnet.checkOffsetType (some value) = .ok offsetType ↔
      Dotnet.tryParseOffsetType value = some offsetType := by
  unfold Dotnet.checkOffsetType
  rw [Option.bind_some]
  cases Dotnet.tryParseOffsetType value with
  | none => exact ⟨nofun, nofun⟩
  | some type => exact ⟨fun h => congrArg some (Except.ok.inj h),
      fun h => congrArg Except.ok (Option.some.inj h)⟩

theorem parseStream_dotnetItem (d : Declaration) (stream : Dotnet.StreamInitDeclaration) :
    Dotnet.parseStream d.dotnetItem = .ok stream ↔
      (¬ BlankDotnet d.contentType ∧ d.LegalType ∧ d.LegalOffsetType) ∧
        stream = d.dotnetDeclaration := by
  obtain ⟨hcontent, htype, hoffset, hpurpose, hid, hresume⟩ := d.dotnetItem_properties
  have htypes := d.legalType_iff Dotnet.CulpeoStreamType.input .output .duplex
  have hoffsets := d.legalOffsetType_iff Dotnet.OffsetType.time .byte .message
  rw [← tryParseStreamType_utf16] at htypes
  rw [← tryParseOffsetType_utf16] at hoffsets
  have hread : Dotnet.parseStream d.dotnetItem = do
      let declared ← Dotnet.checkStreamType (some (utf16 d.contentType)) (some (utf16 d.type))
      let offsetType ← Dotnet.checkOffsetType (some (utf16 d.offsetType))
      return ⟨declared.1, declared.2, d.purpose.map utf16, none, none, offsetType⟩ := by
    unfold Dotnet.parseStream
    rw [hcontent, htype, hoffset, hpurpose, hid, hresume]
    rfl
  rw [hread, htypes, hoffsets, dotnetDeclaration]
  constructor
  · intro h
    obtain ⟨⟨contentType, type⟩, hdeclared, h⟩ := Checks.exists_of_bind_ok h
    obtain ⟨offsetType, hoffsetType, h⟩ := Checks.exists_of_bind_ok h
    cases h
    obtain ⟨hblank, htype, rfl⟩ := (checkStreamType_ok_iff _ _ _).mp hdeclared
    have hoffsetType := (checkOffsetType_ok_iff _ _).mp hoffsetType
    refine ⟨⟨hblank, ⟨type, htype⟩, offsetType, hoffsetType⟩, ?_⟩
    rw [htype, hoffsetType]
    rfl
  · rintro ⟨⟨hblank, ⟨type, htype⟩, offsetType, hoffsetType⟩, rfl⟩
    rw [(checkStreamType_ok_iff _ _ (_, type)).mpr ⟨hblank, htype, rfl⟩,
      (checkOffsetType_ok_iff _ offsetType).mpr hoffsetType, htype, hoffsetType]
    rfl

/-- The purpose of a declaration; null counts as the empty one. -/
def dotnetName (stream : Dotnet.StreamInitDeclaration) : Text := stream.purpose.getD []

theorem validatePurposes_cons_dotnet (purposes : List Text) (stream : Dotnet.StreamInitDeclaration)
    (rest : List Dotnet.StreamInitDeclaration) :
    Dotnet.validatePurposes purposes (stream :: rest) = .ok () ↔
      (dotnetName stream).all Dotnet.isWhiteSpace ≠ true ∧ dotnetName stream ∉ purposes ∧
        Dotnet.validatePurposes (dotnetName stream :: purposes) rest = .ok () := by
  rw [dotnetName, Dotnet.validatePurposes]
  by_cases hbad : (Dotnet.isNullOrWhiteSpace stream.purpose ||
      purposes.contains (stream.purpose.getD [])) = true
  · rw [if_pos hbad]
    rw [Bool.or_eq_true, List.contains_iff_mem] at hbad
    refine ⟨nofun, fun h => ?_⟩
    rcases hbad with hblank | hseen
    · exact absurd hblank h.1
    · exact absurd hseen h.2.1
  · rw [if_neg hbad]
    rw [Bool.or_eq_true, List.contains_iff_mem, not_or] at hbad
    exact ⟨fun h => ⟨hbad.1, hbad.2, h⟩, fun h => h.2.2⟩

theorem validateGroups_iff_dotnet (streams : List Dotnet.StreamInitDeclaration) :
    (streams.map Dotnet.StreamInitDeclaration.type).eraseDups.forM
        (Dotnet.validateGroup streams) = .ok () ↔
      Groups.Distinct Dotnet.StreamInitDeclaration.type dotnetName
        (fun purpose => purpose.all Dotnet.isWhiteSpace ≠ true) streams :=
  Groups.checkGroups_iff (fun _ => rfl) fun _ =>
    Groups.scan_iff (fun _ => rfl) validatePurposes_cons_dotnet

/-- The body of an init is a document with a version and these declarations. -/
def DotnetBody (env : Dotnet.Environment) (body : Bytes) (ds : List Declaration) : Prop :=
  ∃ root version, env.parseBody body = .ok root ∧
    root.stringProperty (utf16 "version") = .ok (some version) ∧
    Dotnet.isNullOrWhiteSpace (some version) = false ∧
    root.tryGetProperty (utf16 "streams") = .ok (some (.array (ds.map dotnetItem)))

theorem parseInitBody_iff {env : Dotnet.Environment} {body : Bytes} {ds : List Declaration}
    (hbody : DotnetBody env body ds) (streams : List Dotnet.StreamInitDeclaration) :
    (∃ init, Dotnet.parseInitBody env body = .ok init ∧ init.streams = streams) ↔
      (∀ d ∈ ds, ¬ BlankDotnet d.contentType ∧ d.LegalType ∧ d.LegalOffsetType) ∧
        streams = ds.map dotnetDeclaration := by
  obtain ⟨root, version, hparse, hversion, hblank, hstreams⟩ := hbody
  have hitems : Dotnet.streamItems root = .ok (ds.map dotnetItem) := by
    rw [Dotnet.streamItems, hstreams]
    rfl
  have hcheck : Dotnet.checkVersion (some version) = .ok version :=
    if_neg (Bool.eq_false_iff.mp hblank)
  -- Everything in front of the entries goes well.
  have hread : Dotnet.parseInitBody env body =
      (ds.map dotnetItem).mapM Dotnet.parseStream >>= fun streams => .ok ⟨version, streams⟩ := by
    unfold Dotnet.parseInitBody
    rw [hparse]
    show (root.stringProperty (utf16 "version") >>= _) = _
    rw [hversion]
    show (Dotnet.checkVersion (some version) >>= _) = _
    rw [hcheck]
    show (Dotnet.streamItems root >>= _) = _
    rw [hitems]
    rfl
  have hlist : (ds.map dotnetItem).mapM Dotnet.parseStream = .ok streams ↔
      (∀ d ∈ ds, ¬ BlankDotnet d.contentType ∧ d.LegalType ∧ d.LegalOffsetType) ∧
        streams = ds.map dotnetDeclaration := by
    rw [List.mapM_map]
    exact Checks.mapM_eq_ok_iff fun d _ stream => d.parseStream_dotnetItem stream
  rw [hread, ← hlist]
  constructor
  · rintro ⟨init, h, rfl⟩
    obtain ⟨streams, hstreams, h⟩ := Checks.exists_of_bind_ok h
    cases h
    exact hstreams
  · intro h
    exact ⟨⟨version, streams⟩, by rw [h]; rfl, rfl⟩

/-- **C#** calls `IsNullOrWhiteSpace`. -/
theorem dotnet_accepts {env : Dotnet.Environment} {body : Bytes} {ds : List Declaration}
    (hbody : DotnetBody env body ds) {limit : ℕ} {maxStreamCount : Int32}
    (hlimit : maxStreamCount.toInt = limit) :
    (∃ init, Dotnet.parseInitBody env body = .ok init ∧
      Dotnet.validateStreamDeclarations init.streams maxStreamCount = .ok ()) ↔
      Rule BlankDotnet limit ds := by
  have hblank : ∀ s, (utf16 s).all Dotnet.isWhiteSpace ≠ true ↔ ¬ BlankDotnet s :=
    fun s => Iff.rfl
  have hkey : ∀ d e : Declaration, d.LegalType → e.LegalType →
      (d.dotnetDeclaration.type = e.dotnetDeclaration.type ↔ d.type = e.type) := by
    intro d e hd he
    show (Dotnet.tryParseStreamType (utf16 d.type)).getD .input =
      (Dotnet.tryParseStreamType (utf16 e.type)).getD .input ↔ _
    rw [tryParseStreamType_utf16, tryParseStreamType_utf16]
    exact select_getD_inj (by decide) (by decide) (by decide) hd he
  have hname : ∀ d : Declaration, dotnetName d.dotnetDeclaration = utf16 d.name := by
    intro d
    show (d.purpose.map utf16).getD [] = utf16 (d.purpose.getD "")
    cases d.purpose with
    | none => rfl
    | some purpose => rfl
  have hvalid : (∀ d ∈ ds, ¬ BlankDotnet d.contentType ∧ d.LegalType ∧ d.LegalOffsetType) →
      (Dotnet.validateStreamDeclarations (ds.map dotnetDeclaration) maxStreamCount = .ok () ↔
        Rule BlankDotnet limit ds) := by
    intro hgood
    have hdistinct : Groups.Distinct Dotnet.StreamInitDeclaration.type dotnetName
        (fun purpose => purpose.all Dotnet.isWhiteSpace ≠ true) (ds.map dotnetDeclaration) ↔
          Groups.Distinct type name (fun purpose => ¬ BlankDotnet purpose) ds :=
      distinct_iff utf16_injective hkey hname hblank fun d hd => (hgood d hd).2.1
    -- What is left are the checks of the number of streams.
    rw [Rule, ← hdistinct, ← validateGroups_iff_dotnet, Dotnet.validateStreamDeclarations,
      List.isEmpty_map, List.length_map, hlimit]
    by_cases hempty : ds = []
    · rw [if_pos (List.isEmpty_iff.mpr hempty)]
      exact ⟨nofun, fun h => absurd hempty h.1⟩
    · rw [if_neg (mt List.isEmpty_iff.mp hempty)]
      by_cases hlong : (limit : ℤ) < ds.length
      · rw [if_pos hlong]
        exact ⟨nofun, fun h => absurd hlong (by omega)⟩
      · rw [if_neg hlong]
        exact ⟨fun h => ⟨hempty, by omega, hgood, h⟩, fun h => h.2.2.2⟩
  constructor
  · rintro ⟨init, hparse, h⟩
    obtain ⟨hgood, hstreams⟩ := (parseInitBody_iff hbody init.streams).mp ⟨init, hparse, rfl⟩
    rw [hstreams] at h
    exact (hvalid hgood).mp h
  · intro h
    obtain ⟨init, hparse, hstreams⟩ := (parseInitBody_iff hbody _).mpr ⟨h.2.2.1, rfl⟩
    refine ⟨init, hparse, ?_⟩
    rw [hstreams]
    exact (hvalid h.2.2.1).mpr h

/-! ### The three together -/

theorem blankTs_empty : BlankTs "" := rfl

theorem blankDotnet_empty : BlankDotnet "" := rfl

/-- Where it counts, no string is blank: no content type, and no purpose of a type that occurs
twice. -/
def NoBlank (blank : String → Prop) (ds : List Declaration) : Prop :=
  (∀ d ∈ ds, ¬ blank d.contentType) ∧
    ∀ type, 2 ≤ (Groups.group Declaration.type ds type).length →
      ∀ d ∈ Groups.group Declaration.type ds type, ¬ blank d.name

/-- The rule for more blank strings. -/
theorem rule_iff_noBlank {blank : String → Prop} (hempty : blank "") (limit : ℕ)
    (ds : List Declaration) :
    Rule blank limit ds ↔ Rule (· = "") limit ds ∧ NoBlank blank ds := by
  have hgood : ∀ s, ¬ blank s ↔ ¬ s = "" ∧ ¬ blank s := fun s =>
    ⟨fun h => ⟨fun heq => h (heq ▸ hempty), h⟩, fun h => h.2⟩
  have hdistinct : Groups.Distinct type name (fun purpose => ¬ blank purpose) ds ↔
      Groups.Distinct type name (fun purpose => ¬ purpose = "" ∧ ¬ blank purpose) ds := by
    rw [show (fun purpose => ¬ blank purpose) = fun purpose => ¬ purpose = "" ∧ ¬ blank purpose from
      funext fun s => propext (hgood s)]
  rw [Rule, hdistinct, Groups.distinct_and, Rule, NoBlank]
  constructor
  · rintro ⟨hne, hlimit, hall, hnames, hblank⟩
    exact ⟨⟨hne, hlimit, fun d hd => ⟨((hgood _).mp (hall d hd).1).1, (hall d hd).2⟩, hnames⟩,
      fun d hd => (hall d hd).1, hblank⟩
  · rintro ⟨⟨hne, hlimit, hall, hnames⟩, hcontent, hblank⟩
    exact ⟨hne, hlimit, fun d hd => ⟨hcontent d hd, (hall d hd).2⟩, hnames, hblank⟩

end Declaration

open Declaration

/-- **The three validators.**  Each accepts a list of declarations by the rule about empty
strings, so that they agree, exactly if a list that meets it has no string that is blank in
JavaScript or in .NET where that counts. -/
theorem validators_agree_iff (ds : List Declaration) {limit : ℕ} (hlimit : limit < 2 ^ 31)
    {cppBody : Session.Json} (hcpp : CppBody cppBody ds) {env : Dotnet.Environment}
    {dotnetBody : Bytes} (hdotnet : DotnetBody env dotnetBody ds) :
    (((∃ decls, Session.parseDeclarations cppBody = .ok decls ∧
        Session.validateDeclarations decls limit.toUInt32 = .ok ()) ↔ Rule (· = "") limit ds) ∧
      (Typescript.validateRawDeclarations (ds.map tsRaw) limit = .ok () ↔
        Rule (· = "") limit ds) ∧
      ((∃ init, Dotnet.parseInitBody env dotnetBody = .ok init ∧
        Dotnet.validateStreamDeclarations init.streams (Int32.ofNat limit) = .ok ()) ↔
          Rule (· = "") limit ds)) ↔
      (Rule (· = "") limit ds → NoBlank BlankTs ds ∧ NoBlank BlankDotnet ds) := by
  have hcppLimit : limit.toUInt32.toNat = limit := by
    exact UInt32.toNat_ofNat_of_lt' (show limit < 2 ^ 32 by omega)
  have hdotnetLimit : (Int32.ofNat limit).toInt = limit :=
    Int32.toInt_ofNat_of_lt hlimit
  rw [cpp_accepts hcpp, hcppLimit, typescript_accepts, dotnet_accepts hdotnet hdotnetLimit,
    rule_iff_noBlank blankTs_empty, rule_iff_noBlank blankDotnet_empty]
  tauto

/-- The body of an init for C++. -/
def cppInit (ds : List Declaration) : Session.Json :=
  .object [(ascii "version", .string (ascii "0.3")), (ascii "streams", .array (ds.map cppItem))]

/-- The body of an init for C#. -/
def dotnetInit (ds : List Declaration) : Dotnet.JsonElement :=
  .named [(utf16 "version", .string (some (utf16 "0.3"))),
    (utf16 "streams", .array (ds.map dotnetItem))]

theorem cppBody_cppInit (ds : List Declaration) : CppBody (cppInit ds) ds := rfl

theorem dotnetBody_dotnetInit (ds : List Declaration) :
    DotnetBody (.reading [dotnetInit ds]) ((dotnetInit ds).write.map UInt16.toUInt8) ds := by
  refine ⟨dotnetInit ds, utf16 "0.3", ?_, rfl, rfl, rfl⟩
  have hparse : (Dotnet.Environment.reading [dotnetInit ds]).parse
      ((dotnetInit ds).write.map UInt16.toUInt8) = some (dotnetInit ds) := by
    simp [Dotnet.Environment.reading]
  have hne : ((dotnetInit ds).write.map UInt16.toUInt8).isEmpty = false := rfl
  rw [Dotnet.Environment.parseBody, hne, if_neg (show ¬ false = true from nofun), hparse]

/-- Two streams that differ by their purposes. -/
def callStreams : List Declaration :=
  [⟨"audio/pcm;rate=16000", "input", "time", some "near"⟩,
    ⟨"audio/pcm;rate=16000", "input", "time", some "far"⟩]

theorem rule_callStreams : Rule (· = "") 16 callStreams := by
  have hkeys : ∀ d ∈ callStreams, d.type ∈ ["input"] := by decide
  refine ⟨by decide, by decide, by unfold LegalType LegalOffsetType; decide, ?_⟩
  exact (Groups.distinct_iff_of_keys hkeys).mpr (by decide)

theorem noBlank_callStreams : NoBlank BlankTs callStreams ∧ NoBlank BlankDotnet callStreams := by
  have hts : ∀ d ∈ callStreams, ¬ BlankTs d.contentType ∧ ¬ BlankTs d.name := by
    unfold BlankTs
    decide
  have hdotnet : ∀ d ∈ callStreams, ¬ BlankDotnet d.contentType ∧ ¬ BlankDotnet d.name := by
    unfold BlankDotnet
    decide
  exact ⟨⟨fun d hd => (hts d hd).1, fun _ _ d hd => (hts d (Groups.mem_group.mp hd).1).2⟩,
    fun d hd => (hdotnet d hd).1, fun _ _ d hd => (hdotnet d (Groups.mem_group.mp hd).1).2⟩

theorem validators_agree_iff_call :
    (∃ decls, Session.parseDeclarations (cppInit callStreams) = .ok decls ∧
        Session.validateDeclarations decls 16 = .ok ()) ∧
      Typescript.validateRawDeclarations (callStreams.map tsRaw) 16 = .ok () ∧
      ∃ init, Dotnet.parseInitBody (.reading [dotnetInit callStreams])
          ((dotnetInit callStreams).write.map UInt16.toUInt8) = .ok init ∧
        Dotnet.validateStreamDeclarations init.streams 16 = .ok () := by
  obtain ⟨hcpp, htypescript, hdotnet⟩ := (@validators_agree_iff callStreams 16 (by decide) _
    (cppBody_cppInit callStreams) _ _ (dotnetBody_dotnetInit callStreams)).mpr
      fun _ => noBlank_callStreams
  exact ⟨hcpp.mpr rule_callStreams, htypescript.mpr rule_callStreams,
    hdotnet.mpr rule_callStreams⟩

/-- A content type that is a space. -/
def spaceStream : List Declaration := [⟨" ", "input", "byte", none⟩]

/-- **A space is a content type** for C++ only. -/
theorem space_is_content_type_in_cpp :
    Rule (· = "") 16 spaceStream ∧
      (∃ decls, Session.parseDeclarations (cppInit spaceStream) = .ok decls ∧
        Session.validateDeclarations decls 16 = .ok ()) ∧
      Typescript.validateRawDeclarations (spaceStream.map tsRaw) 16 =
        .error (Typescript.invalidStreams (utf16 "Each stream must declare a content_type.")) ∧
      Dotnet.parseInitBody (.reading [dotnetInit spaceStream])
          ((dotnetInit spaceStream).write.map UInt16.toUInt8) =
        .error (Dotnet.invalidStreams
          (utf16 "Each stream must declare content_type and a valid type.")) := by
  have hkeys : ∀ d ∈ spaceStream, d.type ∈ ["input"] := by decide
  refine ⟨⟨by decide, by decide, by unfold LegalType LegalOffsetType; decide, ?_⟩,
    ⟨_, rfl, rfl⟩, rfl, rfl⟩
  exact (Groups.distinct_iff_of_keys hkeys).mpr (by decide)

end CulpeoStream
