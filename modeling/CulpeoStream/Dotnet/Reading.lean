import CulpeoStream.Lib.Checks
import CulpeoStream.Dotnet.Connection

/-!
# Which bodies are read without an escape

The handlers catch a `ProtocolValidationException`; whatever else the reading of a body
throws leaves the method.  For every reader of `CulpeoSession.cs` there is a condition on
the document that says when it fails with violations of the protocol only
(`only_parseInitBody`, `only_pingTimestamp`, `only_responseNonce`).

The conditions follow the order of the reads: what stands behind the first violation is
not looked at.
-/

namespace CulpeoStream.Dotnet

open Checks Message Utf16

/-- A violation of the protocol. -/
def Exn.IsViolation : Exn → Prop
  | .protocolValidation _ _ => True
  | _ => False

/-- Only violations of the protocol leave a computation. -/
abbrev Contained {α : Type} (x : Except Exn α) : Prop := Only Exn.IsViolation x

namespace PropertyName

/-- The comparison with a name fails. -/
def Broken (p : PropertyName) (name : Text) : Prop :=
  ∃ part, p.escaped = some part ∧ part.text = none ∧ p.unescapes part name = true

/-- The property has this name. -/
def names (p : PropertyName) (name : Text) : Bool := (p.compare name).toOption.getD false

theorem compare_of_not_broken {p : PropertyName} {name : Text} (h : ¬ p.Broken name) :
    p.compare name = .ok (p.names name) := by
  cases hcompare : p.compare name with
  | ok same =>
      unfold names
      rw [hcompare]
      rfl
  | error ex =>
      refine absurd ?_ h
      unfold compare at hcompare
      split at hcompare
      · cases hcompare
      · rename_i part hpart
        split at hcompare
        · rename_i hunescapes
          split at hcompare
          · rename_i htext
            exact ⟨part, hpart, htext, hunescapes⟩
          · cases hcompare
        · cases hcompare

/-- A name that cannot be unescaped is no violation of the protocol. -/
theorem compare_of_broken {p : PropertyName} {name : Text} (h : p.Broken name) :
    ∃ message, p.compare name = .error (.invalidOperation message) := by
  obtain ⟨part, hpart, htext, hunescapes⟩ := h
  unfold compare
  rw [hpart]
  dsimp only
  rw [if_pos hunescapes, htext]
  exact ⟨_, rfl⟩

end PropertyName

namespace JsonElement

/-- No name is broken up to the first property with this name. -/
def Clear (name : Text) : List (PropertyName × JsonElement) → Prop
  | [] => True
  | (propertyName, _) :: properties =>
      ¬ propertyName.Broken name ∧ (propertyName.names name = false → Clear name properties)

/-- An object in which a property can be looked for. -/
def Searchable (e : JsonElement) (name : Text) : Prop :=
  match e with
  | object properties => Clear name properties.reverse
  | _ => False

/-- The property that counts. -/
def property (e : JsonElement) (name : Text) : Option JsonElement :=
  match e with
  | object properties =>
      (properties.reverse.find? fun property => property.1.names name).map Prod.snd
  | _ => none

/-- A string that can be transcoded, or null. -/
def IsText : JsonElement → Prop
  | null => True
  | string value => value.isSome = true
  | _ => False

def IsNumber : JsonElement → Prop
  | number _ => True
  | _ => False

/-- A number that is an `Int64`. -/
def IsInt64 : JsonElement → Prop
  | number int64 => int64.isSome = true
  | _ => False

/-- The property is text when it is there. -/
def HasText (e : JsonElement) (name : Text) : Prop :=
  e.Searchable name ∧ ∀ p ∈ e.property name, p.IsText

/-- The text of an element. -/
def asText : JsonElement → Option Text
  | string value => value
  | _ => none

def text (e : JsonElement) (name : Text) : Option Text := (e.property name).bind asText

def asInt64 : JsonElement → Option Int64
  | number int64 => int64
  | _ => none

/-- The property is an `Int64` when it is there. -/
def HasInt64 (e : JsonElement) (name : Text) : Prop :=
  e.Searchable name ∧ ∀ p ∈ e.property name, p.IsInt64

section Accessors

variable {e : JsonElement} {name : Text}

theorem findProperty_of_clear {properties : List (PropertyName × JsonElement)}
    (h : Clear name properties) : findProperty name properties =
      .ok ((properties.find? fun property => property.1.names name).map Prod.snd) := by
  induction properties with
  | nil => rfl
  | cons property properties ih =>
      rw [findProperty, PropertyName.compare_of_not_broken h.1, List.find?_cons]
      cases hnames : property.1.names name with
      | true => rfl
      | false => exact ih (h.2 hnames)

/-- **Where the search ends**: at a broken name, or at the property that counts. -/
theorem findProperty_error_iff {P : Exn → Prop}
    (hP : ∀ message, ¬ P (.invalidOperation message))
    (properties : List (PropertyName × JsonElement)) :
    Only P (findProperty name properties) ↔ Clear name properties := by
  induction properties with
  | nil => exact iff_of_true (only_ok _) trivial
  | cons property properties ih =>
      rw [findProperty]
      by_cases hbroken : property.1.Broken name
      · obtain ⟨message, hcompare⟩ := PropertyName.compare_of_broken hbroken
        rw [hcompare]
        exact iff_of_false (fun h => hP message (only_error.mp h)) fun h => h.1 hbroken
      · rw [PropertyName.compare_of_not_broken hbroken]
        refine Iff.trans ?_ (and_iff_right hbroken).symm
        cases hnames : property.1.names name with
        | true => exact iff_of_true (only_ok _) nofun
        | false => exact ih.trans ⟨fun h _ => h, fun h => h rfl⟩

theorem tryGetProperty_of_searchable (h : e.Searchable name) :
    e.tryGetProperty name = .ok (e.property name) := by
  cases e with
  | object properties => exact findProperty_of_clear h
  | _ => exact h.elim

theorem only_tryGetProperty {P : Exn → Prop} (hP : ∀ message, ¬ P (.invalidOperation message)) :
    Only P (e.tryGetProperty name) ↔ e.Searchable name := by
  cases e with
  | object properties => exact findProperty_error_iff hP properties.reverse
  | _ => exact iff_of_false (fun h => hP _ (only_error.mp h)) id

theorem contained_tryGetProperty : Contained (e.tryGetProperty name) ↔ e.Searchable name :=
  only_tryGetProperty fun _ => id

theorem contained_getString : Contained e.getString ↔ e.IsText := by
  cases e with
  | null => exact iff_of_true (only_ok _) trivial
  | string value =>
      cases value with
      | none => exact iff_of_false (fun h => only_error.mp h) nofun
      | some text => exact iff_of_true (only_ok _) rfl
  | _ => exact iff_of_false (fun h => only_error.mp h) id

theorem getString_of_isText (h : e.IsText) : e.getString = .ok e.asText := by
  cases e with
  | null => rfl
  | string value =>
      cases value with
      | none => cases h
      | some text => rfl
  | _ => exact h.elim

theorem contained_getInt64 : Contained e.getInt64 ↔ e.IsInt64 := by
  cases e with
  | number int64 =>
      cases int64 with
      | none => exact iff_of_false (fun h => only_error.mp h) nofun
      | some n => exact iff_of_true (only_ok _) rfl
  | _ => exact iff_of_false (fun h => only_error.mp h) id

/-- A read of a property that may be left out. -/
theorem contained_property {α : Type} {none : α} {read : JsonElement → Except Exn α}
    {Q : JsonElement → Prop} (hread : ∀ p, Contained (read p) ↔ Q p) :
    Contained (e.tryGetProperty name >>= fun
      | Option.none => .ok none
      | some p => read p) ↔ e.Searchable name ∧ ∀ p ∈ e.property name, Q p := by
  refine only_bind_read contained_tryGetProperty tryGetProperty_of_searchable fun _ => ?_
  cases e.property name with
  | none => exact iff_of_true (only_ok _) nofun
  | some p =>
      refine (hread p).trans ⟨fun hp q hq => ?_, fun hp => hp p rfl⟩
      exact Option.some.inj hq ▸ hp

theorem contained_stringProperty : Contained (e.stringProperty name) ↔ e.HasText name :=
  contained_property fun _ => contained_getString

theorem stringProperty_of_hasText (h : e.HasText name) :
    e.stringProperty name = .ok (e.text name) := by
  unfold stringProperty text
  rw [tryGetProperty_of_searchable h.1]
  show (match e.property name with | none => _ | some p => p.getString) = _
  cases hproperty : e.property name with
  | none => rfl
  | some p => exact getString_of_isText (h.2 p hproperty)

theorem contained_int64Property : Contained (e.int64Property name) ↔ e.HasInt64 name :=
  contained_property fun _ => only_bind_ok.trans contained_getInt64

theorem int64Property_of_hasInt64 (h : e.HasInt64 name) :
    e.int64Property name = .ok ((e.property name).bind asInt64) := by
  unfold int64Property
  rw [tryGetProperty_of_searchable h.1]
  show (match e.property name with | none => _ | some p => _) = _
  cases hproperty : e.property name with
  | none => rfl
  | some p =>
      have hp := h.2 p hproperty
      cases p with
      | number int64 =>
          obtain ⟨n, hn⟩ := Option.isSome_iff_exists.mp hp
          subst hn
          rfl
      | _ => exact hp.elim

end Accessors

/-! ### Init bodies -/

/-- The stream has a content type and a type. -/
def Typed (item : JsonElement) : Prop :=
  isNullOrWhiteSpace (item.text (utf16 "content_type")) = false ∧
    ((item.text (utf16 "type")).bind tryParseStreamType).isSome = true

/-- The stream has an offset type. -/
def OffsetTyped (item : JsonElement) : Prop :=
  ((item.text (utf16 "offset_type")).bind tryParseOffsetType).isSome = true

/-- An item of `streams` that is accepted or refused. -/
structure ReadableStream (item : JsonElement) : Prop where
  contentType : item.HasText (utf16 "content_type")
  type : item.HasText (utf16 "type")
  offsetType : item.Typed → item.HasText (utf16 "offset_type")
  resumeOffset : item.Typed → item.OffsetTyped → item.HasInt64 (utf16 "resume_offset")
  purpose : item.Typed → item.OffsetTyped → item.HasText (utf16 "purpose")
  id : item.Typed → item.OffsetTyped → item.HasText (utf16 "id")

/-- The items up to the first one that is refused. -/
def ReadableStreams : List JsonElement → Prop
  | [] => True
  | item :: items =>
      item.ReadableStream ∧ (item.Typed → item.OffsetTyped → ReadableStreams items)

/-- The document of an init that is accepted or refused. -/
structure ReadableInit (root : JsonElement) : Prop where
  version : root.HasText (utf16 "version")
  searchable : isNullOrWhiteSpace (root.text (utf16 "version")) = false →
    root.Searchable (utf16 "streams")
  streams : isNullOrWhiteSpace (root.text (utf16 "version")) = false →
    ∀ items, root.property (utf16 "streams") = some (.array items) → ReadableStreams items

end JsonElement

section Streams

variable {item : JsonElement}

end Streams

/-! ### Bodies -/

/-- The document of a body. -/
def Environment.document (env : Environment) (body : Bytes) : Option JsonElement :=
  env.parse (if body.isEmpty then ascii "\x7b\x7d" else body)

section Bodies

variable {env : Environment} {body : Bytes}

/-- A document that is read for one property: an object in which it can be looked for, and the
property of a kind. -/
def ReadableAs (Q : JsonElement → Prop) (name : Text) (root : JsonElement) : Prop :=
  root.Searchable name ∧ ∀ p ∈ root.property name, Q p

end Bodies

/-! ### New sessions -/

/-- The samples of one point in time are more bytes than an `int` can count. -/
def PcmOverflows (rt : Runtime) (contentType : Text) : Prop :=
  ∃ parsed channels bits rate, tryParseContentType rt contentType = some parsed ∧
    equalsIgnoreCase rt parsed.mediaType (utf16 "audio/pcm") = true ∧
    (tryGetValue rt parsed.parameters (utf16 "channels")).bind tryParseInt = some channels ∧
    (tryGetValue rt parsed.parameters (utf16 "bits")).bind tryParseInt = some bits ∧
    (tryGetValue rt parsed.parameters (utf16 "rate")).bind tryParseInt = some rate ∧
    1 ≤ channels ∧ (0 < bits ∧ bits % 8 = 0) ∧ 0 < rate ∧ 2 ^ 31 ≤ channels * (bits / 8)

/-- The declarations of a new session, up to the first one that is refused: no stride
overflows, and no id is generated twice. -/
def Creatable (rt : Runtime) (random : ℕ → ℕ → UInt8) :
    ℕ → List Text → List StreamInitDeclaration → Prop
  | _, _, [] => True
  | k, ids, declaration :: rest =>
      (declaration.offsetType = .time → ¬ PcmOverflows rt declaration.contentType) ∧
      ((declaration.offsetType = .time →
          ∃ stride, getRequiredPcmStride rt declaration.contentType = .ok stride) →
        generateOpaqueId (random k) 8 ∉ ids ∧
          Creatable rt random (k + 1) (ids ++ [generateOpaqueId (random k) 8]) rest)

end CulpeoStream.Dotnet
