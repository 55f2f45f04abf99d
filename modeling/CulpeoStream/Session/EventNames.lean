import CulpeoStream.Session.Endings

/-!
# Event names

The specification has a frame with a malformed event name refused, and an unknown event ignored.
`is_valid_event_name` finds the names that are malformed by their blanks and dots
(`isValidEventName_iff`).  A name that begins with a spelling of `culpeo.` in other letters is
malformed as well, but nothing looks for it, and the frame is ignored like one with an unknown
event (`processControlFrame_polices`).
-/

namespace CulpeoStream.Session

open Message Resumption Search

/-- A blank at an end, no dot, or an empty segment between dots. -/
def MalformedName (name : Bytes) : Prop :=
  (∃ c ∈ name.head?, isBlank c = true) ∨ (∃ c ∈ name.getLast?, isBlank c = true) ∨
    ch '.' ∉ name ∨ [] ∈ splitOn [ch '.'] name

/-- The name begins with `culpeo.` in other letters. -/
def CaseVariant (name : Bytes) : Prop :=
  iequalsAscii (name.take 7) (ascii "culpeo.") = true ∧ ¬ ascii "culpeo." <+: name

/-- The events that a session handles. -/
def handledEvents : List Bytes :=
  [ascii "culpeo.init", ascii "culpeo.ping", ascii "culpeo.pong", ascii "culpeo.auth-response",
    ascii "culpeo.close"]

theorem any_isBlank {o : Option UInt8} : o.any isBlank = true ↔ ∃ c ∈ o, isBlank c = true := by
  cases o with
  | none => simp
  | some c => simp

theorem isValidEventName_iff {name : Bytes} :
    isValidEventName name = false ↔ MalformedName name := by
  have hdot : (find [ch '.'] name).isNone = true ↔ ch '.' ∉ name := by
    rw [Option.isNone_iff_eq_none]
    refine ⟨fun h hmem => ?_, find_mark_none⟩
    obtain ⟨l, r, rfl, hl⟩ := List.eq_append_cons_of_mem hmem
    rw [find_mark hl] at h
    cases h
  rw [isValidEventName, MalformedName, nil_mem_splitOn, ← hdot, ← any_isBlank, ← any_isBlank]
  cases name with
  | nil => simp
  | cons c rest =>
      rw [if_neg (show ¬ (c :: rest).isEmpty = true from Bool.false_ne_true)]
      split
      · next h => exact iff_of_true rfl (by rw [Bool.or_eq_true] at h; tauto)
      · next hblank =>
        split
        · next h => exact iff_of_true rfl (.inr (.inr (.inl h)))
        · next hnone =>
          split
          · next h => exact iff_of_true rfl (.inr (.inr (.inr (.inr (.inr (.inr h))))))
          · next hpair =>
            have hends : (!((c :: rest).head? == some (ch '.') ||
                (c :: rest).getLast? == some (ch '.'))) = false ↔
                (c :: rest).head? = some (ch '.') ∨ (c :: rest).getLast? = some (ch '.') := by
              rw [Bool.not_eq_false', Bool.or_eq_true, beq_iff_eq, beq_iff_eq]
            rw [Bool.or_eq_true, not_or] at hblank
            rw [hends]
            have hne : c :: rest ≠ [] := List.cons_ne_nil c rest
            tauto

theorem isBlank_eq_false_iff {c : UInt8} : isBlank c = false ↔ c ≠ ch ' ' ∧ c ≠ ch '\t' := by
  rw [isBlank, Bool.or_eq_false_iff, beq_eq_false_iff_ne, beq_eq_false_iff_ne]

/-- **What `is_valid_event_name` accepts**: two segments or more, none of them empty, and no
blank at an end. -/
theorem isValidEventName_eq_true_iff {name : Bytes} :
    isValidEventName name = true ↔
      2 ≤ (name.splitOn (ch '.')).length ∧ (∀ segment ∈ name.splitOn (ch '.'), segment ≠ []) ∧
        (∀ c ∈ name.head?, c ≠ ch ' ' ∧ c ≠ ch '\t') ∧
        ∀ c ∈ name.getLast?, c ≠ ch ' ' ∧ c ≠ ch '\t' := by
  have hnonempty : (∀ segment ∈ name.splitOn (ch '.'), segment ≠ []) ↔
      [] ∉ name.splitOn (ch '.') :=
    ⟨fun h hmem => h [] hmem rfl, fun h segment hmem hnil => h (hnil ▸ hmem)⟩
  have hends : ∀ o : Option UInt8, (∀ c ∈ o, c ≠ ch ' ' ∧ c ≠ ch '\t') ↔
      ¬ ∃ c ∈ o, isBlank c = true := by
    intro o
    push Not
    exact forall₂_congr fun c _ => by rw [← isBlank_eq_false_iff, ne_eq, Bool.not_eq_true]
  rw [← Bool.not_eq_false, isValidEventName_iff, MalformedName, hnonempty, hends, hends,
    ← splitOn_mark_eq, two_le_length_splitOn, not_or, not_or, not_or, not_not]
  constructor
  · rintro ⟨hhead, hlast, hdot, hsegments⟩
    exact ⟨hdot, hsegments, hhead, hlast⟩
  · rintro ⟨hdot, hsegments, hhead, hlast⟩
    exact ⟨hhead, hlast, hdot, hsegments⟩

theorem CaseVariant.not_handled {name : Bytes} (h : CaseVariant name) : name ∉ handledEvents := by
  have hreserved : ∀ event ∈ handledEvents, ascii "culpeo." <+: event := by decide
  exact fun hmem => h.2 (hreserved name hmem)

variable (setup : Setup) {inv : Invocation} {f : ParsedHeadersView} {event : Bytes} {s : Impl}

theorem enter_malformed (hcall : inv.call = .processControlFrame f) (htype : f.frameType = .control)
    (hevent : f.event = some event) (hstate : s.state = .established)
    (hname : MalformedName event) :
    enter setup inv s =
      (transitionToClosed s,
        abort (ascii "protocol-error") (ascii "Invalid event name syntax") .invalidEventName) := by
  rw [enter, hcall]
  dsimp only
  rw [processControlFrame, if_neg (not_not.mpr htype), hevent]
  dsimp only
  rw [isValidEventName_iff.mpr hname, Bool.not_false, if_pos rfl, invalidEventName, if_pos hstate]

/-- A well-formed name that is not known is ignored. -/
theorem enter_unknown (hcall : inv.call = .processControlFrame f) (htype : f.frameType = .control)
    (hevent : f.event = some event) (hstate : s.state = .established)
    (hname : ¬ MalformedName event) (hunknown : event ∉ handledEvents) :
    enter setup inv s = (s, .ret (.ok ())) := by
  have hvalid : isValidEventName event = true := by
    rw [← Bool.not_eq_false, isValidEventName_iff]
    exact hname
  simp only [handledEvents, List.mem_cons, List.not_mem_nil, or_false, not_or] at hunknown
  obtain ⟨hinit, hping, hpong, hauth, hclose⟩ := hunknown
  have hstarted : ¬ (s.state = .uninitialized ∧ event ≠ ascii "culpeo.init") := by
    rw [hstate]
    exact fun h => by cases h.1
  rw [enter, hcall]
  dsimp only
  rw [processControlFrame, if_neg (not_not.mpr htype), hevent]
  dsimp only
  rw [hvalid, if_neg (by decide), dispatch, if_neg hstarted, if_neg hinit, if_neg hping,
    if_neg hpong, if_neg hauth, if_neg hclose]

/-- The frame is refused. -/
structure Refused (s : Impl) (outcome : Outcome Impl Output Result) : Prop where
  result : outcome.result = .error .invalidEventName
  closed : ClosedForProtocolError s outcome

/-- **Which event names are policed.**  Malformed names are refused and unknown events ignored,
as the specification has it, unless the name is well formed but for the letters of `culpeo.`. -/
theorem processControlFrame_polices (answers : ℕ → Bool)
    (hcall : inv.call = .processControlFrame f) (htype : f.frameType = .control)
    (hevent : f.event = some event) (hstate : s.state = .established) :
    ((MalformedName event ∨ CaseVariant event → Refused s (perform setup inv answers s)) ∧
      (¬ (MalformedName event ∨ CaseVariant event) → event ∉ handledEvents →
        perform setup inv answers s = ⟨s, [], .ok ()⟩)) ↔
      ¬ (CaseVariant event ∧ ¬ MalformedName event) := by
  have hrefused : MalformedName event → Refused s (perform setup inv answers s) := by
    intro hname
    have hreason : validHeaderValue (ascii "Invalid event name syntax") = true := by decide
    have hclosed := closedForProtocolError_abort (s := s) hreason .invalidEventName answers
    rw [perform, enter_malformed setup hcall htype hevent hstate hname]
    dsimp only
    refine ⟨?_, hclosed⟩
    rw [exec_abort]
  have hignored : ¬ MalformedName event → event ∉ handledEvents →
      perform setup inv answers s = ⟨s, [], .ok ()⟩ := by
    intro hname hunknown
    rw [perform, enter_unknown setup hcall htype hevent hstate hname hunknown]
    rfl
  constructor
  · rintro ⟨hpoliced, -⟩ ⟨hvariant, hname⟩
    have hresult := (hpoliced (.inr hvariant)).result
    rw [hignored hname hvariant.not_handled] at hresult
    cases hresult
  · intro hcase
    refine ⟨fun h => hrefused ?_, fun h hunknown => hignored (fun hname => h (.inl hname)) hunknown⟩
    by_contra hname
    exact hcase ⟨h.resolve_left hname, hname⟩

/-! ### Two frames -/

def namingSetup : Setup := { json := ⟨fun _ => none, fun _ => []⟩ }

def namingSession : Impl where
  state := .established
  registry := { maxStreams := 1 }

/-- A frame with nothing but an event. -/
def namedFrame (event : Bytes) : ParsedHeadersView where
  frameType := .control
  frame := []
  headerBlock := []
  body := []
  event := some event

def namedInvocation (event : Bytes) : Invocation where
  call := .processControlFrame (namedFrame event)

/-- A name without a dot is refused. -/
theorem processControlFrame_polices_example :
    Refused namingSession
      (perform namingSetup (namedInvocation (ascii "ping")) (fun _ => true) namingSession) := by
  have hdot : MalformedName (ascii "ping") := .inr (.inr (.inl (by decide)))
  have hpolices := processControlFrame_polices namingSetup (fun _ => true)
    (show (namedInvocation (ascii "ping")).call = _ from rfl) rfl rfl
    (show namingSession.state = .established from rfl)
  exact (hpolices.mpr fun h => h.2 hdot).1 (.inl hdot)

/-- A ping in other letters is ignored. -/
theorem processControlFrame_variant :
    ¬ ((MalformedName (ascii "Culpeo.ping") ∨ CaseVariant (ascii "Culpeo.ping") →
        Refused namingSession (perform namingSetup (namedInvocation (ascii "Culpeo.ping"))
          (fun _ => true) namingSession)) ∧
      (¬ (MalformedName (ascii "Culpeo.ping") ∨ CaseVariant (ascii "Culpeo.ping")) →
        ascii "Culpeo.ping" ∉ handledEvents →
        perform namingSetup (namedInvocation (ascii "Culpeo.ping")) (fun _ => true)
          namingSession = ⟨namingSession, [], .ok ()⟩)) := by
  rintro ⟨hpoliced, -⟩
  have hvariant : CaseVariant (ascii "Culpeo.ping") := ⟨by decide, by decide⟩
  have hresult := (hpoliced (.inr hvariant)).result
  have hok : (perform namingSetup (namedInvocation (ascii "Culpeo.ping")) (fun _ => true)
      namingSession).result = .ok () := by rfl
  rw [hok] at hresult
  cases hresult

end CulpeoStream.Session
