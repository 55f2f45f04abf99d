import CulpeoStream.Dotnet.RoundTrip
import CulpeoStream.Lib.Checks
import CulpeoStream.Message.Fields

/-!
# What `ParseAsync` reads from the header lines

The parser passes over empty lines and takes every other line as a field of the block.  A
field whose name is that of a header, up to ASCII case, sets this header, which must not be
set twice; the text or the number is read from the decoded value (`parseAsync_headers`).
-/

namespace CulpeoStream.Dotnet

open Message Search Utf16

/-! ### One line -/

theorem toLowerAscii_lt (c : UInt8) : toLowerAscii c < 0x80 ↔ c < 0x80 := by
  have hall : ∀ n : Fin 256, toLowerAscii (UInt8.ofNat n) < 0x80 ↔ UInt8.ofNat n < 0x80 := by
    decide +kernel
  have hc := hall ⟨c.toNat, c.toNat_lt⟩
  rwa [UInt8.ofNat_toNat] at hc

theorem tryMapHeader_eq (name : Bytes) : tryMapHeader name = reservedOf name := by
  have hascii : ∀ (name literal : Bytes), literal.all (· < 0x80) = true →
      equalsIgnoreCaseAscii name literal = iequalsAscii name literal := by
    intro name literal hliteral
    rw [equalsIgnoreCaseAscii, hliteral, Bool.and_true]
    cases hequal : iequalsAscii name literal with
    | false => rw [Bool.and_false]
    | true =>
        rw [iequalsAscii, beq_iff_eq] at hequal
        rw [Bool.and_true, List.all_eq_true]
        intro c hc
        have hmem := List.mem_map_of_mem (f := toLowerAscii) hc
        rw [hequal] at hmem
        obtain ⟨d, hd, hlow⟩ := List.mem_map.mp hmem
        have hd' := List.all_eq_true.mp hliteral d hd
        rw [decide_eq_true_eq] at hd' ⊢
        rw [← toLowerAscii_lt c, ← hlow, toLowerAscii_lt d]
        exact hd'
  unfold tryMapHeader reservedOf
  congr 1
  funext r
  exact hascii _ _ (by cases r <;> decide)

/-- What a header is set to by a text. -/
def CulpeoMessage.ReadsAs (m : CulpeoMessage) (decoded : Text) : Reserved → Prop
  | .offset => ∃ n, parseLong decoded = .ok n ∧ m.offset = some n
  | .timestamp => ∃ n, parseLong decoded = .ok n ∧ m.timestamp = some n
  | .bufferWindow => ∃ n, parseInt decoded = .ok n ∧ m.bufferWindow = some n
  | r => m.headerValue r = some decoded

/-- Two messages have the same header. -/
def CulpeoMessage.SameHeader (m m' : CulpeoMessage) : Reserved → Prop
  | .event => m'.event = m.event
  | .contentType => m'.contentType = m.contentType
  | .authorization => m'.authorization = m.authorization
  | .sessionId => m'.sessionId = m.sessionId
  | .streamId => m'.streamId = m.streamId
  | .offset => m'.offset = m.offset
  | .timestamp => m'.timestamp = m.timestamp
  | .bufferWindow => m'.bufferWindow = m.bufferWindow
  | .reason => m'.reason = m.reason
  | .code => m'.code = m.code

theorem CulpeoMessage.SameHeader.headerValue {m m' : CulpeoMessage} {r : Reserved}
    (h : m.SameHeader m' r) : m'.headerValue r = m.headerValue r := by
  cases r <;> simp only [SameHeader] at h <;> simp [CulpeoMessage.headerValue, h]

theorem CulpeoMessage.SameHeader.readsAs {m m' : CulpeoMessage} {r : Reserved} {decoded : Text}
    (h : m.SameHeader m' r) (hreads : m.ReadsAs decoded r) : m'.ReadsAs decoded r := by
  cases r <;> simp only [SameHeader] at h <;>
    simpa [CulpeoMessage.ReadsAs, CulpeoMessage.headerValue, h] using hreads

theorem CulpeoMessage.SameHeader.refl (m : CulpeoMessage) (r : Reserved) : m.SameHeader m r := by
  cases r <;> rfl

theorem CulpeoMessage.SameHeader.trans {m m' m'' : CulpeoMessage} {r : Reserved}
    (h : m.SameHeader m' r) (h' : m'.SameHeader m'' r) : m.SameHeader m'' r := by
  cases r <;> exact Eq.trans h' h

/-- **Setting a header** leaves the others, the kind and the body as they are. -/
theorem assignHeader_ok {m m' : CulpeoMessage} {r : Reserved} {decoded : Text}
    (h : assignHeader m r decoded = .ok m') :
    m'.ReadsAs decoded r ∧ (∀ q, q ≠ r → m.SameHeader m' q) ∧ m'.kind = m.kind ∧
      m'.body = m.body := by
  have hparsed : ∀ {α : Type} {x : Except ParseExn α} {f : α → CulpeoMessage},
      x.map f = .ok m' → ∃ n, x = .ok n ∧ f n = m' := by
    intro α x f hmap
    cases x with
    | error e => cases hmap
    | ok n => exact ⟨n, rfl, by simpa [Except.map] using hmap⟩
  cases r
  case offset | timestamp | bufferWindow =>
    obtain ⟨n, hn, rfl⟩ := hparsed h
    refine ⟨⟨n, hn, rfl⟩, fun q hq => ?_, rfl, rfl⟩
    cases q <;> first | rfl | exact absurd rfl hq
  all_goals
    cases h
    refine ⟨rfl, fun q hq => ?_, rfl, rfl⟩
    cases q <;> first | rfl | exact absurd rfl hq

/-- What one line does: nothing when it is empty; else it is a field, whose header is set if
it is one and has not been set before. -/
inductive ReadsLine (line : Bytes) (state : ParseState) : ParseState → Prop where
  | empty (hline : line = []) : ReadsLine line state state
  | ignored (hcolon : ch ':' ∈ line) (hname : reservedOf (lineField line).name = none) :
      ReadsLine line state { state with headerCount := state.headerCount + 1 }
  | header (hcolon : ch ':' ∈ line) {r : Reserved} {message : CulpeoMessage}
      (hname : reservedOf (lineField line).name = some r) (hseen : r ∉ state.seenHeaders)
      (hassign : assignHeader state.message r (Utf8.decode (lineField line).value) = .ok message)
      (hclean : validHeaderValue (lineField line).value = true) :
      ReadsLine line state ⟨message, r :: state.seenHeaders, state.headerCount + 1⟩

theorem validHeaderValue_of_validate {span : Bytes} {fieldKind : Text}
    (h : validateNoForbiddenBytes span fieldKind = .ok ()) : validHeaderValue span = true := by
  cases hfind : span.find? isForbidden with
  | some b => simp [validateNoForbiddenBytes, hfind] at h
  | none =>
      rw [List.find?_eq_none] at hfind
      rw [validHeaderValue_iff]
      intro c hc
      have hclean := hfind c hc
      simp only [isForbidden, Bool.or_eq_true, beq_iff_eq, not_or] at hclean
      exact ⟨hclean.1.1, hclean.1.2, hclean.2⟩

theorem readsLine_of_parseLine {limits : ParseLimits} {line : Bytes} {state state' : ParseState}
    (h : parseLine limits line state = .ok state') : ReadsLine line state state' := by
  unfold parseLine at h
  split at h
  · rename_i hempty
    cases h
    exact .empty (by simpa using hempty)
  · dsimp only at h
    split at h
    · cases h
    · split at h
      · cases h
      · cases h
      · rename_i colon _ hfind
        have hfield := lineField_of_find hfind
        have hcolon : ch ':' ∈ line := by
          rw [(exists_of_find_colon hfind).1]
          simp
        split at h
        · cases h
        · split at h
          · cases h
          · obtain ⟨-, -, h⟩ := Checks.exists_of_bind_ok h
            obtain ⟨_, hvalue, h⟩ := Checks.exists_of_bind_ok h
            have hclean := validHeaderValue_of_validate hvalue
            split at h
            · rename_i hname
              cases h
              refine .ignored hcolon ?_
              rw [hfield, ← tryMapHeader_eq]
              exact hname
            · rename_i r hname
              split at h
              · cases h
              · rename_i hseen
                obtain ⟨message, hassign, h⟩ := Checks.exists_of_bind_ok h
                cases h
                rw [tryMapHeader_eq] at hname
                exact .header hcolon (by rw [hfield]; exact hname) hseen
                  (by rw [hfield]; exact hassign) (by rw [hfield]; exact hclean)

/-! ### All lines -/

/-- What the lines do to a header: nothing when no field has its name; else the first field
with its name sets it. -/
def ReadsHeader (fields : List HeaderField) (m m' : CulpeoMessage) (r : Reserved) : Prop :=
  match fieldValue r fields with
  | none => m.SameHeader m' r
  | some value => m'.ReadsAs (Utf8.decode value) r

theorem parseLines_headers {limits : ParseLimits} {lines : List Bytes} :
    ∀ {state state' : ParseState},
      lines.foldlM (fun state line => parseLine limits line state) state = .ok state' →
      (∀ r ∈ state.seenHeaders,
        fieldValue r ((lines.filter (!·.isEmpty)).map lineField) = none) ∧
      (∀ line ∈ lines, line ≠ [] → ch ':' ∈ line) ∧
      (∀ r, ReadsHeader ((lines.filter (!·.isEmpty)).map lineField) state.message
        state'.message r) ∧
      (∀ f ∈ (lines.filter (!·.isEmpty)).map lineField, (reservedOf f.name).isSome = true →
        validHeaderValue f.value = true) ∧
      state'.message.kind = state.message.kind ∧ state'.message.body = state.message.body := by
  induction lines with
  | nil =>
      intro state state' h
      cases h
      exact ⟨fun r _ => rfl, fun line hline => (List.not_mem_nil hline).elim,
        fun r => CulpeoMessage.SameHeader.refl _ r, fun f hf => (List.not_mem_nil hf).elim,
        rfl, rfl⟩
  | cons line rest ih =>
      intro state state' h
      rw [List.foldlM_cons] at h
      obtain ⟨mid, hline, hrest⟩ := Checks.exists_of_bind_ok h
      obtain ⟨hseen, hcolons, hheaders, hclean, hkind, hbody⟩ := ih hrest
      cases readsLine_of_parseLine hline with
      | empty hempty =>
          subst hempty
          refine ⟨hseen, ?_, hheaders, hclean, hkind, hbody⟩
          rintro line hmem hne
          obtain rfl | hmem := List.mem_cons.mp hmem
          · exact absurd rfl hne
          · exact hcolons line hmem hne
      | ignored hcolon hname =>
          have hfields : ((line :: rest).filter (!·.isEmpty)).map lineField =
              lineField line :: (rest.filter (!·.isEmpty)).map lineField := by
            have hne : line.isEmpty = false := by
              cases line with
              | nil => cases hcolon
              | cons b line => rfl
            rw [List.filter_cons, hne]
            rfl
          have hvalue : ∀ r, fieldValue r (lineField line ::
              (rest.filter (!·.isEmpty)).map lineField) =
                fieldValue r ((rest.filter (!·.isEmpty)).map lineField) := by
            intro r
            rw [fieldValue_cons, hname]
            rfl
          rw [hfields]
          refine ⟨fun r hr => ?_, fun line' hmem hne => ?_, fun r => ?_, fun f hf hf' => ?_, hkind,
            hbody⟩
          · rw [hvalue]
            exact hseen r hr
          · obtain rfl | hmem := List.mem_cons.mp hmem
            · exact hcolon
            · exact hcolons line' hmem hne
          · unfold ReadsHeader
            rw [hvalue]
            exact hheaders r
          · obtain rfl | hf := List.mem_cons.mp hf
            · rw [hname] at hf'
              cases hf'
            · exact hclean f hf hf'
      | @header hcolon q message hname hnew hassign hvalid =>
          have hfields : ((line :: rest).filter (!·.isEmpty)).map lineField =
              lineField line :: (rest.filter (!·.isEmpty)).map lineField := by
            have hne : line.isEmpty = false := by
              cases line with
              | nil => cases hcolon
              | cons b line => rfl
            rw [List.filter_cons, hne]
            rfl
          obtain ⟨hreads, hsame, hkind', hbody'⟩ := assignHeader_ok hassign
          rw [hfields]
          refine ⟨fun r hr => ?_, fun line' hmem hne => ?_, fun r => ?_, fun f hf hf' => ?_,
            hkind.trans hkind', hbody.trans hbody'⟩
          · have hne : q ≠ r := fun heq => hnew (heq ▸ hr)
            rw [fieldValue_cons, hname, if_neg (by simpa using hne)]
            exact hseen r (List.mem_cons_of_mem _ hr)
          · obtain rfl | hmem := List.mem_cons.mp hmem
            · exact hcolon
            · exact hcolons line' hmem hne
          · have hrest := hheaders r
            unfold ReadsHeader at hrest ⊢
            rw [fieldValue_cons, hname]
            by_cases hqr : q = r
            · subst hqr
              -- The header is not set again.
              rw [hseen q (by simp)] at hrest
              rw [if_pos rfl]
              exact hrest.readsAs hreads
            · rw [if_neg (by simpa using hqr)]
              revert hrest
              cases fieldValue r ((rest.filter (!·.isEmpty)).map lineField) with
              | none => exact fun hrest => (hsame r (Ne.symm hqr)).trans hrest
              | some value => exact id
          · obtain rfl | hf := List.mem_cons.mp hf
            · exact hvalid
            · exact hclean f hf hf'

/-- **What an accepted frame says**: where its body begins, and for each header what the first
field with its name sets it to. -/
theorem parseAsync_headers {limits : ParseLimits} {frame : Bytes} {kind : CulpeoMessageKind}
    {m : CulpeoMessage} (h : parseAsync limits frame kind = .ok m) :
    ∃ t, IsFirst crlfcrlf frame t ∧ m.body = frame.drop (t + 4) ∧
      (∀ line ∈ headerLines (frame.take t), line ≠ [] → ch ':' ∈ line) ∧
      (∀ r, match fieldValue r (blockFields (frame.take t)) with
        | none => m.headerValue r = none
        | some value => m.ReadsAs (Utf8.decode value) r) ∧
      ∀ f ∈ blockFields (frame.take t), (reservedOf f.name).isSome = true →
        validHeaderValue f.value = true := by
  obtain ⟨t, ⟨hfirst, -⟩, state, hfold, rfl⟩ := parseAsync_ok_iff.mp h
  obtain ⟨-, hcolons, hheaders, hclean, -, hbody⟩ := parseLines_headers hfold
  refine ⟨t, hfirst, hbody, hcolons, fun r => ?_, hclean⟩
  have hr := hheaders r
  unfold ReadsHeader at hr
  revert hr
  unfold blockFields
  cases fieldValue r (((headerLines (frame.take t)).filter (!·.isEmpty)).map lineField) with
  | none =>
      intro hr
      have hnone : CulpeoMessage.headerValue { kind, body := frame.drop (t + 4) } r = none := by
        cases r <;> rfl
      exact hr.headerValue.trans hnone
  | some value => exact id

end CulpeoStream.Dotnet
