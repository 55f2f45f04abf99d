import CulpeoStream.Message.Grammar

/-!
# The C interface of the parser

`c_api.cpp`.  `culpeo_parse_headers` calls `parse_headers` with the default limits and then
walks the header block a second time, with a loop of its own, to report where the keys and the
values lie in the buffer.

A `string_view` into the buffer is a `StringView`: its bytes and the distance of its first byte
from the start of the buffer.  The pointers of a call are taken to be there.  What a call
writes through them is part of its result, also when it fails.

* `walkLines_spec`: the second walk visits the lines of the grammar and reports each of them
  where it is.
* `culpeoParseHeaders_refines`: the interface agrees with the parser.
-/

namespace CulpeoStream.Message

open Search

/-- `culpeo_header`: where a key and a value lie in the buffer. -/
structure CulpeoHeader where
  keyPtr : UInt32
  keyLen : UInt32
  valPtr : UInt32
  valLen : UInt32
  deriving DecidableEq, Repr

/-- What a call of `culpeo_parse_headers` returns, and what it has written. -/
structure CParse where
  code : ℤ
  bodyOffset : Option ℕ := none
  headersOut : List CulpeoHeader := []
  deriving DecidableEq, Repr

/-! ### Views into the buffer -/

structure StringView where
  data : ℕ
  text : Bytes
  deriving DecidableEq, Repr

namespace StringView

def substr (v : StringView) (pos count : ℕ) : StringView where
  data := v.data + pos
  text := (v.text.drop pos).take count

/-- `remove_prefix(1)` as long as the view starts with a blank. -/
def trimFront (v : StringView) : StringView where
  data := v.data + (v.text.takeWhile isBlank).length
  text := v.text.dropWhile isBlank

/-- `remove_suffix(1)` as long as the view ends with a blank. -/
def trimBack (v : StringView) : StringView where
  data := v.data
  text := v.text.rdropWhile isBlank

end StringView

/-- The entry written for a key and a value. -/
def CulpeoHeader.ofViews (key val : StringView) : CulpeoHeader where
  keyPtr := key.data.toUInt32
  keyLen := key.text.length.toUInt32
  valPtr := val.data.toUInt32
  valLen := val.text.length.toUInt32

/-! ### `culpeo_parse_headers` -/

/-- The loop over the raw header block, with the entries written so far: the return value and
the entries at the end. -/
def walkLines (hblock : Bytes) (maxHeaders : ℤ) :
    ℕ → ℕ → List CulpeoHeader → ℤ × List CulpeoHeader
  | 0, _, out => (out.length, out)
  | fuel + 1, lineStart, out =>
      if lineStart < hblock.length then
        if maxHeaders ≤ out.length then (-3, out)
        else
          let lineEnd := ((find crlf (hblock.drop lineStart)).map (· + lineStart)).getD
            hblock.length
          let line := (StringView.mk 0 hblock).substr lineStart (lineEnd - lineStart)
          let next := if lineEnd < hblock.length then lineEnd + 2 else lineEnd
          if line.text.isEmpty then walkLines hblock maxHeaders fuel next out
          else
            match find [ch ':'] line.text with
            | none => (-2, out)
            | some colon =>
                let key := (line.substr 0 colon).trimBack
                let val := (line.substr (colon + 1) line.text.length).trimFront.trimBack
                walkLines hblock maxHeaders fuel next (out ++ [.ofViews key val])
      else (out.length, out)

def culpeoParseHeaders (buf : Bytes) (maxHeaders : ℤ) : CParse :=
  if maxHeaders ≤ 0 then { code := -2 }
  else
    match parseHeaders .control buf {} with
    | .error .missingHeaderTerminator => { code := -1 }
    | .error .headerBlockTooLarge => { code := -3 }
    | .error _ => { code := -2 }
    | .ok parsed =>
        let walked := walkLines parsed.headerBlock maxHeaders parsed.headerBlock.length 0 []
        { code := walked.1
          -- The body is a suffix of the frame.
          bodyOffset := some (buf.length - parsed.body.length)
          headersOut := walked.2 }

/-! ### Where the views lie -/

namespace StringView

/-- The bytes of the view are those of the block at its place. -/
structure LiesIn (v : StringView) (block : Bytes) : Prop where
  within : v.data + v.text.length ≤ block.length
  denotes : v.text <+: block.drop v.data

variable {v : StringView} {block : Bytes}

theorem liesIn_whole (block : Bytes) : (StringView.mk 0 block).LiesIn block where
  within := by simp
  denotes := List.prefix_rfl

theorem LiesIn.substr (h : v.LiesIn block) {pos : ℕ} (hpos : pos ≤ v.text.length) (count : ℕ) :
    (v.substr pos count).LiesIn block where
  within := by
    have hwithin := h.within
    simp only [StringView.substr, List.length_take, List.length_drop]
    omega
  denotes := by
    show (v.text.drop pos).take count <+: block.drop (v.data + pos)
    rw [← List.drop_drop]
    exact (List.take_prefix _ _).trans (h.denotes.drop pos)

theorem LiesIn.trimFront (h : v.LiesIn block) : v.trimFront.LiesIn block := by
  have hsplit := @List.takeWhile_append_dropWhile _ isBlank v.text
  have hlength := congrArg List.length hsplit
  rw [List.length_append] at hlength
  have hwithin := h.within
  constructor
  · show v.data + (v.text.takeWhile isBlank).length + (v.text.dropWhile isBlank).length ≤ _
    omega
  · show v.text.dropWhile isBlank <+: block.drop (v.data + _)
    have hdrop := @List.drop_left _ (v.text.takeWhile isBlank) (v.text.dropWhile isBlank)
    rw [hsplit] at hdrop
    rw [← List.drop_drop, ← hdrop]
    exact h.denotes.drop _

theorem LiesIn.trimBack (h : v.LiesIn block) : v.trimBack.LiesIn block := by
  have hkept : v.text.rdropWhile isBlank <+: v.text :=
    List.rdropWhile_prefix isBlank v.text
  have hlength := hkept.length_le
  have hwithin := h.within
  constructor
  · show v.data + (v.text.rdropWhile isBlank).length ≤ _
    omega
  · exact hkept.trans h.denotes

end StringView

namespace CulpeoHeader

/-- The key that an entry names in a buffer. -/
def key (h : CulpeoHeader) (buf : Bytes) : Bytes :=
  (buf.drop h.keyPtr.toNat).take h.keyLen.toNat

/-- The value that an entry names in a buffer. -/
def val (h : CulpeoHeader) (buf : Bytes) : Bytes :=
  (buf.drop h.valPtr.toNat).take h.valLen.toNat

/-- The entry lies inside the block and names the field. -/
structure Reports (block : Bytes) (h : CulpeoHeader) (field : HeaderField) : Prop where
  keyWithin : h.keyPtr.toNat + h.keyLen.toNat ≤ block.length
  valWithin : h.valPtr.toNat + h.valLen.toNat ≤ block.length
  key_eq : h.key block = field.name
  val_eq : h.val block = field.value

/-- Views into a block of less than four gigabytes survive the casts. -/
theorem reports_ofViews {block : Bytes} {key val : StringView} (hsmall : block.length < 2 ^ 32)
    (hkey : key.LiesIn block) (hval : val.LiesIn block) :
    Reports block (ofViews key val) ⟨key.text, val.text⟩ := by
  have hcast : ∀ n, n ≤ block.length → n.toUInt32.toNat = n := fun n hn =>
    UInt32.toNat_ofNat_of_lt' (by rw [UInt32.size]; omega)
  have hk := hkey.within
  have hv := hval.within
  have hkeyPtr : (ofViews key val).keyPtr.toNat = key.data := hcast _ (by omega)
  have hkeyLen : (ofViews key val).keyLen.toNat = key.text.length := hcast _ (by omega)
  have hvalPtr : (ofViews key val).valPtr.toNat = val.data := hcast _ (by omega)
  have hvalLen : (ofViews key val).valLen.toNat = val.text.length := hcast _ (by omega)
  refine ⟨by omega, by omega, ?_, ?_⟩
  · rw [CulpeoHeader.key, hkeyPtr, hkeyLen]
    exact (List.prefix_iff_eq_take.mp hkey.denotes).symm
  · rw [CulpeoHeader.val, hvalPtr, hvalLen]
    exact (List.prefix_iff_eq_take.mp hval.denotes).symm

end CulpeoHeader

/-! ### The second walk -/

open CulpeoHeader

/-- A name has no blanks at its end to trim. -/
theorem rdropWhile_name {name : Bytes} (h : ∀ c ∈ name, isTokenChar c = true) :
    name.rdropWhile isBlank = name := by
  rw [List.rdropWhile_eq_self_iff]
  intro hne hblank
  have htoken := h _ (List.getLast_mem hne)
  simp only [isBlank, Bool.or_eq_true, beq_iff_eq] at hblank
  rcases hblank with hblank | hblank <;> rw [hblank] at htoken <;> cases htoken

section Walk

variable {limits : ParseLimits} {block : Bytes} {maxHeaders : ℤ}

/-- **One turn of the second walk** reports the line at the cursor. -/
theorem walkLines_step (hsmall : block.length < 2 ^ 32) {fuel lineStart lineEnd : ℕ}
    {field : HeaderField} (out : List CulpeoHeader) (hstart : lineStart < block.length)
    (hlineEnd : lineEnd = ((find crlf (block.drop lineStart)).map (· + lineStart)).getD
      block.length)
    (hline : HeaderLine limits ((block.drop lineStart).take (lineEnd - lineStart)) field) :
    ∃ h, Reports block h field ∧
      walkLines block maxHeaders (fuel + 1) lineStart out =
        if maxHeaders ≤ out.length then (-3, out)
        else walkLines block maxHeaders fuel
          (if lineEnd < block.length then lineEnd + 2 else lineEnd) (out ++ [h]) := by
  obtain ⟨⟨raw, hsplit, hvalue⟩, hne, htoken, -, -⟩ := hline
  have hlies := (StringView.liesIn_whole block).substr hstart.le (lineEnd - lineStart)
  have htext : ((StringView.mk 0 block).substr lineStart (lineEnd - lineStart)).text =
      field.name ++ ch ':' :: raw := hsplit
  generalize hview : (StringView.mk 0 block).substr lineStart (lineEnd - lineStart) = line
    at hlies htext
  have hcolon : find [ch ':'] line.text = some field.name.length := by
    rw [htext]
    exact find_colon fun hmem => by
      have hbad := htoken _ hmem
      rw [isTokenChar_colon] at hbad
      cases hbad
  have hkey : (line.substr 0 field.name.length).trimBack.text = field.name := by
    show ((line.text.drop 0).take field.name.length).rdropWhile isBlank = field.name
    rw [htext, List.drop_zero, List.take_left, rdropWhile_name htoken]
  have hval : (line.substr (field.name.length + 1) line.text.length).trimFront.trimBack.text =
      field.value := by
    show (((line.text.drop (field.name.length + 1)).take line.text.length).dropWhile
      isBlank).rdropWhile isBlank = field.value
    have hdrop : line.text.drop (field.name.length + 1) = raw := by
      rw [htext, ← List.drop_drop, List.drop_left, List.drop_succ_cons, List.drop_zero]
    rw [hdrop, List.take_of_length_le (by rw [htext]; simp; omega), hvalue, trimAscii]
  refine ⟨.ofViews (line.substr 0 field.name.length).trimBack
    (line.substr (field.name.length + 1) line.text.length).trimFront.trimBack, ?_, ?_⟩
  · have hafter : field.name.length + 1 ≤ line.text.length := by rw [htext]; simp
    have hreports := reports_ofViews hsmall
      (hlies.substr (Nat.zero_le _) field.name.length).trimBack
      (hlies.substr hafter line.text.length).trimFront.trimBack
    rwa [hkey, hval] at hreports
  · have hempty : line.text.isEmpty = false := by rw [htext]; simp
    rw [walkLines, if_pos hstart, ← hlineEnd]
    simp only [hview, hempty, hcolon, Bool.false_eq_true, if_false]

/-- **The second walk reports the lines of the grammar**, unless there are more of them than
the caller has room for. -/
theorem walkLines_spec (hsmall : block.length < 2 ^ 32) :
    ∀ (fuel lineStart : ℕ) (out : List CulpeoHeader) (fields : List HeaderField),
      block.length ≤ fuel + lineStart → ¬ crlf <:+ block.drop lineStart →
      (out.length : ℤ) ≤ maxHeaders →
      List.Forall₂ (HeaderLine limits) (headerLines (block.drop lineStart)) fields →
      ((out.length + fields.length : ℤ) ≤ maxHeaders →
        ∃ hs, walkLines block maxHeaders fuel lineStart out =
          ((out.length + fields.length : ℤ), out ++ hs) ∧ List.Forall₂ (Reports block) hs fields) ∧
      (maxHeaders < out.length + fields.length →
        (walkLines block maxHeaders fuel lineStart out).1 = -3) := by
  intro fuel
  induction fuel with
  | zero =>
      intro lineStart out fields hfuel hend hroom hlines
      have hnil : block.drop lineStart = [] := List.drop_eq_nil_of_le (by omega)
      rw [hnil, headerLines, if_pos rfl] at hlines
      cases hlines
      refine ⟨fun _ => ⟨[], by simp [walkLines], .nil⟩, fun hfull => ?_⟩
      simp only [List.length_nil] at hfull
      omega
  | succ fuel ih =>
      intro lineStart out fields hfuel hend hroom hlines
      by_cases hstart : lineStart < block.length
      · obtain ⟨hle, hbound, hnext, hcut⟩ := headerLines_at_cursor hstart hend rfl
        rw [hcut] at hlines
        cases hlines with
        | @cons _ field _ fields hline hrest =>
            obtain ⟨h, hreports, hstep⟩ :=
              @walkLines_step _ block maxHeaders hsmall fuel lineStart _ field out hstart rfl hline
            generalize ((find crlf (block.drop lineStart)).map (· + lineStart)).getD
              block.length = lineEnd at *
            -- Behind the last line both cursors are at the end of the block.
            have hsame : block.drop (if lineEnd < block.length then lineEnd + 2 else lineEnd) =
                block.drop (lineEnd + 2) := by
              split
              · rfl
              · rw [List.drop_eq_nil_of_le (by omega), List.drop_eq_nil_of_le (by omega)]
            have hfuel' : block.length ≤
                fuel + (if lineEnd < block.length then lineEnd + 2 else lineEnd) := by
              split <;> omega
            rw [hstep, List.length_cons]
            by_cases hfull : maxHeaders ≤ out.length
            · rw [if_pos hfull]
              exact ⟨fun hfits => by omega, fun _ => rfl⟩
            · rw [if_neg hfull]
              have hlength : ((out ++ [h]).length : ℤ) = out.length + 1 := by simp
              obtain ⟨hok, hthree⟩ := ih _ (out ++ [h]) fields hfuel' (by rwa [hsame])
                (by omega) (by rwa [hsame])
              refine ⟨fun hfits => ?_, fun hmore => hthree (by omega)⟩
              obtain ⟨hs, hwalk, hall⟩ := hok (by omega)
              refine ⟨h :: hs, ?_, .cons hreports hall⟩
              rw [hwalk, hlength, List.append_assoc, List.singleton_append]
              exact Prod.ext (by push_cast; omega) rfl
      · have hnil : block.drop lineStart = [] := List.drop_eq_nil_of_le (by omega)
        rw [hnil, headerLines, if_pos rfl] at hlines
        cases hlines
        refine ⟨fun _ => ⟨[], by simp [walkLines, hstart], .nil⟩, fun hfull => ?_⟩
        simp only [List.length_nil] at hfull
        omega

end Walk

/-! ### Refinement -/

/-- The entry lies inside the block and names the parts of the line: what stands before the
first colon, and what stands behind it without the blanks around it. -/
structure CulpeoHeader.ReportsLine (buf block line : Bytes) (h : CulpeoHeader) : Prop where
  keyWithin : h.keyPtr.toNat + h.keyLen.toNat ≤ block.length
  valWithin : h.valPtr.toNat + h.valLen.toNat ≤ block.length
  split : ∃ raw, line = h.key buf ++ ch ':' :: raw ∧ ch ':' ∉ h.key buf ∧
    h.val buf = trimAscii raw

/-- A slice that ends inside the block is the same in the buffer. -/
theorem slice_take {buf : Bytes} {t ptr len : ℕ} (h : ptr + len ≤ (buf.take t).length) :
    ((buf.take t).drop ptr).take len = (buf.drop ptr).take len := by
  rw [List.length_take] at h
  rw [List.drop_take, List.take_take, Nat.min_eq_left (by omega)]

theorem CulpeoHeader.Reports.in_buffer {buf : Bytes} {t : ℕ} {h : CulpeoHeader}
    {field : HeaderField} (hreports : Reports (buf.take t) h field) :
    h.key buf = field.name ∧ h.val buf = field.value :=
  ⟨(slice_take hreports.keyWithin).symm.trans hreports.key_eq,
    (slice_take hreports.valWithin).symm.trans hreports.val_eq⟩

theorem CulpeoHeader.Reports.line {limits : ParseLimits} {buf line : Bytes} {t : ℕ}
    {h : CulpeoHeader} {field : HeaderField} (hreports : Reports (buf.take t) h field)
    (hline : HeaderLine limits line field) : ReportsLine buf (buf.take t) line h := by
  obtain ⟨hkey, hval⟩ := hreports.in_buffer
  obtain ⟨raw, hsplit, hvalue⟩ := hline.split
  refine ⟨hreports.keyWithin, hreports.valWithin, raw, by rw [hkey, hsplit], ?_,
    by rw [hval, hvalue]⟩
  rw [hkey]
  exact notMem_of_validHeaderName (validHeaderName_iff.mpr ⟨hline.name_ne_nil, hline.token⟩)
    isTokenChar_colon

/-- The reserved headers among the entries are the slots of the parser. -/
theorem fieldValue_of_reports {buf : Bytes} {t : ℕ} {hs : List CulpeoHeader}
    {fields : List HeaderField} (hall : List.Forall₂ (Reports (buf.take t)) hs fields)
    {r : Reserved} (hunique : (fieldsOf r fields).length ≤ 1) :
    (∀ h ∈ hs, iequalsAscii (h.key buf) r.headerName = true →
      fieldValue r fields = some (h.val buf)) ∧
    ((∀ h ∈ hs, iequalsAscii (h.key buf) r.headerName = false) → fieldValue r fields = none) := by
  induction hall with
  | nil => simp [fieldValue, fieldsOf]
  | @cons h field hs fields hreports hall ih =>
      obtain ⟨hkey, hval⟩ := hreports.in_buffer
      rw [fieldsOf_cons] at hunique
      rw [fieldValue_cons]
      simp only [List.forall_mem_cons, hkey, hval]
      by_cases hname : reservedOf field.name = some r
      · rw [if_pos hname, List.length_cons] at hunique
        have hname' := reservedOf_eq_some_iff.mp hname
        have hnone : fieldsOf r fields = [] := List.length_eq_zero_iff.mp (by omega)
        simp only [if_pos hname, hname', true_implies, Bool.true_eq_false, false_and, false_implies,
          and_true, true_and]
        -- Another entry of this name would be a second field of it.
        intro h' hmem hname''
        have hother := (ih (by omega)).1 h' hmem hname''
        rw [fieldValue, hnone] at hother
        cases hother
      · rw [if_neg hname] at hunique ⊢
        have hname' : iequalsAscii field.name r.headerName = false := by
          rw [reservedOf_eq_some_iff] at hname
          simpa using hname
        simpa [hname'] using ih hunique

/-- What the second walk makes of a frame that `parse_headers` has accepted. -/
theorem walkLines_of_denotes {buf : Bytes} {t : ℕ} {fields : List HeaderField} {maxHeaders : ℤ}
    (hmax : 1 ≤ maxHeaders) (hden : Denotes {} buf t fields) :
    ((fields.length : ℤ) ≤ maxHeaders →
      ∃ hs, walkLines (buf.take t) maxHeaders (buf.take t).length 0 [] = ((fields.length : ℤ), hs) ∧
        List.Forall₂ (Reports (buf.take t)) hs fields) ∧
    (maxHeaders < fields.length →
      (walkLines (buf.take t) maxHeaders (buf.take t).length 0 []).1 = -3) := by
  have hsmall : (buf.take t).length < 2 ^ 32 := by
    have hwithin : t ≤ 8192 := hden.within
    rw [List.length_take]
    omega
  have hspec := @walkLines_spec {} (buf.take t) maxHeaders hsmall (buf.take t).length 0 [] fields
    (by omega) (by simpa using not_crlf_suffix_of_isFirst hden.terminator) (by simp; omega)
    (by simpa using hden.lines)
  simpa using hspec

/-- The return value for an error of `parse_headers`. -/
def codeOfError : Error → ℤ
  | .missingHeaderTerminator => -1
  | .headerBlockTooLarge => -3
  | _ => -2

section Interface

variable {buf : Bytes} {maxHeaders : ℤ} {parsed : ParsedHeadersView}

theorem culpeoParseHeaders_of_error (hmax : 1 ≤ maxHeaders) {e : Error}
    (h : parseHeaders .control buf {} = .error e) :
    (culpeoParseHeaders buf maxHeaders).code = codeOfError e := by
  rw [culpeoParseHeaders, if_neg (by omega), h]
  cases e <;> rfl

/-- **The interface on an accepted frame.** -/
theorem culpeoParseHeaders_of_ok (hmax : 1 ≤ maxHeaders)
    (h : parseHeaders .control buf {} = .ok parsed) :
    (((headerLines parsed.headerBlock).length : ℤ) ≤ maxHeaders →
      (culpeoParseHeaders buf maxHeaders).code = (headerLines parsed.headerBlock).length ∧
      ∃ t, IsFirst crlfcrlf buf t ∧ parsed.headerBlock = buf.take t ∧
        (culpeoParseHeaders buf maxHeaders).bodyOffset = some (t + 4) ∧
        List.Forall₂ (CulpeoHeader.ReportsLine buf parsed.headerBlock)
          (headerLines parsed.headerBlock) (culpeoParseHeaders buf maxHeaders).headersOut ∧
        ∀ r : Reserved,
          (∀ h ∈ (culpeoParseHeaders buf maxHeaders).headersOut,
            iequalsAscii (h.key buf) r.headerName = true → parsed.slot r = some (h.val buf)) ∧
          ((∀ h ∈ (culpeoParseHeaders buf maxHeaders).headersOut,
            iequalsAscii (h.key buf) r.headerName = false) → parsed.slot r = none)) ∧
    (maxHeaders < (headerLines parsed.headerBlock).length →
      (culpeoParseHeaders buf maxHeaders).code = -3) := by
  obtain ⟨t, fields, hden, hfill⟩ := (parseHeaders_ok_iff (by decide)).mp h
  have hblock : parsed.headerBlock = buf.take t := hfill.headerBlock
  have hbody : parsed.body = buf.drop (t + 4) := hfill.body
  have hslots : ∀ r, parsed.slot r = fieldValue r fields := by
    intro r
    rw [hfill.slots r]
    cases r <;> rfl
  have hlength : (headerLines (buf.take t)).length = fields.length := hden.lines.length_eq
  have hend : t + 4 ≤ buf.length := hden.terminator.add_length_le
  obtain ⟨hfits, hfull⟩ := walkLines_of_denotes hmax hden
  rw [culpeoParseHeaders, if_neg (by omega), h, hblock, hlength]
  simp only [hblock]
  refine ⟨fun hroom => ?_, hfull⟩
  obtain ⟨hs, hwalk, hall⟩ := hfits hroom
  rw [hwalk]
  refine ⟨rfl, t, hden.terminator, rfl, ?_, ?_, fun r => ?_⟩
  · rw [hbody, List.length_drop]
    congr 1
    omega
  · have hlines := hden.lines
    clear hlength
    generalize headerLines (buf.take t) = lines at hlines
    clear hwalk hroom hfits hfull hslots hfill hden
    induction hlines generalizing hs with
    | nil =>
        cases hall
        exact .nil
    | cons hline _ ih =>
        cases hall with
        | cons hreports hall => exact .cons (hreports.line hline) (ih _ hall)
  · rw [hslots]
    exact fieldValue_of_reports hall (hden.unique r)

/-- **The C interface refines the parser.**  It returns a count exactly when `parse_headers`
accepts the buffer and the caller has room for its header lines; the count is their number,
the body begins behind the terminator, the entries name the parts of the lines in order, and
the reserved slots are among them.  Each failure of the parser has its code. -/
theorem culpeoParseHeaders_refines (buf : Bytes) (maxHeaders : ℤ) (hmax : 1 ≤ maxHeaders) :
    (∀ n : ℕ, (culpeoParseHeaders buf maxHeaders).code = n ↔
      ∃ parsed, parseHeaders .control buf {} = .ok parsed ∧
        (headerLines parsed.headerBlock).length = n ∧ (n : ℤ) ≤ maxHeaders) ∧
    (∀ parsed, parseHeaders .control buf {} = .ok parsed →
      ((headerLines parsed.headerBlock).length : ℤ) ≤ maxHeaders →
      ∃ t, IsFirst crlfcrlf buf t ∧ parsed.headerBlock = buf.take t ∧
        (culpeoParseHeaders buf maxHeaders).bodyOffset = some (t + 4) ∧
        List.Forall₂ (CulpeoHeader.ReportsLine buf parsed.headerBlock)
          (headerLines parsed.headerBlock) (culpeoParseHeaders buf maxHeaders).headersOut ∧
        ∀ r : Reserved,
          (∀ h ∈ (culpeoParseHeaders buf maxHeaders).headersOut,
            iequalsAscii (h.key buf) r.headerName = true → parsed.slot r = some (h.val buf)) ∧
          ((∀ h ∈ (culpeoParseHeaders buf maxHeaders).headersOut,
            iequalsAscii (h.key buf) r.headerName = false) → parsed.slot r = none)) ∧
    ((culpeoParseHeaders buf maxHeaders).code = -1 ↔
      parseHeaders .control buf {} = .error .missingHeaderTerminator) ∧
    ((culpeoParseHeaders buf maxHeaders).code = -3 ↔
      parseHeaders .control buf {} = .error .headerBlockTooLarge ∨
      ∃ parsed, parseHeaders .control buf {} = .ok parsed ∧
        maxHeaders < (headerLines parsed.headerBlock).length) ∧
    ((culpeoParseHeaders buf maxHeaders).code = -2 ↔
      ∃ e, parseHeaders .control buf {} = .error e ∧ e ≠ .missingHeaderTerminator ∧
        e ≠ .headerBlockTooLarge) := by
  cases h : parseHeaders .control buf {} with
  | error e =>
      rw [culpeoParseHeaders_of_error hmax h]
      cases e <;> simp [codeOfError]
  | ok parsed =>
      obtain ⟨hfits, hfull⟩ := culpeoParseHeaders_of_ok hmax h
      simp only [Except.ok.injEq, exists_eq_left', forall_eq', reduceCtorEq, false_or, false_and,
        exists_false, iff_false]
      refine ⟨fun n => ?_, fun hroom => (hfits hroom).2, ?_, ?_, ?_⟩
      all_goals
        by_cases hroom : ((headerLines parsed.headerBlock).length : ℤ) ≤ maxHeaders
        · rw [(hfits hroom).1]
          omega
        · rw [hfull (by omega)]
          omega

end Interface

/-- Two headers, one of them reserved, in a buffer with room for four. -/
theorem culpeoParseHeaders_refines_example :
    (culpeoParseHeaders (ascii "Event : culpeo.ping\r\n\r\n") 4).code = -2 ∧
    ((culpeoParseHeaders (ascii "Event: culpeo.ping\r\nX-Trace:7\r\n\r\n\x7b\x7d") 4).code =
        (2 : ℕ) ↔
      ∃ parsed, parseHeaders .control
          (ascii "Event: culpeo.ping\r\nX-Trace:7\r\n\r\n\x7b\x7d") {} = .ok parsed ∧
        (headerLines parsed.headerBlock).length = 2 ∧ ((2 : ℕ) : ℤ) ≤ 4) :=
  ⟨by decide, (culpeoParseHeaders_refines _ 4 (by decide)).1 2⟩

end CulpeoStream.Message
