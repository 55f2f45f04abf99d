import CulpeoStream.Lib.Strip
import Mathlib.Tactic.Tauto

/-!
# Words with parameters

Over an arbitrary alphabet: a word, and after it parameters `name=value`, each behind a
semicolon, with any number of spaces before and after the semicolons and the equals signs.

Such a text is cut at the semicolons into a piece for the word and one for each parameter
(`splitOn_write`).  A piece that is trimmed is cut at the equals sign into a name and a value
(`find_core`, `strip_name`, `strip_value`).  What is written differs for different parameters
and spaces (`write_inj`), and a map of the alphabet that keeps the marks can be applied to the
words instead (`map_write`).
-/

namespace Parameters

open Search Strip

universe u v

variable {α : Type u} {β : Type v}

/-- The marks between words. -/
structure Marks (α : Type u) where
  semicolon : α
  equals : α
  space : α
  word : α → Prop
  not_semicolon : ¬ word semicolon
  not_equals : ¬ word equals
  not_space : ¬ word space
  semicolon_ne_equals : semicolon ≠ equals
  semicolon_ne_space : semicolon ≠ space
  equals_ne_space : equals ≠ space

/-- A parameter with the numbers of spaces around its semicolon and its equals sign. -/
@[ext]
structure Param (α : Type u) where
  before : ℕ := 0
  after : ℕ := 0
  name : List α
  beforeEquals : ℕ := 0
  afterEquals : ℕ := 0
  value : List α
  deriving DecidableEq, Repr

namespace Param

/-- The numbers of spaces. -/
def spaces (p : Param α) : ℕ × ℕ × ℕ × ℕ := (p.before, p.after, p.beforeEquals, p.afterEquals)

def map (f : α → β) (p : Param α) : Param β :=
  { before := p.before, after := p.after, name := p.name.map f
    beforeEquals := p.beforeEquals, afterEquals := p.afterEquals, value := p.value.map f }

theorem map_eq_iff {f : α → β} {p q : Param α} :
    p.map f = q.map f ↔
      p.name.map f = q.name.map f ∧ p.spaces = q.spaces ∧ p.value.map f = q.value.map f := by
  simp only [Param.ext_iff, map, spaces, Prod.mk.injEq]
  tauto

/-- Parameters one by one: the names, the spaces and the values. -/
theorem map_map_eq_iff {f : α → β} {ps qs : List (Param α)} :
    ps.map (map f) = qs.map (map f) ↔
      (ps.map fun p => p.name.map f) = (qs.map fun q => q.name.map f) ∧
        ps.map spaces = qs.map spaces ∧
          (ps.map fun p => p.value.map f) = qs.map fun q => q.value.map f := by
  induction ps generalizing qs with
  | nil => cases qs <;> simp
  | cons p ps ih =>
      cases qs with
      | nil => simp
      | cons q qs =>
          simp only [List.map_cons, List.cons.injEq, map_eq_iff, ih]
          tauto

end Param

namespace Marks

variable (m : Marks α)

def Word (x : List α) : Prop := x ≠ [] ∧ ∀ c ∈ x, m.word c

def WordParam (p : Param α) : Prop := m.Word p.name ∧ m.Word p.value

def blank (n : ℕ) : List α := List.replicate n m.space

/-- A parameter from its name to its value. -/
def core (p : Param α) : List α :=
  p.name ++ (m.blank p.beforeEquals ++ m.equals :: (m.blank p.afterEquals ++ p.value))

/-- What stands behind the semicolon of a parameter. -/
def body (p : Param α) : List α := m.blank p.after ++ m.core p

/-- A text and the parameters after it. -/
def write : List α → List (Param α) → List α
  | head, [] => head
  | head, p :: ps => head ++ (m.blank p.before ++ m.semicolon :: write (m.body p) ps)

/-- The stretches between the semicolons. -/
def pieces : List α → List (Param α) → List (List α)
  | head, [] => [head]
  | head, p :: ps => (head ++ m.blank p.before) :: pieces (m.body p) ps

/-- A text that begins and ends with a character of a word. -/
def Tight (x : List α) : Prop := (∃ c ∈ x.head?, m.word c) ∧ ∃ c ∈ x.getLast?, m.word c

variable {m}

theorem Word.tight {x : List α} (h : m.Word x) : m.Tight x := by
  obtain ⟨hne, hall⟩ := h
  exact ⟨⟨x.head hne, List.head?_eq_some_head hne, hall _ (List.head_mem hne)⟩,
    x.getLast hne, List.getLast?_eq_some_getLast hne, hall _ (List.getLast_mem hne)⟩

theorem WordParam.tight {p : Param α} (h : m.WordParam p) : m.Tight (m.core p) := by
  obtain ⟨⟨c, hc, hword⟩, -⟩ := h.1.tight
  obtain ⟨-, d, hd, hword'⟩ := h.2.tight
  refine ⟨⟨c, ?_, hword⟩, d, ?_, hword'⟩
  · exact List.mem_head?_append_of_mem_head? hc
  · have hvalue : m.core p = (p.name ++ (m.blank p.beforeEquals ++ m.equals ::
        m.blank p.afterEquals)) ++ p.value := by simp [core]
    rw [hvalue]
    exact List.mem_getLast?_append_of_mem_getLast? hd

theorem blank_zero : m.blank 0 = [] := rfl

theorem mem_blank {n : ℕ} {c : α} (h : c ∈ m.blank n) : c = m.space :=
  List.eq_of_mem_replicate h

theorem Word.notMem {x : List α} (h : m.Word x) {c : α} (hc : ¬ m.word c) : c ∉ x :=
  fun hmem => hc (h.2 c hmem)

theorem semicolon_notMem_blank (n : ℕ) : m.semicolon ∉ m.blank n :=
  fun h => m.semicolon_ne_space (mem_blank h)

theorem equals_notMem_blank (n : ℕ) : m.equals ∉ m.blank n :=
  fun h => m.equals_ne_space (mem_blank h)

theorem WordParam.semicolon_notMem {p : Param α} (h : m.WordParam p) :
    m.semicolon ∉ m.body p := by
  simp only [body, core, List.mem_append, List.mem_cons, not_or]
  exact ⟨semicolon_notMem_blank _, h.1.notMem m.not_semicolon, semicolon_notMem_blank _,
    m.semicolon_ne_equals, semicolon_notMem_blank _, h.2.notMem m.not_semicolon⟩

theorem last_write {head : List α} {ps : List (Param α)} (hhead : ∃ c ∈ head.getLast?, m.word c)
    (hps : ∀ p ∈ ps, m.WordParam p) : ∃ c ∈ (m.write head ps).getLast?, m.word c := by
  induction ps generalizing head with
  | nil => exact hhead
  | cons p ps ih =>
      rw [List.forall_mem_cons] at hps
      obtain ⟨-, c, hc, hword⟩ := hps.1.tight
      obtain ⟨d, hd, hword'⟩ := ih ⟨c, List.mem_getLast?_append_of_mem_getLast? hc, hword⟩ hps.2
      have hwrite : m.write head (p :: ps) =
          (head ++ (m.blank p.before ++ [m.semicolon])) ++ m.write (m.body p) ps := by
        simp [write]
      rw [hwrite]
      exact ⟨d, List.mem_getLast?_append_of_mem_getLast? hd, hword'⟩

/-- The whole text begins and ends with a word. -/
theorem tight_write {head : List α} {ps : List (Param α)} (hhead : m.Tight head)
    (hps : ∀ p ∈ ps, m.WordParam p) : m.Tight (m.write head ps) := by
  refine ⟨?_, last_write hhead.2 hps⟩
  cases ps with
  | nil => exact hhead.1
  | cons p ps =>
      obtain ⟨c, hc, hword⟩ := hhead.1
      exact ⟨c, List.mem_head?_append_of_mem_head? hc, hword⟩

/-- What is written consists of the marks and the characters of words. -/
theorem forall_mem_write {P : α → Prop} (hsemicolon : P m.semicolon) (hequals : P m.equals)
    (hspace : P m.space) (hword : ∀ c, m.word c → P c) {head : List α} {ps : List (Param α)}
    (hhead : ∀ c ∈ head, P c) (hps : ∀ p ∈ ps, m.WordParam p) : ∀ c ∈ m.write head ps, P c := by
  have hblank : ∀ n, ∀ c ∈ m.blank n, P c := by
    intro n c hc
    rw [mem_blank hc]
    exact hspace
  induction ps generalizing head with
  | nil => exact hhead
  | cons p ps ih =>
      rw [List.forall_mem_cons] at hps
      have hbody : ∀ c ∈ m.body p, P c := by
        simp only [body, core, List.forall_mem_append, List.forall_mem_cons]
        exact ⟨hblank _, fun c hc => hword c (hps.1.1.2 c hc), hblank _, hequals, hblank _,
          fun c hc => hword c (hps.1.2.2 c hc)⟩
      simp only [write, List.forall_mem_append, List.forall_mem_cons]
      exact ⟨hhead, hblank _, hsemicolon, ih hbody hps.2⟩

/-! ### Cutting at the marks -/

section Cut

variable [DecidableEq α]

/-- **Pieces.**  A text is cut at its semicolons. -/
theorem splitOn_write {head : List α} {ps : List (Param α)} (hhead : m.semicolon ∉ head)
    (hps : ∀ p ∈ ps, m.WordParam p) :
    splitOn [m.semicolon] (m.write head ps) = m.pieces head ps := by
  induction ps generalizing head with
  | nil => exact splitOn_mark_none hhead
  | cons p ps ih =>
      rw [List.forall_mem_cons] at hps
      have hnot : m.semicolon ∉ head ++ m.blank p.before := by
        rw [List.mem_append, not_or]
        exact ⟨hhead, semicolon_notMem_blank _⟩
      rw [write, pieces, ← List.append_assoc, splitOn_mark hnot,
        ih hps.1.semicolon_notMem hps.2]

/-- Where the equals sign is. -/
theorem find_core {p : Param α} (h : m.WordParam p) :
    find [m.equals] (m.core p) = some (p.name ++ m.blank p.beforeEquals).length := by
  have hnot : m.equals ∉ p.name ++ m.blank p.beforeEquals := by
    rw [List.mem_append, not_or]
    exact ⟨h.1.notMem m.not_equals, equals_notMem_blank _⟩
  rw [core, ← List.append_assoc]
  exact find_mark hnot _

end Cut

theorem take_core (p : Param α) :
    (m.core p).take (p.name ++ m.blank p.beforeEquals).length =
      p.name ++ m.blank p.beforeEquals := by
  rw [core, ← List.append_assoc, List.take_left]

theorem drop_core (p : Param α) :
    (m.core p).drop ((p.name ++ m.blank p.beforeEquals).length + 1) =
      m.blank p.afterEquals ++ p.value := by
  rw [core, ← List.append_assoc, ← List.drop_drop, List.drop_left]
  rfl

/-! ### Trimming -/

section Strip

variable {blankChar : α → Bool} (hspace : blankChar m.space = true)
  (hword : ∀ c, m.word c → blankChar c = false)
include hspace hword

/-- Spaces around a text that begins and ends with characters of words. -/
theorem strip_tight {x : List α} (h : m.Tight x) (n k : ℕ) :
    strip blankChar (m.blank n ++ (x ++ m.blank k)) = x := by
  obtain ⟨⟨c, hc, hcword⟩, d, hd, hdword⟩ := h
  have hblank : ∀ n, ∀ e ∈ m.blank n, blankChar e = true := by
    intro n e he
    rw [mem_blank he]
    exact hspace
  rw [strip_append_left (hblank n), strip_append_right (hblank k)]
  refine strip_eq_self (fun e he => ?_) fun e he => ?_
  · rw [Option.mem_unique he hc]
    exact hword c hcword
  · rw [Option.mem_unique he hd]
    exact hword d hdword

theorem strip_name {p : Param α} (h : m.WordParam p) :
    strip blankChar (p.name ++ m.blank p.beforeEquals) = p.name :=
  strip_tight hspace hword h.1.tight 0 _

theorem strip_value {p : Param α} (h : m.WordParam p) :
    strip blankChar (m.blank p.afterEquals ++ p.value) = p.value := by
  have hstrip := strip_tight hspace hword h.2.tight p.afterEquals 0
  rwa [blank_zero, List.append_nil] at hstrip

/-- The pieces without the spaces at their ends. -/
theorem map_strip_pieces {head : List α} {ps : List (Param α)} (hhead : m.Tight head)
    (hps : ∀ p ∈ ps, m.WordParam p) (n : ℕ) :
    (m.pieces (m.blank n ++ head) ps).map (strip blankChar) = head :: ps.map m.core := by
  induction ps generalizing head n with
  | nil =>
      have hstrip := strip_tight hspace hword hhead n 0
      rw [blank_zero, List.append_nil] at hstrip
      rw [pieces, List.map_cons, hstrip]
      rfl
  | cons p ps ih =>
      rw [List.forall_mem_cons] at hps
      rw [pieces, List.map_cons, List.append_assoc, strip_tight hspace hword hhead, body,
        ih hps.1.tight hps.2, List.map_cons]

end Strip

/-! ### Reading the parts back -/

section Injective

/-- Spaces in front of a text that does not begin with one. -/
theorem blank_append_inj {n k : ℕ} {x y : List α} (hx : ∃ c ∈ x.head?, m.word c)
    (hy : ∃ c ∈ y.head?, m.word c) (h : m.blank n ++ x = m.blank k ++ y) : n = k ∧ x = y := by
  have hhead : ∀ {z : List α}, (∃ c ∈ z.head?, m.word c) → ∀ {l}, z ≠ m.space :: l := by
    rintro z ⟨c, hc, hword⟩ l rfl
    cases hc
    exact m.not_space hword
  induction n generalizing k with
  | zero =>
      cases k with
      | zero => exact ⟨rfl, h⟩
      | succ k => exact absurd h (hhead hx)
  | succ n ih =>
      cases k with
      | zero => exact absurd h.symm (hhead hy)
      | succ k =>
          obtain ⟨rfl, rfl⟩ := ih (List.cons.inj h).2
          exact ⟨rfl, rfl⟩

/-- Spaces behind a text that does not end with one. -/
theorem append_blank_inj {n k : ℕ} {x y : List α} (hx : ∃ c ∈ x.getLast?, m.word c)
    (hy : ∃ c ∈ y.getLast?, m.word c) (h : x ++ m.blank n = y ++ m.blank k) : x = y ∧ n = k := by
  rw [← List.head?_reverse] at hx hy
  have hflip := congrArg List.reverse h
  rw [List.reverse_append, List.reverse_append, blank, blank, List.reverse_replicate,
    List.reverse_replicate] at hflip
  obtain ⟨rfl, hxy⟩ := blank_append_inj hx hy hflip
  exact ⟨List.reverse_injective hxy, rfl⟩

/-- What stands before and behind the first equals sign. -/
theorem append_equals_inj {x y l r : List α} (hx : m.equals ∉ x) (hy : m.equals ∉ y)
    (h : x ++ m.equals :: l = y ++ m.equals :: r) : x = y ∧ l = r := by
  induction x generalizing y with
  | nil =>
      cases y with
      | nil => exact ⟨rfl, (List.cons.inj h).2⟩
      | cons d y =>
          rw [(List.cons.inj h).1] at hy
          exact absurd List.mem_cons_self hy
  | cons c x ih =>
      cases y with
      | nil =>
          rw [(List.cons.inj h).1] at hx
          exact absurd List.mem_cons_self hx
      | cons d y =>
          obtain ⟨hcd, hrest⟩ := List.cons.inj h
          obtain ⟨hxy, hlr⟩ := ih (List.not_mem_of_not_mem_cons hx)
            (List.not_mem_of_not_mem_cons hy) hrest
          rw [hcd, hxy]
          exact ⟨rfl, hlr⟩

theorem WordParam.equals_notMem {p : Param α} (h : m.WordParam p) :
    m.equals ∉ p.name ++ m.blank p.beforeEquals := by
  rw [List.mem_append, not_or]
  exact ⟨h.1.notMem m.not_equals, equals_notMem_blank _⟩

theorem core_inj {p q : Param α} (hp : m.WordParam p) (hq : m.WordParam q)
    (h : m.core p = m.core q) : p.name = q.name ∧ p.beforeEquals = q.beforeEquals ∧
      p.afterEquals = q.afterEquals ∧ p.value = q.value := by
  rw [core, core, ← List.append_assoc, ← List.append_assoc] at h
  obtain ⟨hfront, hback⟩ := append_equals_inj hp.equals_notMem hq.equals_notMem h
  obtain ⟨hname, hbefore⟩ := append_blank_inj hp.1.tight.2 hq.1.tight.2 hfront
  obtain ⟨hafter, hvalue⟩ := blank_append_inj hp.2.tight.1 hq.2.tight.1 hback
  exact ⟨hname, hbefore, hafter, hvalue⟩

theorem pieces_ne_nil (head : List α) (ps : List (Param α)) : m.pieces head ps ≠ [] := by
  cases ps <;> exact List.cons_ne_nil _ _

theorem pieces_inj {head head' : List α} {ps qs : List (Param α)} {n k : ℕ}
    (hhead : m.Tight head) (hhead' : m.Tight head') (hps : ∀ p ∈ ps, m.WordParam p)
    (hqs : ∀ q ∈ qs, m.WordParam q)
    (h : m.pieces (m.blank n ++ head) ps = m.pieces (m.blank k ++ head') qs) :
    n = k ∧ head = head' ∧ ps = qs := by
  induction ps generalizing head head' qs n k with
  | nil =>
      cases qs with
      | nil =>
          obtain ⟨hn, hh⟩ := blank_append_inj hhead.1 hhead'.1 (List.cons.inj h).1
          exact ⟨hn, hh, rfl⟩
      | cons q qs => exact absurd (List.cons.inj h).2.symm (pieces_ne_nil _ _)
  | cons p ps ih =>
      cases qs with
      | nil => exact absurd (List.cons.inj h).2 (pieces_ne_nil _ _)
      | cons q qs =>
          rw [List.forall_mem_cons] at hps hqs
          obtain ⟨hfirst, hrest⟩ := List.cons.inj h
          rw [List.append_assoc, List.append_assoc] at hfirst
          have hbegins : ∀ {z : List α}, m.Tight z → ∀ l, ∃ c ∈ (z ++ l).head?, m.word c := by
            rintro z ⟨⟨c, hc, hword⟩, -⟩ l
            exact ⟨c, List.mem_head?_append_of_mem_head? hc, hword⟩
          obtain ⟨rfl, hpiece⟩ := blank_append_inj (hbegins hhead _) (hbegins hhead' _) hfirst
          obtain ⟨rfl, hbefore⟩ := append_blank_inj hhead.2 hhead'.2 hpiece
          obtain ⟨hafter, hcore, rfl⟩ := ih hps.1.tight hqs.1.tight hps.2 hqs.2 hrest
          obtain ⟨hname, hbeforeEquals, hafterEquals, hvalue⟩ := core_inj hps.1 hqs.1 hcore
          have hparam : p = q :=
            Param.ext hbefore hafter hname hbeforeEquals hafterEquals hvalue
          exact ⟨rfl, rfl, congrArg (· :: ps) hparam⟩

/-- **Reading back.**  What is written tells the word, the parameters and the spaces. -/
theorem write_inj {head head' : List α} {ps qs : List (Param α)} (hhead : m.Word head)
    (hhead' : m.Word head') (hps : ∀ p ∈ ps, m.WordParam p) (hqs : ∀ q ∈ qs, m.WordParam q)
    (h : m.write head ps = m.write head' qs) : head = head' ∧ ps = qs := by
  classical
  have hcut := congrArg (splitOn [m.semicolon]) h
  rw [splitOn_write (hhead.notMem m.not_semicolon) hps,
    splitOn_write (hhead'.notMem m.not_semicolon) hqs] at hcut
  exact (pieces_inj (n := 0) (k := 0) hhead.tight hhead'.tight hps hqs hcut).2

end Injective

/-! ### Maps of the alphabet -/

/-- A map that keeps the marks, and the characters of words. -/
structure Maps (m : Marks α) (m' : Marks β) (f : α → β) : Prop where
  semicolon : f m.semicolon = m'.semicolon
  equals : f m.equals = m'.equals
  space : f m.space = m'.space
  word : ∀ c, m.word c → m'.word (f c)

section Maps

variable {m' : Marks β} {f : α → β} (h : m.Maps m' f)
include h

theorem Maps.blank (n : ℕ) : (m.blank n).map f = m'.blank n := by
  rw [Marks.blank, List.map_replicate, h.space, Marks.blank]

theorem Maps.body (p : Param α) : (m.body p).map f = m'.body (p.map f) := by
  rw [Marks.body, Marks.core, List.map_append, List.map_append, List.map_append, List.map_cons,
    List.map_append, h.blank, h.blank, h.blank, h.equals]
  rfl

theorem map_write (head : List α) (ps : List (Param α)) :
    (m.write head ps).map f = m'.write (head.map f) (ps.map (Param.map f)) := by
  induction ps generalizing head with
  | nil => rfl
  | cons p ps ih =>
      rw [write, List.map_append, List.map_append, List.map_cons, h.blank, h.semicolon, ih,
        h.body]
      rfl

theorem Maps.map_word {x : List α} (hx : m.Word x) : m'.Word (x.map f) := by
  refine ⟨fun hnil => hx.1 (List.map_eq_nil_iff.mp hnil), fun d hd => ?_⟩
  obtain ⟨c, hc, rfl⟩ := List.mem_map.mp hd
  exact h.word c (hx.2 c hc)

theorem Maps.map_wordParam {p : Param α} (hp : m.WordParam p) : m'.WordParam (p.map f) :=
  ⟨h.map_word hp.1, h.map_word hp.2⟩

end Maps

end Marks

/-! ### Names that differ -/

/-- Pairs with different names, in the order of the same pairs. -/
theorem eq_of_subset_of_map_fst {l l' : List (α × β)} (hnodup : (l.map Prod.fst).Nodup)
    (hfst : l.map Prod.fst = l'.map Prod.fst) (hsubset : ∀ e ∈ l, e ∈ l') : l = l' := by
  induction l generalizing l' with
  | nil => exact (List.map_eq_nil_iff.mp hfst.symm).symm
  | cons e l ih =>
      cases l' with
      | nil => cases hfst
      | cons e' l' =>
          rw [List.map_cons, List.nodup_cons] at hnodup
          rw [List.map_cons, List.map_cons] at hfst
          obtain ⟨hname, hnames⟩ := List.cons.inj hfst
          rw [List.forall_mem_cons] at hsubset
          have heq : e = e' := by
            refine (List.mem_cons.mp hsubset.1).resolve_right fun hmem => hnodup.1 ?_
            rw [hnames]
            exact List.mem_map_of_mem hmem
          have htail : ∀ x ∈ l, x ∈ l' := by
            intro x hx
            refine (List.mem_cons.mp (hsubset.2 x hx)).resolve_left fun hx' => hnodup.1 ?_
            rw [hname, ← hx']
            exact List.mem_map_of_mem hx
          rw [heq, ih hnodup.2 hnames htail]

end Parameters
