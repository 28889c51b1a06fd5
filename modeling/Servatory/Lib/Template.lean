import Mathlib.Data.List.Basic
import Mathlib.Data.List.Infix

/-! Texts put in place of placeholders. A placeholder stands between two marks and contains neither, so no two overlap
    and all are replaced in one pass. Replacing one kind after the others gives the same text when the others are all
    replaced and what replaces them completes no further placeholder. -/

namespace Template
variable {α : Type}

structure Slot (α : Type) where
  placeholder : List α
  text : List α

/-- A placeholder stands between two marks. -/
def Marked (opening closing : α) (placeholder : List α) : Prop :=
  ∃ body, placeholder = opening :: (body ++ [closing]) ∧ opening ∉ body ∧ closing ∉ body

structure WellMarked (opening closing : α) (table : List (Slot α)) : Prop where
  ne : opening ≠ closing
  marked : ∀ slot ∈ table, Marked opening closing slot.placeholder
  distinct : ∀ a ∈ table, ∀ b ∈ table, a.placeholder = b.placeholder → a = b

/-- One kind of placeholder, replaced after those of the first table by a text that does not begin with an opening mark. -/
structure Sequential (opening closing : α) (full first : List (Slot α)) (mark : Slot α) : Prop where
  wellMarked : WellMarked opening closing full
  mem : mark ∈ full
  first : ∀ slot ∈ first, slot ∈ full ∧ slot ≠ mark
  text : ∃ c text, mark.text = c :: text ∧ c ≠ opening

section
variable {opening closing : α} {full first : List (Slot α)} {mark : Slot α} {rest : List α} {placeholder : List α}

namespace Marked

theorem ne_nil (h : Marked opening closing placeholder) : placeholder ≠ [] := by
  obtain ⟨body, rfl, -⟩ := h
  exact List.cons_ne_nil _ _

theorem head (h : Marked opening closing placeholder) {c : α} (hstart : placeholder <+: c :: rest) : c = opening := by
  obtain ⟨body, rfl, -⟩ := h
  exact (List.cons_prefix_cons.mp hstart).1.symm

/-- Behind its opening mark a placeholder has no other. -/
theorem tail (h : Marked opening closing placeholder) (hne : opening ≠ closing) : opening ∉ placeholder.tail := by
  obtain ⟨body, rfl, hopening, -⟩ := h
  rw [List.tail_cons, List.mem_append, List.mem_singleton, not_or]
  exact ⟨hopening, hne⟩

end Marked

theorem WellMarked.sublist (h : WellMarked opening closing full) (hsub : ∀ slot ∈ first, slot ∈ full) :
    WellMarked opening closing first :=
  ⟨h.ne, fun slot hslot => h.marked slot (hsub slot hslot),
    fun a ha b hb => h.distinct a (hsub a ha) b (hsub b hb)⟩

namespace Sequential
variable (h : Sequential opening closing full first mark)
include h

theorem single : WellMarked opening closing [mark] :=
  h.wellMarked.sublist fun slot hslot => by
    rw [List.mem_singleton.mp hslot]
    exact h.mem

theorem marked : Marked opening closing mark.placeholder := h.wellMarked.marked mark h.mem

theorem wellMarked_first : WellMarked opening closing first := h.wellMarked.sublist fun slot hslot => (h.first slot hslot).1

theorem mark_not_mem : mark ∉ first := fun hmem => (h.first mark hmem).2 rfl

end Sequential
end

/-! ### Substitution -/

variable [DecidableEq α]

/-- The slot whose placeholder an input starts with. -/
def slotAt (table : List (Slot α)) (input : List α) : Option (Slot α) :=
  table.find? fun slot => slot.placeholder.isPrefixOf input

/-- The next `skip` elements belong to a placeholder that has been replaced. -/
def substituteFrom (table : List (Slot α)) : Nat → List α → List α
  | _, [] => []
  | skip + 1, _ :: rest => substituteFrom table skip rest
  | 0, c :: rest =>
    match slotAt table (c :: rest) with
    | some slot => slot.text ++ substituteFrom table (slot.placeholder.length - 1) rest
    | none => c :: substituteFrom table 0 rest

/-- All placeholders of the table are replaced at once; the rest is literal. -/
def substitute (table : List (Slot α)) (input : List α) : List α := substituteFrom table 0 input

/-- How often a placeholder stands in an input. -/
def occurrences (placeholder : List α) : List α → Nat
  | [] => 0
  | c :: rest => (if placeholder.isPrefixOf (c :: rest) then 1 else 0) + occurrences placeholder rest

variable {opening closing : α} {table full first : List (Slot α)} {slot mark : Slot α} {input rest ahead : List α}
  {placeholder : List α}

/-! ### Placeholders do not overlap -/

namespace Marked

/-- Two placeholders at one place are the same. -/
theorem eq_of_start {other : List α} (h : Marked opening closing placeholder) (hother : Marked opening closing other)
    (hstart : placeholder <+: input) (hother' : other <+: input) : placeholder = other := by
  obtain ⟨body, rfl, -, hbody⟩ := h
  obtain ⟨body', rfl, -, hbody'⟩ := hother
  have htake : ∀ {body : List α}, closing ∉ body → opening :: (body ++ [closing]) <+: input →
      input.tail.takeWhile (· ≠ closing) = body := by
    rintro body hbody ⟨rest, rfl⟩
    rw [List.cons_append, List.tail_cons, List.append_assoc, List.takeWhile_append_of_pos, List.singleton_append,
      List.takeWhile_cons_of_neg, List.append_nil]
    · simp
    · intro a ha
      rw [decide_eq_true_eq]
      rintro rfl
      exact hbody ha
  rw [← htake hbody hstart, ← htake hbody' hother']

end Marked

/-! ### What comes next -/

theorem mem_of_slotAt (h : slotAt table input = some slot) : slot ∈ table ∧ slot.placeholder <+: input := by
  refine ⟨List.mem_of_find?_eq_some h, ?_⟩
  have hstart : slot.placeholder.isPrefixOf input = true :=
    List.find?_some (p := fun slot : Slot α => slot.placeholder.isPrefixOf input) h
  exact List.isPrefixOf_iff_prefix.mp hstart

theorem slotAt_eq_none_iff : slotAt table input = none ↔ ∀ slot ∈ table, ¬slot.placeholder <+: input := by
  rw [slotAt, List.find?_eq_none]
  simp only [List.isPrefixOf_iff_prefix]

theorem substituteFrom_append (skipped rest : List α) :
    substituteFrom table skipped.length (skipped ++ rest) = substitute table rest := by
  induction skipped with
  | nil => rfl
  | cons c skipped ih => exact ih

theorem substitute_nil : substitute table [] = [] := by rw [substitute, substituteFrom]

theorem substitute_cons {c : α} (h : slotAt table (c :: rest) = none) :
    substitute table (c :: rest) = c :: substitute table rest := by
  rw [substitute, substituteFrom, h]
  rfl

theorem substitute_slot (h : slotAt table (slot.placeholder ++ rest) = some slot) (hne : slot.placeholder ≠ []) :
    substitute table (slot.placeholder ++ rest) = slot.text ++ substitute table rest := by
  obtain ⟨c, body, hbody⟩ := List.exists_cons_of_ne_nil hne
  rw [hbody, List.cons_append] at h ⊢
  rw [substitute, substituteFrom, h]
  show slot.text ++ substituteFrom table (slot.placeholder.length - 1) (body ++ rest) = _
  rw [hbody, List.length_cons, Nat.add_sub_cancel, substituteFrom_append]

namespace WellMarked

theorem slotAt_eq_some_iff (h : WellMarked opening closing table) :
    slotAt table input = some slot ↔ slot ∈ table ∧ slot.placeholder <+: input := by
  constructor
  · exact mem_of_slotAt
  · rintro ⟨hmem, hstart⟩
    cases hslot : slotAt table input with
    | none => exact absurd hstart (slotAt_eq_none_iff.mp hslot slot hmem)
    | some other =>
      obtain ⟨hother, hother'⟩ := mem_of_slotAt hslot
      have hsame := (h.marked other hother).eq_of_start (h.marked slot hmem) hother' hstart
      rw [h.distinct other hother slot hmem hsame]

/-- What a slot reads when its placeholder comes next. -/
theorem slotAt_append (h : WellMarked opening closing table) (hslot : slot ∈ table) :
    slotAt table (slot.placeholder ++ rest) = some slot :=
  h.slotAt_eq_some_iff.mpr ⟨hslot, List.prefix_append _ _⟩

/-- The placeholder of another table is no slot. -/
theorem slotAt_append_of_not_mem (h : WellMarked opening closing full) (hfirst : ∀ slot ∈ first, slot ∈ full)
    (hslot : slot ∈ full) (hnot : slot ∉ first) : slotAt first (slot.placeholder ++ rest) = none := by
  rw [slotAt_eq_none_iff]
  intro other hother hstart
  have hsame := (h.marked other (hfirst other hother)).eq_of_start (h.marked slot hslot) hstart
    (List.prefix_append _ _)
  rw [h.distinct other (hfirst other hother) slot hslot hsame] at hother
  exact hnot hother

/-- Only an opening mark begins a placeholder. -/
theorem slotAt_of_ne (h : WellMarked opening closing table) {c : α} (hc : c ≠ opening) :
    slotAt table (c :: rest) = none := by
  rw [slotAt_eq_none_iff]
  exact fun slot hslot hstart => hc ((h.marked slot hslot).head hstart)

/-! ### Substitution step by step -/

theorem substitute_append_of_not_mem (h : WellMarked opening closing table) (hahead : opening ∉ ahead) :
    substitute table (ahead ++ rest) = ahead ++ substitute table rest := by
  induction ahead with
  | nil => rfl
  | cons c ahead ih =>
    rw [List.mem_cons, not_or] at hahead
    rw [List.cons_append, substitute_cons (h.slotAt_of_ne fun hc => hahead.1 hc.symm), ih hahead.2, List.cons_append]

theorem substitute_of_mem (h : WellMarked opening closing table) (hslot : slot ∈ table) :
    substitute table (slot.placeholder ++ rest) = slot.text ++ substitute table rest :=
  substitute_slot (h.slotAt_append hslot) (h.marked slot hslot).ne_nil

/-- A placeholder that is not in the table stays. -/
theorem substitute_append_placeholder (h : WellMarked opening closing table) (hmarked : Marked opening closing placeholder)
    (hnone : slotAt table (placeholder ++ rest) = none) :
    substitute table (placeholder ++ rest) = placeholder ++ substitute table rest := by
  obtain ⟨c, body, hbody⟩ := List.exists_cons_of_ne_nil hmarked.ne_nil
  have htail := hmarked.tail h.ne
  rw [hbody, List.tail_cons] at htail
  rw [hbody, List.cons_append] at hnone ⊢
  rw [substitute_cons hnone, h.substitute_append_of_not_mem htail, List.cons_append]

/-- An input is read placeholder by placeholder, and what stands between them element by element. -/
@[elab_as_elim]
theorem induction (h : WellMarked opening closing table) {P : List α → Prop} (nil : P [])
    (slot : ∀ slot ∈ table, ∀ rest, P rest → P (slot.placeholder ++ rest))
    (item : ∀ c rest, slotAt table (c :: rest) = none → P rest → P (c :: rest)) (input : List α) : P input := by
  induction hlength : input.length using Nat.strongRecOn generalizing input with
  | ind n ih =>
    subst hlength
    cases input with
    | nil => exact nil
    | cons c rest =>
      cases hslot : slotAt table (c :: rest) with
      | none => exact item c rest hslot (ih rest.length (Nat.lt_succ_self _) rest rfl)
      | some found =>
        obtain ⟨hmem, behind, hbehind⟩ := mem_of_slotAt hslot
        have hpos := List.length_pos_iff.mpr (h.marked found hmem).ne_nil
        rw [← hbehind]
        refine slot found hmem behind (ih behind.length ?_ behind rfl)
        rw [← hbehind, List.length_append]
        omega

/-- Slots whose placeholders do not stand in the input make no difference. -/
theorem substitute_congr (h : WellMarked opening closing full) (hsub : ∀ slot ∈ first, slot ∈ full) (input : List α)
    (hall : ∀ slot ∈ full, slot.placeholder <:+: input → slot ∈ first) :
    substitute full input = substitute first input := by
  have hfirst := h.sublist hsub
  induction input using h.induction with
  | nil => rw [substitute_nil, substitute_nil]
  | slot slot hslot rest ih =>
    have hmem := hall slot hslot (List.prefix_append _ _).isInfix
    rw [h.substitute_of_mem hslot, hfirst.substitute_of_mem hmem,
      ih fun other hother hwithin => hall other hother (hwithin.trans (List.suffix_append _ _).isInfix)]
  | item c rest hnone ih =>
    have hnone' : slotAt first (c :: rest) = none := by
      rw [slotAt_eq_none_iff] at hnone ⊢
      exact fun slot hslot => hnone slot (hsub slot hslot)
    rw [substitute_cons hnone, substitute_cons hnone',
      ih fun other hother hwithin => hall other hother (hwithin.trans (List.suffix_cons _ _).isInfix)]

end WellMarked

/-! ### Occurrences -/

theorem occurrences_cons_of_start {c : α} (h : placeholder <+: c :: rest) :
    occurrences placeholder (c :: rest) = 1 + occurrences placeholder rest := by
  rw [occurrences, if_pos (List.isPrefixOf_iff_prefix.mpr h)]

theorem occurrences_cons_of_not {c : α} (h : ¬placeholder <+: c :: rest) :
    occurrences placeholder (c :: rest) = occurrences placeholder rest := by
  rw [occurrences, if_neg fun hstart => h (List.isPrefixOf_iff_prefix.mp hstart), Nat.zero_add]

theorem le_occurrences_append : occurrences placeholder rest ≤ occurrences placeholder (ahead ++ rest) := by
  induction ahead with
  | nil => exact Nat.le_refl _
  | cons c ahead ih => exact ih.trans (Nat.le_add_left _ _)

namespace Marked

theorem occurrences_append_of_not_mem (h : Marked opening closing placeholder) (hahead : opening ∉ ahead) :
    occurrences placeholder (ahead ++ rest) = occurrences placeholder rest := by
  induction ahead with
  | nil => rfl
  | cons c ahead ih =>
    rw [List.mem_cons, not_or] at hahead
    rw [List.cons_append, occurrences_cons_of_not fun hstart => hahead.1 (h.head hstart).symm, ih hahead.2]

theorem occurrences_append_self (h : Marked opening closing placeholder) (hne : opening ≠ closing) :
    occurrences placeholder (placeholder ++ rest) = 1 + occurrences placeholder rest := by
  obtain ⟨c, body, hbody⟩ := List.exists_cons_of_ne_nil h.ne_nil
  have htail := h.tail hne
  rw [hbody, List.tail_cons] at htail
  have hstart : placeholder <+: c :: (body ++ rest) := by
    rw [← List.cons_append, ← hbody]
    exact List.prefix_append _ _
  have hcons := occurrences_cons_of_start hstart
  rwa [h.occurrences_append_of_not_mem htail, ← List.cons_append, ← hbody] at hcons

theorem occurrences_append_of_ne {other : List α} (h : Marked opening closing placeholder)
    (hother : Marked opening closing other) (hne : opening ≠ closing) (hdiff : placeholder ≠ other) :
    occurrences placeholder (other ++ rest) = occurrences placeholder rest := by
  obtain ⟨c, body, hbody⟩ := List.exists_cons_of_ne_nil hother.ne_nil
  have htail := hother.tail hne
  rw [hbody, List.tail_cons] at htail
  have hnot : ¬placeholder <+: c :: (body ++ rest) := by
    rw [← List.cons_append, ← hbody]
    exact fun hstart => hdiff (h.eq_of_start hother hstart (List.prefix_append _ _))
  have hcons := occurrences_cons_of_not hnot
  rwa [h.occurrences_append_of_not_mem htail, ← List.cons_append, ← hbody] at hcons

/-- A placeholder in an input that begins with one is that one, or stands behind it. -/
theorem infix_append {other : List α} (h : Marked opening closing placeholder)
    (hother : Marked opening closing other) (hne : opening ≠ closing) (hwithin : placeholder <:+: other ++ rest) :
    placeholder = other ∨ placeholder <:+: rest := by
  obtain ⟨c, body, hbody⟩ := List.exists_cons_of_ne_nil hother.ne_nil
  have htail := hother.tail hne
  rw [hbody, List.tail_cons] at htail
  have hskip : ∀ {ahead : List α}, opening ∉ ahead → placeholder <:+: ahead ++ rest → placeholder <:+: rest := by
    intro ahead hahead hwithin
    induction ahead with
    | nil => exact hwithin
    | cons d ahead ih =>
      rw [List.mem_cons, not_or] at hahead
      rcases List.infix_cons_iff.mp hwithin with hstart | hwithin
      · exact absurd (h.head hstart).symm hahead.1
      · exact ih hahead.2 hwithin
  rw [hbody, List.cons_append, List.infix_cons_iff] at hwithin
  rcases hwithin with hstart | hwithin
  · left
    rw [← List.cons_append, ← hbody] at hstart
    exact h.eq_of_start hother hstart (List.prefix_append _ _)
  · exact .inr (hskip htail hwithin)

end Marked

/-! ### One kind of placeholder after the others -/

namespace Sequential
variable (h : Sequential opening closing full first mark)
include h

theorem substitute_cons_iff {c : α} :
    substitute [mark] (c :: input) = c :: rest ↔ ¬mark.placeholder <+: c :: input ∧ substitute [mark] input = rest := by
  by_cases hstart : mark.placeholder <+: c :: input
  · obtain ⟨behind, hbehind⟩ := hstart
    obtain ⟨d, text, htext, hd⟩ := h.text
    have hc := h.marked.head ⟨behind, hbehind⟩
    rw [← hbehind, h.single.substitute_of_mem (List.mem_singleton_self mark), htext, List.cons_append]
    constructor
    · intro heq
      exact absurd ((List.cons.inj heq).1.trans hc) hd
    · exact fun hnot => absurd (List.prefix_append _ _) hnot.1
  · have hnone : slotAt [mark] (c :: input) = none := by
      rw [slotAt_eq_none_iff]
      intro slot hslot
      rwa [List.mem_singleton.mp hslot]
    rw [substitute_cons hnone, List.cons.injEq, and_iff_right rfl, and_iff_right hstart]

theorem substitute_of_append (heq : substitute [mark] (ahead ++ input) = ahead ++ rest) :
    substitute [mark] input = rest := by
  induction ahead with
  | nil => exact heq
  | cons c ahead ih => exact ih (h.substitute_cons_iff.mp heq).2

theorem cons_iff {c : α} {n : Nat} (hle : n ≤ occurrences mark.placeholder input)
    (hiff : substitute [mark] input = rest ↔ occurrences mark.placeholder input = n) :
    substitute [mark] (c :: input) = c :: rest ↔ occurrences mark.placeholder (c :: input) = n := by
  rw [h.substitute_cons_iff, hiff]
  by_cases hstart : mark.placeholder <+: c :: input
  · rw [occurrences_cons_of_start hstart]
    constructor
    · exact fun hnot => absurd hstart hnot.1
    · omega
  · rw [occurrences_cons_of_not hstart, and_iff_right hstart]

theorem append_iff {n : Nat} (hle : n ≤ occurrences mark.placeholder input)
    (hiff : substitute [mark] input = rest ↔ occurrences mark.placeholder input = n) :
    substitute [mark] (ahead ++ input) = ahead ++ rest ↔ occurrences mark.placeholder (ahead ++ input) = n := by
  induction ahead with
  | nil => exact hiff
  | cons c ahead ih => exact h.cons_iff (hle.trans le_occurrences_append) ih

/-- Nothing of the last kind begins where nothing of the table does. -/
theorem not_start {c : α} (hnone : slotAt full (c :: rest) = none) : ¬mark.placeholder <+: c :: rest :=
  slotAt_eq_none_iff.mp hnone mark h.mem

theorem slotAt_first {c : α} (hnone : slotAt full (c :: rest) = none) : slotAt first (c :: rest) = none := by
  rw [slotAt_eq_none_iff] at hnone ⊢
  exact fun slot hslot => hnone slot (h.first slot hslot).1

/-- The first pass keeps a placeholder that it does not replace. -/
theorem substitute_first_other {slot : Slot α} (hslot : slot ∈ full) (hnot : slot ∉ first) :
    substitute first (slot.placeholder ++ rest) = slot.placeholder ++ substitute first rest :=
  h.wellMarked_first.substitute_append_placeholder (h.wellMarked.marked slot hslot)
    (h.wellMarked.slotAt_append_of_not_mem (fun slot hslot => (h.first slot hslot).1) hslot hnot)

theorem occurrences_other {slot : Slot α} (hslot : slot ∈ full) (hother : slot ≠ mark) :
    occurrences mark.placeholder (slot.placeholder ++ rest) = occurrences mark.placeholder rest :=
  h.marked.occurrences_append_of_ne (h.wellMarked.marked slot hslot) h.wellMarked.ne
    fun hsame => hother (h.wellMarked.distinct mark h.mem slot hslot hsame).symm

theorem occurrences_le (input : List α) :
    occurrences mark.placeholder input ≤ occurrences mark.placeholder (substitute first input) := by
  induction input using h.wellMarked.induction with
  | nil => exact Nat.zero_le _
  | slot slot hslot rest ih =>
    by_cases hmark : slot = mark
    · subst hmark
      rw [h.substitute_first_other hslot h.mark_not_mem, h.marked.occurrences_append_self h.wellMarked.ne,
        h.marked.occurrences_append_self h.wellMarked.ne]
      omega
    · rw [h.occurrences_other hslot hmark]
      by_cases hfirst : slot ∈ first
      · rw [h.wellMarked_first.substitute_of_mem hfirst]
        exact ih.trans le_occurrences_append
      · rw [h.substitute_first_other hslot hfirst]
        exact ih.trans le_occurrences_append
  | item c rest hnone ih =>
    rw [occurrences_cons_of_not (h.not_start hnone), substitute_cons (h.slotAt_first hnone)]
    exact ih.trans (Nat.le_add_left _ _)

/-- When the first pass replaces all other placeholders, the second gives what one pass gives exactly when the first
    has completed no further placeholder. -/
theorem substitute_iff (input : List α)
    (hall : ∀ slot ∈ full, slot ≠ mark → slot.placeholder <:+: input → slot ∈ first) :
    substitute [mark] (substitute first input) = substitute full input ↔
      occurrences mark.placeholder (substitute first input) = occurrences mark.placeholder input := by
  induction input using h.wellMarked.induction with
  | nil => simp [substitute_nil]
  | slot slot hslot rest ih =>
    have ih := ih fun other hother hne hwithin => hall other hother hne (hwithin.trans (List.suffix_append _ _).isInfix)
    by_cases hmark : slot = mark
    · subst hmark
      rw [h.substitute_first_other hslot h.mark_not_mem, h.wellMarked.substitute_of_mem hslot,
        h.single.substitute_of_mem (List.mem_singleton_self slot), List.append_cancel_left_eq, ih,
        h.marked.occurrences_append_self h.wellMarked.ne, h.marked.occurrences_append_self h.wellMarked.ne]
      omega
    · have hfirst := hall slot hslot hmark (List.prefix_append _ _).isInfix
      rw [h.wellMarked_first.substitute_of_mem hfirst, h.wellMarked.substitute_of_mem hslot,
        h.occurrences_other hslot hmark]
      exact h.append_iff (h.occurrences_le rest) ih
  | item c rest hnone ih =>
    have ih := ih fun other hother hne hwithin => hall other hother hne (hwithin.trans (List.suffix_cons _ _).isInfix)
    rw [substitute_cons (h.slotAt_first hnone), substitute_cons hnone, occurrences_cons_of_not (h.not_start hnone)]
    exact h.cons_iff (h.occurrences_le rest) ih

/-- When two passes give what one pass gives, the first has replaced all other placeholders, unless the text of one that
    it has left begins with an opening mark. -/
theorem mem_first_of_substitute (input : List α)
    (hleft : ∀ slot ∈ full, slot ≠ mark → slot.placeholder <:+: input → slot ∉ first →
      ∃ c text, slot.text = c :: text ∧ c ≠ opening)
    (heq : substitute [mark] (substitute first input) = substitute full input) :
    ∀ slot ∈ full, slot ≠ mark → slot.placeholder <:+: input → slot ∈ first := by
  induction input using h.wellMarked.induction with
  | nil =>
    intro slot hslot _ hwithin
    exact absurd (List.infix_nil.mp hwithin) (h.wellMarked.marked slot hslot).ne_nil
  | slot slot hslot rest ih =>
    have ih := ih fun other hother hne hwithin =>
      hleft other hother hne (hwithin.trans (List.suffix_append _ _).isInfix)
    -- The placeholder itself, and then those behind it.
    suffices hboth : (slot ≠ mark → slot ∈ first) ∧
        substitute [mark] (substitute first rest) = substitute full rest by
      intro other hother hne hwithin
      rcases (h.wellMarked.marked other hother).infix_append (h.wellMarked.marked slot hslot) h.wellMarked.ne hwithin with
        hsame | hwithin
      · obtain rfl := h.wellMarked.distinct other hother slot hslot hsame
        exact hboth.1 hne
      · exact ih hboth.2 other hother hne hwithin
    rw [h.wellMarked.substitute_of_mem hslot] at heq
    by_cases hmark : slot = mark
    · subst hmark
      rw [h.substitute_first_other hslot h.mark_not_mem,
        h.single.substitute_of_mem (List.mem_singleton_self slot), List.append_cancel_left_eq] at heq
      exact ⟨fun hne => absurd rfl hne, heq⟩
    · by_cases hfirst : slot ∈ first
      · rw [h.wellMarked_first.substitute_of_mem hfirst] at heq
        exact ⟨fun _ => hfirst, h.substitute_of_append heq⟩
      · obtain ⟨c, text, htext, hc⟩ := hleft slot hslot hmark (List.prefix_append _ _).isInfix hfirst
        have hnone : slotAt [mark] (slot.placeholder ++ substitute first rest) = none := by
          refine h.wellMarked.slotAt_append_of_not_mem (fun other hother => ?_) hslot
            fun hmem => hmark (List.mem_singleton.mp hmem)
          rw [List.mem_singleton.mp hother]
          exact h.mem
        rw [h.substitute_first_other hslot hfirst,
          h.single.substitute_append_placeholder (h.wellMarked.marked slot hslot) hnone, htext] at heq
        obtain ⟨body, hbody, -⟩ := h.wellMarked.marked slot hslot
        rw [hbody] at heq
        exact absurd (List.cons.inj heq).1.symm hc
  | item c rest hnone ih =>
    rw [substitute_cons (h.slotAt_first hnone), substitute_cons hnone] at heq
    have ih := ih (fun other hother hne hwithin => hleft other hother hne (hwithin.trans (List.suffix_cons _ _).isInfix))
      (h.substitute_cons_iff.mp heq).2
    intro slot hslot hne hwithin
    rcases List.infix_cons_iff.mp hwithin with hstart | hwithin
    · exact absurd hstart (slotAt_eq_none_iff.mp hnone slot hslot)
    · exact ih slot hslot hne hwithin

end Sequential
end Template
