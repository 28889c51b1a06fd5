import Servatory.Lib.Postcard

/-! What a reader of the wire format looks at: the bytes it consumes, and none behind them. A value that does not end in
    the byte `0xff` cannot be read from a wire form whose end is overwritten with it. -/

namespace Postcard
variable {α β : Type}

/-- The reader would read the same from the bytes it consumed, whatever followed them. -/
def Reads (read : List UInt8 → Option (α × List UInt8)) : Prop :=
  ∀ bytes a rest, read bytes = some (a, rest) → ∃ used, bytes = used ++ rest ∧ ∀ more, read (used ++ more) = some (a, more)

/-- The last byte that the reader consumes is not `0xff`. -/
def Ends (read : List UInt8 → Option (α × List UInt8)) : Prop :=
  ∀ bytes a rest, read bytes = some (a, rest) → ∃ init last, last ≠ 0xff ∧ bytes = init ++ last :: rest

/-! ### Numbers -/

theorem reads_readVarint : Reads readVarint := by
  intro bytes n rest h
  induction bytes generalizing n with
  | nil => cases h
  | cons byte bytes ih =>
    rw [readVarint] at h
    split at h
    · rename_i hlt
      obtain ⟨rfl, rfl⟩ := Prod.mk.inj (Option.some.inj h)
      refine ⟨[byte], rfl, fun more => ?_⟩
      rw [List.singleton_append, readVarint, if_pos hlt]
    · rename_i hge
      obtain ⟨⟨m, rest'⟩, hm, heq⟩ := Option.map_eq_some_iff.mp h
      obtain ⟨rfl, rfl⟩ := Prod.mk.inj heq
      obtain ⟨used, rfl, hused⟩ := ih m hm
      refine ⟨byte :: used, rfl, fun more => ?_⟩
      rw [List.cons_append, readVarint, if_neg hge, hused more]
      rfl

theorem ends_readVarint : Ends readVarint := by
  intro bytes n rest h
  induction bytes generalizing n with
  | nil => cases h
  | cons byte bytes ih =>
    rw [readVarint] at h
    split at h
    · rename_i hlt
      obtain ⟨-, rfl⟩ := Prod.mk.inj (Option.some.inj h)
      refine ⟨[], byte, ?_, rfl⟩
      rintro rfl
      exact absurd hlt (by decide)
    · obtain ⟨⟨m, rest'⟩, hm, heq⟩ := Option.map_eq_some_iff.mp h
      obtain ⟨-, rfl⟩ := Prod.mk.inj heq
      obtain ⟨init, last, hlast, rfl⟩ := ih m hm
      exact ⟨byte :: init, last, hlast, rfl⟩

/-! ### Readers in sequence -/

/-- A reader, and behind it one that depends on what was read. -/
theorem Reads.bind {read : List UInt8 → Option (α × List UInt8)} {next : α → List UInt8 → Option (β × List UInt8)}
    (h : Reads read) (hnext : ∀ a, Reads (next a)) : Reads fun bytes => (read bytes).bind fun p => next p.1 p.2 := by
  intro bytes b rest hb
  obtain ⟨⟨a, mid⟩, ha, hb'⟩ := Option.bind_eq_some_iff.mp hb
  obtain ⟨used, rfl, hused⟩ := h bytes a mid ha
  obtain ⟨used', rfl, hused'⟩ := hnext a mid b rest hb'
  refine ⟨used ++ used', (List.append_assoc ..).symm, fun more => ?_⟩
  refine Option.bind_eq_some_iff.mpr ⟨(a, used' ++ more), ?_, hused' more⟩
  rw [List.append_assoc, hused]

theorem Ends.bind {read : List UInt8 → Option (α × List UInt8)} {next : α → List UInt8 → Option (β × List UInt8)}
    (h : Reads read) (hnext : ∀ a, Ends (next a)) : Ends fun bytes => (read bytes).bind fun p => next p.1 p.2 := by
  intro bytes b rest hb
  obtain ⟨⟨a, mid⟩, ha, hb'⟩ := Option.bind_eq_some_iff.mp hb
  obtain ⟨used, rfl, -⟩ := h bytes a mid ha
  obtain ⟨init, last, hlast, rfl⟩ := hnext a mid b rest hb'
  exact ⟨used ++ init, last, hlast, (List.append_assoc ..).symm⟩

/-- A value that was read is checked and converted. -/
theorem Reads.convert {read : List UInt8 → Option (α × List UInt8)} (h : Reads read) (f : α → Option β) :
    Reads fun bytes => (read bytes).bind fun p => (f p.1).map (·, p.2) := by
  have hnext : ∀ a, Reads fun rest => (f a).map (·, rest) := by
    intro a bytes b rest hb
    obtain ⟨b', hb', heq⟩ := Option.map_eq_some_iff.mp hb
    obtain ⟨rfl, rfl⟩ := Prod.mk.inj heq
    exact ⟨[], rfl, fun more => Option.map_eq_some_iff.mpr ⟨b', hb', rfl⟩⟩
  exact h.bind hnext

theorem Ends.convert {read : List UInt8 → Option (α × List UInt8)} (h : Ends read) (f : α → Option β) :
    Ends fun bytes => (read bytes).bind fun p => (f p.1).map (·, p.2) := by
  intro bytes b rest hb
  obtain ⟨⟨a, mid⟩, ha, hb'⟩ := Option.bind_eq_some_iff.mp hb
  obtain ⟨b', -, heq⟩ := Option.map_eq_some_iff.mp hb'
  obtain ⟨-, rfl⟩ := Prod.mk.inj heq
  exact h bytes a mid ha

theorem Reads.pure (a : α) : Reads fun bytes => some (a, bytes) := by
  intro bytes b rest h
  obtain ⟨rfl, rfl⟩ := Prod.mk.inj (Option.some.inj h)
  exact ⟨[], rfl, fun _ => rfl⟩

theorem Reads.none : Reads fun _ => (Option.none : Option (α × List UInt8)) := by
  rintro bytes a rest ⟨⟩

/-- What was read is converted. -/
theorem Reads.map {read : List UInt8 → Option (α × List UInt8)} (h : Reads read) (f : α → β) :
    Reads fun bytes => (read bytes).map fun p => (f p.1, p.2) := by
  intro bytes b rest hb
  obtain ⟨⟨a, mid⟩, ha, heq⟩ := Option.map_eq_some_iff.mp hb
  obtain ⟨rfl, rfl⟩ := Prod.mk.inj heq
  obtain ⟨used, rfl, hused⟩ := h bytes a mid ha
  exact ⟨used, rfl, fun more => Option.map_eq_some_iff.mpr ⟨(a, more), hused more, rfl⟩⟩

theorem Ends.map {read : List UInt8 → Option (α × List UInt8)} (h : Ends read) (f : α → β) :
    Ends fun bytes => (read bytes).map fun p => (f p.1, p.2) := by
  intro bytes b rest hb
  obtain ⟨⟨a, mid⟩, ha, heq⟩ := Option.map_eq_some_iff.mp hb
  obtain ⟨-, rfl⟩ := Prod.mk.inj heq
  exact h bytes a mid ha

/-! ### Types whose readers are local -/

/-- A type whose reader looks at nothing behind a value. -/
class Local (α : Type) [Postcard α] : Prop where
  reads : Reads (decode (α := α))

/-- A type whose values never end in `0xff`. -/
class Closed (α : Type) [Postcard α] : Prop where
  ends : Ends (decode (α := α))

theorem local_ofNat (bound : Nat) (toNat : α → Nat) (ofNat : Nat → α) (lt : ∀ a, toNat a < bound)
    (inv : ∀ a, ofNat (toNat a) = a) : @Local α (Postcard.ofNat bound toNat ofNat lt inv) := by
  refine @Local.mk α (Postcard.ofNat bound toNat ofNat lt inv) ?_
  have hnext : ∀ n, Reads fun rest => if n < bound then some (ofNat n, rest) else Option.none := by
    intro n
    split
    · exact .pure _
    · exact .none
  exact reads_readVarint.bind hnext

instance : Local UInt16 := local_ofNat _ _ _ UInt16.toNat_lt (by simp)
instance : Local UInt32 := local_ofNat _ _ _ UInt32.toNat_lt (by simp)

instance : Local Bool where
  reads := by
    intro bytes a rest h
    cases bytes with
    | nil => cases h
    | cons byte bytes =>
      simp only [decode] at h
      split at h
      · rename_i h0
        obtain ⟨rfl, rfl⟩ := Prod.mk.inj (Option.some.inj h)
        exact ⟨[byte], rfl, fun more => by rw [h0]; rfl⟩
      · split at h
        · rename_i h1
          obtain ⟨rfl, rfl⟩ := Prod.mk.inj (Option.some.inj h)
          exact ⟨[byte], rfl, fun more => by rw [h1]; rfl⟩
        · cases h

theorem local_enum (code : α → Nat) (ofCode : Nat → Option α) (inv : ∀ a, ofCode (code a) = some a) :
    @Local α (Postcard.enum code ofCode inv) :=
  @Local.mk α (Postcard.enum code ofCode inv) (reads_readVarint.convert ofCode)

/-! ### Strings -/

theorem ofNat_ne_ff {n : Nat} (h : n < 255) : (0xff : UInt8) ≠ UInt8.ofNat n := by
  intro heq
  have hn := congrArg UInt8.toNat heq
  rw [UInt8.toNat_ofNat', Nat.mod_eq_of_lt (by omega)] at hn
  have : (0xff : UInt8).toNat = 255 := rfl
  omega

theorem ff_not_mem_utf8EncodeChar (c : Char) : 0xff ∉ String.utf8EncodeChar c := by
  rw [String.utf8EncodeChar]
  split
  · simp only [List.mem_cons, List.not_mem_nil, or_false]
    exact ofNat_ne_ff (by omega)
  · split
    · simp only [List.mem_cons, List.not_mem_nil, or_false, not_or]
      exact ⟨ofNat_ne_ff (by omega), ofNat_ne_ff (by omega)⟩
    · split
      · simp only [List.mem_cons, List.not_mem_nil, or_false, not_or]
        exact ⟨ofNat_ne_ff (by omega), ofNat_ne_ff (by omega), ofNat_ne_ff (by omega)⟩
      · simp only [List.mem_cons, List.not_mem_nil, or_false, not_or]
        exact ⟨ofNat_ne_ff (by omega), ofNat_ne_ff (by omega), ofNat_ne_ff (by omega), ofNat_ne_ff (by omega)⟩

theorem ff_not_mem_utf8 (s : String) : 0xff ∉ utf8 s := by
  obtain ⟨chars, hchars⟩ := s.isValidUTF8
  intro h
  rw [utf8, hchars, List.utf8Encode, List.data_toByteArray, List.toList_toArray] at h
  obtain ⟨c, -, hc⟩ := List.mem_flatMap.mp h
  exact ff_not_mem_utf8EncodeChar c hc

theorem eq_utf8_of_fromUTF8? {bytes : List UInt8} {s : String} (h : String.fromUTF8? ⟨bytes.toArray⟩ = some s) :
    bytes = utf8 s := by
  unfold String.fromUTF8? at h
  split at h
  · obtain rfl := Option.some.inj h
    rfl
  · cases h
/-- A string behind its length. -/
def readUtf8 (n : Nat) (rest : List UInt8) : Option (String × List UInt8) :=
  if rest.length < n then none else (String.fromUTF8? ⟨(rest.take n).toArray⟩).map (·, rest.drop n)

theorem readUtf8_eq_some {n : Nat} {bytes rest : List UInt8} {s : String} (h : readUtf8 n bytes = some (s, rest)) :
    bytes = utf8 s ++ rest ∧ (utf8 s).length = n := by
  rw [readUtf8] at h
  split at h
  · cases h
  · rename_i hlen
    obtain ⟨s', hs, heq⟩ := Option.map_eq_some_iff.mp h
    obtain ⟨rfl, rfl⟩ := Prod.mk.inj heq
    rw [← eq_utf8_of_fromUTF8? hs, List.length_take]
    exact ⟨(List.take_append_drop n bytes).symm, Nat.min_eq_left (Nat.not_lt.mp hlen)⟩

theorem reads_readUtf8 (n : Nat) : Reads (readUtf8 n) := by
  intro bytes s rest h
  obtain ⟨rfl, hn⟩ := readUtf8_eq_some h
  refine ⟨utf8 s, rfl, fun more => ?_⟩
  rw [readUtf8, if_neg (by rw [List.length_append]; omega), List.take_left' hn, List.drop_left' hn, fromUTF8?_utf8]
  rfl

instance : Local String where
  reads := reads_readVarint.bind reads_readUtf8

/-- The last byte of a string is one of UTF-8, or its length when it is empty. -/
instance : Closed String where
  ends := by
    intro bytes s rest h
    obtain ⟨⟨n, mid⟩, hn, h⟩ := Option.bind_eq_some_iff.mp h
    obtain ⟨rfl, -⟩ := readUtf8_eq_some (n := n) h
    obtain ⟨used, rfl, -⟩ := reads_readVarint _ _ _ hn
    rcases List.eq_nil_or_concat (utf8 s) with hnil | ⟨init, last, hs⟩
    · rw [hnil] at hn ⊢
      exact ends_readVarint _ _ _ hn
    · rw [List.concat_eq_append] at hs
      refine ⟨used ++ init, last, ?_, by rw [hs]; simp⟩
      rintro rfl
      exact ff_not_mem_utf8 s (hs ▸ List.mem_append_right _ (List.mem_singleton.mpr rfl))

/-! ### Composites -/

instance [Postcard α] [Postcard β] [Local α] [Local β] : Local (α × β) where
  reads := Local.reads.bind fun a => Local.reads.convert fun b => some (a, b)

instance [Postcard α] [Postcard β] [Local α] [Closed β] : Closed (α × β) where
  ends := Ends.bind Local.reads fun a => Closed.ends.convert fun b => some (a, b)

instance [Postcard α] [Local α] : Local (Option α) where
  reads := by
    intro bytes o rest h
    cases bytes with
    | nil => cases h
    | cons tag bytes =>
      simp only [decode] at h
      split at h
      · rename_i h0
        obtain ⟨rfl, rfl⟩ := Prod.mk.inj (Option.some.inj h)
        exact ⟨[tag], rfl, fun more => by rw [h0]; rfl⟩
      · split at h
        · rename_i h1
          obtain ⟨⟨a, mid⟩, ha, heq⟩ := Option.map_eq_some_iff.mp h
          obtain ⟨rfl, rfl⟩ := Prod.mk.inj heq
          obtain ⟨used, rfl, hused⟩ := Local.reads _ _ _ ha
          refine ⟨tag :: used, rfl, fun more => ?_⟩
          rw [h1, List.cons_append]
          exact Option.map_eq_some_iff.mpr ⟨(a, more), hused more, rfl⟩
        · cases h

instance [Postcard α] [Closed α] : Closed (Option α) where
  ends := by
    intro bytes o rest h
    cases bytes with
    | nil => cases h
    | cons tag bytes =>
      simp only [decode] at h
      split at h
      · rename_i h0
        obtain ⟨-, rfl⟩ := Prod.mk.inj (Option.some.inj h)
        exact ⟨[], tag, by rw [h0]; decide, rfl⟩
      · split at h
        · obtain ⟨⟨a, mid⟩, ha, heq⟩ := Option.map_eq_some_iff.mp h
          obtain ⟨-, rfl⟩ := Prod.mk.inj heq
          obtain ⟨init, last, hlast, rfl⟩ := Closed.ends _ _ _ ha
          exact ⟨tag :: init, last, hlast, rfl⟩
        · cases h

theorem reads_readMany [Postcard α] [Local α] (n : Nat) : Reads (readMany (α := α) n) := by
  induction n with
  | zero => exact .pure []
  | succ n ih => exact Local.reads.bind fun a => ih.convert fun items => some (a :: items)

instance [Postcard α] [Local α] : Local (List α) where
  reads := reads_readVarint.bind reads_readMany

theorem local_iso [Postcard β] [Local β] (fields : α → β) (make : β → α) (inv : ∀ a, make (fields a) = a) :
    @Local α (iso fields make inv) :=
  @Local.mk α (iso fields make inv) (Local.reads.map make)

theorem closed_iso [Postcard β] [Closed β] (fields : α → β) (make : β → α) (inv : ∀ a, make (fields a) = a) :
    @Closed α (iso fields make inv) :=
  @Closed.mk α (iso fields make inv) (Closed.ends.map make)

/-! ### A message cut short -/

/-- A value cannot be read from its wire form when the bytes from some point on are overwritten with `0xff`. -/
theorem fromBytes_cut [Postcard α] [Local α] [Closed α] (a : α) {n : Nat} (hn : n < size a) (m : Nat) :
    fromBytes α ((encode a).take n ++ List.replicate m 0xff) = none := by
  rw [fromBytes, Option.map_eq_none_iff, Option.eq_none_iff_forall_ne_some]
  rintro ⟨b, rest⟩ h
  obtain ⟨used, hused, hread⟩ := Local.reads _ _ _ h
  obtain ⟨init, last, hlast, hend⟩ := Closed.ends _ _ _ h
  obtain rfl : used = init ++ [last] := by
    rw [List.append_cons] at hend
    exact (List.append_inj' (hused.symm.trans hend) rfl).1
  have htake : ((encode a).take n).length = n := List.length_take_of_le (Nat.le_of_lt hn)
  rcases Nat.lt_or_ge n (init ++ [last]).length with hlt | hge
  · -- The last byte that was read is one of those overwritten.
    have hdrop := congrArg (List.drop n) hend
    rw [List.length_append, List.length_singleton] at hlt
    rw [List.drop_left' htake, List.drop_append_of_le_length (Nat.lt_succ_iff.mp hlt)] at hdrop
    have hmem : last ∈ List.replicate m (0xff : UInt8) := hdrop ▸ List.mem_append_right _ (List.mem_cons_self ..)
    exact hlast (List.eq_of_mem_replicate hmem)
  · -- All bytes that were read are those of the value itself.
    obtain ⟨more, hmore⟩ := List.prefix_of_prefix_length_le (hused ▸ List.prefix_append _ rest) (List.prefix_append _ _)
      (by rw [htake]; exact hge)
    have hall := hread (more ++ (encode a).drop n)
    rw [← List.append_assoc, hmore, List.take_append_drop] at hall
    have ha := decode_encode a []
    rw [List.append_nil] at ha
    obtain ⟨-, hnil⟩ := Prod.mk.inj (Option.some.inj (hall.symm.trans ha))
    have hdrop : (encode a).drop n = [] := (List.append_eq_nil_iff.mp hnil).2
    rw [List.drop_eq_nil_iff] at hdrop
    exact absurd hn (Nat.not_lt.mpr hdrop)

end Postcard
