import Servatory.Host.Conditions

/-! What the text of a duration means, and which texts are read as something else. -/

namespace Servatory

inductive DurationUnit
  | millis
  | seconds
  | minutes
  | hours
  deriving DecidableEq, Repr

namespace DurationUnit

/-- How a unit is written; without one, a number counts milliseconds. -/
def texts : DurationUnit → List String
  | millis => ["", "ms"]
  | seconds => ["s"]
  | minutes => ["m"]
  | hours => ["h"]

/-- How many milliseconds or seconds the unit has. -/
def factor : DurationUnit → Nat
  | millis => 1
  | seconds => 1
  | minutes => 60
  | hours => 3600

theorem factor_pos (unit : DurationUnit) : 0 < unit.factor := by cases unit <;> decide

/-- Milliseconds are counted as such, and all other units in seconds. -/
def base : DurationUnit → Nat
  | millis => 1
  | _ => 1000

theorem takeWhile_isDigit {unit : DurationUnit} {suffix : String} (h : suffix ∈ unit.texts) :
    suffix.toList.takeWhile (·.isDigit) = [] := by
  cases unit with
  | millis =>
    rcases List.mem_cons.mp h with rfl | h
    · rfl
    · rw [List.mem_singleton.mp h]
      rfl
  | _ =>
    rw [List.mem_singleton.mp h]
    rfl

/-- A text that belongs to two units. -/
theorem eq_of_mem_texts {unit unit' : DurationUnit} {suffix : String} (h : suffix ∈ unit.texts)
    (h' : suffix ∈ unit'.texts) : unit = unit' := by
  cases unit <;> cases unit' <;> first | rfl | simp_all [texts]

end DurationUnit

/-- The text is a number in a unit. -/
structure Written (text : String) (digits : List Char) (unit : DurationUnit) : Prop where
  nonempty : digits ≠ []
  decimal : ∀ c ∈ digits, c.isDigit
  split : ∃ suffix ∈ unit.texts, text.toList = digits ++ suffix.toList

/-- The milliseconds that a text stands for, when its milliseconds or its seconds can be counted in 64 bits. -/
def Denotes (text : String) (millis : Nat) : Prop :=
  ∃ digits unit, Written text digits unit ∧ Nat.ofDigitChars 10 digits 0 * unit.factor < UInt64.size ∧
    millis = Nat.ofDigitChars 10 digits 0 * unit.factor * unit.base

namespace Written
variable {text : String} {digits digits' : List Char} {unit unit' : DurationUnit}

theorem digits_eq (h : Written text digits unit) : text.toList.takeWhile (·.isDigit) = digits := by
  obtain ⟨suffix, hsuffix, htext⟩ := h.split
  rw [htext, List.takeWhile_append_of_pos h.decimal, DurationUnit.takeWhile_isDigit hsuffix, List.append_nil]

theorem suffix_eq (h : Written text digits unit) :
    ∃ suffix ∈ unit.texts, text.toList.drop digits.length = suffix.toList := by
  obtain ⟨suffix, hsuffix, htext⟩ := h.split
  exact ⟨suffix, hsuffix, by rw [htext, List.drop_left]⟩

/-- There is one way to read a text. -/
theorem unique (h : Written text digits unit) (h' : Written text digits' unit') :
    digits = digits' ∧ unit = unit' := by
  have hdigits : digits = digits' := h.digits_eq.symm.trans h'.digits_eq
  subst hdigits
  obtain ⟨suffix, hsuffix, hdrop⟩ := h.suffix_eq
  obtain ⟨suffix', hsuffix', hdrop'⟩ := h'.suffix_eq
  obtain rfl := String.toList_injective (hdrop.symm.trans hdrop')
  exact ⟨rfl, DurationUnit.eq_of_mem_texts hsuffix hsuffix'⟩

/-- The minutes and the hours are turned into seconds in 64 bits. -/
theorem parseDuration_eq (h : Written text digits unit) :
    parseDuration text =
      if Nat.ofDigitChars 10 digits 0 < UInt64.size then
        some (Nat.ofDigitChars 10 digits 0 * unit.factor % UInt64.size * unit.base)
      else none := by
  obtain ⟨suffix, hsuffix, hdrop⟩ := h.suffix_eq
  have hne : (digits.isEmpty = true) = False := by simp [h.nonempty]
  simp only [parseDuration, h.digits_eq, hdrop, hne, ← Nat.ofDigitChars_eq_foldl, false_or]
  by_cases hlt : Nat.ofDigitChars 10 digits 0 < UInt64.size
  · rw [if_neg (Nat.not_le.mpr hlt), if_pos hlt]
    cases unit with
    | millis =>
      have hmod : Nat.ofDigitChars 10 digits 0 * 1 % UInt64.size * 1 = Nat.ofDigitChars 10 digits 0 := by
        rw [Nat.mul_one, Nat.mul_one, Nat.mod_eq_of_lt hlt]
      rcases List.mem_cons.mp hsuffix with rfl | hsuffix
      · exact congrArg some hmod.symm
      · rw [List.mem_singleton.mp hsuffix]
        exact congrArg some hmod.symm
    | seconds =>
      rw [List.mem_singleton.mp hsuffix, DurationUnit.factor, Nat.mul_one, Nat.mod_eq_of_lt hlt]
      rfl
    | minutes =>
      rw [List.mem_singleton.mp hsuffix]
      rfl
    | hours =>
      rw [List.mem_singleton.mp hsuffix]
      rfl
  · rw [if_pos (Nat.not_lt.mp hlt), if_neg hlt]

end Written

/-- Only a number in a unit is read. -/
theorem exists_written {text : String} {millis : Nat} (h : parseDuration text = some millis) :
    ∃ digits unit, Written text digits unit := by
  have hdigits : ∀ c ∈ text.toList.takeWhile (·.isDigit), c.isDigit := List.all_eq_true.mp List.all_takeWhile
  have hsplit : text.toList.takeWhile (·.isDigit) ++ text.toList.drop (text.toList.takeWhile (·.isDigit)).length =
      text.toList := List.prefix_iff_eq_append.mp (List.takeWhile_prefix _)
  simp only [parseDuration] at h
  generalize text.toList.takeWhile (·.isDigit) = digits at h hdigits hsplit
  generalize text.toList.drop digits.length = suffix at h hsplit
  have hwritten : digits ≠ [] → ∀ unit : DurationUnit, String.ofList suffix ∈ unit.texts →
      ∃ digits unit, Written text digits unit :=
    fun hne unit hsuffix => ⟨digits, unit, hne, hdigits, _, hsuffix, by rw [← hsplit, String.toList_ofList]⟩
  split at h
  · cases h
  · rename_i hcond
    have hne : digits ≠ [] := fun hnil => hcond (.inl (List.isEmpty_iff.mpr hnil))
    split at h
    · rename_i hmillis
      refine hwritten hne .millis ?_
      rcases hmillis with hnil | rfl
      · rw [List.isEmpty_iff.mp hnil]
        decide
      · decide
    · split at h
      · subst suffix
        exact hwritten hne .seconds (by decide)
      · split at h
        · subst suffix
          exact hwritten hne .minutes (by decide)
        · split at h
          · subst suffix
            exact hwritten hne .hours (by decide)
          · cases h

/-- A text stands for the duration that is read from it unless its minutes or its hours fit into 64 bits and its
    seconds do not. -/
theorem parseDuration_iff (text : String) :
    (∀ millis, parseDuration text = some millis ↔ Denotes text millis) ↔
      ∀ digits unit, Written text digits unit → Nat.ofDigitChars 10 digits 0 < UInt64.size →
        Nat.ofDigitChars 10 digits 0 * unit.factor < UInt64.size := by
  constructor
  · intro hexact digits unit h hlt
    have hparse := h.parseDuration_eq
    rw [if_pos hlt] at hparse
    obtain ⟨digits', unit', h', hrepresentable, -⟩ := (hexact _).mp hparse
    obtain ⟨rfl, rfl⟩ := h'.unique h
    exact hrepresentable
  · intro hfits millis
    constructor
    · intro hparse
      obtain ⟨digits, unit, h⟩ := exists_written hparse
      rw [h.parseDuration_eq] at hparse
      split at hparse
      · rename_i hlt
        have hrepresentable := hfits digits unit h hlt
        rw [Nat.mod_eq_of_lt hrepresentable, Option.some_inj] at hparse
        exact ⟨digits, unit, h, hrepresentable, hparse.symm⟩
      · cases hparse
    · rintro ⟨digits, unit, h, hrepresentable, rfl⟩
      have hlt : Nat.ofDigitChars 10 digits 0 < UInt64.size :=
        Nat.lt_of_le_of_lt (Nat.le_mul_of_pos_right _ unit.factor_pos) hrepresentable
      rw [h.parseDuration_eq, if_pos hlt, Nat.mod_eq_of_lt hrepresentable]

/-- More minutes than 64 bits have seconds are read as 44 seconds. -/
theorem parseDuration_wraps : ¬∀ text millis, parseDuration text = some millis ↔ Denotes text millis := by
  intro hexact
  have hparse : parseDuration "307445734561825861m" = some 44000 := by decide
  obtain ⟨digits, unit, h, hrepresentable, hmillis⟩ := (hexact _ _).mp hparse
  have hwritten : Written "307445734561825861m" "307445734561825861".toList .minutes :=
    ⟨List.cons_ne_nil _ _, List.all_eq_true.mp rfl, "m", List.mem_singleton_self _, rfl⟩
  obtain ⟨rfl, rfl⟩ := h.unique hwritten
  exact absurd hrepresentable (by decide)

end Servatory
