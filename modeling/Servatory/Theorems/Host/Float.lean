import Servatory.Host.Float

/-! What is read of a decimal number and brought into a range is the number itself, rounded to the nearest integer, as long
    as it has few enough decimals: the floating-point number between them is never on the other side of a half. -/

namespace Servatory

namespace F64
variable {limit n d b : ℕ}

theorem nearest_natCast (h : n < 2 ^ 53) : binary64.nearest n = n := by
  have hself := binary64.nearest_eq_self (m := n) (e := 0) h (by decide)
  rwa [zpow_zero, mul_one] at hself

theorem nearest_half {m : ℕ} (h : m < 2 ^ 53) : binary64.nearest (m / 2) = m / 2 := by
  have hself := binary64.nearest_eq_self (m := m) (e := -1) h (by decide)
  rwa [zpow_neg_one, ← div_eq_mul_inv] at hself

theorem le_overflow : (2 : ℚ) ^ 53 ≤ overflow := pow_le_pow_right₀ (by norm_num) (by norm_num)

/-- A number that is not negative is finite, or above every limit. -/
theorem ofRat_cases {q : ℚ} (hq : 0 ≤ q) :
    ofRat q = .posInf ∧ overflow ≤ binary64.nearest q ∨
      ofRat q = .finite (binary64.nearest q) ∧ 0 ≤ binary64.nearest q := by
  have hnonneg := binary64.nearest_nonneg hq
  have hneg : ¬binary64.nearest q ≤ -overflow := by
    have := le_overflow
    linarith
  by_cases hlarge : overflow ≤ binary64.nearest q
  · exact .inl ⟨if_pos hlarge, hlarge⟩
  · exact .inr ⟨(if_neg hlarge).trans (if_neg hneg), hnonneg⟩

theorem clampRound_of_le {q : ℚ} (hq : 0 ≤ q) (h : (limit : ℚ) ≤ binary64.nearest q) :
    (ofRat q).clampRound limit = limit := by
  rcases ofRat_cases hq with ⟨heq, -⟩ | ⟨heq, hnonneg⟩
  · rw [heq]
    rfl
  · have hfloor : ⌊(limit : ℚ) + 1 / 2⌋ = limit := by
      rw [Int.floor_eq_iff]
      constructor <;> push_cast <;> linarith
    rw [heq, clampRound, max_eq_left hnonneg, min_eq_right h, hfloor]
    rfl

theorem clampRound_of_lt {q : ℚ} (hq : 0 ≤ q) (hlimit : limit < 2 ^ 53) (h : binary64.nearest q ≤ limit) {m : ℕ}
    (hlow : (m : ℚ) ≤ binary64.nearest q + 1 / 2) (hhigh : binary64.nearest q + 1 / 2 < m + 1) :
    (ofRat q).clampRound limit = m := by
  rcases ofRat_cases hq with ⟨-, hlarge⟩ | ⟨heq, hnonneg⟩
  · have hsmall : (limit : ℚ) < 2 ^ 53 := by exact_mod_cast hlimit
    have := le_overflow
    linarith
  · have hfloor : ⌊binary64.nearest q + 1 / 2⌋ = m := by
      rw [Int.floor_eq_iff]
      exact ⟨by exact_mod_cast hlow, by exact_mod_cast hhigh⟩
    rw [heq, clampRound, max_eq_left hnonneg, min_eq_left h, hfloor]
    rfl

/-- A fraction with a small denominator is rounded as if it had been exact. -/
theorem clampRound_ofRat (hlimit : limit < 2 ^ b) (hd : 0 < d) (hfine : d < 2 ^ (53 - b)) :
    (ofRat (n / d)).clampRound limit = min limit ((2 * n + d) / (2 * d)) := by
  have hb : b < 53 := by
    by_contra hlarge
    rw [Nat.sub_eq_zero_of_le (not_lt.mp hlarge), pow_zero] at hfine
    omega
  have hlimit53 : limit < 2 ^ 53 := hlimit.trans (Nat.pow_lt_pow_right (by decide) hb)
  have hdpos : (0 : ℚ) < d := by exact_mod_cast hd
  have hq : (0 : ℚ) ≤ n / d := by positivity
  rcases Nat.lt_or_ge n (limit * d) with hlt | hge
  · have hqlimit : (n / d : ℚ) < limit := by
      rw [div_lt_iff₀ hdpos]
      exact_mod_cast hlt
    have hbelow : binary64.nearest (n / d) ≤ limit := by
      rw [← nearest_natCast hlimit53]
      exact binary64.nearest_mono hq hqlimit.le
    generalize hm : (2 * n + d) / (2 * d) = m
    have hmul : m * (2 * d) ≤ 2 * n + d := hm ▸ Nat.div_mul_le_self _ _
    have hsucc : 2 * n + d < (m + 1) * (2 * d) := by
      rw [← hm]
      exact Nat.lt_mul_of_div_lt (Nat.lt_succ_self _) (by omega)
    have hmlimit : m ≤ limit := by
      rw [← hm]
      refine Nat.le_of_lt_succ ((Nat.div_lt_iff_lt_mul (by omega)).mpr ?_)
      have := Nat.mul_le_mul_left 2 hlt
      nlinarith
    have hmulq : (m : ℚ) * (2 * d) ≤ 2 * n + d := by exact_mod_cast hmul
    have hsuccq : (2 * n + d + 1 : ℚ) ≤ (m + 1) * (2 * d) := by exact_mod_cast hsucc
    rw [min_eq_right hmlimit]
    refine clampRound_of_lt hq hlimit53 hbelow ?_ ?_
    · -- The half below the result is a floating-point number, and rounding keeps the order.
      rcases Nat.eq_zero_or_pos m with rfl | hpos
      · have := binary64.nearest_nonneg hq
        push_cast
        linarith
      · have hcast : ((2 * m - 1 : ℕ) : ℚ) = 2 * m - 1 := by
          rw [Nat.cast_sub (by omega)]
          push_cast
          ring
        have hhalf : ((2 * m - 1 : ℕ) / 2 : ℚ) ≤ n / d := by
          rw [le_div_iff₀ hdpos, hcast]
          linarith
        have hsize : 2 * m - 1 < 2 ^ 53 := by
          have hpow : 2 * 2 ^ b ≤ 2 ^ 53 := by
            rw [← pow_succ']
            exact Nat.pow_le_pow_right (by decide) hb
          omega
        have hmono := binary64.nearest_mono (by positivity) hhalf
        rw [nearest_half hsize, hcast] at hmono
        linarith
    · -- The fraction is farther from the half above the result than rounding goes.
      have hbound : |(n / d : ℚ)| < 2 ^ (b : ℤ) := by
        rw [abs_of_nonneg hq, zpow_natCast]
        exact hqlimit.trans (by exact_mod_cast hlimit)
      have herror := binary64.abs_nearest_sub_le_of_lt hbound (by show (-1074 + 53 : ℤ) ≤ b; omega)
      have hstep : (2 : ℚ) ^ ((b : ℤ) - (53 : ℕ)) * d < 1 := by
        have hpow : (2 : ℚ) ^ ((b : ℤ) - (53 : ℕ)) * 2 ^ (53 - b) = 1 := by
          rw [← zpow_natCast 2 (53 - b), ← zpow_add₀ (by norm_num), Nat.cast_sub hb.le]
          norm_num
        have hfineq : (d : ℚ) < 2 ^ (53 - b) := by exact_mod_cast hfine
        rw [← hpow]
        exact mul_lt_mul_of_pos_left hfineq (by positivity)
      have hgap : (n / d : ℚ) + 1 / (2 * d) ≤ m + 1 / 2 := by
        rw [div_add_div _ _ hdpos.ne' (by positivity), div_le_iff₀ (by positivity)]
        nlinarith
      have hhalfstep : (2 : ℚ) ^ ((b : ℤ) - (53 : ℕ)) / 2 < 1 / (2 * d) := by
        rw [lt_div_iff₀ (by positivity), ← mul_assoc, div_mul_cancel₀ _ (by norm_num)]
        exact hstep
      have hup := (abs_le.mp herror).2
      have hprecision : binary64.precision = 53 := rfl
      rw [hprecision] at hup
      linarith
  · have hqlimit : (limit : ℚ) ≤ n / d := by
      rw [le_div_iff₀ hdpos]
      exact_mod_cast hge
    have habove : (limit : ℚ) ≤ binary64.nearest (n / d) := by
      rw [← nearest_natCast hlimit53]
      exact binary64.nearest_mono (Nat.cast_nonneg _) hqlimit
    rw [clampRound_of_le hq habove, min_eq_left]
    rw [Nat.le_div_iff_mul_le (by omega)]
    nlinarith

end F64

/-! ### Decimal numbers -/

/-- Digits, with a point before the last ones if there are such. -/
def decimalText (whole fraction : List Char) : List Char := whole ++ if fraction.isEmpty then [] else '.' :: fraction

section
variable {whole fraction : List Char}

theorem decimal_chars (h : ∀ c ∈ whole ++ fraction, c.isDigit) : ∀ c ∈ decimalText whole fraction, c.isDigit ∨ c = '.' := by
  intro c hc
  rcases List.mem_append.mp hc with hc | hc
  · exact .inl (h c (List.mem_append_left _ hc))
  · split at hc
    · cases hc
    · rcases List.mem_cons.mp hc with rfl | hc
      · exact .inr rfl
      · exact .inl (h c (List.mem_append_right _ hc))

theorem ne_of_isDigit {c d : Char} (h : c.isDigit) (hd : d.isDigit = false) : c ≠ d := by
  rintro rfl
  rw [hd] at h
  cases h

theorem toLower_of_isDigit {c : Char} (h : c.isDigit) : c.toLower = c := by
  refine dif_neg ?_
  rintro ⟨hlow, -⟩
  have hhigh : c.toNat ≤ 57 := (Char.isDigit_iff_toNat.mp h).2
  have hlow : 65 ≤ c.toNat := hlow
  omega

theorem parseMantissa_decimal (hne : whole ≠ []) (h : ∀ c ∈ whole ++ fraction, c.isDigit) :
    parseMantissa (decimalText whole fraction) =
      some ((Nat.ofDigitChars 10 (whole ++ fraction) 0 : ℚ) / 10 ^ fraction.length) := by
  have hpoint : ∀ {digits : List Char}, (∀ c ∈ digits, c.isDigit) → '.' ∉ digits :=
    fun hall hmem => ne_of_isDigit (hall '.' hmem) (by decide) rfl
  have hwhole : '.' ∉ whole := hpoint fun c hc => h c (List.mem_append_left _ hc)
  have hsplit : (Text.splitOnce '.' (decimalText whole fraction)).getD (decimalText whole fraction, []) = (whole, fraction) := by
    rw [decimalText]
    split
    · rename_i hempty
      rw [List.isEmpty_iff.mp hempty, List.append_nil, Text.splitOnce, if_neg hwhole]
      rfl
    · rw [Text.splitOnce_append hwhole]
      rfl
  have hall : ((whole ++ fraction).isEmpty || !(whole ++ fraction).all (·.isDigit)) = false := by
    rw [Bool.or_eq_false_iff, List.isEmpty_eq_false_iff, Bool.not_eq_false', List.all_eq_true]
    exact ⟨fun hnil => hne (List.append_eq_nil_iff.mp hnil).1, h⟩
  simp only [parseMantissa, hsplit, hall, Bool.false_eq_true, ↓reduceIte]

/-- A decimal number has no sign, no exponent and no name. -/
theorem parseF64_decimal (hne : whole ≠ []) (h : ∀ c ∈ whole ++ fraction, c.isDigit) :
    parseF64 (decimalText whole fraction) =
      some (.ofRat (Nat.ofDigitChars 10 (whole ++ fraction) 0 / 10 ^ fraction.length)) := by
  have hchars := decimal_chars h
  have hother : ∀ d : Char, d.isDigit = false → d ≠ '.' → d ∉ decimalText whole fraction := by
    intro d hd hpoint hmem
    rcases hchars d hmem with hdigit | rfl
    · exact ne_of_isDigit hdigit hd rfl
    · exact hpoint rfl
  have hsign : takeSign (decimalText whole fraction) = (false, decimalText whole fraction) := by
    unfold takeSign
    split
    · rename_i rest heq
      exact absurd (heq ▸ List.mem_cons_self ..) (hother '-' (by decide) (by decide))
    · rename_i rest heq
      exact absurd (heq ▸ List.mem_cons_self ..) (hother '+' (by decide) (by decide))
    · rfl
  have hname : ∀ name : String, (∃ d ∈ name.toList, d.isDigit = false ∧ d ≠ '.') →
      String.ofList ((decimalText whole fraction).map Char.toLower) ≠ name := by
    rintro name ⟨d, hd, hdigit, hpoint⟩ heq
    rw [← heq, String.toList_ofList] at hd
    obtain ⟨c, hc, rfl⟩ := List.mem_map.mp hd
    have hsame : c.toLower = c := by
      rcases hchars c hc with hc | rfl
      · exact toLower_of_isDigit hc
      · rfl
    rw [hsame] at hdigit hpoint
    exact hother c hdigit hpoint hc
  have hspan : (decimalText whole fraction).span (fun c => c != 'e' && c != 'E') = (decimalText whole fraction, []) := by
    have hall : ∀ c ∈ decimalText whole fraction, (c != 'e' && c != 'E') = true := by
      intro c hc
      rw [Bool.and_eq_true, bne_iff_ne, bne_iff_ne]
      constructor
      · rintro rfl
        exact hother 'e' (by decide) (by decide) hc
      · rintro rfl
        exact hother 'E' (by decide) (by decide) hc
    rw [List.span_eq_takeWhile_dropWhile, List.takeWhile_eq_self_iff.mpr hall, List.dropWhile_eq_nil_iff.mpr hall]
  rw [parseF64, hsign]
  simp only [hname "inf" ⟨'i', by decide, by decide, by decide⟩, hname "infinity" ⟨'i', by decide, by decide, by decide⟩,
    hname "nan" ⟨'n', by decide, by decide, by decide⟩, or_self, ↓reduceIte, parseDecimal, hspan,
    parseMantissa_decimal hne h, Option.map_some, Bool.false_eq_true]

/-- A decimal number in a range is the exact one rounded, as long as it has few enough decimals for the range. -/
theorem clampRound_decimal {limit b : ℕ} (hne : whole ≠ []) (h : ∀ c ∈ whole ++ fraction, c.isDigit) (hlimit : limit < 2 ^ b)
    (hfine : 10 ^ fraction.length < 2 ^ (53 - b)) :
    (parseF64 (decimalText whole fraction)).map (F64.clampRound limit) =
      some (min limit
        ((2 * Nat.ofDigitChars 10 (whole ++ fraction) 0 + 10 ^ fraction.length) / (2 * 10 ^ fraction.length))) := by
  have hround := @F64.clampRound_ofRat limit (Nat.ofDigitChars 10 (whole ++ fraction) 0) (10 ^ fraction.length) b hlimit
    (Nat.pow_pos (by decide)) hfine
  rw [Nat.cast_pow, Nat.cast_ofNat] at hround
  rw [parseF64_decimal hne h, Option.map_some, hround]

/-- A percentage with up to 13 decimals is rounded to the nearest whole one, halves up, and is at most 100. -/
theorem parsePercentU8_decimal (hne : whole ≠ []) (h : ∀ c ∈ whole ++ fraction, c.isDigit) (hlength : fraction.length ≤ 13) :
    parsePercentU8 (decimalText whole fraction) =
      some (min 100
        ((2 * Nat.ofDigitChars 10 (whole ++ fraction) 0 + 10 ^ fraction.length) / (2 * 10 ^ fraction.length))).toUInt8 := by
  have hround := @clampRound_decimal whole fraction 100 7 hne h (by decide)
    ((Nat.pow_le_pow_right (by decide) hlength).trans_lt (by decide))
  have hmap : parsePercentU8 (decimalText whole fraction) =
      ((parseF64 (decimalText whole fraction)).map (F64.clampRound 100)).map (·.toUInt8) := by
    rw [Option.map_map]
    rfl
  rw [hmap, hround, Option.map_some]

theorem boundedU16_decimal (hne : whole ≠ []) (h : ∀ c ∈ whole ++ fraction, c.isDigit) (hlength : fraction.length ≤ 11) :
    (parseF64 (decimalText whole fraction)).map boundedU16 =
      some (min 65535
        ((2 * Nat.ofDigitChars 10 (whole ++ fraction) 0 + 10 ^ fraction.length) / (2 * 10 ^ fraction.length))).toUInt16 := by
  have hround := @clampRound_decimal whole fraction 65535 16 hne h (by decide)
    ((Nat.pow_le_pow_right (by decide) hlength).trans_lt (by decide))
  have hmap : (parseF64 (decimalText whole fraction)).map boundedU16 =
      ((parseF64 (decimalText whole fraction)).map (F64.clampRound 65535)).map (·.toUInt16) := by
    rw [Option.map_map]
    rfl
  rw [hmap, hround, Option.map_some]

end
end Servatory
