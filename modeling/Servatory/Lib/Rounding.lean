import Mathlib.Algebra.Order.Field.Power
import Mathlib.Algebra.Order.Floor.Ring
import Mathlib.Data.Int.Log
import Mathlib.Data.Rat.Floor
import Mathlib.Tactic.FieldSimp
import Mathlib.Tactic.Linarith
import Mathlib.Tactic.NormNum
import Mathlib.Tactic.Positivity
import Mathlib.Tactic.Ring

/-! Rounding to the nearest binary floating-point number, ties to even, without an upper bound on the exponent. A format
    has a precision in bits, and a least exponent below which the numbers are evenly spaced. -/

namespace Rounding

structure Format where
  precision : ℕ
  least : ℤ
  precision_pos : 0 < precision

/-- The nearest integer, of two the even one. -/
def toEven (q : ℚ) : ℤ :=
  if q - ⌊q⌋ < 1 / 2 then ⌊q⌋ else if 1 / 2 < q - ⌊q⌋ then ⌊q⌋ + 1 else if ⌊q⌋ % 2 = 0 then ⌊q⌋ else ⌊q⌋ + 1

section
variable {q r : ℚ}

/-- The even integer is the floor or the next one, whichever is nearer. -/
theorem toEven_cases (q : ℚ) :
    toEven q = ⌊q⌋ ∧ q - ⌊q⌋ ≤ 1 / 2 ∨ toEven q = ⌊q⌋ + 1 ∧ 1 / 2 ≤ q - ⌊q⌋ := by
  rw [toEven]
  split
  · rename_i h
    exact .inl ⟨rfl, h.le⟩
  · rename_i hlow
    split
    · rename_i h
      exact .inr ⟨rfl, h.le⟩
    · rename_i hhigh
      split
      · exact .inl ⟨rfl, not_lt.mp hhigh⟩
      · exact .inr ⟨rfl, not_lt.mp hlow⟩

theorem abs_toEven_sub_le (q : ℚ) : |(toEven q : ℚ) - q| ≤ 1 / 2 := by
  have hfloor := Int.floor_le q
  have hnext := Int.lt_floor_add_one q
  rw [abs_le]
  rcases toEven_cases q with ⟨h, hle⟩ | ⟨h, hle⟩
  · rw [h]
    constructor <;> linarith
  · rw [h, Int.cast_add, Int.cast_one]
    constructor <;> linarith

theorem toEven_intCast (n : ℤ) : toEven n = n := by
  rw [toEven, Int.floor_intCast, sub_self, if_pos (by norm_num)]

theorem toEven_mono (h : q ≤ r) : toEven q ≤ toEven r := by
  have hfloor : ⌊q⌋ ≤ ⌊r⌋ := Int.floor_mono h
  rcases hfloor.eq_or_lt with heq | hlt
  · -- Between the same integers a larger number has a larger distance to the floor.
    have hdist : q - ⌊q⌋ ≤ r - ⌊r⌋ := by
      rw [heq]
      linarith
    simp only [toEven, heq] at hdist ⊢
    split_ifs <;> first | omega | (exfalso; linarith)
  · have hlow : toEven q ≤ ⌊q⌋ + 1 := by
      rcases toEven_cases q with ⟨hq, -⟩ | ⟨hq, -⟩ <;> omega
    have hhigh : ⌊r⌋ ≤ toEven r := by
      rcases toEven_cases r with ⟨hr, -⟩ | ⟨hr, -⟩ <;> omega
    omega

end

namespace Format
variable (f : Format) {q r : ℚ}

/-- The exponent of the step between the numbers around a given one. -/
def exponent (q : ℚ) : ℤ := max (Int.log 2 |q| + 1 - f.precision) f.least

def nearest (q : ℚ) : ℚ := toEven (q / 2 ^ f.exponent q) * 2 ^ f.exponent q

theorem step_pos (q : ℚ) : (0 : ℚ) < 2 ^ f.exponent q := zpow_pos (by norm_num) _

/-- An integral multiple of the step is a number of the format. -/
theorem nearest_of_multiple {n : ℤ} (h : q = n * 2 ^ f.exponent q) : f.nearest q = q := by
  have hdiv : q / 2 ^ f.exponent q = n := by
    rw [div_eq_iff (f.step_pos q).ne']
    exact h
  rw [nearest, hdiv, toEven_intCast, ← h]

theorem nearest_zero : f.nearest 0 = 0 := f.nearest_of_multiple (n := 0) (by simp)

/-- A number with few enough digits that is not too fine is not changed. -/
theorem nearest_eq_self {m : ℕ} {e : ℤ} (hm : m < 2 ^ f.precision) (he : f.least ≤ e) :
    f.nearest (m * 2 ^ e) = m * 2 ^ e := by
  rcases Nat.eq_zero_or_pos m with rfl | hpos
  · rw [Nat.cast_zero, zero_mul]
    exact f.nearest_zero
  · have hm1 : (1 : ℚ) ≤ m := by exact_mod_cast hpos
    have hpow : (0 : ℚ) < 2 ^ e := zpow_pos (by norm_num) e
    have hq : (0 : ℚ) < m * 2 ^ e := by positivity
    have hexp : f.exponent (m * 2 ^ e) ≤ e := by
      refine max_le ?_ he
      have hlt : (m * 2 ^ e : ℚ) < 2 ^ (e + f.precision) := by
        rw [zpow_add₀ (by norm_num), zpow_natCast, mul_comm]
        exact mul_lt_mul_of_pos_left (by exact_mod_cast hm) hpow
      have hlog := (Int.lt_zpow_iff_log_lt (b := 2) (R := ℚ) (by norm_num) hq).mp (by exact_mod_cast hlt)
      rw [abs_of_pos hq]
      omega
    refine f.nearest_of_multiple (n := m * 2 ^ (e - f.exponent (m * 2 ^ e)).toNat) ?_
    have hsplit : (2 : ℚ) ^ (e - f.exponent (m * 2 ^ e)).toNat * 2 ^ f.exponent (m * 2 ^ e) = 2 ^ e := by
      rw [← zpow_natCast, ← zpow_add₀ (by norm_num)]
      congr 1
      omega
    push_cast
    rw [mul_assoc, hsplit]

/-- The distance is at most half a step. -/
theorem abs_nearest_sub_le (q : ℚ) : |f.nearest q - q| ≤ 2 ^ f.exponent q / 2 := by
  have hstep := f.step_pos q
  have hround := abs_toEven_sub_le (q / 2 ^ f.exponent q)
  have heq : f.nearest q - q = (toEven (q / 2 ^ f.exponent q) - q / 2 ^ f.exponent q) * 2 ^ f.exponent q := by
    rw [nearest, sub_mul, div_mul_cancel₀ _ hstep.ne']
  rw [heq, abs_mul, abs_of_pos hstep]
  nlinarith

/-- Below a power of two, half a step is small enough. -/
theorem abs_nearest_sub_le_of_lt {k : ℤ} (hq : |q| < 2 ^ k) (hk : f.least + f.precision ≤ k) :
    |f.nearest q - q| ≤ 2 ^ (k - f.precision) / 2 := by
  rcases eq_or_ne q 0 with rfl | hne
  · rw [f.nearest_zero, sub_self, abs_zero]
    positivity
  · have hlog := (Int.lt_zpow_iff_log_lt (b := 2) (R := ℚ) (by norm_num) (abs_pos.mpr hne)).mp (by exact_mod_cast hq)
    refine (f.abs_nearest_sub_le q).trans (div_le_div_of_nonneg_right ?_ (by norm_num))
    exact zpow_le_zpow_right₀ (by norm_num) (max_le (by omega) (by omega))

theorem exponent_mono (hq : 0 < q) (h : q ≤ r) : f.exponent q ≤ f.exponent r := by
  have hlog : Int.log 2 |q| ≤ Int.log 2 |r| := by
    rw [abs_of_pos hq, abs_of_pos (hq.trans_le h)]
    exact Int.log_mono_right hq h
  exact max_le_max (by omega) (le_refl _)

/-- A power of two that is a multiple of the step around a number is still above it, or below it, after rounding. -/
theorem nearest_le_zpow {k : ℤ} (h : q ≤ 2 ^ k) (hk : f.exponent q ≤ k) : f.nearest q ≤ 2 ^ k := by
  have hstep := f.step_pos q
  have hsplit : (2 : ℚ) ^ k = ((2 ^ (k - f.exponent q).toNat : ℤ) : ℚ) * 2 ^ f.exponent q := by
    push_cast
    rw [← zpow_natCast, ← zpow_add₀ (by norm_num)]
    congr 1
    omega
  have hdiv : q / 2 ^ f.exponent q ≤ ((2 ^ (k - f.exponent q).toNat : ℤ) : ℚ) := by
    rw [div_le_iff₀ hstep, ← hsplit]
    exact h
  have hround := toEven_mono hdiv
  rw [toEven_intCast] at hround
  rw [nearest, hsplit]
  exact mul_le_mul_of_nonneg_right (by exact_mod_cast hround) hstep.le

theorem zpow_le_nearest {k : ℤ} (h : 2 ^ k ≤ q) (hk : f.exponent q ≤ k) : 2 ^ k ≤ f.nearest q := by
  have hstep := f.step_pos q
  have hsplit : (2 : ℚ) ^ k = ((2 ^ (k - f.exponent q).toNat : ℤ) : ℚ) * 2 ^ f.exponent q := by
    push_cast
    rw [← zpow_natCast, ← zpow_add₀ (by norm_num)]
    congr 1
    omega
  have hdiv : ((2 ^ (k - f.exponent q).toNat : ℤ) : ℚ) ≤ q / 2 ^ f.exponent q := by
    rw [le_div_iff₀ hstep, ← hsplit]
    exact h
  have hround := toEven_mono hdiv
  rw [toEven_intCast] at hround
  rw [nearest, hsplit]
  exact mul_le_mul_of_nonneg_right (by exact_mod_cast hround) hstep.le

theorem nearest_nonneg (hq : 0 ≤ q) : 0 ≤ f.nearest q := by
  have hround := toEven_mono (div_nonneg hq (f.step_pos q).le)
  rw [← Int.cast_zero, toEven_intCast] at hround
  exact mul_nonneg (by exact_mod_cast hround) (f.step_pos q).le

/-- Rounding keeps the order of numbers that are not negative. -/
theorem nearest_mono (hq : 0 ≤ q) (h : q ≤ r) : f.nearest q ≤ f.nearest r := by
  rcases hq.eq_or_lt with rfl | hpos
  · rw [f.nearest_zero]
    exact f.nearest_nonneg h
  · rcases (f.exponent_mono hpos h).eq_or_lt with heq | hlt
    · have hround : toEven (q / 2 ^ f.exponent q) ≤ toEven (r / 2 ^ f.exponent r) := by
        rw [heq]
        exact toEven_mono (div_le_div_of_nonneg_right h (f.step_pos r).le)
      rw [nearest, nearest, heq] at *
      exact mul_le_mul_of_nonneg_right (by exact_mod_cast hround) (f.step_pos r).le
    · -- The largest power of two up to `r` lies between the two.
      have hr : 0 < r := hpos.trans_le h
      have hprecision := f.precision_pos
      have hq' : f.exponent q = max (Int.log 2 q + 1 - f.precision) f.least := by rw [exponent, abs_of_pos hpos]
      have hr' : f.exponent r = max (Int.log 2 r + 1 - f.precision) f.least := by rw [exponent, abs_of_pos hr]
      have hlog : Int.log 2 q + 1 ≤ Int.log 2 r := by omega
      have hbelow : q ≤ 2 ^ Int.log 2 r := by
        have hsucc := Int.lt_zpow_succ_log_self (b := 2) (by norm_num) q
        push_cast at hsucc
        exact hsucc.le.trans (zpow_le_zpow_right₀ (by norm_num) hlog)
      have habove : 2 ^ Int.log 2 r ≤ r := by
        have hself := Int.zpow_log_le_self (b := 2) (by norm_num) hr
        exact_mod_cast hself
      exact (f.nearest_le_zpow hbelow (by omega)).trans (f.zpow_le_nearest habove (by omega))

end Format
end Rounding
