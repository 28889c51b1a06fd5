import Mathlib.Algebra.Order.BigOperators.Group.List
import Servatory.Host.Usage
import Servatory.Theorems.Host.Budget

/-! What the daemon makes of the texts that the kernel and `df` write: the load between two readings of the times of
    the processors, the load average, and the usage of a mounted filesystem. -/

namespace Servatory

/-! ### The load of the processors -/

/-- The fields of the first line of `/proc/stat`. The time of the guests is also in `user` and `nice`. -/
structure CpuCounters where
  user : Nat
  nice : Nat
  system : Nat
  idle : Nat
  iowait : Nat
  irq : Nat
  softirq : Nat
  steal : Nat
  guest : Nat
  guestNice : Nat

namespace CpuCounters

def fields (c : CpuCounters) : List Nat :=
  [c.user, c.nice, c.system, c.idle, c.iowait, c.irq, c.softirq, c.steal, c.guest, c.guestNice]

/-- All time, that of the guests once. -/
def total (c : CpuCounters) : Nat :=
  c.user + c.nice + c.system + c.idle + c.iowait + c.irq + c.softirq + c.steal

def resting (c : CpuCounters) : Nat := c.idle + c.iowait

def guests (c : CpuCounters) : Nat := c.guest + c.guestNice

/-- The line of the counters, with some more spaces before each. -/
def line (c : CpuCounters) (spaces : Nat → Nat) : List Char :=
  "cpu".toList ++ Text.spaced (c.fields.mapIdx fun i value => (spaces i, Nat.toDigits 10 value))

/-- What `/proc/stat` has: the line, and what is behind it. -/
def text (c : CpuCounters) (spaces : Nat → Nat) (rest : List Char) : String :=
  String.ofList (c.line spaces ++ '\n' :: rest)

/-- The load between two readings in percent. -/
def load (previous current : CpuCounters) : Nat :=
  100 * (current.total - previous.total - (current.resting - previous.resting)) / (current.total - previous.total)

variable {c : CpuCounters} {spaces : Nat → Nat}

theorem sum_fields : c.fields.sum = c.total + c.guests := by
  simp only [fields, total, guests, List.sum_cons, List.sum_nil]
  omega

theorem isWord_cpu : Text.IsWord "cpu".toList := .of_all (List.cons_ne_nil _ _) rfl

theorem isWord_fields : ∀ f ∈ c.fields.mapIdx fun i value => (spaces i, Nat.toDigits 10 value), Text.IsWord f.2 := by
  intro f hf
  obtain ⟨i, hi, rfl⟩ := List.mem_mapIdx.mp hf
  exact Text.isWord_toDigits _

theorem not_mem_line {ch : Char} (hspace : ch ≠ ' ') (hwhite : Text.isWhitespace ch = true) : ch ∉ c.line spaces :=
  Text.not_mem_spaced isWord_cpu isWord_fields hspace hwhite

theorem words_line : Text.words (c.line spaces) = "cpu".toList :: c.fields.map (Nat.toDigits 10) := by
  rw [line, Text.words_spaced isWord_cpu isWord_fields]
  rfl

/-- The line is found, and all of its fields are numbers. -/
theorem readCpuTimes_text (hsum : c.fields.sum < UInt64.size) (rest : List Char) :
    readCpuTimes (some (c.text spaces rest)) = some ⟨c.fields.sum, c.resting⟩ := by
  have hnewline : '\n' ∉ c.line spaces := not_mem_line (by decide) rfl
  have hreturn : '\r' ∉ c.line spaces := not_mem_line (by decide) rfl
  have hlines : (Text.lines (c.text spaces rest).toList).find? ("cpu ".toList.isPrefixOf ·) = some (c.line spaces) := by
    have htext : (c.text spaces rest).toList = c.line spaces ++ '\n' :: rest := String.toList_ofList
    rw [htext, Text.lines_cons hnewline, Text.stripReturn_eq hreturn]
    rfl
  have hvalues : (c.fields.map (Nat.toDigits 10)).filterMap (Text.parseUnsigned UInt64.size) = c.fields := by
    rw [List.filterMap_map]
    refine (List.filterMap_congr fun value hvalue => ?_).trans List.filterMap_some
    have hle : value ≤ c.fields.sum := List.le_sum_of_mem hvalue
    exact (Text.parseUnsigned_toDigits _ _).trans (if_pos (Nat.lt_of_le_of_lt hle hsum))
  have hidle : c.idle + c.iowait < UInt64.size := by
    rw [sum_fields, total] at hsum
    omega
  simp only [readCpuTimes, Option.bind_eq_bind, Option.bind_some, hlines, words_line, List.tail_cons, hvalues]
  have hlength : c.fields.length = 10 := rfl
  rw [hlength, if_neg (by decide), ← List.sum_eq_foldl, Nat.mod_eq_of_lt hsum]
  exact congrArg (fun idle => some (CpuTimes.mk _ idle)) (Nat.min_eq_left (Nat.le_sub_one_of_lt hidle))

end CpuCounters

/-- The busy part of some time in percent, counted in 64 bits. -/
theorem percent_le (total idle : Nat) : min ((total - idle) * 100) (UInt64.size - 1) / total ≤ 100 := by
  refine Nat.div_le_of_le_mul ((Nat.min_le_left _ _).trans ?_)
  exact Nat.mul_le_mul_right 100 (Nat.sub_le total idle)

theorem toNat_cpuPercent {previous current : CpuTimes} (h : previous.total < current.total) :
    (cpuPercent (some previous) (some current)).toNat =
      min ((current.total - previous.total - (current.idle - previous.idle)) * 100) (UInt64.size - 1) /
        (current.total - previous.total) := by
  have hle := percent_le (current.total - previous.total) (current.idle - previous.idle)
  have hlt := Nat.lt_of_le_of_lt hle (show 100 < UInt8.size by decide)
  rw [cpuPercent]
  exact (congrArg UInt8.toNat (if_pos ⟨by omega, hlt⟩)).trans (UInt8.toNat_ofNat_of_lt hlt)

theorem cpuPercent_le (previous current : Option CpuTimes) : (cpuPercent previous current).toNat ≤ 100 := by
  cases previous with
  | none => exact Nat.zero_le _
  | some previous =>
    cases current with
    | none => exact Nat.zero_le _
    | some current =>
      by_cases h : previous.total < current.total
      · rw [toNat_cpuPercent h]
        exact percent_le _ _
      · rw [cpuPercent, if_neg fun htotal => htotal.1 (Nat.sub_eq_zero_of_le (Nat.not_lt.mp h))]
        exact Nat.zero_le _

/-- Counting some of the time twice keeps the percentage when it is little. -/
theorem percent_eq_iff {total idle guests percent : Nat} (hpositive : 0 < total) (hidle : idle ≤ total)
    (hpercent : percent = 100 * (total - idle) / total) :
    min ((total + guests - idle) * 100) (UInt64.size - 1) / (total + guests) = percent ↔
      percent * (total + guests) < UInt64.size ∧
        ((99 - percent) * guests + 100 * (total - idle) < (percent + 1) * total ∨
          UInt64.size ≤ (percent + 1) * (total + guests)) := by
  have hhundred : percent ≤ 100 := by
    rw [hpercent]
    exact Nat.div_le_of_le_mul (by omega)
  have hfloor : percent * total ≤ 100 * (total - idle) := hpercent ▸ Nat.div_mul_le_self _ _
  have hguests : percent * guests ≤ 100 * guests := Nat.mul_le_mul_right guests hhundred
  have hsize : 0 < UInt64.size := by decide
  -- at 100 percent there is no room for a difference
  have hrest : (99 - percent) * guests + percent * guests = 99 * guests ∨
      (99 - percent) * guests = 0 ∧ percent * guests = 100 * guests ∧ percent * total = 100 * total := by
    rcases Nat.lt_or_ge percent 100 with h | h
    · left
      rw [← Nat.add_mul, Nat.sub_add_cancel (by omega)]
    · obtain rfl : percent = 100 := by omega
      exact .inr ⟨Nat.zero_mul _, rfl, rfl⟩
  rw [Nat.div_eq_iff (by omega)]
  simp only [Nat.mul_add, Nat.add_mul, Nat.one_mul]
  clear hpercent
  omega

/-- The load is measured with the time of the guests counted twice, in the total and in what is not idle: this shows
    unless it is little time. -/
theorem cpuPercent_eq_load_iff {previous current : CpuCounters}
    (hgrows : List.Forall₂ (· ≤ ·) previous.fields current.fields) (hsum : current.fields.sum < UInt64.size)
    (hpositive : previous.total < current.total) (spaces spaces' : Nat → Nat) (rest rest' : List Char) :
    (cpuPercent (readCpuTimes (some (previous.text spaces rest)))
        (readCpuTimes (some (current.text spaces' rest')))).toNat ≤ 100 ∧
      ((cpuPercent (readCpuTimes (some (previous.text spaces rest)))
          (readCpuTimes (some (current.text spaces' rest')))).toNat = previous.load current ↔
        previous.load current * (current.fields.sum - previous.fields.sum) < UInt64.size ∧
          ((99 - previous.load current) * (current.guests - previous.guests) +
              100 * (current.total - previous.total - (current.resting - previous.resting)) <
                (previous.load current + 1) * (current.total - previous.total) ∨
            UInt64.size ≤ (previous.load current + 1) * (current.fields.sum - previous.fields.sum))) := by
  refine ⟨cpuPercent_le _ _, ?_⟩
  simp only [CpuCounters.fields, List.forall₂_cons, List.forall₂_nil_left_iff] at hgrows
  have hguests : previous.guests ≤ current.guests := by
    rw [CpuCounters.guests, CpuCounters.guests]
    omega
  have hresting : current.resting - previous.resting ≤ current.total - previous.total := by
    rw [CpuCounters.resting, CpuCounters.resting, CpuCounters.total, CpuCounters.total]
    omega
  have hsums : current.fields.sum - previous.fields.sum =
      current.total - previous.total + (current.guests - previous.guests) := by
    rw [CpuCounters.sum_fields, CpuCounters.sum_fields]
    omega
  have hprevious : previous.fields.sum < current.fields.sum := by omega
  rw [CpuCounters.readCpuTimes_text (hprevious.trans hsum), CpuCounters.readCpuTimes_text hsum,
    toNat_cpuPercent hprevious, hsums]
  exact percent_eq_iff (by omega) hresting rfl

def bootCounters : CpuCounters := ⟨0, 0, 0, 0, 0, 0, 0, 0, 0, 0⟩

/-- Half of the time is that of a guest. -/
def guestCounters : CpuCounters := ⟨5, 0, 0, 5, 0, 0, 0, 0, 5, 0⟩

theorem bootCounters_grow : List.Forall₂ (· ≤ ·) bootCounters.fields guestCounters.fields := by
  simp [bootCounters, CpuCounters.fields]

theorem cpuPercent_eq_load_guests :
    (cpuPercent (readCpuTimes (some (bootCounters.text (fun _ => 0) [])))
        (readCpuTimes (some (guestCounters.text (fun _ => 0) [])))).toNat ≤ 100 ∧
      ((cpuPercent (readCpuTimes (some (bootCounters.text (fun _ => 0) [])))
          (readCpuTimes (some (guestCounters.text (fun _ => 0) [])))).toNat = bootCounters.load guestCounters ↔
        bootCounters.load guestCounters * (guestCounters.fields.sum - bootCounters.fields.sum) < UInt64.size ∧
          ((99 - bootCounters.load guestCounters) * (guestCounters.guests - bootCounters.guests) +
              100 * (guestCounters.total - bootCounters.total - (guestCounters.resting - bootCounters.resting)) <
                (bootCounters.load guestCounters + 1) * (guestCounters.total - bootCounters.total) ∨
            UInt64.size ≤
              (bootCounters.load guestCounters + 1) * (guestCounters.fields.sum - bootCounters.fields.sum))) :=
  cpuPercent_eq_load_iff bootCounters_grow (by decide) (by decide) _ _ _ _

/-- A guest that runs half of the time makes a load of 66 percent. -/
theorem cpuPercent_counts_guests_twice :
    ¬∀ previous current : CpuCounters, List.Forall₂ (· ≤ ·) previous.fields current.fields →
      current.fields.sum < UInt64.size → previous.total < current.total →
      (∀ c ∈ [previous, current], c.guest ≤ c.user ∧ c.guestNice ≤ c.nice) →
      current.guest - previous.guest ≤ current.user - previous.user →
      current.guestNice - previous.guestNice ≤ current.nice - previous.nice →
      (cpuPercent (readCpuTimes (some (previous.text (fun _ => 0) [])))
        (readCpuTimes (some (current.text (fun _ => 0) [])))).toNat = previous.load current := by
  intro hall
  have hload := hall bootCounters guestCounters bootCounters_grow (by decide) (by decide) (by decide) (by decide)
    (by decide)
  rw [CpuCounters.readCpuTimes_text (by decide), CpuCounters.readCpuTimes_text (by decide)] at hload
  revert hload
  decide

/-! ### The load average -/

/-- A load average as the kernel writes it: some digits, a point, and two more. -/
structure LoadAverage where
  whole : List Char
  tenths : Char
  hundredths : Char
  nonempty : whole ≠ []
  decimal : ∀ c ∈ whole, c.isDigit
  decimals : tenths.isDigit ∧ hundredths.isDigit

namespace LoadAverage

/-- The number before the point. -/
def units (l : LoadAverage) : Nat := Nat.ofDigitChars 10 l.whole 0

/-- The load in hundredths. -/
def value (l : LoadAverage) : Nat := 100 * l.units + Nat.ofDigitChars 10 [l.tenths, l.hundredths] 0

def digits (l : LoadAverage) : List Char := l.whole ++ '.' :: [l.tenths, l.hundredths]

/-- What `/proc/loadavg` has: the load of the last minute, and behind a space what else there is. -/
def text (l : LoadAverage) (rest : List Char) : String := String.ofList (l.digits ++ ' ' :: rest)

theorem digit_toNat {c : Char} (h : c.isDigit) : 48 ≤ c.toNat ∧ c.toNat ≤ 57 := Char.isDigit_iff_toNat.mp h

theorem isWord_digits (l : LoadAverage) : Text.IsWord l.digits := by
  refine ⟨List.append_ne_nil_of_left_ne_nil l.nonempty _, fun c hc => ?_⟩
  rcases List.mem_append.mp hc with hc | hc
  · exact Text.isWhitespace_of_isDigit (l.decimal c hc)
  · rcases List.mem_cons.mp hc with rfl | hc
    · rfl
    · rcases List.mem_pair.mp hc with rfl | rfl
      · exact Text.isWhitespace_of_isDigit l.decimals.1
      · exact Text.isWhitespace_of_isDigit l.decimals.2

/-- The byte of a digit is above that of zero by the digit. -/
theorem digit_byte {c : Char} (h : c.isDigit) :
    (if c.val.toUInt8 < 48 then none else some (c.val.toUInt8 - 48).toNat) = some (c.toNat - 48) := by
  obtain ⟨hlow, hhigh⟩ := digit_toNat h
  have hbyte : c.val.toUInt8.toNat = c.toNat := by
    rw [UInt32.toNat_toUInt8]
    exact Nat.mod_eq_of_lt (Nat.lt_of_le_of_lt hhigh (by decide))
  have hle : (48 : UInt8) ≤ c.val.toUInt8 := by
    rw [UInt8.le_iff_toNat_le, hbyte]
    exact hlow
  rw [if_neg (UInt8.not_lt.mpr hle), UInt8.toNat_sub_of_le _ _ hle, hbyte]
  rfl

/-- The sum saturates above what 16 bits hold. -/
theorem saturated (w t h : Nat) :
    min (min (min w (UInt32.size - 1) + t) (UInt32.size - 1) + h) (UInt32.size - 1) = min (w + t + h) (UInt32.size - 1) := by
  omega

theorem parseHundredths_digits (l : LoadAverage) (h : l.units < UInt32.size) :
    parseHundredths l.digits = if l.value < UInt16.size then some l.value.toUInt16 else none := by
  have hpoint : '.' ∉ l.whole := by
    intro hmem
    cases l.decimal '.' hmem
  have htenths := digit_toNat l.decimals.1
  have hhundredths := digit_toNat l.decimals.2
  have hascii : ∀ c ∈ [l.tenths, l.hundredths], c.toNat < 128 := by
    intro c hc
    rcases List.mem_pair.mp hc with rfl | rfl
    · exact Nat.lt_of_le_of_lt htenths.2 (by decide)
    · exact Nat.lt_of_le_of_lt hhundredths.2 (by decide)
  have hwhole : Text.parseUnsigned UInt32.size l.whole = some l.units := by
    rw [Text.parseUnsigned_digits l.nonempty l.decimal]
    exact if_pos h
  have hvalue : l.units * 100 + (l.tenths.toNat - 48) * 10 + (l.hundredths.toNat - 48) = l.value := by
    have hzero : '0'.toNat = 48 := rfl
    simp only [value, Nat.ofDigitChars_cons, Nat.ofDigitChars_nil, hzero]
    omega
  simp only [parseHundredths, digits, Text.splitOnce_append hpoint, Option.getD_some, hwhole, Option.bind_eq_bind,
    Option.bind_some, Utf8.encode_ascii hascii, List.map_cons, List.map_nil, List.take_succ_cons, List.take_nil,
    List.getElem?_cons_zero, List.getElem?_cons_succ, Option.join_some, digit_byte l.decimals.1,
    digit_byte l.decimals.2, saturated, hvalue]
  have hsizes : UInt16.size ≤ UInt32.size - 1 := by decide
  by_cases hfits : l.value < UInt16.size
  · rw [Nat.min_eq_left (Nat.le_of_lt (Nat.lt_of_lt_of_le hfits hsizes))]
  · rw [if_neg hfits, if_neg (Nat.not_lt.mpr (Nat.le_min.mpr ⟨Nat.not_lt.mp hfits, hsizes⟩))]

/-- A load that does not fit is shown as none. -/
theorem readLoadAverage_text (l : LoadAverage) (h : l.units < UInt32.size) (rest : List Char) :
    (readLoadAverage (some (l.text rest))).toNat = if l.value < UInt16.size then l.value else 0 := by
  have hhead : (Text.words (l.text rest).toList).head? = some l.digits := by
    rw [text, String.toList_ofList, Text.words_append_space l.isWord_digits]
    rfl
  simp only [readLoadAverage, Option.bind_eq_bind, Option.bind_some, hhead, l.parseHundredths_digits h]
  split
  · exact UInt16.toNat_ofNat_of_lt ‹_›
  · rfl

end LoadAverage

/-- A load average is shown as it is up to 655.35. A greater one is shown as zero, below every other. -/
theorem loadAverage_iff {l l' : LoadAverage} (h : l.units < UInt32.size) (h' : l'.units < UInt32.size)
    (rest rest' : List Char) :
    ((readLoadAverage (some (l.text rest))).toNat = min l.value 65535 ↔ l.value ≤ 65535) ∧
      (l.value ≤ l'.value →
        (readLoadAverage (some (l.text rest)) ≤ readLoadAverage (some (l'.text rest')) ↔
          l'.value ≤ 65535 ∨ l.value = 0 ∨ 65535 < l.value)) := by
  have hsize : UInt16.size = 65536 := rfl
  rw [UInt16.le_iff_toNat_le, l.readLoadAverage_text h, l'.readLoadAverage_text h', hsize]
  refine ⟨?_, fun hle => ?_⟩
  · split <;> omega
  · split <;> split <;> omega

/-- Loads of 0.50, of 655.35, and one hundredth above. -/
def halfLoad : LoadAverage := ⟨['0'], '5', '0', List.cons_ne_nil _ _, List.all_eq_true.mp rfl, by decide⟩
def largestLoad : LoadAverage := ⟨"655".toList, '3', '5', List.cons_ne_nil _ _, List.all_eq_true.mp rfl, by decide⟩
def overload : LoadAverage := ⟨"655".toList, '3', '6', List.cons_ne_nil _ _, List.all_eq_true.mp rfl, by decide⟩

theorem loadAverage_half :
    ((readLoadAverage (some (halfLoad.text "0.40 0.30".toList))).toNat = min halfLoad.value 65535 ↔
        halfLoad.value ≤ 65535) ∧
      (halfLoad.value ≤ largestLoad.value →
        (readLoadAverage (some (halfLoad.text "0.40 0.30".toList)) ≤ readLoadAverage (some (largestLoad.text [])) ↔
          largestLoad.value ≤ 65535 ∨ halfLoad.value = 0 ∨ 65535 < halfLoad.value)) :=
  loadAverage_iff (by decide) (by decide) _ _

/-- A load of 655.36 is shown as zero. -/
theorem loadAverage_vanishes :
    ¬∀ (l : LoadAverage) (rest : List Char), l.units < UInt32.size →
      (readLoadAverage (some (l.text rest))).toNat = min l.value 65535 := by
  intro hall
  have h := hall overload [] (by decide)
  rw [overload.readLoadAverage_text (by decide)] at h
  revert h
  decide

/-! ### The usage of a filesystem -/

/-- What `df` writes behind the device, with some more spaces before each field. -/
def usageFields (path : List Char) (spaces : Nat → Nat) (total used available percent : Nat) :
    List (Nat × List Char) :=
  [(spaces 0, Nat.toDigits 10 total), (spaces 1, Nat.toDigits 10 used), (spaces 2, Nat.toDigits 10 available),
    (spaces 3, Nat.toDigits 10 percent ++ ['%']), (spaces 4, path)]

/-- The line that `df` writes about a filesystem. -/
def usageLine (device path : List Char) (spaces : Nat → Nat) (total used available percent : Nat) : List Char :=
  device ++ Text.spaced (usageFields path spaces total used available percent)

def usageOutput (header line : List Char) : String := String.ofList (header ++ '\n' :: (line ++ ['\n']))

/-- The available space in MiB and the percentage, as far as they can be shown. -/
def reportedUsage (available percent : Nat) : FilesystemUsage :=
  ⟨(min percent 100).toUInt8, (min (available / 1024) (UInt32.size - 1)).toUInt32, true⟩

section
variable {config : Config} {build : SoftwareVersion} {fs : FilesystemConfig} {device header : List Char}
  {total used available percent : Nat}

theorem parsePercent (hpercent : percent ≤ 255) :
    Text.parseUnsigned UInt8.size ((Nat.toDigits 10 percent ++ ['%']).rdropWhile (· == '%')) = some percent := by
  have hdigits : (Nat.toDigits 10 percent).rdropWhile (· == '%') = Nat.toDigits 10 percent := by
    rw [List.rdropWhile_eq_self_iff]
    intro hne hlast
    have hdigit := Nat.isDigit_of_mem_toDigits (b := 10) (by decide) (by decide) (List.getLast_mem hne)
    rw [beq_iff_eq.mp hlast] at hdigit
    cases hdigit
  rw [List.rdropWhile_concat_pos _ _ _ rfl, hdigits, Text.parseUnsigned_toDigits, if_pos (Nat.lt_succ_of_le hpercent)]

theorem new_eq_reportedUsage (hpercent : percent ≤ 255) :
    FilesystemUsage.new percent.toUInt8 (min (available / 1024) (UInt32.size - 1)).toUInt32 =
      reportedUsage available percent := by
  have hpercent' : percent.toUInt8.toNat = percent := UInt8.toNat_ofNat_of_lt (Nat.lt_succ_of_le hpercent)
  have hlt : (100 : UInt8) < percent.toUInt8 ↔ 100 < percent := by
    rw [UInt8.lt_iff_toNat_lt, hpercent']
    rfl
  rw [FilesystemUsage.new, reportedUsage]
  congr 1
  by_cases h : 100 < percent
  · rw [if_pos (hlt.mpr h), Nat.min_eq_right (by omega)]
    rfl
  · rw [if_neg (mt hlt.mp h), Nat.min_eq_left (by omega)]

theorem isWord_percent (percent : Nat) : Text.IsWord (Nat.toDigits 10 percent ++ ['%']) := by
  obtain ⟨-, hplain⟩ := Text.isWord_toDigits percent
  refine ⟨List.append_ne_nil_of_right_ne_nil _ (List.cons_ne_nil _ _), fun c hc => ?_⟩
  rcases List.mem_append.mp hc with hc | hc
  · exact hplain c hc
  · rw [List.mem_singleton.mp hc]
    rfl

theorem isWord_usageFields {path : List Char} (hpath : Text.IsWord path) (spaces : Nat → Nat)
    (total used available percent : Nat) :
    ∀ f ∈ usageFields path spaces total used available percent, Text.IsWord f.2 := by
  rw [usageFields, List.forall_mem_cons, List.forall_mem_cons, List.forall_mem_cons, List.forall_mem_cons,
    List.forall_mem_singleton]
  exact ⟨Text.isWord_toDigits _, Text.isWord_toDigits _, Text.isWord_toDigits _, isWord_percent _, hpath⟩

/-- The line about the filesystem is the last one. -/
theorem getLast?_usageOutput {path : List Char} (hdevice : Text.IsWord device) (hpath : Text.IsWord path)
    (header : List Char) (spaces : Nat → Nat) (total used available percent : Nat) :
    (Text.lines (usageOutput header (usageLine device path spaces total used available percent)).toList).getLast? =
      some (usageLine device path spaces total used available percent) := by
  have hfields := isWord_usageFields hpath spaces total used available percent
  have hnewline : '\n' ∉ usageLine device path spaces total used available percent :=
    Text.not_mem_spaced hdevice hfields (by decide) rfl
  have hreturn : '\r' ∉ usageLine device path spaces total used available percent :=
    Text.not_mem_spaced hdevice hfields (by decide) rfl
  rw [usageOutput, String.toList_ofList, Text.getLast?_lines _ hnewline, Text.stripReturn_eq hreturn]

theorem parseFilesystemUsage_output {path : String} (hdevice : Text.IsWord device) (hpath : Text.IsWord path.toList)
    (hpercent : percent ≤ 255) (header : List Char) (spaces : Nat → Nat) (total used : Nat) :
    parseFilesystemUsage (usageOutput header (usageLine device path.toList spaces total used available percent)) path =
      if available < UInt64.size then some (reportedUsage available percent) else none := by
  have hwords : Text.words (usageLine device path.toList spaces total used available percent) =
      [device, Nat.toDigits 10 total, Nat.toDigits 10 used, Nat.toDigits 10 available,
        Nat.toDigits 10 percent ++ ['%'], path.toList] := by
    rw [usageLine, Text.words_spaced hdevice (isWord_usageFields hpath _ _ _ _ _)]
    rfl
  rw [parseFilesystemUsage, getLast?_usageOutput hdevice hpath]
  simp only [Option.bind_eq_bind, Option.bind_some, hwords]
  rw [if_neg (by simp)]
  simp only [List.getElem?_cons_succ, List.getElem?_cons_zero, Option.bind_some, parsePercent hpercent,
    Text.parseUnsigned_toDigits]
  split
  · exact congrArg some (new_eq_reportedUsage hpercent)
  · rfl

/-- Only what is one word is found at the end of a line. -/
theorem isWord_of_parseFilesystemUsage {output path : String} {usage : FilesystemUsage}
    (h : parseFilesystemUsage output path = some usage) : Text.IsWord path.toList := by
  obtain ⟨line, -, h⟩ := Option.bind_eq_some_iff.mp h
  dsimp only at h
  split at h
  · cases h
  · rename_i hcheck
    rw [not_or, not_not] at hcheck
    exact Text.isWord_of_mem_words (List.mem_of_getLast? hcheck.2)

/-- The usage of a mounted filesystem of an accepted configuration is read when its path has no white space. -/
theorem parseFilesystemUsage_iff {u : Unit} (hv : config.validate build = .ok u) (hfs : fs ∈ config.sources.filesystems)
    (hdevice : Text.IsWord device) (hpercent : percent ≤ 255) (header : List Char) (spaces : Nat → Nat)
    (total used available : Nat) :
    parseFilesystemUsage (usageOutput header (usageLine device fs.path.toList spaces total used available percent))
        fs.path = some (reportedUsage available percent) ↔
      (∀ c ∈ fs.path.toList, Text.isWhitespace c = false) ∧ available < UInt64.size := by
  have hne : fs.path.toList ≠ [] := by
    intro hnil
    have hvalid := Except.ok_of_seq ((Config.validated hv).filesystems fs hfs)
    rw [bailIf_eq_ok, startsWith, hnil] at hvalid
    cases hvalid
  constructor
  · intro h
    have hpath := isWord_of_parseFilesystemUsage h
    rw [parseFilesystemUsage_output hdevice hpath hpercent] at h
    split at h
    · exact ⟨hpath.plain, ‹_›⟩
    · cases h
  · rintro ⟨hplain, havailable⟩
    rw [parseFilesystemUsage_output hdevice ⟨hne, hplain⟩ hpercent, if_pos havailable]

end

theorem parseFilesystemUsage_root :
    parseFilesystemUsage (usageOutput "Filesystem".toList (usageLine "/dev/sda1".toList "/".toList (fun _ => 0) 9 5 4 60))
        "/" = some (reportedUsage 4 60) ↔
      (∀ c ∈ "/".toList, Text.isWhitespace c = false) ∧ 4 < UInt64.size :=
  @parseFilesystemUsage_iff Config.guestsOnly ⟨"1.0"⟩ ⟨"root", "/", "/"⟩ "/dev/sda1".toList 60 () Config.guestsOnly_valid
    (List.mem_singleton.mpr rfl) (.of_all (List.cons_ne_nil _ _) rfl) (by decide) _ _ _ _ _

/-- A filesystem whose path has a space. -/
def spacedPath : Config :=
  { Config.guestsOnly with
    sources := { Config.guestsOnly.sources with filesystems := [⟨"data", "/mnt/my disk", "DATA"⟩] } }

theorem spacedPath_valid : spacedPath.validate ⟨"1.0"⟩ = .ok () := by rfl

/-- It is mounted and not measured. -/
theorem parseFilesystemUsage_spaced :
    ¬∀ (config : Config) (build : SoftwareVersion) (fs : FilesystemConfig) (device : List Char) (available percent : Nat),
      config.validate build = .ok () → fs ∈ config.sources.filesystems → Text.IsWord device → percent ≤ 255 →
        ∀ (header : List Char) (spaces : Nat → Nat) (total used : Nat),
          parseFilesystemUsage (usageOutput header
            (usageLine device fs.path.toList spaces total used available percent)) fs.path =
              some (reportedUsage available percent) := by
  intro hall
  have h := hall spacedPath ⟨"1.0"⟩ ⟨"data", "/mnt/my disk", "DATA"⟩ "/dev/sda1".toList 4 60 spacedPath_valid
    (List.mem_singleton.mpr rfl) (.of_all (List.cons_ne_nil _ _) rfl) (by decide) [] (fun _ => 0) 9 5
  exact absurd ((isWord_of_parseFilesystemUsage h).plain ' ' (by decide)) (by decide)

end Servatory
