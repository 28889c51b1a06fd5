import Servatory.Host.Ups
import Servatory.Theorems.Host.Float

/-! What the daemon knows of the power supply: the variables that `upsc` lists are read in whatever order they come, and
    over any series of queries the report follows from the last answer and the failures behind it. -/

namespace Servatory

/-! ### A series of queries -/

namespace UpsCollector
open ProbeState (saturatingSucc)
variable {target : String} {threshold : UInt8} {queries : List Commands} {run : Commands}

/-- The last answer of some queries. -/
def lastAnswer (target : String) (queries : List Commands) : Option UpsSnapshot :=
  (queries.filterMap (query target)).getLast?

/-- The failures behind the last answer. -/
def failing (target : String) (queries : List Commands) : Nat :=
  (queries.reverse.takeWhile fun run => (query target run).isNone).length

theorem lastAnswer_concat : lastAnswer target (queries ++ [run]) = (query target run).or (lastAnswer target queries) := by
  rw [lastAnswer, List.filterMap_append]
  cases h : query target run with
  | none =>
    rw [List.filterMap_cons_none h, List.filterMap_nil, List.append_nil, Option.none_or]
    rfl
  | some snapshot => rw [List.filterMap_cons_some h, List.filterMap_nil, List.getLast?_concat, Option.some_or]

theorem failing_concat :
    failing target (queries ++ [run]) = if (query target run).isNone then failing target queries + 1 else 0 := by
  rw [failing, List.reverse_append, List.reverse_singleton, List.singleton_append, List.takeWhile_cons]
  split
  · rw [List.length_cons, failing]
  · rfl

theorem toNat_saturatingSucc (n : UInt8) : (saturatingSucc n).toNat = min 255 (n.toNat + 1) := by
  have hlt := n.toNat_lt
  rw [saturatingSucc]
  split
  · rename_i h
    rw [h]
    rfl
  · rename_i h
    have hne : n.toNat ≠ 255 := fun heq => h (UInt8.toNat_inj.mp heq)
    have hadd : (n + 1).toNat = (n.toNat + 1) % 256 := rfl
    omega

theorem collect_answer {c : UpsCollector} (hc : c.target = some target) {snapshot : UpsSnapshot}
    (h : query target run = some snapshot) :
    c.collect run = ({ c with consecutiveFailures := 0, lastGood := some snapshot }, snapshot) := by
  simp only [collect, hc, h]

theorem collect_failure {c : UpsCollector} (hc : c.target = some target) (h : query target run = none) :
    c.collect run =
      ({ c with consecutiveFailures := saturatingSucc c.consecutiveFailures },
        if saturatingSucc c.consecutiveFailures ≥ c.failuresBeforeUnavailable then
          { c.lastGood.getD unknown with stale := true, status := .unavailable }
        else { c.lastGood.getD unknown with stale := true }) := by
  simp only [collect, hc, h]

/-- What the collector keeps of the queries behind it. The failures are counted up to 255. -/
structure Remembers (target : String) (threshold : UInt8) (queries : List Commands) (c : UpsCollector) : Prop where
  asks : c.target = some target
  limit : c.failuresBeforeUnavailable = threshold
  lastGood : c.lastGood = lastAnswer target queries
  failures : c.consecutiveFailures.toNat = min 255 (failing target queries)

theorem Remembers.collect {c : UpsCollector} (h : Remembers target threshold queries c) (run : Commands) :
    Remembers target threshold (queries ++ [run]) (c.collect run).1 := by
  have hlast : lastAnswer target (queries ++ [run]) = (query target run).or c.lastGood := by
    rw [lastAnswer_concat, h.lastGood]
  cases hquery : query target run with
  | some snapshot =>
    rw [collect_answer h.asks hquery]
    refine ⟨h.asks, h.limit, ?_, ?_⟩
    · rw [hlast, hquery]
      rfl
    · rw [failing_concat, hquery]
      rfl
  | none =>
    rw [collect_failure h.asks hquery]
    refine ⟨h.asks, h.limit, ?_, ?_⟩
    · rw [hlast, hquery]
      rfl
    · rw [failing_concat, hquery, toNat_saturatingSucc, h.failures]
      simp only [Option.isNone_none, ↓reduceIte]
      omega

theorem remembers_runs (target : String) (threshold : UInt8) (queries : List Commands) :
    Remembers target threshold queries ((new (some target) threshold).runs queries) := by
  induction queries using List.reverseRecOn with
  | nil => exact ⟨rfl, rfl, rfl, rfl⟩
  | append_singleton queries run ih =>
    rw [runs, List.foldl_append]
    exact ih.collect run

theorem query_eq_some {snapshot : UpsSnapshot} (h : query target run = some snapshot) :
    ∃ flags, snapshot.status = upsStatusOf flags ∧ snapshot.stale = false := by
  obtain ⟨executable, -, h⟩ := List.exists_of_findSome?_eq_some h
  obtain ⟨output, -, h⟩ := Option.bind_eq_some_iff.mp h
  split at h
  · obtain ⟨flags, -, h⟩ := Option.bind_eq_some_iff.mp h
    rw [← Option.some.inj h]
    exact ⟨flags, rfl, rfl⟩
  · cases h

theorem upsStatusOf_ne_unavailable (flags : List Char) : upsStatusOf flags ≠ .unavailable := by
  rw [upsStatusOf]
  cases hfind : upsFlags.find? fun flag => (Text.words flags).contains flag.1.toList with
  | none => rintro ⟨⟩
  | some flag =>
    have hall : ∀ f ∈ upsFlags, f.2 ≠ .unavailable := by decide
    exact hall flag (List.mem_of_find?_eq_some hfind)

/-- What is reported without an answer. -/
theorem collect_failure_runs (h : query target run = none) :
    (((new (some target) threshold).runs queries).collect run).2 =
      { (lastAnswer target queries).getD unknown with
        stale := true
        status :=
          if threshold.toNat ≤ failing target queries + 1 then .unavailable
          else ((lastAnswer target queries).getD unknown).status } := by
  have hr := remembers_runs target threshold queries
  generalize (new (some target) threshold).runs queries = c at hr
  have hreached : saturatingSucc c.consecutiveFailures ≥ threshold ↔
      threshold.toNat ≤ failing target queries + 1 := by
    have := threshold.toNat_lt
    rw [ge_iff_le, UInt8.le_iff_toNat_le, toNat_saturatingSucc, hr.failures]
    omega
  rw [collect_failure hr.asks h, hr.lastGood, hr.limit]
  simp only [hreached]
  split <;> rfl

theorem collect_answer_runs {snapshot : UpsSnapshot} (h : query target run = some snapshot) :
    (((new (some target) threshold).runs queries).collect run).2 = snapshot := by
  rw [collect_answer (remembers_runs target threshold queries).asks h]

/-- The supply is reported as unavailable exactly when the failures in a row reach the threshold. -/
theorem unavailable_iff_failing :
    (((new (some target) threshold).runs queries).collect run).2.status = .unavailable ↔
      max threshold.toNat 1 ≤ failing target (queries ++ [run]) := by
  rw [failing_concat]
  cases hquery : query target run with
  | some snapshot =>
    obtain ⟨flags, hstatus, -⟩ := query_eq_some hquery
    rw [collect_answer_runs hquery, hstatus]
    simp [upsStatusOf_ne_unavailable]
  | none =>
    have hlast : ((lastAnswer target queries).getD unknown).status ≠ .unavailable := by
      cases hlast : lastAnswer target queries with
      | none => rintro ⟨⟩
      | some snapshot =>
        obtain ⟨answered, -, hanswer⟩ := List.mem_filterMap.mp (List.mem_of_getLast? hlast)
        obtain ⟨flags, hstatus, -⟩ := query_eq_some hanswer
        exact fun h => upsStatusOf_ne_unavailable flags (hstatus.symm.trans h)
    rw [collect_failure_runs hquery]
    by_cases hreached : threshold.toNat ≤ failing target queries + 1 <;> simp [hreached, hlast]

/-- Queries that all fail are failures in a row. -/
theorem length_le_failing {more : List Commands} (h : ∀ run ∈ more, query target run = none) :
    more.length ≤ failing target (queries ++ more) := by
  have hall : ∀ run ∈ more.reverse, (query target run).isNone = true := fun run hrun =>
    Option.isNone_iff_eq_none.mpr (h run (List.mem_reverse.mp hrun))
  rw [failing, List.reverse_append, List.takeWhile_append_of_pos hall, List.length_append, List.length_reverse]
  exact Nat.le_add_right _ _

/-- An answer is reported as it is. Without one the last answer is, or that nothing is known, marked as stale; and as
    unavailable once the failures in a row, of which more than 255 may have come, reach the threshold. -/
theorem report_of_queries (target : String) (threshold : UInt8) (queries : List Commands) (run : Commands) :
    let report := (((new (some target) threshold).runs queries).collect run).2
    (∀ snapshot, query target run = some snapshot → report = snapshot ∧ report.stale = false) ∧
    (query target run = none →
      report =
        { (lastAnswer target queries).getD unknown with
          stale := true
          status :=
            if threshold.toNat ≤ failing target queries + 1 then .unavailable
            else ((lastAnswer target queries).getD unknown).status }) := by
  refine ⟨fun snapshot hquery => ?_, collect_failure_runs⟩
  obtain ⟨flags, -, hstale⟩ := query_eq_some hquery
  rw [collect_answer_runs hquery]
  exact ⟨rfl, hstale⟩

/-- Two failed queries of a supply that is unavailable from the second on. -/
theorem report_of_queries_silent :
    (((new (some "ups@nas") 2).runs [fun _ _ => none]).collect fun _ _ => none).2 =
      { unknown with stale := true, status := .unavailable } :=
  (report_of_queries "ups@nas" 2 [fun _ _ => none] fun _ _ => none).2 rfl

end UpsCollector
/-! ### A listing -/

/-- A variable that `upsc` can list. -/
structure IsVariable (v : List Char × List Char) : Prop where
  name : Text.trim v.1 = v.1
  value : Text.trim v.2 = v.2
  colon : ':' ∉ v.1
  line : '\n' ∉ v.1 ++ v.2

/-- The line of a variable. -/
def variableLine (v : List Char × List Char) : List Char := v.1 ++ ':' :: ' ' :: v.2

/-- The lines of some variables. -/
def listing (vars : List (List Char × List Char)) : String := String.ofList (vars.flatMap fun v => variableLine v ++ ['\n'])

section
variable {v : List Char × List Char} {vars vars' : List (List Char × List Char)} {name : String} {value : List Char}

/-- Trimmed text does not end in white space. -/
theorem isWhitespace_getLast?_trim {text : List Char} {c : Char} (h : (Text.trim text).getLast? = some c) :
    Text.isWhitespace c = false := by
  have hne : Text.trim text ≠ [] := by
    intro hnil
    rw [hnil] at h
    cases h
  rw [List.getLast?_eq_some_getLast hne] at h
  rw [← Option.some.inj h]
  exact Bool.not_eq_true _ |>.mp (List.rdropWhile_last_not _ _ hne)

theorem stripReturn_variableLine (h : IsVariable v) : Text.stripReturn (variableLine v) = variableLine v := by
  refine if_neg fun hlast => ?_
  rw [variableLine, List.getLast?_append_of_ne_nil _ (List.cons_ne_nil _ _), List.getLast?_cons_cons] at hlast
  rcases List.eq_nil_or_concat v.2 with hnil | ⟨before, c, hconcat⟩
  · rw [hnil] at hlast
    cases hlast
  · rw [hconcat, List.concat_eq_append, ← List.cons_append, List.getLast?_concat] at hlast
    have hend : (Text.trim v.2).getLast? = some c := by
      rw [h.value, hconcat, List.concat_eq_append, List.getLast?_concat]
    rw [Option.some.inj hlast] at hend
    have := isWhitespace_getLast?_trim hend
    revert this
    decide

theorem lines_listing (h : ∀ v ∈ vars, IsVariable v) : Text.lines (listing vars).toList = vars.map variableLine := by
  rw [listing, String.toList_ofList]
  induction vars with
  | nil => rfl
  | cons v rest ih =>
    rw [List.forall_mem_cons] at h
    have hline : '\n' ∉ variableLine v := by
      have hnot := h.1.line
      rw [List.mem_append, not_or] at hnot
      simp [variableLine, hnot.1, hnot.2]
    rw [List.flatMap_cons, List.append_assoc, List.singleton_append, Text.lines_cons hline, stripReturn_variableLine h.1,
      ih h.2, List.map_cons]

theorem upscVariable_variableLine (h : IsVariable v) : upscVariable (variableLine v) = some v := by
  have htrim : Text.trim (' ' :: v.2) = v.2 := by
    rw [Text.trim, List.dropWhile_cons_of_pos (by decide)]
    exact h.value
  rw [upscVariable, variableLine, Text.splitOnce_append h.colon, Option.map_some]
  dsimp only
  rw [h.name, htrim]

/-- Each variable is found by its name. -/
theorem upscValue_listing (h : ∀ v ∈ vars, IsVariable v) (name : String) :
    upscValue (listing vars) name = (vars.find? fun v => v.1 = name.toList).map (·.2) := by
  rw [upscValue, lines_listing h]
  induction vars with
  | nil => rfl
  | cons v rest ih =>
    rw [List.forall_mem_cons] at h
    rw [List.map_cons, List.findSome?_cons, upscVariable_variableLine h.1, List.find?_cons]
    by_cases hname : v.1 = name.toList
    · simp [hname]
    · simpa [hname] using ih h.2

theorem upscValue_eq_some (h : ∀ v ∈ vars, IsVariable v) (hnodup : (vars.map (·.1)).Nodup)
    (hmem : (name.toList, value) ∈ vars) : upscValue (listing vars) name = some value := by
  rw [upscValue_listing h]
  cases hfind : vars.find? fun v => v.1 = name.toList with
  | none =>
    have hnone := List.find?_eq_none.mp hfind _ hmem
    simp at hnone
  | some v =>
    have hv : v.1 = name.toList := by simpa using List.find?_some hfind
    rw [List.inj_on_of_nodup_map hnodup (List.mem_of_find?_eq_some hfind) hmem hv]
    rfl

theorem upscValue_eq_none (h : ∀ v ∈ vars, IsVariable v) (hnot : ∀ value, (name.toList, value) ∉ vars) :
    upscValue (listing vars) name = none := by
  rw [upscValue_listing h, Option.map_eq_none_iff, List.find?_eq_none]
  rintro ⟨found, value⟩ hmem heq
  obtain rfl : found = name.toList := by simpa using heq
  exact hnot value hmem

/-- The order of the variables does not matter. -/
theorem upscValue_perm (h : ∀ v ∈ vars, IsVariable v) (hnodup : (vars.map (·.1)).Nodup) (hperm : vars.Perm vars')
    (name : String) : upscValue (listing vars') name = upscValue (listing vars) name := by
  have h' : ∀ v ∈ vars', IsVariable v := fun v hv => h v (hperm.mem_iff.mpr hv)
  by_cases hmem : ∃ value, (name.toList, value) ∈ vars
  · obtain ⟨value, hmem⟩ := hmem
    rw [upscValue_eq_some h hnodup hmem,
      upscValue_eq_some h' ((hperm.map _).nodup_iff.mp hnodup) (hperm.mem_iff.mp hmem)]
  · rw [upscValue_eq_none h fun value hv => hmem ⟨value, hv⟩,
      upscValue_eq_none h' fun value hv => hmem ⟨value, hperm.mem_iff.mpr hv⟩]

/-- A status stands for the most urgent of the flags that are known. -/
def MostUrgent (flags : List (List Char)) (status : UpsStatus) : Prop :=
  (∃ more flag less, upsFlags = more ++ (flag, status) :: less ∧ flag.toList ∈ flags ∧ ∀ f ∈ more, f.1.toList ∉ flags) ∨
    status = .unknown ∧ ∀ f ∈ upsFlags, f.1.toList ∉ flags

theorem mostUrgent_upsStatusOf (flags : List Char) : MostUrgent (Text.words flags) (upsStatusOf flags) := by
  rw [upsStatusOf]
  cases hfind : upsFlags.find? fun flag => (Text.words flags).contains flag.1.toList with
  | none =>
    refine .inr ⟨rfl, fun f hf hmem => ?_⟩
    exact List.find?_eq_none.mp hfind f hf (List.contains_iff_mem.mpr hmem)
  | some found =>
    obtain ⟨flag, status⟩ := found
    obtain ⟨hpresent, more, less, heq, hmore⟩ := List.find?_eq_some_iff_append.mp hfind
    refine .inl ⟨more, flag, less, heq, List.contains_iff_mem.mp hpresent, fun f hf hmem => ?_⟩
    have hnot := hmore f hf
    rw [List.contains_iff_mem.mpr hmem] at hnot
    cases hnot

/-- A decimal number as its text, and the nearest integer to it, halves up. -/
structure Decimal where
  whole : List Char
  fraction : List Char
  whole_ne_nil : whole ≠ []
  digits : ∀ c ∈ whole ++ fraction, c.isDigit

namespace Decimal

def text (d : Decimal) : List Char := decimalText d.whole d.fraction

def round (d : Decimal) : Nat :=
  (2 * Nat.ofDigitChars 10 (d.whole ++ d.fraction) 0 + 10 ^ d.fraction.length) / (2 * 10 ^ d.fraction.length)

end Decimal

/-- Whatever order `upsc` lists its variables in: the status stands for the most urgent flag, a percentage and a power are
    the numbers that are written, rounded and bounded, and without a status there is no answer. -/
theorem upsc_read (h : ∀ v ∈ vars, IsVariable v) (hnodup : (vars.map (·.1)).Nodup) (hperm : vars.Perm vars') :
    parseUpsc (listing vars') = parseUpsc (listing vars) ∧
    ((∀ flags, ("ups.status".toList, flags) ∉ vars) → parseUpsc (listing vars) = none) ∧
    ∀ flags, ("ups.status".toList, flags) ∈ vars → ∃ snapshot, parseUpsc (listing vars) = some snapshot ∧
      snapshot.stale = false ∧ MostUrgent (Text.words flags) snapshot.status ∧
      (∀ d : Decimal, d.fraction.length ≤ 13 → ("battery.charge".toList, d.text) ∈ vars →
        snapshot.batteryPercent = some (min 100 d.round).toUInt8) ∧
      (∀ d : Decimal, d.fraction.length ≤ 13 → ("ups.load".toList, d.text) ∈ vars →
        snapshot.loadPercent = some (min 100 d.round).toUInt8) ∧
      (∀ d : Decimal, d.fraction.length ≤ 11 → ("ups.realpower".toList, d.text) ∈ vars →
        snapshot.estimatedWatts = some (min 65535 d.round).toUInt16) ∧
      (∀ n : Nat, ("battery.runtime".toList, Nat.toDigits 10 n) ∈ vars →
        snapshot.runtimeSeconds = if n < UInt32.size then some n.toUInt32 else none) := by
  refine ⟨?_, fun hnot => ?_, fun flags hflags => ?_⟩
  · simp only [parseUpsc, upscValue_perm h hnodup hperm]
  · rw [parseUpsc, upscValue_eq_none h hnot]
    rfl
  · refine ⟨_, by rw [parseUpsc, upscValue_eq_some h hnodup hflags]; rfl, rfl, mostUrgent_upsStatusOf flags, ?_, ?_, ?_, ?_⟩
    · intro d hd hmem
      dsimp only
      rw [upscValue_eq_some h hnodup hmem]
      exact parsePercentU8_decimal d.whole_ne_nil d.digits hd
    · intro d hd hmem
      dsimp only
      rw [upscValue_eq_some h hnodup hmem]
      exact parsePercentU8_decimal d.whole_ne_nil d.digits hd
    · intro d hd hmem
      dsimp only
      rw [upscValue_eq_some h hnodup hmem]
      exact boundedU16_decimal d.whole_ne_nil d.digits hd
    · intro n hmem
      dsimp only
      rw [upscValue_eq_some h hnodup hmem]
      show (Text.parseUnsigned UInt32.size (Nat.toDigits 10 n)).map (·.toUInt32) = _
      rw [Text.parseUnsigned_toDigits]
      split <;> rfl

/-- A supply on battery, with a charge between two percentages. -/
def onBattery : List (List Char × List Char) :=
  [("battery.charge".toList, "7.5".toList), ("battery.runtime".toList, "1260".toList),
    ("ups.status".toList, "OB LB".toList)]

theorem onBattery_variables : ∀ v ∈ onBattery, IsVariable v := by
  intro v hv
  simp only [onBattery, List.mem_cons, List.not_mem_nil, or_false] at hv
  rcases hv with rfl | rfl | rfl
  · exact ⟨by decide, by decide, by decide, by decide⟩
  · exact ⟨by decide, by decide, by decide, by decide⟩
  · exact ⟨by decide, by decide, by decide, by decide⟩

/-- Its charge. -/
def sevenAndHalf : Decimal := ⟨['7'], ['5'], List.cons_ne_nil _ _, List.all_eq_true.mp rfl⟩

/-- It is listed from the last variable to the first. -/
theorem upsc_read_onBattery :
    ∃ snapshot, parseUpsc (listing onBattery.reverse) = some snapshot ∧
      MostUrgent (Text.words "OB LB".toList) snapshot.status ∧ snapshot.batteryPercent = some 8 ∧
      snapshot.runtimeSeconds = some 1260 := by
  obtain ⟨horder, -, hread⟩ := upsc_read onBattery_variables (by decide) onBattery.reverse_perm.symm
  obtain ⟨snapshot, hparse, -, hstatus, hcharge, -, -, hruntime⟩ := hread "OB LB".toList (by decide)
  have hround : (min 100 sevenAndHalf.round).toUInt8 = 8 := by decide
  have hpercent := hcharge sevenAndHalf (by decide) (by decide)
  rw [hround] at hpercent
  exact ⟨snapshot, horder.trans hparse, hstatus, hpercent, hruntime 1260 (by decide)⟩

end
end Servatory
