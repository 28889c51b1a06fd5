import Mathlib.Order.OrderDual
import Servatory.Host.Route
import Servatory.Lib.FirstMax

/-! The default route that is read from the kernel's table is that of the table: the first with the least metric among
    those that are up, whatever else the table holds. -/

namespace Servatory

/-! ### The kernel's table -/

/-- A route of the kernel. Metrics from 2^31 on, which it prints as negative numbers, are left out. The program passes over
    the gateway, the counters and the window. -/
structure KernelRoute where
  interface : List Char
  destination : UInt32
  gateway : UInt32
  flags : UInt16
  references : Nat
  uses : Nat
  metric : Nat
  mask : UInt32
  window : List Nat
  metric_lt : metric < 2 ^ 31

namespace KernelRoute

def hexDigit (n : Nat) : Char := "0123456789ABCDEF".toList.getD n '0'

/-- The digits of a number in a field of a fixed width. -/
def hexField (width n : Nat) : List Char := (List.range width).map fun i => hexDigit (n / 16 ^ (width - 1 - i) % 16)

/-- The fields behind the interface. -/
def fields (r : KernelRoute) : List (List Char) :=
  [hexField 8 r.destination.toNat, hexField 8 r.gateway.toNat, hexField 4 r.flags.toNat, Nat.toDigits 10 r.references,
    Nat.toDigits 10 r.uses, Nat.toDigits 10 r.metric, hexField 8 r.mask.toNat] ++ r.window.map (Nat.toDigits 10)

/-- A line of the table, filled up with spaces. -/
def line (r : KernelRoute) : List Char :=
  let text := r.interface ++ r.fields.flatMap ('\t' :: ·)
  text ++ List.replicate (127 - text.length) ' '

/-- The table as the kernel prints it. -/
def table (header : List Char) (routes : List KernelRoute) : String :=
  String.ofList (header ++ '\n' :: routes.flatMap fun r => r.line ++ ['\n'])

/-- A route to everywhere that is up. -/
def isDefault (r : KernelRoute) : Bool := r.destination == 0 && r.mask == 0 && r.flags.toNat.testBit 0

end KernelRoute

/-! ### Numbers -/

open KernelRoute

/-- What `parseHex` takes a digit for. -/
def hexValue (c : Char) : Option Nat :=
  if c.isDigit then some (c.toNat - 48)
  else if 'a' ≤ c ∧ c ≤ 'f' then some (c.toNat - 87)
  else if 'A' ≤ c ∧ c ≤ 'F' then some (c.toNat - 55)
  else none

theorem hexDigit_spec : ∀ n < 16, hexValue (hexDigit n) = some n ∧ Text.isWhitespace (hexDigit n) = false ∧
    hexDigit n ≠ '+' ∧ (hexDigit n = '0' ↔ n = 0) := by decide

theorem isWord_hexField (width n : Nat) (hwidth : width ≠ 0) : Text.IsWord (hexField width n) := by
  refine ⟨fun hnil => hwidth ?_, fun c hc => ?_⟩
  · have hlength := congrArg List.length hnil
    rwa [hexField, List.length_map, List.length_range, List.length_nil] at hlength
  · obtain ⟨i, -, rfl⟩ := List.mem_map.mp hc
    exact (hexDigit_spec _ (Nat.mod_lt _ (by decide))).2.1

/-- The flags are read back. -/
theorem parseHex_hexField {n : Nat} (h : n < UInt16.size) : parseHex UInt16.size (hexField 4 n) = some n := by
  have hdigit : ∀ k, hexValue (hexDigit (k % 16)) = some (k % 16) := fun k =>
    (hexDigit_spec _ (Nat.mod_lt _ (by decide))).1
  have hsign : (hexField 4 n).head? ≠ some '+' := fun heq =>
    (hexDigit_spec _ (Nat.mod_lt _ (by decide))).2.2.1 (Option.some.inj heq)
  have hvalues : (hexField 4 n).mapM hexValue =
      some [n / 4096 % 16, n / 256 % 16, n / 16 % 16, n % 16] := by
    have hfield : hexField 4 n =
        [hexDigit (n / 4096 % 16), hexDigit (n / 256 % 16), hexDigit (n / 16 % 16), hexDigit (n / 1 % 16)] := rfl
    rw [hfield, Nat.div_one]
    simp only [List.mapM_cons, List.mapM_nil, hdigit, Option.pure_def, Option.bind_eq_bind, Option.bind_some]
  have hsize : UInt16.size = 65536 := rfl
  have hvalue : [n / 4096 % 16, n / 256 % 16, n / 16 % 16, n % 16].foldl (fun value digit => value * 16 + digit) 0 = n := by
    simp only [List.foldl_cons, List.foldl_nil]
    omega
  rw [parseHex, if_neg hsign]
  show ((hexField 4 n).mapM hexValue).bind _ = _
  rw [hvalues, Option.bind_some]
  dsimp only
  rw [hvalue, if_neg]
  simpa using h

/-- A field of zeros is a zero. -/
theorem hexField_eq_zeros {n : Nat} (h : n < UInt32.size) : hexField 8 n = "00000000".toList ↔ n = 0 := by
  constructor
  · intro heq
    have hdigit : ∀ i < 8, n / 16 ^ (7 - i) % 16 = 0 := by
      intro i hi
      refine (hexDigit_spec _ (Nat.mod_lt _ (by decide))).2.2.2.mp ?_
      have hget : (hexField 8 n)[i]? = some (hexDigit (n / 16 ^ (7 - i) % 16)) := by
        rw [hexField, List.getElem?_map, List.getElem?_range hi]
        rfl
      rw [heq] at hget
      have hzeros : "00000000".toList[i]? = some '0' := by
        have hall : ∀ i < 8, "00000000".toList[i]? = some '0' := by decide
        exact hall i hi
      exact (Option.some.inj (hzeros.symm.trans hget)).symm
    have h0 : n / 268435456 % 16 = 0 := hdigit 0 (by decide)
    have h1 : n / 16777216 % 16 = 0 := hdigit 1 (by decide)
    have h2 : n / 1048576 % 16 = 0 := hdigit 2 (by decide)
    have h3 : n / 65536 % 16 = 0 := hdigit 3 (by decide)
    have h4 : n / 4096 % 16 = 0 := hdigit 4 (by decide)
    have h5 : n / 256 % 16 = 0 := hdigit 5 (by decide)
    have h6 : n / 16 % 16 = 0 := hdigit 6 (by decide)
    have h7 : n / 1 % 16 = 0 := hdigit 7 (by decide)
    have hsize : UInt32.size = 4294967296 := rfl
    omega
  · rintro rfl
    decide

/-! ### Lines -/

namespace KernelRoute
variable {r : KernelRoute}

theorem isWord_fields : ∀ f ∈ r.fields, Text.IsWord f := by
  have hhex := fun width n => isWord_hexField width n
  simp only [fields, List.forall_mem_append, List.forall_mem_cons, List.forall_mem_map]
  exact ⟨⟨hhex 8 _ (by decide), hhex 8 _ (by decide), hhex 4 _ (by decide), Text.isWord_toDigits _, Text.isWord_toDigits _,
    Text.isWord_toDigits _, hhex 8 _ (by decide), fun _ => List.not_mem_nil.elim⟩, fun _ _ => Text.isWord_toDigits _⟩

theorem words_line (h : Text.IsWord r.interface) : Text.words r.line = r.interface :: r.fields :=
  Text.words_separated rfl h isWord_fields _

/-- Tabs and spaces are the only white space of a line. -/
theorem not_mem_line (h : Text.IsWord r.interface) {c : Char} (hwhite : Text.isWhitespace c = true) (htab : c ≠ '\t')
    (hspace : c ≠ ' ') : c ∉ r.line := by
  have hplain : ∀ {w : List Char}, Text.IsWord w → c ∉ w := fun hw hc =>
    Bool.false_ne_true ((hw.plain c hc).symm.trans hwhite)
  intro hc
  rcases List.mem_append.mp hc with hc | hc
  · rcases List.mem_append.mp hc with hc | hc
    · exact hplain h hc
    · obtain ⟨f, hf, hc⟩ := List.mem_flatMap.mp hc
      rcases List.mem_cons.mp hc with hc | hc
      · exact htab hc
      · exact hplain (isWord_fields f hf) hc
  · exact hspace (List.eq_of_mem_replicate hc)

/-- A line is read as its metric and its interface if it is a default route. -/
theorem parseRouteLine_line (h : Text.IsWord r.interface) :
    parseRouteLine r.line = if r.isDefault then some (r.metric, r.interface) else none := by
  have hdestination := hexField_eq_zeros r.destination.toNat_lt
  have hmask := hexField_eq_zeros r.mask.toNat_lt
  rw [parseRouteLine, words_line h, fields, isDefault]
  dsimp only [List.cons_append]
  rw [parseHex_hexField r.flags.toNat_lt]
  by_cases hzero : r.destination = 0 ∧ r.mask = 0
  · obtain ⟨hd, hm⟩ := hzero
    rw [if_neg (by rw [hd, hm]; decide), hd, hm, Option.bind_eq_bind, Option.bind_some,
      Text.parseUnsigned_toDigits, if_pos (r.metric_lt.trans (by decide))]
    cases r.flags.toNat.testBit 0 <;> rfl
  · have hfields : hexField 8 r.destination.toNat ≠ "00000000".toList ∨ hexField 8 r.mask.toNat ≠ "00000000".toList := by
      rw [Ne, Ne, hdestination, hmask, ← not_and_or]
      exact fun hboth => hzero ⟨UInt32.toNat_inj.mp hboth.1, UInt32.toNat_inj.mp hboth.2⟩
    rw [if_pos hfields, if_neg]
    simp only [Bool.and_eq_true, beq_iff_eq]
    exact fun hboth => hzero hboth.1

theorem lines_routes {routes : List KernelRoute} (h : ∀ r ∈ routes, Text.IsWord r.interface) :
    Text.lines (routes.flatMap fun r => r.line ++ ['\n']) = routes.map line := by
  induction routes with
  | nil => rfl
  | cons r routes ih =>
    rw [List.forall_mem_cons] at h
    rw [List.flatMap_cons, List.append_assoc, List.singleton_append,
      Text.lines_cons (not_mem_line h.1 rfl (by decide) (by decide)),
      Text.stripReturn_eq (not_mem_line h.1 rfl (by decide) (by decide)), ih h.2, List.map_cons]

end KernelRoute

/-! ### The route -/

/-- The score of a route, greater for a smaller metric. -/
def routeScore (route : Nat × List Char) : OrderDual Nat := OrderDual.toDual route.1

theorem leastRoute_eq : leastRoute = FirstMax.better routeScore := rfl

/-- What is read of a route. -/
def readDefault (r : KernelRoute) : Option (Nat × List Char) :=
  if r.isDefault then some (r.metric, r.interface) else none

theorem readDefault_of_isDefault {r : KernelRoute} (h : r.isDefault = true) :
    readDefault r = some (r.metric, r.interface) := if_pos h

theorem parseDefaultRoute_eq {header : List Char} (hheader : '\n' ∉ header) {routes : List KernelRoute}
    (hroutes : ∀ r ∈ routes, Text.IsWord r.interface) :
    parseDefaultRoute (table header routes) =
      ((routes.filterMap readDefault).foldl (FirstMax.better routeScore) none).map fun route => String.ofList route.2 := by
  have hlines : (routes.map line).filterMap parseRouteLine = routes.filterMap readDefault := by
    rw [List.filterMap_map]
    exact List.filterMap_congr fun r hr => parseRouteLine_line (hroutes r hr)
  rw [parseDefaultRoute, table, String.toList_ofList, Text.lines_cons hheader, List.drop_one, List.tail_cons,
    lines_routes hroutes, hlines, leastRoute_eq]

/-- The default route of a table is the first of those that are up and have the least metric, if there is any. -/
theorem parseDefaultRoute_table {header : List Char} (hheader : '\n' ∉ header) {routes : List KernelRoute}
    (hroutes : ∀ r ∈ routes, Text.IsWord r.interface) :
    (∀ r ∈ routes, r.isDefault = false) ∧ parseDefaultRoute (table header routes) = none ∨
      ∃ before r after, routes = before ++ r :: after ∧ r.isDefault = true ∧
        parseDefaultRoute (table header routes) = some (String.ofList r.interface) ∧
        (∀ x ∈ before, x.isDefault = true → r.metric < x.metric) ∧
        ∀ x ∈ after, x.isDefault = true → r.metric ≤ x.metric := by
  rw [parseDefaultRoute_eq hheader hroutes]
  rcases FirstMax.foldl_better routeScore (routes.filterMap readDefault) with ⟨hnone, heq⟩ | ⟨least, heq, hleast⟩
  · rw [heq]
    refine .inl ⟨fun r hr => ?_, rfl⟩
    have hread := List.filterMap_eq_nil_iff.mp hnone r hr
    by_contra hdefault
    rw [readDefault_of_isDefault (Bool.not_eq_false _ ▸ hdefault)] at hread
    cases hread
  · obtain ⟨best, rest, hsplit, hbest, hrest⟩ := hleast
    obtain ⟨first, second, rfl, rfl, hsecond⟩ := List.filterMap_eq_append_iff.mp hsplit
    obtain ⟨passed, r, after, rfl, hpassed, hr, rfl⟩ := List.filterMap_eq_cons_iff.mp hsecond
    obtain ⟨hdefault, hread⟩ := Option.ite_none_right_eq_some.mp hr
    cases hread
    rw [heq]
    refine .inr ⟨first ++ passed, r, after, by rw [List.append_assoc], hdefault, rfl, fun x hx hup => ?_, fun x hx hup => ?_⟩
    · have hreadx := readDefault_of_isDefault hup
      rcases List.mem_append.mp hx with hx | hx
      · exact hbest _ (List.mem_filterMap.mpr ⟨x, hx, hreadx⟩)
      · rw [hpassed x hx] at hreadx
        cases hreadx
    · exact hrest _ (List.mem_filterMap.mpr ⟨x, hx, readDefault_of_isDefault hup⟩)

/-- A wired and a wireless way out, and a network in the house. -/
def houseRoutes : List KernelRoute :=
  [⟨"wlan0".toList, 0, 0x0100a8c0, 3, 0, 0, 600, 0, [0, 0, 0], by decide⟩,
    ⟨"vmbr0".toList, 0, 0x0100a8c0, 3, 0, 0, 100, 0, [0, 0, 0], by decide⟩,
    ⟨"vmbr0".toList, 0x0000a8c0, 0, 1, 0, 0, 0, 0x00ffffff, [0, 0, 0], by decide⟩]

theorem parseDefaultRoute_table_house :
    (∀ r ∈ houseRoutes, r.isDefault = false) ∧ parseDefaultRoute (table "Iface".toList houseRoutes) = none ∨
      ∃ before r after, houseRoutes = before ++ r :: after ∧ r.isDefault = true ∧
        parseDefaultRoute (table "Iface".toList houseRoutes) = some (String.ofList r.interface) ∧
        (∀ x ∈ before, x.isDefault = true → r.metric < x.metric) ∧
        ∀ x ∈ after, x.isDefault = true → r.metric ≤ x.metric := by
  refine parseDefaultRoute_table (by decide) ?_
  have hwords : ∀ r ∈ houseRoutes, r.interface ≠ [] ∧ r.interface.all (!Text.isWhitespace ·) = true := by decide
  exact fun r hr => .of_all (hwords r hr).1 (hwords r hr).2

end Servatory
