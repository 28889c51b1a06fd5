import Servatory.Firmware.HealthJson
import Servatory.Lib.Json

/-! The health of the host is well-formed JSON, and its value says what the incidents are. -/

namespace Servatory
open Dashboard

/-! ### Strings -/

/-- The ends of a line and tabs are the only control characters that JSON keeps. -/
def isReadable (c : Char) : Bool := !isControl c || c == '\n' || c == '\r' || c == '\t'

def readable (text : String) : List Char := text.toList.filter isReadable

/-- The text that is written for some characters stands for the readable ones. -/
theorem quotes_jsonCharacter (text : List Char) : JsonValue.Quotes (text.filter isReadable) (text.flatMap jsonCharacter) := by
  induction text with
  | nil => exact .nil
  | cons c text ih =>
    rw [List.flatMap_cons, jsonCharacter]
    split
    · rename_i heq
      subst heq
      exact .escape rfl ih
    split
    · rename_i heq
      subst heq
      exact .escape rfl ih
    split
    · rename_i heq
      subst heq
      exact .escape rfl ih
    split
    · rename_i heq
      subst heq
      exact .escape rfl ih
    split
    · rename_i heq
      subst heq
      exact .escape rfl ih
    rename_i hquote hslash hnewline hreturn htab
    have hreadable : isReadable c = !isControl c := by
      rw [isReadable, beq_eq_false_iff_ne.mpr hnewline, beq_eq_false_iff_ne.mpr hreturn, beq_eq_false_iff_ne.mpr htab,
        Bool.or_false, Bool.or_false, Bool.or_false]
    split
    · rename_i hcontrol
      rw [List.filter_cons_of_neg (by rw [hreadable, hcontrol]; decide)]
      exact ih
    · rename_i hcontrol
      rw [List.filter_cons_of_pos (by rw [hreadable, Bool.eq_false_iff.mpr hcontrol]; rfl)]
      refine .literal hquote hslash ?_ ih
      rw [isControl, Bool.or_eq_true, not_or, decide_eq_true_eq] at hcontrol
      omega

theorem toList_pushJson (output value : String) :
    (pushJson output value).toList = output.toList ++ value.toList.flatMap jsonCharacter := by
  rw [pushJson, String.toList_append, String.toList_ofList]

/-! ### Values -/

def levelName (level : HealthLevel) : List Char := (levelText level).toList.map Char.toLower

def incidentValue (incident : Incident) : JsonValue :=
  .object [("level".toList, .string (levelName incident.level)), ("message".toList, .string (readable incident.message))]

def decimal (n : Nat) : JsonValue := .number (Nat.toDigits 10 n)

def snapshotMembers (snapshot : HealthSnapshot) : List (List Char × JsonValue) :=
  [("host".toList, .string (readable snapshot.hostName)), ("cpu_percent".toList, decimal snapshot.cpuPercent.toNat),
    ("memory_used_mib".toList, decimal snapshot.memoryUsedMib.toNat),
    ("memory_total_mib".toList, decimal snapshot.memoryTotalMib.toNat),
    ("io_pressure_percent".toList, decimal snapshot.ioPressurePercent.toNat),
    ("load_average_x100".toList, decimal snapshot.loadAverageX100.toNat), ("network_up".toList, .bool snapshot.networkUp),
    ("network_mbps".toList, decimal snapshot.networkMbps.toNat),
    ("ipv4".toList, .array [decimal snapshot.ipv4.1.toNat, decimal snapshot.ipv4.2.1.toNat,
      decimal snapshot.ipv4.2.2.1.toNat, decimal snapshot.ipv4.2.2.2.toNat]),
    ("guest_count".toList, decimal snapshot.guests.guests.length)]

/-- What the health of the host is as a value. -/
def healthValue (now later : Nat) (state : SharedState) : JsonValue :=
  .object ([("stale".toList, .bool ((snapshotAge now state).all fun age => age ≥ hostStaleAfter)),
    ("incidents".toList, .array ((activeIncidents later state).map incidentValue))] ++
    state.snapshot.elim [] snapshotMembers)

/-! ### Texts -/

def quoted (body : List Char) : List Char := '"' :: body ++ ['"']

def incidentFields (incident : Incident) : List (List Char × JsonValue × List Char) :=
  [("level".toList, .string (levelName incident.level), quoted (levelName incident.level)),
    ("message".toList, .string (readable incident.message), quoted (incident.message.toList.flatMap jsonCharacter))]

def incidentText (incident : Incident) : List Char :=
  '\x7b' :: [','].intercalate ((incidentFields incident).map JsonValue.memberText) ++ ['\x7d']

theorem writes_incident (incident : Incident) : JsonValue.Writes (incidentValue incident) (incidentText incident) := by
  refine @JsonValue.writes_object (incidentFields incident) (List.cons_ne_nil _ _) ?_ ?_
  · refine List.forall_mem_cons.mpr ⟨?_, List.forall_mem_singleton.mpr ?_⟩ <;> exact JsonValue.quotes_self rfl
  · refine List.forall_mem_cons.mpr ⟨?_, List.forall_mem_singleton.mpr ?_⟩
    · refine .string (JsonValue.quotes_self ?_)
      cases incident.level <;> decide
    · exact .string (quotes_jsonCharacter _)

theorem toList_pushIncident (json : String) (incident : Incident) (index : Nat) :
    (pushIncident json (incident, index)).toList =
      (if index > 0 then json.toList ++ [','] else json.toList) ++ incidentText incident := by
  have hjson : (if index > 0 then json ++ "," else json).toList = if index > 0 then json.toList ++ [','] else json.toList := by
    split
    · rw [String.toList_append]
      rfl
    · rfl
  have htext : incidentText incident = "\x7b\"level\":\"".toList ++ levelName incident.level ++
      "\",\"message\":\"".toList ++ incident.message.toList.flatMap jsonCharacter ++ "\"\x7d".toList := by
    simp [incidentText, incidentFields, JsonValue.memberText, quoted, List.intercalate_cons_cons]
  simp only [pushIncident, String.toList_append, toList_pushJson, hjson, toAsciiLowercase, String.toList_ofList, htext,
    List.append_assoc]
  rfl

theorem toList_pushIncidents (json : String) (incidents : List Incident) :
    (incidents.zipIdx.foldl pushIncident json).toList = json.toList ++ [','].intercalate (incidents.map incidentText) := by
  have hmore : ∀ (incidents : List Incident) (json : String) (index : Nat), 0 < index →
      ((incidents.zipIdx index).foldl pushIncident json).toList =
        json.toList ++ incidents.flatMap fun incident => ',' :: incidentText incident := by
    intro incidents
    induction incidents with
    | nil => exact fun json _ _ => (List.append_nil _).symm
    | cons incident incidents ih =>
      intro json index hindex
      rw [List.zipIdx_cons, List.foldl_cons, ih _ _ (Nat.succ_pos index), toList_pushIncident, if_pos hindex,
        List.flatMap_cons, List.append_assoc, List.append_assoc]
      rfl
  cases incidents with
  | nil => exact (List.append_nil _).symm
  | cons incident incidents =>
    rw [List.zipIdx_cons, List.foldl_cons, hmore _ _ _ (Nat.succ_pos 0), toList_pushIncident, if_neg (Nat.lt_irrefl 0),
      List.map_cons, JsonValue.intercalate_cons, List.flatMap_map, List.append_assoc]

/-! ### The document -/

def boolText (b : Bool) : List Char := (toString b).toList

theorem writes_bool (b : Bool) : JsonValue.Writes (.bool b) (boolText b) := by
  cases b with
  | true => exact .word (List.mem_cons_of_mem _ (List.mem_cons_self ..))
  | false => exact .word (List.mem_cons_of_mem _ (List.mem_cons_of_mem _ (List.mem_cons_self ..)))

theorem writes_decimal (n : Nat) : JsonValue.Writes (decimal n) (Nat.toDigits 10 n) := .number (JsonValue.isNumber_toDigits n)

def numberField (key : String) (n : Nat) : List Char × JsonValue × List Char := (key.toList, decimal n, Nat.toDigits 10 n)

def addressItems (address : UInt8 × UInt8 × UInt8 × UInt8) : List (JsonValue × List Char) :=
  [address.1, address.2.1, address.2.2.1, address.2.2.2].map fun n => (decimal n.toNat, Nat.toDigits 10 n.toNat)

def arrayText (items : List (JsonValue × List Char)) : List Char := '[' :: [','].intercalate (items.map (·.2)) ++ [']']

def snapshotFields (snapshot : HealthSnapshot) : List (List Char × JsonValue × List Char) :=
  [("host".toList, .string (readable snapshot.hostName), quoted (snapshot.hostName.toList.flatMap jsonCharacter)),
    numberField "cpu_percent" snapshot.cpuPercent.toNat, numberField "memory_used_mib" snapshot.memoryUsedMib.toNat,
    numberField "memory_total_mib" snapshot.memoryTotalMib.toNat,
    numberField "io_pressure_percent" snapshot.ioPressurePercent.toNat,
    numberField "load_average_x100" snapshot.loadAverageX100.toNat,
    ("network_up".toList, .bool snapshot.networkUp, boolText snapshot.networkUp),
    numberField "network_mbps" snapshot.networkMbps.toNat,
    ("ipv4".toList, .array ((addressItems snapshot.ipv4).map (·.1)), arrayText (addressItems snapshot.ipv4)),
    numberField "guest_count" snapshot.guests.guests.length]

theorem writes_snapshotFields (snapshot : HealthSnapshot) :
    ∀ f ∈ snapshotFields snapshot, JsonValue.Quotes f.1 f.1 ∧ JsonValue.Writes f.2.1 f.2.2 := by
  have hnumber : ∀ key : String, (key.toList.all fun c => c != '"' && c != '\\' && decide (0x20 ≤ c.toNat)) = true →
      ∀ n, JsonValue.Quotes (numberField key n).1 (numberField key n).1 ∧
        JsonValue.Writes (numberField key n).2.1 (numberField key n).2.2 :=
    fun key hkey n => ⟨JsonValue.quotes_self hkey, writes_decimal n⟩
  have hhost : JsonValue.Writes (.string (readable snapshot.hostName))
      (quoted (snapshot.hostName.toList.flatMap jsonCharacter)) := .string (quotes_jsonCharacter _)
  have haddress : JsonValue.Writes (.array ((addressItems snapshot.ipv4).map (·.1)))
      (arrayText (addressItems snapshot.ipv4)) :=
    JsonValue.writes_array (List.forall_mem_map.mpr fun n _ => writes_decimal n.toNat)
  simp only [snapshotFields, List.forall_mem_cons]
  refine ⟨⟨JsonValue.quotes_self rfl, hhost⟩, hnumber _ rfl _, hnumber _ rfl _, hnumber _ rfl _, hnumber _ rfl _,
    hnumber _ rfl _, ⟨JsonValue.quotes_self rfl, writes_bool _⟩, hnumber _ rfl _,
    ⟨JsonValue.quotes_self rfl, haddress⟩, hnumber _ rfl _, fun _ => nofun⟩

theorem toList_pushSnapshot (json : String) (snapshot : HealthSnapshot) :
    (pushSnapshot json snapshot).toList =
      json.toList ++ (snapshotFields snapshot).flatMap fun f => ',' :: JsonValue.memberText f := by
  have hsize : ∀ n : Nat, (toString n).toList = Nat.toDigits 10 n := fun n => Nat.toList_repr
  have hbyte : ∀ n : UInt8, (toString n).toList = Nat.toDigits 10 n.toNat := fun n => Nat.toList_repr
  have hword : ∀ n : UInt16, (toString n).toList = Nat.toDigits 10 n.toNat := fun n => Nat.toList_repr
  have hlong : ∀ n : UInt32, (toString n).toList = Nat.toDigits 10 n.toNat := fun n => Nat.toList_repr
  have haddress : ∀ address : UInt8 × UInt8 × UInt8 × UInt8, arrayText (addressItems address) =
      '[' :: (Nat.toDigits 10 address.1.toNat ++ ',' :: (Nat.toDigits 10 address.2.1.toNat ++ ',' ::
        (Nat.toDigits 10 address.2.2.1.toNat ++ ',' :: (Nat.toDigits 10 address.2.2.2.toNat ++ [']'])))) := by
    intro address
    simp [arrayText, addressItems, List.intercalate_cons_cons]
  simp only [pushSnapshot, snapshotFields, String.toList_append, toList_pushJson, String.toList_join, hsize, hbyte, hword,
    hlong, boolText, List.flatMap_cons, List.flatMap_nil, JsonValue.memberText, numberField, quoted, haddress, List.append_assoc,
    List.cons_append, List.nil_append, List.append_nil, String.reduceToList]

def healthFields (now later : Nat) (state : SharedState) : List (List Char × JsonValue × List Char) :=
  let stale := (snapshotAge now state).all fun age => age ≥ hostStaleAfter
  let items := (activeIncidents later state).map fun incident => (incidentValue incident, incidentText incident)
  [("stale".toList, .bool stale, boolText stale), ("incidents".toList, .array (items.map (·.1)), arrayText items)] ++
    state.snapshot.elim [] snapshotFields

theorem healthFields_value (now later : Nat) (state : SharedState) :
    .object ((healthFields now later state).map fun f => (f.1, f.2.1)) = healthValue now later state := by
  rw [healthFields, healthValue, List.map_append, List.map_cons, List.map_singleton, List.map_map]
  cases state.snapshot <;> rfl

theorem writes_healthFields (now later : Nat) (state : SharedState) :
    ∀ f ∈ healthFields now later state, JsonValue.Quotes f.1 f.1 ∧ JsonValue.Writes f.2.1 f.2.2 := by
  have hincidents : ∀ i ∈ (activeIncidents later state).map fun incident => (incidentValue incident, incidentText incident),
      JsonValue.Writes i.1 i.2 := List.forall_mem_map.mpr fun incident _ => writes_incident incident
  rw [healthFields]
  simp only [List.cons_append, List.nil_append, List.forall_mem_cons]
  refine ⟨⟨JsonValue.quotes_self rfl, writes_bool _⟩, ⟨JsonValue.quotes_self rfl, JsonValue.writes_array hincidents⟩, ?_⟩
  cases state.snapshot with
  | none => exact fun _ => nofun
  | some snapshot => exact writes_snapshotFields snapshot

theorem toList_healthJson (now later : Nat) (state : SharedState) : (healthJson now later state).toList =
    '\x7b' :: [','].intercalate ((healthFields now later state).map JsonValue.memberText) ++ ['\x7d'] := by
  have hsnapshot : ∀ json : String, (state.snapshot.elim json (pushSnapshot json)).toList =
      json.toList ++ (state.snapshot.elim [] snapshotFields).flatMap fun f => ',' :: JsonValue.memberText f := by
    intro json
    cases state.snapshot with
    | none => exact (List.append_nil _).symm
    | some snapshot => exact toList_pushSnapshot json snapshot
  simp only [healthJson, healthFields, String.toList_append, hsnapshot, toList_pushIncidents, boolText, arrayText,
    JsonValue.memberText, List.map_cons, List.map_map, JsonValue.intercalate_cons, List.flatMap_cons, List.flatMap_map,
    List.cons_append, List.nil_append, List.append_assoc, String.reduceToList]
  rfl

/-- The health of the host is an object with the incidents in their order. -/
theorem healthJson_value (now later : Nat) (state : SharedState) :
    JsonValue.Writes (healthValue now later state) (healthJson now later state).toList ∧
      JsonValue.parse (healthJson now later state).toList = some (healthValue now later state) := by
  have hwrites : JsonValue.Writes (healthValue now later state) (healthJson now later state).toList := by
    have hfields := writes_healthFields now later state
    rw [toList_healthJson, ← healthFields_value]
    exact JsonValue.writes_object (List.cons_ne_nil _ _) (fun f hf => (hfields f hf).1) fun f hf => (hfields f hf).2
  exact ⟨hwrites, JsonValue.parse_complete hwrites⟩

end Servatory
