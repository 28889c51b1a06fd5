import Servatory.Firmware.Provisioning
import Servatory.Theorems.Host.Budget

/-! Which network manifests the Stick can store. A record holds them with the Wi-Fi settings, and takes half of
    what a frame may take. -/

namespace Servatory

/-- The length of the record of a manifest and the settings it is stored with, for a topic of `topic` bytes. -/
def recordLength (p : Provisioning) (topic : Nat) (network : NetworkConfig) : Nat :=
  textLength p.ssid + textLength p.password + textLength p.hostname + (Postcard.varintLen topic + topic) + 1 +
    network.wireLength

theorem size_storedSettings (p : Provisioning) (network : NetworkConfig) :
    Postcard.size (⟨p, some network⟩ : StoredSettings) = recordLength p p.ntfyTopic.utf8ByteSize network := by
  have hp : Postcard.size p = Postcard.size (p.ssid, p.password, p.hostname, p.ntfyTopic) := rfl
  show Postcard.size (p, some network) = _
  rw [Postcard.size_prod, hp, Postcard.size_prod, Postcard.size_prod, Postcard.size_prod, Postcard.size_some,
    size_networkConfig, size_text, size_text, size_text, Postcard.size_string, recordLength]
  omega

namespace Store

/-- Saving valid settings succeeds when their record fits and the flash works. -/
theorem saveNetwork_eq_ok_iff (store : Store) {p : Provisioning} (hp : p.isValid = true) (network : NetworkConfig) :
    (store.saveNetwork .success p network).2 = .ok () ↔
      recordLength p p.ntfyTopic.utf8ByteSize network ≤ maxRecordLen := by
  have hsize : (Postcard.encode (⟨p, some network⟩ : StoredSettings)).length =
      recordLength p p.ntfyTopic.utf8ByteSize network := size_storedSettings p network
  unfold saveNetwork save
  simp only [hp, Bool.not_true, Bool.false_eq_true, ↓reduceIte, hsize, FlashOutcome.success]
  split
  · rename_i hlong
    exact ⟨by rintro ⟨⟩, fun hle => absurd hle (Nat.not_le.mpr hlong)⟩
  · rename_i hfits
    exact ⟨fun _ => Nat.not_lt.mp hfits, fun _ => rfl⟩

theorem saveNetwork_eq_error (store : Store) {p : Provisioning} (hp : p.isValid = true) (network : NetworkConfig)
    (hlong : maxRecordLen < recordLength p p.ntfyTopic.utf8ByteSize network) :
    (store.saveNetwork .success p network).2 = .error () := by
  cases hsave : (store.saveNetwork .success p network).2 with
  | error e => rfl
  | ok u => exact absurd ((store.saveNetwork_eq_ok_iff hp network).mp hsave) (Nat.not_le.mpr hlong)

end Store

/-! ### A new topic is valid -/

theorem utf8ByteSize_ofList_ascii {chars : List Char} (h : ∀ c ∈ chars, c.utf8Size = 1) :
    (String.ofList chars).utf8ByteSize = chars.length := by
  induction chars with
  | nil => rfl
  | cons c rest ih =>
    rw [String.ofList_cons, String.utf8ByteSize_append, String.utf8ByteSize_singleton, h c (List.mem_cons_self ..),
      ih (fun d hd => h d (List.mem_cons_of_mem _ hd)), List.length_cons]
    omega

theorem digitChar_hex {n : Nat} (h : n < 16) : n.digitChar.utf8Size = 1 ∧ n.digitChar.isAlphanum = true := by
  have : ∀ m < 16, m.digitChar.utf8Size = 1 ∧ m.digitChar.isAlphanum = true := by decide
  exact this n h

/-- The digits of a topic. -/
def topicDigits (a b c d : UInt32) : List Char :=
  randomNtfyTopic.hex8 a ++ randomNtfyTopic.hex8 b ++ randomNtfyTopic.hex8 c ++ randomNtfyTopic.hex8 d

theorem randomNtfyTopic_eq (a b c d : UInt32) :
    randomNtfyTopic a b c d = "servatory-" ++ String.ofList (topicDigits a b c d) := rfl

theorem mem_topicDigits {a b c d : UInt32} {x : Char} (h : x ∈ topicDigits a b c d) :
    x.utf8Size = 1 ∧ x.isAlphanum = true := by
  have hdigit : ∀ n : UInt32, x ∈ randomNtfyTopic.hex8 n → x.utf8Size = 1 ∧ x.isAlphanum = true := by
    intro n hn
    obtain ⟨i, -, rfl⟩ := List.mem_map.mp hn
    exact digitChar_hex (Nat.mod_lt _ (by decide))
  simp only [topicDigits, List.mem_append] at h
  rcases h with ((h | h) | h) | h
  all_goals exact hdigit _ h

theorem utf8ByteSize_randomNtfyTopic (a b c d : UInt32) : (randomNtfyTopic a b c d).utf8ByteSize = 42 := by
  have hlen : (topicDigits a b c d).length = 32 := by simp [topicDigits, randomNtfyTopic.hex8]
  rw [randomNtfyTopic_eq, String.utf8ByteSize_append, utf8ByteSize_ofList_ascii (fun x hx => (mem_topicDigits hx).1), hlen]
  rfl

/-- A regenerated topic leaves valid settings valid. -/
theorem isValid_randomNtfyTopic {p : Provisioning} (hp : p.isValid = true) (a b c d : UInt32) :
    ({ p with ntfyTopic := randomNtfyTopic a b c d } : Provisioning).isValid = true := by
  have hsize := utf8ByteSize_randomNtfyTopic a b c d
  have hempty : (randomNtfyTopic a b c d).isEmpty = false := by
    rw [String.isEmpty_eq_false_iff]
    rintro h
    rw [h] at hsize
    cases hsize
  have hchars : (randomNtfyTopic a b c d).toList.all (fun c => c.isAlphanum || c == '-' || c == '_') = true := by
    rw [randomNtfyTopic_eq, String.toList_append, List.all_append, Bool.and_eq_true]
    refine ⟨by rfl, ?_⟩
    rw [String.toList_ofList, List.all_eq_true]
    intro x hx
    rw [(mem_topicDigits hx).2]
    rfl
  unfold Provisioning.isValid at hp ⊢
  simp only [hempty, hsize, hchars, Bool.and_eq_true] at hp ⊢
  simp [hp.1.1.1]

/-! ### The manifests of a configuration -/

namespace ManifestStore

/-- The manifest of a configuration is stored, and stored again with whatever topic replaces the current one,
    exactly when its record fits with either topic. -/
theorem turns_store_iff {config : Config} {g : Nat} {network : NetworkConfig}
    (hn : config.networkConfig g = .ok network) (m : ManifestStore) (hp : m.provisioning.isValid = true) :
    ((m.turn (.manifest network) .success).2 = .ok () ∧
      ∀ a b c d, ((m.turn (.manifest network) .success).1.turn (.topic (randomNtfyTopic a b c d)) .success).2 = .ok ()) ↔
    recordLength m.provisioning m.provisioning.ntfyTopic.utf8ByteSize (config.networkManifest g) ≤ maxRecordLen ∧
      recordLength m.provisioning 42 (config.networkManifest g) ≤ maxRecordLen := by
  obtain rfl := Config.networkConfig_eq hn
  have htopic : ∀ a b c d,
      ((m.turn (.manifest (config.networkManifest g)) .success).1.turn (.topic (randomNtfyTopic a b c d)) .success).2 =
        .ok () ↔ recordLength m.provisioning 42 (config.networkManifest g) ≤ maxRecordLen := by
    intro a b c d
    have h := Store.saveNetwork_eq_ok_iff (m.store.saveNetwork .success m.provisioning (config.networkManifest g)).1
      (isValid_randomNtfyTopic hp a b c d) (config.networkManifest g)
    rw [utf8ByteSize_randomNtfyTopic] at h
    exact h
  have hmanifest := Store.saveNetwork_eq_ok_iff m.store hp (config.networkManifest g)
  constructor
  · rintro ⟨h1, h2⟩
    exact ⟨hmanifest.mp h1, (htopic 0 0 0 0).mp (h2 0 0 0 0)⟩
  · rintro ⟨h1, h2⟩
    exact ⟨hmanifest.mpr h1, fun a b c d => (htopic a b c d).mpr h2⟩

/-- A manifest whose record is too long whatever the topic is never stored. -/
theorem turns_eq_error {m : ManifestStore} (hp : m.provisioning.isValid = true) {network : NetworkConfig}
    (hlong : ∀ topic, maxRecordLen < recordLength m.provisioning topic network) :
    (m.turn (.manifest network) .success).2 = .error () ∧
      ∀ a b c d, ((m.turn (.manifest network) .success).1.turn (.topic (randomNtfyTopic a b c d)) .success).2 =
        .error () :=
  ⟨m.store.saveNetwork_eq_error hp network (hlong _),
    fun a b c d => Store.saveNetwork_eq_error _ (isValid_randomNtfyTopic hp a b c d) network (hlong _)⟩

/-- The settings of a Stick that has been set up, before it has heard of a manifest. -/
def setUp : ManifestStore := ⟨.blank, ⟨"home", "secret", "servatory", "servatory-topic"⟩, none⟩

theorem turns_store_guestsOnly :
    ((setUp.turn (.manifest (Config.guestsOnly.networkManifest 8)) .success).2 = .ok () ∧
      ∀ a b c d, ((setUp.turn (.manifest (Config.guestsOnly.networkManifest 8)) .success).1.turn
        (.topic (randomNtfyTopic a b c d)) .success).2 = .ok ()) ↔
    recordLength setUp.provisioning setUp.provisioning.ntfyTopic.utf8ByteSize (Config.guestsOnly.networkManifest 8) ≤
        maxRecordLen ∧
      recordLength setUp.provisioning 42 (Config.guestsOnly.networkManifest 8) ≤ maxRecordLen :=
  @turns_store_iff Config.guestsOnly 8 (Config.guestsOnly.networkManifest 8) (by rfl) setUp (by decide)

/-- A view for the web with a title of 2100 bytes. -/
def longTitle : Config :=
  { Config.guestsOnly with
    views := [("guests", ⟨"GUESTS", .guests true 0 4⟩), ("web", ⟨String.ofList (List.replicate 2100 'W'), .overview⟩)]
    outputs := ⟨⟨⟨["guests"]⟩⟩, some ⟨true, "servatory", 80, ["web"]⟩, none⟩ }

/-- `guestsOnly` with a view for the web. -/
def webTitled (title : String) : Config :=
  { Config.guestsOnly with
    views := [("guests", ⟨"GUESTS", .guests true 0 4⟩), ("web", ⟨title, .overview⟩)]
    outputs := ⟨⟨⟨["guests"]⟩⟩, some ⟨true, "servatory", 80, ["web"]⟩, none⟩ }

theorem wireLength_webTitled (title : String) :
    ((webTitled title).networkManifest 0).wireLength = textLength title + 39 := by
  have hhttp : (HttpConfig.mk true 80 "servatory" [⟨⟨title⟩, .overview⟩]).wireLength = textLength title + 14 := by
    show 1 + Postcard.varintLen 80 + textLength "servatory" + (1 + (textLength title + 1)) = _
    have hport : Postcard.varintLen 80 = 1 := by decide
    have hhostname : textLength "servatory" = 10 := by decide
    omega
  have hntfy : Config.guestsOnly.ntfyConfig.wireLength = 25 := by decide
  show HttpConfig.wireLength ⟨true, 80, "servatory", [⟨⟨title⟩, .overview⟩]⟩ + Config.guestsOnly.ntfyConfig.wireLength = _
  rw [hhttp, hntfy]

/-- Titles of up to 3000 bytes are accepted. -/
theorem validate_webTitled {title : String} (h : textLength title ≤ 3000) :
    (webTitled title).validate ⟨"1.0"⟩ = .ok () ∧
      (encodeHost (.networkConfig ((webTitled title).networkManifest 0)) maxHostFrameLen).isOk := by
  have hnetwork : (encodeHost (.networkConfig ((webTitled title).networkManifest 0)) maxHostFrameLen).isOk := by
    have hover := frameOverhead_le (.networkConfig ((webTitled title).networkManifest 0))
    rw [size_networkMessage, wireLength_webTitled] at hover
    rw [encodeHost_isOk_iff, size_networkMessage, wireLength_webTitled, maxHostFrameLen]
    omega
  have hdisplay : (encodeHost (.displayConfig (Config.guestsOnly.displayManifest ⟨"1.0"⟩ 0)) maxHostFrameLen).isOk := by
    decide
  refine ⟨?_, hnetwork⟩
  rw [Config.validate]
  iterate 17 refine Except.bind_eq_ok.mpr ⟨(), rfl, ?_⟩
  refine Except.bind_eq_ok.mpr ⟨Config.guestsOnly.displayManifest ⟨"1.0"⟩ 0, rfl, ?_⟩
  rw [hdisplay]
  refine Except.bind_eq_ok.mpr ⟨(), rfl, ?_⟩
  refine Except.bind_eq_ok.mpr ⟨(webTitled title).networkManifest 0, rfl, ?_⟩
  rw [hnetwork]
  rfl

/-- The configuration is accepted and its network manifest is sent, but the Stick can store neither the
    manifest nor a new topic behind it. -/
theorem turns_lost :
    longTitle.validate ⟨"1.0"⟩ = .ok () ∧ longTitle.networkConfig 0 = .ok (longTitle.networkManifest 0) ∧
      (encodeHost (.networkConfig (longTitle.networkManifest 0)) maxHostFrameLen).isOk ∧
      setUp.provisioning.isValid = true ∧
      (setUp.turn (.manifest (longTitle.networkManifest 0)) .success).2 = .error () ∧
      ((setUp.turn (.manifest (longTitle.networkManifest 0)) .success).1.turn
        (.topic (randomNtfyTopic 1 2 3 4)) .success).2 = .error () := by
  have hbytes : (String.ofList (List.replicate 2100 'W')).utf8ByteSize = 2100 := by
    rw [utf8ByteSize_ofList_ascii, List.length_replicate]
    intro c hc
    rw [List.eq_of_mem_replicate hc]
    rfl
  have htitle : textLength (String.ofList (List.replicate 2100 'W')) = 2102 := by
    rw [textLength, hbytes]
    rfl
  obtain ⟨hvalid, hsent⟩ := @validate_webTitled (String.ofList (List.replicate 2100 'W')) (by omega)
  have hlength : (longTitle.networkManifest 0).wireLength = 2141 := by
    show ((webTitled (String.ofList (List.replicate 2100 'W'))).networkManifest 0).wireLength = 2141
    rw [wireLength_webTitled, htitle]
  have hsetUp : setUp.provisioning.isValid = true := by decide
  have hlong : ∀ topic, maxRecordLen < recordLength setUp.provisioning topic (longTitle.networkManifest 0) := by
    intro topic
    rw [recordLength, hlength, maxRecordLen]
    omega
  obtain ⟨hmanifest, htopic⟩ := turns_eq_error hsetUp hlong
  exact ⟨hvalid, rfl, hsent, hsetUp, hmanifest, htopic 1 2 3 4⟩

end ManifestStore
end Servatory
