import Mathlib.Algebra.BigOperators.Group.List.Basic
import Servatory.Protocol.Size
import Servatory.Theorems.Host.Manifest

/-! Which manifests and snapshots fit a frame, by their lengths. The check at start encodes the manifests of a host without
    guests; the pages of the guests, and the snapshot that lists them, are encoded only when they are sent. -/

namespace Servatory.Config
variable {config : Config} {build : SoftwareVersion} {g : Nat}

/-- A message of this length fits a host frame, whatever its bytes are: a code byte for every 254 of them is enough. -/
def FitsFrame (length : Nat) : Prop := length + (5 + length / 254) ≤ maxHostFrameLen

instance (length : Nat) : Decidable (FitsFrame length) := inferInstanceAs (Decidable (_ ≤ _))

/-- A message of this length fits no host frame, whatever its bytes are. -/
def OutgrowsFrame (length : Nat) : Prop := maxHostFrameLen < length + 5

/-- The length of the manifest for the LCD, as a message. -/
def displayLength (config : Config) (build : SoftwareVersion) (guestCount : Nat) : Nat :=
  1 + (config.displayManifest build guestCount).wireLength

def networkLength (config : Config) (guestCount : Nat) : Nat := 1 + (config.networkManifest guestCount).wireLength

def snapshotLength (snapshot : HealthSnapshot) : Nat := 1 + snapshot.wireLength

theorem encodes_of_fitsFrame {message : HostMessage} (h : FitsFrame (Postcard.size message)) :
    (encodeHost message maxHostFrameLen).isOk := by
  rw [encodeHost_isOk_iff]
  exact (Nat.add_le_add_left (frameOverhead_le message) _).trans h

theorem not_encodes_of_outgrowsFrame {message : HostMessage} (h : OutgrowsFrame (Postcard.size message)) :
    ¬(encodeHost message maxHostFrameLen).isOk := by
  rw [encodeHost_isOk_iff, frameOverhead]
  unfold OutgrowsFrame at h
  omega

/-! ### A manifest that fits has few pages -/

theorem length_le_listLength (pages : List DisplayView) : pages.length ≤ listLength DisplayView.wireLength pages := by
  have hone : ∀ n ∈ pages.map DisplayView.wireLength, 1 ≤ n := by
    intro n hn
    obtain ⟨view, -, rfl⟩ := List.mem_map.mp hn
    have := Postcard.varintLen_pos view.title.value.utf8ByteSize
    unfold DisplayView.wireLength textLength
    omega
  have := List.length_le_sum_of_one_le _ hone
  rw [List.length_map] at this
  unfold listLength
  omega

theorem guestPages_le_of_paginated {viewIds : List String} (h : config.HasPaginated viewIds) :
    guestPages g ≤ (config.pagesOf viewIds g).length := by
  obtain ⟨id, hid, view, hview, offset, limit, hl⟩ := h
  have hlen : (config.viewPages g view).length = guestPages g := by
    simp [viewPages, hl]
  have hsub : (config.viewPages g view).Sublist (config.pagesOf viewIds g) := by
    refine List.sublist_flatten_of_mem (List.mem_map.mpr ⟨id, hid, ?_⟩)
    rw [hview, Option.elim_some]
  rw [← hlen]
  exact hsub.length_le

/-- The offsets of a manifest that fits a frame fit the protocol. -/
theorem offsetsFit_of_length {viewIds : List String} (h : config.HasPaginated viewIds)
    (hle : listLength DisplayView.wireLength (config.pagesOf viewIds g) ≤ maxHostFrameLen) : OffsetsFit g := by
  have h1 : guestPages g ≤ (config.pagesOf viewIds g).length := guestPages_le_of_paginated h
  have h2 := length_le_listLength (config.pagesOf viewIds g)
  simp only [maxHostFrameLen] at hle
  simp only [OffsetsFit, UInt32.size]
  omega

/-- The manifests of an accepted configuration compile for a guest count for which they are not too long. -/
theorem compiles_of_fitsFrame {u : Unit} (hv : config.validate build = .ok u) (hd : FitsFrame (config.displayLength build g))
    (hn : FitsFrame (config.networkLength g)) :
    config.displayConfig build g = .ok (config.displayManifest build g) ∧
      config.networkConfig g = .ok (config.networkManifest g) := by
  obtain ⟨hd0, hn0⟩ := compiles_of_validate hv
  unfold FitsFrame displayLength DisplayConfig.wireLength at hd
  unfold FitsFrame networkLength NetworkConfig.wireLength HttpConfig.wireLength at hn
  refine ⟨displayConfig_succeeds hd0 fun hp => offsetsFit_of_length hp ?_,
    networkConfig_succeeds hn0 fun http hout hp => offsetsFit_of_length hp ?_⟩
  · simp only [displayManifest] at hd ⊢
    omega
  · simp only [networkManifest, hout] at hn ⊢
    omega

/-! ### A host with many guests -/

/-- A root filesystem, one paginated view of the guests, and nothing else. -/
def guestsOnly : Config where
  version := 2
  host := ⟨5000⟩
  connection := ⟨⟨1000⟩⟩
  actions := ⟨⟨true, 3000, 200⟩⟩
  sources :=
    { filesystems := [⟨"root", "/", "/"⟩]
      smart := ⟨[]⟩
      ups := ⟨none, 2⟩
      internet := ⟨"www.google.de", 30000, 4000, 3000, 5000, 2⟩
      proxmox := ⟨⟨50⟩⟩ }
  health := ⟨⟨.healthy, "HEALTHY"⟩, []⟩
  views := [("guests", ⟨"GUESTS", .guests true 0 4⟩)]
  outputs := ⟨⟨⟨["guests"]⟩⟩, none, none⟩

theorem guestsOnly_valid : guestsOnly.validate ⟨"1.0"⟩ = .ok () := by rfl

/-- A snapshot of `guestsOnly` with `count` guests whose names are as long as host names may be. -/
def crowdedSnapshot (count : Nat) : HealthSnapshot :=
  { HealthSnapshot.ofGuests "pve" (List.replicate count
      ⟨100, .virtualMachine, .running, 5, 1024, 2048, String.ofList (List.replicate 63 'g')⟩) with
    filesystems := [⟨20, 80 * 1024, true⟩] }

end Servatory.Config
