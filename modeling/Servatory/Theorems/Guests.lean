import Servatory.Firmware.Render
import Servatory.Host.Main
import Servatory.Lib.Paging
import Servatory.Theorems.Host.Budget

/-! The guests from the configuration to the screen. The daemon compiles the manifests anew only when the guests take
    another number of pages, and the pages of the old manifest then still show every guest. -/

namespace Servatory

/-- The guests a page of the manifest shows. -/
def shownGuests (snapshot : HealthSnapshot) : DisplayPage → List GuestSummary
  | .guests offset limit => pageGuests snapshot offset limit
  | _ => []

/-- The daemon's own count of the pages is the compiler's. -/
theorem guestPageCount_eq (guestCount : Nat) : guestPageCount guestCount = Config.guestPages guestCount := rfl

namespace Config
variable {config : Config} {build : SoftwareVersion} {n m : Nat}

/-- The offsets of as many guests as the protocol can count fit the protocol. -/
theorem offsetsFit_of_le (h : n ≤ UInt32.size) : OffsetsFit n := by
  rw [OffsetsFit, guestPages]
  simp only [UInt32.size] at h ⊢
  omega

/-- A page of four guests is the page of the list at its index. -/
theorem pageGuests_four {snapshot : HealthSnapshot} {index : Nat} (h : index * 4 < UInt32.size) :
    pageGuests snapshot (UInt32.ofNat (index * 4)) 4 = Paging.page 4 snapshot.guests.guests index := by
  have hoffset : (UInt32.ofNat (index * 4)).toNat = index * 4 := UInt32.toNat_ofNat_of_lt' h
  rw [pageGuests, hoffset]
  rfl

/-- The pages of a paginated view show the guests one after the other, when there are as many pages as the guests
    take. -/
theorem shownGuests_viewPages {view : ViewConfig} (hview : ViewConfig.Paginated view) (hn : n ≤ UInt32.size)
    {snapshot : HealthSnapshot} (hpages : guestPages n = guestPages snapshot.guests.guests.length) :
    ((config.viewPages n view).flatMap fun page => shownGuests snapshot page.page) = snapshot.guests.guests := by
  obtain ⟨offset, limit, hlayout⟩ := hview
  have hfit := offsetsFit_of_le hn
  have hslices : ∀ index ∈ List.range (guestPages n),
      shownGuests snapshot (.guests (UInt32.ofNat (index * 4)) 4) = Paging.page 4 snapshot.guests.guests index := by
    intro index hindex
    have hlt := List.mem_range.mp hindex
    rw [OffsetsFit] at hfit
    exact pageGuests_four (by omega)
  rw [viewPages]
  simp only [hlayout, List.flatMap_map]
  rw [List.flatMap_congr hslices]
  refine Paging.flatten_pages_eq ?_
  rw [hpages, guestPages]
  omega

/-- A paginated view compiles for as many guests as the protocol can count. -/
theorem compileView_paginated {view : ViewConfig} (hview : ViewConfig.Paginated view) (hn : n ≤ UInt32.size) :
    config.compileView view n = .ok (config.viewPages n view) := by
  have hsucceeds : Except.Succeeds (config.compileView view n) := by
    obtain ⟨offset, limit, hlayout⟩ := hview
    rw [compileView]
    simp only [hlayout]
    refine Except.succeeds_mapM.mpr fun index hindex => ?_
    exact guestPage_succeeds (offsetsFit_of_le hn) _ (List.mem_range.mp hindex)
  obtain ⟨pages, hpages⟩ := hsucceeds
  rw [hpages, compileView_eq hpages]

theorem infix_pagesOf {viewIds : List String} {id : String} {view : ViewConfig} (hid : id ∈ viewIds)
    (hview : config.views.lookup id = some view) : config.viewPages n view <:+: config.pagesOf viewIds n := by
  refine List.infix_of_mem_flatten (List.mem_map.mpr ⟨id, hid, ?_⟩)
  rw [hview, Option.elim_some]

/-- Guest counts that take the same number of pages have the same manifests, so the daemon keeps them; and the pages
    that a paginated view was given for one count show every guest of the other, once and in order, wherever the view
    is selected. -/
theorem guests_paged {u : Unit} (hv : config.validate build = .ok u) (hn : n ≤ UInt32.size) (hm : m ≤ UInt32.size)
    (hpages : guestPageCount n = guestPageCount m) :
    ∃ display network, config.displayConfig build n = .ok display ∧ config.displayConfig build m = .ok display ∧
      config.networkConfig n = .ok network ∧ config.networkConfig m = .ok network ∧
      (∀ (h : Host) (w : World), h.configuredGuestPages = guestPageCount n →
        h.updateManifests config build m w = .ok (h, w)) ∧
      ∀ id view, config.views.lookup id = some view → ViewConfig.Paginated view →
        ∃ pages, config.compileView view n = .ok pages ∧
          (id ∈ config.outputs.stick.lcd.views → pages <:+: display.pages) ∧
          (∀ http, config.outputs.http = some http → id ∈ http.views → pages <:+: network.http.pages) ∧
          ∀ snapshot : HealthSnapshot, snapshot.guests.guests.length = m →
            (pages.flatMap fun page => shownGuests snapshot page.page) = snapshot.guests.guests := by
  obtain ⟨hd0, hn0⟩ := compiles_of_validate hv
  have hdisplay : config.displayConfig build n = .ok (config.displayManifest build n) :=
    displayConfig_succeeds hd0 fun _ => offsetsFit_of_le hn
  have hnetwork : config.networkConfig n = .ok (config.networkManifest n) :=
    networkConfig_succeeds hn0 fun _ _ _ => offsetsFit_of_le hn
  have hsame : guestPages n = guestPages m := by rw [← guestPageCount_eq, ← guestPageCount_eq, hpages]
  refine ⟨_, _, hdisplay, (displayConfig_congr hsame).symm.trans hdisplay, hnetwork,
    (networkConfig_congr hsame).symm.trans hnetwork, ?_, ?_⟩
  · intro h w hh
    rw [Host.updateManifests, if_neg (not_not.mpr (hpages.symm.trans hh.symm))]
    rfl
  · intro id view hview hpaginated
    refine ⟨_, compileView_paginated hpaginated hn, fun hid => infix_pagesOf hid hview, ?_, ?_⟩
    · intro http hhttp hid
      show _ <:+: (config.networkManifest n).http.pages
      rw [networkManifest, hhttp]
      exact infix_pagesOf hid hview
    · rintro snapshot rfl
      exact shownGuests_viewPages hpaginated hn hsame

/-- Five guests and eight take two pages, and the pages for five show all eight. -/
theorem guests_paged_guestsOnly :
    guestPageCount 5 = guestPageCount 8 ∧
      ∃ display network, guestsOnly.displayConfig ⟨"1.0"⟩ 5 = .ok display ∧
        guestsOnly.displayConfig ⟨"1.0"⟩ 8 = .ok display ∧ guestsOnly.networkConfig 5 = .ok network ∧
        guestsOnly.networkConfig 8 = .ok network ∧
        ∃ pages, guestsOnly.compileView ⟨"GUESTS", .guests true 0 4⟩ 5 = .ok pages ∧ pages <:+: display.pages ∧
          (pages.flatMap fun page => shownGuests (crowdedSnapshot 8) page.page) = (crowdedSnapshot 8).guests.guests := by
  obtain ⟨display, network, h1, h2, h3, h4, -, hviews⟩ :=
    @guests_paged guestsOnly ⟨"1.0"⟩ 5 8 () guestsOnly_valid (by decide) (by decide) rfl
  obtain ⟨pages, hpages, hlcd, -, hshown⟩ := hviews "guests" _ rfl ⟨0, 4, rfl⟩
  exact ⟨rfl, display, network, h1, h2, h3, h4, pages, hpages, hlcd (List.mem_singleton.mpr rfl), hshown _ rfl⟩

end Config
end Servatory
