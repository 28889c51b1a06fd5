import Servatory.Theorems.Host.Validate

/-! The manifests of a configuration as plain functions of the guest count: what compiling returns when it
    succeeds, when it does, and that only the number of guest pages matters. -/

namespace Servatory.Config
variable {config : Config} {build : SoftwareVersion} {g g' : Nat}

/-- The pages a view stands for. -/
def viewPages (config : Config) (guestCount : Nat) (view : ViewConfig) : List DisplayView :=
  let title : DisplayLabel := ⟨view.title⟩
  match view.layout with
  | .guests true _ _ =>
    (List.range (guestPages guestCount)).map fun index => ⟨title, .guests (UInt32.ofNat (index * 4)) 4⟩
  | .storage filesystemIds smartIds filesystemsLeft =>
    let filesystemIndices := filesystemIds.map fun id =>
      UInt32.ofNat ((config.sources.filesystems.findIdx? (·.id == id)).getD 0)
    let smartIndices := smartIds.map fun id =>
      UInt32.ofNat ((config.sources.smart.devices.findIdx? (·.id == id)).getD 0)
    (List.range (max (max ((filesystemIndices.length + 2) / 3) ((smartIndices.length + 4) / 5)) 1)).map fun index =>
      ⟨title, .storage filesystemsLeft ((filesystemIndices.drop (index * 3)).take 3)
        ((smartIndices.drop (index * 5)).take 5)⟩
  | .overview => [⟨title, .overview⟩]
  | .resources => [⟨title, .resources⟩]
  | .powerNetwork upsLeft => [⟨title, .powerNetwork upsLeft⟩]
  | .guests false offset limit => [⟨title, .guests offset limit⟩]

/-- The pages of a list of views; a view that is not configured has none. -/
def pagesOf (config : Config) (viewIds : List String) (guestCount : Nat) : List DisplayView :=
  viewIds.flatMap fun id => (config.views.lookup id).elim [] (config.viewPages guestCount)

/-- The manifest for the LCD. -/
def displayManifest (config : Config) (build : SoftwareVersion) (guestCount : Nat) : DisplayConfig where
  shutdownHoldMs := UInt16.ofNat config.actions.shutdown.holdTime
  shutdownAnimationDelayMs := UInt16.ofNat config.actions.shutdown.animationDelay
  daemonVersion := build
  filesystemLabels := config.sources.filesystems.map fun fs => ⟨fs.label⟩
  pages := config.pagesOf config.outputs.stick.lcd.views guestCount

/-- The manifest for the network. -/
def networkManifest (config : Config) (guestCount : Nat) : NetworkConfig where
  http := match config.outputs.http with
    | some http => ⟨http.enabled, http.port, http.hostname, config.pagesOf http.views guestCount⟩
    | none => ⟨false, 80, "servatory", []⟩
  ntfy := config.ntfyConfig

/-! ### Only the number of guest pages matters -/

theorem compileView_congr (h : guestPages g = guestPages g') (view : ViewConfig) :
    config.compileView view g = config.compileView view g' := by
  rw [compileView, compileView, h]

theorem compilePagesFor_congr (h : guestPages g = guestPages g') (viewIds : List String) (output : String) :
    config.compilePagesFor viewIds g output = config.compilePagesFor viewIds g' output := by
  have hpage : config.compilePage g = config.compilePage g' := by
    funext id
    rw [compilePage, compilePage]
    split
    · exact compileView_congr h _
    · rfl
  rw [compilePagesFor, compilePagesFor, hpage]

/-- Guest counts with the same number of pages have the same display manifest. -/
theorem displayConfig_congr (h : guestPages g = guestPages g') :
    config.displayConfig build g = config.displayConfig build g' := by
  rw [displayConfig, displayConfig, compilePages, compilePages, compilePagesFor_congr h]

/-- Guest counts with the same number of pages have the same network manifest. -/
theorem networkConfig_congr (h : guestPages g = guestPages g') : config.networkConfig g = config.networkConfig g' := by
  have hhttp : config.httpConfig g = config.httpConfig g' := by
    rw [httpConfig, httpConfig]
    split
    · rw [compilePagesFor_congr h]
    · rfl
  rw [networkConfig, networkConfig, hhttp]

/-! ### What compiling returns -/

theorem resolveIndices_eq {kind : String} {position : String → Option Nat} {ids : List String} {indices : List UInt32}
    (h : resolveIndices kind position ids = .ok indices) :
    indices = ids.map fun id => UInt32.ofNat ((position id).getD 0) := by
  refine Except.eq_map_of_mapM ?_ h
  intro id index hindex
  split at hindex
  · cases hindex
  · rename_i heq
    split at hindex
    · cases hindex
      rw [heq, Option.getD_some]
    · cases hindex

theorem guestPage_eq {title : DisplayLabel} {index : Nat} {page : DisplayView}
    (h : guestPage title index = .ok page) : page = ⟨title, .guests (UInt32.ofNat (index * 4)) 4⟩ := by
  rw [guestPage] at h
  split at h
  · exact (Except.ok.inj h).symm
  · cases h

theorem compileView_eq {view : ViewConfig} {pages : List DisplayView} (h : config.compileView view g = .ok pages) :
    pages = config.viewPages g view := by
  rw [compileView] at h
  rw [viewPages]
  cases hl : view.layout with
  | guests paginate offset limit =>
    cases paginate with
    | true =>
      simp only [hl] at h
      exact Except.eq_map_of_mapM (fun _ _ => guestPage_eq) h
    | false =>
      simp only [hl] at h
      exact (Except.ok.inj h).symm
  | storage filesystemIds smartIds filesystemsLeft =>
    simp only [hl] at h
    obtain ⟨filesystemIndices, hf, h⟩ := Except.bind_eq_ok.mp h
    obtain ⟨smartIndices, hs, h⟩ := Except.bind_eq_ok.mp h
    rw [resolveIndices_eq hf, resolveIndices_eq hs] at h
    exact (Except.ok.inj h).symm
  | _ =>
    simp only [hl] at h
    exact (Except.ok.inj h).symm

theorem compilePage_eq_ok {id : String} {pages : List DisplayView} :
    config.compilePage g id = .ok pages ↔
      ∃ view, config.views.lookup id = some view ∧ config.compileView view g = .ok pages := by
  rw [compilePage]
  split
  · rename_i view hview
    exact ⟨fun h => ⟨view, hview, h⟩, fun ⟨other, hother, h⟩ => Option.some.inj (hview.symm.trans hother) ▸ h⟩
  · rename_i hview
    exact ⟨by rintro ⟨⟩, fun ⟨other, hother, h⟩ => by cases hview.symm.trans hother⟩

theorem compilePagesFor_eq {viewIds : List String} {output : String} {pages : List DisplayView}
    (h : config.compilePagesFor viewIds g output = .ok pages) : pages = config.pagesOf viewIds g := by
  obtain ⟨-, -, h⟩ := Except.bind_eq_ok.mp h
  obtain ⟨lists, hlists, h⟩ := Except.bind_eq_ok.mp h
  have hmap : lists = viewIds.map fun id => (config.views.lookup id).elim [] (config.viewPages g) := by
    refine Except.eq_map_of_mapM ?_ hlists
    intro id list hlist
    obtain ⟨view, hview, hlist⟩ := compilePage_eq_ok.mp hlist
    rw [hview]
    exact compileView_eq hlist
  rw [← Except.ok.inj h, hmap, pagesOf, List.flatMap]

theorem toU16_eq {millis : Nat} {error : ConfigError} {n : UInt16} (h : toU16 millis error = .ok n) :
    n = UInt16.ofNat millis := by
  rw [toU16] at h
  split at h
  · exact (Except.ok.inj h).symm
  · cases h

theorem displayConfig_new_eq_some {hold delay : UInt16} {labels : List DisplayLabel} {pages : List DisplayView}
    {display : DisplayConfig} :
    DisplayConfig.new hold delay labels pages = some display ↔
      pages ≠ [] ∧ hold ≠ 0 ∧ delay < hold ∧ display = ⟨hold, delay, ⟨"unknown"⟩, labels, pages⟩ := by
  rw [DisplayConfig.new]
  split
  · rename_i hbad
    refine ⟨by rintro ⟨⟩, fun ⟨hpages, hhold, hdelay, _⟩ => ?_⟩
    simp only [Bool.or_eq_true, List.isEmpty_iff, beq_iff_eq, decide_eq_true_eq] at hbad
    rcases hbad with (hbad | hbad) | hbad
    · exact absurd hbad hpages
    · exact absurd hbad hhold
    · exact absurd hdelay (UInt16.not_lt.mpr hbad)
  · rename_i hgood
    simp only [Bool.or_eq_true, List.isEmpty_iff, beq_iff_eq, decide_eq_true_eq, not_or] at hgood
    obtain ⟨⟨hpages, hhold⟩, hdelay⟩ := hgood
    constructor
    · exact fun h => ⟨hpages, hhold, UInt16.not_le.mp hdelay, (Option.some.inj h).symm⟩
    · exact fun ⟨_, _, _, h⟩ => congrArg some h.symm

/-- What compiling the manifest for the LCD comes to. -/
theorem displayConfig_eq_ok {display : DisplayConfig} :
    config.displayConfig build g = .ok display ↔
      ∃ hold delay pages, toU16 config.actions.shutdown.holdTime .holdTimeTooLong = .ok hold ∧
        toU16 config.actions.shutdown.animationDelay .animationDelayExceedsLimit = .ok delay ∧
        config.compilePages g = .ok pages ∧ pages ≠ [] ∧ hold ≠ 0 ∧ delay < hold ∧
        display = ⟨hold, delay, build, config.sources.filesystems.map fun fs => ⟨fs.label⟩, pages⟩ := by
  constructor
  · intro h
    obtain ⟨hold, hhold, h⟩ := Except.bind_eq_ok.mp h
    obtain ⟨delay, hdelay, h⟩ := Except.bind_eq_ok.mp h
    obtain ⟨pages, hpages, h⟩ := Except.bind_eq_ok.mp h
    split at h
    · rename_i display' hnew
      obtain ⟨hne, hpos, hlt, rfl⟩ := displayConfig_new_eq_some.mp hnew
      exact ⟨hold, delay, pages, hhold, hdelay, hpages, hne, hpos, hlt, (Except.ok.inj h).symm⟩
    · cases h
  · rintro ⟨hold, delay, pages, hhold, hdelay, hpages, hne, hpos, hlt, rfl⟩
    refine Except.bind_eq_ok.mpr ⟨hold, hhold, Except.bind_eq_ok.mpr ⟨delay, hdelay,
      Except.bind_eq_ok.mpr ⟨pages, hpages, ?_⟩⟩⟩
    rw [displayConfig_new_eq_some.mpr ⟨hne, hpos, hlt, rfl⟩]
    rfl

theorem displayConfig_eq {display : DisplayConfig} (h : config.displayConfig build g = .ok display) :
    display = config.displayManifest build g := by
  obtain ⟨hold, delay, pages, hhold, hdelay, hpages, -, -, -, rfl⟩ := displayConfig_eq_ok.mp h
  rw [toU16_eq hhold, toU16_eq hdelay, compilePagesFor_eq hpages]
  rfl

theorem networkConfig_eq {network : NetworkConfig} (h : config.networkConfig g = .ok network) :
    network = config.networkManifest g := by
  obtain ⟨http, hhttp, h⟩ := Except.bind_eq_ok.mp h
  rw [← Except.ok.inj h, networkManifest]
  rw [httpConfig] at hhttp
  cases hout : config.outputs.http with
  | some output =>
    rw [hout] at hhttp
    obtain ⟨pages, hpages, hhttp⟩ := Except.bind_eq_ok.mp hhttp
    rw [← Except.ok.inj hhttp, compilePagesFor_eq hpages]
  | none =>
    rw [hout] at hhttp
    rw [← Except.ok.inj hhttp]

/-! ### When compiling succeeds -/

/-- The offsets of the guest pages fit the protocol. -/
def OffsetsFit (guestCount : Nat) : Prop := (guestPages guestCount - 1) * 4 < UInt32.size

/-- The view takes as many pages as there are guests to show. -/
def ViewConfig.Paginated (view : ViewConfig) : Prop := ∃ offset limit, view.layout = .guests true offset limit

theorem guestPage_succeeds (hfit : OffsetsFit g) (title : DisplayLabel) {index : Nat} (h : index < guestPages g) :
    Except.Succeeds (guestPage title index) := by
  have hlt : index * 4 < UInt32.size := by
    rw [OffsetsFit] at hfit
    omega
  rw [guestPage, if_pos hlt]
  exact Except.succeeds_ok _

theorem compileView_succeeds {view : ViewConfig} (h0 : Except.Succeeds (config.compileView view 0))
    (hg : ViewConfig.Paginated view → OffsetsFit g) : Except.Succeeds (config.compileView view g) := by
  rw [compileView] at h0 ⊢
  cases hl : view.layout with
  | guests paginate offset limit =>
    cases paginate with
    | true =>
      refine Except.succeeds_mapM.mpr fun index hindex => ?_
      exact guestPage_succeeds (hg ⟨offset, limit, hl⟩) _ (List.mem_range.mp hindex)
    | false => exact Except.succeeds_ok _
  | _ =>
    rw [hl] at h0
    exact h0

/-- The views of one output that take as many pages as there are guests to show. -/
def HasPaginated (config : Config) (viewIds : List String) : Prop :=
  ∃ id ∈ viewIds, ∃ view, config.views.lookup id = some view ∧ ViewConfig.Paginated view

/-- A list of views compiles when there is one, and each is configured and compiles. -/
theorem succeeds_compilePagesFor {viewIds : List String} {output : String} :
    Except.Succeeds (config.compilePagesFor viewIds g output) ↔
      viewIds ≠ [] ∧ ∀ id ∈ viewIds, ∃ view, config.views.lookup id = some view ∧
        Except.Succeeds (config.compileView view g) := by
  have hpage : ∀ id, Except.Succeeds (config.compilePage g id) ↔
      ∃ view, config.views.lookup id = some view ∧ Except.Succeeds (config.compileView view g) := by
    intro id
    constructor
    · rintro ⟨pages, h⟩
      obtain ⟨view, hview, h⟩ := compilePage_eq_ok.mp h
      exact ⟨view, hview, pages, h⟩
    · rintro ⟨view, hview, pages, h⟩
      exact ⟨pages, compilePage_eq_ok.mpr ⟨view, hview, h⟩⟩
  rw [compilePagesFor, Except.succeeds_bind]
  simp only [Except.succeeds_bind_of_forall fun _ => Except.succeeds_pure _, Except.succeeds_mapM, hpage]
  cases viewIds with
  | nil =>
    constructor
    · rintro ⟨_, h, _⟩
      cases h
    · exact fun ⟨h, _⟩ => absurd rfl h
  | cons id rest => exact ⟨fun ⟨_, _, h⟩ => ⟨List.cons_ne_nil id rest, h⟩, fun ⟨_, h⟩ => ⟨(), rfl, h⟩⟩

theorem compilePagesFor_succeeds {viewIds : List String} {output : String}
    (h0 : Except.Succeeds (config.compilePagesFor viewIds 0 output)) (hg : config.HasPaginated viewIds → OffsetsFit g) :
    Except.Succeeds (config.compilePagesFor viewIds g output) := by
  obtain ⟨hne, hviews⟩ := succeeds_compilePagesFor.mp h0
  refine succeeds_compilePagesFor.mpr ⟨hne, fun id hid => ?_⟩
  obtain ⟨view, hview, h⟩ := hviews id hid
  exact ⟨view, hview, compileView_succeeds h fun hp => hg ⟨id, hid, view, hview, hp⟩⟩

/-- Every view has a page. -/
theorem viewPages_ne_nil (view : ViewConfig) : config.viewPages g view ≠ [] := by
  rw [viewPages]
  cases view.layout with
  | guests paginate offset limit =>
    cases paginate with
    | true =>
      have hpos : guestPages g ≠ 0 := by
        rw [guestPages]
        omega
      simp [hpos]
    | false => simp
  | storage filesystemIds smartIds filesystemsLeft =>
    have hpos : max (max ((filesystemIds.length + 2) / 3) ((smartIds.length + 4) / 5)) 1 ≠ 0 := by omega
    simp only [List.length_map, ne_eq, List.map_eq_nil_iff, List.range_eq_nil]
    exact hpos
  | _ => simp

/-- A list of views that compiles has a page, whatever the guest count. -/
theorem pagesOf_ne_nil {viewIds : List String} {output : String}
    (h : Except.Succeeds (config.compilePagesFor viewIds g output)) (g' : Nat) : config.pagesOf viewIds g' ≠ [] := by
  obtain ⟨hne, hviews⟩ := succeeds_compilePagesFor.mp h
  obtain ⟨id, rest, rfl⟩ := List.exists_cons_of_ne_nil hne
  obtain ⟨view, hview, -⟩ := hviews id (List.mem_cons_self ..)
  rw [pagesOf, List.flatMap_cons, hview]
  exact fun hnil => viewPages_ne_nil view (List.append_eq_nil_iff.mp hnil).1

/-- A configuration that compiles for a host without guests compiles for every guest count whose offsets the
    protocol can express. -/
theorem displayConfig_succeeds (h0 : Except.Succeeds (config.displayConfig build 0))
    (hg : config.HasPaginated config.outputs.stick.lcd.views → OffsetsFit g) :
    config.displayConfig build g = .ok (config.displayManifest build g) := by
  obtain ⟨display₀, h0⟩ := h0
  obtain ⟨hold, delay, pages₀, hhold, hdelay, hpages₀, -, hpos, hlt, -⟩ := displayConfig_eq_ok.mp h0
  obtain ⟨pages, hpages⟩ := compilePagesFor_succeeds ⟨pages₀, hpages₀⟩ hg
  have hne : pages ≠ [] := by
    rw [compilePagesFor_eq hpages]
    exact pagesOf_ne_nil ⟨pages, hpages⟩ g
  have hok : config.displayConfig build g = .ok _ :=
    displayConfig_eq_ok.mpr ⟨hold, delay, pages, hhold, hdelay, hpages, hne, hpos, hlt, rfl⟩
  rw [hok, displayConfig_eq hok]

theorem networkConfig_succeeds (h0 : Except.Succeeds (config.networkConfig 0))
    (hg : ∀ http, config.outputs.http = some http → config.HasPaginated http.views → OffsetsFit g) :
    config.networkConfig g = .ok (config.networkManifest g) := by
  have hhttp : Except.Succeeds (config.httpConfig g) := by
    obtain ⟨network₀, h0⟩ := h0
    obtain ⟨http₀, hhttp₀, -⟩ := Except.bind_eq_ok.mp h0
    rw [httpConfig] at hhttp₀ ⊢
    cases hout : config.outputs.http with
    | none => exact Except.succeeds_ok _
    | some http =>
      rw [hout] at hhttp₀
      obtain ⟨pages₀, hpages₀, -⟩ := Except.bind_eq_ok.mp hhttp₀
      obtain ⟨pages, hpages⟩ := compilePagesFor_succeeds ⟨pages₀, hpages₀⟩ (hg http hout)
      exact Except.succeeds_bind.mpr ⟨pages, hpages, Except.succeeds_pure _⟩
  obtain ⟨http, hhttp⟩ := hhttp
  have hok : config.networkConfig g = .ok ⟨http, config.ntfyConfig⟩ := Except.bind_eq_ok.mpr ⟨http, hhttp, rfl⟩
  rw [hok, networkConfig_eq hok]

/-- An accepted configuration has compiled for a host without guests. -/
theorem compiles_of_validate {u : Unit} (h : config.validate build = .ok u) :
    Except.Succeeds (config.displayConfig build 0) ∧ Except.Succeeds (config.networkConfig 0) := by
  obtain ⟨display, hdisplay, hsizes⟩ := Except.bind_eq_ok.mp (validated h).sizes
  obtain ⟨-, -, hsizes⟩ := Except.bind_eq_ok.mp hsizes
  obtain ⟨network, hnetwork, -⟩ := Except.bind_eq_ok.mp hsizes
  exact ⟨⟨display, hdisplay⟩, ⟨network, hnetwork⟩⟩

end Servatory.Config
