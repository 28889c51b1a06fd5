import Mathlib.Data.List.Forall2
import Servatory.Host.Health
import Servatory.Lib.Paging
import Servatory.Theorems.Host.Budget
import Servatory.Theorems.Stick.Drawing

/-! The rows of storage from the configuration to the screen. The daemon turns the ids of a view into positions, cuts
    them into pages, and collects its measurements in the order of the positions; the Stick finds labels and
    measurements at the positions again, unless the name of the host crashes it. A page on which no disks are left says
    that none are configured. -/

namespace Servatory

/-! ### What the collector leaves at a position -/

/-- The measurements of filesystems and disks are in the order of the configuration. -/
structure Collected (config : Config) (snapshot : HealthSnapshot) : Prop where
  filesystems : snapshot.filesystems.length = config.sources.filesystems.length
  smart : snapshot.smart.devices.map (·.label) = config.sources.smart.devices.map (·.label)

theorem labels_readSmart (reads : Readings) (devices : List SmartDeviceConfig) :
    (readSmart reads devices).devices.map (·.label) = devices.map (·.label) := by
  refine List.ext_getElem? fun i => ?_
  rw [readSmart, List.getElem?_map, List.getElem?_mapIdx, List.getElem?_map, Option.map_map]
  rfl

namespace HealthCollector
variable {config : Config} {c : HealthCollector} {now : Nat} {reads : Readings}

/-- What every collection keeps. -/
structure Ordered (config : Config) (c : HealthCollector) : Prop where
  filesystems : c.filesystems = config.sources.filesystems.map (·.path)
  devices : c.smartDevices = config.sources.smart.devices
  usage : c.filesystemUsage.length = config.sources.filesystems.length

/-- The disks have been read. -/
def SmartRead (config : Config) (c : HealthCollector) : Prop :=
  c.smart.devices.map (·.label) = config.sources.smart.devices.map (·.label)

theorem Ordered.ofConfig (config : Config) (now : Nat) : Ordered config (ofConfig config now) := by
  refine ⟨rfl, rfl, ?_⟩
  show (List.replicate (config.sources.filesystems.map (·.path)).length FilesystemUsage.missing).length = _
  rw [List.length_replicate, List.length_map]

theorem Ordered.collect (h : Ordered config c) : Ordered config (c.collect now reads) := by
  refine ⟨h.filesystems, h.devices, ?_⟩
  show (if (refreshDue now c.nextFilesystemRefresh filesystemRefreshInterval).1 = true then
    c.filesystems.mapIdx reads.filesystemUsage else c.filesystemUsage).length = _
  split
  · rw [List.length_mapIdx, h.filesystems, List.length_map]
  · exact h.usage

/-- The disks are read when that is due, and stay read. -/
theorem smartRead_collect (h : Ordered config c) (hread : c.nextSmartRefresh ≤ now ∨ SmartRead config c) :
    SmartRead config (c.collect now reads) := by
  show (if (refreshDue now c.nextSmartRefresh smartRefreshInterval).1 = true then
    readSmart reads c.smartDevices else c.smart).devices.map (·.label) = _
  split
  · rw [h.devices]
    exact labels_readSmart reads _
  · rename_i hnot
    refine hread.resolve_left fun hle => hnot ?_
    rw [refreshDue, if_neg (Nat.not_lt.mpr hle)]

/-- Every snapshot of a collector is in the order of its configuration. -/
theorem collected_run {start : Nat} {first : Nat × Readings} {collections : List (Nat × Readings)} (hstart : start ≤ first.1)
    (rest : HealthSnapshot) :
    Collected config (((ofConfig config start).run (first :: collections)).snapshot rest) := by
  suffices h : ∀ (collections : List (Nat × Readings)) {c : HealthCollector}, Ordered config c → SmartRead config c →
      Ordered config (c.run collections) ∧ SmartRead config (c.run collections) by
    have hordered := Ordered.ofConfig config start
    obtain ⟨hordered, hread⟩ := h collections hordered.collect (smartRead_collect hordered (.inl hstart))
    exact ⟨hordered.usage, hread⟩
  intro collections
  induction collections with
  | nil => exact fun hordered hread => ⟨hordered, hread⟩
  | cons collection rest ih => exact fun hordered hread => ih hordered.collect (smartRead_collect hordered (.inr hread))

end HealthCollector

/-! ### What an accepted configuration resolves -/

namespace Config
variable {config : Config} {build : SoftwareVersion} {snapshot : HealthSnapshot} {g : Nat}

/-- The ids of filesystems and of disks are unique. -/
theorem nodup_of_validate {u : Unit} (h : config.validate build = .ok u) :
    (config.sources.filesystems.map (·.id)).Nodup ∧ (config.sources.smart.devices.map (·.id)).Nodup :=
  ⟨(nodup_of_validateIds (validated h).filesystemIds).1, (nodup_of_validateIds (validated h).smartIds).1⟩

theorem resolveIndices_position {kind : String} {position : String → Option Nat} {ids : List String}
    {indices : List UInt32} (h : resolveIndices kind position ids = .ok indices) :
    ∀ id ∈ ids, ∃ index, position id = some index ∧ index < UInt32.size := by
  intro id hid
  obtain ⟨resolved, hresolved⟩ := Except.succeeds_mapM.mp ⟨indices, h⟩ id hid
  split at hresolved
  · cases hresolved
  · rename_i index hindex
    refine ⟨index, hindex, ?_⟩
    by_contra hlarge
    rw [if_neg hlarge] at hresolved
    cases hresolved

/-! ### What is shown for an id -/

/-- The label that is configured for a filesystem, and what was measured for it. -/
def ShowsFilesystem (config : Config) (snapshot : HealthSnapshot) (id : String) (row : DisplayLabel × FilesystemUsage) :
    Prop :=
  ∃ (index : Nat) (fs : FilesystemConfig), config.sources.filesystems[index]? = some fs ∧ fs.id = id ∧
    row.1 = ⟨fs.label⟩ ∧ snapshot.filesystems[index]? = some row.2

/-- What was measured for a disk. -/
def ShowsDevice (config : Config) (snapshot : HealthSnapshot) (id : String) (row : SmartDeviceSummary) : Prop :=
  ∃ (index : Nat) (device : SmartDeviceConfig), config.sources.smart.devices[index]? = some device ∧ device.id = id ∧
    row.label = device.label ∧ snapshot.smart.devices[index]? = some row

def filesystemPosition (config : Config) (id : String) : Option Nat := config.sources.filesystems.findIdx? (·.id == id)

def devicePosition (config : Config) (id : String) : Option Nat := config.sources.smart.devices.findIdx? (·.id == id)

/-- The row that the Stick looks up at the position of a filesystem. -/
def filesystemRow (config : Config) (snapshot : HealthSnapshot) (id : String) : DisplayLabel × FilesystemUsage :=
  let index := (config.filesystemPosition id).getD 0
  (((config.sources.filesystems.map fun fs => (⟨fs.label⟩ : DisplayLabel))[index]?).getD ⟨""⟩,
    (snapshot.filesystems[index]?).getD .missing)

def deviceRow (config : Config) (snapshot : HealthSnapshot) (id : String) : SmartDeviceSummary :=
  (snapshot.smart.devices[(config.devicePosition id).getD 0]?).getD ⟨.unknown, none, ""⟩

theorem showsFilesystem_row (hc : Collected config snapshot) {id : String} {index : Nat}
    (h : config.filesystemPosition id = some index) :
    (config.sources.filesystems.map fun fs => (⟨fs.label⟩ : DisplayLabel))[index]? =
        some (config.filesystemRow snapshot id).1 ∧
      snapshot.filesystems[index]? = some (config.filesystemRow snapshot id).2 ∧
      config.ShowsFilesystem snapshot id (config.filesystemRow snapshot id) := by
  obtain ⟨hlt, hid, -⟩ := List.findIdx?_eq_some_iff_getElem.mp h
  have hfs : config.sources.filesystems[index]? = some config.sources.filesystems[index] := List.getElem?_eq_getElem hlt
  have hlabel : (config.sources.filesystems.map fun fs => (⟨fs.label⟩ : DisplayLabel))[index]? =
      some ⟨config.sources.filesystems[index].label⟩ := by
    rw [List.getElem?_map, hfs]
    rfl
  have hmeasured : index < snapshot.filesystems.length := by
    rw [hc.filesystems]
    exact hlt
  have husage : snapshot.filesystems[index]? = some snapshot.filesystems[index] := List.getElem?_eq_getElem hmeasured
  have hrow : config.filesystemRow snapshot id =
      (⟨config.sources.filesystems[index].label⟩, snapshot.filesystems[index]) := by
    simp only [filesystemRow, h, Option.getD_some, hlabel, husage]
  rw [hrow]
  exact ⟨hlabel, husage, index, _, hfs, beq_iff_eq.mp hid, rfl, husage⟩

theorem showsDevice_row (hc : Collected config snapshot) {id : String} {index : Nat}
    (h : config.devicePosition id = some index) :
    snapshot.smart.devices[index]? = some (config.deviceRow snapshot id) ∧
      config.ShowsDevice snapshot id (config.deviceRow snapshot id) := by
  obtain ⟨hlt, hid, -⟩ := List.findIdx?_eq_some_iff_getElem.mp h
  have hdevice : config.sources.smart.devices[index]? = some config.sources.smart.devices[index] :=
    List.getElem?_eq_getElem hlt
  have hlength : snapshot.smart.devices.length = config.sources.smart.devices.length := by
    have hlabels := congrArg List.length hc.smart
    rwa [List.length_map, List.length_map] at hlabels
  have hmeasured : index < snapshot.smart.devices.length := by
    rw [hlength]
    exact hlt
  have hsummary : snapshot.smart.devices[index]? = some snapshot.smart.devices[index] :=
    List.getElem?_eq_getElem hmeasured
  have hlabel : snapshot.smart.devices[index].label = config.sources.smart.devices[index].label := by
    have hlabels := congrArg (·[index]?) hc.smart
    simp only [List.getElem?_map, hsummary, hdevice, Option.map_some, Option.some.injEq] at hlabels
    exact hlabels
  have hrow : config.deviceRow snapshot id = snapshot.smart.devices[index] := by
    simp only [deviceRow, h, Option.getD_some, hsummary]
  rw [hrow]
  exact ⟨hsummary, index, _, hdevice, beq_iff_eq.mp hid, hlabel, hsummary⟩

end Config

/-! ### The pages of a view -/

/-- The rows of a page of storage. -/
structure StoragePage where
  filesystems : List (DisplayLabel × FilesystemUsage)
  devices : List SmartDeviceSummary

/-- The texts of a page behind its header: its rows below one another, without gaps. -/
def StoragePage.texts (snapshot : HealthSnapshot) (filesystemsLeft : Bool) (page : StoragePage) : List Text :=
  let filesystemX : Int := if filesystemsLeft then 4 else 122
  let smartX : Int := if filesystemsLeft then 122 else 4
  [⟨"FILESYSTEMS", filesystemX + 26, 34⟩] ++
    page.filesystems.zipIdx.flatMap (fun (row, n) => drawStorageRow filesystemX (51 + n * 18) row.1.value row.2) ++
    [⟨(formatBackupJob snapshot).value, filesystemX + 6, 112⟩, ⟨"SMART", smartX + 26, 34⟩] ++
    if page.devices.isEmpty then [⟨"NOT CONFIGURED", smartX + 6, 58⟩]
    else page.devices.zipIdx.flatMap fun (device, n) => drawSmartRow smartX (51 + n * 17) device

/-- Where every index has data, the rows are drawn for the data in order. -/
theorem drawRows_map {α : Type} {ids : List String} {index : String → UInt32} {row : String → α}
    {draw : Nat → Int → List Text} {drawRow : Int → α → List Text} (step : Int)
    (h : ∀ id ∈ ids, ∀ baseline, draw (index id).toNat baseline = drawRow baseline (row id)) :
    drawRows (ids.map index) step draw = (ids.map row).zipIdx.flatMap fun (row, n) => drawRow (51 + n * step) row := by
  rw [drawRows, List.zipIdx_map, List.zipIdx_map, List.flatMap_map, List.flatMap_map]
  exact List.flatMap_congr fun p hp => h p.1 (List.fst_mem_of_mem_zipIdx hp) _

namespace Config
variable {config : Config} {build : SoftwareVersion} {snapshot : HealthSnapshot} {g : Nat}

/-- The ids of a view have positions that the protocol can express. -/
structure Resolves (config : Config) (filesystemIds smartIds : List String) : Prop where
  filesystems : ∀ id ∈ filesystemIds, ∃ index, config.filesystemPosition id = some index ∧ index < UInt32.size
  devices : ∀ id ∈ smartIds, ∃ index, config.devicePosition id = some index ∧ index < UInt32.size

theorem toNat_position {position : Option Nat} {index : Nat} (h : position = some index) (hlt : index < UInt32.size) :
    (UInt32.ofNat (position.getD 0)).toNat = index := by
  rw [h, Option.getD_some, UInt32.toNat_ofNat_of_lt' hlt]

/-- A page with the positions of some ids shows the rows of these ids. -/
theorem drawStorageSmart_eq {filesystemIds smartIds : List String} (hr : config.Resolves filesystemIds smartIds)
    (hc : Collected config snapshot) {display : DisplayConfig}
    (hlabels : display.filesystemLabels = config.sources.filesystems.map fun fs => ⟨fs.label⟩) (n : Nat) (title : String)
    (filesystemsLeft : Bool) (pageCount : Nat) :
    drawStorageSmart snapshot display n title filesystemsLeft
        (filesystemIds.map fun id => UInt32.ofNat ((config.filesystemPosition id).getD 0))
        (smartIds.map fun id => UInt32.ofNat ((config.devicePosition id).getD 0)) pageCount =
      (do
        let header ← drawHeader snapshot title n pageCount
        return header ++
          StoragePage.texts snapshot filesystemsLeft
            ⟨filesystemIds.map (config.filesystemRow snapshot), smartIds.map (config.deviceRow snapshot)⟩) := by
  refine bind_congr fun header => congrArg pure ?_
  dsimp only [StoragePage.texts]
  rw [@drawRows_map _ filesystemIds _ (config.filesystemRow snapshot) _
      (fun baseline row => drawStorageRow (if filesystemsLeft then 4 else 122) baseline row.1.value row.2) 18 ?_,
    @drawRows_map _ smartIds _ (config.deviceRow snapshot) _ (drawSmartRow (if filesystemsLeft then 122 else 4)) 17 ?_,
    List.isEmpty_map, List.isEmpty_map]
  · simp only [List.append_assoc]
  · intro id hid baseline
    obtain ⟨index, hindex, hlt⟩ := hr.devices id hid
    rw [toNat_position hindex hlt, (showsDevice_row hc hindex).1]
  · intro id hid baseline
    obtain ⟨index, hindex, hlt⟩ := hr.filesystems id hid
    obtain ⟨hlabel, husage, -⟩ := showsFilesystem_row hc hindex
    rw [toNat_position hindex hlt, hlabels, hlabel, husage]

/-- The ids of a view that compiles resolve. -/
theorem resolves_of_compileView {view : ViewConfig} {filesystemIds smartIds : List String} {filesystemsLeft : Bool}
    {pages : List DisplayView} (hlayout : view.layout = .storage filesystemIds smartIds filesystemsLeft)
    (h : config.compileView view g = .ok pages) : config.Resolves filesystemIds smartIds := by
  rw [compileView] at h
  simp only [hlayout] at h
  obtain ⟨_, hfilesystems, h⟩ := Except.bind_eq_ok.mp h
  obtain ⟨_, hdevices, -⟩ := Except.bind_eq_ok.mp h
  exact ⟨resolveIndices_position hfilesystems, resolveIndices_position hdevices⟩

/-- The number of pages of a storage view. -/
def storagePageCount (filesystemIds smartIds : List String) : Nat :=
  max (max ((filesystemIds.length + 2) / 3) ((smartIds.length + 4) / 5)) 1

/-- The rows of the pages of a storage view. -/
def storageContent (config : Config) (snapshot : HealthSnapshot) (filesystemIds smartIds : List String) :
    List StoragePage :=
  (List.range (storagePageCount filesystemIds smartIds)).map fun index =>
    ⟨Paging.page 3 (filesystemIds.map (config.filesystemRow snapshot)) index,
      Paging.page 5 (smartIds.map (config.deviceRow snapshot)) index⟩

theorem viewPages_storage {view : ViewConfig} {filesystemIds smartIds : List String} {filesystemsLeft : Bool}
    (hlayout : view.layout = .storage filesystemIds smartIds filesystemsLeft) :
    config.viewPages g view = (List.range (storagePageCount filesystemIds smartIds)).map fun index =>
      ⟨⟨view.title⟩, .storage filesystemsLeft
        ((Paging.page 3 filesystemIds index).map fun id => UInt32.ofNat ((config.filesystemPosition id).getD 0))
        ((Paging.page 5 smartIds index).map fun id => UInt32.ofNat ((config.devicePosition id).getD 0))⟩ := by
  rw [viewPages]
  simp only [hlayout, List.length_map, ← Paging.page_map]
  rfl

/-- The pages of a storage view are drawn and, in order, show the rows of its ids in order. -/
structure ShowsStorage (config : Config) (snapshot : HealthSnapshot) (display : DisplayConfig)
    (filesystemIds smartIds : List String) (filesystemsLeft : Bool) (pages : List DisplayView)
    (content : List StoragePage) : Prop where
  drawn : List.Forall₂ (fun page rows => ∀ n, ∃ header,
    drawHeader snapshot page.title.value n display.pages.length = .ok header ∧
      drawPage snapshot display n page = .ok (header ++ StoragePage.texts snapshot filesystemsLeft rows)) pages content
  filesystems : List.Forall₂ (config.ShowsFilesystem snapshot) filesystemIds (content.flatMap (·.filesystems))
  devices : List.Forall₂ (config.ShowsDevice snapshot) smartIds (content.flatMap (·.devices))
  bounded : ∀ rows ∈ content, rows.filesystems.length ≤ 3 ∧ rows.devices.length ≤ 5
  filled : ∀ rows ∈ content, rows.filesystems = [] → rows.devices = [] → filesystemIds = [] ∧ smartIds = []

theorem showsStorage {view : ViewConfig} {filesystemIds smartIds : List String} {filesystemsLeft : Bool}
    (hlayout : view.layout = .storage filesystemIds smartIds filesystemsLeft)
    (hr : config.Resolves filesystemIds smartIds) (hc : Collected config snapshot) {display : DisplayConfig}
    (hlabels : display.filesystemLabels = config.sources.filesystems.map fun fs => ⟨fs.label⟩)
    (hhost : HostNameFits snapshot) :
    config.ShowsStorage snapshot display filesystemIds smartIds filesystemsLeft (config.viewPages g view)
      (config.storageContent snapshot filesystemIds smartIds) := by
  have hfilesystems : ((config.storageContent snapshot filesystemIds smartIds).flatMap (·.filesystems)) =
      filesystemIds.map (config.filesystemRow snapshot) := by
    rw [storageContent, List.flatMap_map]
    refine Paging.flatten_pages_eq ?_
    rw [List.length_map, storagePageCount]
    omega
  have hdevices : ((config.storageContent snapshot filesystemIds smartIds).flatMap (·.devices)) =
      smartIds.map (config.deviceRow snapshot) := by
    rw [storageContent, List.flatMap_map]
    refine Paging.flatten_pages_eq ?_
    rw [List.length_map, storagePageCount]
    omega
  refine ⟨?_, ?_, ?_, ?_, ?_⟩
  · rw [viewPages_storage hlayout, storageContent, List.forall₂_map_left_iff, List.forall₂_map_right_iff,
      List.forall₂_same]
    intro index _ n
    have hpage : config.Resolves (Paging.page 3 filesystemIds index) (Paging.page 5 smartIds index) :=
      ⟨fun id hid => hr.filesystems id (Paging.mem_of_mem_page hid),
        fun id hid => hr.devices id (Paging.mem_of_mem_page hid)⟩
    obtain ⟨header, hheader⟩ := (drawHeader_succeeds snapshot view.title n display.pages.length).mpr hhost
    rw [Paging.page_map, Paging.page_map]
    refine ⟨header, hheader, (drawStorageSmart_eq hpage hc hlabels n view.title filesystemsLeft display.pages.length).trans ?_⟩
    rw [hheader]
    rfl
  · rw [hfilesystems, List.forall₂_map_right_iff, List.forall₂_same]
    intro id hid
    obtain ⟨index, hindex, -⟩ := hr.filesystems id hid
    exact (showsFilesystem_row hc hindex).2.2
  · rw [hdevices, List.forall₂_map_right_iff, List.forall₂_same]
    intro id hid
    obtain ⟨index, hindex, -⟩ := hr.devices id hid
    exact (showsDevice_row hc hindex).2
  · intro rows hrows
    obtain ⟨index, -, rfl⟩ := List.mem_map.mp hrows
    exact ⟨Paging.length_page_le index, Paging.length_page_le index⟩
  · intro rows hrows hnoFilesystem hnoDevice
    obtain ⟨index, hindex, rfl⟩ := List.mem_map.mp hrows
    have hlt := List.mem_range.mp hindex
    rw [storagePageCount] at hlt
    have hfilesystem := (Paging.page_eq_nil_iff (by omega)).mp hnoFilesystem
    have hdevice := (Paging.page_eq_nil_iff (by omega)).mp hnoDevice
    rw [List.length_map] at hfilesystem hdevice
    exact ⟨List.eq_nil_of_length_eq_zero (by omega), List.eq_nil_of_length_eq_zero (by omega)⟩

/-- The pages of a storage view that the LCD is configured to show stand together in the manifest. They are drawn, with the
    configured labels and the measurements of the ids of the view, each position of its lists once, exactly when the name
    of the host fits its column. -/
theorem storage_rows_iff {u : Unit} {id : String} {view : ViewConfig} {filesystemIds smartIds : List String}
    {filesystemsLeft : Bool} {display : DisplayConfig} (hv : config.validate build = .ok u)
    (hselected : id ∈ config.outputs.stick.lcd.views) (hview : config.views.lookup id = some view)
    (hlayout : view.layout = .storage filesystemIds smartIds filesystemsLeft) (hc : Collected config snapshot)
    (hd : config.displayConfig build g = .ok display) :
    (config.sources.filesystems.map (·.id)).Nodup ∧ (config.sources.smart.devices.map (·.id)).Nodup ∧
      ∃ pages, config.compileView view g = .ok pages ∧ pages <:+: display.pages ∧
        ((∃ content, config.ShowsStorage snapshot display filesystemIds smartIds filesystemsLeft pages content) ↔
          HostNameFits snapshot) := by
  obtain ⟨hnodupFilesystems, hnodupDevices⟩ := nodup_of_validate hv
  obtain ⟨-, -, compiled, -, -, hcompiled, -, -, -, -⟩ := displayConfig_eq_ok.mp hd
  obtain ⟨other, hother, pages, hpages⟩ := (succeeds_compilePagesFor.mp ⟨compiled, hcompiled⟩).2 id hselected
  obtain rfl := Option.some.inj (hview.symm.trans hother)
  have hdisplay := displayConfig_eq hd
  have hresolves := resolves_of_compileView hlayout hpages
  refine ⟨hnodupFilesystems, hnodupDevices, pages, hpages, ?_, ?_⟩
  · have hmem : config.viewPages g view ∈
        config.outputs.stick.lcd.views.map fun id => (config.views.lookup id).elim [] (config.viewPages g) :=
      List.mem_map.mpr ⟨id, hselected, by rw [hview, Option.elim_some]⟩
    rw [compileView_eq hpages, hdisplay]
    exact List.infix_of_mem_flatten hmem
  · rw [compileView_eq hpages]
    constructor
    · rintro ⟨content, hdrawn, -⟩
      obtain ⟨page, rest, hcons⟩ := List.exists_cons_of_ne_nil (@viewPages_ne_nil config g view)
      rw [hcons] at hdrawn
      -- A view has a page at least, and the page has a header.
      obtain ⟨rows, _, hpage, -, -⟩ := List.forall₂_cons_left_iff.mp hdrawn
      obtain ⟨header, hheader, -⟩ := hpage 0
      exact (drawHeader_succeeds snapshot _ 0 _).mp ⟨header, hheader⟩
    · intro hhost
      exact ⟨_, showsStorage hlayout hresolves hc (by rw [hdisplay]; rfl) hhost⟩

/-- Two filesystems and two disks, and a view that shows them more than once. -/
def disksOnly : Config :=
  { guestsOnly with
    sources := { guestsOnly.sources with
      filesystems := [⟨"root", "/", "/"⟩, ⟨"data", "/data", "DATA"⟩]
      smart := ⟨[⟨"first", "/dev/sda", "SDA"⟩, ⟨"second", "/dev/sdb", "SDB"⟩]⟩ }
    views := [("disks", ⟨"DISKS",
      .storage ["data", "root", "data", "data"] ["second", "first", "first", "second", "second", "first"] true⟩)]
    outputs := ⟨⟨⟨["disks"]⟩⟩, none, none⟩ }

/-- The second filesystem is not mounted, and the second disk fails. -/
def disksRead : Readings :=
  ⟨fun index _ => if index = 0 then ⟨20, 80 * 1024, true⟩ else .missing,
    fun index _ => if index = 0 then (.healthy, some 31) else (.failed, none)⟩

/-- What the collector of `disksOnly` leaves of a host with this name. -/
def disksSnapshot (hostName : String) : HealthSnapshot :=
  ((HealthCollector.ofConfig disksOnly 0).run [(0, disksRead)]).snapshot (.ofGuests hostName [])

theorem collected_disksSnapshot (hostName : String) : Collected disksOnly (disksSnapshot hostName) :=
  HealthCollector.collected_run (Nat.le_refl 0) _

theorem storage_rows_disksOnly :
    ∃ pages, disksOnly.compileView ⟨"DISKS",
        .storage ["data", "root", "data", "data"] ["second", "first", "first", "second", "second", "first"] true⟩ 0 =
          .ok pages ∧
      pages <:+: (disksOnly.displayManifest ⟨"1.0"⟩ 0).pages ∧
      ∃ content, disksOnly.ShowsStorage (disksSnapshot "pve") (disksOnly.displayManifest ⟨"1.0"⟩ 0)
        ["data", "root", "data", "data"] ["second", "first", "first", "second", "second", "first"] true pages content := by
  have hv : disksOnly.validate ⟨"1.0"⟩ = .ok () := by rfl
  have hhost : HostNameFits (disksSnapshot "pve") := show (String.ofList _).utf8ByteSize ≤ 11 by decide
  obtain ⟨-, -, pages, hpages, hinfix, hshows⟩ :=
    storage_rows_iff hv (List.mem_singleton.mpr rfl) rfl rfl (collected_disksSnapshot "pve") (by rfl)
  exact ⟨pages, hpages, hinfix, hshows.mpr hhost⟩

/-- Ten letters of two bytes each are more than the column of the name holds, and no page of storage is drawn. -/
theorem storage_rows_crash :
    disksOnly.validate ⟨"1.0"⟩ = .ok () ∧ Collected disksOnly (disksSnapshot "éééééééééé") ∧
      ∃ pages, disksOnly.compileView ⟨"DISKS",
          .storage ["data", "root", "data", "data"] ["second", "first", "first", "second", "second", "first"] true⟩ 0 =
            .ok pages ∧ pages ≠ [] ∧
        ∀ page ∈ pages, ∀ n,
          drawPage (disksSnapshot "éééééééééé") (disksOnly.displayManifest ⟨"1.0"⟩ 0) n page = .error .capacity := by
  refine ⟨by rfl, collected_disksSnapshot _, _, rfl, List.cons_ne_nil _ _, fun page hpage n => ?_⟩
  rcases List.mem_pair.mp hpage with rfl | rfl
  · rfl
  · rfl

end Config

/-! ### The notice that no disks are configured -/

def notConfigured (filesystemsLeft : Bool) : Text := ⟨"NOT CONFIGURED", (if filesystemsLeft then 122 else 4) + 6, 58⟩

theorem mem_drawRows {indices : List UInt32} {step : Int} {draw : Nat → Int → List Text} {text : Text}
    (hdraw : ∀ index baseline, ∀ t ∈ draw index baseline, t.y = baseline) (h : text ∈ drawRows indices step draw) :
    ∃ row : Nat, text.y = 51 + row * step := by
  obtain ⟨⟨index, row⟩, -, htext⟩ := List.mem_flatMap.mp h
  exact ⟨row, hdraw _ _ _ htext⟩

theorem y_drawStorageRow {cardX baseline : Int} {label : String} {usage : FilesystemUsage} :
    ∀ t ∈ drawStorageRow cardX baseline label usage, t.y = baseline := by
  intro t ht
  rw [drawStorageRow] at ht
  rcases List.mem_cons.mp ht with rfl | ht
  · rfl
  · split at ht
    all_goals rw [List.mem_singleton.mp ht]

theorem y_drawSmartRow {cardX baseline : Int} {device : SmartDeviceSummary} :
    ∀ t ∈ drawSmartRow cardX baseline device, t.y = baseline := by
  intro t ht
  rcases List.mem_pair.mp ht with rfl | rfl <;> rfl

theorem y_drawHeader {snapshot : HealthSnapshot} {title : String} {page pageCount : Nat} {texts : List Text}
    (h : drawHeader snapshot title page pageCount = .ok texts) : ∀ t ∈ texts, t.y = 13 := by
  obtain ⟨hostName, -, h⟩ := Except.bind_eq_ok.mp h
  cases h
  intro t ht
  rcases List.mem_cons.mp ht with rfl | ht
  · rfl
  · rcases List.mem_pair.mp ht with rfl | rfl <;> rfl

/-- No row is as high as the notice: only a page without disks shows it. -/
theorem mem_drawStorageSmart {snapshot : HealthSnapshot} {display : DisplayConfig} {n pageCount : Nat} {title : String}
    {filesystemsLeft : Bool} {filesystemIndices smartIndices : List UInt32} {texts : List Text}
    (h : drawStorageSmart snapshot display n title filesystemsLeft filesystemIndices smartIndices pageCount = .ok texts) :
    notConfigured filesystemsLeft ∈ texts ↔ smartIndices = [] := by
  obtain ⟨header, hheader, h⟩ := Except.bind_eq_ok.mp h
  cases h
  have hy : (notConfigured filesystemsLeft).y = 58 := rfl
  constructor
  · intro hmem
    simp only [List.mem_append] at hmem
    rcases hmem with (((hmem | hmem) | hmem) | hmem) | hmem
    · cases hy.symm.trans (y_drawHeader hheader _ hmem)
    · cases congrArg Text.y (List.mem_singleton.mp hmem)
    · obtain ⟨row, hrow⟩ := mem_drawRows (fun index baseline t ht => by
        split at ht
        · exact y_drawStorageRow t ht
        · cases ht) hmem
      omega
    · rcases List.mem_pair.mp hmem with hmem | hmem <;> cases congrArg Text.y hmem
    · split at hmem
      · rwa [List.isEmpty_iff] at *
      · obtain ⟨row, hrow⟩ := mem_drawRows (fun index baseline t ht => by
          split at ht
          · exact y_drawSmartRow t ht
          · cases ht) hmem
        omega
  · rintro rfl
    exact List.mem_append_right _ (List.mem_singleton_self _)

/-- The page shows the notice on some screen. -/
def ShowsNotConfigured (filesystemsLeft : Bool) (page : DisplayView) : Prop :=
  ∃ snapshot display n texts, drawPage snapshot display n page = .ok texts ∧ notConfigured filesystemsLeft ∈ texts

theorem drawHeader_pve (title : String) (page pageCount : Nat) :
    Except.Succeeds (drawHeader (.ofGuests "pve" []) title page pageCount) := ⟨_, rfl⟩

theorem showsNotConfigured_iff {filesystemsLeft : Bool} {title : DisplayLabel} {filesystemIndices smartIndices : List UInt32} :
    ShowsNotConfigured filesystemsLeft ⟨title, .storage filesystemsLeft filesystemIndices smartIndices⟩ ↔ smartIndices = [] := by
  constructor
  · rintro ⟨snapshot, display, n, texts, hdraw, hmem⟩
    exact (mem_drawStorageSmart hdraw).mp hmem
  · intro hnil
    obtain ⟨header, hheader⟩ := drawHeader_pve title.value 0 DisplayConfig.default.pages.length
    have hdraw : ∃ texts, drawStorageSmart (.ofGuests "pve" []) DisplayConfig.default 0 title.value filesystemsLeft
        filesystemIndices smartIndices DisplayConfig.default.pages.length = .ok texts :=
      ⟨_, Except.bind_eq_ok.mpr ⟨header, hheader, rfl⟩⟩
    obtain ⟨texts, htexts⟩ := hdraw
    exact ⟨.ofGuests "pve" [], DisplayConfig.default, 0, texts, htexts, (mem_drawStorageSmart htexts).mpr hnil⟩

namespace Config
variable {config : Config} {g : Nat}

/-- Some page of a storage view shows that no disks are configured, although there are some, exactly when the filesystems
    need more pages than the disks. What a page shows there does not depend on the screen. -/
theorem notConfigured_iff {view : ViewConfig} {filesystemIds smartIds : List String} {filesystemsLeft : Bool}
    {pages : List DisplayView} (hlayout : view.layout = .storage filesystemIds smartIds filesystemsLeft)
    (hpages : config.compileView view g = .ok pages) :
    (∀ page ∈ pages, ∀ snapshot display n texts, drawPage snapshot display n page = .ok texts →
      (notConfigured filesystemsLeft ∈ texts ↔ ShowsNotConfigured filesystemsLeft page)) ∧
    (((∃ page ∈ pages, ShowsNotConfigured filesystemsLeft page) ↔ smartIds = []) ↔
      smartIds = [] ∨ (filesystemIds.length + 2) / 3 ≤ (smartIds.length + 4) / 5) := by
  rw [compileView_eq hpages, viewPages_storage hlayout]
  constructor
  · intro page hpage snapshot display n texts htexts
    obtain ⟨index, -, rfl⟩ := List.mem_map.mp hpage
    rw [showsNotConfigured_iff]
    exact mem_drawStorageSmart htexts
  · have hcount : 0 < storagePageCount filesystemIds smartIds := by
      rw [storagePageCount]
      omega
    have hshown : (∃ page ∈ (List.range (storagePageCount filesystemIds smartIds)).map fun index =>
        (⟨⟨view.title⟩, .storage filesystemsLeft
          ((Paging.page 3 filesystemIds index).map fun id => UInt32.ofNat ((config.filesystemPosition id).getD 0))
          ((Paging.page 5 smartIds index).map fun id => UInt32.ofNat ((config.devicePosition id).getD 0))⟩ : DisplayView),
        ShowsNotConfigured filesystemsLeft page) ↔
        smartIds.length ≤ (storagePageCount filesystemIds smartIds - 1) * 5 := by
      simp only [List.mem_map, exists_exists_and_eq_and, showsNotConfigured_iff, List.map_eq_nil_iff,
        @Paging.page_eq_nil_iff _ 5 _ _ (by decide)]
      constructor
      · rintro ⟨index, hindex, hle⟩
        have hlt := List.mem_range.mp hindex
        omega
      · exact fun hle => ⟨_, List.mem_range.mpr (Nat.sub_one_lt_of_lt hcount), hle⟩
    rw [hshown, storagePageCount, ← List.length_eq_zero_iff]
    omega

/-- Four rows of filesystems and one disk. -/
def oneDisk : ViewConfig := ⟨"DISKS", .storage ["data", "root", "data", "data"] ["first"] true⟩

def oneDiskOnly : Config := { disksOnly with views := [("disks", oneDisk)] }

theorem oneDiskOnly_pages : oneDiskOnly.compileView oneDisk 0 = .ok
    [⟨⟨"DISKS"⟩, .storage true [1, 0, 1] [0]⟩, ⟨⟨"DISKS"⟩, .storage true [1] []⟩] := by rfl

theorem notConfigured_oneDisk :
    ((∃ page ∈ [⟨⟨"DISKS"⟩, .storage true [1, 0, 1] [0]⟩, ⟨⟨"DISKS"⟩, .storage true [1] []⟩],
        ShowsNotConfigured true page) ↔ ["first"] = []) ↔
      ["first"] = [] ∨
        (["data", "root", "data", "data"].length + 2) / 3 ≤ (["first"].length + 4) / 5 :=
  (@notConfigured_iff _ _ oneDisk _ _ _ _ rfl oneDiskOnly_pages).2

/-- The second page shows that no disks are configured. -/
theorem notConfigured_shown :
    ¬∀ (config : Config) (build : SoftwareVersion) (id : String) (view : ViewConfig) (filesystemIds smartIds : List String)
      (filesystemsLeft : Bool) (pages : List DisplayView), config.validate build = .ok () →
        id ∈ config.outputs.stick.lcd.views → config.views.lookup id = some view →
        view.layout = .storage filesystemIds smartIds filesystemsLeft → config.compileView view 0 = .ok pages →
          ((∃ page ∈ pages, ShowsNotConfigured filesystemsLeft page) ↔ smartIds = []) := by
  intro hall
  have hshown := (hall oneDiskOnly ⟨"1.0"⟩ "disks" oneDisk _ _ _ _ (by rfl) (List.mem_singleton_self _) rfl rfl oneDiskOnly_pages).mp
    ⟨_, List.mem_cons_of_mem _ (List.mem_singleton_self _), showsNotConfigured_iff.mpr rfl⟩
  cases hshown

end Config

end Servatory
