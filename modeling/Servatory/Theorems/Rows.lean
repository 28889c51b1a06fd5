import Mathlib.Data.List.Nodup
import Servatory.Firmware.Dashboard
import Servatory.Theorems.Guests
import Servatory.Theorems.Stick.Drawing
import Servatory.Theorems.Storage

/-! The rows of a view on the LCD and in the dashboard. The LCD shows what the pages of the view list; the dashboard
    gives a section to the first page of each kind, and writes all that the snapshot has into it. -/

namespace Servatory
open Dashboard

/-! ### Rows -/

/-- A resource that is shown, with its position in the snapshot. -/
inductive Row
  | filesystem (index : Nat) (label : String) (usage : FilesystemUsage)
  | device (index : Nat) (device : SmartDeviceSummary)
  | guest (index : Nat) (guest : GuestSummary)
  deriving DecidableEq

section
variable (snapshot : HealthSnapshot) (labels : List DisplayLabel)

/-- The row that the LCD finds at a position of a storage page. -/
def lcdFilesystem (index : Nat) : Option Row :=
  (labels[index]?).bind fun label => (snapshot.filesystems[index]?).map fun usage => .filesystem index label.value usage

def lcdDevice (index : Nat) : Option Row := (snapshot.smart.devices[index]?).map fun device => .device index device

/-- The rows on a page of the LCD. -/
def lcdRows : DisplayPage → List Row
  | .storage _ filesystemIndices smartIndices =>
    filesystemIndices.filterMap (fun index => lcdFilesystem snapshot labels index.toNat) ++
      smartIndices.filterMap fun index => lcdDevice snapshot index.toNat
  | .guests offset limit => ((pageGuests snapshot offset limit).zipIdx offset.toNat).map fun p => .guest p.2 p.1
  | _ => []

def webFilesystems : List Row :=
  snapshot.filesystems.zipIdx.map fun p => .filesystem p.2 (((labels[p.2]?).map (·.value)).getD "Filesystem") p.1

def webDevices : List Row := snapshot.smart.devices.zipIdx.map fun p => .device p.2 p.1

def webGuests : List Row := snapshot.guests.guests.zipIdx.map fun p => .guest p.2 p.1

/-- The rows in the section of a page. -/
def webRows : DisplayPage → List Row
  | .storage _ _ _ => webFilesystems snapshot labels ++ webDevices snapshot
  | .guests _ _ => webGuests snapshot
  | _ => []

end

/-- What the dashboard writes for a row. -/
def Row.render : Row → List Html.Write
  | .filesystem _ label usage =>
    renderMetric label usage.usedPercent
      (if usage.mounted then formatCapacityMib usage.availableMib ++ " available" else "MISSING")
  | .device _ summary => renderDevice summary
  | .guest _ summary => renderGuest summary

/-- What the LCD draws for a row at a place; the columns of a guest are fixed. -/
def Row.draw (x baseline : Int) : Row → List Text
  | .filesystem _ label usage => drawStorageRow x baseline label usage
  | .device _ summary => drawSmartRow x baseline summary
  | .guest _ summary =>
    let cpu : FixedString 8 := FixedString.empty.write [toString summary.cpuPercent.toNat, "%"]
    [⟨String.ofList (summary.name.toList.take 16), 25, baseline⟩,
      ⟨if summary.status = .running then "RUN" else "STOP", 143, baseline⟩, ⟨cpu.value, 204, baseline⟩]

/-! ### The rows are what is drawn and written -/

variable {snapshot : HealthSnapshot} {labels : List DisplayLabel}

theorem renderFilesystems_rows :
    (snapshot.filesystems.zipIdx.flatMap fun (usage, index) => renderFilesystem labels usage index) =
      (webFilesystems snapshot labels).flatMap Row.render := by
  rw [webFilesystems, List.flatMap_map]
  exact List.flatMap_congr fun p _ => rfl

theorem renderDevices_rows : snapshot.smart.devices.flatMap renderDevice = (webDevices snapshot).flatMap Row.render := by
  have hfst := List.zipIdx_map_fst 0 snapshot.smart.devices
  rw [webDevices, List.flatMap_map]
  conv_lhs => rw [← hfst, List.flatMap_map]
  exact List.flatMap_congr fun p _ => rfl

theorem renderGuests_rows : snapshot.guests.guests.flatMap renderGuest = (webGuests snapshot).flatMap Row.render := by
  have hfst := List.zipIdx_map_fst 0 snapshot.guests.guests
  rw [webGuests, List.flatMap_map]
  conv_lhs => rw [← hfst, List.flatMap_map]
  exact List.flatMap_congr fun p _ => rfl

theorem drawRows_congr (indices : List UInt32) (step : Int) {draw draw' : Nat → Int → List Text}
    (h : ∀ index baseline, draw index baseline = draw' index baseline) :
    drawRows indices step draw = drawRows indices step draw' :=
  congrArg _ (funext fun index => funext fun baseline => h index baseline)

/-- The texts of a page below its header, with its rows in their places. The place of a position without a row is empty. -/
def pageTexts (snapshot : HealthSnapshot) (labels : List DisplayLabel) : DisplayPage → List Text
  | .storage filesystemsLeft filesystemIndices smartIndices =>
    let filesystemX : Int := if filesystemsLeft then 4 else 122
    let smartX : Int := if filesystemsLeft then 122 else 4
    [⟨"FILESYSTEMS", filesystemX + 26, 34⟩] ++
      drawRows filesystemIndices 18 (fun index baseline =>
        (lcdFilesystem snapshot labels index).elim [] (Row.draw filesystemX baseline)) ++
      [⟨(formatBackupJob snapshot).value, filesystemX + 6, 112⟩, ⟨"SMART", smartX + 26, 34⟩] ++
      if smartIndices.isEmpty then [⟨"NOT CONFIGURED", smartX + 6, 58⟩]
      else drawRows smartIndices 17 fun index baseline => (lcdDevice snapshot index).elim [] (Row.draw smartX baseline)
  | .guests offset limit =>
    let (running, total) := guestCounts snapshot
    let count : FixedString 16 := FixedString.empty.write [toString running, "/", toString total, " RUN"]
    [⟨count.value, 28, 31⟩, ⟨"STATUS", 143, 31⟩, ⟨"CPU", 207, 31⟩] ++
      (lcdRows snapshot labels (.guests offset limit)).zipIdx.flatMap fun p => p.1.draw 0 (49 + p.2 * 22)
  | _ => []

theorem drawStorageSmart_rows {display : DisplayConfig} {n pageCount : Nat} {title : String} {filesystemsLeft : Bool}
    {filesystemIndices smartIndices : List UInt32} {header : List Text}
    (hheader : drawHeader snapshot title n pageCount = .ok header) :
    drawStorageSmart snapshot display n title filesystemsLeft filesystemIndices smartIndices pageCount =
      .ok (header ++ pageTexts snapshot display.filesystemLabels
        (.storage filesystemsLeft filesystemIndices smartIndices)) := by
  rw [drawStorageSmart, hheader]
  refine congrArg Except.ok ?_
  rw [pageTexts]
  simp only [List.append_assoc]
  refine congrArg (header ++ ·) (congrArg (_ ++ ·) (congrArg₂ (· ++ ·) (drawRows_congr _ _ fun index baseline => ?_)
    (congrArg (_ ++ ·) (congrArg (ite _ _) (drawRows_congr _ _ fun index baseline => ?_)))))
  · rw [lcdFilesystem]
    cases display.filesystemLabels[index]? with
    | none => rfl
    | some label => cases snapshot.filesystems[index]? <;> rfl
  · rw [lcdDevice]
    cases snapshot.smart.devices[index]? <;> rfl

/-- A guest whose name fits is drawn as its row. -/
theorem drawGuest_row {guest : GuestSummary} (h : GuestNameFits guest) (row index : Nat) :
    drawGuest row guest = .ok ((Row.guest index guest).draw 0 (49 + row * 22)) := by
  have hname : shortName guest.name = some ⟨String.ofList (guest.name.toList.take 16), h⟩ := dif_pos h
  rw [drawGuest, hname]
  rfl

theorem drawGuests_rows {n pageCount : Nat} {title : String} {offset limit : UInt32} {header : List Text}
    (hheader : drawHeader snapshot title n pageCount = .ok header)
    (hguests : ∀ guest ∈ pageGuests snapshot offset limit, GuestNameFits guest) :
    drawGuests snapshot n title offset limit pageCount =
      .ok (header ++ pageTexts snapshot labels (.guests offset limit)) := by
  have hrows : ∀ (guests : List GuestSummary) (place index : Nat), (∀ guest ∈ guests, GuestNameFits guest) →
      ∃ rows, (guests.zipIdx place).mapM (fun p => drawGuest p.2 p.1) = .ok rows ∧
        rows.flatten = (((guests.zipIdx index).map fun p => Row.guest p.2 p.1).zipIdx place).flatMap
          fun p => p.1.draw 0 (49 + p.2 * 22) := by
    intro guests
    induction guests with
    | nil => exact fun _ _ _ => ⟨[], rfl, rfl⟩
    | cons guest guests ih =>
      intro place index hfits
      rw [List.forall_mem_cons] at hfits
      obtain ⟨rows, hrows, hflatten⟩ := ih (place + 1) (index + 1) hfits.2
      refine ⟨(Row.guest index guest).draw 0 (49 + place * 22) :: rows, ?_, ?_⟩
      · rw [List.zipIdx_cons, List.mapM_cons, hrows, drawGuest_row hfits.1 place index]
        rfl
      · rw [List.flatten_cons, hflatten, List.zipIdx_cons, List.map_cons, List.zipIdx_cons, List.flatMap_cons]
  obtain ⟨rows, hrows, hflatten⟩ := hrows (pageGuests snapshot offset limit) 0 offset.toNat hguests
  rw [drawGuests, hheader, hrows]
  refine congrArg Except.ok ?_
  rw [pageTexts, lcdRows, ← hflatten, List.append_assoc]
  rfl

/-! ### The section of a view -/

/-- The kinds of some pages. -/
def kindsOf (pages : List DisplayView) : List Nat := pages.map (pageKind ·.page)

theorem shownViews_congr {shown shown' : List Nat} (h : ∀ kind, kind ∈ shown ↔ kind ∈ shown') (pages : List DisplayView) :
    shownViews shown pages = shownViews shown' pages := by
  induction pages generalizing shown shown' with
  | nil => rfl
  | cons page rest ih =>
    rw [shownViews, shownViews]
    by_cases hmem : pageKind page.page ∈ shown
    · rw [if_pos (List.contains_iff_mem.mpr hmem), if_pos (List.contains_iff_mem.mpr ((h _).mp hmem)), ih h]
    · rw [if_neg fun hc => hmem (List.contains_iff_mem.mp hc),
        if_neg fun hc => hmem ((h _).mpr (List.contains_iff_mem.mp hc))]
      refine congrArg _ (ih fun kind => ?_)
      rw [List.mem_cons, List.mem_cons, h]

/-- Behind some pages their kinds have been shown as well. -/
theorem shownViews_append (shown : List Nat) (before after : List DisplayView) :
    shownViews shown (before ++ after) = shownViews shown before ++ shownViews (kindsOf before ++ shown) after := by
  induction before generalizing shown with
  | nil => rfl
  | cons page rest ih =>
    rw [List.cons_append, shownViews, shownViews]
    by_cases hmem : pageKind page.page ∈ shown
    · rw [if_pos (List.contains_iff_mem.mpr hmem), if_pos (List.contains_iff_mem.mpr hmem), ih]
      refine congrArg _ (shownViews_congr (fun kind => ?_) after)
      simp only [kindsOf, List.map_cons, List.cons_append, List.mem_cons, List.mem_append]
      exact ⟨.inr, fun h => h.elim (fun heq => .inr (heq ▸ hmem)) id⟩
    · rw [if_neg fun hc => hmem (List.contains_iff_mem.mp hc), if_neg fun hc => hmem (List.contains_iff_mem.mp hc), ih,
        List.cons_append]
      refine congrArg _ (congrArg _ (shownViews_congr (fun kind => ?_) after))
      simp only [kindsOf, List.map_cons, List.cons_append, List.mem_cons, List.mem_append]
      exact or_left_comm

theorem shownViews_of_mem {shown : List Nat} {pages : List DisplayView}
    (h : ∀ page ∈ pages, pageKind page.page ∈ shown) : shownViews shown pages = [] := by
  induction pages with
  | nil => rfl
  | cons page rest ih =>
    rw [List.forall_mem_cons] at h
    rw [shownViews, if_pos (List.contains_iff_mem.mpr h.1), ih h.2]

/-- Of pages of one kind the first is shown, unless the kind has been shown. -/
theorem shownViews_kind {shown : List Nat} {kind : Nat} {page : DisplayView} {rest : List DisplayView}
    (h : ∀ other ∈ page :: rest, pageKind other.page = kind) :
    shownViews shown (page :: rest) = if kind ∈ shown then [] else [page] := by
  rw [List.forall_mem_cons] at h
  by_cases hmem : kind ∈ shown
  · rw [if_pos hmem, shownViews_of_mem]
    rw [List.forall_mem_cons]
    exact ⟨h.1 ▸ hmem, fun other hother => h.2 other hother ▸ hmem⟩
  · rw [if_neg hmem, shownViews, if_neg fun hc => hmem (h.1 ▸ List.contains_iff_mem.mp hc), shownViews_of_mem]
    exact fun other hother => by rw [h.2 other hother, ← h.1]; exact List.mem_cons_self ..

/-- The kind of the pages of a layout. -/
def ViewLayout.kind : ViewLayout → Nat
  | .overview => 0
  | .resources => 1
  | .storage _ _ _ => 2
  | .powerNetwork _ => 3
  | .guests _ _ _ => 4

namespace Config
variable {config : Config} {build : SoftwareVersion} {g : Nat} {view : ViewConfig}

/-- The sections of some selected views, behind those of the views selected before them. -/
def sectionsOf (config : Config) (g : Nat) (before viewIds : List String) : List DisplayView :=
  shownViews (kindsOf (config.pagesOf before g)) (config.pagesOf viewIds g)

/-- No view selected before shows the same kind of page. -/
def FirstOfKind (config : Config) (before : List String) (layout : ViewLayout) : Prop :=
  ∀ other ∈ before, ∀ view, config.views.lookup other = some view → view.layout.kind ≠ layout.kind

/-- The pages of a view leave nothing of the snapshot out. -/
def Covers (config : Config) (g : Nat) (snapshot : HealthSnapshot) : ViewLayout → Prop
  | .storage filesystemIds smartIds _ =>
    (∀ index < snapshot.filesystems.length, ∃ id ∈ filesystemIds, config.filesystemPosition id = some index) ∧
      ∀ index < snapshot.smart.devices.length, ∃ id ∈ smartIds, config.devicePosition id = some index
  | .guests true _ _ => snapshot.guests.guests.length ≤ guestPages g * 4
  | .guests false offset limit =>
    snapshot.guests.guests = [] ∨ offset = 0 ∧ snapshot.guests.guests.length ≤ min limit.toNat guestsPerPage
  | _ => True

theorem pageKind_viewPages : ∀ page ∈ config.viewPages g view, pageKind page.page = view.layout.kind := by
  rw [viewPages]
  cases view.layout with
  | guests paginate offset limit =>
    cases paginate with
    | true =>
      intro page hpage
      obtain ⟨index, -, rfl⟩ := List.mem_map.mp hpage
      rfl
    | false =>
      intro page hpage
      rw [List.mem_singleton.mp hpage]
      rfl
  | storage filesystemIds smartIds filesystemsLeft =>
    intro page hpage
    obtain ⟨index, -, rfl⟩ := List.mem_map.mp hpage
    rfl
  | _ =>
    intro page hpage
    rw [List.mem_singleton.mp hpage]
    rfl

/-- A kind has been shown when a view before has it. -/
theorem mem_kindsOf_pagesOf {before : List String} {kind : Nat} :
    kind ∈ kindsOf (config.pagesOf before g) ↔
      ∃ other ∈ before, ∃ view, config.views.lookup other = some view ∧ view.layout.kind = kind := by
  constructor
  · intro h
    obtain ⟨page, hpage, rfl⟩ := List.mem_map.mp h
    obtain ⟨other, hother, hpage⟩ := List.mem_flatMap.mp hpage
    cases hview : config.views.lookup other with
    | none =>
      rw [hview] at hpage
      cases hpage
    | some view =>
      rw [hview, Option.elim_some] at hpage
      exact ⟨other, hother, view, hview, (pageKind_viewPages page hpage).symm⟩
  · rintro ⟨other, hother, view, hview, rfl⟩
    obtain ⟨page, rest, hpages⟩ := List.exists_cons_of_ne_nil (@viewPages_ne_nil config g view)
    have hpage : page ∈ config.viewPages g view := hpages ▸ List.mem_cons_self ..
    refine List.mem_map.mpr ⟨page, List.mem_flatMap.mpr ⟨other, hother, ?_⟩, pageKind_viewPages page hpage⟩
    rw [hview]
    exact hpage

theorem firstOfKind_iff {before : List String} {layout : ViewLayout} :
    config.FirstOfKind before layout ↔ layout.kind ∉ kindsOf (config.pagesOf before g) := by
  rw [mem_kindsOf_pagesOf]
  constructor
  · rintro h ⟨other, hother, view, hview, hkind⟩
    exact h other hother view hview hkind
  · intro h other hother view hview hkind
    exact h ⟨other, hother, view, hview, hkind⟩

theorem pagesOf_append {before after : List String} :
    config.pagesOf (before ++ after) g = config.pagesOf before g ++ config.pagesOf after g := by
  rw [pagesOf, List.flatMap_append, ← pagesOf, ← pagesOf]

/-- The sections of all views are those of the views one after the other. -/
theorem sections_eq {before after : List String} {id : String} :
    shownViews [] (config.pagesOf (before ++ id :: after) g) =
      config.sectionsOf g [] before ++ config.sectionsOf g before [id] ++ config.sectionsOf g (before ++ [id]) after := by
  have hsplit : before ++ id :: after = (before ++ [id]) ++ after := by rw [List.append_assoc, List.singleton_append]
  have hid := @pagesOf_append config g before [id]
  rw [hsplit, pagesOf_append, shownViews_append, List.append_nil]
  conv_lhs => rw [hid, shownViews_append, List.append_nil, ← hid]
  rfl

/-- A view that is the first of its kind has a section of its own. -/
theorem sectionsOf_single (before : List String) {id : String} (hview : config.views.lookup id = some view) :
    ∃ page ∈ config.viewPages g view, config.sectionsOf g before [id] =
      if view.layout.kind ∈ kindsOf (config.pagesOf before g) then [] else [page] := by
  have hpages : config.pagesOf [id] g = config.viewPages g view := by
    rw [pagesOf, List.flatMap_singleton, hview, Option.elim_some]
  obtain ⟨page, rest, hcons⟩ := List.exists_cons_of_ne_nil (@viewPages_ne_nil config g view)
  refine ⟨page, hcons ▸ List.mem_cons_self .., ?_⟩
  rw [sectionsOf, hpages, hcons]
  exact shownViews_kind fun other hother => pageKind_viewPages other (hcons ▸ hother)

/-! ### The rows of a view -/

variable {snapshot : HealthSnapshot} {labels : List DisplayLabel}

theorem mem_zipIdx_map {α β : Type} {l : List α} {f : α × Nat → β} {b : β} :
    b ∈ l.zipIdx.map f ↔ ∃ index a, l[index]? = some a ∧ b = f (a, index) := by
  rw [List.mem_map]
  constructor
  · rintro ⟨⟨a, index⟩, hmem, rfl⟩
    exact ⟨index, a, List.mk_mem_zipIdx_iff_getElem?.mp hmem, rfl⟩
  · rintro ⟨index, a, ha, rfl⟩
    exact ⟨(a, index), List.mk_mem_zipIdx_iff_getElem?.mpr ha, rfl⟩

/-- Rows with their positions are distinct. -/
theorem nodup_zipIdx_map {α : Type} {l : List α} {f : α × Nat → Row} (h : ∀ p q, f p = f q → p.2 = q.2) :
    (l.zipIdx.map f).Nodup := by
  have hsnd : (l.zipIdx.map Prod.snd).Nodup := by
    rw [List.zipIdx_map_snd]
    exact List.nodup_range'
  exact hsnd.of_map.map_on fun p hp q hq heq => List.inj_on_of_nodup_map hsnd hp hq (h p q heq)

theorem nodup_webRows (page : DisplayPage) : (webRows snapshot labels page).Nodup := by
  cases page with
  | storage filesystemsLeft filesystemIndices smartIndices =>
    have hfilesystems : (webFilesystems snapshot labels).Nodup := nodup_zipIdx_map fun p q h => (Row.filesystem.inj h).1
    have hdevices : (webDevices snapshot).Nodup := nodup_zipIdx_map fun p q h => (Row.device.inj h).1
    refine hfilesystems.append hdevices fun row hfilesystem hdevice => ?_
    obtain ⟨p, -, rfl⟩ := List.mem_map.mp hfilesystem
    obtain ⟨q, -, hsame⟩ := List.mem_map.mp hdevice
    cases hsame
  | guests offset limit => exact nodup_zipIdx_map fun p q h => (Row.guest.inj h).1
  | _ => exact List.nodup_nil

/-- The row that is found for an id at the position on its page. -/
theorem exists_position {ids : List String} {position : String → Option Nat} {find : Nat → Option Row} {row : Row}
    (hr : ∀ id ∈ ids, ∃ index, position id = some index ∧ index < UInt32.size) :
    row ∈ (ids.map fun id => UInt32.ofNat ((position id).getD 0)).filterMap (fun index => find index.toNat) ↔
      ∃ id ∈ ids, ∃ index, position id = some index ∧ find index = some row := by
  rw [List.filterMap_map, List.mem_filterMap]
  constructor
  · rintro ⟨id, hid, hrow⟩
    obtain ⟨index, hindex, hlt⟩ := hr id hid
    rw [Function.comp_apply, toNat_position hindex hlt] at hrow
    exact ⟨id, hid, index, hindex, hrow⟩
  · rintro ⟨id, hid, index, hindex, hrow⟩
    obtain ⟨index', hindex', hlt⟩ := hr id hid
    obtain rfl := Option.some.inj (hindex.symm.trans hindex')
    exact ⟨id, hid, by rw [Function.comp_apply, toNat_position hindex hlt, hrow]⟩

/-- The rows on the pages of a storage view are those of its ids. -/
theorem mem_lcdRows_storage {filesystemIds smartIds : List String} {filesystemsLeft : Bool}
    (hlayout : view.layout = .storage filesystemIds smartIds filesystemsLeft)
    (hr : config.Resolves filesystemIds smartIds) {row : Row} :
    row ∈ (config.viewPages g view).flatMap (fun page => lcdRows snapshot labels page.page) ↔
      (∃ id ∈ filesystemIds, ∃ index, config.filesystemPosition id = some index ∧
        lcdFilesystem snapshot labels index = some row) ∨
      ∃ id ∈ smartIds, ∃ index, config.devicePosition id = some index ∧ lcdDevice snapshot index = some row := by
  have hpage : ∀ index, row ∈ lcdRows snapshot labels (.storage filesystemsLeft
        ((Paging.page 3 filesystemIds index).map fun id => UInt32.ofNat ((config.filesystemPosition id).getD 0))
        ((Paging.page 5 smartIds index).map fun id => UInt32.ofNat ((config.devicePosition id).getD 0))) ↔
      (∃ id ∈ Paging.page 3 filesystemIds index, ∃ index, config.filesystemPosition id = some index ∧
        lcdFilesystem snapshot labels index = some row) ∨
      ∃ id ∈ Paging.page 5 smartIds index, ∃ index, config.devicePosition id = some index ∧
        lcdDevice snapshot index = some row := by
    intro index
    rw [lcdRows, List.mem_append, exists_position fun id hid => hr.filesystems id (Paging.mem_of_mem_page hid),
      exists_position fun id hid => hr.devices id (Paging.mem_of_mem_page hid)]
  have hfilesystems : filesystemIds.length ≤ storagePageCount filesystemIds smartIds * 3 := by
    rw [storagePageCount]
    omega
  have hdevices : smartIds.length ≤ storagePageCount filesystemIds smartIds * 5 := by
    rw [storagePageCount]
    omega
  rw [viewPages_storage hlayout, List.flatMap_map, List.mem_flatMap]
  simp only [hpage]
  constructor
  · rintro ⟨index, -, ⟨id, hid, hrow⟩ | ⟨id, hid, hrow⟩⟩
    · exact .inl ⟨id, Paging.mem_of_mem_page hid, hrow⟩
    · exact .inr ⟨id, Paging.mem_of_mem_page hid, hrow⟩
  · rintro (⟨id, hid, hrow⟩ | ⟨id, hid, hrow⟩)
    · obtain ⟨index, hindex, hid⟩ := (Paging.mem_pages hfilesystems).mpr hid
      exact ⟨index, hindex, .inl ⟨id, hid, hrow⟩⟩
    · obtain ⟨index, hindex, hid⟩ := (Paging.mem_pages hdevices).mpr hid
      exact ⟨index, hindex, .inr ⟨id, hid, hrow⟩⟩

/-- The rows of a slice of the guests. -/
theorem mem_lcdRows_guests {offset limit : UInt32} {row : Row} :
    row ∈ lcdRows snapshot labels (.guests offset limit) ↔
      ∃ index guest, snapshot.guests.guests[index]? = some guest ∧ row = .guest index guest ∧
        offset.toNat ≤ index ∧ index < offset.toNat + min limit.toNat guestsPerPage := by
  rw [lcdRows, List.mem_map]
  constructor
  · rintro ⟨⟨guest, index⟩, hmem, rfl⟩
    obtain ⟨hle, hguest⟩ := List.mk_mem_zipIdx_iff_le_and_getElem?_sub.mp hmem
    rw [pageGuests, List.getElem?_take] at hguest
    by_cases hlt : index - offset.toNat < min limit.toNat guestsPerPage
    · rw [if_pos hlt, List.getElem?_drop, Nat.add_sub_cancel' hle] at hguest
      exact ⟨index, guest, hguest, rfl, hle, by omega⟩
    · rw [if_neg hlt] at hguest
      cases hguest
  · rintro ⟨index, guest, hguest, rfl, hle, hlt⟩
    refine ⟨(guest, index), List.mk_mem_zipIdx_iff_le_and_getElem?_sub.mpr ⟨hle, ?_⟩, rfl⟩
    rw [pageGuests, List.getElem?_take, if_pos (by omega), List.getElem?_drop, Nat.add_sub_cancel' hle, hguest]

theorem lcdFilesystem_eq_some {index : Nat} {row : Row} : lcdFilesystem snapshot labels index = some row ↔
    ∃ label usage, labels[index]? = some label ∧ snapshot.filesystems[index]? = some usage ∧
      row = .filesystem index label.value usage := by
  rw [lcdFilesystem, Option.bind_eq_some_iff]
  constructor
  · rintro ⟨label, hlabel, h⟩
    obtain ⟨usage, husage, rfl⟩ := Option.map_eq_some_iff.mp h
    exact ⟨label, usage, hlabel, husage, rfl⟩
  · rintro ⟨label, usage, hlabel, husage, rfl⟩
    exact ⟨label, hlabel, Option.map_eq_some_iff.mpr ⟨usage, husage, rfl⟩⟩

theorem lcdDevice_eq_some {index : Nat} {row : Row} : lcdDevice snapshot index = some row ↔
    ∃ device, snapshot.smart.devices[index]? = some device ∧ row = .device index device := by
  rw [lcdDevice, Option.map_eq_some_iff]
  exact ⟨fun ⟨device, hdevice, h⟩ => ⟨device, hdevice, h.symm⟩, fun ⟨device, hdevice, h⟩ => ⟨device, hdevice, h.symm⟩⟩

/-- Every configured position has a label. -/
theorem label_of_position (hlabels : labels = config.sources.filesystems.map fun fs => ⟨fs.label⟩) {id : String} {index : Nat}
    (h : config.filesystemPosition id = some index) : ∃ label, labels[index]? = some label := by
  obtain ⟨hlt, -⟩ := List.findIdx?_eq_some_iff_getElem.mp h
  refine ⟨⟨config.sources.filesystems[index].label⟩, ?_⟩
  rw [hlabels, List.getElem?_map, List.getElem?_eq_getElem hlt]
  rfl

theorem same_iff_covers_storage {filesystemIds smartIds : List String} {filesystemsLeft : Bool}
    (hlayout : view.layout = .storage filesystemIds smartIds filesystemsLeft)
    (hr : config.Resolves filesystemIds smartIds)
    (hlabels : labels = config.sources.filesystems.map fun fs => ⟨fs.label⟩) :
    (∀ row, row ∈ webFilesystems snapshot labels ++ webDevices snapshot ↔
      row ∈ (config.viewPages g view).flatMap fun page => lcdRows snapshot labels page.page) ↔
    config.Covers g snapshot view.layout := by
  simp only [mem_lcdRows_storage hlayout hr, List.mem_append, webFilesystems, webDevices, mem_zipIdx_map,
    lcdFilesystem_eq_some, lcdDevice_eq_some, hlayout, Covers]
  constructor
  · intro h
    constructor
    · intro index hindex
      rcases (h _).mp (.inl ⟨index, _, List.getElem?_eq_getElem hindex, rfl⟩) with
        ⟨id, hid, position, hposition, label, usage, -, -, hrow⟩ | ⟨_, _, _, _, _, _, hrow⟩
      · rw [(Row.filesystem.inj hrow).1]
        exact ⟨id, hid, hposition⟩
      · cases hrow
    · intro index hindex
      rcases (h _).mp (.inr ⟨index, _, List.getElem?_eq_getElem hindex, rfl⟩) with
        ⟨_, _, _, _, _, _, _, _, hrow⟩ | ⟨id, hid, position, hposition, device, -, hrow⟩
      · cases hrow
      · rw [(Row.device.inj hrow).1]
        exact ⟨id, hid, hposition⟩
  · rintro ⟨hfilesystems, hdevices⟩ row
    constructor
    · rintro (⟨index, usage, husage, rfl⟩ | ⟨index, device, hdevice, rfl⟩)
      · obtain ⟨id, hid, hposition⟩ := hfilesystems index (List.getElem?_eq_some_iff.mp husage).1
        obtain ⟨label, hlabel⟩ := label_of_position hlabels hposition
        refine .inl ⟨id, hid, index, hposition, label, usage, hlabel, husage, ?_⟩
        rw [hlabel]
        rfl
      · obtain ⟨id, hid, hposition⟩ := hdevices index (List.getElem?_eq_some_iff.mp hdevice).1
        exact .inr ⟨id, hid, index, hposition, device, hdevice, rfl⟩
    · rintro (⟨id, -, index, -, label, usage, hlabel, husage, rfl⟩ | ⟨id, -, index, -, device, hdevice, rfl⟩)
      · refine .inl ⟨index, usage, husage, ?_⟩
        rw [hlabel]
        rfl
      · exact .inr ⟨index, device, hdevice, rfl⟩

/-- When the guests at some positions are shown, all are shown exactly when all have such a position. -/
theorem same_iff_positions {shown : Row → Prop} {P : Nat → Prop}
    (h : ∀ row, shown row ↔ ∃ index guest, snapshot.guests.guests[index]? = some guest ∧ row = .guest index guest ∧ P index) :
    (∀ row, row ∈ webGuests snapshot ↔ shown row) ↔ ∀ index < snapshot.guests.guests.length, P index := by
  simp only [webGuests, mem_zipIdx_map, h]
  constructor
  · intro hsame index hindex
    obtain ⟨_, _, _, hrow, hP⟩ := (hsame _).mp ⟨index, _, List.getElem?_eq_getElem hindex, rfl⟩
    rw [(Row.guest.inj hrow).1]
    exact hP
  · rintro hall row
    constructor
    · rintro ⟨index, guest, hguest, rfl⟩
      exact ⟨index, guest, hguest, rfl, hall index (List.getElem?_eq_some_iff.mp hguest).1⟩
    · rintro ⟨index, guest, hguest, rfl, -⟩
      exact ⟨index, guest, hguest, rfl⟩

/-- The offsets of the pages that compile fit the protocol. -/
theorem offset_of_compileView {offset limit : UInt32} {pages : List DisplayView}
    (hlayout : view.layout = .guests true offset limit) (h : config.compileView view g = .ok pages) :
    ∀ index < guestPages g, (UInt32.ofNat (index * 4)).toNat = index * 4 := by
  intro index hindex
  rw [compileView] at h
  simp only [hlayout] at h
  obtain ⟨page, hpage⟩ := Except.succeeds_mapM.mp ⟨pages, h⟩ index (List.mem_range.mpr hindex)
  refine UInt32.toNat_ofNat_of_lt' ?_
  by_contra hlarge
  rw [guestPage, if_neg hlarge] at hpage
  cases hpage

theorem same_iff_covers_paginated {offset limit : UInt32} {pages : List DisplayView}
    (hlayout : view.layout = .guests true offset limit) (hpages : config.compileView view g = .ok pages) :
    (∀ row, row ∈ webGuests snapshot ↔
      row ∈ (config.viewPages g view).flatMap fun page => lcdRows snapshot labels page.page) ↔
    config.Covers g snapshot view.layout := by
  have hoffset := offset_of_compileView hlayout hpages
  rw [same_iff_positions (P := (· < guestPages g * 4)), hlayout, Covers]
  · constructor
    · intro hall
      by_contra hlarge
      exact absurd (hall (guestPages g * 4) (by omega)) (Nat.lt_irrefl _)
    · exact fun hle index hindex => by omega
  · intro row
    rw [viewPages]
    simp only [hlayout, List.flatMap_map, List.mem_flatMap, mem_lcdRows_guests, List.mem_range]
    constructor
    · rintro ⟨page, hpage, index, guest, hguest, rfl, hle, hlt⟩
      rw [hoffset page hpage] at hlt
      refine ⟨index, guest, hguest, rfl, ?_⟩
      have hfour : min (4 : UInt32).toNat guestsPerPage ≤ 4 := Nat.min_le_left _ _
      omega
    · rintro ⟨index, guest, hguest, rfl, hlt⟩
      have hpage : index / 4 < guestPages g := by omega
      refine ⟨index / 4, hpage, index, guest, hguest, rfl, ?_, ?_⟩
      · rw [hoffset _ hpage]
        omega
      · rw [hoffset _ hpage]
        show index < index / 4 * 4 + 4
        omega

theorem same_iff_covers_slice {offset limit : UInt32} (hlayout : view.layout = .guests false offset limit) :
    (∀ row, row ∈ webGuests snapshot ↔
      row ∈ (config.viewPages g view).flatMap fun page => lcdRows snapshot labels page.page) ↔
    config.Covers g snapshot view.layout := by
  rw [same_iff_positions
    (P := fun index => offset.toNat ≤ index ∧ index < offset.toNat + min limit.toNat guestsPerPage), hlayout, Covers]
  · have hzero : offset = 0 ↔ offset.toNat = 0 := by
      rw [← UInt32.toNat_inj]
      rfl
    rw [hzero, ← List.length_eq_zero_iff]
    constructor
    · intro hall
      by_cases hnil : snapshot.guests.guests.length = 0
      · exact .inl hnil
      · have hfirst := hall 0 (by omega)
        have hlast := hall (snapshot.guests.guests.length - 1) (by omega)
        exact .inr ⟨by omega, by omega⟩
    · rintro (hnil | ⟨hoffset, hle⟩) index hindex
      · omega
      · exact ⟨by omega, by omega⟩
  · intro row
    rw [viewPages]
    simp only [hlayout, List.flatMap_singleton, mem_lcdRows_guests]

/-- The rows of a section are those of the pages exactly when the pages leave nothing out. -/
theorem same_iff_covers {pages : List DisplayView} (hpages : config.compileView view g = .ok pages)
    (hlabels : labels = config.sources.filesystems.map fun fs => ⟨fs.label⟩) {page : DisplayView}
    (hpage : page ∈ config.viewPages g view) :
    (∀ row, row ∈ webRows snapshot labels page.page ↔
      row ∈ (config.viewPages g view).flatMap fun page => lcdRows snapshot labels page.page) ↔
    config.Covers g snapshot view.layout := by
  have hkind := pageKind_viewPages page hpage
  cases hlayout : view.layout with
  | storage filesystemIds smartIds filesystemsLeft =>
    obtain ⟨index, -, rfl⟩ := List.mem_map.mp (viewPages_storage hlayout ▸ hpage)
    rw [← hlayout]
    exact same_iff_covers_storage hlayout (resolves_of_compileView hlayout hpages) hlabels
  | guests paginate offset limit =>
    have hguests : webRows snapshot labels page.page = webGuests snapshot := by
      rw [hlayout] at hkind
      cases hpage' : page.page with
      | guests offset limit => rfl
      | _ =>
        rw [hpage'] at hkind
        cases hkind
    rw [hguests, ← hlayout]
    cases paginate with
    | true => exact same_iff_covers_paginated hlayout hpages
    | false => exact same_iff_covers_slice hlayout
  | _ =>
    have hsingle : config.viewPages g view = [page] := by
      rw [viewPages] at hpage ⊢
      simp only [hlayout] at hpage ⊢
      rw [List.mem_singleton.mp hpage]
    rw [hsingle, List.flatMap_singleton]
    rw [hlayout] at hkind
    cases hpage' : page.page with
    | storage filesystemsLeft filesystemIndices smartIndices =>
      rw [hpage'] at hkind
      cases hkind
    | guests offset limit =>
      rw [hpage'] at hkind
      cases hkind
    | _ => exact ⟨fun _ => trivial, fun _ row => Iff.rfl⟩

end Config
end Servatory
