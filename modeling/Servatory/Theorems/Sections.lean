import Mathlib.Data.List.Flatten
import Servatory.Theorems.Buffer
import Servatory.Theorems.Dashboard
import Servatory.Theorems.Rows

/-! A view on both outputs: its pages as the LCD draws them, and its section in the markup of the dashboard. What the
    markup says of the rows in a section is read from its length. -/

namespace Servatory
open Dashboard
open Html (Write)
open Html.Write

namespace Dashboard
open DashboardBuffer

/-! ### The length of a dashboard -/

/-- The bytes of a piece, with the escapes of a text. -/
def pieceBytes : Write → Nat
  | markup s => s.utf8ByteSize
  | number n => (toString n).utf8ByteSize
  | text s => escapedSizes s.toList

/-- The bytes of what is written. -/
def writtenBytes (ws : List Write) : Nat := (ws.map pieceBytes).sum

theorem utf8Sizes_append (cs ds : List Char) : utf8Sizes (cs ++ ds) = utf8Sizes cs + utf8Sizes ds := by
  rw [← utf8ByteSize_ofList, String.ofList_append, String.utf8ByteSize_append, utf8ByteSize_ofList, utf8ByteSize_ofList]

theorem utf8Sizes_toList (s : String) : utf8Sizes s.toList = s.utf8ByteSize := by
  rw [← utf8ByteSize_ofList, String.ofList_toList]

theorem utf8Sizes_escaped (cs : List Char) : utf8Sizes (cs.flatMap fun c => (escape c).toList) = escapedSizes cs := by
  induction cs with
  | nil => rfl
  | cons c cs ih => rw [List.flatMap_cons, utf8Sizes_append, utf8Sizes_toList, ih, escapedSizes]

theorem utf8Sizes_chars (ws : List Write) : utf8Sizes (ws.flatMap (Write.chars escape)) = writtenBytes ws := by
  induction ws with
  | nil => rfl
  | cons w ws ih =>
    rw [List.flatMap_cons, utf8Sizes_append, ih, writtenBytes, writtenBytes, List.map_cons, List.sum_cons]
    cases w with
    | markup s => rw [Write.chars, utf8Sizes_toList, pieceBytes]
    | number n => rw [Write.chars, utf8Sizes_toList, pieceBytes]
    | text s => rw [Write.chars, utf8Sizes_escaped, pieceBytes]

theorem toList_join (pieces : List String) : (String.join pieces).toList = pieces.flatMap String.toList := by
  induction pieces with
  | nil => rfl
  | cons piece pieces ih => rw [String.join_cons, String.toList_append, ih, List.flatMap_cons]

theorem text_operationOf (c : Char) : (operationOf c).text = escape c := by
  unfold operationOf
  split
  iterate 4 rfl
  rename_i hamp hlt hgt hquot
  rw [escape_of_plain hamp hlt hgt hquot]
  rfl

theorem chars_operationsOf (w : Write) : (operationsOf w).flatMap (·.text.toList) = w.chars escape := by
  cases w with
  | markup s => exact List.append_nil _
  | number n => exact List.append_nil _
  | text s =>
    rw [operationsOf, List.flatMap_map, Write.chars]
    exact List.flatMap_congr fun c _ => congrArg String.toList (text_operationOf c)

/-- The dashboard is all that is written, or the fixed text when that is too long. -/
theorem toList_dashboardMarkup (build : SoftwareVersion) (now later : Nat) (state : SharedState) (document : Bool) :
    (dashboardMarkup build now later state document).toList =
      if writtenBytes (dashboardWrites build now later state document) ≤ dashboardBodyCapacity then
        (dashboardWrites build now later state document).flatMap (Write.chars escape)
      else (budgetExceeded document).toList := by
  have hwritten : (String.join (((dashboardWrites build now later state document).flatMap operationsOf).map (·.text))).toList =
      (dashboardWrites build now later state document).flatMap (Write.chars escape) := by
    rw [toList_join, List.flatMap_map, List.flatMap_assoc]
    exact List.flatMap_congr fun w _ => chars_operationsOf w
  rw [dashboardMarkup, dashboardBuffer, foldl_put_eq_run, (finish_run _ document).2, ← utf8Sizes_chars, ← hwritten,
    utf8Sizes_toList]
  split <;> rfl

theorem Sized.writtenBytes_eq {ws : List Write} {n : Nat} (h : Sized ws n) : writtenBytes ws = n := by
  induction h with
  | nil => rfl
  | markup _ ih => rw [writtenBytes, List.map_cons, List.sum_cons, ← writtenBytes, ih, pieceBytes, utf8ByteSize_ofList]
  | number _ ih => rw [writtenBytes, List.map_cons, List.sum_cons, ← writtenBytes, ih, pieceBytes]
  | text _ ih => rw [writtenBytes, List.map_cons, List.sum_cons, ← writtenBytes, ih, pieceBytes]

end Dashboard
/-! ### The rows of a section -/

def Row.isFilesystem : Row → Bool
  | .filesystem _ _ _ => true
  | _ => false

def Row.isDevice : Row → Bool
  | .device _ _ => true
  | _ => false

def Row.isGuest : Row → Bool
  | .guest _ _ => true
  | _ => false

/-- Some rows, or what stands in place of them. -/
def listed (placeholder : List Write) (rows : List Row) : List Write :=
  (if rows.isEmpty then placeholder else []) ++ rows.flatMap Row.render

/-- What the dashboard writes for a page with these rows. -/
def pageWrites (snapshot : HealthSnapshot) (rows : List Row) : DisplayPage → List Write
  | .storage _ _ _ =>
    [markup "<div class=storage-grid><section class=subpanel><h3 class=section-title>Filesystems</h3>"] ++
      listed [] (rows.filter Row.isFilesystem) ++
      [markup
        "</section><section class=subpanel><h3 class=section-title>SMART devices</h3><div class=table-list>"] ++
      listed [markup "<p class=empty>Not configured</p>"] (rows.filter Row.isDevice) ++
      [markup
          "</div></section></div><div class=backup-strip><span class=label>Proxmox backup</span><strong class=",
        markup (backupStatusClass snapshot.backupJobStatus), markup ">", text (backupStatusText snapshot),
        markup "</strong></div>"]
  | .guests _ _ =>
    [markup "<div class=guest-list>"] ++ listed [markup "<p class=empty>No guests reported</p>"] rows ++ [markup "</div>"]
  | _ => []

/-- The section of a view with these rows. -/
def sectionWrites (snapshot : HealthSnapshot) (view : DisplayView) (rows : List Row) : List Write :=
  [markup "<section class='card page-card ", markup (pageClass (pageKind view.page)),
    markup "'><div class=card-head><span class=icon>", markup (dashboardIcon (pageKind view.page)),
    markup "</span><h2>", text view.title.value, markup "</h2></div>"] ++
    pageWrites snapshot rows view.page ++ [markup "</section>"]

/-- A layout of storage or guests. -/
def ViewLayout.HasRows : ViewLayout → Prop
  | .storage _ _ _ => True
  | .guests _ _ _ => True
  | _ => False

variable {snapshot : HealthSnapshot} {labels : List DisplayLabel}

theorem filter_webRows_storage :
    (webFilesystems snapshot labels ++ webDevices snapshot).filter Row.isFilesystem = webFilesystems snapshot labels ∧
      (webFilesystems snapshot labels ++ webDevices snapshot).filter Row.isDevice = webDevices snapshot := by
  have hall : ∀ {α : Type} (l : List α) (f : α → Row) (p : Row → Bool), (∀ a, p (f a) = true) →
      (l.map f).filter p = l.map f := fun l f p h => List.filter_eq_self.mpr fun row hrow => by
    obtain ⟨a, -, rfl⟩ := List.mem_map.mp hrow
    exact h a
  have hnone : ∀ {α : Type} (l : List α) (f : α → Row) (p : Row → Bool), (∀ a, p (f a) = false) →
      (l.map f).filter p = [] := fun l f p h => List.filter_eq_nil_iff.mpr fun row hrow => by
    obtain ⟨a, -, rfl⟩ := List.mem_map.mp hrow
    rw [h a]
    exact Bool.false_ne_true
  rw [List.filter_append, List.filter_append, webFilesystems, webDevices, hall _ _ _ fun _ => rfl,
    hnone _ _ _ fun _ => rfl, hnone _ _ _ fun _ => rfl, hall _ _ _ fun _ => rfl]
  exact ⟨List.append_nil _, List.nil_append _⟩

/-- The section of a view is written with the rows of the snapshot. -/
theorem renderView_rows {view : DisplayView} (h : pageKind view.page = 2 ∨ pageKind view.page = 4) :
    renderView snapshot labels view = sectionWrites snapshot view (webRows snapshot labels view.page) := by
  suffices hpage : renderPage view.page snapshot labels = pageWrites snapshot (webRows snapshot labels view.page) view.page by
    rw [renderView, sectionWrites, hpage]
  cases hpage : view.page with
  | storage filesystemsLeft filesystemIndices smartIndices =>
    have hempty : (webDevices snapshot).isEmpty = snapshot.smart.devices.isEmpty := by
      rw [webDevices, List.isEmpty_map]
      cases snapshot.smart.devices <;> rfl
    rw [renderPage, renderStorage, pageWrites, webRows, filter_webRows_storage.1, filter_webRows_storage.2,
      renderFilesystems_rows, renderDevices_rows, listed, listed, hempty, ite_self, List.nil_append]
    simp only [List.append_assoc]
  | guests offset limit =>
    have hempty : (webGuests snapshot).isEmpty = snapshot.guests.guests.isEmpty := by
      rw [webGuests, List.isEmpty_map]
      cases snapshot.guests.guests <;> rfl
    rw [renderPage, renderGuests, pageWrites, webRows, renderGuests_rows, listed, hempty]
    simp only [List.append_assoc]
  | _ =>
    rw [hpage] at h
    rcases h with h | h <;> cases h

/-! ### The length of a section -/

/-- The length of what is written. -/
def charLength (ws : List Write) : Nat := (ws.flatMap (Write.chars escape)).length

theorem charLength_append (ws ws' : List Write) : charLength (ws ++ ws') = charLength ws + charLength ws' := by
  rw [charLength, List.flatMap_append, List.length_append, charLength, charLength]

/-- A piece of markup is no longer than the whole. -/
theorem length_le_of_mem {s : String} {ws : List Write} (h : markup s ∈ ws) : s.length ≤ charLength ws := by
  have hsublist := List.sublist_flatten_of_mem (List.mem_map_of_mem (f := Write.chars escape) h)
  rw [← List.flatMap_def] at hsublist
  rw [← String.length_toList]
  exact hsublist.length_le

theorem charLength_flatMap_le {rows web : List Row} (hnodup : rows.Nodup) (hsub : rows ⊆ web) :
    charLength (rows.flatMap Row.render) ≤ charLength (web.flatMap Row.render) := by
  obtain ⟨l, hperm, hsublist⟩ := List.subperm_of_subset hnodup hsub
  rw [charLength, charLength, List.flatMap_assoc, List.flatMap_assoc, ← (hperm.flatMap_right _).length_eq]
  exact (hsublist.flatMap _).length_le

/-- A row is longer than what stands in place of rows of its kind. -/
theorem charLength_render (row : Row) :
    0 < charLength row.render ∧
      (row.isDevice = true → charLength [markup "<p class=empty>Not configured</p>"] < charLength row.render) ∧
      (row.isGuest = true → charLength [markup "<p class=empty>No guests reported</p>"] < charLength row.render) := by
  have hcons : ∀ w ws, charLength (w :: ws) = (w.chars escape).length + charLength ws := fun w ws => by
    rw [charLength, List.flatMap_cons, List.length_append, charLength]
  have hmarkup : ∀ s, ((markup s).chars escape).length = s.length := fun s => String.length_toList
  have hplaceholder : ∀ s, charLength [markup s] = s.length := fun s => by
    rw [hcons, hmarkup]
    rfl
  cases row with
  | filesystem index label usage =>
    refine ⟨?_, nofun, nofun⟩
    rw [Row.render, renderMetric, hcons, hmarkup]
    exact Nat.lt_add_right _ (by decide)
  | device index device =>
    have hlong : 33 < charLength (Row.device index device).render := by
      rw [Row.render, renderDevice, charLength_append, charLength_append, hcons, hcons, hcons, hmarkup, hmarkup]
      have hstart : "<div class=table-row><strong>".length = 29 := by decide
      have hclose : "</strong><span class=".length = 21 := by decide
      omega
    refine ⟨Nat.zero_lt_of_lt hlong, fun _ => ?_, nofun⟩
    rwa [hplaceholder]
  | guest index guest =>
    have hlong : 37 < charLength (Row.guest index guest).render := by
      rw [Row.render, renderGuest, hcons, hmarkup]
      exact Nat.lt_add_right _ (by decide)
    refine ⟨Nat.zero_lt_of_lt hlong, nofun, fun _ => ?_⟩
    rwa [hplaceholder]

/-- Without one of the rows of a list there is less to write. -/
theorem charLength_listed_lt {placeholder : List Write} {rows web : List Row} (hnodup : rows.Nodup) (hsub : rows ⊆ web)
    (hlong : ∀ row ∈ web, charLength placeholder < charLength row.render ∧ 0 < charLength row.render) {row : Row}
    (hrow : row ∈ web) (hmissing : row ∉ rows) :
    charLength (listed placeholder rows) < charLength (listed placeholder web) := by
  have hmore := charLength_flatMap_le (List.nodup_cons.mpr ⟨hmissing, hnodup⟩) (List.cons_subset.mpr ⟨hrow, hsub⟩)
  obtain ⟨hplaceholder, hpos⟩ := hlong row hrow
  have hweb : web.isEmpty = false := List.isEmpty_eq_false_iff.mpr (List.ne_nil_of_mem hrow)
  rw [List.flatMap_cons, charLength_append] at hmore
  rw [listed, listed, charLength_append, charLength_append, hweb, if_neg Bool.false_ne_true]
  have hnone : charLength [] = 0 := rfl
  cases hrows : rows.isEmpty with
  | true =>
    rw [List.isEmpty_iff.mp hrows] at hmore ⊢
    rw [if_pos rfl, List.flatMap_nil]
    omega
  | false =>
    rw [if_neg Bool.false_ne_true]
    omega

theorem charLength_listed_le {placeholder : List Write} {rows web : List Row} (hnodup : rows.Nodup) (hsub : rows ⊆ web)
    (hlong : ∀ row ∈ web, charLength placeholder < charLength row.render ∧ 0 < charLength row.render) :
    charLength (listed placeholder rows) ≤ charLength (listed placeholder web) := by
  by_cases hall : web ⊆ rows
  · have hsame : rows.isEmpty = web.isEmpty := by
      cases rows with
      | nil => rw [List.subset_nil.mp hall]
      | cons row rows =>
        cases web with
        | nil => cases hsub (List.mem_cons_self ..)
        | cons => rfl
    rw [listed, listed, charLength_append, charLength_append, hsame]
    exact Nat.add_le_add_left (charLength_flatMap_le hnodup hsub) _
  · obtain ⟨row, hrow⟩ := not_forall.mp hall
    obtain ⟨hrow, hmissing⟩ := Classical.not_imp.mp hrow
    exact Nat.le_of_lt (charLength_listed_lt hnodup hsub hlong hrow hmissing)

/-- A section without one of the rows of the snapshot is shorter. -/
theorem charLength_section_lt {view : DisplayView} {rows : List Row} (hnodup : rows.Nodup)
    (hsub : rows ⊆ webRows snapshot labels view.page) {row : Row} (hrow : row ∈ webRows snapshot labels view.page)
    (hmissing : row ∉ rows) :
    charLength (sectionWrites snapshot view rows) <
      charLength (sectionWrites snapshot view (webRows snapshot labels view.page)) := by
  have hfilter : ∀ (p : Row → Bool) {web : List Row}, rows ⊆ web → rows.filter p ⊆ web.filter p := by
    intro p web hsub other hother
    obtain ⟨hother, hp⟩ := List.mem_filter.mp hother
    exact List.mem_filter.mpr ⟨hsub hother, hp⟩
  have hfilesystems : ∀ web : List Row, ∀ other ∈ web.filter Row.isFilesystem,
      charLength [] < charLength other.render ∧ 0 < charLength other.render :=
    fun _ other _ => ⟨(charLength_render other).1, (charLength_render other).1⟩
  have hdevices : ∀ web : List Row, ∀ other ∈ web.filter Row.isDevice,
      charLength [markup "<p class=empty>Not configured</p>"] < charLength other.render ∧ 0 < charLength other.render :=
    fun _ other hother => ⟨(charLength_render other).2.1 (List.mem_filter.mp hother).2, (charLength_render other).1⟩
  rw [sectionWrites, sectionWrites, charLength_append, charLength_append, charLength_append, charLength_append]
  refine Nat.add_lt_add_right (Nat.add_lt_add_left ?_ _) _
  cases hpage : view.page with
  | storage filesystemsLeft filesystemIndices smartIndices =>
    rw [hpage] at hsub hrow
    rw [pageWrites, pageWrites]
    simp only [charLength_append]
    have hkind : row.isFilesystem = true ∨ row.isDevice = true := by
      rcases List.mem_append.mp hrow with hrow | hrow
      · obtain ⟨_, -, rfl⟩ := List.mem_map.mp hrow
        exact .inl rfl
      · obtain ⟨_, -, rfl⟩ := List.mem_map.mp hrow
        exact .inr rfl
    have hnot : ∀ p : Row → Bool, row ∉ rows.filter p := fun p hmem => hmissing (List.mem_filter.mp hmem).1
    have hmoreFilesystems := charLength_listed_le (hnodup.filter _) (hfilter _ hsub) (hfilesystems _)
    have hmoreDevices := charLength_listed_le (hnodup.filter _) (hfilter _ hsub) (hdevices _)
    rcases hkind with hkind | hkind
    · have hless := charLength_listed_lt (hnodup.filter _) (hfilter _ hsub) (hfilesystems _)
        (List.mem_filter.mpr ⟨hrow, hkind⟩) (hnot _)
      omega
    · have hless := charLength_listed_lt (hnodup.filter _) (hfilter _ hsub) (hdevices _)
        (List.mem_filter.mpr ⟨hrow, hkind⟩) (hnot _)
      omega
  | guests offset limit =>
    rw [hpage] at hsub hrow
    rw [pageWrites, pageWrites]
    simp only [charLength_append]
    refine Nat.add_lt_add_right (Nat.add_lt_add_left (charLength_listed_lt hnodup hsub (fun other hother => ?_) hrow
      hmissing) _) _
    obtain ⟨_, -, rfl⟩ := List.mem_map.mp hother
    exact ⟨(charLength_render _).2.2 rfl, (charLength_render _).1⟩
  | _ =>
    rw [hpage] at hrow
    cases hrow

/-- Of its page a section takes the title and the kind. -/
theorem sectionWrites_congr {view view' : DisplayView} (htitle : view.title = view'.title)
    (hkind : pageKind view.page = pageKind view'.page) (rows : List Row) :
    sectionWrites snapshot view rows = sectionWrites snapshot view' rows := by
  have hpage : pageWrites snapshot rows view.page = pageWrites snapshot rows view'.page := by
    cases hpage : view.page <;> cases hpage' : view'.page <;> first | rfl | simp only [hpage, hpage', pageKind] at hkind; cases hkind
  rw [sectionWrites, sectionWrites, htitle, hkind, hpage]

/-- What the LCD shows of a page is in the section of the page. -/
theorem lcdRows_subset (page : DisplayPage) : lcdRows snapshot labels page ⊆ webRows snapshot labels page := by
  intro row hrow
  cases page with
  | storage filesystemsLeft filesystemIndices smartIndices =>
    rcases List.mem_append.mp hrow with hrow | hrow
    · obtain ⟨index, -, hrow⟩ := List.mem_filterMap.mp hrow
      obtain ⟨label, usage, hlabel, husage, rfl⟩ := Config.lcdFilesystem_eq_some.mp hrow
      refine List.mem_append_left _ (Config.mem_zipIdx_map.mpr ⟨index.toNat, usage, husage, ?_⟩)
      rw [hlabel]
      rfl
    · obtain ⟨index, -, hrow⟩ := List.mem_filterMap.mp hrow
      obtain ⟨device, hdevice, rfl⟩ := Config.lcdDevice_eq_some.mp hrow
      exact List.mem_append_right _ (Config.mem_zipIdx_map.mpr ⟨index.toNat, device, hdevice, rfl⟩)
  | guests offset limit =>
    obtain ⟨index, guest, hguest, rfl, -⟩ := Config.mem_lcdRows_guests.mp hrow
    exact Config.mem_zipIdx_map.mpr ⟨index, guest, hguest, rfl⟩
  | _ => exact hrow

theorem webRows_congr {page page' : DisplayPage} (h : pageKind page = pageKind page') :
    webRows snapshot labels page = webRows snapshot labels page' := by
  cases page <;> cases page' <;> first | rfl | cases h

/-! ### The dashboard around the sections -/

/-- What is written before the sections. -/
def headWrites (now later : Nat) (state : SharedState) (document : Bool) : List Write :=
  let incidents := activeIncidents now state
  let age := (snapshotAge later state).map (· / 1000000)
  let level := (state.snapshot.map (·.health.level)).getD .critical
  (if document then renderHead level else []) ++ renderShell level age ++ renderIncidents incidents ++
    [markup "<main class=grid>"]

/-- What is written behind them. -/
def tailWrites (build : SoftwareVersion) (state : SharedState) (document : Bool) : List Write :=
  renderDevicePanels build state ++ [markup "</main></div>"] ++ if document then [markup "</body></html>"] else []

theorem dashboardWrites_eq {build : SoftwareVersion} {now later : Nat} {state : SharedState} {document : Bool}
    {network : NetworkConfig} (hsnapshot : state.snapshot = some snapshot) (hmanifest : state.manifest = some network) :
    dashboardWrites build now later state document =
      headWrites now later state document ++
        (shownViews [] network.http.pages).flatMap (renderView snapshot state.filesystemLabels) ++
        tailWrites build state document := by
  rw [dashboardWrites, headWrites, tailWrites, hsnapshot, hmanifest]
  simp only [List.append_assoc]
  rfl

set_option maxRecDepth 2000 in
/-- The fixed text is shorter than what stands before the sections. -/
theorem length_budgetExceeded (now later : Nat) (state : SharedState) (document : Bool) :
    (DashboardBuffer.budgetExceeded document).toList.length < charLength (headWrites now later state document) := by
  have hlength : ∀ {l : List Char}, (String.ofList l).length = l.length := String.length_ofList
  have hfixed : (DashboardBuffer.budgetExceeded document).toList.length ≤ 200 := by
    rw [String.length_toList]
    cases document with
    | false =>
      refine hlength.trans_le ?_
      decide
    | true =>
      refine hlength.trans_le ?_
      decide
  have hicon : 200 < (dashboardIcon 0).length := by
    refine Nat.lt_of_lt_of_eq ?_ hlength.symm
    decide
  refine Nat.lt_of_le_of_lt hfixed (Nat.lt_of_lt_of_le hicon (length_le_of_mem ?_))
  rw [headWrites, renderShell]
  refine List.mem_append_left _ (List.mem_append_left _ (List.mem_append_right _
    (List.mem_append_left _ (List.mem_append_left _ ?_))))
  simp only [List.mem_cons, true_or, or_true]

namespace Config
variable {config : Config} {build version : SoftwareVersion} {g now later : Nat} {state : SharedState} {document : Bool}
  {view : ViewConfig} {display : DisplayConfig} {network : NetworkConfig} {pages : List DisplayView}

/-- Both outputs show these pages with the same rows: the LCD draws every page with its rows, and the dashboard is written
    with one section that has the rows of all of them, each once, between the sections of the views before and behind. -/
structure ShownAlike (config : Config) (g : Nat) (before : List String) (id : String) (after : List String)
    (display : DisplayConfig) (version : SoftwareVersion) (now later : Nat) (state : SharedState) (document : Bool)
    (snapshot : HealthSnapshot) (pages : List DisplayView) : Prop where
  drawn : ∀ page ∈ pages, ∀ n, ∃ header, drawHeader snapshot page.title.value n display.pages.length = .ok header ∧
    drawPage snapshot display n page = .ok (header ++ pageTexts snapshot display.filesystemLabels page.page)
  rendered : ∃ page ∈ pages, ∃ rows : List Row, rows.Nodup ∧
    (∀ row, row ∈ rows ↔ row ∈ pages.flatMap fun page => lcdRows snapshot display.filesystemLabels page.page) ∧
    (dashboardMarkup version now later state document).toList =
      (headWrites now later state document ++
        (config.sectionsOf g [] before).flatMap (renderView snapshot display.filesystemLabels) ++
        sectionWrites snapshot page rows ++
        (config.sectionsOf g (before ++ [id]) after).flatMap (renderView snapshot display.filesystemLabels) ++
        tailWrites version state document).flatMap (Write.chars escape)

/-- The state of a Stick that has the manifests of a configuration and a snapshot. -/
structure Shows (state : SharedState) (display : DisplayConfig) (network : NetworkConfig) (snapshot : HealthSnapshot) :
    Prop where
  snapshot : state.snapshot = some snapshot
  manifest : state.manifest = some network
  labels : state.filesystemLabels = display.filesystemLabels

/-- The pages of a view have the kind of its layout and its title. -/
theorem viewPages_title : ∀ page ∈ config.viewPages g view, page.title = ⟨view.title⟩ := by
  rw [viewPages]
  cases view.layout with
  | guests paginate offset limit =>
    cases paginate with
    | true =>
      intro page hpage
      obtain ⟨index, -, rfl⟩ := List.mem_map.mp hpage
      rfl
    | false =>
      intro page hpage
      rw [List.mem_singleton.mp hpage]
  | storage filesystemIds smartIds filesystemsLeft =>
    intro page hpage
    obtain ⟨index, -, rfl⟩ := List.mem_map.mp hpage
    rfl
  | _ =>
    intro page hpage
    rw [List.mem_singleton.mp hpage]

theorem kind_of_hasRows (h : view.layout.HasRows) : view.layout.kind = 2 ∨ view.layout.kind = 4 := by
  cases hlayout : view.layout with
  | storage => exact .inl rfl
  | guests => exact .inr rfl
  | _ =>
    rw [hlayout] at h
    cases h

/-- A page of storage or guests is drawn with its rows when the names on it fit. -/
theorem drawPage_rows {page : DisplayView} (hkind : pageKind page.page = 2 ∨ pageKind page.page = 4) (n : Nat)
    (hfits : PageFits snapshot page) :
    ∃ header, drawHeader snapshot page.title.value n display.pages.length = .ok header ∧
      drawPage snapshot display n page = .ok (header ++ pageTexts snapshot display.filesystemLabels page.page) := by
  obtain ⟨header, hheader⟩ := (drawHeader_succeeds snapshot page.title.value n display.pages.length).mpr hfits.1
  refine ⟨header, hheader, ?_⟩
  rw [drawPage]
  cases hpage : page.page with
  | storage filesystemsLeft filesystemIndices smartIndices => exact drawStorageSmart_rows hheader
  | guests offset limit => exact drawGuests_rows hheader (hfits.2 offset limit hpage)
  | _ =>
    rw [hpage] at hkind
    rcases hkind with hkind | hkind <;> cases hkind

/-- What the LCD shows of a view is in the section of each of its pages. -/
theorem lcdRows_viewPages_subset {page : DisplayView} (hpage : page ∈ config.viewPages g view) :
    ((config.viewPages g view).flatMap fun page => lcdRows snapshot labels page.page) ⊆
      webRows snapshot labels page.page := by
  intro row hrow
  obtain ⟨other, hother, hrow⟩ := List.mem_flatMap.mp hrow
  have hkind : pageKind other.page = pageKind page.page := by
    rw [pageKind_viewPages other hother, pageKind_viewPages page hpage]
  rw [← webRows_congr hkind]
  exact lcdRows_subset other.page hrow

/-- The sections of a configuration in the dashboard. -/
theorem dashboardWrites_sections {before after : List String} {id : String}
    (hweb : network.http.pages = config.pagesOf (before ++ id :: after) g) (hshows : Shows state display network snapshot) :
    dashboardWrites version now later state document =
      headWrites now later state document ++
        ((config.sectionsOf g [] before).flatMap (renderView snapshot display.filesystemLabels) ++
          (config.sectionsOf g before [id]).flatMap (renderView snapshot display.filesystemLabels) ++
          (config.sectionsOf g (before ++ [id]) after).flatMap (renderView snapshot display.filesystemLabels)) ++
        tailWrites version state document := by
  rw [dashboardWrites_eq hshows.snapshot hshows.manifest, hweb, sections_eq, hshows.labels, List.flatMap_append,
    List.flatMap_append]

/-- A dashboard with the section of a view is not the fixed text. -/
theorem ShownAlike.fits {before after : List String} {id : String}
    (h : config.ShownAlike g before id after display version now later state document snapshot pages) :
    writtenBytes (dashboardWrites version now later state document) ≤ dashboardBodyCapacity := by
  obtain ⟨page, -, rows, -, -, hmarkup⟩ := h.rendered
  by_contra hlong
  have hlength := congrArg List.length hmarkup
  rw [toList_dashboardMarkup, if_neg hlong] at hlength
  change _ = charLength _ at hlength
  simp only [charLength_append] at hlength
  have hbudget := length_budgetExceeded now later state document
  omega

/-- The section that is written for a view is as long as that with the rows of its pages. -/
theorem ShownAlike.length_section {before after : List String} {id : String}
    (h : config.ShownAlike g before id after display version now later state document snapshot pages)
    (hweb : network.http.pages = config.pagesOf (before ++ id :: after) g) (hshows : Shows state display network snapshot) :
    ∃ page ∈ pages, ∃ rows : List Row, rows.Nodup ∧
      (∀ row, row ∈ rows ↔ row ∈ pages.flatMap fun page => lcdRows snapshot display.filesystemLabels page.page) ∧
      charLength ((config.sectionsOf g before [id]).flatMap (renderView snapshot display.filesystemLabels)) =
        charLength (sectionWrites snapshot page rows) := by
  obtain ⟨page, hpage, rows, hnodup, hsame, hmarkup⟩ := h.rendered
  refine ⟨page, hpage, rows, hnodup, hsame, ?_⟩
  have hlength := congrArg List.length hmarkup
  rw [toList_dashboardMarkup, if_pos h.fits, dashboardWrites_sections hweb hshows] at hlength
  change charLength _ = charLength _ at hlength
  simp only [charLength_append] at hlength
  omega

theorem charLength_section_pos (view : DisplayView) (rows : List Row) : 0 < charLength (sectionWrites snapshot view rows) := by
  have hstart : 0 < "<section class='card page-card ".length := by decide
  refine Nat.lt_of_lt_of_le hstart (length_le_of_mem ?_)
  exact List.mem_append_left _ (List.mem_append_left _ (List.mem_cons_self ..))

/-- The markup of a dashboard tells by its length which rows are in the section of a view: it is written with all rows of
    the view's pages and no other only where the pages have all rows of the snapshot. -/
theorem shownAlike_iff {before after : List String} {id : String} (hview : config.views.lookup id = some view)
    (hlayout : view.layout.HasRows) (hpages : config.compileView view g = .ok pages)
    (hlabels : display.filesystemLabels = config.sources.filesystems.map fun fs => ⟨fs.label⟩)
    (hweb : network.http.pages = config.pagesOf (before ++ id :: after) g) (hshows : Shows state display network snapshot) :
    config.ShownAlike g before id after display version now later state document snapshot pages ↔
      config.FirstOfKind before view.layout ∧ config.Covers g snapshot view.layout ∧
        (∀ page ∈ pages, PageFits snapshot page) ∧
        writtenBytes (dashboardWrites version now later state document) ≤ dashboardBodyCapacity := by
  obtain ⟨first, hfirst, hsections⟩ := @sectionsOf_single config g view before id hview
  obtain rfl := compileView_eq hpages
  have hkind : ∀ page ∈ config.viewPages g view, pageKind page.page = 2 ∨ pageKind page.page = 4 := by
    intro page hpage
    rw [pageKind_viewPages page hpage]
    exact kind_of_hasRows hlayout
  have hrender := @renderView_rows snapshot display.filesystemLabels first (hkind first hfirst)
  rw [@firstOfKind_iff config g, ← same_iff_covers hpages hlabels hfirst]
  constructor
  · intro h
    obtain ⟨page, hpage, rows, hnodup, hsame, hsection⟩ := h.length_section hweb hshows
    have hnot : view.layout.kind ∉ kindsOf (config.pagesOf before g) := by
      intro hmem
      rw [hsections, if_pos hmem] at hsection
      exact absurd hsection (Nat.ne_of_lt (charLength_section_pos page rows))
    have hsameKind : pageKind page.page = pageKind first.page := by
      rw [pageKind_viewPages page hpage, pageKind_viewPages first hfirst]
    have hsameTitle : page.title = first.title := by
      rw [viewPages_title page hpage, viewPages_title first hfirst]
    rw [hsections, if_neg hnot, List.flatMap_singleton, hrender, sectionWrites_congr hsameTitle hsameKind] at hsection
    have hsub : rows ⊆ webRows snapshot display.filesystemLabels first.page :=
      fun row hrow => lcdRows_viewPages_subset hfirst ((hsame row).mp hrow)
    refine ⟨hnot, fun row => ⟨fun hrow => ?_, fun hrow => lcdRows_viewPages_subset hfirst hrow⟩, fun page hpage => ?_,
      h.fits⟩
    · by_contra hmissing
      exact absurd hsection (Nat.ne_of_gt (charLength_section_lt hnodup hsub hrow fun hmem =>
        hmissing ((hsame row).mp hmem)))
    · obtain ⟨header, -, hdraw⟩ := h.drawn page hpage 0
      exact drawPage_succeeds.mp ⟨_, hdraw⟩
  · rintro ⟨hnot, hsame, hfitsPages, hfits⟩
    refine ⟨fun page hpage n => drawPage_rows (hkind page hpage) n (hfitsPages page hpage), first, hfirst, _,
      nodup_webRows first.page, hsame, ?_⟩
    rw [toList_dashboardMarkup, if_pos hfits, dashboardWrites_sections hweb hshows, hsections, if_neg hnot,
      List.flatMap_singleton, hrender]
    simp only [List.append_assoc]

/-- A view of storage or of guests that is selected for both outputs is shown alike on both under these conditions and no
    others, whatever else the Stick knows: no view before it has pages of its kind, its pages leave out nothing of the
    snapshot, the names on them fit, and the dashboard fits its buffer. -/
theorem view_rows_agree_iff {http : HttpOutput} {id : String} {before after : List String}
    (hview : config.views.lookup id = some view) (hlayout : view.layout.HasRows)
    (hlcd : id ∈ config.outputs.stick.lcd.views) (hhttp : config.outputs.http = some http)
    (hweb : http.views = before ++ id :: after) (hd : config.displayConfig build g = .ok display)
    (hn : config.networkConfig g = .ok network) (hshows : Shows state display network snapshot)
    (version : SoftwareVersion) (now later : Nat) (document : Bool) :
    ∃ pages, config.compileView view g = .ok pages ∧ pages <:+: display.pages ∧
      (config.ShownAlike g before id after display version now later state document snapshot pages ↔
        config.FirstOfKind before view.layout ∧ config.Covers g snapshot view.layout ∧
          (∀ page ∈ pages, PageFits snapshot page) ∧
          writtenBytes (dashboardWrites version now later state document) ≤ dashboardBodyCapacity) := by
  obtain ⟨-, -, compiled, -, -, hcompiled, -, -, -, -⟩ := displayConfig_eq_ok.mp hd
  obtain ⟨other, hother, pages, hpages⟩ := (succeeds_compilePagesFor.mp ⟨compiled, hcompiled⟩).2 id hlcd
  obtain rfl := Option.some.inj (hview.symm.trans hother)
  have hdisplay := displayConfig_eq hd
  have hnetwork : network.http.pages = config.pagesOf (before ++ id :: after) g := by
    rw [networkConfig_eq hn, networkManifest, hhttp, ← hweb]
  refine ⟨pages, hpages, ?_, shownAlike_iff hview hlayout hpages (by rw [hdisplay]; rfl) hnetwork hshows⟩
  rw [compileView_eq hpages, hdisplay]
  exact infix_pagesOf hlcd hview

/-- Two filesystems, two disks, and some of three views on both outputs. -/
def shownDisks (viewIds : List String) : Config :=
  { disksOnly with
    views :=
      [("all", ⟨"ALL", .storage ["root", "data"] ["first", "second"] true⟩),
        ("root", ⟨"ROOT", .storage ["root"] ["first"] true⟩), ("guests", ⟨"GUESTS", .guests false 0 1⟩)]
    outputs := ⟨⟨⟨viewIds⟩⟩, some ⟨true, "servatory", 80, viewIds⟩, none⟩ }

/-- Both filesystems and disks are measured, and two guests run. -/
def shownSnapshot : HealthSnapshot :=
  { HealthSnapshot.ofGuests "pve"
      [⟨100, .virtualMachine, .running, 5, 1024, 2048, "web"⟩, ⟨101, .container, .running, 5, 512, 1024, "db"⟩] with
    filesystems := [⟨20, 80 * 1024, true⟩, ⟨90, 1024, true⟩]
    smart := ⟨[⟨.healthy, some 31, "SDA"⟩, ⟨.failed, none, "SDB"⟩]⟩ }

/-- A Stick that has been sent them. -/
def shownState (viewIds : List String) : SharedState :=
  { SharedState.new with
    snapshot := some shownSnapshot
    manifest := some ((shownDisks viewIds).networkManifest 2)
    filesystemLabels := ((shownDisks viewIds).displayManifest ⟨"1.0"⟩ 2).filesystemLabels
    lastUpdate := some 0 }

theorem shows_shownState (viewIds : List String) :
    Shows (shownState viewIds) ((shownDisks viewIds).displayManifest ⟨"1.0"⟩ 2) ((shownDisks viewIds).networkManifest 2)
      shownSnapshot := ⟨rfl, rfl, rfl⟩

theorem hostNameFits_shownSnapshot : HostNameFits shownSnapshot := show (String.ofList _).utf8ByteSize ≤ 11 by decide

set_option maxRecDepth 20000 in
theorem writtenBytes_shownState :
    writtenBytes (dashboardWrites ⟨"1.0"⟩ 0 0 (shownState ["all", "root"]) false) ≤ dashboardBodyCapacity := by
  have h : ∃ n, Sized (dashboardWrites ⟨"1.0"⟩ 0 0 (shownState ["all", "root"]) false) n ∧ n ≤ dashboardBodyCapacity := by
    apply Exists.intro
    apply And.intro
    · apply Sized.markup
      repeat constructor
    · decide
  obtain ⟨n, hn, hle⟩ := h
  rwa [hn.writtenBytes_eq]

/-- A view with everything, selected before the view with the root filesystem only. -/
theorem view_rows_agree_all :
    ∃ pages, (shownDisks ["all", "root"]).compileView ⟨"ALL", .storage ["root", "data"] ["first", "second"] true⟩ 2 =
        .ok pages ∧
      (shownDisks ["all", "root"]).ShownAlike 2 [] "all" ["root"] ((shownDisks ["all", "root"]).displayManifest ⟨"1.0"⟩ 2)
        ⟨"1.0"⟩ 0 0 (shownState ["all", "root"]) false shownSnapshot pages := by
  obtain ⟨pages, hpages, -, hiff⟩ :=
    @view_rows_agree_iff shownSnapshot (shownDisks ["all", "root"]) ⟨"1.0"⟩ 2 (shownState ["all", "root"]) _ _ _ _ "all" []
      ["root"] rfl trivial (by decide) rfl rfl (by rfl) (by rfl) (shows_shownState _) ⟨"1.0"⟩ 0 0 false
  have htwo : ∀ index < 2, index = 0 ∨ index = 1 := by omega
  refine ⟨pages, hpages, hiff.mpr ⟨fun _ => nofun, ⟨fun index hindex => ?_, fun index hindex => ?_⟩, fun page hpage => ?_,
    writtenBytes_shownState⟩⟩
  · rcases htwo index hindex with rfl | rfl
    · exact ⟨"root", .head _, by rfl⟩
    · exact ⟨"data", .tail _ (.head _), by rfl⟩
  · rcases htwo index hindex with rfl | rfl
    · exact ⟨"first", .head _, by rfl⟩
    · exact ⟨"second", .tail _ (.head _), by rfl⟩
  · refine ⟨hostNameFits_shownSnapshot, fun offset limit hguests => ?_⟩
    rw [compileView_eq hpages] at hpage
    have hkind := pageKind_viewPages page hpage
    rw [hguests] at hkind
    cases hkind

/-- Three views that are shown on both outputs: the section of the first has rows that its pages do not have, the second
    has no section, and the section of the third has a guest that its page does not have. -/
theorem view_rows_disagree :
    (shownDisks ["root", "all", "guests"]).validate ⟨"1.0"⟩ = .ok () ∧
      ∀ before id after, (before, id, after) ∈
          [([], "root", ["all", "guests"]), (["root"], "all", ["guests"]), (["root", "all"], "guests", [])] →
        ∃ view pages, (shownDisks ["root", "all", "guests"]).views.lookup id = some view ∧
          (shownDisks ["root", "all", "guests"]).compileView view 2 = .ok pages ∧
          ¬(shownDisks ["root", "all", "guests"]).ShownAlike 2 before id after
            ((shownDisks ["root", "all", "guests"]).displayManifest ⟨"1.0"⟩ 2) ⟨"1.0"⟩ 0 0
            (shownState ["root", "all", "guests"]) false shownSnapshot pages := by
  refine ⟨by rfl, fun before id after hmem => ?_⟩
  have hshows := shows_shownState ["root", "all", "guests"]
  rcases List.mem_cons.mp hmem with hroot | hmem
  · cases hroot
    refine ⟨_, _, rfl, rfl, fun h => ?_⟩
    obtain ⟨-, ⟨hfilesystems, -⟩, -⟩ := (shownAlike_iff rfl (by trivial) rfl rfl rfl hshows).mp h
    obtain ⟨id, hid, hposition⟩ := hfilesystems 1 (by decide)
    rw [List.mem_singleton.mp hid] at hposition
    cases hposition
  rcases List.mem_cons.mp hmem with hall | hmem
  · cases hall
    refine ⟨_, _, rfl, rfl, fun h => ?_⟩
    obtain ⟨hfirst, -⟩ := (shownAlike_iff rfl (by trivial) rfl rfl rfl hshows).mp h
    exact hfirst "root" (List.mem_singleton_self _) _ rfl rfl
  · cases List.mem_singleton.mp hmem
    refine ⟨_, _, rfl, rfl, fun h => ?_⟩
    obtain ⟨-, hguests | ⟨-, hle⟩, -⟩ := (shownAlike_iff rfl (by trivial) rfl rfl rfl hshows).mp h
    · cases hguests
    · exact absurd hle (by decide)

end Config
end Servatory
