import Servatory.Firmware.Render
import Servatory.Lib.Except
import Servatory.Theorems.Stick.Frame

/-! When the Stick can draw its screen. It fails for a manifest without pages, which a decoded message may
    hold, and for a name whose first characters take more bytes than its column has characters. -/

namespace Servatory

/-- The first `count` characters of a name fit `capacity` bytes. -/
def NameFits (count capacity : Nat) (name : String) : Prop :=
  (String.ofList (name.toList.take count)).utf8ByteSize ≤ capacity

def HostNameFits (snapshot : HealthSnapshot) : Prop := NameFits 10 11 snapshot.hostName

def GuestNameFits (guest : GuestSummary) : Prop := NameFits 16 17 guest.name

/-- What a page draws of a snapshot fits: the host name, and on a page of guests their names. -/
def PageFits (snapshot : HealthSnapshot) (view : DisplayView) : Prop :=
  HostNameFits snapshot ∧ ∀ offset limit, view.page = .guests offset limit →
    ∀ guest ∈ pageGuests snapshot offset limit, GuestNameFits guest

/-- The manifest has the page that is on the screen, and what it draws fits. -/
def SnapshotFits (snapshot : HealthSnapshot) (config : DisplayConfig) (page : Nat) : Prop :=
  ∃ view, config.pages[page % max config.pages.length 1]? = some view ∧ PageFits snapshot view

namespace Except

theorem succeeds_unwrapName {N : Nat} {name : Option (FixedString N)} :
    Except.Succeeds (unwrapName name) ↔ name.isSome := by
  cases name <;> simp [unwrapName]

end Except

theorem drawHeader_succeeds (snapshot : HealthSnapshot) (title : String) (page pageCount : Nat) :
    Except.Succeeds (drawHeader snapshot title page pageCount) ↔ HostNameFits snapshot := by
  unfold drawHeader
  rw [Except.succeeds_bind_of_forall fun _ => Except.succeeds_pure _, Except.succeeds_unwrapName, shortHostName,
    FixedString.collect_isSome_iff]
  rfl

theorem drawGuest_succeeds {row : Nat} {guest : GuestSummary} :
    Except.Succeeds (drawGuest row guest) ↔ GuestNameFits guest := by
  unfold drawGuest
  simp only
  rw [Except.succeeds_bind_of_forall fun _ => Except.succeeds_pure _, Except.succeeds_unwrapName, shortName,
    FixedString.collect_isSome_iff]
  rfl

theorem drawGuests_succeeds {snapshot : HealthSnapshot} {title : String} {page pageCount : Nat}
    {offset limit : UInt32} :
    Except.Succeeds (drawGuests snapshot page title offset limit pageCount) ↔
      HostNameFits snapshot ∧ ∀ guest ∈ pageGuests snapshot offset limit, GuestNameFits guest := by
  have hrows : Except.Succeeds ((pageGuests snapshot offset limit).zipIdx.mapM fun p => drawGuest p.2 p.1) ↔
      ∀ guest ∈ pageGuests snapshot offset limit, GuestNameFits guest := by
    rw [Except.succeeds_mapM]
    simp only [drawGuest_succeeds]
    constructor
    · intro h guest hg
      obtain ⟨row, hrow⟩ := List.mem_iff_getElem?.mp hg
      exact h (guest, row) (List.mem_zipIdx_iff_getElem?.mpr hrow)
    · rintro h ⟨guest, row⟩ hg
      exact h guest (List.mem_iff_getElem?.mpr ⟨row, List.mem_zipIdx_iff_getElem?.mp hg⟩)
  rw [← drawHeader_succeeds snapshot title page pageCount, ← hrows]
  unfold drawGuests
  simp only [Except.succeeds_bind, Except.succeeds_pure, and_true]
  constructor
  · rintro ⟨h, hh, r, hr⟩
    exact ⟨⟨h, hh⟩, ⟨r, hr⟩⟩
  · rintro ⟨⟨h, hh⟩, ⟨r, hr⟩⟩
    exact ⟨h, hh, r, hr⟩

/-- A page can be drawn exactly when what it draws fits. -/
theorem drawPage_succeeds {snapshot : HealthSnapshot} {config : DisplayConfig} {page : Nat} {view : DisplayView} :
    Except.Succeeds (drawPage snapshot config page view) ↔ PageFits snapshot view := by
  unfold drawPage PageFits
  cases hv : view.page with
  | guests offset limit =>
    simp only [drawGuests_succeeds]
    exact ⟨fun ⟨h1, h2⟩ => ⟨h1, by rintro _ _ ⟨⟩; exact h2⟩, fun ⟨h1, h2⟩ => ⟨h1, h2 offset limit rfl⟩⟩
  | _ =>
    simp only [drawOverview, drawResources, drawStorageSmart, drawUpsNetwork,
      Except.succeeds_bind_of_forall fun _ => Except.succeeds_pure _, drawHeader_succeeds, reduceCtorEq, false_implies,
      implies_true, and_true]

theorem drawSnapshot_succeeds {snapshot : HealthSnapshot} {config : DisplayConfig} {page : Nat} :
    Except.Succeeds (drawSnapshot snapshot config page) ↔ SnapshotFits snapshot config page := by
  unfold drawSnapshot SnapshotFits
  simp only
  cases hv : config.pages[page % max config.pages.length 1]? with
  | none => simp
  | some view => simp [drawPage_succeeds]

theorem snapshotFits_of_fits {snapshot : HealthSnapshot} {config : DisplayConfig} (hpages : config.pages ≠ [])
    (hhost : HostNameFits snapshot) (hguests : ∀ guest ∈ snapshot.guests.guests, GuestNameFits guest) (page : Nat) :
    SnapshotFits snapshot config page := by
  have hpos : 0 < config.pages.length := List.length_pos_iff.mpr hpages
  have hlt : page % max config.pages.length 1 < config.pages.length := by
    rw [Nat.max_eq_left hpos]
    exact Nat.mod_lt _ hpos
  refine ⟨_, List.getElem?_eq_getElem hlt, hhost, fun offset limit _ guest hg => hguests guest ?_⟩
  exact List.mem_of_mem_drop (List.mem_of_mem_take hg)

namespace Stick
variable {build : SoftwareVersion} {s : Stick} {env : Surroundings} {i : Input}

/-- If the iteration draws a snapshot, what it draws fits. -/
def Drawable (env : Surroundings) (s : Stick) : Prop :=
  s.renderPending = true → s.shutdownAnimationActive = false →
    ∀ snapshot, s.screen env = .snapshot snapshot → SnapshotFits snapshot s.displayConfig s.page

/-- A snapshot is the only screen whose drawing can fail. -/
theorem render_succeeds : Except.Succeeds (s.render env) ↔
    ∀ snapshot, s.screen env = .snapshot snapshot → SnapshotFits snapshot s.displayConfig s.page := by
  unfold render
  cases hs : s.screen env with
  | snapshot snapshot => simp [drawSnapshot_succeeds]
  | _ => simp

theorem draw_succeeds : Except.Succeeds (s.draw env) ↔ s.Drawable env := by
  unfold draw Drawable
  by_cases h : s.renderPending = true ∧ s.shutdownAnimationActive = false
  · simp [h.1, h.2, render_succeeds]
  · have hnot : (s.renderPending && !s.shutdownAnimationActive) = false := by
      cases hp : s.renderPending <;> cases ha : s.shutdownAnimationActive <;> simp_all
    rw [hnot]
    exact ⟨fun _ hp ha => absurd ⟨hp, ha⟩ h, fun _ => Except.succeeds_ok _⟩

/-- A run crashes exactly at an iteration that draws what does not fit. -/
theorem runDrawing_succeeds {inputs : List (Surroundings × Input)} :
    Except.Succeeds (s.runDrawing build inputs) ↔
      ∀ before env i after, inputs = before ++ (env, i) :: after →
        ((s.run build (before.map (·.2))).update build i).Drawable env := by
  induction inputs generalizing s with
  | nil => simp [runDrawing]
  | cons first rest ih =>
    obtain ⟨env₀, i₀⟩ := first
    have hsplit : (∀ before env i after, (env₀, i₀) :: rest = before ++ (env, i) :: after →
          ((s.run build (before.map (·.2))).update build i).Drawable env) ↔
        (s.update build i₀).Drawable env₀ ∧
          ∀ before env i after, rest = before ++ (env, i) :: after →
            (((s.iterate build i₀).1.run build (before.map (·.2))).update build i).Drawable env := by
      constructor
      · intro h
        refine ⟨h [] env₀ i₀ rest rfl, fun before env i after hr => ?_⟩
        exact h ((env₀, i₀) :: before) env i after (by rw [hr]; rfl)
      · rintro ⟨h0, hrest⟩ before env i after hr
        cases before with
        | nil =>
          cases hr
          exact h0
        | cons first before =>
          cases hr
          exact hrest before env i after rfl
    rw [hsplit, ← ih, ← draw_succeeds, runDrawing]
    cases hd : (s.update build i₀).draw env₀ with
    | ok texts => simp
    | error panic => simp

/-! ### Messages that fit keep the screen drawable -/

/-- The message leaves nothing behind that cannot be drawn. -/
def MessageFits : HostMessage → Prop
  | .displayConfig config => config.pages ≠ []
  | .healthSnapshot snapshot => HostNameFits snapshot ∧ ∀ guest ∈ snapshot.guests.guests, GuestNameFits guest
  | _ => True

structure Fits (s : Stick) : Prop where
  pages : s.displayConfig.pages ≠ []
  snapshot : ∀ snapshot, s.healthSnapshot = some snapshot →
    HostNameFits snapshot ∧ ∀ guest ∈ snapshot.guests.guests, GuestNameFits guest

namespace Fits
variable {t : Stick}

theorem congr (h : Fits s) (hc : t.core = s.core) : Fits t := by
  have hp : t.displayConfig = s.displayConfig := congrArg Core.displayConfig hc
  have hs : t.healthSnapshot = s.healthSnapshot := congrArg Core.healthSnapshot hc
  exact ⟨by rw [hp]; exact h.pages, by rw [hs]; exact h.snapshot⟩

theorem boot (build : SoftwareVersion) (network : SharedState) (now : Nat) : Fits (boot build network now) :=
  ⟨by rintro ⟨⟩, by rintro _ ⟨⟩⟩

theorem receive (h : Fits s) (now : Nat) {frame : Except ProtocolError HostMessage}
    (hf : ∀ message, frame = .ok message → MessageFits message) : Fits (s.receive build now frame) := by
  cases frame with
  | error e => cases e <;> exact ⟨h.pages, h.snapshot⟩
  | ok message =>
    cases message with
    | hello version session => exact ⟨h.pages, h.snapshot⟩
    | healthSnapshot snapshot =>
      simp only [Stick.receive, handle]
      split
      · exact h
      · exact ⟨h.pages, by rintro _ ⟨⟩; exact hf _ rfl⟩
    | displayConfig config =>
      simp only [Stick.receive, handle]
      split
      · exact h
      · exact ⟨hf _ rfl, h.snapshot⟩
    | _ =>
      simp only [Stick.receive, handle]
      split <;> exact ⟨h.pages, h.snapshot⟩

theorem received (h : Fits s) (hf : ∀ message, .ok message ∈ i.frames → MessageFits message) :
    Fits (s.received build i) := by
  suffices ∀ (frames : List (Except ProtocolError HostMessage)) (t : Stick), Fits t →
      (∀ message, .ok message ∈ frames → MessageFits message) →
        Fits (frames.foldl (fun s frame => s.receive build i.now frame) t) from
    this i.frames _ (h.congr (core_begin build s i)) hf
  intro frames
  induction frames with
  | nil => exact fun t ht _ => ht
  | cons frame rest ih =>
    intro t ht hall
    refine ih _ (ht.receive i.now fun message he => hall message ?_) (fun m hm => hall m (List.mem_cons_of_mem _ hm))
    rw [he]
    exact List.mem_cons_self ..

theorem checkLink (h : Fits s) (now : Nat) : Fits (s.checkLink now) := by
  unfold Stick.checkLink
  split
  · exact ⟨h.pages, h.snapshot⟩
  · exact h

theorem update (h : Fits s) (hf : ∀ message, .ok message ∈ i.frames → MessageFits message) :
    Fits (s.update build i) :=
  ((h.received hf).checkLink i.now).congr (core_finish _ i)

theorem run (h : Fits s) {inputs : List Input}
    (hf : ∀ i ∈ inputs, ∀ message, .ok message ∈ i.frames → MessageFits message) : Fits (s.run build inputs) := by
  induction inputs generalizing s with
  | nil => exact h
  | cons i rest ih =>
    have hi : Fits (s.iterate build i).1 := (h.update (hf i (List.mem_cons_self ..))).congr rfl
    exact ih hi fun j hj => hf j (List.mem_cons_of_mem _ hj)

theorem drawable (h : Fits s) (env : Surroundings) : s.Drawable env := by
  intro _ _ snapshot hs
  have hsnap : s.healthSnapshot = some snapshot := by
    unfold screen at hs
    split at hs
    · cases hs
    · split at hs <;> try cases hs
      · split at hs
        · rename_i heq
          rw [heq]
          exact congrArg some (Screen.snapshot.inj hs)
        · cases hs
      · repeat' split at hs
        all_goals cases hs
  obtain ⟨hhost, hguests⟩ := h.snapshot snapshot hsnap
  exact snapshotFits_of_fits h.pages hhost hguests s.page

end Fits

/-- A run draws every screen exactly when whatever snapshot page it draws exists and fits, and it does so
    when every manifest it reads has a page and every snapshot has names that fit. -/
theorem run_draws (build : SoftwareVersion) (network : SharedState) (now : Nat)
    (inputs : List (Surroundings × Input)) :
    (∀ env, Except.Succeeds ((boot build network now).render env)) ∧
    (Except.Succeeds ((boot build network now).runDrawing build inputs) ↔
      ∀ before env i after, inputs = before ++ (env, i) :: after →
        (((boot build network now).run build (before.map (·.2))).update build i).Drawable env) ∧
    ((∀ p ∈ inputs, ∀ message, .ok message ∈ p.2.frames → MessageFits message) →
      Except.Succeeds ((boot build network now).runDrawing build inputs)) := by
  refine ⟨fun env => render_succeeds.mpr fun snapshot hs => ?_, runDrawing_succeeds, fun h => ?_⟩
  · have hfits : Fits { boot build network now with renderPending := true } :=
      (Fits.boot build network now).congr rfl
    exact hfits.drawable env rfl rfl snapshot hs
  · rw [runDrawing_succeeds]
    rintro before env i after rfl
    have hbefore : Fits ((boot build network now).run build (before.map (·.2))) := by
      refine (Fits.boot build network now).run fun j hj => ?_
      obtain ⟨p, hp, rfl⟩ := List.mem_map.mp hj
      exact h p (List.mem_append_left _ hp)
    exact (hbefore.update (h (env, i) (by simp))).drawable env

/-- A Stick without a network. -/
def offlineSurroundings : Surroundings := ⟨"1.0", ⟨"1.0"⟩, none, none, fun _ => false⟩

/-- One iteration that reads a Hello and these messages. -/
def sessionInput (messages : List HostMessage) : Surroundings × Input :=
  (offlineSurroundings, ⟨0, true, (.hello ⟨"1.0"⟩ ⟨7⟩ :: messages).map .ok, false, 0⟩)

theorem run_draws_named :
    Except.Succeeds ((boot ⟨"1.0"⟩ .new 0).runDrawing ⟨"1.0"⟩ [sessionInput [.healthSnapshot (.ofGuests "pve" [])]]) :=
  (run_draws ⟨"1.0"⟩ .new 0 _).2.2 (by
    have hfits : "pve".utf8ByteSize ≤ 11 := by decide
    simp [sessionInput, MessageFits, HealthSnapshot.ofGuests, HostNameFits, NameFits, hfits])

/-- A manifest without pages crashes the Stick at the next snapshot, and so does a host name of ten
    two-byte characters. -/
theorem run_crashes :
    (boot ⟨"1.0"⟩ .new 0).runDrawing ⟨"1.0"⟩
        [sessionInput [.displayConfig { DisplayConfig.default with pages := [] }, .healthSnapshot (.ofGuests "pve" [])]] =
      .error .indexOutOfBounds ∧
    (boot ⟨"1.0"⟩ .new 0).runDrawing ⟨"1.0"⟩ [sessionInput [.healthSnapshot (.ofGuests "žžžžžžžžžž" [])]] =
      .error .capacity := by
  refine ⟨rfl, rfl⟩

end Stick
end Servatory
