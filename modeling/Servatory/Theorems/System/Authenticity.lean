import Servatory.Theorems.Host.Budget
import Servatory.Theorems.System.Link

/-! A request for a shutdown that the daemon acts on was made by the Stick in the daemon's own session. -/

namespace Servatory.System
variable {config : Config} {daemon firmware : SoftwareVersion} {s : System}

/-- A request was queued while the daemon was connected, within a session. -/
def Stamped (o : Outgoing) : Prop :=
  o.message = .shutdownRequested → o.origin.daemon = .connected ∧ o.origin.daemonSession.isSome

/-- What every action keeps. -/
structure Authentic (s : System) : Prop where
  session : Stick.Session s.stick
  stamped : ∀ o ∈ s.pending, Stamped o
  challenge : Challenge.Inv s.link

theorem session_next (hs : Stick.Session s.stick) (a : Action) : Stick.Session (s.next config daemon firmware a).stick := by
  cases a with
  | phase event outcomes => exact hs
  | opened now nonce toStick toHost => exact hs
  | frame now host outcomes =>
    simp only [next]
    split
    · exact hs
    · exact hs
  | restart now nonce toStick toHost =>
    simp only [next]
    split
    · exact hs
    · exact hs
  | iterate input => exact hs.iterate input
  | reboot network now toStick toHost => exact Stick.Session.boot network now

/-- A request that an iteration leaves on its way was there before, or belongs to a session. -/
theorem stamped_iterate (hs : Stick.Session s.stick) (hp : ∀ o ∈ s.pending, Stamped o) (i : Input) {o : Outgoing}
    (ho : o ∈ s.toHost ++ (s.stick.iterate firmware i).2.started.toList ++
      (s.stick.iterate firmware i).1.usbTx.unstarted) : Stamped o := by
  intro hm
  have hqueued : o ∈ s.toHost ∨ o ∈ (s.stick.update firmware i).usbTx.unstarted := by
    rcases List.mem_append.mp ho with ho | ho
    · rcases List.mem_append.mp ho with ho | ho
      · exact .inl ho
      · exact .inr (UsbTx.started_poll (Option.mem_toList.mp ho))
    · exact .inr (UsbTx.mem_poll ho)
  rcases hqueued with ho | ho
  · exact hp o (List.mem_append_left _ ho) hm
  · rcases Stick.mem_update (Stick.mem_pendingRequests.mpr ⟨ho, hm⟩) with hold | ⟨hconnected, horigin⟩
    · exact hp o (List.mem_append_right _ (Stick.mem_pendingRequests.mp hold).1) hm
    · have hreceived : Stick.Session (s.stick.received firmware i) := (hs.begin i).receiveAll i.now i.frames
      rw [horigin]
      exact ⟨hconnected, ((hreceived.checkLink i.now).connected hconnected).1⟩

theorem stamped_next (h : Authentic s) {a : Action} (ha : s.Allowed config daemon .any a) :
    ∀ o ∈ (s.next config daemon firmware a).pending, Stamped o := by
  have hlost : ∀ {toHost : List Outgoing}, toHost.isSublist s.toHost → ∀ o ∈ toHost ++ s.stick.usbTx.unstarted, Stamped o :=
    fun hh o ho => h.stamped o (((List.isSublist_iff_sublist.mp hh).append (.refl _)).subset ho)
  cases a with
  | phase event outcomes => exact h.stamped
  | opened now nonce toStick toHost => exact hlost ha.2.2.2.2
  | frame now host outcomes =>
    obtain ⟨o, rest, hto⟩ := List.exists_cons_of_ne_nil ha.2
    simp only [next, hto]
    intro p hp
    refine h.stamped p ?_
    rw [pending, hto]
    exact List.mem_cons_of_mem _ hp
  | restart now nonce toStick toHost =>
    cases hb : Host.boot config daemon nonce now with
    | error e =>
      simp only [next, hb]
      exact h.stamped
    | ok host =>
      simp only [next, hb]
      exact hlost ha.2.2.2
  | iterate input => exact fun o ho => stamped_iterate h.session h.stamped input ho
  | reboot network now toStick toHost =>
    intro o ho hm
    rcases List.mem_append.mp ho with ho | ho
    · exact h.stamped o (List.mem_append_left _ ((List.isSublist_iff_sublist.mp ha.2).subset ho)) hm
    · have ho : o ∈ (Stick.boot firmware network now).usbTx.unstarted := ho
      rw [unstarted_boot] at ho
      rw [List.mem_singleton.mp ho] at hm
      cases hm

theorem Authentic.next (h : Authentic s) {a : Action} (ha : s.Allowed config daemon .any a) :
    Authentic (s.next config daemon firmware a) :=
  ⟨session_next h.session a, stamped_next h ha, h.challenge.steps (steps_next h.session ha)⟩

theorem Authentic.initial (hi : Initial config daemon firmware s) : Authentic s := by
  obtain ⟨nonce, network, now, hb, hstick, hs, hh, hn, hg, -⟩ := hi
  obtain ⟨display, manifest, -, -, hhost⟩ := Host.boot_eq_ok hb
  have hpending : s.pending = [⟨deviceHello firmware none, ⟨.waiting, none, 0⟩⟩] := by
    rw [pending, hh, hstick, unstarted_boot, List.nil_append]
  refine ⟨?_, ?_, ?_⟩
  · rw [hstick]
    exact Stick.Session.boot network now
  · intro o ho hm
    rw [hpending] at ho
    rw [List.mem_singleton.mp ho] at hm
    cases hm
  · have hlink : s.link = ⟨nonce, [nonce], false, none, [], [], [.other]⟩ := by
      rw [link, hpending, hs, hn, hg, hhost, hstick]
      rfl
    rw [hlink]
    exact (Challenge.Inv.start nonce).step (.answer _)

theorem authentic (hr : Reachable config daemon firmware .any s) : Authentic s := by
  refine hr.invariant (P := Authentic) ?_ ?_
  · exact fun s hi => Authentic.initial hi
  · rintro s a t - hs ⟨ha, rfl⟩
    exact hs.next ha

/-- The daemon hands the next message of the Stick to its event handler. -/
def Handles (s : System) (o : Outgoing) : Prop :=
  s.host.phase = .reading ∧ s.host.handshakeEstablished = true ∧ s.toHost.head? = some o ∧
    ∀ version session, o.message ≠ .hello version session

/-- Whatever is lost and whoever starts again, a request that the daemon hands to its event handler was queued while
    the Stick was connected, in the session of the daemon's current nonce. -/
theorem request_authentic (hr : Reachable config daemon firmware .any s) {o : Outgoing} (ho : s.Handles o)
    (hm : o.message = .shutdownRequested) :
    o.origin.daemon = .connected ∧ o.origin.daemonSession = some s.host.handshakeNonce := by
  obtain ⟨-, hest, hhead, -⟩ := ho
  have hmem : o ∈ s.pending := List.mem_append_left _ (List.mem_of_mem_head? hhead)
  obtain ⟨hconnected, hsome⟩ := (authentic hr).stamped o hmem hm
  obtain ⟨session, hsession⟩ := Option.isSome_iff_exists.mp hsome
  have hup : .request session ∈ s.link.up := by
    refine List.mem_map.mpr ⟨o, hmem, ?_⟩
    rw [Outgoing.up, hm, hsession]
    rfl
  exact ⟨hconnected, hsession.trans (congrArg some ((authentic hr).challenge.up_established hest session hup))⟩

/-- The daemon of `guestsOnly` and a Stick without settings, both just started. -/
def started : System where
  host := .new (Config.guestsOnly.displayManifest ⟨"1.0"⟩ 0) (Config.guestsOnly.networkManifest 0) ⟨1⟩ 0
  stick := .boot ⟨"1.0"⟩ .new 0
  toStick := []
  toHost := []
  nonces := [⟨1⟩]
  greeted := []
  accepted := []

theorem started_initial : Initial Config.guestsOnly ⟨"1.0"⟩ ⟨"1.0"⟩ started :=
  ⟨⟨1⟩, .new, 0, by decide, rfl, rfl, rfl, rfl, rfl, rfl⟩

/-- The daemon opens the port, and the Stick, whose button is held down, acknowledges its Hello. -/
def shakeHands : List Action :=
  [.opened 0 ⟨7⟩ [] [], .phase (.hello 0 0) [], .iterate ⟨0, true, [.ok (.hello ⟨"1.0"⟩ ⟨7⟩)], true, 200⟩,
    .iterate ⟨10000, true, [], true, 200⟩, .iterate ⟨10000, true, [], true, 200⟩, .phase .manifest [],
    .phase (.update 0 0) [], .frame 0 ⟨none, none, []⟩ [], .frame 0 ⟨none, none, []⟩ [], .frame 0 ⟨none, none, []⟩ [],
    .phase (.read false) [], .phase .close []]

/-- The daemon sends the manifests and a snapshot without guests, up to the end of its writes. -/
def sendSnapshot (now : Nat) : List Action :=
  [.phase (.collected (.ofGuests "pve" [])) [], .phase (.opened none) [], .phase (.hello now now) [], .phase .manifest [],
    .phase (.update now now) []]

/-- The Stick connects, and its button has been held for long enough. -/
def pressButton : List Action :=
  [.iterate
      ⟨50000, true,
        [.ok (.displayConfig (Config.guestsOnly.displayManifest ⟨"1.0"⟩ 0)),
          .ok (.networkConfig (Config.guestsOnly.networkManifest 0)), .ok (.healthSnapshot (.ofGuests "pve" []))],
        true, 200⟩,
    .iterate ⟨4000000, true, [], true, 200⟩]

theorem request_authentic_pressed :
    let s := (shakeHands ++ sendSnapshot 0 ++ pressButton).foldl (next Config.guestsOnly ⟨"1.0"⟩ ⟨"1.0"⟩) started
    let o : Outgoing := ⟨.shutdownRequested, ⟨.connected, some ⟨7⟩, 1⟩⟩
    o.origin.daemon = .connected ∧ o.origin.daemonSession = some s.host.handshakeNonce :=
  request_authentic (.run (.init started_initial) _ (by decide))
    ⟨by decide, by decide, by decide, nofun⟩ rfl

end Servatory.System
