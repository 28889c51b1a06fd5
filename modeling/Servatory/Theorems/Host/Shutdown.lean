import Servatory.Protocol.Size
import Servatory.Theorems.Host.Writes
import Servatory.Theorems.Stick.Frame

/-! A shutdown from the request to the last report: when the host is asked to power off, what is reported, and what the
    Stick makes of the reports. -/

namespace Servatory

/-! ### The messages fit -/

theorem size_progress (phase : ShutdownPhase) (total remaining : UInt16) :
    Postcard.size (HostMessage.shutdownProgress phase total remaining) ≤ 8 := by
  have htotal : Postcard.varintLen total.toNat ≤ 3 := Postcard.varintLen_le (Nat.lt_trans total.toNat_lt (by decide))
  have hremaining : Postcard.varintLen remaining.toNat ≤ 3 :=
    Postcard.varintLen_le (Nat.lt_trans remaining.toNat_lt (by decide))
  have hphase : Postcard.size phase = 1 := by
    cases phase
    all_goals rfl
  have hsize : Postcard.size (HostMessage.shutdownProgress phase total remaining) =
      1 + Postcard.size (phase, total, remaining) := by
    show (Postcard.varint 2 ++ Postcard.encode (phase, total, remaining)).length = _
    rw [List.length_append]
    rfl
  rw [hsize, Postcard.size_prod, Postcard.size_prod, Postcard.size_uint16, Postcard.size_uint16, hphase]
  omega

theorem size_shutdownFailed (reason : ShutdownFailure) (remaining : UInt16) :
    Postcard.size (HostMessage.shutdownFailed reason remaining) ≤ 8 := by
  have hremaining : Postcard.varintLen remaining.toNat ≤ 3 :=
    Postcard.varintLen_le (Nat.lt_trans remaining.toNat_lt (by decide))
  have hreason : Postcard.size reason = 1 := by
    cases reason
    rfl
  have hsize : Postcard.size (HostMessage.shutdownFailed reason remaining) = 1 + Postcard.size (reason, remaining) := by
    show (Postcard.varint 3 ++ Postcard.encode (reason, remaining)).length = _
    rw [List.length_append]
    rfl
  rw [hsize, Postcard.size_prod, Postcard.size_uint16, hreason]
  omega

/-- Every message about a shutdown can be framed. -/
theorem encodes_of_isShutdown {m : HostMessage} (h : m.IsShutdown) :
    ∃ frame, encodeHost m maxHostFrameLen = .ok frame := by
  have hsize : Postcard.size m ≤ 8 := by
    cases m with
    | shutdownAccepted => decide
    | shutdownProgress phase total remaining => exact size_progress phase total remaining
    | shutdownFailed reason remaining => exact size_shutdownFailed reason remaining
    | healthSnapshot _ => exact h.elim
    | displayConfig _ => exact h.elim
    | hello _ _ => exact h.elim
    | networkConfig _ => exact h.elim
  have hoverhead := frameOverhead_le m
  have hok : (encodeHost m maxHostFrameLen).isOk := by
    rw [encodeHost_isOk_iff, maxHostFrameLen]
    omega
  cases hencode : encodeHost m maxHostFrameLen with
  | ok frame => exact ⟨frame, rfl⟩
  | error error =>
    rw [hencode] at hok
    cases hok

theorem writeHostMessage_eq {m : HostMessage} (h : m.IsShutdown) : writeHostMessage m = writeAll m := by
  obtain ⟨frame, hencode⟩ := encodes_of_isShutdown h
  rw [writeHostMessage, hencode]

/-! ### When the host is asked to power off -/

/-- The operation on the port behind `k` others would succeed. -/
def World.Succeeds (w : World) (k : Nat) : Prop := ∀ sent, w.outcomes[k]? ≠ some (.failed sent)

instance (w : World) (k : Nat) : Decidable (w.Succeeds k) :=
  match h : w.outcomes[k]? with
  | none => .isTrue fun _ hfailed => by cases h.symm.trans hfailed
  | some .written => .isTrue fun _ hfailed => by cases h.symm.trans hfailed
  | some (.failed sent) => .isFalse fun hsucceeds => hsucceeds sent h

/-- Code that makes `k` operations on the port and gives up at the first that fails. The host is not asked to power off. -/
def Attempts (k : Nat) (x : PortM Unit) : Prop :=
  ∀ w : World,
    ((∀ i < k, w.Succeeds i) ∧
        ∃ w', x w = (.ok (), w') ∧ w'.outcomes = w.outcomes.drop k ∧ w'.poweroffs = w.poweroffs) ∨
      (¬(∀ i < k, w.Succeeds i) ∧ ∃ error w', x w = (.error error, w') ∧ w'.poweroffs = w.poweroffs)

namespace Attempts
variable {j k : Nat} {x y : PortM Unit}

theorem pure : Attempts 0 (Pure.pure ()) := fun w => .inl ⟨by simp, w, rfl, rfl, rfl⟩

theorem bind (hx : Attempts j x) (hy : Attempts k y) : Attempts (j + k) (do x; y) := by
  intro w
  rcases hx w with ⟨hall, w', heq, houtcomes, hpoweroffs⟩ | ⟨hnot, error, w', heq, hpoweroffs⟩
  · have hsplit : (∀ i < j + k, w.Succeeds i) ↔ ∀ i < k, w'.Succeeds i := by
      have hshift : ∀ i, w'.Succeeds i ↔ w.Succeeds (j + i) := by
        intro i
        rw [World.Succeeds, World.Succeeds, houtcomes, List.getElem?_drop]
      constructor
      · exact fun h i hi => (hshift i).mpr (h (j + i) (Nat.add_lt_add_left hi j))
      · intro h i hi
        rcases Nat.lt_or_ge i j with hlt | hge
        · exact hall i hlt
        · have := (hshift (i - j)).mp (h (i - j) (by omega))
          rwa [Nat.add_sub_cancel' hge] at this
    rw [bind_ok heq, hsplit]
    rcases hy w' with ⟨hall', w'', heq', houtcomes', hpoweroffs'⟩ | ⟨hnot', error, w'', heq', hpoweroffs'⟩
    · refine .inl ⟨hall', w'', heq', ?_, hpoweroffs'.trans hpoweroffs⟩
      rw [houtcomes', houtcomes, List.drop_drop]
    · exact .inr ⟨hnot', error, w'', heq', hpoweroffs'.trans hpoweroffs⟩
  · rw [bind_error heq]
    exact .inr ⟨fun h => hnot fun i hi => h i (Nat.lt_add_right k hi), error, w', rfl, hpoweroffs⟩

/-- An operation that takes the next outcome. -/
theorem single (hpoweroffs : ∀ w, (x w).2.poweroffs = w.poweroffs)
    (hnil : ∀ w, w.outcomes = [] → (x w).1 = .ok () ∧ (x w).2.outcomes = [])
    (hwritten : ∀ w rest, w.outcomes = .written :: rest → (x w).1 = .ok () ∧ (x w).2.outcomes = rest)
    (hfailed : ∀ w sent rest, w.outcomes = .failed sent :: rest → ∃ error, (x w).1 = .error error) : Attempts 1 x := by
  intro w
  rcases houtcomes : w.outcomes with _ | ⟨_ | sent, rest⟩
  · obtain ⟨hresult, hrest⟩ := hnil w houtcomes
    refine .inl ⟨fun i _ sent hfailed => ?_, _, Prod.ext hresult rfl, hrest, hpoweroffs w⟩
    rw [houtcomes] at hfailed
    cases hfailed
  · obtain ⟨hresult, hrest⟩ := hwritten w rest houtcomes
    refine .inl ⟨fun i hi sent hfailed => ?_, _, Prod.ext hresult rfl, hrest, hpoweroffs w⟩
    rw [houtcomes, Nat.lt_one_iff.mp hi] at hfailed
    cases hfailed
  · obtain ⟨error, hresult⟩ := hfailed w sent rest houtcomes
    refine .inr ⟨fun hall => hall 0 Nat.one_pos sent ?_, error, _, Prod.ext hresult rfl, hpoweroffs w⟩
    rw [houtcomes]
    rfl

theorem writeAll (m : HostMessage) : Attempts 1 (writeAll m) := by
  refine single (fun w => ?_) (fun w h => ?_) (fun w rest h => ?_) fun w sent rest h => ?_
  all_goals rw [Servatory.writeAll]
  · split <;> rfl
  · rw [h]
    exact ⟨rfl, rfl⟩
  · rw [h]
    exact ⟨rfl, rfl⟩
  · rw [h]
    exact ⟨.failed, rfl⟩

theorem flush : Attempts 1 flush := by
  refine single (fun w => ?_) (fun w h => ?_) (fun w rest h => ?_) fun w sent rest h => ?_
  all_goals rw [Servatory.flush]
  · split <;> rfl
  · rw [h]
    exact ⟨rfl, h⟩
  · rw [h]
    exact ⟨rfl, rfl⟩
  · rw [h]
    exact ⟨.failed, rfl⟩

theorem writeFlushed {m : HostMessage} (h : m.IsShutdown) : Attempts 2 (do writeHostMessage m; Servatory.flush) := by
  rw [writeHostMessage_eq h]
  exact (writeAll m).bind flush

theorem writeShutdownProgress (phase : ShutdownPhase) (total remaining : UInt16) :
    Attempts 2 (writeShutdownProgress phase total remaining) := writeFlushed trivial

theorem reportInitial (initial : Option UInt16) : Attempts (if initial.isSome then 2 else 0) (reportInitial initial) := by
  cases initial with
  | none => exact .pure
  | some initial => exact writeShutdownProgress _ _ _

end Attempts

/-- Reports do not ask the host to power off. -/
theorem kept_poweroffs : Kept fun w w' => w'.poweroffs = w.poweroffs where
  refl _ := rfl
  trans h h' := h'.trans h
  writeHostMessage m hm w := by
    rw [writeHostMessage_eq hm]
    rcases Attempts.writeAll m w with ⟨-, w', heq, -, h⟩ | ⟨-, error, w', heq, h⟩
    · rw [heq, h]
    · rw [heq, h]
  flush w := by
    rcases Attempts.flush w with ⟨-, w', heq, -, h⟩ | ⟨-, error, w', heq, h⟩
    · rw [heq, h]
    · rw [heq, h]

/-- How many operations on the port come before the host is asked to power off. -/
def ShutdownHost.reportsFirst (host : ShutdownHost) : Nat := 2 + if host.initial.isSome then 2 else 0

/-- The host is asked to power off exactly when what is reported before succeeds. -/
theorem poweroff_poweroffs (host : ShutdownHost) (w : World) :
    ((∀ i < host.reportsFirst, w.Succeeds i) ∧ (poweroff host w).2.poweroffs = w.poweroffs + 1) ∨
      (¬(∀ i < host.reportsFirst, w.Succeeds i) ∧ (poweroff host w).2.poweroffs = w.poweroffs) := by
  have hparts : poweroff host = (writeShutdownProgress .preparingGuests 0 0 >>= fun _ => reportInitial host.initial) >>=
      fun _ => systemPoweroff >>= fun _ => reportOutcome host := by rw [poweroff_eq, bind_assoc]
  have hreports := (Attempts.writeShutdownProgress .preparingGuests 0 0).bind (.reportInitial host.initial)
  rw [hparts]
  rcases hreports w with ⟨hall, w', heq, -, hpoweroffs⟩ | ⟨hnot, error, w', heq, hpoweroffs⟩
  · have hasked : systemPoweroff w' = (.ok (), { w' with poweroffs := w'.poweroffs + 1 }) := rfl
    rw [bind_ok heq, bind_ok hasked, kept_poweroffs.reportOutcome host]
    exact .inl ⟨hall, congrArg (· + 1) hpoweroffs⟩
  · rw [bind_error heq]
    exact .inr ⟨hnot, hpoweroffs⟩

/-- Handling a request whose acknowledgement goes out is asking the host to power off. -/
theorem handle_acknowledged (host : ShutdownHost) {w : World} (haccepted : w.Succeeds 0 ∧ w.Succeeds 1) :
    ∃ w' : World, (EventHandler.handle true host .shutdownRequested w).2 = (poweroff host w').2 ∧
      w'.outcomes = w.outcomes.drop 2 ∧ w'.poweroffs = w.poweroffs := by
  have hparts : EventHandler.handle true host .shutdownRequested =
      (writeHostMessage .shutdownAccepted >>= fun _ => flush) >>= fun _ =>
        (MonadExcept.tryCatch (do return (← poweroff host) == .requested) fun _ => return false : PortM Bool) := by
    rw [EventHandler.handle, if_pos rfl, bind_assoc]
  rcases Attempts.writeFlushed (m := .shutdownAccepted) trivial w with ⟨-, w', heq, houtcomes, hpoweroffs⟩ | ⟨hnot, -⟩
  · refine ⟨w', ?_, houtcomes, hpoweroffs⟩
    rw [hparts, bind_ok heq]
    rcases hresult : poweroff host w' with ⟨error | outcome, w''⟩
    · rw [tryCatch_error (bind_error hresult _)]
      rfl
    · have hreturn : (do return (← poweroff host) == .requested : PortM Bool) w' = (.ok (outcome == .requested), w'') :=
        bind_ok hresult _
      rw [tryCatch_ok hreturn]
  · refine absurd (fun i hi => ?_) hnot
    rcases Nat.lt_succ_iff_lt_or_eq.mp hi with hlt | rfl
    · exact Nat.lt_one_iff.mp hlt ▸ haccepted.1
    · exact haccepted.2

/-- Of a request whose acknowledgement is written and flushed, the host is asked to power off exactly when the first
    report, and where the guests can be counted the second, are written and flushed too: whatever becomes of the count
    of the guests, and of all that is reported later. -/
theorem handle_poweroffs_iff (host : ShutdownHost) (w : World) (haccepted : w.Succeeds 0 ∧ w.Succeeds 1) :
    ((EventHandler.handle true host .shutdownRequested w).2.poweroffs = w.poweroffs + 1 ↔
        w.Succeeds 2 ∧ w.Succeeds 3 ∧ (host.initial.isSome → w.Succeeds 4 ∧ w.Succeeds 5)) ∧
      ((EventHandler.handle true host .shutdownRequested w).2.poweroffs = w.poweroffs ↔
        ¬(w.Succeeds 2 ∧ w.Succeeds 3 ∧ (host.initial.isSome → w.Succeeds 4 ∧ w.Succeeds 5))) := by
  obtain ⟨w', heq, houtcomes, hpoweroffs⟩ := handle_acknowledged host haccepted
  have hshift : ∀ i, w'.Succeeds i ↔ w.Succeeds (2 + i) := by
    intro i
    rw [World.Succeeds, World.Succeeds, houtcomes, List.getElem?_drop]
  have hreports : (∀ i < host.reportsFirst, w'.Succeeds i) ↔
      w.Succeeds 2 ∧ w.Succeeds 3 ∧ (host.initial.isSome → w.Succeeds 4 ∧ w.Succeeds 5) := by
    rw [ShutdownHost.reportsFirst]
    rcases host.initial with _ | initial
    · show (∀ i < 2, w'.Succeeds i) ↔ _
      constructor
      · intro h
        exact ⟨(hshift 0).mp (h 0 (by decide)), (hshift 1).mp (h 1 (by decide)), by rintro ⟨⟩⟩
      · rintro ⟨h2, h3, -⟩ i hi
        rcases i with _ | _ | i
        · exact (hshift 0).mpr h2
        · exact (hshift 1).mpr h3
        · exact absurd hi (Nat.not_lt.mpr (Nat.le_add_left 2 i))
    · show (∀ i < 4, w'.Succeeds i) ↔ _
      constructor
      · intro h
        exact ⟨(hshift 0).mp (h 0 (by decide)), (hshift 1).mp (h 1 (by decide)), fun _ =>
          ⟨(hshift 2).mp (h 2 (by decide)), (hshift 3).mp (h 3 (by decide))⟩⟩
      · rintro ⟨h2, h3, hrest⟩ i hi
        obtain ⟨h4, h5⟩ := hrest rfl
        rcases i with _ | _ | _ | _ | i
        · exact (hshift 0).mpr h2
        · exact (hshift 1).mpr h3
        · exact (hshift 2).mpr h4
        · exact (hshift 3).mpr h5
        · exact absurd hi (Nat.not_lt.mpr (Nat.le_add_left 4 i))
  rw [heq]
  rcases poweroff_poweroffs host w' with ⟨hall, hcount⟩ | ⟨hnot, hcount⟩
  · rw [hcount, hpoweroffs, ← hreports]
    exact ⟨⟨fun _ => hall, fun _ => rfl⟩, ⟨fun h => absurd h (Nat.succ_ne_self _), fun h => absurd hall h⟩⟩
  · rw [hcount, hpoweroffs, ← hreports]
    exact ⟨⟨fun h => absurd h (Nat.succ_ne_self _).symm, fun h => absurd h hnot⟩, ⟨fun _ => hnot, fun _ => rfl⟩⟩

/-- Two guests run, and one is left when they are counted again. -/
def twoGuests : ShutdownHost := ⟨some 2, some true, [1, 0]⟩

theorem handle_poweroffs_iff_twoGuests :
    (EventHandler.handle true twoGuests .shutdownRequested (World.new [])).2.poweroffs = 1 :=
  (handle_poweroffs_iff twoGuests (World.new []) (by decide)).1.mpr (by decide)

/-- The acknowledgement goes out, the first report fails, and the host is not asked to power off. -/
theorem handle_cancelled :
    let w := World.new [.written, .written, .failed false]
    (w.Succeeds 0 ∧ w.Succeeds 1) ∧
      (EventHandler.handle true twoGuests .shutdownRequested w).2.written = [.shutdownAccepted] ∧
      (EventHandler.handle true twoGuests .shutdownRequested w).2.poweroffs = 0 := by
  refine ⟨by decide, by decide, by decide⟩

/-! ### What is reported when nothing fails -/

/-- Every operation on the port that is still to come succeeds. -/
def World.Reliable (w : World) : Prop := ∀ outcome ∈ w.outcomes, outcome = .written

/-- Where no write fails, code ends with a value and has written some messages. -/
def Emits {α : Type} (messages : List HostMessage) (a : α) (x : PortM α) : Prop :=
  ∀ w : World, w.Reliable → ∃ w', x w = (.ok a, w') ∧ w'.Reliable ∧ w'.written = w.written ++ messages

namespace Emits
variable {α β : Type} {messages more : List HostMessage} {a : α} {b : β}

theorem pure (a : α) : Emits [] a (Pure.pure a : PortM α) :=
  fun w h => ⟨w, rfl, h, (List.append_nil _).symm⟩

theorem bind {x : PortM α} {f : α → PortM β} (hx : Emits messages a x) (hf : Emits more b (f a)) :
    Emits (messages ++ more) b (x >>= f) := by
  intro w h
  obtain ⟨w', heq, h', hwritten⟩ := hx w h
  obtain ⟨w'', heq', h'', hwritten'⟩ := hf w' h'
  refine ⟨w'', by rw [bind_ok heq, heq'], h'', ?_⟩
  rw [hwritten', hwritten, List.append_assoc]

theorem tryCatch {x : PortM α} {f : PortError → PortM α} (hx : Emits messages a x) :
    Emits messages a (MonadExcept.tryCatch x f) := by
  intro w h
  obtain ⟨w', heq, h', hwritten⟩ := hx w h
  exact ⟨w', tryCatch_ok heq f, h', hwritten⟩

theorem writeAll (m : HostMessage) : Emits [m] () (writeAll m) := by
  intro w h
  rw [Servatory.writeAll]
  rcases houtcomes : w.outcomes with _ | ⟨outcome, rest⟩
  · exact ⟨_, rfl, by simp [World.Reliable], rfl⟩
  · have hall : ∀ o ∈ outcome :: rest, o = .written := houtcomes ▸ h
    obtain rfl := hall outcome (List.mem_cons_self ..)
    exact ⟨_, rfl, fun o ho => hall o (List.mem_cons_of_mem _ ho), rfl⟩

theorem flush : Emits [] () flush := by
  intro w h
  rw [Servatory.flush]
  rcases houtcomes : w.outcomes with _ | ⟨outcome, rest⟩
  · exact ⟨w, rfl, h, (List.append_nil _).symm⟩
  · have hall : ∀ o ∈ outcome :: rest, o = .written := houtcomes ▸ h
    obtain rfl := hall outcome (List.mem_cons_self ..)
    exact ⟨_, rfl, fun o ho => hall o (List.mem_cons_of_mem _ ho), (List.append_nil _).symm⟩

theorem writeFlushed {m : HostMessage} (h : m.IsShutdown) : Emits [m] () (do writeHostMessage m; Servatory.flush) := by
  rw [writeHostMessage_eq h]
  exact (writeAll m).bind flush

end Emits

/-- The counts that are read while the guests stop: up to the first that is zero. -/
def readCounts : List UInt16 → List UInt16
  | [] => []
  | remaining :: later => if remaining = 0 then [0] else remaining :: readCounts later

/-- The last count that is known. -/
def lastKnown (total : UInt16) (later : List UInt16) : UInt16 := (readCounts later).getLast?.getD total

/-- The reports of a shutdown. -/
def shutdownMessages (host : ShutdownHost) : List HostMessage :=
  .shutdownProgress .preparingGuests 0 0 ::
    match host.initial, host.systemctl with
    | none, some true => [.shutdownProgress .poweringOff 0 0]
    | some total, some true =>
      .shutdownProgress .stoppingGuests total total ::
        ((readCounts host.later).map (.shutdownProgress .stoppingGuests total) ++
          ((if lastKnown total host.later = 0 then [.shutdownProgress .guestsStopped total 0] else []) ++
            [.shutdownProgress .poweringOff total (lastKnown total host.later)]))
    | none, _ => [.shutdownFailed .hostPoweroff 0]
    | some total, _ => [.shutdownProgress .stoppingGuests total total, .shutdownFailed .hostPoweroff total]

namespace Emits

theorem writeShutdownProgress (phase : ShutdownPhase) (total remaining : UInt16) :
    Emits [.shutdownProgress phase total remaining] () (writeShutdownProgress phase total remaining) :=
  writeFlushed trivial

theorem reportShutdownFailure (reason : ShutdownFailure) (remaining : UInt16) (outcome : Poweroff) :
    Emits [.shutdownFailed reason remaining] outcome (reportShutdownFailure reason remaining outcome) := by
  have hreport : Emits [.shutdownFailed reason remaining] () (writeShutdownFailure reason remaining) :=
    writeFlushed trivial
  exact hreport.tryCatch.bind (.pure outcome)

/-- The guests are counted until one count fails, or none are left. -/
theorem monitor (total last : UInt16) (later : List UInt16) :
    Emits ((readCounts later).map (.shutdownProgress .stoppingGuests total)) ((readCounts later).getLast?.getD last)
      (monitorSystemGuestShutdown total last later) := by
  induction later generalizing last with
  | nil => exact .pure last
  | cons remaining later ih =>
    rw [monitorSystemGuestShutdown, readCounts]
    split
    · rename_i hzero
      subst hzero
      exact (writeShutdownProgress .stoppingGuests total 0).bind (.pure 0)
    · have hlast : (remaining :: readCounts later).getLast?.getD last = (readCounts later).getLast?.getD remaining := by
        rw [List.getLast?_cons, Option.getD_some]
      rw [hlast, List.map_cons]
      exact (writeShutdownProgress .stoppingGuests total remaining).bind (ih remaining)

theorem reportGuestsStopped (total remaining : UInt16) :
    Emits (if remaining = 0 then [.shutdownProgress .guestsStopped total 0] else []) ()
      (reportGuestsStopped total remaining) := by
  rw [Servatory.reportGuestsStopped]
  split
  · exact writeShutdownProgress _ _ _
  · exact .pure ()

theorem systemPoweroff : Emits [] () systemPoweroff := fun _ h => ⟨_, rfl, h, (List.append_nil _).symm⟩

theorem poweroff (host : ShutdownHost) : ∃ outcome, Emits (shutdownMessages host) outcome (poweroff host) := by
  have hpreparing := writeShutdownProgress .preparingGuests 0 0
  rw [poweroff_eq, shutdownMessages]
  obtain ⟨initial, systemctl, later⟩ := host
  rcases initial with _ | total
  · rcases systemctl with _ | _ | _
    · exact ⟨_, hpreparing.bind ((Emits.pure ()).bind (systemPoweroff.bind (reportShutdownFailure _ 0 _)))⟩
    · exact ⟨_, hpreparing.bind ((Emits.pure ()).bind (systemPoweroff.bind (reportShutdownFailure _ 0 _)))⟩
    · exact ⟨_, hpreparing.bind ((Emits.pure ()).bind (systemPoweroff.bind
        ((writeShutdownProgress .poweringOff 0 0).bind (.pure Poweroff.requested))))⟩
  · have hinitial := writeShutdownProgress .stoppingGuests total total
    rcases systemctl with _ | _ | _
    · exact ⟨_, hpreparing.bind (hinitial.bind (systemPoweroff.bind (reportShutdownFailure _ total _)))⟩
    · exact ⟨_, hpreparing.bind (hinitial.bind (systemPoweroff.bind (reportShutdownFailure _ total _)))⟩
    · have hreport : Emits _ () (reportPoweroff (some total) later) := (monitor total total later).bind
        ((reportGuestsStopped total _).bind (writeShutdownProgress .poweringOff total _))
      have hrequested : Emits _ _ (do reportPoweroff (some total) later; return Poweroff.requested : PortM Poweroff) :=
        hreport.bind (.pure Poweroff.requested)
      rw [List.append_nil] at hrequested
      exact ⟨_, hpreparing.bind (hinitial.bind (systemPoweroff.bind hrequested))⟩

/-- While guests are left the loop goes on. -/
theorem monitor_append {w : World} (h : w.Reliable) {total last : UInt16} {counts : List UInt16} (later : List UInt16)
    (hleft : ∀ remaining ∈ counts, remaining ≠ 0) :
    ∃ w', monitorSystemGuestShutdown total last (counts ++ later) w =
        monitorSystemGuestShutdown total (counts.getLast?.getD last) later w' ∧ w'.Reliable ∧
      w'.written = w.written ++ counts.map (.shutdownProgress .stoppingGuests total) := by
  induction counts generalizing w last with
  | nil => exact ⟨w, rfl, h, (List.append_nil _).symm⟩
  | cons remaining counts ih =>
    obtain ⟨w', heq, h', hwritten⟩ := writeShutdownProgress .stoppingGuests total remaining w h
    obtain ⟨w'', hgoes, h'', hwritten'⟩ := ih h' fun r hr => hleft r (List.mem_cons_of_mem _ hr)
    refine ⟨w'', ?_, h'', ?_⟩
    · rw [List.cons_append, monitorSystemGuestShutdown, bind_ok heq, if_neg (hleft remaining (List.mem_cons_self ..)),
        hgoes, List.getLast?_cons, Option.getD_some]
    · rw [hwritten', hwritten, List.append_assoc]
      rfl

end Emits

/-! ### What the Stick shows -/

/-- The guests that a message about a shutdown says are left. -/
def HostMessage.guestsRemaining : HostMessage → UInt16
  | .shutdownProgress _ _ remaining => remaining
  | .shutdownFailed _ remaining => remaining
  | _ => 0

/-- A message about a shutdown, which counts no guests in the phases that show none. -/
def HostMessage.Counted : HostMessage → Prop
  | .shutdownAccepted => True
  | .shutdownProgress .preparingGuests _ remaining => remaining = 0
  | .shutdownProgress .guestsStopped _ remaining => remaining = 0
  | .shutdownProgress _ _ _ => True
  | .shutdownFailed _ _ => True
  | _ => False

theorem counted_of_mem {host : ShutdownHost} {m : HostMessage} (h : m ∈ shutdownMessages host) : m.Counted := by
  have hcounts : ∀ total : UInt16, ∀ counts : List UInt16, ∀ m ∈ counts.map (HostMessage.shutdownProgress .stoppingGuests total),
      m.Counted := by
    intro total counts m hm
    obtain ⟨remaining, -, rfl⟩ := List.mem_map.mp hm
    trivial
  obtain ⟨initial, systemctl, later⟩ := host
  rw [shutdownMessages] at h
  rcases List.mem_cons.mp h with rfl | h
  · exact rfl
  · rcases initial with _ | total
    · rcases systemctl with _ | _ | _
      all_goals
        rw [List.mem_singleton.mp h]
        trivial
    · rcases systemctl with _ | _ | _
      · rcases List.mem_cons.mp h with rfl | h
        · trivial
        · rw [List.mem_singleton.mp h]
          trivial
      · rcases List.mem_cons.mp h with rfl | h
        · trivial
        · rw [List.mem_singleton.mp h]
          trivial
      · rcases List.mem_cons.mp h with rfl | h
        · trivial
        · rcases List.mem_append.mp h with h | h
          · exact hcounts total _ m h
          · rcases List.mem_append.mp h with h | h
            · split at h
              · rw [List.mem_singleton.mp h]
                exact rfl
              · cases h
            · rw [List.mem_singleton.mp h]
              trivial

namespace Stick
variable {build : SoftwareVersion} {s : Stick} {remaining : UInt16}

/-- The Stick shows a shutdown with some guests left. -/
structure Shows (remaining : UInt16) (s : Stick) : Prop where
  daemon : s.daemon = .poweringOff
  session : s.daemonSession.isSome
  shown : shutdownRemaining s.shutdownDisplay = remaining

theorem shows_handle (hsession : s.daemonSession.isSome) (now : Nat) {m : HostMessage} (hm : m.Counted) :
    Shows m.guestsRemaining (s.handle build now m) := by
  have hnot : ¬s.daemonSession.isNone = true := by
    rw [Option.isNone_iff_eq_none]
    rintro hnone
    rw [hnone] at hsession
    cases hsession
  have hhandle : ∀ m : HostMessage, m.Counted → s.handle build now m = s.handleSession now m := by
    intro m hm
    cases m with
    | hello _ _ => exact hm.elim
    | _ => exact if_neg hnot
  rw [hhandle m hm]
  cases m with
  | shutdownAccepted => exact ⟨rfl, hsession, rfl⟩
  | shutdownFailed reason remaining => exact ⟨rfl, hsession, rfl⟩
  | shutdownProgress phase total remaining =>
    cases phase with
    | preparingGuests => exact ⟨rfl, hsession, Eq.symm hm⟩
    | stoppingGuests => exact ⟨rfl, hsession, rfl⟩
    | guestsStopped => exact ⟨rfl, hsession, Eq.symm hm⟩
    | poweringOff => exact ⟨rfl, hsession, rfl⟩
  | healthSnapshot _ => exact hm.elim
  | displayConfig _ => exact hm.elim
  | hello _ _ => exact hm.elim
  | networkConfig _ => exact hm.elim

theorem shows_begin (h : Shows remaining s) (i : Input) : Shows remaining (s.begin build i) where
  daemon := (congrArg Core.daemon (core_begin build s i)).trans h.daemon
  session := (congrArg (·.daemonSession.isSome) (core_begin build s i)).trans h.session
  shown := by rw [shutdownDisplay_begin, h.shown]

/-- Whatever times out, the guests that are left stay on the screen. -/
theorem shows_finish (h : Shows remaining s) (i : Input) : Shows remaining (s.finish i) := by
  have hlink : s.checkLink i.now = s := by
    rw [checkLink, if_neg]
    rintro ⟨hconnected, -⟩
    rw [h.daemon] at hconnected
    cases hconnected
  have hcore := core_finish s i
  rw [hlink] at hcore
  exact ⟨(congrArg Core.daemon hcore).trans h.daemon, (congrArg (·.daemonSession.isSome) hcore).trans h.session, by
    rw [remaining_finish, h.shown]⟩

/-- The guests that are left after some messages. -/
def leftAfter (remaining : UInt16) (messages : List HostMessage) : UInt16 :=
  (messages.getLast?.map (·.guestsRemaining)).getD remaining

theorem leftAfter_append (remaining : UInt16) (messages more : List HostMessage) :
    leftAfter remaining (messages ++ more) = leftAfter (leftAfter remaining messages) more := by
  rcases List.eq_nil_or_concat more with rfl | ⟨rest, m, rfl⟩
  · rw [List.append_nil]
    rfl
  · rw [List.concat_eq_append, ← List.append_assoc, leftAfter, leftAfter, List.getLast?_concat, List.getLast?_concat]
    rfl

theorem shows_frames {messages : List HostMessage} (now : Nat) (h : Shows remaining s)
    (hcounted : ∀ m ∈ messages, m.Counted) :
    Shows (leftAfter remaining messages)
      ((messages.map Except.ok).foldl (fun s frame => s.receive build now frame) s) := by
  induction messages generalizing s remaining with
  | nil => exact h
  | cons m rest ih =>
    have hm := @shows_handle build s h.session now m (hcounted m (List.mem_cons_self ..))
    have hleft : leftAfter remaining (m :: rest) = leftAfter m.guestsRemaining rest := leftAfter_append remaining [m] rest
    rw [hleft]
    exact ih hm fun m' hm' => hcounted m' (List.mem_cons_of_mem m hm')

theorem shows_iterate {messages : List HostMessage} {i : Input} (h : Shows remaining s)
    (hframes : i.frames = messages.map Except.ok) (hcounted : ∀ m ∈ messages, m.Counted) :
    Shows (leftAfter remaining messages) (s.iterate build i).1 := by
  have hreceived : Shows (leftAfter remaining messages) (s.received build i) := by
    rw [received, hframes]
    exact shows_frames i.now (shows_begin h i) hcounted
  have hfinished := shows_finish hreceived i
  exact ⟨hfinished.daemon, hfinished.session, hfinished.shown⟩

/-- A run that brings some messages, in whatever iterations, ends with what the last of them says. -/
theorem shows_run {inputs : List Input} {messages : List HostMessage} (h : Shows remaining s)
    (hframes : inputs.flatMap (·.frames) = messages.map Except.ok) (hcounted : ∀ m ∈ messages, m.Counted) :
    Shows (leftAfter remaining messages) (s.run build inputs) := by
  induction inputs generalizing s remaining messages with
  | nil =>
    obtain rfl := List.map_eq_nil_iff.mp hframes.symm
    exact h
  | cons i inputs ih =>
    rw [List.flatMap_cons] at hframes
    obtain ⟨first, rest, rfl, hfirst, hrest⟩ := List.map_eq_append_iff.mp hframes.symm
    rw [leftAfter_append]
    refine ih (shows_iterate h hfirst.symm fun m hm => hcounted m (List.mem_append_left rest hm)) hrest.symm ?_
    exact fun m hm => hcounted m (List.mem_append_right first hm)

/-- The acknowledgement opens the screen of a shutdown, whatever was there before. -/
theorem shows_accepted {i : Input} {inputs : List Input} {frames : List (Except ProtocolError HostMessage)}
    {messages : List HostMessage} (hsession : s.daemonSession.isSome) (haccepted : i.frames = .ok .shutdownAccepted :: frames)
    (hframes : (i :: inputs).flatMap (·.frames) = (HostMessage.shutdownAccepted :: messages).map Except.ok)
    (hcounted : ∀ m ∈ messages, m.Counted) : Shows (leftAfter 0 messages) (s.run build (i :: inputs)) := by
  rw [List.flatMap_cons, haccepted, List.map_cons, List.cons_append] at hframes
  obtain ⟨first, rest, rfl, hfirst, hrest⟩ := List.map_eq_append_iff.mp (List.cons.inj hframes).2.symm
  have hbegin : (s.begin build i).daemonSession.isSome :=
    (congrArg (·.daemonSession.isSome) (core_begin build s i)).trans hsession
  have hreceived : Shows (leftAfter 0 first) (s.received build i) := by
    have hfirst' : Shows 0 ((s.begin build i).handle build i.now .shutdownAccepted) :=
      @shows_handle build _ hbegin i.now .shutdownAccepted trivial
    rw [received, haccepted, List.foldl_cons, ← hfirst]
    exact shows_frames i.now hfirst' fun m hm => hcounted m (List.mem_append_left rest hm)
  have hfinished := shows_finish hreceived i
  have hiterate : Shows (leftAfter 0 first) (s.iterate build i).1 :=
    ⟨hfinished.daemon, hfinished.session, hfinished.shown⟩
  have hrun : s.run build (i :: inputs) = (s.iterate build i).1.run build inputs := rfl
  rw [leftAfter_append, hrun]
  exact shows_run hiterate hrest.symm fun m hm => hcounted m (List.mem_append_right first hm)

end Stick

/-- Where no write fails, asking for a shutdown reports it from the preparation to the last count, or to the failure; while
    guests are left the reports go on. And the Stick, once it has the acknowledgement and some of these reports, shows the
    guests that the last one says are left, whatever else its loop goes through and whatever times out. -/
theorem shutdown_reported (host : ShutdownHost) {w : World} (hreliable : w.Reliable) :
    (poweroff host w).2.written = w.written ++ shutdownMessages host ∧
      (∀ (total last : UInt16) (counts later : List UInt16), (∀ remaining ∈ counts, remaining ≠ 0) →
        ∃ w' : World, monitorSystemGuestShutdown total last (counts ++ later) w =
            monitorSystemGuestShutdown total (counts.getLast?.getD last) later w' ∧
          w'.written = w.written ++ counts.map (.shutdownProgress .stoppingGuests total)) ∧
      ∀ (build : SoftwareVersion) (s : Stick) (i : Input) (inputs : List Input)
        (frames : List (Except ProtocolError HostMessage)) (processed : List HostMessage),
        s.daemonSession.isSome → processed <+: shutdownMessages host → i.frames = .ok .shutdownAccepted :: frames →
          (i :: inputs).flatMap (·.frames) = (HostMessage.shutdownAccepted :: processed).map Except.ok →
          shutdownRemaining (s.run build (i :: inputs)).shutdownDisplay =
            (processed.getLast?.getD .shutdownAccepted).guestsRemaining := by
  refine ⟨?_, fun total last counts later hleft => ?_, ?_⟩
  · obtain ⟨outcome, hemits⟩ := Emits.poweroff host
    obtain ⟨w', heq, -, hwritten⟩ := hemits w hreliable
    rw [heq, hwritten]
  · obtain ⟨w', hgoes, -, hwritten⟩ := @Emits.monitor_append w hreliable total last counts later hleft
    exact ⟨w', hgoes, hwritten⟩
  · intro build s i inputs frames processed hsession hsome haccepted hframes
    have hshows := @Stick.shows_accepted build s i inputs frames processed hsession haccepted hframes fun m hm =>
      counted_of_mem (hsome.subset hm)
    rw [hshows.shown, Stick.leftAfter]
    cases processed.getLast? with
    | none => rfl
    | some m => rfl

/-- A Stick in a session. -/
def inSession : Stick := (Stick.boot ⟨"1.0"⟩ .new 0).handle ⟨"1.0"⟩ 0 (.hello ⟨"1.0"⟩ ⟨7⟩)

/-- Behind the acknowledgement come two reports, and then nothing for a minute. -/
theorem shutdown_reported_twoGuests :
    shutdownRemaining (inSession.run ⟨"1.0"⟩
        [⟨1000, true, [.ok .shutdownAccepted, .ok (.shutdownProgress .preparingGuests 0 0)], false, 0⟩,
          ⟨2000, true, [.ok (.shutdownProgress .stoppingGuests 2 2)], false, 0⟩, ⟨60000000, false, [], false, 0⟩,
          ⟨63000000, false, [], false, 0⟩]).shutdownDisplay = 2 :=
  (@shutdown_reported twoGuests (World.new []) (by simp [World.Reliable, World.new])).2.2 _ _ _ _ _
    [.shutdownProgress .preparingGuests 0 0, .shutdownProgress .stoppingGuests 2 2] rfl ⟨_, rfl⟩ rfl rfl

end Servatory
