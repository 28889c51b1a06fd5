import Servatory.Host.Main

/-! What the daemon writes. A write puts its message behind the others when it succeeds; when it fails the
    message may have gone out or not. The shutdown writes nothing but the progress of the shutdown. -/

namespace Servatory

/-- After some more messages, all with a property. -/
structure World.Extends (P : HostMessage → Prop) (w w' : World) : Prop where
  sent : ∃ more, w'.sent = w.sent ++ more ∧ ∀ m ∈ more, P m
  written : ∃ more, w'.written = w.written ++ more ∧ ∀ m ∈ more, P m

namespace World.Extends
variable {P : HostMessage → Prop} {w w' w'' : World}

theorem of_eq (hs : w'.sent = w.sent) (hw : w'.written = w.written) : Extends P w w' :=
  ⟨⟨[], by rw [hs, List.append_nil], by simp⟩, ⟨[], by rw [hw, List.append_nil], by simp⟩⟩

theorem refl : Extends P w w := of_eq rfl rfl

theorem mono {Q : HostMessage → Prop} (h : Extends P w w') (hPQ : ∀ m, P m → Q m) : Extends Q w w' := by
  obtain ⟨s, hs, hsP⟩ := h.sent
  obtain ⟨t, ht, htP⟩ := h.written
  exact ⟨⟨s, hs, fun m hm => hPQ m (hsP m hm)⟩, ⟨t, ht, fun m hm => hPQ m (htP m hm)⟩⟩

theorem trans (h : Extends P w w') (h' : Extends P w' w'') : Extends P w w'' := by
  obtain ⟨s, hs, hsP⟩ := h.sent
  obtain ⟨t, ht, htP⟩ := h'.sent
  obtain ⟨u, hu, huP⟩ := h.written
  obtain ⟨v, hv, hvP⟩ := h'.written
  refine ⟨⟨s ++ t, by rw [ht, hs, List.append_assoc], ?_⟩, ⟨u ++ v, by rw [hv, hu, List.append_assoc], ?_⟩⟩
  · intro m hm
    rcases List.mem_append.mp hm with hm | hm
    · exact hsP m hm
    · exact htP m hm
  · intro m hm
    rcases List.mem_append.mp hm with hm | hm
    · exact huP m hm
    · exact hvP m hm

end World.Extends

/-! ### One write -/

namespace World

/-- After a write that succeeded. -/
def wrote (w : World) (outcomes : List WriteOutcome) (m : HostMessage) : World :=
  { w with outcomes, sent := w.sent ++ [m], written := w.written ++ [m] }

/-- After a write that failed. -/
def failed (w : World) (outcomes : List WriteOutcome) (went : Bool) (m : HostMessage) : World :=
  { w with outcomes, sent := w.sent ++ if went then [m] else [] }

variable {P : HostMessage → Prop} (w : World) (outcomes : List WriteOutcome) (went : Bool) (m : HostMessage)

@[simp] theorem written_wrote : (w.wrote outcomes m).written = w.written ++ [m] := rfl
@[simp] theorem written_failed : (w.failed outcomes went m).written = w.written := rfl

theorem extends_wrote (hm : P m) : w.Extends P (w.wrote outcomes m) :=
  ⟨⟨[m], rfl, by simpa using hm⟩, ⟨[m], rfl, by simpa using hm⟩⟩

theorem extends_failed (hm : P m) : w.Extends P (w.failed outcomes went m) := by
  refine ⟨⟨if went then [m] else [], rfl, ?_⟩, ⟨[], (List.append_nil _).symm, by simp⟩⟩
  intro x hx
  split at hx
  · obtain rfl := List.mem_singleton.mp hx
    exact hm
  · cases hx

end World

/-- The result of a write: it succeeds, or it fails. -/
theorem writeHostMessage_cases (m : HostMessage) (w : World) :
    (∃ outcomes, writeHostMessage m w = (.ok (), w.wrote outcomes m)) ∨
      ∃ error outcomes went, writeHostMessage m w = (.error error, w.failed outcomes went m) := by
  cases hencode : encodeHost m maxHostFrameLen with
  | error error =>
    refine .inr ⟨.encoding error, w.outcomes, false, ?_⟩
    simp only [writeHostMessage, hencode, World.failed, Bool.false_eq_true, ↓reduceIte, List.append_nil]
    rfl
  | ok _ =>
    simp only [writeHostMessage, hencode]
    unfold writeAll
    split
    · exact .inl ⟨_, rfl⟩
    · exact .inl ⟨_, rfl⟩
    · rename_i sent outcomes _
      refine .inr ⟨.failed, outcomes, sent, ?_⟩
      cases sent
      · simp [World.failed]
      · simp [World.failed]

/-! ### Code that uses the port -/

theorem bind_ok {α β : Type} {x : PortM α} {w w' : World} {a : α} (h : x w = (.ok a, w')) (f : α → PortM β) :
    (x >>= f) w = f a w' := by
  show ExceptT.bindCont f (x w).1 (x w).2 = _
  rw [h]
  rfl

theorem bind_error {α β : Type} {x : PortM α} {w w' : World} {e : PortError} (h : x w = (.error e, w')) (f : α → PortM β) :
    (x >>= f) w = (.error e, w') := by
  show ExceptT.bindCont f (x w).1 (x w).2 = _
  rw [h]
  rfl

theorem tryCatch_ok {α : Type} {x : PortM α} {w w' : World} {a : α} (h : x w = (.ok a, w')) (f : PortError → PortM α) :
    (MonadExcept.tryCatch x f : PortM α) w = (.ok a, w') := by
  simp only [MonadExcept.tryCatch, tryCatchThe, MonadExceptOf.tryCatch, ExceptT.tryCatch, ExceptT.mk, Bind.bind,
    StateT.bind, h]
  rfl

theorem tryCatch_error {α : Type} {x : PortM α} {w w' : World} {e : PortError} (h : x w = (.error e, w'))
    (f : PortError → PortM α) : (MonadExcept.tryCatch x f : PortM α) w = f e w' := by
  simp only [MonadExcept.tryCatch, tryCatchThe, MonadExceptOf.tryCatch, ExceptT.tryCatch, ExceptT.mk, Bind.bind,
    StateT.bind, h]

/-- A message about a shutdown. -/
def HostMessage.IsShutdown : HostMessage → Prop
  | .shutdownAccepted => True
  | .shutdownProgress _ _ _ => True
  | .shutdownFailed _ _ => True
  | _ => False

/-- What follows when the host has been asked to power off. -/
def reportOutcome (host : ShutdownHost) : PortM Poweroff :=
  match host.systemctl with
  | none => reportShutdownFailure .hostPoweroff (host.initial.getD 0) .notStarted
  | some false => reportShutdownFailure .hostPoweroff (host.initial.getD 0) .refused
  | some true => do
    reportPoweroff host.initial host.later
    return .requested

theorem poweroff_eq (host : ShutdownHost) :
    poweroff host = (do
      writeShutdownProgress .preparingGuests 0 0
      reportInitial host.initial
      systemPoweroff
      reportOutcome host) := rfl

/-- Whatever the port does, the world changes along a relation. -/
def Along {α : Type} (R : World → World → Prop) (x : PortM α) : Prop := ∀ w : World, R w (x w).2

/-- A relation along which the world changes when a message about a shutdown is written. -/
structure Kept (R : World → World → Prop) : Prop where
  refl : ∀ w, R w w
  trans : ∀ {w w' w''}, R w w' → R w' w'' → R w w''
  writeHostMessage : ∀ m : HostMessage, m.IsShutdown → Along R (writeHostMessage m)
  flush : Along R flush

namespace Kept
variable {α β : Type} {R : World → World → Prop} (k : Kept R)
include k

theorem pure (a : α) : Along R (Pure.pure a : PortM α) := k.refl

theorem bind {x : PortM α} {f : α → PortM β} (hx : Along R x) (hf : ∀ a, Along R (f a)) : Along R (x >>= f) := by
  intro w
  have hw := hx w
  rcases h : x w with ⟨error | a, w'⟩
  · rw [bind_error h]
    rwa [h] at hw
  · rw [bind_ok h]
    rw [h] at hw
    exact k.trans hw (hf a w')

theorem tryCatch {x : PortM α} {f : PortError → PortM α} (hx : Along R x) (hf : ∀ e, Along R (f e)) :
    Along R (MonadExcept.tryCatch x f) := by
  intro w
  have hw := hx w
  rcases h : x w with ⟨error | a, w'⟩
  · rw [tryCatch_error h]
    rw [h] at hw
    exact k.trans hw (hf error w')
  · rw [tryCatch_ok h]
    rwa [h] at hw

theorem writeShutdownProgress (phase : ShutdownPhase) (total remaining : UInt16) :
    Along R (writeShutdownProgress phase total remaining) :=
  k.bind (k.writeHostMessage _ trivial) fun _ => k.flush

theorem monitor (total : UInt16) (later : List UInt16) (last : UInt16) :
    Along R (monitorSystemGuestShutdown total last later) := by
  induction later generalizing last with
  | nil => exact k.pure last
  | cons remaining later ih =>
    rw [monitorSystemGuestShutdown]
    refine k.bind (k.writeShutdownProgress _ _ _) fun _ => ?_
    split
    · exact k.pure _
    · exact ih remaining

theorem reportShutdownFailure (reason : ShutdownFailure) (remaining : UInt16) (outcome : Poweroff) :
    Along R (reportShutdownFailure reason remaining outcome) :=
  k.bind (k.tryCatch (k.bind (k.writeHostMessage _ trivial) fun _ => k.flush) fun _ => k.pure _) fun _ => k.pure _

theorem reportInitial (initial : Option UInt16) : Along R (reportInitial initial) := by
  cases initial with
  | none => exact k.pure ()
  | some initial => exact k.writeShutdownProgress _ _ _

theorem reportPoweroff (initial : Option UInt16) (later : List UInt16) : Along R (reportPoweroff initial later) := by
  cases initial with
  | none => exact k.writeShutdownProgress _ _ _
  | some total =>
    refine k.bind (k.monitor total later total) fun remaining => k.bind ?_ fun _ => k.writeShutdownProgress _ _ _
    rw [reportGuestsStopped]
    split
    · exact k.writeShutdownProgress _ _ _
    · exact k.pure _

theorem reportOutcome (host : ShutdownHost) : Along R (reportOutcome host) := by
  rw [Servatory.reportOutcome]
  split
  · exact k.reportShutdownFailure _ _ _
  · exact k.reportShutdownFailure _ _ _
  · exact k.bind (k.reportPoweroff _ _) fun _ => k.pure _

end Kept

/-! ### Code that writes only some messages -/

/-- Whatever the port does, only messages with a property are written. -/
def OnlyWrites {α : Type} (P : HostMessage → Prop) (x : PortM α) : Prop := ∀ w : World, w.Extends P (x w).2

namespace OnlyWrites

theorem kept : Kept (World.Extends HostMessage.IsShutdown) where
  refl _ := .refl
  trans := .trans
  writeHostMessage m hm w := by
    rcases writeHostMessage_cases m w with ⟨outcomes, h⟩ | ⟨error, outcomes, went, h⟩
    · rw [h]
      exact w.extends_wrote outcomes m hm
    · rw [h]
      exact w.extends_failed outcomes went m hm
  flush w := by
    rw [Servatory.flush]
    split
    all_goals exact .of_eq rfl rfl

theorem poweroff (host : ShutdownHost) : OnlyWrites HostMessage.IsShutdown (poweroff host) := by
  have hsystemctl : Along (World.Extends HostMessage.IsShutdown) systemPoweroff := fun _ => .of_eq rfl rfl
  refine kept.bind (kept.writeShutdownProgress _ _ _) fun _ => kept.bind (kept.reportInitial _) fun _ => ?_
  exact kept.bind hsystemctl fun _ => kept.reportOutcome host

theorem handle (allowShutdown : Bool) (host : ShutdownHost) (message : DeviceMessage) :
    OnlyWrites HostMessage.IsShutdown (EventHandler.handle allowShutdown host message) := by
  cases message with
  | hello _ _ => exact kept.pure false
  | shutdownRequested =>
    cases allowShutdown with
    | false => exact kept.pure false
    | true =>
      refine kept.bind (kept.writeHostMessage _ trivial) fun _ => kept.bind kept.flush fun _ => ?_
      exact kept.tryCatch (kept.bind (poweroff host) fun _ => kept.pure _) fun _ => kept.pure _

end OnlyWrites
end Servatory
