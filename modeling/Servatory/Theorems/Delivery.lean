import Servatory.Firmware.Notifications
import Servatory.Lib.BoundedQueue

/-! What becomes of the notifications: they leave the queue in the order in which they were pushed, and one that is given
    up has eight newer ones behind it. -/

namespace Servatory
open BoundedQueue

theorem pushPending_eq : pushPending = BoundedQueue.push maxPendingNotifications := rfl

namespace NotificationWorker
variable {w : NotificationWorker} {p : Poll} {polls : List Poll}

/-- The pushes of a turn, and its delivery. -/
def eventsIn (w : NotificationWorker) (p : Poll) : List Event :=
  (w.pushes p).map (fun _ => .push) ++ (w.delivered p).toList.map fun _ => .pop

/-- What happens to the queue in some turns. -/
def events (w : NotificationWorker) : List Poll → List Event
  | [] => []
  | p :: polls => w.eventsIn p ++ events (w.turn p) polls

/-- The numbered queue behind some turns. -/
def outbox (w : NotificationWorker) (polls : List Poll) : State :=
  State.new.run maxPendingNotifications (w.events polls)

/-! ### A turn -/

theorem pushes_of_none (h : p.config = none) : w.pushes p = [] := by rw [pushes, h]

theorem pending_turn : (w.turn p).pending = if (w.delivered p).isSome then (w.queued p).tail else w.queued p := by
  cases hconfig : p.config with
  | none =>
    rw [turn, hconfig, delivered, hconfig, queued, pushes_of_none hconfig]
    rfl
  | some config =>
    have hqueued : w.queued p = (w.pushes p).foldl (fun queue push => pushPending queue push.notification) w.pending := rfl
    rw [turn, hconfig, delivered, hconfig]
    dsimp only
    rw [← hqueued]
    cases w.queued p with
    | nil => simp
    | cons front rest => simp [and_comm]

end NotificationWorker

/-! ### The numbers of the notifications -/

def notificationAt (log : List Push) (i : Nat) : Option PendingNotification := (log[i]?).map (·.notification)

variable {log pushes : List Push} {sent pending : List PendingNotification} {s : State}

theorem notificationAt_append {i : Nat} (h : i < log.length) :
    notificationAt (log ++ pushes) i = notificationAt log i := by
  rw [notificationAt, List.getElem?_append_left h, notificationAt]

/-- The numbers stand for the notifications that are pending and for those that have been sent. -/
structure Accounts (log : List Push) (sent pending : List PendingNotification) (s : State) : Prop where
  pushed : s.pushed = log.length
  pending : s.pending.map (notificationAt log) = pending.map some
  popped : s.popped.map (notificationAt log) = sent.map some

namespace Accounts

theorem new : Accounts [] [] [] State.new := ⟨rfl, rfl, rfl⟩

theorem push (h : Accounts log sent pending s) (ho : s.Ordered maxPendingNotifications) (x : Push) :
    Accounts (log ++ [x]) sent (pushPending pending x.notification) (s.step maxPendingNotifications .push) := by
  have hkept : ∀ i ∈ s.popped ++ s.pending, notificationAt (log ++ [x]) i = notificationAt log i := fun i hi =>
    notificationAt_append (h.pushed ▸ ho.numbered i hi)
  have hlast : notificationAt (log ++ [x]) s.pushed = some x.notification := by
    rw [notificationAt, h.pushed, List.getElem?_concat_length, Option.map_some]
  refine ⟨?_, ?_, ?_⟩
  · rw [List.length_append, ← h.pushed]
    rfl
  · rw [State.step, map_push, hlast, List.map_congr_left fun i hi => hkept i (List.mem_append_right _ hi), h.pending,
      ← map_push, pushPending_eq]
  · exact (List.map_congr_left fun i hi => hkept i (List.mem_append_left _ hi)).trans h.popped

theorem pushAll (h : Accounts log sent pending s) (ho : s.Ordered maxPendingNotifications) (pushes : List Push) :
    Accounts (log ++ pushes) sent (pushes.foldl (fun queue push => pushPending queue push.notification) pending)
      (s.run maxPendingNotifications (pushes.map fun _ => .push)) := by
  induction pushes generalizing log pending s with
  | nil =>
    rw [List.append_nil]
    exact h
  | cons x pushes ih =>
    rw [List.append_cons]
    exact ih (h.push ho x) (ho.step (by decide) .push)

theorem pop (h : Accounts log sent pending s) {x : PendingNotification} (hx : pending.head? = some x) :
    Accounts log (sent ++ [x]) pending.tail (s.step maxPendingNotifications .pop) := by
  refine ⟨h.pushed, ?_, ?_⟩
  · rw [State.step, List.map_tail, h.pending, List.map_tail]
  · have hhead : s.pending.head?.map (notificationAt log) = some (some x) := by
      rw [← List.head?_map, h.pending, List.head?_map, hx, Option.map_some]
    obtain ⟨i, hi, hnotification⟩ := Option.map_eq_some_iff.mp hhead
    rw [State.step, hi, Option.toList_some, List.map_append, List.map_append, h.popped, List.map_singleton,
      List.map_singleton, hnotification]

end Accounts

namespace NotificationWorker
variable {w : NotificationWorker} {p : Poll} {polls : List Poll}

theorem head?_queued {x : PendingNotification} (h : w.delivered p = some x) : (w.queued p).head? = some x := by
  rw [delivered] at h
  split at h
  · exact h
  · cases h

theorem accounts_turn (h : Accounts log sent w.pending s) (ho : s.Ordered maxPendingNotifications) (p : Poll) :
    Accounts (log ++ w.pushes p) (sent ++ (w.delivered p).toList) (w.turn p).pending
      (s.run maxPendingNotifications (w.eventsIn p)) := by
  have hqueued : Accounts (log ++ w.pushes p) sent (w.queued p)
      (s.run maxPendingNotifications ((w.pushes p).map fun _ => .push)) := h.pushAll ho _
  rw [eventsIn, State.run_append, pending_turn]
  cases hdelivered : w.delivered p with
  | none =>
    rw [Option.toList_none, List.append_nil]
    exact hqueued
  | some x => exact hqueued.pop (head?_queued hdelivered)

theorem accounts_run (h : Accounts log sent w.pending s) (ho : s.Ordered maxPendingNotifications) (polls : List Poll) :
    Accounts (log ++ w.log polls) (sent ++ w.deliveries polls) (w.run polls).pending
      (s.run maxPendingNotifications (w.events polls)) := by
  induction polls generalizing w log sent s with
  | nil =>
    rw [NotificationWorker.log, deliveries, List.append_nil, List.append_nil]
    exact h
  | cons p polls ih =>
    rw [NotificationWorker.log, deliveries, events, ← List.append_assoc, ← List.append_assoc, State.run_append]
    exact ih (accounts_turn h ho p) (ho.run (by decide) _)

end NotificationWorker

/-- What stands at increasing positions of a list is a part of it in order. -/
theorem sublist_of_positions {α : Type} {l items : List α} {positions : List Nat} (h : positions.Pairwise (· < ·))
    (hitems : positions.map (l[·]?) = items.map some) : items.Sublist l := by
  have hlt : ∀ i ∈ positions, i < l.length := by
    intro i hi
    have hmem := List.mem_map_of_mem (f := (l[·]?)) hi
    rw [hitems] at hmem
    obtain ⟨item, -, hitem⟩ := List.mem_map.mp hmem
    exact (List.getElem?_eq_some_iff.mp hitem.symm).1
  have hget : (positions.pmap Fin.mk hlt).map (l[·]) = items := by
    refine List.map_injective_iff.mpr (fun _ _ h => Option.some.inj h) ?_
    rw [← hitems, List.map_map, List.map_pmap, ← List.pmap_eq_map hlt]
    exact List.pmap_congr_left _ fun i _ _ h => (List.getElem?_eq_getElem h).symm
  rw [← hget]
  refine List.map_getElem_sublist ((List.pairwise_pmap hlt).mpr ?_)
  exact h.imp fun hij _ _ => hij

namespace NotificationWorker

/-- The queue never has more than eight notifications; those that are sent are some of those that were pushed, in the
    same order, each once; and a notification that is neither sent nor pending was dropped at a push that left eight
    newer ones in the queue. -/
theorem delivery (seed : UInt64) (polls : List Poll) :
    ((new seed).run polls).pending.length ≤ maxPendingNotifications ∧
    (∀ events, events <+: (new seed).events polls →
      (State.new.run maxPendingNotifications events).pending.length ≤ maxPendingNotifications) ∧
    Accounts ((new seed).log polls) ((new seed).deliveries polls) ((new seed).run polls).pending
      ((new seed).outbox polls) ∧
    (((new seed).outbox polls).popped ++ ((new seed).outbox polls).pending).Pairwise (· < ·) ∧
    ((new seed).deliveries polls).Sublist (((new seed).log polls).map (·.notification)) ∧
    ∀ i < ((new seed).log polls).length, i ∉ ((new seed).outbox polls).popped →
      i ∉ ((new seed).outbox polls).pending →
        State.Dropped maxPendingNotifications State.new ((new seed).events polls) i := by
  have haccounts : Accounts ((new seed).log polls) ((new seed).deliveries polls) ((new seed).run polls).pending
      ((new seed).outbox polls) :=
    show Accounts ([] ++ _) ([] ++ _) _ _ from accounts_run Accounts.new State.Ordered.new polls
  have hordered : ((new seed).outbox polls).Ordered maxPendingNotifications :=
    State.Ordered.new.run (by decide) _
  have hlength := congrArg List.length haccounts.pending
  rw [List.length_map, List.length_map] at hlength
  refine ⟨hlength ▸ hordered.bounded, fun events _ => (State.Ordered.new.run (by decide) events).bounded, haccounts,
    hordered.increasing, ?_, ?_⟩
  · refine sublist_of_positions (List.pairwise_append.mp hordered.increasing).1 ?_
    rw [← haccounts.popped]
    exact List.map_congr_left fun i _ => List.getElem?_map
  · intro i hi hpopped hpending
    rw [← haccounts.pushed] at hi
    exact ((State.popped_pending_or_dropped (by decide) _ hi).resolve_left hpopped).resolve_left hpending

end NotificationWorker
end Servatory
