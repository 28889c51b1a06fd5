import Servatory.Protocol.Frame

/-! The Stick's transmit queue and the frame that the USB peripheral is taking from it. Each queued message
    carries the state the Stick queued it in, which the code does not keep: the results about a session are
    stated with it. -/

namespace Servatory

inductive DaemonState
  | waiting
  | connected
  | stale
  | incompatible
  | poweringOff
  deriving DecidableEq, Repr

/-- What the Stick was doing when it queued a message. `sessionsEnded` counts the link timeouts and Hellos
    up to then. -/
structure Origin where
  daemon : DaemonState
  daemonSession : Option HandshakeNonce
  sessionsEnded : Nat
  deriving DecidableEq, Repr

structure Outgoing where
  message : DeviceMessage
  origin : Origin
  deriving DecidableEq, Repr

/-- A frame the peripheral has taken `cursor` bytes of. -/
structure Transmission where
  outgoing : Outgoing
  frame : List UInt8
  cursor : Nat
  cursor_lt : cursor < frame.length

def queueCapacity : Nat := 8

/-- The queue and the frame in transmission; `none` is the source's `cursor == len`. -/
structure UsbTx where
  queue : List Outgoing
  transmission : Option Transmission
  length_queue : queue.length ≤ queueCapacity

theorem encodeDevice_ne_nil {message : DeviceMessage} {capacity : Nat} {frame : List UInt8}
    (h : encodeDevice message capacity = .ok frame) : 0 < frame.length := by
  obtain ⟨s, rfl, -⟩ := encode_shape h
  simp

/-- The frame of a queued message, unless it outgrows the frame buffer. -/
def Outgoing.encode (o : Outgoing) : Option Transmission :=
  match h : encodeDevice o.message maxDeviceFrameLen with
  | .ok frame => some ⟨o, frame, 0, encodeDevice_ne_nil h⟩
  | .error _ => none

/-- The frame of a message is new, and none of it has gone out. -/
theorem Outgoing.encode_eq_some {o : Outgoing} {t : Transmission} (h : o.encode = some t) :
    t.outgoing = o ∧ t.cursor = 0 ∧ encodeDevice o.message maxDeviceFrameLen = .ok t.frame := by
  unfold Outgoing.encode at h
  split at h
  · rename_i frame hframe
    obtain rfl := Option.some.inj h
    exact ⟨rfl, rfl, hframe⟩
  · cases h

theorem Outgoing.encode_eq_none {o : Outgoing} (h : o.encode = none) :
    ∃ e, encodeDevice o.message maxDeviceFrameLen = .error e := by
  unfold Outgoing.encode at h
  split at h
  · cases h
  · rename_i e he
    exact ⟨e, he⟩

namespace Transmission

/-- The bytes that the peripheral takes when it accepts `accepted` more before it would block. -/
def bytes (t : Transmission) (accepted : Nat) : List UInt8 := (t.frame.drop t.cursor).take accepted

/-- What is left to transmit then. -/
def advance (t : Transmission) (accepted : Nat) : Option Transmission :=
  if h : t.cursor + accepted < t.frame.length then some { t with cursor := t.cursor + accepted, cursor_lt := h }
  else none

/-- The message of a frame whose first byte is still to go. -/
def unstarted (t : Transmission) : Option Outgoing := if t.cursor = 0 then some t.outgoing else none

/-- The message whose first byte goes out. -/
def starts (t : Transmission) (accepted : Nat) : Option Outgoing := if 0 < accepted then t.unstarted else none

end Transmission

/-- The outcome of one `poll`: the bytes it handed over, and the message whose first byte was among them. -/
structure Polled where
  usbTx : UsbTx
  bytes : List UInt8
  started : Option Outgoing

namespace UsbTx

def new : UsbTx := ⟨[], none, by decide⟩

def enqueue (tx : UsbTx) (o : Outgoing) : UsbTx :=
  if h : tx.queue.length < queueCapacity then
    { tx with queue := tx.queue ++ [o], length_queue := by rw [List.length_append, List.length_singleton]; exact h }
  else if o.message = .shutdownRequested then
    -- A shutdown request is more important than an old repeated hello.
    { tx with
        queue := tx.queue.tail ++ [o]
        length_queue := by
          have := tx.length_queue
          simp only [List.length_append, List.length_tail, List.length_singleton]
          simp only [queueCapacity] at this h ⊢
          omega }
  else tx

/-- Continues the frame in transmission. -/
def transmit (tx : UsbTx) (t : Transmission) (accepted : Nat) : Polled where
  usbTx := { tx with transmission := t.advance accepted }
  bytes := t.bytes accepted
  started := t.starts accepted

/-- Hands the peripheral as much of one frame as it accepts, beginning the next one when none is left over. -/
def poll (tx : UsbTx) (accepted : Nat) : Polled :=
  match tx.transmission with
  | some t => tx.transmit t accepted
  | none =>
    match h : tx.queue with
    | [] => ⟨tx, [], none⟩
    | o :: rest =>
      let tx : UsbTx :=
        { tx with
            queue := rest
            length_queue := by
              have := tx.length_queue
              rw [h, List.length_cons] at this
              omega }
      match o.encode with
      | some t => tx.transmit t accepted
      | none => ⟨tx, [], none⟩

/-- The messages of which no byte has gone out, in the order in which they will. -/
def unstarted (tx : UsbTx) : List Outgoing := (tx.transmission.bind (·.unstarted)).toList ++ tx.queue

/-- A message keeps its place behind those already queued, or one of them is lost. -/
theorem enqueue_sublist (tx : UsbTx) (o : Outgoing) : (tx.enqueue o).unstarted.Sublist (tx.unstarted ++ [o]) := by
  unfold enqueue
  split
  · simp [unstarted]
  · split
    · simp only [unstarted, List.append_assoc]
      exact (List.Sublist.refl _).append ((List.tail_sublist _).append (List.Sublist.refl _))
    · exact List.sublist_append_left _ _

theorem mem_enqueue {tx : UsbTx} {o p : Outgoing} (h : p ∈ (tx.enqueue o).unstarted) : p ∈ tx.unstarted ∨ p = o := by
  simpa using (enqueue_sublist tx o).subset h

theorem starts_unstarted_sublist (t : Transmission) (accepted : Nat) :
    ((t.starts accepted).toList ++ ((t.advance accepted).bind (·.unstarted)).toList).Sublist t.unstarted.toList := by
  unfold Transmission.starts
  split
  · rename_i hpos
    have hnone : (t.advance accepted).bind (·.unstarted) = none := by
      unfold Transmission.advance
      split
      · simp only [Option.bind_some, Transmission.unstarted]
        rw [if_neg (by omega)]
      · rfl
    simp [hnone]
  · rename_i hpos
    obtain rfl : accepted = 0 := by omega
    simp [Transmission.advance, t.cursor_lt, Transmission.unstarted]

theorem transmit_sublist (tx : UsbTx) (t : Transmission) (accepted : Nat) :
    ((tx.transmit t accepted).started.toList ++ (tx.transmit t accepted).usbTx.unstarted).Sublist
      (t.unstarted.toList ++ tx.queue) := by
  simp only [transmit, unstarted, ← List.append_assoc]
  exact (starts_unstarted_sublist t accepted).append (List.Sublist.refl _)

/-- A message that goes out is the first one left, but for one whose frame cannot be encoded. -/
theorem poll_sublist (tx : UsbTx) (accepted : Nat) :
    ((tx.poll accepted).started.toList ++ (tx.poll accepted).usbTx.unstarted).Sublist tx.unstarted := by
  unfold poll
  split
  · rename_i t ht
    have := transmit_sublist tx t accepted
    simpa [unstarted, ht] using this
  · rename_i hnone
    split
    · simp
    · rename_i o rest hq
      have hu : tx.unstarted = o :: rest := by simp [unstarted, hnone, hq]
      rw [hu]
      split
      · rename_i t ht
        refine (transmit_sublist _ t accepted).trans ?_
        have ho : t.unstarted.toList = [o] := by
          obtain ⟨rfl, hcursor, -⟩ := Outgoing.encode_eq_some ht
          rw [Transmission.unstarted, if_pos hcursor, Option.toList_some]
        rw [ho]
        exact List.Sublist.refl _
      · simp [unstarted, hnone]

theorem mem_poll {tx : UsbTx} {accepted : Nat} {p : Outgoing} (h : p ∈ (tx.poll accepted).usbTx.unstarted) :
    p ∈ tx.unstarted := (poll_sublist tx accepted).subset (List.mem_append_right _ h)

theorem started_poll {tx : UsbTx} {accepted : Nat} {p : Outgoing} (h : (tx.poll accepted).started = some p) :
    p ∈ tx.unstarted := (poll_sublist tx accepted).subset (List.mem_append_left _ (by simp [h]))

/-- Everything a call can do. -/
theorem poll_cases (tx : UsbTx) (accepted : Nat) :
    (∃ t, tx.transmission = some t ∧ tx.poll accepted = tx.transmit t accepted) ∨
    (tx.transmission = none ∧ tx.queue = [] ∧ tx.poll accepted = ⟨tx, [], none⟩) ∨
    (∃ (o : Outgoing) (rest : UsbTx), tx.transmission = none ∧ rest.transmission = none ∧ tx.queue = o :: rest.queue ∧
      ((∃ t, o.encode = some t ∧ tx.poll accepted = rest.transmit t accepted) ∨
        (o.encode = none ∧ tx.poll accepted = ⟨rest, [], none⟩))) := by
  obtain ⟨queue, transmission, hqueue⟩ := tx
  cases transmission with
  | some t => exact .inl ⟨t, rfl, rfl⟩
  | none =>
    cases queue with
    | nil => exact .inr (.inl ⟨rfl, rfl, rfl⟩)
    | cons o rest =>
      have hrest : rest.length ≤ queueCapacity := by
        rw [List.length_cons] at hqueue
        omega
      refine .inr (.inr ⟨o, ⟨rest, none, hrest⟩, rfl, rfl, rfl, ?_⟩)
      cases ho : o.encode with
      | some t => exact .inl ⟨t, rfl, by simp [poll, ho]⟩
      | none => exact .inr ⟨rfl, by simp [poll, ho]⟩

end UsbTx

/-! ### The frame buffer -/

/-- The fields of the transmit queue as plain memory. One buffer serves every frame. -/
structure TxMemory where
  queue : List DeviceMessage
  frame : List UInt8
  len : Nat
  cursor : Nat
  deriving DecidableEq, Repr

inductive TxCall
  | enqueue (message : DeviceMessage)
  | poll (results : List Bool)
  deriving DecidableEq, Repr

/-- The message that a call enqueues. -/
def TxCall.enqueued : TxCall → Option DeviceMessage
  | enqueue message => some message
  | poll _ => none

/-- The outcome of one `poll`: the bytes it handed over, and the frame it completed. -/
structure TxOutcome where
  memory : TxMemory
  bytes : List UInt8
  flushed : Option (List UInt8)
  deriving DecidableEq, Repr

namespace TxMemory

def new : TxMemory := ⟨[], List.replicate maxDeviceFrameLen 0, 0, 0⟩

def enqueue (m : TxMemory) (message : DeviceMessage) : TxMemory :=
  if m.queue.length < queueCapacity then { m with queue := m.queue ++ [message] }
  else if message = .shutdownRequested then { m with queue := m.queue.tail ++ [message] }
  else m

/-- The packet goes to the peripheral, and the buffer is free. -/
def flush (m : TxMemory) : TxOutcome := ⟨{ m with len := 0, cursor := 0 }, [], some (m.frame.take m.len)⟩

/-- Writes the bytes that are left, one after the other. The results say of each write whether the peripheral took the
    byte; behind them it would block. `none` when an index is out of bounds. -/
def write (m : TxMemory) : List Bool → Option TxOutcome
  | true :: results =>
    if m.cursor < m.len then do
      let byte ← m.frame[m.cursor]?
      let rest ← write { m with cursor := m.cursor + 1 } results
      return { rest with bytes := byte :: rest.bytes }
    else some m.flush
  | _ => if m.cursor < m.len then some ⟨m, [], none⟩ else some m.flush

/-- Continues the frame in the buffer, or encodes the next message there. -/
def poll (m : TxMemory) (results : List Bool) : Option TxOutcome :=
  if m.cursor = m.len then
    match m.queue with
    | [] => some ⟨m, [], none⟩
    | message :: rest =>
      match encodeDevice message m.frame.length with
      | .ok frame =>
        write { queue := rest, frame := frame ++ m.frame.drop frame.length, len := frame.length, cursor := 0 } results
      -- What a failed encoding leaves in the buffer is never read: nothing of it is left to write.
      | .error _ => some ⟨{ m with queue := rest }, [], none⟩
  else m.write results

/-- Calls one after the other: the bytes they handed over, and the frames they completed. -/
def run (m : TxMemory) : List TxCall → Option (TxMemory × List UInt8 × List (List UInt8))
  | [] => some (m, [], [])
  | .enqueue message :: rest => run (m.enqueue message) rest
  | .poll results :: rest => do
    let out ← m.poll results
    let (m, bytes, flushed) ← run out.memory rest
    return (m, out.bytes ++ bytes, out.flushed.toList ++ flushed)

end TxMemory
end Servatory
