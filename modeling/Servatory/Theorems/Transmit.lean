import Mathlib.Data.List.Forall2
import Servatory.Firmware.UsbTx

/-! What the USB peripheral is handed: whole frames of queued messages, in their order, whatever the peripheral
    accepts in one call. The frame buffer with its cursor is first shown to be the frame in transmission. -/

namespace Servatory

/-! ### The buffer holds the frame in transmission -/

/-- How many writes succeed before one would block. -/
def acceptedOf (results : List Bool) : Nat := (results.takeWhile id).length

namespace TxMemory
variable {m : TxMemory}

theorem write_flush (h : m.len ≤ m.cursor) (results : List Bool) : m.write results = some m.flush := by
  have hnot := Nat.not_lt.mpr h
  rcases results with _ | ⟨_ | _, results⟩ <;> simp [write, hnot]

/-- The outcome of a call after which `accepted` more bytes are gone. -/
def outcome (m : TxMemory) (accepted : Nat) : TxOutcome :=
  if m.cursor + accepted < m.len then
    ⟨{ m with cursor := m.cursor + accepted }, (m.frame.drop m.cursor).take accepted, none⟩
  else ⟨{ m with len := 0, cursor := 0 }, (m.frame.take m.len).drop m.cursor, some (m.frame.take m.len)⟩

theorem outcome_zero (h : m.cursor < m.len) : m.outcome 0 = ⟨m, [], none⟩ := if_pos h

theorem outcome_succ (hlt : m.cursor < m.len) (hlen : m.len ≤ m.frame.length) (accepted : Nat) :
    m.outcome (accepted + 1) =
      { outcome { m with cursor := m.cursor + 1 } accepted with
        bytes := m.frame[m.cursor] :: (outcome { m with cursor := m.cursor + 1 } accepted).bytes } := by
  have hsum : m.cursor + (accepted + 1) = m.cursor + 1 + accepted := by omega
  have hdrop : m.frame.drop m.cursor = m.frame[m.cursor] :: m.frame.drop (m.cursor + 1) :=
    List.drop_eq_getElem_cons (by omega)
  unfold outcome
  simp only [hsum]
  by_cases hmore : m.cursor + 1 + accepted < m.len
  · rw [if_pos hmore, if_pos hmore, hdrop, List.take_succ_cons]
  · have hrest : (m.frame.take m.len).drop m.cursor =
        m.frame[m.cursor] :: (m.frame.take m.len).drop (m.cursor + 1) := by
      rw [List.drop_eq_getElem_cons (by rw [List.length_take]; omega), List.getElem_take]
    rw [if_neg hmore, if_neg hmore, hrest]

/-- The writes of one call, taken together: no index is out of bounds, and the buffer is free once the frame is gone. -/
theorem write_eq (results : List Bool) (hle : m.cursor ≤ m.len) (hlen : m.len ≤ m.frame.length) :
    m.write results = some (m.outcome (acceptedOf results)) := by
  induction results generalizing m with
  | nil =>
    by_cases hlt : m.cursor < m.len
    · rw [write, if_pos hlt, show acceptedOf [] = 0 from rfl, outcome_zero hlt]
      simp
    · rw [write_flush (by omega), outcome, if_neg (by omega), flush, List.drop_eq_nil_of_le]
      rw [List.length_take]
      omega
  | cons result results ih =>
    by_cases hlt : m.cursor < m.len
    · cases result with
      | false =>
        rw [write, if_pos hlt, show acceptedOf (false :: results) = 0 from rfl, outcome_zero hlt]
        simp
      | true =>
        have hrest := @ih { m with cursor := m.cursor + 1 } hlt hlen
        have hbyte : m.frame[m.cursor]? = some m.frame[m.cursor] := List.getElem?_eq_getElem (by omega)
        rw [write, if_pos hlt, hbyte, hrest, show acceptedOf (true :: results) = acceptedOf results + 1 from rfl,
          outcome_succ hlt hlen]
        rfl
    · rw [write_flush (by omega), outcome, if_neg (by omega), flush, List.drop_eq_nil_of_le]
      rw [List.length_take]
      omega

/-- The bytes of the frame that are gone are those before the cursor. -/
theorem outcome_written (hle : m.cursor ≤ m.len) (accepted : Nat) :
    m.frame.take m.cursor ++ (m.outcome accepted).bytes =
      (m.outcome accepted).flushed.getD [] ++ (m.outcome accepted).memory.frame.take (m.outcome accepted).memory.cursor := by
  unfold outcome
  by_cases hmore : m.cursor + accepted < m.len
  · rw [if_pos hmore]
    exact List.take_add.symm
  · rw [if_neg hmore]
    show m.frame.take m.cursor ++ (m.frame.take m.len).drop m.cursor = m.frame.take m.len ++ []
    have hsplit := List.take_append_drop m.cursor (m.frame.take m.len)
    rw [List.take_take, Nat.min_eq_left hle] at hsplit
    rw [hsplit, List.append_nil]

/-- The memory holds the queue and the frame in transmission. -/
structure Tracks (m : TxMemory) (tx : UsbTx) : Prop where
  queue : m.queue = tx.queue.map (·.message)
  size : m.frame.length = maxDeviceFrameLen
  idle : tx.transmission = none → m.cursor = 0 ∧ m.len = 0
  busy : ∀ t, tx.transmission = some t → m.len = t.frame.length ∧ m.cursor = t.cursor ∧ m.frame.take m.len = t.frame

theorem Tracks.cursor_eq {tx : UsbTx} (h : m.Tracks tx) (hnone : tx.transmission = none) : m.cursor = m.len := by
  obtain ⟨hcursor, hlen⟩ := h.idle hnone
  rw [hcursor, hlen]

theorem tracks_new : Tracks new .new := ⟨rfl, List.length_replicate, fun _ => ⟨rfl, rfl⟩, by rintro t ⟨⟩⟩

theorem Tracks.enqueue {tx : UsbTx} (h : m.Tracks tx) (o : Outgoing) : (m.enqueue o.message).Tracks (tx.enqueue o) := by
  have hlength : m.queue.length = tx.queue.length := by rw [h.queue, List.length_map]
  unfold TxMemory.enqueue UsbTx.enqueue
  rw [hlength]
  by_cases hroom : tx.queue.length < queueCapacity
  · rw [if_pos hroom, dif_pos hroom]
    exact ⟨by simp [h.queue], h.size, h.idle, h.busy⟩
  · rw [if_neg hroom, dif_neg hroom]
    by_cases hshutdown : o.message = .shutdownRequested
    · rw [if_pos hshutdown, if_pos hshutdown]
      exact ⟨by simp [h.queue, List.map_tail], h.size, h.idle, h.busy⟩
    · rw [if_neg hshutdown, if_neg hshutdown]
      exact h

end TxMemory

/-- The frame that is in transmission once `poll` has looked for one. -/
def UsbTx.current (tx : UsbTx) : Option Transmission :=
  match tx.transmission with
  | some t => some t
  | none => tx.queue.head?.bind Outgoing.encode

/-- What is completed when the peripheral takes `accepted` more bytes. -/
def Transmission.finishes (t : Transmission) (accepted : Nat) : Option Transmission :=
  if t.cursor + accepted < t.frame.length then none else some t

namespace TxMemory
variable {m : TxMemory} {tx : UsbTx}

/-- A call on the memory came to what the call on the queue and the frame in transmission did. -/
structure Matches (m : TxMemory) (out : TxOutcome) (polled : Polled) (finished : Option Transmission) : Prop where
  tracks : out.memory.Tracks polled.usbTx
  bytes : out.bytes = polled.bytes
  flushed : out.flushed = finished.map (·.frame)
  written : m.frame.take m.cursor ++ out.bytes = out.flushed.getD [] ++ out.memory.frame.take out.memory.cursor

theorem Tracks.transmit {t : Transmission} (h : m.Tracks { tx with transmission := some t }) (results : List Bool) :
    ∃ out, m.write results = some out ∧
      m.Matches out (tx.transmit t (acceptedOf results)) (t.finishes (acceptedOf results)) := by
  obtain ⟨hlen, hcursor, hframe⟩ := h.busy t rfl
  have hlt := t.cursor_lt
  have hsize : m.len ≤ m.frame.length := by
    have := congrArg List.length hframe
    rw [List.length_take] at this
    omega
  have hle : m.cursor ≤ m.len := by omega
  refine ⟨_, write_eq results hle hsize, ?_⟩
  have hwritten := outcome_written hle (acceptedOf results)
  rw [hlen] at hframe
  unfold outcome at hwritten ⊢
  unfold UsbTx.transmit Transmission.advance Transmission.finishes Transmission.bytes
  by_cases hmore : t.cursor + acceptedOf results < t.frame.length
  · rw [hcursor, hlen, if_pos hmore] at hwritten ⊢
    rw [dif_pos hmore, if_pos hmore]
    refine ⟨⟨h.queue, h.size, by rintro ⟨⟩, ?_⟩, ?_, rfl, hcursor ▸ hwritten⟩
    · rintro t' ht'
      obtain rfl := Option.some.inj ht'
      exact ⟨rfl, rfl, hframe⟩
    · show (m.frame.drop t.cursor).take (acceptedOf results) = (t.frame.drop t.cursor).take (acceptedOf results)
      rw [← hframe, List.drop_take, List.take_take, Nat.min_eq_left (by omega)]
  · rw [hcursor, hlen, if_neg hmore] at hwritten ⊢
    rw [dif_neg hmore, if_neg hmore]
    refine ⟨⟨h.queue, h.size, fun _ => ⟨rfl, rfl⟩, by rintro t' ⟨⟩⟩, ?_, ?_, hcursor ▸ hwritten⟩
    · show (m.frame.take t.frame.length).drop t.cursor = (t.frame.drop t.cursor).take (acceptedOf results)
      rw [hframe, List.take_of_length_le (by rw [List.length_drop]; omega)]
    · show some (m.frame.take t.frame.length) = some t.frame
      rw [hframe]

/-- A call on the memory does what it does on the queue and the frame in transmission. -/
theorem Tracks.poll (h : m.Tracks tx) (results : List Bool) :
    ∃ out, m.poll results = some out ∧
      m.Matches out (tx.poll (acceptedOf results)) (tx.current.bind (·.finishes (acceptedOf results))) := by
  unfold TxMemory.poll UsbTx.current
  rcases tx.poll_cases (acceptedOf results) with ⟨t, ht, hpoll⟩ | ⟨hnone, hnil, hpoll⟩ | ⟨o, rest, hnone, hfree, hcons, hpoll⟩
  · obtain ⟨hlen, hcursor, -⟩ := h.busy t ht
    have hlt := t.cursor_lt
    have htx : tx = { tx with transmission := some t } := by rw [← ht]
    rw [if_neg (by omega), hpoll, ht]
    rw [htx] at h
    exact h.transmit results
  · have hempty : m.queue = [] := by rw [h.queue, hnil, List.map_nil]
    rw [if_pos (h.cursor_eq hnone), hpoll, hnone, hnil, hempty]
    exact ⟨_, rfl, h, rfl, rfl, List.append_nil _⟩
  · have hqueue : m.queue = o.message :: rest.queue.map (·.message) := by rw [h.queue, hcons, List.map_cons]
    rw [if_pos (h.cursor_eq hnone), hnone, hcons, hqueue, h.size]
    rcases hpoll with ⟨t, ho, hpoll⟩ | ⟨ho, hpoll⟩
    · obtain ⟨-, hcursor, hencode⟩ := Outgoing.encode_eq_some ho
      have hfits : t.frame.length ≤ maxDeviceFrameLen := (encode_eq_ok.mp hencode).1
      have hloaded : TxMemory.Tracks
          { queue := rest.queue.map (·.message), frame := t.frame ++ m.frame.drop t.frame.length, len := t.frame.length,
            cursor := 0 } { rest with transmission := some t } := by
        refine ⟨rfl, ?_, by rintro ⟨⟩, ?_⟩
        · rw [List.length_append, List.length_drop, h.size]
          omega
        · rintro t' ht'
          obtain rfl := Option.some.inj ht'
          exact ⟨rfl, hcursor.symm, List.take_left⟩
      obtain ⟨out, hwrite, hmatches⟩ := hloaded.transmit results
      rw [hpoll]
      simp only [hencode, List.head?_cons, Option.bind_some, ho]
      refine ⟨out, hwrite, hmatches.tracks, hmatches.bytes, hmatches.flushed, ?_⟩
      rw [(h.idle hnone).1, ← hmatches.written]
      rfl
    · obtain ⟨e, hencode⟩ := Outgoing.encode_eq_none ho
      rw [hpoll]
      simp only [hencode, List.head?_cons, Option.bind_some, ho]
      refine ⟨_, rfl, ⟨rfl, h.size, fun _ => h.idle hnone, ?_⟩, rfl, rfl, List.append_nil _⟩
      rw [hfree]
      rintro t ⟨⟩

end TxMemory

/-! ### What goes out -/

namespace UsbTx
variable {tx : UsbTx}

/-- The frame in transmission is that of its message. -/
def Framed (tx : UsbTx) : Prop :=
  ∀ t, tx.transmission = some t → encodeDevice t.outgoing.message maxDeviceFrameLen = .ok t.frame

/-- What is still to go of a frame that has started. -/
def rest (tx : UsbTx) : List UInt8 := tx.transmission.elim [] fun t => if t.cursor = 0 then [] else t.frame.drop t.cursor

/-- The frames of some messages. -/
def Frames (sent : List Outgoing) (frames : List (List UInt8)) : Prop :=
  List.Forall₂ (fun o frame => encodeDevice o.message maxDeviceFrameLen = .ok frame) sent frames

theorem transmit_frames {t : Transmission} (h : encodeDevice t.outgoing.message maxDeviceFrameLen = .ok t.frame)
    (accepted : Nat) :
    ∃ frames, Frames (tx.transmit t accepted).started.toList frames ∧
      (tx.transmit t accepted).bytes ++ (tx.transmit t accepted).usbTx.rest =
        (if t.cursor = 0 then [] else t.frame.drop t.cursor) ++ frames.flatten := by
  have hlt := t.cursor_lt
  unfold transmit Transmission.starts Transmission.unstarted Transmission.bytes rest Transmission.advance
  by_cases hzero : accepted = 0
  · subst hzero
    refine ⟨[], .nil, ?_⟩
    simp [hlt]
  · -- The frame is in the middle now, or done.
    have hrest : (t.frame.drop t.cursor).take accepted ++
        ((if h : t.cursor + accepted < t.frame.length then
            some { t with cursor := t.cursor + accepted, cursor_lt := h } else none).elim []
          fun t => if t.cursor = 0 then [] else t.frame.drop t.cursor) = t.frame.drop t.cursor := by
      by_cases hmore : t.cursor + accepted < t.frame.length
      · rw [dif_pos hmore, Option.elim_some, if_neg (show ¬t.cursor + accepted = 0 by omega), ← List.drop_drop, List.take_append_drop]
      · rw [dif_neg hmore, Option.elim_none, List.append_nil, List.take_of_length_le]
        rw [List.length_drop]
        omega
    rw [if_pos (Nat.pos_of_ne_zero hzero)]
    by_cases hcursor : t.cursor = 0
    · refine ⟨[t.frame], ?_, ?_⟩
      · rw [if_pos hcursor]
        exact .cons h .nil
      · rw [hrest, if_pos hcursor, hcursor]
        simp
    · refine ⟨[], ?_, ?_⟩
      · rw [if_neg hcursor]
        exact .nil
      · rw [hrest, if_neg hcursor]
        simp

theorem framed_transmit {t : Transmission} (h : encodeDevice t.outgoing.message maxDeviceFrameLen = .ok t.frame)
    (accepted : Nat) : (tx.transmit t accepted).usbTx.Framed := by
  intro t' ht'
  unfold transmit Transmission.advance at ht'
  by_cases hmore : t.cursor + accepted < t.frame.length
  · rw [dif_pos hmore] at ht'
    obtain rfl := Option.some.inj ht'
    exact h
  · rw [dif_neg hmore] at ht'
    cases ht'

/-- A call hands over what is still to go of the frame that has started, then the frame of the message it starts. -/
theorem Framed.poll (h : tx.Framed) (accepted : Nat) :
    (tx.poll accepted).usbTx.Framed ∧ ∃ frames, Frames (tx.poll accepted).started.toList frames ∧
      (tx.poll accepted).bytes ++ (tx.poll accepted).usbTx.rest = tx.rest ++ frames.flatten := by
  rcases tx.poll_cases accepted with ⟨t, ht, hpoll⟩ | ⟨-, -, hpoll⟩ | ⟨o, rest, hnone, hfree, -, hpoll⟩
  · have hrest : tx.rest = if t.cursor = 0 then [] else t.frame.drop t.cursor := by
      rw [UsbTx.rest, ht, Option.elim_some]
    rw [hpoll, hrest]
    exact ⟨framed_transmit (h t ht) accepted, transmit_frames (h t ht) accepted⟩
  · rw [hpoll]
    exact ⟨h, [], .nil, by simp⟩
  · have hidle : tx.rest = [] := by rw [UsbTx.rest, hnone, Option.elim_none]
    rw [hidle]
    rcases hpoll with ⟨t, ho, hpoll⟩ | ⟨-, hpoll⟩
    · obtain ⟨rfl, hcursor, hencode⟩ := Outgoing.encode_eq_some ho
      obtain ⟨frames, hframes, hbytes⟩ := @transmit_frames rest t hencode accepted
      rw [if_pos hcursor] at hbytes
      rw [hpoll]
      exact ⟨framed_transmit hencode accepted, frames, hframes, hbytes⟩
    · rw [hpoll]
      refine ⟨fun t ht => ?_, [], .nil, ?_⟩
      · cases hfree.symm.trans ht
      · simp [UsbTx.rest, hfree]

/-! ### A request is not lost -/

/-- A shutdown request is queued or in transmission. -/
def HoldsRequest (tx : UsbTx) : Prop :=
  .shutdownRequested ∈ tx.queue.map (·.message) ∨
    ∃ t, tx.transmission = some t ∧ t.outgoing.message = .shutdownRequested

/-- A full queue drops its first message for a shutdown request only, so one is there afterwards. -/
theorem holdsRequest_enqueue {o : Outgoing} (h : tx.HoldsRequest ∨ o.message = .shutdownRequested) :
    (tx.enqueue o).HoldsRequest := by
  unfold enqueue
  by_cases hroom : tx.queue.length < queueCapacity
  · rw [dif_pos hroom]
    rcases h with (hqueue | hbusy) | hmessage
    · rw [HoldsRequest, List.map_append]
      exact .inl (List.mem_append_left _ hqueue)
    · exact .inr hbusy
    · exact .inl (by simp [hmessage])
  · rw [dif_neg hroom]
    by_cases hmessage : o.message = .shutdownRequested
    · rw [if_pos hmessage]
      exact .inl (by simp [hmessage])
    · rw [if_neg hmessage]
      exact h.resolve_right hmessage

theorem holdsRequest_transmit {t : Transmission} {accepted : Nat}
    (h : .shutdownRequested ∈ tx.queue.map (·.message) ∨ t.outgoing.message = .shutdownRequested) :
    (tx.transmit t accepted).usbTx.HoldsRequest ∨
      ∃ done, t.finishes accepted = some done ∧ done.outgoing.message = .shutdownRequested := by
  rcases h with hqueue | hmessage
  · exact .inl (.inl hqueue)
  · unfold Transmission.finishes
    by_cases hmore : t.cursor + accepted < t.frame.length
    · refine .inl (.inr ⟨_, dif_pos hmore, hmessage⟩)
    · rw [if_neg hmore]
      exact .inr ⟨t, rfl, hmessage⟩

/-- A call keeps the request, or completes its frame. -/
theorem HoldsRequest.poll (h : tx.HoldsRequest) (accepted : Nat) :
    (tx.poll accepted).usbTx.HoldsRequest ∨
      ∃ done, tx.current.bind (·.finishes accepted) = some done ∧ done.outgoing.message = .shutdownRequested := by
  unfold current
  rcases tx.poll_cases accepted with ⟨t, ht, hpoll⟩ | ⟨hnone, hnil, hpoll⟩ | ⟨o, rest, hnone, -, hcons, hpoll⟩
  · rw [hpoll, ht]
    refine holdsRequest_transmit (h.imp_right ?_)
    rintro ⟨t', ht', hmessage⟩
    obtain rfl := Option.some.inj (ht.symm.trans ht')
    exact hmessage
  · rw [hpoll]
    exact .inl h
  · have hmem : o.message = .shutdownRequested ∨ .shutdownRequested ∈ rest.queue.map (·.message) := by
      rcases h with hqueue | ⟨t, ht, -⟩
      · rw [hcons, List.map_cons, List.mem_cons] at hqueue
        exact hqueue.imp_left Eq.symm
      · cases hnone.symm.trans ht
    rw [hnone, hcons]
    rcases hpoll with ⟨t, ho, hpoll⟩ | ⟨ho, hpoll⟩
    · obtain ⟨rfl, -, -⟩ := Outgoing.encode_eq_some ho
      rw [hpoll]
      simp only [List.head?_cons, Option.bind_some, ho]
      exact holdsRequest_transmit hmem.symm
    · rw [hpoll]
      refine .inl (.inl (hmem.resolve_left fun hmessage => ?_))
      -- A shutdown request always has a frame.
      obtain ⟨e, he⟩ := Outgoing.encode_eq_none ho
      rw [hmessage] at he
      revert he
      exact nofun

/-- A frame that is completed is that of its message. -/
theorem Framed.finished (h : tx.Framed) {accepted : Nat} {done : Transmission}
    (hdone : tx.current.bind (·.finishes accepted) = some done) :
    encodeDevice done.outgoing.message maxDeviceFrameLen = .ok done.frame := by
  obtain ⟨t, ht, hfinishes⟩ := Option.bind_eq_some_iff.mp hdone
  unfold Transmission.finishes at hfinishes
  by_cases hmore : t.cursor + accepted < t.frame.length
  · rw [if_pos hmore] at hfinishes
    cases hfinishes
  · rw [if_neg hmore] at hfinishes
    obtain rfl := Option.some.inj hfinishes
    unfold current at ht
    cases hbusy : tx.transmission with
    | some busy =>
      rw [hbusy] at ht
      obtain rfl := Option.some.inj ht
      exact h _ hbusy
    | none =>
      rw [hbusy] at ht
      obtain ⟨o, -, ho⟩ := Option.bind_eq_some_iff.mp ht
      obtain ⟨rfl, -, hencode⟩ := Outgoing.encode_eq_some ho
      exact hencode

end UsbTx

/-! ### Runs -/

/-- The queue keeps no record of where a message comes from. -/
def TxCall.outgoing (message : DeviceMessage) : Outgoing := ⟨message, ⟨.waiting, none, 0⟩⟩

namespace TxMemory
variable {m : TxMemory} {tx : UsbTx} {messages : List Outgoing} {bytes : List UInt8} {flushed : List (List UInt8)}

/-- What the peripheral has been handed are the frames of messages that were enqueued, in their order, up to what is
    still to go of the last one. -/
structure Sent (messages : List Outgoing) (m : TxMemory) (tx : UsbTx) (bytes : List UInt8)
    (flushed : List (List UInt8)) : Prop where
  tracks : m.Tracks tx
  framed : tx.Framed
  written : bytes = flushed.flatten ++ m.frame.take m.cursor
  order : ∃ started frames, (started ++ tx.unstarted).Sublist messages ∧ UsbTx.Frames started frames ∧
    bytes ++ tx.rest = frames.flatten

theorem sent_new : Sent [] new .new [] [] :=
  ⟨tracks_new, by rintro t ⟨⟩, rfl, [], [], List.Sublist.refl _, .nil, rfl⟩

theorem Sent.enqueue (h : m.Sent messages tx bytes flushed) (o : Outgoing) :
    (m.enqueue o.message).Sent (messages ++ [o]) (tx.enqueue o) bytes flushed := by
  have htransmission : (tx.enqueue o).transmission = tx.transmission := by
    unfold UsbTx.enqueue
    split
    · rfl
    · split <;> rfl
  have hmemory : (m.enqueue o.message).frame = m.frame ∧ (m.enqueue o.message).cursor = m.cursor := by
    unfold TxMemory.enqueue
    split
    · exact ⟨rfl, rfl⟩
    · split <;> exact ⟨rfl, rfl⟩
  obtain ⟨started, frames, hsub, hframes, hbytes⟩ := h.order
  refine ⟨h.tracks.enqueue o, ?_, ?_, started, frames, ?_, hframes, ?_⟩
  · rw [UsbTx.Framed, htransmission]
    exact h.framed
  · rw [hmemory.1, hmemory.2]
    exact h.written
  · refine ((List.Sublist.refl started).append (UsbTx.enqueue_sublist tx o)).trans ?_
    rw [← List.append_assoc]
    exact hsub.append (List.Sublist.refl _)
  · rw [UsbTx.rest, htransmission]
    exact hbytes

/-- One call keeps that, and a request unless it completes its frame. -/
theorem Sent.poll (h : m.Sent messages tx bytes flushed) (results : List Bool) :
    ∃ out tx', m.poll results = some out ∧
      out.memory.Sent messages tx' (bytes ++ out.bytes) (flushed ++ out.flushed.toList) ∧
      (tx.HoldsRequest → tx'.HoldsRequest ∨
        ∃ frame ∈ out.flushed, encodeDevice .shutdownRequested maxDeviceFrameLen = .ok frame) := by
  obtain ⟨out, hout, hmatches⟩ := h.tracks.poll results
  obtain ⟨hframed, more, hmore, hrest⟩ := h.framed.poll (acceptedOf results)
  obtain ⟨started, frames, hsub, hframes, hbytes⟩ := h.order
  refine ⟨out, _, hout, ⟨hmatches.tracks, hframed, ?_, started ++ (tx.poll (acceptedOf results)).started.toList,
    frames ++ more, ?_, List.rel_append hframes hmore, ?_⟩, ?_⟩
  · rw [h.written, List.append_assoc, hmatches.written, List.flatten_append, List.append_assoc]
    cases out.flushed <;> simp
  · rw [List.append_assoc]
    exact ((List.Sublist.refl started).append (UsbTx.poll_sublist tx _)).trans hsub
  · rw [hmatches.bytes, List.append_assoc, hrest, ← List.append_assoc, hbytes, List.flatten_append]
  · intro hrequest
    refine (hrequest.poll (acceptedOf results)).imp_right ?_
    rintro ⟨done, hdone, hmessage⟩
    refine ⟨done.frame, ?_, hmessage ▸ h.framed.finished hdone⟩
    rw [hmatches.flushed, hdone]
    rfl

theorem Sent.run (calls : List TxCall) : ∀ {messages : List Outgoing} {m : TxMemory} {tx : UsbTx} {bytes : List UInt8}
    {flushed : List (List UInt8)}, m.Sent messages tx bytes flushed →
      ∃ m' tx' bytes' flushed', m.run calls = some (m', bytes', flushed') ∧
        m'.Sent (messages ++ (calls.filterMap TxCall.enqueued).map TxCall.outgoing) tx' (bytes ++ bytes')
          (flushed ++ flushed') ∧
        (tx.HoldsRequest → tx'.HoldsRequest ∨
          ∃ frame ∈ flushed', encodeDevice .shutdownRequested maxDeviceFrameLen = .ok frame) := by
  induction calls with
  | nil =>
    intro messages m tx bytes flushed h
    refine ⟨m, tx, [], [], rfl, ?_, .inl⟩
    simpa using h
  | cons call calls ih =>
    intro messages m tx bytes flushed h
    cases call with
    | enqueue message =>
      obtain ⟨m', tx', bytes', flushed', hrun, hsent, hholds⟩ := ih (h.enqueue (TxCall.outgoing message))
      refine ⟨m', tx', bytes', flushed', hrun, ?_, fun hrequest => hholds (UsbTx.holdsRequest_enqueue (.inl hrequest))⟩
      rw [List.append_assoc] at hsent
      exact hsent
    | poll results =>
      obtain ⟨out, tx₁, hout, hsent₁, hholds₁⟩ := h.poll results
      obtain ⟨m', tx', bytes', flushed', hrun, hsent, hholds⟩ := ih hsent₁
      refine ⟨m', tx', out.bytes ++ bytes', out.flushed.toList ++ flushed', ?_, ?_, ?_⟩
      · rw [TxMemory.run, hout, Option.bind_eq_bind, Option.bind_some, hrun]
        rfl
      · rw [← List.append_assoc, ← List.append_assoc]
        exact hsent
      · intro hrequest
        rcases hholds₁ hrequest with hrequest | ⟨frame, hframe, hencode⟩
        · exact (hholds hrequest).imp_right fun ⟨frame, hframe, hencode⟩ =>
            ⟨frame, List.mem_append_right _ hframe, hencode⟩
        · exact .inr ⟨frame, List.mem_append_left _ (Option.mem_toList.mpr hframe), hencode⟩

/-- After any calls the peripheral has been handed a beginning of whole frames, of messages that were enqueued and in
    their order: the completed frames, and the bytes before the cursor. A request that is enqueued then stays in the
    queue or in the buffer until its frame is completed, whatever is called. No index is ever out of bounds. -/
theorem frames_intact (calls : List TxCall) :
    ∃ m bytes flushed, new.run calls = some (m, bytes, flushed) ∧
      bytes = flushed.flatten ++ m.frame.take m.cursor ∧
      (∃ messages frames, messages.Sublist (calls.filterMap TxCall.enqueued) ∧
        List.Forall₂ (fun message frame => encodeDevice message maxDeviceFrameLen = .ok frame) messages frames ∧
        bytes <+: frames.flatten) ∧
      ∀ after, ∃ m' bytes' flushed', (m.enqueue .shutdownRequested).run after = some (m', bytes', flushed') ∧
        ((∃ frame ∈ flushed', encodeDevice .shutdownRequested maxDeviceFrameLen = .ok frame) ∨
          .shutdownRequested ∈ m'.queue ∨
          m'.cursor < m'.len ∧ encodeDevice .shutdownRequested maxDeviceFrameLen = .ok (m'.frame.take m'.len)) := by
  obtain ⟨m, tx, bytes, flushed, hrun, hsent, -⟩ := sent_new.run calls
  rw [List.nil_append, List.nil_append, List.nil_append] at hsent
  refine ⟨m, bytes, flushed, hrun, hsent.written, ?_, fun after => ?_⟩
  · obtain ⟨started, frames, hsub, hframes, hbytes⟩ := hsent.order
    refine ⟨started.map (·.message), frames, ?_, by rwa [List.forall₂_map_left_iff], tx.rest, hbytes⟩
    have hstarted := ((List.sublist_append_left started _).trans hsub).map (·.message)
    rwa [List.map_map, show (fun o : Outgoing => o.message) ∘ TxCall.outgoing = id from rfl, List.map_id] at hstarted
  · obtain ⟨m', tx', bytes', flushed', hrun', hsent', hholds⟩ :=
      (hsent.enqueue (TxCall.outgoing .shutdownRequested)).run after
    refine ⟨m', bytes', flushed', hrun', ?_⟩
    rcases hholds (UsbTx.holdsRequest_enqueue (.inr rfl)) with (hqueue | ⟨t, ht, hmessage⟩) | hflushed
    · rw [← hsent'.tracks.queue] at hqueue
      exact .inr (.inl hqueue)
    · obtain ⟨hlen, hcursor, hframe⟩ := hsent'.tracks.busy t ht
      have hlt := t.cursor_lt
      refine .inr (.inr ⟨by omega, ?_⟩)
      rw [hframe, ← hmessage]
      exact hsent'.framed t ht
    · exact .inl hflushed

end TxMemory
end Servatory
