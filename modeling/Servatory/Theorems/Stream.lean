import Mathlib.Data.List.Forall2
import Servatory.Protocol.Frame

/-! A stream of frames comes out of the decoder as the messages that were encoded, in order, from the first
    delimiter on: whatever the decoder had pending, whatever garbage came before, and however the stream is
    cut into pieces. -/

namespace Servatory

namespace FrameDecoder
variable {N : Nat} {T : Type} [Postcard T]

/-- A decoder with nothing pending returns each of a run of encoded frames as it was encoded. -/
theorem pushAll_frames {messages : List T} {frames : List (List UInt8)}
    (henc : List.Forall₂ (fun message frame => encode message N = .ok frame) messages frames)
    (d : FrameDecoder N) (hp : d.pending = some []) :
    (d.pushAll frames.flatten).2 = frames.map .ok ∧ (d.pushAll frames.flatten).1.pending = some [] := by
  induction henc generalizing d with
  | nil => simp [pushAll, hp]
  | @cons message frame messages frames h _ ih =>
    obtain ⟨s, rfl, hz, hne, hle⟩ := encode_shape h
    obtain ⟨hp', hout⟩ := pushAll_frame d hp hz hne hle
    obtain ⟨ihout, ihp⟩ := ih (d.pushAll (s ++ [0])).1 hp'
    rw [List.flatten_cons, pushAll_append]
    simp only [hout, ihout, ihp, List.map_cons, List.singleton_append, and_self]

/-- The frames of a stream behind a delimiter, whatever came before it. -/
theorem pushChunks_frames {messages : List T} {frames : List (List UInt8)}
    (henc : List.Forall₂ (fun message frame => encode message N = .ok frame) messages frames)
    (d : FrameDecoder N) {garbage : List UInt8} {chunks : List (List UInt8)}
    (hchunks : chunks.flatten = garbage ++ [0] ++ frames.flatten) :
    (d.pushChunks chunks).2 = (d.pushAll (garbage ++ [0])).2 ++ frames.map .ok := by
  have hp : (d.pushAll (garbage ++ [0])).1.pending = some [] := pushAll_delimited d garbage
  rw [pushChunks_eq, hchunks, pushAll_append, (pushAll_frames henc _ hp).1]

end FrameDecoder

section Decode
variable {T : Type} [Postcard T] {cobs : List UInt8 → Option (List UInt8)} {fromBytes : List UInt8 → Option T}

theorem map_decode_frames (hcobs : ∀ data, cobs (Cobs.encode data) = some data)
    (hfrom : ∀ m : T, fromBytes (Postcard.encode m) = some m) {capacity : Nat} {messages : List T}
    {frames : List (List UInt8)}
    (henc : List.Forall₂ (fun message frame => encode message capacity = .ok frame) messages frames) :
    frames.map (decode cobs fromBytes) = messages.map .ok := by
  induction henc with
  | nil => rfl
  | cons h _ ih => rw [List.map_cons, List.map_cons, decode_encode hcobs hfrom h, ih]

end Decode

/-- The stream round trip, for both directions. The hypotheses are the laws of the two libraries: their
    decoders undo their encoders. -/
theorem stream_roundTrip {N : Nat} {cobs : List UInt8 → Option (List UInt8)}
    {hostFromBytes : List UInt8 → Option HostMessage} {deviceFromBytes : List UInt8 → Option DeviceMessage}
    (hcobs : ∀ data, cobs (Cobs.encode data) = some data)
    (hhost : ∀ m, hostFromBytes (Postcard.encode m) = some m)
    (hdevice : ∀ m, deviceFromBytes (Postcard.encode m) = some m) (d : FrameDecoder N) (garbage : List UInt8) :
    (∀ (messages : List HostMessage) (frames chunks : List (List UInt8)),
      List.Forall₂ (fun message frame => encodeHost message N = .ok frame) messages frames →
      chunks.flatten = garbage ++ [0] ++ frames.flatten →
        (d.pushChunks chunks).2 = (d.pushAll (garbage ++ [0])).2 ++ frames.map .ok ∧
        frames.map (decodeHost cobs hostFromBytes) = messages.map .ok) ∧
    (∀ (messages : List DeviceMessage) (frames chunks : List (List UInt8)),
      List.Forall₂ (fun message frame => encodeDevice message N = .ok frame) messages frames →
      chunks.flatten = garbage ++ [0] ++ frames.flatten →
        (d.pushChunks chunks).2 = (d.pushAll (garbage ++ [0])).2 ++ frames.map .ok ∧
        frames.map (decodeDevice cobs deviceFromBytes) = messages.map .ok) := by
  refine ⟨fun messages frames chunks henc hchunks => ?_, fun messages frames chunks henc hchunks => ?_⟩
  · exact ⟨FrameDecoder.pushChunks_frames henc d hchunks, map_decode_frames hcobs hhost henc⟩
  · exact ⟨FrameDecoder.pushChunks_frames henc d hchunks, map_decode_frames hcobs hdevice henc⟩

/-- The laws hold of a library that reads what this one writes: a shutdown request that comes in two pieces,
    behind the tail of another frame. -/
theorem stream_roundTrip_request :
    ((FrameDecoder.new 8).pushChunks [[7, 0, 0xa5, 0x5a], [10, 1, 1, 0]]).2 =
      ((FrameDecoder.new 8).pushAll ([7] ++ [0])).2 ++ [.ok [0xa5, 0x5a, 10, 1, 1, 0]] ∧
    [[0xa5, 0x5a, 10, 1, 1, 0]].map (decodeDevice Cobs.decode (Postcard.fromBytes DeviceMessage)) =
      [.ok .shutdownRequested] :=
  (stream_roundTrip Cobs.decode_encode (@Postcard.fromBytes_encode HostMessage _)
      (@Postcard.fromBytes_encode DeviceMessage _) (FrameDecoder.new 8) [7]).2
    [.shutdownRequested] [[0xa5, 0x5a, 10, 1, 1, 0]] [[7, 0, 0xa5, 0x5a], [10, 1, 1, 0]]
    (List.Forall₂.cons (by rfl) .nil) (by rfl)

end Servatory
