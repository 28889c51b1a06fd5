import Servatory.Lib.Cobs
import Servatory.Protocol.Wire

/-! Frames: the magic bytes, the version byte, and the stuffed wire form of one message with its
    delimiter. The decoders of the two libraries the code calls are parameters: `cobs` is their in-place
    decoding of a delimited frame, `fromBytes` their reading of a message. -/

namespace Servatory

/-- Serializes one message into a buffer of `capacity` bytes and frames it. -/
def encode {T : Type} [Postcard T] (message : T) (capacity : Nat) : Except ProtocolError (List UInt8) :=
  if capacity < 3 then .error .serialize
  else
    let payload := Cobs.encode (Postcard.encode message)
    if capacity - 3 < payload.length then .error .serialize
    else .ok (frameMagic ++ protocolVersion :: payload)

def encodeHost (message : HostMessage) (capacity : Nat) : Except ProtocolError (List UInt8) := encode message capacity

def encodeDevice (message : DeviceMessage) (capacity : Nat) : Except ProtocolError (List UInt8) :=
  encode message capacity

/-- Reads one frame. A frame without the magic is taken for one of the protocols through v5, which wrote
    the version inside the stuffed body: only that leading byte is recovered. -/
def decode {T : Type} (cobs : List UInt8 → Option (List UInt8)) (fromBytes : List UInt8 → Option T)
    (frame : List UInt8) : Except ProtocolError T :=
  if frameMagic.isPrefixOf frame then
    match frame.drop 2 with
    | [] => .error .emptyFrame
    | version :: payload =>
      if version ≠ protocolVersion then .error (.unsupportedVersion version)
      else
        match cobs payload >>= fromBytes with
        | some message => .ok message
        | none => .error .deserialize
  else
    match cobs frame with
    | some (received :: _) => .error (.unsupportedVersion received)
    | _ => .error .deserialize

def decodeHost (cobs : List UInt8 → Option (List UInt8)) (fromBytes : List UInt8 → Option HostMessage)
    (frame : List UInt8) : Except ProtocolError HostMessage := decode cobs fromBytes frame

def decodeDevice (cobs : List UInt8 → Option (List UInt8)) (fromBytes : List UInt8 → Option DeviceMessage)
    (frame : List UInt8) : Except ProtocolError DeviceMessage := decode cobs fromBytes frame

section Encode
variable {T : Type} [Postcard T]

/-- The encoder's result, when the frame fits. -/
theorem encode_eq_ok {message : T} {capacity : Nat} {frame : List UInt8} :
    encode message capacity = .ok frame ↔
      frame.length ≤ capacity ∧ frame = frameMagic ++ protocolVersion :: Cobs.encode (Postcard.encode message) := by
  unfold encode
  have hpos : 0 < (Cobs.encode (Postcard.encode message)).length := by
    rw [Cobs.length_encode]
    omega
  split
  · constructor
    · rintro ⟨⟩
    · rintro ⟨hle, rfl⟩
      simp only [frameMagic, List.length_append, List.length_cons, List.length_nil] at hle
      omega
  · simp only
    split
    · constructor
      · rintro ⟨⟩
      · rintro ⟨hle, rfl⟩
        simp only [frameMagic, List.length_append, List.length_cons, List.length_nil] at hle
        omega
    · constructor
      · intro h
        obtain rfl := Except.ok.inj h
        refine ⟨?_, rfl⟩
        simp only [frameMagic, List.length_append, List.length_cons, List.length_nil]
        omega
      · rintro ⟨-, rfl⟩
        rfl

/-- A message fits when its wire form, the code bytes of its blocks and the delimiter leave room for the
    three header bytes. -/
theorem encode_isOk_iff {message : T} {capacity : Nat} :
    (encode message capacity).isOk ↔
      Postcard.size message + Cobs.fullBlocks 0 (Postcard.encode message) + 5 ≤ capacity := by
  have hlen : (frameMagic ++ protocolVersion :: Cobs.encode (Postcard.encode message)).length =
      Postcard.size message + Cobs.fullBlocks 0 (Postcard.encode message) + 5 := by
    simp only [frameMagic, List.length_append, List.length_cons, List.length_nil, Cobs.length_encode, Postcard.size]
    omega
  constructor
  · intro h
    cases he : encode message capacity with
    | error e => simp [he, Except.isOk, Except.toBool] at h
    | ok frame =>
      obtain ⟨hle, rfl⟩ := encode_eq_ok.mp he
      rwa [hlen] at hle
  · intro h
    rw [encode_eq_ok.mpr ⟨by rw [hlen]; exact h, rfl⟩]
    rfl

/-- An encoded frame is a run of non-zero bytes, at least four, and the delimiter. -/
theorem encode_shape {message : T} {capacity : Nat} {frame : List UInt8} (h : encode message capacity = .ok frame) :
    ∃ s, frame = s ++ [0] ∧ 0 ∉ s ∧ s ≠ [] ∧ s.length + 1 ≤ capacity := by
  obtain ⟨hle, rfl⟩ := encode_eq_ok.mp h
  refine ⟨frameMagic ++ protocolVersion :: Cobs.blocks [] (Postcard.encode message), ?_, ?_, ?_, ?_⟩
  · simp [Cobs.encode, frameMagic]
  · have h0 := @Cobs.zero_not_mem_blocks [] (Postcard.encode message) (by decide) (by simp)
    simp only [frameMagic, protocolVersion, List.mem_append, List.mem_cons, List.not_mem_nil, or_false, not_or]
    exact ⟨⟨by decide, by decide⟩, by decide, h0⟩
  · simp [frameMagic]
  · simpa [Cobs.encode, frameMagic] using hle

end Encode

section Decode
variable {T : Type} [Postcard T] {cobs : List UInt8 → Option (List UInt8)} {fromBytes : List UInt8 → Option T}

/-- Decoding undoes encoding, when the library decoders undo the library encoders. -/
theorem decode_encode (hcobs : ∀ data, cobs (Cobs.encode data) = some data)
    (hfrom : ∀ m : T, fromBytes (Postcard.encode m) = some m) {message : T} {capacity : Nat} {frame : List UInt8}
    (h : encode message capacity = .ok frame) : decode cobs fromBytes frame = .ok message := by
  obtain ⟨-, rfl⟩ := encode_eq_ok.mp h
  have hstart : frameMagic.isPrefixOf
      (frameMagic ++ protocolVersion :: Cobs.encode (Postcard.encode message)) = true := by
    simp [frameMagic]
  have hdrop : (frameMagic ++ protocolVersion :: Cobs.encode (Postcard.encode message)).drop 2 =
      protocolVersion :: Cobs.encode (Postcard.encode message) := rfl
  simp only [decode, hstart, hdrop, ↓reduceIte, ne_eq, not_true_eq_false, hcobs, Option.bind_eq_bind,
    Option.bind_some, hfrom]

end Decode

/-! ### Splitting a byte stream into frames -/

/-- The buffer of a decoder: `len` bytes of the pending frame, or a frame being discarded because it
    outgrew the buffer. One byte stays reserved for the delimiter. -/
structure FrameDecoder (N : Nat) where
  bytes : List UInt8
  len : Nat
  discarding : Bool
  length_bytes : bytes.length = N
  len_le : len ≤ N - 1

namespace FrameDecoder
variable {N : Nat}

def new (N : Nat) : FrameDecoder N := ⟨List.replicate N 0, 0, false, by simp, by omega⟩

/-- Adds one stream byte and returns a complete frame at a delimiter. -/
def push (d : FrameDecoder N) (byte : UInt8) : FrameDecoder N × Option (Except ProtocolError (List UInt8)) :=
  if byte = 0 then
    if d.discarding then
      ({ d with discarding := false, len := 0, len_le := by omega }, some (.error .frameTooLong))
    else if d.len = 0 then (d, some (.error .emptyFrame))
    else
      let bytes := d.bytes.set d.len 0
      ({ d with bytes, len := 0, length_bytes := by simp [bytes, d.length_bytes], len_le := by omega },
        some (.ok (bytes.take (d.len + 1))))
  else if d.discarding then (d, none)
  else if h : N = 0 ∨ d.len ≥ N - 1 then ({ d with discarding := true, len := 0, len_le := by omega }, none)
  else
    ({ d with
        bytes := d.bytes.set d.len byte
        len := d.len + 1
        length_bytes := by simp [d.length_bytes]
        len_le := by omega }, none)

/-- The results of a stretch of the stream, in order. -/
def pushAll (d : FrameDecoder N) : List UInt8 → FrameDecoder N × List (Except ProtocolError (List UInt8))
  | [] => (d, [])
  | byte :: rest =>
    let (d, result) := d.push byte
    let (d, results) := d.pushAll rest
    (d, result.toList ++ results)

/-- The results of a stream that arrives in pieces. -/
def pushChunks (d : FrameDecoder N) :
    List (List UInt8) → FrameDecoder N × List (Except ProtocolError (List UInt8))
  | [] => (d, [])
  | chunk :: rest =>
    let (d, first) := d.pushAll chunk
    let (d, results) := d.pushChunks rest
    (d, first ++ results)

theorem pushAll_append (d : FrameDecoder N) (a b : List UInt8) :
    d.pushAll (a ++ b) = (((d.pushAll a).1.pushAll b).1, (d.pushAll a).2 ++ ((d.pushAll a).1.pushAll b).2) := by
  induction a generalizing d with
  | nil => simp [pushAll]
  | cons byte a ih => simp [pushAll, ih, List.append_assoc]

/-- How a stream is cut into pieces makes no difference. -/
theorem pushChunks_eq (d : FrameDecoder N) (chunks : List (List UInt8)) :
    d.pushChunks chunks = d.pushAll chunks.flatten := by
  induction chunks generalizing d with
  | nil => rfl
  | cons chunk rest ih => simp [pushChunks, ih, pushAll_append]

/-- The bytes since the last delimiter, or `none` when there were too many of them. -/
def pending (d : FrameDecoder N) : Option (List UInt8) :=
  if d.discarding then none else some (d.bytes.take d.len)

/-- What a delimiter yields after the bytes of `pending`. -/
def result : Option (List UInt8) → Except ProtocolError (List UInt8)
  | none => .error .frameTooLong
  | some [] => .error .emptyFrame
  | some s => .ok (s ++ [0])

/-- The pending bytes after one more byte that is no delimiter. -/
def grow (N : Nat) (segment : Option (List UInt8)) (byte : UInt8) : Option (List UInt8) :=
  segment.bind fun s => if s.length + 1 < N then some (s ++ [byte]) else none

theorem length_take (d : FrameDecoder N) : (d.bytes.take d.len).length = d.len := by
  have h1 := d.length_bytes
  have h2 := d.len_le
  rw [List.length_take]
  omega

theorem take_set_succ {l : List UInt8} {i : Nat} (h : i < l.length) (x : UInt8) :
    (l.set i x).take (i + 1) = l.take i ++ [x] := by
  rw [List.take_add_one, List.take_set_of_le (Nat.le_refl i)]
  simp [h]

theorem push_zero (d : FrameDecoder N) :
    (d.push 0).1.pending = some [] ∧ (d.push 0).2 = some (result d.pending) := by
  have h1 := d.length_bytes
  have h2 := d.len_le
  by_cases hd : d.discarding = true
  · simp [push, hd, pending, result]
  · by_cases hl : d.len = 0
    · simp [push, hd, hl, pending, result]
    · have hlen : d.len < d.bytes.length := by omega
      have hne : d.bytes.take d.len ≠ [] := by
        intro h
        have := length_take d
        rw [h] at this
        simp at this
        omega
      obtain ⟨b, bs, hb⟩ := List.exists_cons_of_ne_nil hne
      simp [push, hd, hl, pending, take_set_succ hlen, hb, result]

theorem push_of_ne (d : FrameDecoder N) {byte : UInt8} (hb : byte ≠ 0) :
    (d.push byte).1.pending = grow N d.pending byte ∧ (d.push byte).2 = none := by
  have h1 := d.length_bytes
  have h2 := d.len_le
  have ht := length_take d
  by_cases hd : d.discarding = true
  · simp [push, hb, hd, pending, grow]
  · by_cases hl : N = 0 ∨ d.len ≥ N - 1
    · have hnot : ¬d.len + 1 < N := by omega
      rw [push, if_neg hb, if_neg hd, dif_pos hl]
      simp [pending, hd, grow, ht, hnot]
    · have hlt : d.len + 1 < N := by omega
      have hlen : d.len < d.bytes.length := by omega
      rw [push, if_neg hb, if_neg hd, dif_neg hl]
      simp [pending, hd, grow, ht, hlt, take_set_succ hlen]

/-- A segment of non-zero bytes that leaves room for the delimiter is pending as it is. -/
theorem pushAll_segment {s : List UInt8} (hz : 0 ∉ s) : ∀ (d : FrameDecoder N) (start : List UInt8),
    d.pending = some start → start.length + s.length + 1 ≤ N →
      (d.pushAll s).1.pending = some (start ++ s) ∧ (d.pushAll s).2 = [] := by
  induction s with
  | nil =>
    intro d start hp _
    simp [pushAll, hp]
  | cons byte rest ih =>
    intro d start hp hle
    simp only [List.mem_cons, not_or] at hz
    simp only [List.length_cons] at hle
    obtain ⟨hp', hn⟩ := push_of_ne d (fun h => hz.1 h.symm)
    have hgrow : (d.push byte).1.pending = some (start ++ [byte]) := by
      rw [hp', hp]
      simp [grow, show start.length + 1 < N by omega]
    obtain ⟨h1, h2⟩ := ih hz.2 (d.push byte).1 (start ++ [byte]) hgrow
      (by simp only [List.length_append, List.length_singleton]; omega)
    simp [pushAll, hn, h1, h2]

/-- A delimiter forgets what came before it. -/
theorem pushAll_delimited (d : FrameDecoder N) (g : List UInt8) : (d.pushAll (g ++ [0])).1.pending = some [] := by
  simp [pushAll_append, pushAll, (push_zero (d.pushAll g).1).1]

/-- A frame that fits the buffer, delimiter included, comes out as it is. -/
theorem pushAll_frame (d : FrameDecoder N) (hp : d.pending = some []) {s : List UInt8} (hz : 0 ∉ s) (hne : s ≠ [])
    (hle : s.length + 1 ≤ N) :
    (d.pushAll (s ++ [0])).1.pending = some [] ∧ (d.pushAll (s ++ [0])).2 = [.ok (s ++ [0])] := by
  obtain ⟨h1, h2⟩ := pushAll_segment hz d [] hp (by simpa using hle)
  obtain ⟨h3, h4⟩ := push_zero (d.pushAll s).1
  have hresult : result (some s) = .ok (s ++ [0]) := by
    obtain ⟨b, bs, rfl⟩ := List.exists_cons_of_ne_nil hne
    rfl
  rw [h1, List.nil_append, hresult] at h4
  simp [pushAll_append, pushAll, h2, h3, h4]

end FrameDecoder

/-! ### The decoder's memory, with every index checked -/

/-- The fields of a decoder as plain memory: nothing but the code keeps an index in range. -/
structure DecoderMemory where
  bytes : List UInt8
  len : Nat
  discarding : Bool

namespace DecoderMemory

def new (N : Nat) : DecoderMemory := ⟨List.replicate N 0, 0, false⟩

/-- Writes the byte at an index; `none` when the index is out of bounds. -/
def store (bytes : List UInt8) (index : Nat) (byte : UInt8) : Option (List UInt8) :=
  if index < bytes.length then some (bytes.set index byte) else none

/-- The slice of the first bytes; `none` when there are not as many. -/
def slice (bytes : List UInt8) (stop : Nat) : Option (List UInt8) :=
  if stop ≤ bytes.length then some (bytes.take stop) else none

/-- Adds one stream byte; `none` when an index is out of bounds. -/
def push (N : Nat) (d : DecoderMemory) (byte : UInt8) :
    Option (DecoderMemory × Option (Except ProtocolError (List UInt8))) :=
  if byte = 0 then
    if d.discarding then some ({ d with discarding := false, len := 0 }, some (.error .frameTooLong))
    else if d.len = 0 then some (d, some (.error .emptyFrame))
    else do
      let bytes ← store d.bytes d.len 0
      let frameLen := d.len + 1
      let frame ← slice bytes frameLen
      return ({ d with bytes, len := 0 }, some (.ok frame))
  else if d.discarding then some (d, none)
  else if N = 0 ∨ d.len ≥ N - 1 then some ({ d with discarding := true, len := 0 }, none)
  else do
    let bytes ← store d.bytes d.len byte
    return ({ d with bytes, len := d.len + 1 }, none)

/-- A returned frame is a slice of the memory, and its consumer decodes it in place. -/
def consumed (inPlace : List UInt8 → List UInt8) (d : DecoderMemory) :
    Option (Except ProtocolError (List UInt8)) → DecoderMemory
  | some (.ok frame) =>
    let decoded := (inPlace frame).take frame.length
    { d with bytes := decoded ++ d.bytes.drop decoded.length }
  | _ => d

/-- A stream byte after byte, each frame consumed before the next byte is pushed. -/
def pushAll (N : Nat) (inPlace : List UInt8 → List UInt8) (d : DecoderMemory) :
    List UInt8 → Option (DecoderMemory × List (Option (Except ProtocolError (List UInt8))))
  | [] => some (d, [])
  | byte :: rest => do
    let (d, answer) ← d.push N byte
    let (d, answers) ← pushAll N inPlace (d.consumed inPlace answer) rest
    return (d, answer :: answers)

end DecoderMemory

/-- The memory of a decoder. -/
def FrameDecoder.memory {N : Nat} (d : FrameDecoder N) : DecoderMemory := ⟨d.bytes, d.len, d.discarding⟩

/-- In the memory of a decoder every index is in range. -/
theorem FrameDecoder.push_memory {N : Nat} (d : FrameDecoder N) (byte : UInt8) :
    d.memory.push N byte = some ((d.push byte).1.memory, (d.push byte).2) := by
  have h1 := d.length_bytes
  have h2 := d.len_le
  unfold DecoderMemory.push FrameDecoder.push
  by_cases hb : byte = 0
  · by_cases hd : d.discarding = true
    · simp [hb, hd, memory]
    · by_cases hl : d.len = 0
      · simp [hb, hd, hl, memory]
      · have hlen : d.len < d.bytes.length := by omega
        have hslice : DecoderMemory.slice (d.bytes.set d.len 0) (d.len + 1) = some ((d.bytes.set d.len 0).take (d.len + 1)) :=
          if_pos (by rwa [List.length_set])
        simp [hb, hd, hl, memory, DecoderMemory.store, hslice, hlen]
  · by_cases hd : d.discarding = true
    · simp [hb, hd, memory]
    · by_cases hl : N = 0 ∨ d.len ≥ N - 1
      · rw [if_neg hb, if_neg hd, dif_pos hl, if_neg hb, if_neg hd, if_neg (show ¬d.memory.discarding = true from hd),
          if_pos (show N = 0 ∨ d.memory.len ≥ N - 1 from hl)]
        rfl
      · have hlen : d.len < d.bytes.length := by omega
        rw [if_neg hb, if_neg hd, dif_neg hl, if_neg hb, if_neg hd, if_neg (show ¬d.memory.discarding = true from hd),
          if_neg (show ¬(N = 0 ∨ d.memory.len ≥ N - 1) from hl)]
        simp [memory, DecoderMemory.store, hlen]

end Servatory
