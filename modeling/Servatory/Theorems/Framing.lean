import Servatory.Lib.Segments
import Servatory.Protocol.Frame

/-! What the framing makes of any bytes at all: the decoder splits a stream at its zero bytes, and a frame of the
    protocols through v5 is recognised by its version. -/

namespace Servatory

/-! ### The decoder splits at zero -/

/-- What a delimiter yields after a segment, by its length alone. -/
def verdict (N : Nat) (segment : List UInt8) : Except ProtocolError (List UInt8) :=
  if segment = [] then .error .emptyFrame
  else if N < segment.length + 1 then .error .frameTooLong
  else .ok (segment ++ [0])

namespace FrameDecoder
variable {N : Nat}

/-- The segment the decoder would hold if its buffer had no end. -/
def Holds (d : FrameDecoder N) (segment : List UInt8) : Prop :=
  d.pending = if segment = [] ∨ segment.length + 1 ≤ N then some segment else none

theorem holds_new : (new N).Holds [] := by simp [Holds, pending, new]

theorem result_eq_verdict {d : FrameDecoder N} {segment : List UInt8} (h : d.Holds segment) :
    result d.pending = verdict N segment := by
  rw [h]
  unfold verdict
  by_cases hnil : segment = []
  · rw [if_pos (.inl hnil), if_pos hnil, hnil]
    rfl
  · by_cases hlen : segment.length + 1 ≤ N
    · obtain ⟨b, bs, rfl⟩ := List.exists_cons_of_ne_nil hnil
      rw [if_pos (.inr hlen), if_neg hnil, if_neg (by omega)]
      rfl
    · rw [if_neg (by rintro (h | h) <;> contradiction), if_neg hnil, if_pos (by omega)]
      rfl

/-- One byte keeps the segment, and answers as splitting at zero does. -/
theorem Holds.push {d : FrameDecoder N} {segment : List UInt8} (h : d.Holds segment) (byte : UInt8) :
    (d.push byte).1.Holds (Segments.advance 0 segment byte) ∧
      (d.push byte).2 = Segments.answer 0 (verdict N) segment byte := by
  by_cases hb : byte = 0
  · subst hb
    obtain ⟨hp, hr⟩ := push_zero d
    rw [Segments.advance_sep, Segments.answer_sep, hr, result_eq_verdict h]
    exact ⟨by simp [Holds, hp], rfl⟩
  · obtain ⟨hp, hr⟩ := push_of_ne d hb
    rw [Segments.advance_of_ne hb, Segments.answer_of_ne hb]
    refine ⟨?_, hr⟩
    unfold Holds
    rw [hp, h]
    by_cases hlen : segment.length + 1 < N
    · have hor : segment = [] ∨ segment.length + 1 ≤ N := .inr (by omega)
      have hlonger : (segment ++ [byte]).length + 1 ≤ N := by
        rw [List.length_append, List.length_singleton]
        omega
      rw [if_pos hor, grow, Option.bind_some, if_pos hlen, if_pos (.inr hlonger)]
    · -- Whether the segment was held or dropped, one more byte is too many.
      have hnone : grow N (if segment = [] ∨ segment.length + 1 ≤ N then some segment else none) byte = none := by
        split <;> simp [grow, hlen]
      rw [hnone, if_neg]
      rintro (h | h)
      · simp at h
      · simp only [List.length_append, List.length_singleton] at h
        omega

/-- A returned frame is a slice of the buffer, and the decoder has let go of it. -/
theorem push_ok {d : FrameDecoder N} {byte : UInt8} {frame : List UInt8} (h : (d.push byte).2 = some (.ok frame)) :
    frame.length ≤ N ∧ (d.push byte).1.pending = some [] ∧ (d.push byte).1.len = 0 := by
  have h1 := d.length_bytes
  by_cases hb : byte = 0
  · subst hb
    refine ⟨?_, (push_zero d).1, ?_⟩
    · by_cases hd : d.discarding = true
      · simp [push, hd] at h
      · by_cases hl : d.len = 0
        · simp [push, hd, hl] at h
        · simp only [push, ↓reduceIte, hd, hl, Bool.false_eq_true, Option.some.injEq, Except.ok.injEq] at h
          rw [← h, List.length_take, List.length_set, h1]
          omega
    · by_cases hd : d.discarding = true
      · simp [push, hd]
      · by_cases hl : d.len = 0 <;> simp [push, hd, hl]
  · rw [(push_of_ne d hb).2] at h
    cases h

/-- What the consumer of a frame writes into it is no longer pending. -/
theorem Holds.consumed {d : FrameDecoder N} {segment : List UInt8} (h : d.Holds segment) (byte : UInt8)
    (inPlace : List UInt8 → List UInt8) :
    ∃ d' : FrameDecoder N, (d.push byte).1.memory.consumed inPlace (d.push byte).2 = d'.memory ∧
      d'.Holds (Segments.advance 0 segment byte) := by
  obtain ⟨hh, -⟩ := h.push byte
  cases ha : (d.push byte).2 with
  | none => exact ⟨_, rfl, hh⟩
  | some answer =>
    cases answer with
    | error e => exact ⟨_, rfl, hh⟩
    | ok frame =>
      obtain ⟨hframe, hp, hlen⟩ := push_ok ha
      have hbytes := (d.push byte).1.length_bytes
      let decoded := (inPlace frame).take frame.length
      have hdecoded : decoded.length ≤ N := by
        rw [List.length_take]
        omega
      refine ⟨{ (d.push byte).1 with
        bytes := decoded ++ (d.push byte).1.bytes.drop decoded.length, length_bytes := ?_ }, rfl, ?_⟩
      · rw [List.length_append, List.length_drop]
        omega
      · unfold Holds at hh ⊢
        rw [← hh, hp]
        unfold pending at hp ⊢
        by_cases hd : (d.push byte).1.discarding = true
        · rw [if_pos hd] at hp
          cases hp
        · simp [hd, hlen]

end FrameDecoder

namespace DecoderMemory
variable {N : Nat}

theorem new_memory (N : Nat) : new N = (FrameDecoder.new N).memory := rfl

/-- A run answers every byte, as splitting at zero does from the segment that is held. -/
theorem pushAll_eq (inPlace : List UInt8 → List UInt8) (stream : List UInt8) :
    ∀ {d : FrameDecoder N} {segment : List UInt8}, d.Holds segment →
      ∃ d' : FrameDecoder N, d.memory.pushAll N inPlace stream =
          some (d'.memory, Segments.answers 0 (verdict N) segment stream) ∧
        d'.Holds (stream.foldl (Segments.advance 0) segment) := by
  induction stream with
  | nil => exact fun h => ⟨_, rfl, h⟩
  | cons byte rest ih =>
    intro d segment h
    obtain ⟨d', hd', hh⟩ := h.consumed byte inPlace
    obtain ⟨d'', hd'', hh'⟩ := ih hh
    refine ⟨d'', ?_, hh'⟩
    rw [(h.push byte).2] at hd'
    rw [pushAll, FrameDecoder.push_memory, (h.push byte).2, Option.bind_eq_bind, Option.bind_some]
    simp only [hd', hd'', Option.bind_eq_bind, Option.bind_some, Segments.answers]
    rfl

/-- A new decoder splits any stream at its zero bytes. No index is ever out of bounds; a zero byte yields the
    verdict on the bytes since the zero byte before it, and no other byte yields anything; and behind a zero byte the
    decoder answers as a new one does. What the consumers write into the frames they get makes no difference. -/
theorem decoder_splits (N : Nat) (inPlace : List UInt8 → List UInt8) (stream : List UInt8) :
    ∃ d answers, (new N).pushAll N inPlace stream = some (d, answers) ∧
      (∀ i, answers[i]? = stream[i]?.map fun byte =>
        if byte = 0 then some (verdict N ((stream.take i).rtakeWhile (· ≠ 0))) else none) ∧
      answers.filterMap id = (stream.splitOn 0).dropLast.map (verdict N) ∧
      ∀ (earlier : List UInt8) (inPlace' : List UInt8 → List UInt8), ∃ d' before,
        before.length = earlier.length + 1 ∧
        (new N).pushAll N inPlace' (earlier ++ [0] ++ stream) = some (d', before ++ answers) := by
  obtain ⟨d, hrun, -⟩ := pushAll_eq inPlace stream (@FrameDecoder.holds_new N)
  refine ⟨d.memory, _, hrun, ?_, Segments.filterMap_answers stream, ?_⟩
  · intro i
    rw [Segments.answers_getElem?, Segments.foldl_advance]
    rfl
  · intro earlier inPlace'
    obtain ⟨d', hrun', -⟩ := pushAll_eq inPlace' (earlier ++ [0] ++ stream) (@FrameDecoder.holds_new N)
    refine ⟨d'.memory, Segments.answers 0 (verdict N) [] (earlier ++ [0]), ?_, ?_⟩
    · rw [Segments.length_answers, List.length_append, List.length_singleton]
    · rw [new_memory, hrun', Segments.answers_append, List.foldl_concat, Segments.advance_sep]

end DecoderMemory

/-! ### Frames of the protocols through v5 -/

section Legacy
variable {T : Type} {cobs : List UInt8 → Option (List UInt8)} {fromBytes : List UInt8 → Option T}

/-- An encoding whose first data byte is not the second magic byte does not start with the magic: its first byte is
    either one, or a length in front of that data byte. -/
theorem not_magic_encode {byte : UInt8} (hbyte : byte ≠ 0x5a) (rest : List UInt8) :
    frameMagic.isPrefixOf (Cobs.encode (byte :: rest)) = false := by
  rcases Cobs.encode_cons byte rest with ⟨tail, h⟩ | ⟨code, tail, h⟩
  · rw [h]
    simp [frameMagic, List.isPrefixOf]
  · rw [h]
    simp [frameMagic, List.isPrefixOf, Ne.symm hbyte]

/-- A frame of the protocols through v5 is the encoding of its version byte and whatever followed it. It never starts
    with the magic, and decoding it reports the version. The hypothesis is the law of the stuffing library: its
    decoder undoes its encoder. -/
theorem legacy_version_reported (hcobs : ∀ data, cobs (Cobs.encode data) = some data) {version : UInt8}
    (hversion : version ≤ 5) (tail : List UInt8) :
    frameMagic.isPrefixOf (Cobs.encode (version :: tail)) = false ∧
      decode cobs fromBytes (Cobs.encode (version :: tail)) = .error (.unsupportedVersion version) := by
  have hmagic : frameMagic.isPrefixOf (Cobs.encode (version :: tail)) = false := by
    refine not_magic_encode ?_ tail
    rintro rfl
    exact absurd hversion (by decide)
  refine ⟨hmagic, ?_⟩
  rw [decode, hmagic, if_neg Bool.false_ne_true, hcobs]

/-- A version-four frame with a long tail, zeros included. -/
theorem legacy_version_reported_long :
    (4 : UInt8) ≤ 5 ∧
      frameMagic.isPrefixOf (Cobs.encode (4 :: (List.replicate 600 7 ++ [0, 0, 9]))) = false ∧
      decode (T := HostMessage) Cobs.decode (fun _ => none) (Cobs.encode (4 :: (List.replicate 600 7 ++ [0, 0, 9]))) =
        .error (.unsupportedVersion 4) :=
  ⟨by decide, legacy_version_reported Cobs.decode_encode (by decide) _⟩

end Legacy
end Servatory
