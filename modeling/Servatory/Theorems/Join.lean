import Servatory.Theorems.Stick.Frame
import Servatory.Theorems.Stream

/-! A receiver that joins a stream in the middle of a frame. A tail without the magic is taken for a frame of one of the
    protocols that had none, and the first byte it decodes to is reported as a version. -/

namespace Servatory

/-- The tail of a frame is not taken for a frame of another protocol: it goes on with the current version behind bytes
    that look like the magic, as the whole frame does, or else its blocks do not end where the delimiter stands, or hold
    nothing. -/
def Joinable (suffix : List UInt8) : Prop :=
  if frameMagic.isPrefixOf suffix then suffix[2]? = some protocolVersion
  else Cobs.chainEnds 0 suffix.dropLast = false ∨ suffix.dropLast = [] ∨ suffix.dropLast = [1]

section
variable {cobs : List UInt8 → Option (List UInt8)} {fromBytes : List UInt8 → Option HostMessage}

/-- Which delimited bytes are reported as another version. -/
theorem decodeHost_joined_iff (hcobs : ∀ bytes, 0 ∉ bytes → cobs (bytes ++ [0]) = Cobs.decode (bytes ++ [0]))
    {bytes : List UInt8} (hz : 0 ∉ bytes) :
    (∀ version, decodeHost cobs fromBytes (bytes ++ [0]) ≠ .error (.unsupportedVersion version)) ↔
      Joinable (bytes ++ [0]) := by
  rw [decodeHost, decode, Joinable, List.dropLast_concat]
  by_cases hmagic : frameMagic.isPrefixOf (bytes ++ [0]) = true
  · obtain ⟨tail, htail⟩ := List.isPrefixOf_iff_prefix.mp hmagic
    have hversion : ∃ version payload, tail = version :: payload := by
      refine List.exists_cons_of_ne_nil ?_
      rintro rfl
      have hlast := congrArg List.getLast? htail
      simp [frameMagic] at hlast
    obtain ⟨version, payload, rfl⟩ := hversion
    rw [if_pos hmagic, if_pos hmagic, ← htail]
    by_cases hsame : version = protocolVersion
    · simp only [frameMagic, hsame, List.cons_append, List.nil_append, List.drop_succ_cons, List.drop_zero, ne_eq,
        not_true_eq_false, ↓reduceIte, List.getElem?_cons_succ, List.getElem?_cons_zero, iff_true]
      intro other heq
      split at heq <;> cases heq
    · simp only [frameMagic, List.cons_append, List.nil_append, List.drop_succ_cons, List.drop_zero, ne_eq, hsame,
        not_false_eq_true, ↓reduceIte, List.getElem?_cons_succ, List.getElem?_cons_zero, Option.some.injEq, iff_false]
      exact fun hall => hall version rfl
  · rw [if_neg hmagic, if_neg hmagic, hcobs bytes hz, ← Cobs.decode_isSome hz, ← Cobs.decode_eq_nil hz]
    cases hdecoded : Cobs.decode (bytes ++ [0]) with
    | none => exact ⟨fun _ => .inl rfl, fun _ version heq => by cases heq⟩
    | some data =>
      cases data with
      | nil => exact ⟨fun _ => .inr rfl, fun _ version heq => by cases heq⟩
      | cons received data =>
        constructor
        · exact fun hall => absurd rfl (hall received)
        · rintro (hnone | hnil)
          · cases hnone
          · cases hnil

/-- An encoded frame is never reported as another version. -/
theorem decodeHost_encoded (hcobs : ∀ bytes, 0 ∉ bytes → cobs (bytes ++ [0]) = Cobs.decode (bytes ++ [0]))
    {message : HostMessage} {frame : List UInt8} (h : encodeHost message maxHostFrameLen = .ok frame) (version : UInt8) :
    decodeHost cobs fromBytes frame ≠ .error (.unsupportedVersion version) := by
  obtain ⟨bytes, hbytes, hz, -, -⟩ := encode_shape h
  obtain ⟨-, hframe⟩ := encode_eq_ok.mp h
  have hjoinable : Joinable frame := by
    rw [hframe]
    rfl
  rw [hbytes] at hjoinable ⊢
  exact (decodeHost_joined_iff hcobs hz).mpr hjoinable version

end

/-- A stuffed message does not start with the magic. -/
theorem not_frameMagic_isPrefixOf (message : HostMessage) :
    frameMagic.isPrefixOf (Cobs.encode (Postcard.encode message)) = false := by
  obtain ⟨tag, rest, henc, htag⟩ := HostMessage.encode_eq_cons message
  have hne : tag ≠ 0x5a := by
    rintro rfl
    exact absurd htag (by decide)
  rw [henc]
  rcases Cobs.encode_cons tag rest with ⟨tail, h⟩ | ⟨code, tail, h⟩
  · rw [h]
    simp [frameMagic, List.isPrefixOf]
  · rw [h]
    simp [frameMagic, List.isPrefixOf, hne.symm]

/-- Behind its header, a frame reads as one of another protocol: the number of the message's variant is taken for a
    version. -/
theorem not_joinable_stuffed (message : HostMessage) : ¬Joinable (Cobs.encode (Postcard.encode message)) := by
  obtain ⟨tag, rest, henc, -⟩ := HostMessage.encode_eq_cons message
  have hz : 0 ∉ Cobs.blocks [] (Postcard.encode message) := Cobs.zero_not_mem_blocks _ (by decide) (by simp)
  intro hjoinable
  refine (@decodeHost_joined_iff Cobs.decode (fun _ => none) (fun _ _ => rfl) _ hz).mpr hjoinable tag ?_
  have hmagic := not_frameMagic_isPrefixOf message
  have hdecode := Cobs.decode_encode (Postcard.encode message)
  rw [Cobs.encode] at hmagic hdecode
  simp only [decodeHost, decode, hmagic, Bool.false_eq_true, ↓reduceIte, hdecode]
  rw [henc]

/-! ### The Stick -/

theorem exists_messages {frames : List (List UInt8)}
    (h : ∀ frame ∈ frames, ∃ message, encodeHost message maxHostFrameLen = .ok frame) :
    ∃ messages, List.Forall₂ (fun message frame => encodeHost message maxHostFrameLen = .ok frame) messages frames := by
  induction frames with
  | nil => exact ⟨[], .nil⟩
  | cons frame rest ih =>
    obtain ⟨⟨message, hmessage⟩, hrest⟩ := List.forall_mem_cons.mp h
    obtain ⟨messages, hmessages⟩ := ih hrest
    exact ⟨message :: messages, .cons hmessage hmessages⟩

namespace FrameDecoder

/-- What a delimiter completes behind the bytes of a new decoder. -/
theorem pushAll_delimiter {bytes : List UInt8} (hz : 0 ∉ bytes) (hle : bytes.length + 1 ≤ maxHostFrameLen) :
    ((new maxHostFrameLen).pushAll (bytes ++ [0])).1.pending = some [] ∧
      ((new maxHostFrameLen).pushAll (bytes ++ [0])).2 = [result (some bytes)] := by
  obtain ⟨hpending, hnone⟩ := pushAll_segment hz (new maxHostFrameLen) [] rfl (by simpa using hle)
  obtain ⟨hnext, hresult⟩ := push_zero ((new maxHostFrameLen).pushAll bytes).1
  rw [hpending, List.nil_append] at hresult
  simp [pushAll_append, pushAll, hnone, hnext, hresult]

end FrameDecoder

namespace Stick
variable {build : SoftwareVersion} {decode : List UInt8 → Except ProtocolError HostMessage}

/-- The inputs of a run bring the frames of a stream that is read in pieces. -/
def Reads (decode : List UInt8 → Except ProtocolError HostMessage) :
    FrameDecoder maxHostFrameLen → List (List UInt8) → List Input → Prop
  | _, [], [] => True
  | decoder, chunk :: chunks, i :: inputs =>
    i.frames = (readFrames decode decoder chunk).2 ∧ Reads decode (readFrames decode decoder chunk).1 chunks inputs
  | _, _, _ => False

theorem Reads.frames {decoder : FrameDecoder maxHostFrameLen} {chunks : List (List UInt8)} {inputs : List Input}
    (h : Reads decode decoder chunks inputs) :
    inputs.flatMap (·.frames) = (readFrames decode decoder chunks.flatten).2 := by
  induction chunks generalizing decoder inputs with
  | nil =>
    cases inputs with
    | nil => rfl
    | cons i inputs => exact h.elim
  | cons chunk chunks ih =>
    cases inputs with
    | nil => exact h.elim
    | cons i inputs =>
      obtain ⟨hframes, hrest⟩ := h
      rw [List.flatMap_cons, hframes, ih hrest]
      simp only [readFrames, List.flatten_cons, FrameDecoder.pushAll_append, List.filterMap_append, List.map_append]

/-- Another protocol is found in a frame only. -/
theorem daemon_receive_ne {now : Nat} {s : Stick} {frame : Except ProtocolError HostMessage}
    (hframe : ∀ version, frame ≠ .error (.unsupportedVersion version)) (hs : s.daemon ≠ .incompatible) :
    (s.receive build now frame).daemon ≠ .incompatible := by
  cases frame with
  | error error =>
    cases error with
    | unsupportedVersion version => exact absurd rfl (hframe version)
    | _ => exact hs
  | ok message =>
    rw [receive]
    cases message with
    | hello version session =>
      intro h
      cases h
    | _ =>
      rw [handle]
      · split
        · exact hs
        · intro h
          first
          | exact hs h
          | cases h
      · rintro _ _ ⟨⟩

theorem daemon_iterate_ne {s : Stick} {i : Input} (hframes : ∀ frame ∈ i.frames, ∀ version,
    frame ≠ .error (.unsupportedVersion version)) (hs : s.daemon ≠ .incompatible) :
    (s.iterate build i).1.daemon ≠ .incompatible := by
  have hreceived : (s.received build i).daemon ≠ .incompatible := by
    rw [received]
    have hbegin : (s.begin build i).daemon ≠ .incompatible := by rwa [daemon_of_core (core_begin build s i)]
    revert hbegin
    generalize s.begin build i = t
    generalize i.frames = frames at hframes
    induction frames generalizing t with
    | nil => exact id
    | cons frame rest ih =>
      obtain ⟨hfirst, hrest⟩ := List.forall_mem_cons.mp hframes
      exact fun ht => ih _ hrest (daemon_receive_ne hfirst ht)
  have hfin : (s.iterate build i).1.daemon = ((s.received build i).checkLink i.now).daemon :=
    congrArg Core.daemon (core_finish _ i)
  rw [hfin, daemon_checkLink]
  split
  · intro h
    cases h
  · exact hreceived

theorem daemon_run_ne {s : Stick} {inputs : List Input} (hframes : ∀ frame ∈ inputs.flatMap (·.frames), ∀ version,
    frame ≠ .error (.unsupportedVersion version)) (hs : s.daemon ≠ .incompatible) :
    (s.run build inputs).daemon ≠ .incompatible := by
  induction inputs generalizing s with
  | nil => exact hs
  | cons i rest ih =>
    rw [List.flatMap_cons, List.forall_mem_append] at hframes
    exact ih hframes.2 (daemon_iterate_ne hframes.1 hs)

/-- A frame of another protocol is all the Stick needs to stop. -/
theorem daemon_iterate_unsupported (s : Stick) {i : Input} {version : UInt8}
    (h : i.frames = [.error (.unsupportedVersion version)]) : (s.iterate build i).1.daemon = .incompatible := by
  have hr : (s.received build i).daemon = .incompatible := by
    rw [received, h]
    rfl
  have hfin : (s.iterate build i).1.daemon = ((s.received build i).checkLink i.now).daemon :=
    congrArg Core.daemon (core_finish _ i)
  rw [hfin, daemon_checkLink, if_neg (fun ht => by simp [TimesOut, hr] at ht), hr]

end Stick

/-- What a new decoder makes of a stream that begins with some bytes and a delimiter and goes on with whole frames. -/
theorem mem_readFrames {decode : List UInt8 → Except ProtocolError HostMessage} {bytes : List UInt8} (hz : 0 ∉ bytes)
    (hle : bytes.length + 1 ≤ maxHostFrameLen) {rest : List (List UInt8)}
    (hrest : ∀ frame ∈ rest, ∃ message, encodeHost message maxHostFrameLen = .ok frame) {stream : List UInt8}
    (hstream : stream <+: bytes ++ [0] ++ rest.flatten) {frame : Except ProtocolError HostMessage}
    (h : frame ∈ (Stick.readFrames decode (.new maxHostFrameLen) stream).2) :
    frame = decode (bytes ++ [0]) ∨ ∃ whole ∈ rest, frame = decode whole := by
  obtain ⟨later, hlater⟩ := hstream
  obtain ⟨hpending, hfirst⟩ := FrameDecoder.pushAll_delimiter hz hle
  obtain ⟨messages, hmessages⟩ := exists_messages hrest
  have hall : ((FrameDecoder.new maxHostFrameLen).pushAll (bytes ++ [0] ++ rest.flatten)).2 =
      FrameDecoder.result (some bytes) :: rest.map .ok := by
    rw [FrameDecoder.pushAll_append, hfirst, (FrameDecoder.pushAll_frames hmessages _ hpending).1]
    rfl
  obtain ⟨whole, hwhole, rfl⟩ := List.mem_map.mp h
  obtain ⟨result, hresult, hok⟩ := List.mem_filterMap.mp hwhole
  have hmem : result ∈ FrameDecoder.result (some bytes) :: rest.map .ok := by
    rw [← hall, ← hlater, FrameDecoder.pushAll_append]
    exact List.mem_append_left _ hresult
  rcases List.mem_cons.mp hmem with rfl | hmem
  · cases bytes with
    | nil => cases hok
    | cons byte bytes => exact .inl (congrArg decode (Option.some.inj hok).symm)
  · obtain ⟨other, hother, rfl⟩ := List.mem_map.mp hmem
    obtain rfl := Option.some.inj hok
    exact .inr ⟨_, hother, rfl⟩

/-- Which tails of the frame of a message are safe to join: whatever whole frames follow, and however they are read, the
    Stick does not turn incompatible. Behind the header of each frame is a tail that is not. `cobs` is the library's
    decoder, which reads the format. -/
theorem joined_incompatible_iff {cobs : List UInt8 → Option (List UInt8)} {fromBytes : List UInt8 → Option HostMessage}
    (hcobs : ∀ bytes, 0 ∉ bytes → cobs (bytes ++ [0]) = Cobs.decode (bytes ++ [0])) {message : HostMessage}
    {frame : List UInt8} (h : encodeHost message maxHostFrameLen = .ok frame) :
    (∀ suffix, suffix ≠ [] → suffix <:+ frame →
      ((∀ version, decodeHost cobs fromBytes suffix ≠ .error (.unsupportedVersion version)) ↔ Joinable suffix) ∧
      ((∀ (rest : List (List UInt8)) (chunks : List (List UInt8)) (inputs : List Input),
        (∀ whole ∈ rest, ∃ other, encodeHost other maxHostFrameLen = .ok whole) →
        chunks.flatten <+: suffix ++ rest.flatten → Stick.Reads (decodeHost cobs fromBytes) (.new _) chunks inputs →
        ∀ (build : SoftwareVersion) (network : SharedState) (start : Nat),
          ((Stick.boot build network start).run build inputs).daemon ≠ .incompatible) ↔ Joinable suffix)) ∧
    ∃ suffix, suffix ≠ [] ∧ suffix <:+ frame ∧ ¬Joinable suffix := by
  obtain ⟨whole, hwhole, hz, -, hle⟩ := encode_shape h
  refine ⟨fun suffix hne hsuffix => ?_, Cobs.encode (Postcard.encode message), by simp [Cobs.encode], ?_,
    not_joinable_stuffed message⟩
  · obtain ⟨before, hbefore⟩ := hsuffix
    obtain ⟨bytes, last, rfl⟩ := (List.eq_nil_or_concat suffix).resolve_left hne
    rw [List.concat_eq_append] at hbefore ⊢
    rw [hwhole, ← List.append_assoc] at hbefore
    obtain ⟨hsplit, hlast⟩ := List.append_inj' hbefore rfl
    obtain rfl := List.singleton_inj.mp hlast
    have hz' : 0 ∉ bytes := fun h0 => hz (hsplit ▸ List.mem_append_right before h0)
    have hle' : bytes.length + 1 ≤ maxHostFrameLen := by
      rw [← hsplit, List.length_append] at hle
      omega
    have hiff := @decodeHost_joined_iff cobs fromBytes hcobs bytes hz'
    refine ⟨hiff, ?_⟩
    rw [← hiff]
    constructor
    · intro hall version heq
      have hread : (Stick.readFrames (decodeHost cobs fromBytes) (.new maxHostFrameLen) (bytes ++ [0])).2 =
          [.error (.unsupportedVersion version)] := by
        cases bytes with
        | nil => exact absurd heq (hiff.mpr (.inr (.inl rfl)) version)
        | cons byte bytes =>
          rw [Stick.readFrames]
          simp only [(FrameDecoder.pushAll_delimiter hz' hle').2]
          exact congrArg (· :: []) heq
      refine hall [] [bytes ++ [0]] [⟨0, true, _, false, 0⟩] (by simp) (by simp) ⟨rfl, trivial⟩ ⟨"1.0"⟩ .new 0 ?_
      exact Stick.daemon_iterate_unsupported _ hread
    · intro hjoined rest chunks inputs hrest hstream hreads build network start
      refine Stick.daemon_run_ne (fun frame hframe => ?_) (fun h => by cases h)
      rw [hreads.frames] at hframe
      rcases mem_readFrames hz' hle' hrest hstream hframe with rfl | ⟨whole, hmem, rfl⟩
      · exact hjoined
      · obtain ⟨other, hother⟩ := hrest whole hmem
        exact decodeHost_encoded hcobs hother
  · obtain ⟨-, rfl⟩ := encode_eq_ok.mp h
    exact ⟨frameMagic ++ [protocolVersion], by simp⟩

/-- The frame of an acceptance, joined at its second byte: that is read as a code byte, 90, and leads behind the end. A
    second such frame follows. -/
theorem joined_incompatible_accepted :
    (∀ version, decodeHost Cobs.decode (Postcard.fromBytes HostMessage) [0x5a, 10, 1, 1, 0] ≠
      .error (.unsupportedVersion version)) ∧
    ∀ chunks inputs, chunks.flatten = [0x5a, 10, 1, 1, 0] ++ [0xa5, 0x5a, 10, 1, 1, 0] →
      Stick.Reads (decodeHost Cobs.decode (Postcard.fromBytes HostMessage)) (.new _) chunks inputs →
        ((Stick.boot ⟨"1.0"⟩ .new 0).run ⟨"1.0"⟩ inputs).daemon ≠ .incompatible := by
  obtain ⟨hdecode, hstick⟩ := (@joined_incompatible_iff Cobs.decode (Postcard.fromBytes HostMessage) (fun _ _ => rfl)
    .shutdownAccepted _ rfl).1 [0x5a, 10, 1, 1, 0] (by decide) ⟨[0xa5], rfl⟩
  have hjoinable : Joinable [0x5a, 10, 1, 1, 0] := .inl rfl
  refine ⟨hdecode.mpr hjoinable, fun chunks inputs hchunks hreads => ?_⟩
  have hwhole : ∀ whole ∈ [[0xa5, 0x5a, 10, 1, 1, 0]], ∃ other, encodeHost other maxHostFrameLen = .ok whole :=
    List.forall_mem_singleton.mpr ⟨.shutdownAccepted, rfl⟩
  exact hstick.mpr hjoinable _ chunks inputs hwhole (by rw [hchunks]; exact List.prefix_refl _) hreads ⟨"1.0"⟩ .new 0

/-- The shortest frame, joined behind its header. -/
theorem joined_shutdownAccepted :
    encodeHost .shutdownAccepted maxHostFrameLen = .ok [0xa5, 0x5a, 10, 1, 1, 0] ∧
    decodeHost Cobs.decode (Postcard.fromBytes HostMessage) [1, 1, 0] = .error (.unsupportedVersion 0) ∧
    ((Stick.boot ⟨"1.0"⟩ .new 0).iterate ⟨"1.0"⟩
      ⟨0, true, (Stick.readFrames (decodeHost Cobs.decode (Postcard.fromBytes HostMessage)) (.new maxHostFrameLen)
        [1, 1, 0]).2, false, 0⟩).1.daemon = .incompatible := by
  have hread : (Stick.readFrames (decodeHost Cobs.decode (Postcard.fromBytes HostMessage)) (.new maxHostFrameLen)
      [1, 1, 0]).2 = [.error (.unsupportedVersion 0)] := by
    rw [Stick.readFrames]
    simp only [show ([1, 1, 0] : List UInt8) = [1, 1] ++ [0] from rfl,
      (@FrameDecoder.pushAll_delimiter [1, 1] (by decide) (by decide)).2]
    rfl
  exact ⟨rfl, rfl, Stick.daemon_iterate_unsupported _ hread⟩

end Servatory
