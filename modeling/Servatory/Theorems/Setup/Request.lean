import Servatory.Theorems.Setup.Form

/-! When a request has been read: behind a header whose length does not make the sum of sizes wrap, it has the body that
    the header declares, and how its bytes arrive makes no difference. -/

namespace Servatory

/-! ### The header -/

variable {buffer more : List UInt8} {header : List Char}

theorem requestHeader_eq_some : requestHeader buffer = some header ↔
    ∃ text body, buffer = Utf8.encode text ∧ Text.splitAtFirst headerEnd text = some (header, body) := by
  rw [requestHeader, Option.bind_eq_bind, Option.bind_eq_some_iff]
  constructor
  · rintro ⟨text, htext, h⟩
    obtain ⟨⟨before, body⟩, hsplit, heq⟩ := Option.bind_eq_some_iff.mp h
    cases heq
    exact ⟨text, body, Utf8.eq_encode_of_decode htext, hsplit⟩
  · rintro ⟨text, body, rfl, hsplit⟩
    refine ⟨text, Utf8.decode_encode text, ?_⟩
    rw [hsplit]
    rfl

/-- More text does not change the header. -/
theorem requestHeader_of_prefix {header' : List Char} (hbegins : buffer <+: more)
    (h : requestHeader buffer = some header) (h' : requestHeader more = some header') : header' = header := by
  obtain ⟨text, body, rfl, hsplit⟩ := requestHeader_eq_some.mp h
  obtain ⟨text', body', rfl, hsplit'⟩ := requestHeader_eq_some.mp h'
  obtain ⟨rest, rfl⟩ := Utf8.prefix_of_encode hbegins
  rw [Text.splitAtFirst_append hsplit rest] at hsplit'
  cases hsplit'
  rfl

/-- The whole header is there, and at least as much of the body as the header declares. -/
def IsWhole (buffer : List UInt8) : Prop :=
  ∃ text header body, Utf8.decode buffer = some text ∧ Text.splitAtFirst headerEnd text = some (header, body) ∧
    contentLength header ≤ (Utf8.encode body).length

/-- Where the declared body ends. -/
def requestLength (header : List Char) : Nat := (Utf8.encode header).length + 4 + contentLength header

theorem length_of_split {text body : List Char} (h : Text.splitAtFirst headerEnd text = some (header, body)) :
    (Utf8.encode text).length = (Utf8.encode header).length + 4 + (Utf8.encode body).length := by
  have hend : (Utf8.encode headerEnd).length = 4 := by decide
  rw [Text.splitAtFirst_eq_some h, Utf8.encode_append, Utf8.encode_append, List.length_append, List.length_append, hend]

theorem isWhole_iff (h : requestHeader buffer = some header) : IsWhole buffer ↔ requestLength header ≤ buffer.length := by
  obtain ⟨text, body, rfl, hsplit⟩ := requestHeader_eq_some.mp h
  have hlength := length_of_split hsplit
  rw [requestLength, hlength, Nat.add_le_add_iff_left]
  constructor
  · rintro ⟨text', header', body', htext, hsplit', hle⟩
    rw [Utf8.decode_encode] at htext
    cases htext
    rw [hsplit] at hsplit'
    cases hsplit'
    exact hle
  · exact fun hle => ⟨text, header, body, Utf8.decode_encode text, hsplit, hle⟩

theorem contentLength_lt (header : List Char) : contentLength header < UInt32.size := by
  rw [contentLength]
  cases hfind : (Text.lines header).findSome? _ with
  | none => exact Nat.zero_lt_succ _
  | some n =>
    obtain ⟨line, -, hline⟩ := List.exists_of_findSome?_eq_some hfind
    obtain ⟨⟨key, value⟩, -, hvalue⟩ := Option.bind_eq_some_iff.mp hline
    exact Text.parseUnsigned_lt (Option.ite_none_right_eq_some.mp hvalue).2

theorem isComplete_iff : isComplete buffer ↔
    ∃ header, requestHeader buffer = some header ∧ requestLength header % UInt32.size ≤ buffer.length := by
  rw [isComplete]
  cases requestHeader buffer with
  | none => exact iff_of_false Bool.false_ne_true nofun
  | some header => simp [requestLength]

/-- The check behind a read finds what it looks for as long as the sum does not wrap. -/
theorem isComplete_iff_of_lt (h : requestHeader buffer = some header) (hlt : requestLength header < UInt32.size) :
    isComplete buffer ↔ IsWhole buffer := by
  rw [isWhole_iff h, isComplete_iff]
  constructor
  · rintro ⟨header', h', hle⟩
    rw [h] at h'
    cases h'
    rwa [Nat.mod_eq_of_lt hlt] at hle
  · exact fun hle => ⟨header, h, (Nat.mod_le _ _).trans hle⟩

/-- Once it wraps, the header is enough. -/
theorem isComplete_of_le (h : requestHeader buffer = some header) (hle : UInt32.size ≤ requestLength header) :
    isComplete buffer := by
  refine isComplete_iff.mpr ⟨header, h, ?_⟩
  obtain ⟨text, body, rfl, hsplit⟩ := requestHeader_eq_some.mp h
  have hlength := length_of_split hsplit
  have hcontent := contentLength_lt header
  rw [Nat.mod_eq_sub_mod hle]
  refine (Nat.mod_le _ _).trans ?_
  rw [requestLength, hlength]
  omega

/-! ### Reading -/

variable {capacity : Nat} {chunks : List (List UInt8)}

theorem readRequest_cons {chunk : List UInt8} (hroom : buffer.length < capacity) (hchunk : chunk ≠ []) :
    readRequest capacity buffer (chunk :: chunks) =
      if isComplete (buffer ++ chunk.take (capacity - buffer.length)) then
        (buffer ++ chunk.take (capacity - buffer.length), .complete)
      else readRequest capacity (buffer ++ chunk.take (capacity - buffer.length)) chunks := by
  rw [readRequest, if_pos hroom, if_neg fun hempty => hchunk (List.isEmpty_iff.mp hempty)]

/-- What was read is kept. -/
theorem prefix_readRequest (capacity : Nat) (buffer : List UInt8) (chunks : List (List UInt8)) :
    buffer <+: (readRequest capacity buffer chunks).1 := by
  induction chunks generalizing buffer with
  | nil => exact List.prefix_refl buffer
  | cons chunk chunks ih =>
    rw [readRequest]
    split
    · split
      · exact List.prefix_refl buffer
      · have hnext := List.prefix_append buffer (chunk.take (capacity - buffer.length))
        dsimp only
        split
        · exact hnext
        · exact hnext.trans (ih _)
    · exact List.prefix_refl buffer

/-- What leaves room was read as a whole. -/
theorem take_room {chunk : List UInt8} (h : (buffer ++ chunk.take (capacity - buffer.length)).length < capacity) :
    chunk.take (capacity - buffer.length) = chunk := by
  rw [List.length_append, List.length_take] at h
  exact List.take_of_length_le (by omega)

/-- What was read when the check held. -/
theorem readRequest_complete (h : (readRequest capacity buffer chunks).2 = .complete)
    (hroom : (readRequest capacity buffer chunks).1.length < capacity) :
    ∃ before, before <+: chunks ∧ (∀ c ∈ before, c ≠ []) ∧
      (readRequest capacity buffer chunks).1 = buffer ++ before.flatten ∧ isComplete (buffer ++ before.flatten) := by
  induction chunks generalizing buffer with
  | nil =>
    rw [readRequest] at h
    dsimp only at h
    split at h <;> cases h
  | cons chunk chunks ih =>
    have hbuffer := (prefix_readRequest capacity buffer (chunk :: chunks)).length_le.trans_lt hroom
    by_cases hchunk : chunk = []
    · rw [readRequest, if_pos hbuffer, if_pos (List.isEmpty_iff.mpr hchunk)] at h
      cases h
    · rw [readRequest_cons hbuffer hchunk] at h hroom ⊢
      split at h
      · rename_i hcomplete
        rw [if_pos hcomplete] at hroom ⊢
        rw [take_room hroom] at hcomplete ⊢
        refine ⟨[chunk], List.prefix_append [chunk] chunks, List.forall_mem_singleton.mpr hchunk, ?_, ?_⟩
        · rw [List.flatten_singleton]
        · rwa [List.flatten_singleton]
      · rename_i hcomplete
        rw [if_neg hcomplete] at hroom ⊢
        have hnext := (prefix_readRequest capacity (buffer ++ chunk.take (capacity - buffer.length)) chunks).length_le
        have htake := take_room (hnext.trans_lt hroom)
        rw [htake] at h hroom ⊢
        obtain ⟨before, hbegins, hne, heq, hbefore⟩ := ih h hroom
        rw [List.append_assoc, ← List.flatten_cons] at heq hbefore
        exact ⟨chunk :: before, List.cons_prefix_cons.mpr ⟨rfl, hbegins⟩, List.forall_mem_cons.mpr ⟨hchunk, hne⟩, heq, hbefore⟩

/-- Reading goes no further than where the check first holds. -/
theorem readRequest_of_isComplete {before : List (List UInt8)} (hbegins : before <+: chunks) (hne : ∀ c ∈ before, c ≠ [])
    (hbefore : before ≠ []) (hroom : (buffer ++ before.flatten).length < capacity)
    (hcomplete : isComplete (buffer ++ before.flatten)) :
    (readRequest capacity buffer chunks).2 = .complete ∧
      (readRequest capacity buffer chunks).1 <+: buffer ++ before.flatten := by
  induction chunks generalizing buffer before with
  | nil => exact absurd (List.prefix_nil.mp hbegins) hbefore
  | cons chunk chunks ih =>
    obtain ⟨first, before, rfl⟩ := List.exists_cons_of_ne_nil hbefore
    obtain ⟨heq, hrest⟩ := List.cons_prefix_cons.mp hbegins
    subst heq
    rw [List.forall_mem_cons] at hne
    rw [List.flatten_cons, ← List.append_assoc] at hroom hcomplete ⊢
    have hlength := (List.prefix_append (buffer ++ first) before.flatten).length_le
    rw [List.length_append] at hlength
    have htake : first.take (capacity - buffer.length) = first := List.take_of_length_le (by omega)
    rw [readRequest_cons (by omega) hne.1, htake]
    split
    · exact ⟨rfl, List.prefix_append _ _⟩
    · rename_i hnot
      refine ih hrest hne.2 ?_ hroom hcomplete
      rintro rfl
      rw [List.flatten_nil, List.append_nil] at hcomplete
      exact hnot hcomplete

/-- All of some bytes are read when the check first holds behind their last chunk. -/
theorem readRequest_all (hne : ∀ c ∈ chunks, c ≠ []) (hchunks : chunks ≠ [])
    (hroom : (buffer ++ chunks.flatten).length ≤ capacity)
    (hnot : ∀ before, before <+: chunks → before ≠ chunks → isComplete (buffer ++ before.flatten) = false)
    (hcomplete : isComplete (buffer ++ chunks.flatten)) :
    readRequest capacity buffer chunks = (buffer ++ chunks.flatten, .complete) := by
  induction chunks generalizing buffer with
  | nil => exact absurd rfl hchunks
  | cons chunk chunks ih =>
    rw [List.forall_mem_cons] at hne
    rw [List.flatten_cons, ← List.append_assoc] at hroom hcomplete ⊢
    have hlength := (List.prefix_append (buffer ++ chunk) chunks.flatten).length_le
    have hpositive := List.length_pos_iff.mpr hne.1
    rw [List.length_append] at hlength
    have htake : chunk.take (capacity - buffer.length) = chunk := List.take_of_length_le (by omega)
    rw [readRequest_cons (by omega) hne.1, htake]
    by_cases hlast : chunks = []
    · subst hlast
      rw [List.flatten_nil, List.append_nil] at hcomplete ⊢
      rw [if_pos hcomplete]
    · have hfirst := hnot [chunk] (List.prefix_append [chunk] chunks) fun heq => hlast (List.cons.inj heq).2.symm
      rw [List.flatten_singleton] at hfirst
      rw [hfirst, if_neg Bool.false_ne_true]
      refine ih hne.2 hlast hroom (fun before hbegins hbefore => ?_) hcomplete
      have hstep := hnot (chunk :: before) (List.cons_prefix_cons.mpr ⟨rfl, hbegins⟩) fun heq => hbefore (List.cons.inj heq).2
      rwa [List.flatten_cons, ← List.append_assoc] at hstep

/-! ### Requests -/

/-- No header that is read makes the sum of sizes wrap. -/
def NeverWraps (capacity : Nat) (chunks : List (List UInt8)) : Prop :=
  ∀ before, before <+: chunks → (∀ c ∈ before, c ≠ []) → before.flatten.length < capacity →
    ∀ header, requestHeader before.flatten = some header → requestLength header < UInt32.size

theorem requestHeader_nil : requestHeader [] = none := by
  refine Option.eq_none_iff_forall_ne_some.mpr fun header h => ?_
  obtain ⟨text, body, htext, hsplit⟩ := requestHeader_eq_some.mp h
  have hlength := length_of_split hsplit
  rw [← htext, List.length_nil] at hlength
  omega

/-- Reading stops with the whole request for all that the header declares, exactly when the sum does not wrap. -/
theorem isWhole_readRequest_iff (hcapacity : capacity < UInt32.size) :
    ((readRequest capacity [] chunks).2 = .complete → (readRequest capacity [] chunks).1.length < capacity →
      IsWhole (readRequest capacity [] chunks).1) ↔ NeverWraps capacity chunks := by
  constructor
  · intro hwhole before hbegins hne hroom header hheader
    by_contra hwrap
    rw [Nat.not_lt] at hwrap
    have hbefore : before ≠ [] := by
      rintro rfl
      rw [List.flatten_nil, requestHeader_nil] at hheader
      cases hheader
    obtain ⟨hstop, hread⟩ : (readRequest capacity [] chunks).2 = .complete ∧
        (readRequest capacity [] chunks).1 <+: [] ++ before.flatten :=
      readRequest_of_isComplete hbegins hne hbefore hroom (isComplete_of_le hheader hwrap)
    have hlength := hread.length_le.trans_lt hroom
    obtain ⟨before', -, -, heq, hcomplete⟩ := readRequest_complete hstop hlength
    rw [← heq] at hcomplete
    obtain ⟨header', hheader', -⟩ := isComplete_iff.mp hcomplete
    obtain rfl := requestHeader_of_prefix hread hheader' hheader
    have hle := (isWhole_iff hheader').mp (hwhole hstop hlength)
    omega
  · intro hnever hstop hlength
    obtain ⟨before, hbegins, hne, heq, hcomplete⟩ := readRequest_complete hstop hlength
    rw [List.nil_append] at heq hcomplete
    rw [heq] at hlength ⊢
    obtain ⟨header, hheader, -⟩ := isComplete_iff.mp hcomplete
    exact (isComplete_iff_of_lt hheader (hnever before hbegins hne hlength header hheader)).mp hcomplete

/-- A request with its declared body is read as a whole. -/
theorem readRequest_exact (hcapacity : capacity < UInt32.size) (hne : ∀ c ∈ chunks, c ≠ [])
    (hheader : requestHeader chunks.flatten = some header) (hexact : chunks.flatten.length = requestLength header)
    (hroom : chunks.flatten.length ≤ capacity) : readRequest capacity [] chunks = (chunks.flatten, .complete) := by
  have hlt : requestLength header < UInt32.size := hexact ▸ hroom.trans_lt hcapacity
  have hchunks : chunks ≠ [] := by
    rintro rfl
    rw [List.flatten_nil, requestHeader_nil] at hheader
    cases hheader
  refine readRequest_all hne hchunks hroom (fun before hbegins hbefore => ?_) ?_
  · rw [Bool.eq_false_iff]
    intro hcomplete
    obtain ⟨rest, rfl⟩ := hbegins
    rw [List.flatten_append] at hheader hexact
    obtain ⟨header', hheader', -⟩ := isComplete_iff.mp hcomplete
    obtain rfl := requestHeader_of_prefix (List.prefix_append before.flatten rest.flatten) hheader' hheader
    have hwhole := (isWhole_iff hheader').mp ((isComplete_iff_of_lt hheader' hlt).mp hcomplete)
    rw [List.nil_append] at hwhole
    rw [List.length_append] at hexact
    cases rest with
    | nil => exact hbefore (List.append_nil before).symm
    | cons chunk rest =>
      have hpositive := List.length_pos_iff.mpr (hne chunk (List.mem_append_right _ (List.mem_cons_self ..)))
      rw [List.flatten_cons, List.length_append] at hexact
      omega
  · exact (isComplete_iff_of_lt hheader hlt).mpr ((isWhole_iff hheader).mpr hexact.ge)

/-- What stops the reading is a whole request exactly when no sum wraps, and a request with just its declared body is
    read as it was sent. -/
theorem readRequest_iff (capacity : UInt32) (chunks : List (List UInt8)) :
    (((readRequest capacity.toNat [] chunks).2 = .complete →
        (readRequest capacity.toNat [] chunks).1.length < capacity.toNat →
        IsWhole (readRequest capacity.toNat [] chunks).1) ↔ NeverWraps capacity.toNat chunks) ∧
      ∀ header, requestHeader chunks.flatten = some header → chunks.flatten.length = requestLength header →
        chunks.flatten.length ≤ capacity.toNat → (∀ c ∈ chunks, c ≠ []) →
        (readRequest capacity.toNat [] chunks).1 = chunks.flatten := by
  refine ⟨isWhole_readRequest_iff capacity.toNat_lt, fun header hheader hexact hroom hne => ?_⟩
  rw [readRequest_exact capacity.toNat_lt hne hheader hexact hroom]

theorem readRequest_wraps :
    ¬∀ (capacity : UInt32) (chunks : List (List UInt8)), (readRequest capacity.toNat [] chunks).2 = .complete →
      (readRequest capacity.toNat [] chunks).1.length < capacity.toNat →
      IsWhole (readRequest capacity.toNat [] chunks).1 := by
  intro h
  let header := "POST /configure HTTP/1.1\r\nContent-Length: 4294967295".toList
  let request := Utf8.encode (header ++ headerEnd)
  have hnever := (isWhole_readRequest_iff (UInt32.toNat_lt 3072)).mp (h 3072 [request]) [request] (List.prefix_refl _)
  have hheader : requestHeader request = some header := requestHeader_eq_some.mpr ⟨_, [], rfl, by decide⟩
  have hcontent : contentLength header = 4294967295 := by decide
  have hlt := hnever (by decide) (by decide) header (by rw [List.flatten_singleton]; exact hheader)
  rw [requestLength, hcontent, UInt32.size] at hlt
  omega

/-- Valid settings that are sent are stored, however the request arrives. -/
theorem provisioningServer_stores {p : Provisioning} {body : List Char} (hvalid : p.isValid) (hform : IsForm p body)
    (hpost : "POST /configure ".toList <+: header)
    (hsplit : Text.splitAtFirst headerEnd (header ++ headerEnd ++ body) = some (header, body))
    (hlength : contentLength header = (Utf8.encode body).length) (hne : ∀ c ∈ chunks, c ≠ [])
    (hchunks : chunks.flatten = Utf8.encode (header ++ headerEnd ++ body))
    (hroom : chunks.flatten.length ≤ requestCapacity) : provisioningServer chunks = some p := by
  have hheader : requestHeader chunks.flatten = some header := requestHeader_eq_some.mpr ⟨_, body, hchunks, hsplit⟩
  have hexact : chunks.flatten.length = requestLength header := by
    rw [hchunks, length_of_split hsplit, requestLength, hlength]
  have hstart : "POST /configure ".toList.isPrefixOf (header ++ headerEnd ++ body) := by
    rw [List.isPrefixOf_iff_prefix, List.append_assoc]
    exact hpost.trans (List.prefix_append header _)
  rw [provisioningServer, readRequest_exact (by decide) hne hheader hexact hroom, hchunks, requestedProvisioning,
    Utf8.decode_encode]
  dsimp only [Option.getD_some]
  rw [if_pos hstart, hsplit]
  exact (parseProvisioning_eq hform).trans (if_pos hvalid)

end Servatory
