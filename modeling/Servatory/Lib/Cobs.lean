/-! Consistent overhead byte stuffing. A message is cut into blocks at its zero bytes and after every
    254 bytes without one; each block is written behind a code byte, its length plus one, and the whole
    ends in the one zero byte, the delimiter. A block of 254 bytes is always followed by a new block. -/

namespace Cobs

/-- The longest run of data bytes in one block. -/
def maxBlock : Nat := 254

/-- The code byte of a block, then its bytes. -/
def block (data : List UInt8) : List UInt8 := UInt8.ofNat (data.length + 1) :: data

/-- The blocks of `data`, where `open_` holds the bytes of the block being filled. -/
def blocks (open_ : List UInt8) : List UInt8 → List UInt8
  | [] => block open_
  | byte :: rest =>
    if byte = 0 then block open_ ++ blocks [] rest
    else if open_.length + 1 = maxBlock then block (open_ ++ [byte]) ++ blocks [] rest
    else blocks (open_ ++ [byte]) rest

/-- The encoding of `data` with its delimiter. -/
def encode (data : List UInt8) : List UInt8 := blocks [] data ++ [0]

/-- Reads blocks up to the delimiter or the end. A block that is not the last one stands for the zero
    byte behind it, unless it is a full one. `none` when a block is cut short. -/
def decodeBlocks : Nat → List UInt8 → Option (List UInt8)
  | 0, _ => none
  | _ + 1, [] => some []
  | fuel + 1, code :: rest =>
    if code = 0 then some []
    else if rest.length < code.toNat - 1 then none
    else
      let data := rest.take (code.toNat - 1)
      let tail := rest.drop (code.toNat - 1)
      if 0 ∈ data then none
      else if code = 255 ∨ tail.head?.all (· = 0) then (decodeBlocks fuel tail).map (data ++ ·)
      else (decodeBlocks fuel tail).map (data ++ 0 :: ·)

/-- The data of an encoding, with or without its delimiter. -/
def decode (bytes : List UInt8) : Option (List UInt8) := decodeBlocks (bytes.length + 1) bytes

/-- Whether the code bytes lead from the end of one block to the next up to the last byte: `skip` bytes of the block that
    has been begun are still to come. -/
def chainEnds : Nat → List UInt8 → Bool
  | 0, [] => true
  | _ + 1, [] => false
  | 0, code :: rest => chainEnds (code.toNat - 1) rest
  | skip + 1, _ :: rest => chainEnds skip rest

/-- How many blocks of `data` are closed because they are full. -/
def fullBlocks (filled : Nat) : List UInt8 → Nat
  | [] => 0
  | byte :: rest =>
    if byte = 0 then fullBlocks 0 rest
    else if filled + 1 = maxBlock then fullBlocks 0 rest + 1
    else fullBlocks (filled + 1) rest

/-- The bytes of the open block come right behind the first code byte. -/
theorem blocks_eq_cons (open_ data : List UInt8) : ∃ code tail, blocks open_ data = code :: (open_ ++ tail) := by
  induction data generalizing open_ with
  | nil => exact ⟨_, [], by rw [List.append_nil]; rfl⟩
  | cons byte rest ih =>
    unfold blocks
    split
    · exact ⟨_, blocks [] rest, rfl⟩
    · split
      · exact ⟨_, byte :: blocks [] rest, by rw [block, List.cons_append, List.append_assoc]; rfl⟩
      · obtain ⟨code, tail, h⟩ := ih (open_ ++ [byte])
        exact ⟨code, byte :: tail, by simp [h]⟩

/-- The second byte of an encoding is the first byte of the data, unless that is zero and the first byte
    is one. -/
theorem encode_cons (byte : UInt8) (rest : List UInt8) :
    (∃ tail, encode (byte :: rest) = 1 :: tail) ∨ ∃ code tail, encode (byte :: rest) = code :: byte :: tail := by
  unfold encode blocks
  by_cases hz : byte = 0
  · left
    rw [if_pos hz]
    exact ⟨_, rfl⟩
  · right
    obtain ⟨code, tail, h⟩ := blocks_eq_cons [byte] rest
    rw [if_neg hz, if_neg (by decide), List.nil_append, h]
    exact ⟨code, tail ++ [0], rfl⟩

/-! ### Lengths -/

theorem length_block (data : List UInt8) : (block data).length = data.length + 1 := rfl

theorem length_blocks (open_ data : List UInt8) :
    (blocks open_ data).length = open_.length + data.length + 1 + fullBlocks open_.length data := by
  induction data generalizing open_ with
  | nil => simp [blocks, length_block, fullBlocks]
  | cons byte rest ih =>
    by_cases hz : byte = 0
    · simp [blocks, fullBlocks, hz, ih, length_block]
      omega
    · by_cases hf : open_.length + 1 = maxBlock
      · simp [blocks, fullBlocks, hz, hf, ih, length_block]
        omega
      · have h := ih (open_ ++ [byte])
        simp only [List.length_append, List.length_singleton] at h
        simp [blocks, fullBlocks, hz, hf, h]
        omega

/-- The encoding of `data` adds a code byte, one more for each full block, and the delimiter. -/
theorem length_encode (data : List UInt8) :
    (encode data).length = data.length + fullBlocks 0 data + 2 := by
  simp [encode, length_blocks]
  omega

theorem fullBlocks_mul_le (filled : Nat) (data : List UInt8) :
    fullBlocks filled data * maxBlock ≤ filled + data.length := by
  induction data generalizing filled with
  | nil => simp [fullBlocks]
  | cons byte rest ih =>
    unfold fullBlocks
    split
    · have := ih 0
      simp only [List.length_cons]
      omega
    · split
      · have := ih 0
        simp only [List.length_cons, Nat.succ_mul]
        omega
      · have := ih (filled + 1)
        simp only [List.length_cons]
        omega

theorem fullBlocks_le_div (data : List UInt8) : fullBlocks 0 data ≤ data.length / maxBlock := by
  have h := fullBlocks_mul_le 0 data
  rw [Nat.le_div_iff_mul_le (by decide)]
  omega

/-! ### The delimiter is the only zero byte -/

theorem code_ne_zero {data : List UInt8} (h : data.length ≤ maxBlock) : UInt8.ofNat (data.length + 1) ≠ 0 := by
  intro hz
  have : (UInt8.ofNat (data.length + 1)).toNat = 0 := by rw [hz]; rfl
  simp only [maxBlock] at h
  simp only [UInt8.toNat_ofNat'] at this
  omega

theorem zero_not_mem_block {data : List UInt8} (h : data.length ≤ maxBlock) (hz : 0 ∉ data) : 0 ∉ block data := by
  simp only [block, List.mem_cons, not_or]
  exact ⟨fun h0 => code_ne_zero h h0.symm, hz⟩

theorem zero_not_mem_blocks {open_ : List UInt8} (data : List UInt8) (hlen : open_.length < maxBlock)
    (hz : 0 ∉ open_) : 0 ∉ blocks open_ data := by
  induction data generalizing open_ with
  | nil => exact zero_not_mem_block (Nat.le_of_lt hlen) hz
  | cons byte rest ih =>
    have hnil : 0 ∉ blocks [] rest := ih (by decide) (by simp)
    unfold blocks
    split
    · simp only [List.mem_append, not_or]
      exact ⟨zero_not_mem_block (Nat.le_of_lt hlen) hz, hnil⟩
    · rename_i hb
      have hz' : 0 ∉ open_ ++ [byte] := by
        simp only [List.mem_append, List.mem_singleton, not_or]
        exact ⟨hz, fun h0 => hb h0.symm⟩
      split
      · rename_i hf
        simp only [List.mem_append, not_or]
        exact ⟨zero_not_mem_block (by simp [hf]) hz', hnil⟩
      · rename_i hf
        exact ih (by simp only [List.length_append, List.length_singleton]; omega) hz'

/-! ### Decoding undoes encoding -/

/-- Reading a block and then something that decodes to `tail`. -/
theorem decodeBlocks_block {data rest tail : List UInt8} {fuel : Nat} (hlen : data.length ≤ maxBlock)
    (hz : 0 ∉ data) (hrest : decodeBlocks fuel rest = some tail) :
    decodeBlocks (fuel + 1) (block data ++ rest) =
      some (if data.length = maxBlock ∨ rest.head?.all (· = 0) then data ++ tail else data ++ 0 :: tail) := by
  have hcode : (UInt8.ofNat (data.length + 1)).toNat - 1 = data.length := by
    simp only [maxBlock] at hlen
    simp only [UInt8.toNat_ofNat']
    omega
  have hfull : UInt8.ofNat (data.length + 1) = 255 ↔ data.length = maxBlock := by
    simp only [maxBlock] at hlen ⊢
    constructor
    · intro h
      have : (UInt8.ofNat (data.length + 1)).toNat = 255 := by rw [h]; rfl
      simp only [UInt8.toNat_ofNat'] at this
      omega
    · intro h
      rw [h]
      rfl
  simp only [block, List.cons_append, decodeBlocks]
  rw [if_neg (code_ne_zero hlen), hcode, if_neg (by simp)]
  simp only [List.take_left', List.drop_left', if_neg hz, hfull, hrest, Option.map_some]
  split <;> simp_all

/-- The blocks of `data`, read with the delimiter behind them. -/
theorem decodeBlocks_blocks {open_ : List UInt8} (data : List UInt8) (hlen : open_.length < maxBlock)
    (hz : 0 ∉ open_) {fuel : Nat} (hfuel : (blocks open_ data).length < fuel) :
    decodeBlocks fuel (blocks open_ data ++ [0]) = some (open_ ++ data) := by
  induction data generalizing open_ fuel with
  | nil =>
    obtain ⟨fuel, rfl⟩ : ∃ f, fuel = f + 2 := ⟨fuel - 2, by simp [blocks, length_block] at hfuel; omega⟩
    have hend : decodeBlocks (fuel + 1) [0] = some [] := by simp [decodeBlocks]
    simp [blocks, decodeBlocks_block (Nat.le_of_lt hlen) hz hend]
  | cons byte rest ih =>
    have hpos : 0 < fuel := by omega
    obtain ⟨fuel, rfl⟩ : ∃ f, fuel = f + 1 := ⟨fuel - 1, by omega⟩
    -- The blocks that follow start with a code byte, which is not the delimiter.
    have hhead : ((blocks [] rest ++ [0]).head?.all (· = 0)) = false := by
      have hne : blocks [] rest ≠ [] := by
        intro h
        have := length_blocks [] rest
        rw [h] at this
        simp only [List.length_nil] at this
        omega
      obtain ⟨b, bs, hb⟩ := List.exists_cons_of_ne_nil hne
      have h0 : 0 ∉ blocks [] rest := zero_not_mem_blocks rest (by decide) (by simp)
      rw [hb] at h0 ⊢
      simp only [List.mem_cons, not_or] at h0
      simpa using fun h => h0.1 h.symm
    by_cases hb : byte = 0
    · subst hb
      simp only [blocks, ↓reduceIte] at hfuel ⊢
      simp only [List.length_append, length_block] at hfuel
      have hrest := @ih [] (by decide) (by simp) fuel (by omega)
      rw [List.append_assoc, decodeBlocks_block (Nat.le_of_lt hlen) hz hrest]
      simp only [hhead, Bool.false_eq_true, or_false, Nat.ne_of_lt hlen, ↓reduceIte, List.nil_append]
    · have hz' : 0 ∉ open_ ++ [byte] := by
        simp only [List.mem_append, List.mem_singleton, not_or]
        exact ⟨hz, fun h0 => hb h0.symm⟩
      by_cases hf : open_.length + 1 = maxBlock
      · simp only [blocks, hb, hf, ↓reduceIte] at hfuel ⊢
        simp only [List.length_append, length_block, List.length_singleton] at hfuel
        have hrest := @ih [] (by decide) (by simp) fuel (by omega)
        rw [List.append_assoc, decodeBlocks_block (by simp [hf]) hz' hrest]
        simp [hf]
      · simp only [blocks, hb, hf, ↓reduceIte] at hfuel ⊢
        rw [ih (by simp only [List.length_append, List.length_singleton]; omega) hz' hfuel]
        simp

theorem decode_encode (data : List UInt8) : decode (encode data) = some data :=
  decodeBlocks_blocks data (by decide) (by simp) (by simp only [encode, List.length_append, List.length_singleton]; omega)

/-! ### What decodes at all -/

theorem chainEnds_drop (skip : Nat) (bytes : List UInt8) :
    chainEnds skip bytes = (decide (skip ≤ bytes.length) && chainEnds 0 (bytes.drop skip)) := by
  induction bytes generalizing skip with
  | nil => cases skip <;> simp [chainEnds]
  | cons byte rest ih =>
    cases skip with
    | zero => simp
    | succ skip => simp [chainEnds, ih skip]

/-- Reading one block that is not the delimiter. -/
theorem decodeBlocks_cons {code : UInt8} {rest : List UInt8} {fuel : Nat} (hcode : code ≠ 0) (hz : 0 ∉ rest) :
    decodeBlocks (fuel + 1) (code :: rest ++ [0]) =
      if code.toNat - 1 ≤ rest.length then
        (decodeBlocks fuel (rest.drop (code.toNat - 1) ++ [0])).map fun tail =>
          rest.take (code.toNat - 1) ++ if code = 255 ∨ rest.drop (code.toNat - 1) = [] then tail else 0 :: tail
      else none := by
  rw [List.cons_append, decodeBlocks, if_neg hcode]
  generalize code.toNat - 1 = k
  by_cases hle : k ≤ rest.length
  · have htake : (rest ++ [0]).take k = rest.take k := List.take_append_of_le_length hle
    have hdrop : (rest ++ [0]).drop k = rest.drop k ++ [0] := List.drop_append_of_le_length hle
    have hdata : 0 ∉ rest.take k := fun h => hz (List.mem_of_mem_take h)
    have hhead : (rest.drop k ++ [0]).head?.all (· = 0) = true ↔ rest.drop k = [] := by
      cases htail : rest.drop k with
      | nil => simp
      | cons byte tail =>
        have hmem : byte ∈ rest.drop k := by
          rw [htail]
          exact List.mem_cons_self
        have hbyte : byte ≠ 0 := by
          rintro rfl
          exact hz (List.mem_of_mem_drop hmem)
        simp [hbyte]
    rw [if_pos hle, if_neg (by simp only [List.length_append, List.length_singleton]; omega)]
    simp only [htake, hdrop, if_neg hdata, hhead]
    split <;> rfl
  · rw [if_neg hle]
    by_cases hshort : (rest ++ [0]).length < k
    · rw [if_pos hshort]
    · -- The block takes the delimiter for one of its bytes.
      have hk : k = (rest ++ [0]).length := by
        simp only [List.length_append, List.length_singleton] at hshort ⊢
        omega
      rw [if_neg hshort, hk, List.take_length]
      simp

theorem decodeBlocks_isSome {bytes : List UInt8} (hz : 0 ∉ bytes) {fuel : Nat} (h : bytes.length < fuel) :
    (decodeBlocks fuel (bytes ++ [0])).isSome = chainEnds 0 bytes := by
  induction fuel generalizing bytes with
  | zero => omega
  | succ fuel ih =>
    cases bytes with
    | nil => simp [decodeBlocks, chainEnds]
    | cons code rest =>
      rw [List.mem_cons, not_or] at hz
      rw [decodeBlocks_cons (Ne.symm hz.1) hz.2, chainEnds, chainEnds_drop]
      by_cases hle : code.toNat - 1 ≤ rest.length
      · have hrest : 0 ∉ rest.drop (code.toNat - 1) := fun h0 => hz.2 (List.mem_of_mem_drop h0)
        rw [if_pos hle, Option.isSome_map, ih hrest]
        · simp [hle]
        · rw [List.length_drop]
          rw [List.length_cons] at h
          omega
      · simp [hle]

/-- A delimited run of other bytes decodes when its blocks end where the delimiter stands. -/
theorem decode_isSome {bytes : List UInt8} (hz : 0 ∉ bytes) : (decode (bytes ++ [0])).isSome = chainEnds 0 bytes :=
  decodeBlocks_isSome hz (by rw [List.length_append]; omega)

/-- It decodes to nothing when there is nothing but an empty block. -/
theorem decode_eq_nil {bytes : List UInt8} (hz : 0 ∉ bytes) : decode (bytes ++ [0]) = some [] ↔ bytes = [] ∨ bytes = [1] := by
  cases bytes with
  | nil => simp [decode, decodeBlocks]
  | cons code rest =>
    rw [List.mem_cons, not_or] at hz
    constructor
    · intro h
      rw [decode, decodeBlocks_cons (Ne.symm hz.1) hz.2] at h
      split at h
      · rename_i hle
        obtain ⟨tail, -, hnil⟩ := Option.map_eq_some_iff.mp h
        obtain ⟨hdata, hrest⟩ := List.append_eq_nil_iff.mp hnil
        have hlast : code = 255 ∨ rest.drop (code.toNat - 1) = [] := by
          refine Decidable.byContradiction fun hnot => ?_
          rw [if_neg hnot] at hrest
          cases hrest
        have hrest : rest = [] := by
          rcases hlast with rfl | hdrop
          · have hlen := congrArg List.length hdata
            have hfull : (255 : UInt8).toNat = 255 := rfl
            rw [List.length_take, hfull, List.length_nil] at hlen
            exact List.eq_nil_of_length_eq_zero (by omega)
          · rw [← List.take_append_drop (code.toNat - 1) rest, hdata, hdrop]
            rfl
        subst hrest
        have hcode : code.toNat ≠ 0 := fun h0 => hz.1 (UInt8.toNat_inj.mp (h0.trans rfl)).symm
        have hone : code.toNat = 1 := by
          simp only [List.length_nil] at hle
          omega
        exact .inr (congrArg (· :: []) (UInt8.toNat_inj.mp (hone.trans rfl)))
      · cases h
    · rintro (h | h)
      · cases h
      · rw [h]
        rfl

end Cobs
