import Mathlib.Algebra.Order.Ring.Nat

/-! A compact wire format without type information: integers of more than one byte are little-endian
    groups of seven bits, strings and sequences carry their length, options a tag byte, enumerations
    the number of their variant, and the fields of a record follow one another. A type of the class
    reads back what it wrote, whatever bytes follow. -/

/-- A type with a wire form that is read back exactly. -/
class Postcard (α : Type) where
  encode : α → List UInt8
  decode : List UInt8 → Option (α × List UInt8)
  decode_encode : ∀ (a : α) (rest : List UInt8), decode (encode a ++ rest) = some (a, rest)

namespace Postcard
variable {α β : Type}

attribute [simp] decode_encode

/-- The number of bytes of the wire form. -/
def size [Postcard α] (a : α) : Nat := (encode a).length

/-- The value a whole message holds; bytes behind it are not looked at. -/
def fromBytes (α : Type) [Postcard α] (bytes : List UInt8) : Option α := (decode bytes).map (·.1)

theorem fromBytes_encode [Postcard α] (a : α) : fromBytes α (encode a) = some a := by
  have h := decode_encode a []
  rw [List.append_nil] at h
  simp [fromBytes, h]

/-! ### Numbers -/

/-- The groups of seven bits of `n`, lowest first, all but the last with the high bit set. -/
def varintAux : Nat → Nat → List UInt8
  | 0, n => [UInt8.ofNat n]
  | fuel + 1, n =>
    if n < 128 then [UInt8.ofNat n] else UInt8.ofNat (n % 128 + 128) :: varintAux fuel (n / 128)

def varint (n : Nat) : List UInt8 := varintAux n n

def readVarint : List UInt8 → Option (Nat × List UInt8)
  | [] => none
  | byte :: rest =>
    if byte.toNat < 128 then some (byte.toNat, rest)
    else (readVarint rest).map fun (m, rest) => (byte.toNat - 128 + 128 * m, rest)

/-- The number of groups of seven bits of `n`. -/
def varintLen (n : Nat) : Nat := (varint n).length

theorem readVarint_varintAux {fuel n : Nat} (h : n ≤ fuel) (rest : List UInt8) :
    readVarint (varintAux fuel n ++ rest) = some (n, rest) := by
  induction fuel generalizing n with
  | zero =>
    obtain rfl : n = 0 := by omega
    rfl
  | succ fuel ih =>
    unfold varintAux
    split
    · rename_i hlt
      have hn : (UInt8.ofNat n).toNat = n := by simp only [UInt8.toNat_ofNat']; omega
      simp [readVarint, hn, hlt]
    · rename_i hge
      have hn : (UInt8.ofNat (n % 128 + 128)).toNat = n % 128 + 128 := by simp only [UInt8.toNat_ofNat']; omega
      have hnot : ¬(n % 128 + 128 < 128) := by omega
      simp only [List.cons_append, readVarint, hn, if_neg hnot, ih (n := n / 128) (by omega), Option.map_some,
        Option.some.injEq, Prod.mk.injEq, and_true]
      omega

@[simp] theorem readVarint_varint (n : Nat) (rest : List UInt8) :
    readVarint (varint n ++ rest) = some (n, rest) := readVarint_varintAux (Nat.le_refl n) rest

theorem varintLen_pos (n : Nat) : 0 < varintLen n := by
  cases n with
  | zero => decide
  | succ n =>
    unfold varintLen varint varintAux
    split <;> simp

theorem length_varintAux_le {fuel n k : Nat} (h : n < 128 ^ (k + 1)) : (varintAux fuel n).length ≤ k + 1 := by
  induction fuel generalizing n k with
  | zero => exact Nat.le_add_left 1 k
  | succ fuel ih =>
    rw [varintAux]
    split
    · exact Nat.le_add_left 1 k
    · rename_i hge
      cases k with
      | zero => exact absurd h hge
      | succ k =>
        rw [List.length_cons]
        exact Nat.succ_le_succ (ih (Nat.div_lt_of_lt_mul (Nat.pow_succ' ▸ h)))

/-- A group for every factor of 128. -/
theorem varintLen_le {n k : Nat} (h : n < 128 ^ (k + 1)) : varintLen n ≤ k + 1 := length_varintAux_le h

/-- Numbers below `bound`, for a type whose values they are. -/
@[reducible] def ofNat (bound : Nat) (toNat : α → Nat) (ofNat : Nat → α) (lt : ∀ a, toNat a < bound)
    (inv : ∀ a, ofNat (toNat a) = a) : Postcard α where
  encode a := varint (toNat a)
  decode bytes := do
    let (n, rest) ← readVarint bytes
    if n < bound then some (ofNat n, rest) else none
  decode_encode a rest := by simp [lt a, inv a]

instance : Postcard UInt16 := ofNat (2 ^ 16) UInt16.toNat UInt16.ofNat UInt16.toNat_lt (by simp)
instance : Postcard UInt32 := ofNat (2 ^ 32) UInt32.toNat UInt32.ofNat UInt32.toNat_lt (by simp)
instance : Postcard UInt64 := ofNat (2 ^ 64) UInt64.toNat UInt64.ofNat UInt64.toNat_lt (by simp)

instance : Postcard UInt8 where
  encode byte := [byte]
  decode
    | [] => none
    | byte :: rest => some (byte, rest)
  decode_encode _ _ := rfl

instance : Postcard Int8 where
  encode i := [i.toUInt8]
  decode
    | [] => none
    | byte :: rest => some (⟨byte⟩, rest)
  decode_encode _ _ := rfl

instance : Postcard Bool where
  encode b := [if b then 1 else 0]
  decode
    | [] => none
    | byte :: rest => if byte = 0 then some (false, rest) else if byte = 1 then some (true, rest) else none
  decode_encode b _ := by cases b <;> rfl

/-- A field-less enumeration, by the number of its variant. -/
@[reducible] def enum (code : α → Nat) (ofCode : Nat → Option α) (inv : ∀ a, ofCode (code a) = some a) :
    Postcard α where
  encode a := varint (code a)
  decode bytes := do
    let (n, rest) ← readVarint bytes
    (ofCode n).map (·, rest)
  decode_encode a rest := by simp [inv a]

@[simp] theorem size_uint8 (byte : UInt8) : size byte = 1 := rfl
@[simp] theorem size_int8 (i : Int8) : size i = 1 := rfl
@[simp] theorem size_bool (b : Bool) : size b = 1 := rfl
@[simp] theorem size_uint16 (n : UInt16) : size n = varintLen n.toNat := rfl
@[simp] theorem size_uint32 (n : UInt32) : size n = varintLen n.toNat := rfl
@[simp] theorem size_uint64 (n : UInt64) : size n = varintLen n.toNat := rfl

/-! ### Strings -/

def utf8 (s : String) : List UInt8 := s.toByteArray.data.toList

theorem length_utf8 (s : String) : (utf8 s).length = s.utf8ByteSize := rfl

theorem fromUTF8?_utf8 (s : String) : String.fromUTF8? ⟨(utf8 s).toArray⟩ = some s := by
  simp only [utf8, Array.toArray_toList]
  unfold String.fromUTF8?
  rw [dif_pos s.isValidUTF8]
  rfl

instance : Postcard String where
  encode s := varint s.utf8ByteSize ++ utf8 s
  decode bytes := do
    let (n, rest) ← readVarint bytes
    if rest.length < n then none
    else (String.fromUTF8? ⟨(rest.take n).toArray⟩).map (·, rest.drop n)
  decode_encode s rest := by
    have htake : (utf8 s ++ rest).take s.utf8ByteSize = utf8 s := List.take_left' (length_utf8 s)
    have hdrop : (utf8 s ++ rest).drop s.utf8ByteSize = rest := List.drop_left' (length_utf8 s)
    have hlen : ¬(utf8 s ++ rest).length < s.utf8ByteSize := by
      simp only [List.length_append, length_utf8]
      omega
    rw [List.append_assoc, readVarint_varint]
    simp only [bind, Option.bind, if_neg hlen, htake, hdrop, fromUTF8?_utf8, Option.map_some]

@[simp] theorem size_string (s : String) : size s = varintLen s.utf8ByteSize + s.utf8ByteSize := by
  simp only [size, encode, varintLen, List.length_append, length_utf8]

/-! ### Composites -/

instance [Postcard α] [Postcard β] : Postcard (α × β) where
  encode p := encode p.1 ++ encode p.2
  decode bytes := do
    let (a, rest) ← decode bytes
    let (b, rest) ← decode rest
    some ((a, b), rest)
  decode_encode p rest := by simp

instance [Postcard α] : Postcard (Option α) where
  encode
    | none => [0]
    | some a => 1 :: encode a
  decode
    | [] => none
    | tag :: rest =>
      if tag = 0 then some (none, rest)
      else if tag = 1 then (decode rest).map fun (a, rest) => (some a, rest)
      else none
  decode_encode o rest := by cases o <;> simp

/-- Reads `n` items. -/
def readMany [Postcard α] : Nat → List UInt8 → Option (List α × List UInt8)
  | 0, bytes => some ([], bytes)
  | n + 1, bytes => do
    let (a, rest) ← decode bytes
    let (items, rest) ← readMany n rest
    some (a :: items, rest)

theorem readMany_flatMap [Postcard α] (items : List α) (rest : List UInt8) :
    readMany items.length (items.flatMap encode ++ rest) = some (items, rest) := by
  induction items with
  | nil => rfl
  | cons a items ih => simp [readMany, List.append_assoc, ih]

instance [Postcard α] : Postcard (List α) where
  encode items := varint items.length ++ items.flatMap encode
  decode bytes := do
    let (n, rest) ← readVarint bytes
    readMany n rest
  decode_encode items rest := by simp [List.append_assoc, readMany_flatMap]

/-- A record, by its fields. -/
@[reducible] def iso [Postcard β] (fields : α → β) (make : β → α) (inv : ∀ a, make (fields a) = a) : Postcard α where
  encode a := encode (fields a)
  decode bytes := (decode bytes).map fun (b, rest) => (make b, rest)
  decode_encode a rest := by simp [inv a]

@[simp] theorem size_prod [Postcard α] [Postcard β] (a : α) (b : β) : size (a, b) = size a + size b := by
  simp [size, encode]

@[simp] theorem size_some [Postcard α] (a : α) : size (some a) = size a + 1 := by simp [size, encode]

@[simp] theorem size_list [Postcard α] (items : List α) :
    size items = varintLen items.length + (items.map size).sum := by
  simp only [size, encode, varintLen, List.length_append, List.length_flatMap]
  rfl

end Postcard
