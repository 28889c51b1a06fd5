/-! Strings of at most `N` bytes. Text that does not fit is refused as a whole; formatted output is written
    piece by piece and ends at the first piece that does not fit; collecting characters has no way to
    refuse, and fails. -/

structure FixedString (N : Nat) where
  value : String
  size_le : value.utf8ByteSize ≤ N
  deriving DecidableEq

namespace FixedString
variable {N : Nat}

def empty : FixedString N := ⟨"", by simp⟩

/-- Appends `text`, or refuses it. -/
def push? (s : FixedString N) (text : String) : Option (FixedString N) :=
  if h : (s.value ++ text).utf8ByteSize ≤ N then some ⟨s.value ++ text, h⟩ else none

/-- Appends `text` if it fits. -/
def push (s : FixedString N) (text : String) : FixedString N := (s.push? text).getD s

/-- Appends the pieces of a formatted text, up to the first that does not fit. -/
def write (s : FixedString N) : List String → FixedString N
  | [] => s
  | piece :: pieces =>
    match s.push? piece with
    | some s => s.write pieces
    | none => s

/-- The string of some characters; `none` when their bytes do not fit. -/
def collect (N : Nat) (chars : List Char) : Option (FixedString N) :=
  if h : (String.ofList chars).utf8ByteSize ≤ N then some ⟨String.ofList chars, h⟩ else none

theorem collect_isSome_iff {chars : List Char} :
    (collect N chars).isSome ↔ (String.ofList chars).utf8ByteSize ≤ N := by
  unfold collect
  split <;> simp_all

end FixedString
