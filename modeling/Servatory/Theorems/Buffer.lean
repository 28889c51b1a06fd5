import Servatory.Firmware.Dashboard

/-! The buffer of the dashboard holds a whole document or none: a later piece may still fit behind one that did not, and
    the flag keeps it from being shown. -/

namespace Servatory.Dashboard
namespace DashboardBuffer
variable {b : DashboardBuffer} {written : String}

/-- What an operation writes, with the pieces that a `write!` leaves out. -/
def Operation.text : Operation → String
  | .pushStr value => value
  | .push value => String.singleton value
  | .write pieces => String.join pieces

/-- The buffer holds all that was written, or has overflowed because that is too much. -/
structure Holds (b : DashboardBuffer) (written : String) : Prop where
  bounded : b.inner.utf8ByteSize ≤ dashboardBodyCapacity
  whole : b.overflowed = false → b.inner = written
  exceeds : b.overflowed = true → dashboardBodyCapacity < written.utf8ByteSize

theorem Holds.new : Holds new "" := ⟨Nat.zero_le _, fun _ => rfl, nofun⟩

/-- What is written behind an overflow does not undo it. -/
theorem Holds.append (h : Holds b written) (hover : b.overflowed = true) (more : String) : Holds b (written ++ more) := by
  refine ⟨h.bounded, fun hfits => ?_, fun _ => ?_⟩
  · cases hover.symm.trans hfits
  · rw [String.utf8ByteSize_append]
    exact Nat.lt_add_right _ (h.exceeds hover)

theorem Holds.pushStr (h : Holds b written) (value : String) : Holds (b.pushStr value) (written ++ value) := by
  rw [DashboardBuffer.pushStr]
  by_cases hroom : b.inner.utf8ByteSize + value.utf8ByteSize ≤ dashboardBodyCapacity
  · rw [if_pos hroom]
    cases hover : b.overflowed with
    | true =>
      have happend := h.append hover value
      refine ⟨?_, nofun, fun _ => happend.exceeds hover⟩
      rwa [String.utf8ByteSize_append]
    | false =>
      refine ⟨?_, fun _ => ?_, nofun⟩
      · rwa [String.utf8ByteSize_append]
      · rw [h.whole hover]
  · rw [if_neg hroom]
    refine ⟨h.bounded, nofun, fun _ => ?_⟩
    cases hover : b.overflowed with
    | true => exact (h.append hover value).exceeds hover
    | false =>
      rw [← h.whole hover, String.utf8ByteSize_append]
      exact Nat.not_le.mp hroom

theorem Holds.write (h : Holds b written) (pieces : List String) :
    Holds (b.write pieces) (written ++ String.join pieces) := by
  induction pieces generalizing b written with
  | nil =>
    rw [String.join_nil, String.append_empty]
    exact h
  | cons piece pieces ih =>
    rw [String.join_cons, ← String.append_assoc]
    rw [DashboardBuffer.write]
    split
    · exact (h.pushStr piece).append ‹_› _
    · exact ih (h.pushStr piece)

theorem Holds.apply (h : Holds b written) (operation : Operation) :
    Holds (b.apply operation) (written ++ operation.text) := by
  cases operation with
  | pushStr value => exact h.pushStr value
  | push value => exact h.pushStr (String.singleton value)
  | write pieces => exact h.write pieces

theorem Holds.run (h : Holds b written) (operations : List Operation) :
    Holds (b.run operations) (written ++ String.join (operations.map (·.text))) := by
  induction operations generalizing b written with
  | nil =>
    rw [List.map_nil, String.join_nil, String.append_empty]
    exact h
  | cons operation operations ih =>
    rw [List.map_cons, String.join_cons, ← String.append_assoc]
    exact ih (h.apply operation)

/-- The text that is shown in place of a document that is too long. -/
def budgetExceeded (document : Bool) : String := (⟨"", true⟩ : DashboardBuffer).finish document

theorem Holds.finish (h : Holds b written) (document : Bool) :
    b.finish document = if written.utf8ByteSize ≤ dashboardBodyCapacity then written else budgetExceeded document := by
  cases hover : b.overflowed with
  | true =>
    rw [if_neg (Nat.not_le.mpr (h.exceeds hover)), budgetExceeded, DashboardBuffer.finish, DashboardBuffer.finish, hover]
    rfl
  | false =>
    have hbounded := h.bounded
    rw [h.whole hover] at hbounded
    rw [if_pos hbounded, DashboardBuffer.finish, hover, h.whole hover]
    rfl

/-- However a document is written, the buffer stays within its capacity, and what it yields in the end is all that was
    written when that fits, and the fixed text when it does not. -/
theorem finish_run (operations : List Operation) (document : Bool) :
    (new.run operations).inner.utf8ByteSize ≤ dashboardBodyCapacity ∧
      (new.run operations).finish document =
        if (String.join (operations.map (·.text))).utf8ByteSize ≤ dashboardBodyCapacity then
          String.join (operations.map (·.text))
        else budgetExceeded document := by
  have h := Holds.new.run operations
  rw [String.empty_append] at h
  exact ⟨h.bounded, h.finish document⟩

end DashboardBuffer

/-! ### The dashboard -/

open DashboardBuffer

/-- The operation that writes a character of a text. -/
def operationOf : Char → Operation
  | '&' => .pushStr "&amp;"
  | '<' => .pushStr "&lt;"
  | '>' => .pushStr "&gt;"
  | '"' => .pushStr "&quot;"
  | character => .push character

/-- The operations of one of the writes that a dashboard lists. -/
def operationsOf : Html.Write → List Operation
  | .markup s => [.pushStr s]
  | .number n => [.pushStr (toString n)]
  | .text s => s.toList.map operationOf

theorem pushHtml_eq_run (b : DashboardBuffer) (value : String) :
    pushHtml b value = b.run (value.toList.map operationOf) := by
  rw [pushHtml, DashboardBuffer.run, List.foldl_map]
  congr 1
  funext output character
  split
  iterate 4 rfl
  rw [operationOf]
  · rfl
  all_goals assumption

theorem put_eq_run (b : DashboardBuffer) (w : Html.Write) : b.put w = b.run (operationsOf w) := by
  cases w with
  | markup s => rfl
  | number n => rfl
  | text s => exact pushHtml_eq_run b s

theorem foldl_put_eq_run (b : DashboardBuffer) (ws : List Html.Write) :
    ws.foldl .put b = b.run (ws.flatMap operationsOf) := by
  induction ws generalizing b with
  | nil => rfl
  | cons w ws ih =>
    rw [List.foldl_cons, put_eq_run, ih, List.flatMap_cons, DashboardBuffer.run, DashboardBuffer.run,
      DashboardBuffer.run, List.foldl_append]

end Servatory.Dashboard
