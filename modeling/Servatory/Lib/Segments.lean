import Mathlib.Data.List.DropRight

/-! Splitting a stream at a separator. A machine that reads one element at a time answers at each separator with a
    judgement of what came since the last one, and at no other element. -/

namespace Segments
variable {α β : Type} [DecidableEq α] (sep : α) (judge : List α → β)

/-- The elements since the last separator, after one more element. -/
def advance (segment : List α) (a : α) : List α := if a = sep then [] else segment ++ [a]

/-- The answer to an element that comes after the open segment. -/
def answer (segment : List α) (a : α) : Option β := if a = sep then some (judge segment) else none

/-- The answers to a stream, one for each element. -/
def answers (segment : List α) : List α → List (Option β)
  | [] => []
  | a :: rest => answer sep judge segment a :: answers (advance sep segment a) rest

variable {sep} {judge}

theorem advance_sep (segment : List α) : advance sep segment sep = [] := if_pos rfl

theorem advance_of_ne {a : α} (h : a ≠ sep) (segment : List α) : advance sep segment a = segment ++ [a] := if_neg h

theorem answer_sep (segment : List α) : answer sep judge segment sep = some (judge segment) := if_pos rfl

theorem answer_of_ne {a : α} (h : a ≠ sep) (segment : List α) : answer sep judge segment a = none := if_neg h

theorem length_answers (segment stream : List α) : (answers sep judge segment stream).length = stream.length := by
  induction stream generalizing segment with
  | nil => rfl
  | cons a rest ih => rw [answers, List.length_cons, List.length_cons, ih]

/-- What is open after a stream are the elements behind its last separator. -/
theorem foldl_advance (stream : List α) : stream.foldl (advance sep) [] = stream.rtakeWhile (· ≠ sep) := by
  induction stream using List.reverseRecOn with
  | nil => rfl
  | append_singleton stream a ih =>
    rw [List.foldl_concat, ih]
    by_cases h : a = sep
    · rw [h, advance_sep, List.rtakeWhile_concat_neg _ _ _ (by simp)]
    · rw [advance_of_ne h, List.rtakeWhile_concat_pos _ _ _ (by simpa using h)]

theorem answers_getElem? (segment stream : List α) (i : Nat) :
    (answers sep judge segment stream)[i]? =
      stream[i]?.map (answer sep judge ((stream.take i).foldl (advance sep) segment)) := by
  induction stream generalizing segment i with
  | nil => rfl
  | cons a rest ih =>
    cases i with
    | zero => rfl
    | succ i =>
      rw [answers, List.getElem?_cons_succ, List.getElem?_cons_succ, List.take_succ_cons, List.foldl_cons]
      exact ih _ i

theorem answers_append (segment a b : List α) :
    answers sep judge segment (a ++ b) =
      answers sep judge segment a ++ answers sep judge (a.foldl (advance sep) segment) b := by
  induction a generalizing segment with
  | nil => rfl
  | cons x a ih => rw [List.cons_append, answers, answers, List.cons_append, ih, List.foldl_cons]

/-- The judgements are those of the stream's closed segments, in order. The last piece of a split is still open. -/
theorem filterMap_answers (stream : List α) :
    (answers sep judge [] stream).filterMap id = (stream.splitOn sep).dropLast.map judge := by
  have h : ∀ segment, (answers sep judge segment stream).filterMap id =
      ((stream.splitOn sep).modifyHead (segment ++ ·)).dropLast.map judge := by
    induction stream with
    | nil => intro segment; rfl
    | cons a rest ih =>
      intro segment
      obtain ⟨s, pieces, hs⟩ := List.exists_cons_of_ne_nil (List.splitOn_ne_nil sep rest)
      unfold List.splitOn at ih hs ⊢
      rw [answers, List.splitOnP_cons_eq_if_modifyHead]
      by_cases ha : a = sep
      · subst ha
        rw [answer_sep, advance_sep, @List.filterMap_cons_some _ _ id _ _ _ rfl, ih, hs]
        simp
      · rw [answer_of_ne ha, advance_of_ne ha, @List.filterMap_cons_none _ _ id _ _ rfl, ih, hs]
        simp [ha]
  rw [h []]
  cases stream.splitOn sep <;> rfl

end Segments
