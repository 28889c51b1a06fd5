import Mathlib.Data.List.Basic
import Mathlib.Order.Lattice

/-! A stable sort by a key, and the last of the elements whose key is greatest. -/

variable {α β : Type} [LinearOrder β]

/-- Elements with the same key stay in their order. -/
def sortByKey (key : α → β) (l : List α) : List α := l.mergeSort fun a b => decide (key a ≤ key b)

section
variable {key : α → β} {l : List α} {a : α}

theorem sortByKey_perm (key : α → β) (l : List α) : (sortByKey key l).Perm l := List.mergeSort_perm _ _

theorem sortByKey_nil (key : α → β) : sortByKey key [] = [] := List.mergeSort_nil

theorem le_trans_key (a b c : α) (hab : decide (key a ≤ key b) = true) (hbc : decide (key b ≤ key c) = true) :
    decide (key a ≤ key c) = true :=
  decide_eq_true (le_trans (of_decide_eq_true hab) (of_decide_eq_true hbc))

theorem le_total_key (a b : α) : (decide (key a ≤ key b) || decide (key b ≤ key a)) = true := by
  rw [Bool.or_eq_true, decide_eq_true_eq, decide_eq_true_eq]
  exact le_total _ _

theorem sortByKey_pairwise (key : α → β) (l : List α) : (sortByKey key l).Pairwise fun a b => key a ≤ key b := by
  refine (List.pairwise_mergeSort le_trans_key le_total_key l).imp ?_
  intro a b h
  exact of_decide_eq_true h

/-- The elements with one key stay in their order. -/
theorem filter_sortByKey (key : α → β) (l : List α) (k : β) :
    (sortByKey key l).filter (key · = k) = l.filter (key · = k) := by
  have hkey : ∀ b ∈ l.filter (key · = k), key b = k := fun b hb => of_decide_eq_true (List.mem_filter.mp hb).2
  have hsame : (l.filter (key · = k)).Pairwise fun a b => decide (key a ≤ key b) = true :=
    List.pairwise_of_forall_mem_list fun a ha b hb => decide_eq_true (((hkey a ha).trans (hkey b hb).symm).le)
  have hsub : (l.filter (key · = k)).Sublist (sortByKey key l) :=
    List.sublist_mergeSort le_trans_key le_total_key hsame List.filter_sublist
  have hsub' : (l.filter (key · = k)).Sublist ((sortByKey key l).filter (key · = k)) := by
    have h := hsub.filter (key · = k)
    rwa [List.filter_eq_self.mpr (List.forall_mem_filter.mpr fun b _ hb => hb)] at h
  exact (hsub'.eq_of_length ((sortByKey_perm key l).filter _).length_eq.symm).symm

theorem mem_of_getLast?_sortByKey (h : (sortByKey key l).getLast? = some a) : a ∈ l :=
  (sortByKey_perm key l).mem_iff.mp (List.mem_of_getLast? h)

theorem le_of_getLast?_sortByKey (h : (sortByKey key l).getLast? = some a) : ∀ b ∈ l, key b ≤ key a := by
  intro b hb
  obtain ⟨init, hsplit⟩ := List.getLast?_eq_some_iff.mp h
  have hsorted := sortByKey_pairwise key l
  have hmem := (sortByKey_perm key l).mem_iff.mpr hb
  rw [hsplit] at hsorted hmem
  rcases List.mem_append.mp hmem with hinit | hlast
  · exact hsorted.rel_of_mem_append hinit (List.mem_singleton_self a)
  · rw [List.mem_singleton.mp hlast]

/-- What is last after sorting was the last with its key before. -/
theorem getLast?_filter_of_sortByKey (h : (sortByKey key l).getLast? = some a) :
    (l.filter (key · = key a)).getLast? = some a := by
  obtain ⟨init, hsplit⟩ := List.getLast?_eq_some_iff.mp h
  have hlast : [a].filter (key · = key a) = [a] := List.filter_cons_of_pos (decide_eq_true rfl)
  rw [← filter_sortByKey, hsplit, List.filter_append, hlast, List.getLast?_concat]

end
