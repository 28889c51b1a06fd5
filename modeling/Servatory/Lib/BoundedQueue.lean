import Mathlib.Data.List.Basic
import Mathlib.Data.List.Induction

/-! A queue of bounded length: a push to the full queue drops the oldest entry. The entries are counted as they are
    pushed, so that each can be followed to where it ends up. -/

namespace BoundedQueue
variable {α β : Type} {capacity : Nat}

def push (capacity : Nat) (queue : List α) (a : α) : List α :=
  (if queue.length = capacity then queue.tail else queue) ++ [a]

theorem length_push_le {queue : List α} (hcapacity : 0 < capacity) (h : queue.length ≤ capacity) (a : α) :
    (push capacity queue a).length ≤ capacity := by
  rw [push, List.length_append, List.length_singleton]
  split
  · rw [List.length_tail]
    omega
  · omega

theorem map_push (f : α → β) (queue : List α) (a : α) :
    (push capacity queue a).map f = push capacity (queue.map f) (f a) := by
  rw [push, push, List.map_append, List.length_map, List.map_singleton]
  split
  · rw [List.map_tail]
  · rfl

theorem push_sublist (queue : List α) (a : α) : (push capacity queue a).Sublist (queue ++ [a]) := by
  rw [push]
  split
  · exact (List.tail_sublist _).append_right _
  · exact List.Sublist.refl _

/-! ### Runs -/

inductive Event
  | push
  | pop
  deriving DecidableEq

/-- How many entries have been pushed, and the numbers of those that are in the queue and of those that left it at its
    front. -/
structure State where
  pushed : Nat
  pending : List Nat
  popped : List Nat

namespace State

def new : State := ⟨0, [], []⟩

def step (capacity : Nat) (s : State) : Event → State
  | .push => ⟨s.pushed + 1, BoundedQueue.push capacity s.pending s.pushed, s.popped⟩
  | .pop => ⟨s.pushed, s.pending.tail, s.popped ++ s.pending.head?.toList⟩

def run (capacity : Nat) (s : State) (events : List Event) : State := events.foldl (step capacity) s

variable {s : State} {events : List Event}

theorem run_concat (event : Event) : s.run capacity (events ++ [event]) = (s.run capacity events).step capacity event :=
  List.foldl_concat ..

theorem run_append (more : List Event) : s.run capacity (events ++ more) = (s.run capacity events).run capacity more :=
  List.foldl_append

/-- The queue is bounded, and it and what has left it at its front are in the order of the pushes. -/
structure Ordered (capacity : Nat) (s : State) : Prop where
  bounded : s.pending.length ≤ capacity
  increasing : (s.popped ++ s.pending).Pairwise (· < ·)
  numbered : ∀ i ∈ s.popped ++ s.pending, i < s.pushed

theorem Ordered.new : Ordered capacity new := ⟨Nat.zero_le _, List.Pairwise.nil, fun _ => nofun⟩

theorem popped_append_pending (s : State) : s.popped ++ s.pending.head?.toList ++ s.pending.tail = s.popped ++ s.pending := by
  rw [List.append_assoc]
  cases s.pending <;> rfl

theorem Ordered.step (hcapacity : 0 < capacity) (h : Ordered capacity s) (event : Event) :
    Ordered capacity (s.step capacity event) := by
  cases event with
  | push =>
    have hsublist : (s.popped ++ BoundedQueue.push capacity s.pending s.pushed).Sublist
        (s.popped ++ s.pending ++ [s.pushed]) := by
      rw [List.append_assoc]
      exact (push_sublist _ _).append_left _
    refine ⟨length_push_le hcapacity h.bounded _, List.Pairwise.sublist hsublist ?_, fun i hi => ?_⟩
    · rw [List.pairwise_append]
      refine ⟨h.increasing, List.pairwise_singleton _ _, fun i hi j hj => ?_⟩
      rw [List.mem_singleton.mp hj]
      exact h.numbered i hi
    · rcases List.mem_append.mp (hsublist.subset hi) with hi | hi
      · exact Nat.lt_succ_of_lt (h.numbered i hi)
      · rw [List.mem_singleton.mp hi]
        exact Nat.lt_succ_self _
  | pop =>
    refine ⟨?_, ?_, ?_⟩
    · exact Nat.le_trans (List.tail_sublist _).length_le h.bounded
    · exact (popped_append_pending s).symm ▸ h.increasing
    · exact (popped_append_pending s).symm ▸ h.numbered

theorem Ordered.run (hcapacity : 0 < capacity) (h : Ordered capacity s) (events : List Event) :
    Ordered capacity (s.run capacity events) := by
  induction events generalizing s with
  | nil => exact h
  | cons event events ih => exact ih (h.step hcapacity event)

/-- At some push the entry is dropped, and the queue is full of newer ones then. -/
def Dropped (capacity : Nat) (s : State) (events : List Event) (i : Nat) : Prop :=
  ∃ before, before ++ [.push] <+: events ∧ i ∈ (s.run capacity before).pending ∧
    (s.run capacity (before ++ [.push])).pending.length = capacity ∧
    ∀ j ∈ (s.run capacity (before ++ [.push])).pending, i < j

theorem Dropped.mono {more : List Event} {i : Nat} (h : Dropped capacity s events i) :
    Dropped capacity s (events ++ more) i := by
  obtain ⟨before, hstart, hrest⟩ := h
  exact ⟨before, hstart.trans (List.prefix_append _ _), hrest⟩

/-- An entry that is pushed to the full queue drops its front. -/
theorem dropped_head {i : Nat} {rest : List Nat}
    (h : Ordered capacity (s.run capacity events)) (hpending : (s.run capacity events).pending = i :: rest)
    (hfull : (s.run capacity events).pending.length = capacity) : Dropped capacity s (events ++ [.push]) i := by
  have hafter : (s.run capacity (events ++ [.push])).pending = rest ++ [(s.run capacity events).pushed] := by
    rw [run_concat, step, BoundedQueue.push, if_pos hfull, hpending, List.tail_cons]
  have hincreasing := (List.pairwise_append.mp h.increasing).2.1
  rw [hpending, List.pairwise_cons] at hincreasing
  refine ⟨events, List.prefix_refl _, ?_, ?_, ?_⟩
  · rw [hpending]
    exact List.mem_cons_self ..
  · rw [hpending, List.length_cons] at hfull
    rwa [hafter, List.length_append, List.length_singleton]
  · rw [hafter]
    intro j hj
    rcases List.mem_append.mp hj with hj | hj
    · exact hincreasing.1 j hj
    · rw [List.mem_singleton.mp hj]
      refine h.numbered i (List.mem_append_right _ ?_)
      rw [hpending]
      exact List.mem_cons_self ..

/-- What has been pushed has left the queue at its front, is in it, or has been dropped. -/
theorem popped_pending_or_dropped (hcapacity : 0 < capacity) (events : List Event) {i : Nat}
    (hi : i < (new.run capacity events).pushed) :
    i ∈ (new.run capacity events).popped ∨ i ∈ (new.run capacity events).pending ∨ Dropped capacity new events i := by
  induction events using List.reverseRecOn with
  | nil => cases hi
  | append_singleton events event ih =>
    have hordered := Ordered.new.run hcapacity events
    rw [run_concat] at hi ⊢
    cases event with
    | push =>
      rcases Nat.lt_succ_iff_lt_or_eq.mp hi with hi | rfl
      · rcases ih hi with hpopped | hpending | hdropped
        · exact .inl hpopped
        · obtain ⟨front, rest, hqueue⟩ := List.exists_cons_of_ne_nil (List.ne_nil_of_mem hpending)
          by_cases hfull : (new.run capacity events).pending.length = capacity
          · rw [hqueue] at hpending
            rcases List.mem_cons.mp hpending with rfl | hpending
            · exact .inr (.inr (dropped_head hordered hqueue hfull))
            · refine .inr (.inl (List.mem_append_left _ ?_))
              rw [if_pos hfull, hqueue]
              exact hpending
          · refine .inr (.inl (List.mem_append_left _ ?_))
            rw [if_neg hfull]
            exact hpending
        · exact .inr (.inr hdropped.mono)
      · exact .inr (.inl (List.mem_append_right _ (List.mem_singleton_self _)))
    | pop =>
      rcases ih hi with hpopped | hpending | hdropped
      · exact .inl (List.mem_append_left _ hpopped)
      · have hmem := List.mem_append_right (new.run capacity events).popped hpending
        rw [← popped_append_pending] at hmem
        exact (List.mem_append.mp hmem).imp_right .inl
      · exact .inr (.inr hdropped.mono)

end State
end BoundedQueue
