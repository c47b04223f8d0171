/-
A queue that may lose its whole content, as a history. Items are named by the
position at which they were offered, so equal items stay distinct, and what was
delivered, what was lost and what still waits are lists of positions.
-/

import Mathlib.Data.List.Basic

namespace MSniff.StampedFifo

variable {Item : Type*}

structure History (Item : Type*) where
  stored : List Item
  waiting : List Nat
  taken : List Nat
  lost : List Nat

def History.empty : History Item := ⟨[], [], [], []⟩

def History.push (history : History Item) (item : Item) : History Item :=
  { history with
    stored := history.stored ++ [item]
    waiting := history.waiting ++ [history.stored.length] }

def History.pop (history : History Item) : History Item :=
  { history with
    waiting := history.waiting.tail
    taken := history.taken ++ history.waiting.head?.toList }

def History.clear (history : History Item) : History Item :=
  { history with
    waiting := []
    lost := history.lost ++ history.waiting }

/-- The positions offered so far that were not lost, in the order of offering. -/
def History.kept (history : History Item) : List Nat :=
  (List.range history.stored.length).filter fun position => !history.lost.contains position

/-- Delivered and waiting positions together are the kept ones, in order. -/
structure History.Faithful (history : History Item) : Prop where
  inOrder : history.taken ++ history.waiting = history.kept
  lostBefore : ∀ position ∈ history.lost, position < history.stored.length

theorem History.empty_faithful : (History.empty : History Item).Faithful :=
  ⟨rfl, fun _ impossible => absurd impossible (List.not_mem_nil)⟩

theorem History.Faithful.waiting_lt {history : History Item} (faithful : history.Faithful)
    (position : Nat) (member : position ∈ history.waiting) :
    position < history.stored.length := by
  have kept : position ∈ history.kept := by
    rw [← faithful.inOrder]
    exact List.mem_append_right _ member
  exact List.mem_range.mp (List.mem_filter.mp kept).1

theorem History.Faithful.push {history : History Item} (faithful : history.Faithful)
    (item : Item) : (history.push item).Faithful := by
  have fresh : history.stored.length ∉ history.lost :=
    fun member => Nat.lt_irrefl _ (faithful.lostBefore _ member)
  refine ⟨?_, fun position member => ?_⟩
  · calc (history.push item).taken ++ (history.push item).waiting
        = history.taken ++ history.waiting ++ [history.stored.length] :=
          (List.append_assoc _ _ _).symm
      _ = history.kept ++ [history.stored.length] := by rw [faithful.inOrder]
      _ = (history.push item).kept := by
          simp [History.kept, History.push, List.range_succ, fresh]
  · have before := faithful.lostBefore position member
    simp only [History.push, List.length_append, List.length_singleton]
    omega

theorem History.Faithful.pop {history : History Item} (faithful : history.Faithful) :
    history.pop.Faithful := by
  refine ⟨?_, faithful.lostBefore⟩
  have inOrder := faithful.inOrder
  cases waitingAt : history.waiting with
  | nil => simpa [History.pop, History.kept, waitingAt] using inOrder
  | cons first rest => simpa [History.pop, History.kept, waitingAt] using inOrder

/-- Losing the waiting positions removes exactly them from the kept ones: the
delivered ones stay, because no position occurs twice. -/
theorem History.Faithful.clear {history : History Item} (faithful : history.Faithful) :
    history.clear.Faithful := by
  have distinct : (history.taken ++ history.waiting).Nodup := by
    rw [faithful.inOrder]
    exact List.nodup_range.filter _
  refine ⟨?_, fun position member => ?_⟩
  · have stay : history.taken.filter (fun position => !history.waiting.contains position) =
        history.taken := List.filter_eq_self.mpr fun position delivered => by
      have apart := (List.nodup_append.mp distinct).2.2 position delivered
      simpa using fun waits => apart position waits rfl
    have leave : history.waiting.filter (fun position => !history.waiting.contains position) =
        [] := List.filter_eq_nil_iff.mpr fun position waits => by simpa using waits
    calc history.clear.taken ++ history.clear.waiting
        = (history.taken ++ history.waiting).filter
            (fun position => !history.waiting.contains position) := by
          rw [List.filter_append, stay, leave]
          rfl
      _ = history.kept.filter (fun position => !history.waiting.contains position) := by
          rw [faithful.inOrder]
      _ = history.clear.kept := by
          simp [History.kept, History.clear, List.filter_filter, Bool.and_comm]
  · rcases List.mem_append.mp member with earlier | waits
    · exact faithful.lostBefore position earlier
    · exact faithful.waiting_lt position waits

end MSniff.StampedFifo
