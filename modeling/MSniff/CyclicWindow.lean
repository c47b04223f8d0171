/-
Windows of consecutive positions on a ring. A window is a start and a count, so
the full ring and the empty one stay different although their end positions
coincide. `Occupied` says that a predicate on positions holds on the window and
nowhere else on the ring.
-/

import Mathlib.Data.Nat.ModEq
import Mathlib.Logic.Function.Iterate

namespace MSniff.CyclicWindow

def position (size start offset : Nat) : Nat := (start + offset) % size

variable {size start : Nat}

theorem position_lt (nonempty : 0 < size) (offset : Nat) :
    position size start offset < size :=
  Nat.mod_lt _ nonempty

theorem position_zero (inside : start < size) : position size start 0 = start :=
  Nat.mod_eq_of_lt inside

theorem position_size (inside : start < size) : position size start size = start := by
  rw [position, Nat.add_mod_right, Nat.mod_eq_of_lt inside]

theorem position_position (first second : Nat) :
    position size (position size start first) second = position size start (first + second) := by
  simp only [position, Nat.mod_add_mod, Nat.add_assoc]

theorem position_injective {left right : Nat} (leftLt : left < size) (rightLt : right < size)
    (same : position size start left = position size start right) : left = right := by
  have modEq : left ≡ right [MOD size] := Nat.ModEq.add_left_cancel' start same
  exact Nat.ModEq.eq_of_lt_of_lt modEq leftLt rightLt

theorem position_reaches (inside : start < size) {index : Nat} (indexLt : index < size) :
    ∃ offset < size, position size start offset = index := by
  by_cases ahead : start ≤ index
  · refine ⟨index - start, by omega, ?_⟩
    rw [position, Nat.add_sub_cancel' ahead, Nat.mod_eq_of_lt indexLt]
  · refine ⟨index + size - start, by omega, ?_⟩
    have wrapped : start + (index + size - start) = index + size := by omega
    rw [position, wrapped, Nat.add_mod_right, Nat.mod_eq_of_lt indexLt]

/-- Following links that each lead to the next position is walking around the ring. -/
theorem iterate_next {α : Type*} {next : α → α} (place : Nat → α)
    (links : ∀ index < size, next (place index) = place (position size index 1))
    (inside : start < size) (steps : Nat) :
    next^[steps] (place start) = place (position size start steps) := by
  induction steps with
  | zero => rw [position_zero inside, Function.iterate_zero_apply]
  | succ steps ih =>
      have within : position size start steps < size := position_lt (by omega) steps
      rw [Function.iterate_succ_apply', ih, links _ within, position_position]

/-- The predicate holds at the first `count` positions from `start` and at no
other position of the ring. -/
def Occupied (size start count : Nat) (Holds : Nat → Prop) : Prop :=
  ∀ offset < size, Holds (position size start offset) ↔ offset < count

variable {count : Nat} {Holds Holds' : Nat → Prop}

theorem Occupied.at_start (occupied : Occupied size start count Holds) (inside : start < size) :
    Holds start ↔ 0 < count := by
  have atZero := occupied 0 (by omega)
  rwa [position_zero inside] at atZero

/-- The position just behind the window is occupied only when the ring is full. -/
theorem Occupied.at_end (occupied : Occupied size start count Holds) (inside : start < size)
    (bounded : count ≤ size) : Holds (position size start count) ↔ count = size := by
  rcases Nat.lt_or_eq_of_le bounded with room | full
  · rw [occupied count room]
    omega
  · rw [full, position_size inside, occupied.at_start inside]
    omega

theorem Occupied.push (occupied : Occupied size start count Holds) (room : count < size)
    (added : Holds' (position size start count))
    (others : ∀ index, index ≠ position size start count → (Holds' index ↔ Holds index)) :
    Occupied size start (count + 1) Holds' := by
  intro offset offsetLt
  by_cases last : offset = count
  · subst last
    exact iff_of_true added (Nat.lt_succ_self _)
  · have elsewhere : position size start offset ≠ position size start count :=
      fun same => last (position_injective offsetLt room same)
    rw [others _ elsewhere, occupied offset offsetLt]
    omega

theorem Occupied.pop (occupied : Occupied size start (count + 1) Holds) (bounded : count + 1 ≤ size)
    (inside : start < size) (removed : ¬ Holds' start)
    (others : ∀ index, index ≠ start → (Holds' index ↔ Holds index)) :
    Occupied size (position size start 1) count Holds' := by
  intro offset offsetLt
  rw [position_position, Nat.add_comm]
  rcases Nat.lt_or_eq_of_le (Nat.succ_le_of_lt offsetLt) with before | wraps
  · have elsewhere : position size start (offset + 1) ≠ start := fun same => by
      have sameAsZero := same.trans (position_zero inside).symm
      have atZero : offset + 1 = 0 := position_injective before (by omega) sameAsZero
      omega
    rw [others _ elsewhere, occupied (offset + 1) before]
    omega
  · have atStart : position size start (offset + 1) = start := by
      rw [← Nat.succ_eq_add_one, wraps, position_size inside]
    rw [atStart]
    exact iff_of_false removed (by omega)

theorem Occupied.none (cleared : ∀ index < size, ¬ Holds index) (nonempty : 0 < size) :
    Occupied size start 0 Holds :=
  fun offset _ => iff_of_false (cleared _ (position_lt nonempty offset)) (Nat.not_lt_zero offset)

private theorem filter_range_lt {bound size : Nat} (bounded : bound ≤ size) :
    (List.range size).filter (fun offset => offset < bound) = List.range bound := by
  obtain ⟨rest, rfl⟩ := Nat.exists_eq_add_of_le bounded
  rw [List.range_add, List.filter_append]
  have low : (List.range bound).filter (fun offset => offset < bound) = List.range bound :=
    List.filter_eq_self.mpr fun offset member => by simpa using List.mem_range.mp member
  have high : ((List.range rest).map (bound + ·)).filter (fun offset => offset < bound) = [] :=
    List.filter_eq_nil_iff.mpr fun offset member => by
      obtain ⟨beyond, _, rfl⟩ := List.mem_map.mp member
      simp
  rw [low, high, List.append_nil]

/-- A scan of the whole ring from the start of the window picks out the window. -/
theorem Occupied.filter_offsets [DecidablePred Holds]
    (occupied : Occupied size start count Holds) (bounded : count ≤ size) :
    (List.range size).filter (fun offset => Holds (position size start offset)) =
      List.range count := by
  have pointwise : ∀ offset ∈ List.range size,
      decide (Holds (position size start offset)) = decide (offset < count) :=
    fun offset member => decide_eq_decide.mpr (occupied offset (List.mem_range.mp member))
  exact (List.filter_congr pointwise).trans (filter_range_lt bounded)

end MSniff.CyclicWindow
