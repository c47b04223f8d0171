/-
A memory that wraps around: cells are addressed modulo its size, so pointers into
it may be free-running counters. A region of at most its size, read from where it
was written, is the cells written.
-/

import Mathlib.Data.Nat.ModEq
import Mathlib.Logic.Function.Basic

namespace MSniff.CircularStore

variable {Cell : Type*}

def writeCells (size : Nat) (memory : Nat → Cell) (start : Nat) : List Cell → Nat → Cell
  | [] => memory
  | cell :: rest => writeCells size (Function.update memory (start % size) cell) (start + 1) rest

def readCells (size : Nat) (memory : Nat → Cell) (start count : Nat) : List Cell :=
  (List.range count).map fun offset => memory ((start + offset) % size)

variable {size start other : Nat} {memory : Nat → Cell}

@[simp] theorem readCells_length (count : Nat) : (readCells size memory start count).length = count := by
  simp only [readCells, List.length_map, List.length_range]

theorem readCells_append (first second : Nat) :
    readCells size memory start (first + second) =
      readCells size memory start first ++ readCells size memory (start + first) second := by
  simp only [readCells, List.range_add, List.map_append, List.map_map, Function.comp_def,
    Nat.add_assoc]

/-! ### Pointers count only modulo the size -/

theorem readCells_congr (same : start ≡ other [MOD size]) (count : Nat) :
    readCells size memory start count = readCells size memory other count :=
  List.map_congr_left fun offset _ => congrArg memory (same.add_right offset)

theorem writeCells_congr (same : start ≡ other [MOD size]) (cells : List Cell) :
    writeCells size memory start cells = writeCells size memory other cells := by
  induction cells generalizing memory start other with
  | nil => rfl
  | cons cell rest ih =>
      rw [writeCells, writeCells, show start % size = other % size from same]
      exact ih (same.add_right 1)

/-! ### Reading what was written -/

theorem writeCells_apply_of_ne (cells : List Cell) {index : Nat}
    (elsewhere : ∀ offset < cells.length, (start + offset) % size ≠ index) :
    writeCells size memory start cells index = memory index := by
  induction cells generalizing memory start with
  | nil => rfl
  | cons cell rest ih =>
      rw [writeCells, ih]
      · have first := elsewhere 0 (Nat.succ_pos _)
        exact Function.update_of_ne first.symm _ _
      · intro offset inside
        rw [Nat.add_right_comm]
        exact elsewhere (offset + 1) (Nat.succ_lt_succ inside)

theorem offsets_apart {left right : Nat} (before : left < right) (lap : right < left + size) :
    (start + left) % size ≠ (start + right) % size := by
  intro same
  have modEq : left ≡ right [MOD size] := Nat.ModEq.add_left_cancel' start same
  have gap : size ∣ right - left := (Nat.modEq_iff_dvd' before.le).mp modEq
  have reached := Nat.le_of_dvd (Nat.sub_pos_of_lt before) gap
  omega

theorem writeCells_apply (cells : List Cell) (fits : cells.length ≤ size) {offset : Nat}
    (inside : offset < cells.length) :
    writeCells size memory start cells ((start + offset) % size) = cells[offset] := by
  induction cells generalizing memory start offset with
  | nil => exact absurd inside (Nat.not_lt_zero offset)
  | cons cell rest ih =>
      rw [List.length_cons] at fits inside
      cases offset with
      | zero =>
          rw [writeCells, writeCells_apply_of_ne]
          · exact Function.update_self ..
          · intro later laterInside
            rw [Nat.add_assoc]
            exact (offsets_apart (by omega) (by omega)).symm
      | succ offset =>
          have shifted : start + (offset + 1) = start + 1 + offset := by omega
          rw [writeCells, shifted, List.getElem_cons_succ]
          exact ih (by omega) (by omega)

theorem readCells_writeCells (cells : List Cell) (fits : cells.length ≤ size) :
    readCells size (writeCells size memory start cells) start cells.length = cells := by
  apply List.ext_getElem
  · exact readCells_length _
  · intro offset _ inside
    simp only [readCells, List.getElem_map, List.getElem_range]
    exact writeCells_apply cells fits inside

/-- Cells written right behind a region that they leave room for extend it. -/
theorem readCells_writeCells_behind (count : Nat) (cells : List Cell) (fits : count + cells.length ≤ size) :
    readCells size (writeCells size memory (start + count) cells) start (count + cells.length) =
      readCells size memory start count ++ cells := by
  have kept : readCells size (writeCells size memory (start + count) cells) start count =
      readCells size memory start count := by
    apply List.map_congr_left
    intro offset member
    have before := List.mem_range.mp member
    apply writeCells_apply_of_ne
    intro later inside
    rw [Nat.add_assoc]
    exact (offsets_apart (by omega) (by omega)).symm
  rw [readCells_append, kept, readCells_writeCells cells (by omega)]

end MSniff.CircularStore
