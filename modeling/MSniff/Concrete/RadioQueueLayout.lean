/-
The layout that RadioQueue_create leaves in a buffer, for every size of it and every
number and length of entries, and what RadioQueue_reset restores of it. The size check,
the stride, the padding and the links are four formulas of the source.
-/

import Mathlib.Data.Nat.SuccPred
import Mathlib.Order.CompletePartialOrder
import Mathlib.Order.SuccPred.IntervalSucc
import MSniff.Concrete.RadioCore

namespace MSniff.Concrete.RadioQueue

open CyclicWindow

/-! ### Where the entries lie -/

/-- The bytes of an entry's header and of the data it has room for. -/
def entryBytes (entry : Address) (length : Nat) : Set Address :=
  Set.Ico entry (entry + (headerSize + length))

variable {buf : Address} {bufLength numEntries length : Nat}

theorem entryBytes_subset (buf : Address) (length index : Nat) :
    entryBytes (entryAt buf length index) length ⊆
      Set.Ico (entryAt buf length index) (entryAt buf length (index + 1)) := by
  apply Set.Ico_subset_Ico_right
  rw [entryAt_succ, Nat.add_assoc (entryAt buf length index)]
  exact Nat.le_add_right _ _

theorem disjoint_entryBytes {left right : Nat} (different : left ≠ right) :
    Disjoint (entryBytes (entryAt buf length left) length)
      (entryBytes (entryAt buf length right) length) :=
  ((entryAt_strictMono buf length).monotone.pairwise_disjoint_on_Ico_succ different).mono
    (entryBytes_subset buf length left) (entryBytes_subset buf length right)

theorem entryBytes_within
    (fits : ¬ bufLength < numEntries * (length + headerSize + alignPadding length))
    {index : Nat} (inside : index < numEntries) :
    entryBytes (entryAt buf length index) length ⊆ Set.Ico buf (buf + bufLength) := by
  have increasing := (entryAt_strictMono buf length).monotone
  have first : buf ≤ entryAt buf length index := by
    calc
      buf = entryAt buf length 0 := (entryAt_zero buf length).symm
      _ ≤ entryAt buf length index := increasing (Nat.zero_le index)
  have last : entryAt buf length (index + 1) ≤ buf + bufLength := by
    calc
      entryAt buf length (index + 1) ≤ entryAt buf length numEntries := increasing inside
      _ = buf + numEntries * (length + headerSize + alignPadding length) := by
        rw [entryAt, Nat.add_comm headerSize]
      _ ≤ buf + bufLength := Nat.add_le_add_left (Nat.le_of_not_lt fits) buf
  exact (entryBytes_subset buf length index).trans (Set.Ico_subset_Ico first last)

/-- With its padding an entry takes a multiple of four bytes. -/
theorem dvd_entryAt_sub (buf : Address) (length index : Nat) :
    4 ∣ entryAt buf length index - buf := by
  have stride : 4 ∣ headerSize + length + alignPadding length := by
    rw [alignPadding, headerSize]
    omega
  rw [entryAt, Nat.add_sub_cancel_left]
  exact Nat.dvd_mul_left_of_dvd stride index

/-! ### What creation leaves -/

/-- A ring of entries that lie apart and aligned in the buffer, each pending, whose
links visit them in turn and close. -/
structure Layout (buf : Address) (bufLength numEntries length : Nat) (queue : Queue) : Prop where
  apart : ∀ left < numEntries, ∀ right < numEntries, left ≠ right →
    Disjoint (entryBytes (entryAt buf length left) length)
      (entryBytes (entryAt buf length right) length)
  within : ∀ index < numEntries,
    entryBytes (entryAt buf length index) length ⊆ Set.Ico buf (buf + bufLength)
  aligned : ∀ index < numEntries, 4 ∣ entryAt buf length index - buf
  room : ∀ index < numEntries, (queue.entries (entryAt buf length index)).length = length
  general : ∀ index < numEntries,
    (queue.entries (entryAt buf length index)).configType = .general ∧
      (queue.entries (entryAt buf length index)).configLenSz = deConfigSize
  pending : ∀ index < numEntries, (queue.entries (entryAt buf length index)).status = .pending
  visits : ∀ index < numEntries, follow queue index = entryAt buf length index
  returns : follow queue numEntries = buf
  object : queue.object = { pCurrEntry := buf, pLastEntry := none }
  readEntry : queue.readEntry = buf

theorem create_of_fits (queue : Queue) (buf : Address)
    (fits : ¬ bufLength < numEntries * (length + headerSize + alignPadding length)) :
    (create queue buf bufLength numEntries length).1 = 0 ∧
      (create queue buf bufLength numEntries length).2.object =
        { pCurrEntry := buf, pLastEntry := none } ∧
      (create queue buf bufLength numEntries length).2.readEntry = buf := by
  rw [create, if_neg fits]
  exact ⟨rfl, rfl, rfl⟩

theorem create_follow (queue : Queue) (buf : Address) (nonempty : 0 < numEntries)
    (fits : ¬ bufLength < numEntries * (length + headerSize + alignPadding length))
    (steps : Nat) :
    follow (create queue buf bufLength numEntries length).2 steps =
      entryAt buf length (position numEntries 0 steps) := by
  have links : ∀ index < numEntries, (fun address =>
      ((create queue buf bufLength numEntries length).2.entries address).pNextEntry)
        (entryAt buf length index) = entryAt buf length (position numEntries index 1) := by
    intro index inside
    dsimp only
    rw [create_entry queue buf fits inside]
  have first : (create queue buf bufLength numEntries length).2.readEntry =
      entryAt buf length 0 := by
    rw [(create_of_fits queue buf fits).2.2, entryAt_zero]
  rw [follow, first]
  exact iterate_next (entryAt buf length) links nonempty steps

theorem create_layout (queue : Queue) (buf : Address) (nonempty : 0 < numEntries)
    (fits : ¬ bufLength < numEntries * (length + headerSize + alignPadding length)) :
    Layout buf bufLength numEntries length (create queue buf bufLength numEntries length).2 where
  apart := fun _ _ _ _ different => disjoint_entryBytes different
  within := fun _ inside => entryBytes_within fits inside
  aligned := fun index _ => dvd_entryAt_sub buf length index
  room := fun index inside => by
    rw [create_entry queue buf fits inside]
    rfl
  general := fun index inside => by
    rw [create_entry queue buf fits inside]
    exact ⟨rfl, rfl⟩
  pending := fun index inside => by
    rw [create_entry queue buf fits inside]
    rfl
  visits := fun index inside => by
    rw [create_follow queue buf nonempty fits, position, Nat.zero_add, Nat.mod_eq_of_lt inside]
  returns := by
    rw [create_follow queue buf nonempty fits, position_size nonempty, entryAt_zero]
  object := (create_of_fits queue buf fits).2.1
  readEntry := (create_of_fits queue buf fits).2.2

/-! ### What a reset restores -/

/-- The queue after any use of it: the statuses of the ring's entries and all data may be
any, and both pointers may point anywhere. -/
structure Used (buf : Address) (numEntries length : Nat) (created used : Queue) : Prop where
  entry : ∀ address, used.entries address =
    { created.entries address with
      status := (used.entries address).status
      data := (used.entries address).data }
  outside : ∀ address, (¬ ∃ index < numEntries, address = entryAt buf length index) →
    (used.entries address).status = (created.entries address).status
  pLastEntry : used.object.pLastEntry = created.object.pLastEntry

/-- The queue with the data bytes, which no reset touches, of another. -/
def withDataOf (queue other : Queue) : Queue :=
  { queue with
    entries := fun address => { queue.entries address with data := (other.entries address).data } }

theorem entry_of_status {created used : DataEntry}
    (same : used = { created with status := used.status, data := used.data })
    (status : used.status = created.status) : used = { created with data := used.data } := by
  rw [status] at same
  exact same

theorem cleared_of_pending {created used : DataEntry}
    (same : used = { created with status := used.status, data := used.data })
    (pending : created.status = .pending) : cleared used = { created with data := used.data } := by
  have frame : cleared used = { created with status := .pending, data := used.data } :=
    congrArg cleared same
  rw [← pending] at frame
  exact frame

theorem reset_of_used (queue : Queue) (buf : Address)
    (fits : ¬ bufLength < numDE * (length + headerSize + alignPadding length)) {used : Queue}
    (usedRing : Used buf numDE length (create queue buf bufLength numDE length).2 used) :
    reset used buf = withDataOf (create queue buf bufLength numDE length).2 used := by
  have layout := create_layout queue buf numDE_pos fits
  have links : ∀ index < numDE, (used.entries (entryAt buf length index)).pNextEntry =
      entryAt buf length (position numDE index 1) := by
    intro index inside
    rw [usedRing.entry, create_entry queue buf fits inside]
  have entries : (reset used buf).entries =
      (withDataOf (create queue buf bufLength numDE length).2 used).entries := by
    funext address
    rw [reset_entries (entryAt buf length) (entryAt_zero buf length) links]
    by_cases inRing : ∃ index < numDE, address = entryAt buf length index
    · rw [if_pos inRing]
      obtain ⟨index, inside, rfl⟩ := inRing
      exact cleared_of_pending (usedRing.entry _) (layout.pending index inside)
    · rw [if_neg inRing]
      exact entry_of_status (usedRing.entry _) (usedRing.outside address inRing)
  have lastEntry := usedRing.pLastEntry
  rw [layout.object] at lastEntry
  calc
    reset used buf =
        { entries := (reset used buf).entries
          object := { pCurrEntry := buf, pLastEntry := used.object.pLastEntry }
          readEntry := buf } := rfl
    _ = { entries := (withDataOf (create queue buf bufLength numDE length).2 used).entries
          object := (create queue buf bufLength numDE length).2.object
          readEntry := (create queue buf bufLength numDE length).2.readEntry } := by
      rw [entries, lastEntry, layout.object, layout.readEntry]

/-! ### The ring -/

/-- Creation refuses exactly the queues that do not fit and leaves the others laid out,
and the one that a reset knows a reset restores after any use. -/
structure CreatesRing (queue : Queue) (buf : Address) (bufLength numEntries length : Nat) :
    Prop where
  refuses : create queue buf bufLength numEntries length = (1, queue) ↔
    bufLength < numEntries * (headerSize + length + alignPadding length)
  accepts : numEntries * (headerSize + length + alignPadding length) ≤ bufLength →
    (create queue buf bufLength numEntries length).1 = 0 ∧
      Layout buf bufLength numEntries length (create queue buf bufLength numEntries length).2
  restores : numEntries * (headerSize + length + alignPadding length) ≤ bufLength →
    numEntries = numDE → ∀ used,
      Used buf numEntries length (create queue buf bufLength numEntries length).2 used →
        reset used buf = withDataOf (create queue buf bufLength numEntries length).2 used

theorem createsRing (queue : Queue) (buf : Address) (bufLength numEntries length : Nat)
    (nonempty : 0 < numEntries) : CreatesRing queue buf bufLength numEntries length := by
  have accepted : numEntries * (headerSize + length + alignPadding length) ≤ bufLength →
      ¬ bufLength < numEntries * (length + headerSize + alignPadding length) := by
    intro fits
    rw [Nat.add_comm length]
    exact Nat.not_lt_of_le fits
  constructor
  · constructor
    · intro refused
      by_contra fits
      have result := (create_of_fits queue buf (accepted (Nat.le_of_not_lt fits))).1
      rw [refused] at result
      cases result
    · intro tooLong
      rw [create, Nat.add_comm length, if_pos tooLong]
  · intro fits
    exact ⟨(create_of_fits queue buf (accepted fits)).1,
      create_layout queue buf nonempty (accepted fits)⟩
  · intro fits knownNumber used usedRing
    subst knownNumber
    exact reset_of_used queue buf (accepted fits) usedRing

/-- The ring that the sniffer works with, over memory that holds nothing yet. -/
theorem createsRing_rxBuffer : 0 < numDE ∧
    CreatesRing RadioTask.blankQueue 0 (deBufferSize numDE maxLength numAppendedBytes) numDE
      (maxLength + numAppendedBytes) :=
  ⟨numDE_pos, createsRing _ _ _ _ _ numDE_pos⟩

end MSniff.Concrete.RadioQueue
