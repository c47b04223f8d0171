/-
The ring that creation lays out over the receive buffer, and what each operation
of radio_queue.c and of the RF core does to it. An index of the reader and a
count of finished entries describe every state in which the two are in step.
-/

import MSniff.Concrete.RadioQueue

namespace MSniff.Concrete.RadioQueue

open CyclicWindow

def entryStride : Nat :=
  headerSize + (maxLength + numAppendedBytes) + alignPadding (maxLength + numAppendedBytes)

def slot (rxBuffer : Address) (index : Nat) : Address := rxBuffer + index * entryStride

variable {rxBuffer : Address} {queue : Queue}

theorem slot_injective {left right : Nat} (same : slot rxBuffer left = slot rxBuffer right) :
    left = right := by
  have scaled : left * entryStride = right * entryStride := Nat.add_left_cancel same
  exact Nat.eq_of_mul_eq_mul_right (by decide) scaled

def Linked (rxBuffer : Address) (entries : Address → DataEntry) : Prop :=
  ∀ index < numDE, (entries (slot rxBuffer index)).pNextEntry =
    slot rxBuffer (position numDE index 1)

theorem Linked.update {entries : Address → DataEntry} (linked : Linked rxBuffer entries)
    (address : Address) (entry : DataEntry)
    (same : entry.pNextEntry = (entries address).pNextEntry) :
    Linked rxBuffer (Function.update entries address entry) := by
  intro index inside
  by_cases here : slot rxBuffer index = address
  · rw [here, Function.update_self, same, ← here]
    exact linked index inside
  · rw [Function.update_of_ne here]
    exact linked index inside

theorem Linked.setStatus {entries : Address → DataEntry} (linked : Linked rxBuffer entries)
    (address : Address) (status : EntryStatus) :
    Linked rxBuffer (setStatus entries address status) :=
  linked.update address _ rfl

/-! ### Statuses -/

@[simp] theorem setStatus_self (entries : Address → DataEntry) (address : Address)
    (status : EntryStatus) : (setStatus entries address status address).status = status := by
  simp [setStatus]

theorem setStatus_status_of_ne (entries : Address → DataEntry) {address other : Address}
    (status : EntryStatus) (different : other ≠ address) :
    (setStatus entries address status other).status = (entries other).status := by
  simp [setStatus, different]

@[simp] theorem setStatus_data (entries : Address → DataEntry) (address other : Address)
    (status : EntryStatus) : (setStatus entries address status other).data =
      (entries other).data := by
  by_cases same : other = address
  · subst same
    simp [setStatus]
  · simp [setStatus, same]

@[simp] theorem setStatus_pNextEntry (entries : Address → DataEntry) (address other : Address)
    (status : EntryStatus) : (setStatus entries address status other).pNextEntry =
      (entries other).pNextEntry := by
  by_cases same : other = address
  · subst same
    simp [setStatus]
  · simp [setStatus, same]

/-! ### Reader and RF core in step -/

/-- The reader is at slot `start`, the `count` entries from there are finished,
the others pending, and the RF core is at the entry behind them. -/
structure InStepAt (rxBuffer : Address) (queue : Queue) (start count : Nat) : Prop where
  startLt : start < numDE
  countLe : count ≤ numDE
  linked : Linked rxBuffer queue.entries
  readAt : queue.readEntry = slot rxBuffer start
  currentAt : queue.object.pCurrEntry = slot rxBuffer (position numDE start count)
  finished : Occupied numDE start count
    (fun index => (queue.entries (slot rxBuffer index)).status = .finished)
  pending : ∀ index < numDE, (queue.entries (slot rxBuffer index)).status = .finished ∨
    (queue.entries (slot rxBuffer index)).status = .pending

theorem numDE_pos : 0 < numDE := Nat.succ_pos _

def follow (queue : Queue) (offset : Nat) : Address :=
  (fun address => (queue.entries address).pNextEntry)^[offset] queue.readEntry

theorem follow_of_linked (linked : Linked rxBuffer queue.entries) {start : Nat}
    (startLt : start < numDE) (readAt : queue.readEntry = slot rxBuffer start) (offset : Nat) :
    follow queue offset = slot rxBuffer (position numDE start offset) := by
  have links : ∀ index < numDE, (fun address => (queue.entries address).pNextEntry)
      (slot rxBuffer index) = slot rxBuffer (position numDE index 1) := linked
  rw [follow, readAt]
  exact iterate_next (slot rxBuffer) links startLt offset

/-- Of the ring's entries the finished ones are exactly the consecutive entries
from the read pointer up to the RF core's entry: all of them or none where the
two coincide. -/
def InStep (rxBuffer : Address) (queue : Queue) : Prop :=
  ∃ count ≤ numDE, follow queue count = queue.object.pCurrEntry ∧
    ∀ index < numDE, (queue.entries (slot rxBuffer index)).status = .finished ↔
      ∃ offset < count, follow queue offset = slot rxBuffer index

def finishedEntries (queue : Queue) : List Address :=
  ((List.range numDE).map (follow queue)).filter
    fun entry => (queue.entries entry).status = .finished

variable {start count : Nat}

theorem InStepAt.follow_eq (inStep : InStepAt rxBuffer queue start count) (offset : Nat) :
    follow queue offset = slot rxBuffer (position numDE start offset) :=
  follow_of_linked inStep.linked inStep.startLt inStep.readAt offset

theorem InStepAt.inStep (inStep : InStepAt rxBuffer queue start count) :
    InStep rxBuffer queue := by
  refine ⟨count, inStep.countLe, ?_, fun index inside => ?_⟩
  · rw [inStep.follow_eq, inStep.currentAt]
  · obtain ⟨offset, offsetLt, rfl⟩ := position_reaches inStep.startLt inside
    apply (inStep.finished offset offsetLt).trans
    constructor
    · intro reached
      exact ⟨offset, reached, inStep.follow_eq offset⟩
    · intro listed
      rcases listed with ⟨other, reached, same⟩
      rw [inStep.follow_eq] at same
      have otherLt := Nat.lt_of_lt_of_le reached inStep.countLe
      rwa [position_injective offsetLt otherLt (slot_injective same).symm]

theorem InStepAt.finishedEntries_eq (inStep : InStepAt rxBuffer queue start count) :
    finishedEntries queue =
      (List.range count).map fun offset => slot rxBuffer (position numDE start offset) := by
  have walk : follow queue = fun offset => slot rxBuffer (position numDE start offset) :=
    funext inStep.follow_eq
  rw [finishedEntries, List.filter_map, walk, ← inStep.finished.filter_offsets inStep.countLe]
  rfl

theorem InStepAt.hasPacket_iff (inStep : InStepAt rxBuffer queue start count) :
    hasPacket queue = true ↔ 0 < count := by
  rw [hasPacket, decide_eq_true_iff, inStep.readAt]
  exact inStep.finished.at_start inStep.startLt

theorem InStepAt.canStore_iff (inStep : InStepAt rxBuffer queue start count) :
    canStore queue = true ↔ count < numDE := by
  have current := inStep.finished.at_end inStep.startLt inStep.countLe
  have known := inStep.pending (position numDE start count) (position_lt numDE_pos count)
  rw [canStore, decide_eq_true_iff, inStep.currentAt]
  have bounded := inStep.countLe
  constructor
  · intro pending
    rcases Nat.lt_or_eq_of_le bounded with room | full
    · exact room
    · rw [current.mpr full] at pending
      cases pending
  · intro room
    exact known.resolve_left fun finished => by
      have full := current.mp finished
      omega

/-! ### What the operations do to the ring -/

theorem createLoop_succ (entries : Address → DataEntry) (firstEntry : Address)
    (numEntries length pad : Nat) :
    createLoop entries firstEntry (numEntries + 1) length pad =
      (configureEntry (createLoop entries firstEntry numEntries length pad).1
          (firstEntry + numEntries * (headerSize + length + pad)) length pad,
        firstEntry + numEntries * (headerSize + length + pad)) := by
  simp only [createLoop, List.range_succ, List.foldl_append, List.foldl_cons, List.foldl_nil]

/-- The loop configures each of its entries from what the memory held there: no
pass touches the entry of another. -/
theorem createLoop_entry (entries : Address → DataEntry) (firstEntry : Address)
    (length pad : Nat) {numEntries index : Nat} (inside : index < numEntries) :
    (createLoop entries firstEntry numEntries length pad).1
        (firstEntry + index * (headerSize + length + pad)) =
      configured (entries (firstEntry + index * (headerSize + length + pad)))
        (firstEntry + index * (headerSize + length + pad)) length pad := by
  have apart : ∀ left right : Nat, left ≠ right →
      firstEntry + left * (headerSize + length + pad) ≠
        firstEntry + right * (headerSize + length + pad) := fun left right different same =>
    different (Nat.eq_of_mul_eq_mul_right (by simp only [headerSize]; omega)
      (Nat.add_left_cancel same))
  have untouched : ∀ passes other : Nat, passes ≤ other →
      (createLoop entries firstEntry passes length pad).1
          (firstEntry + other * (headerSize + length + pad)) =
        entries (firstEntry + other * (headerSize + length + pad)) := by
    intro passes
    induction passes with
    | zero => intro other _; rfl
    | succ passes ih =>
        intro other later
        simp only [createLoop_succ, configureEntry]
        rw [Function.update_of_ne (apart other passes (by omega)), ih other (by omega)]
  induction numEntries with
  | zero => exact absurd inside (Nat.not_lt_zero index)
  | succ numEntries ih =>
      simp only [createLoop_succ, configureEntry]
      by_cases last : index = numEntries
      · subst last
        rw [Function.update_self, untouched index index (Nat.le_refl _)]
      · rw [Function.update_of_ne (apart index numEntries last), ih (by omega)]

def entryAt (buf : Address) (length index : Nat) : Address :=
  buf + index * (headerSize + length + alignPadding length)

theorem entryAt_zero (buf : Address) (length : Nat) : entryAt buf length 0 = buf := by
  rw [entryAt, Nat.zero_mul, Nat.add_zero]

theorem entryAt_succ (buf : Address) (length index : Nat) :
    entryAt buf length (index + 1) =
      entryAt buf length index + headerSize + length + alignPadding length := by
  simp only [entryAt, Nat.succ_mul, Nat.add_assoc]

theorem entryAt_strictMono (buf : Address) (length : Nat) : StrictMono (entryAt buf length) := by
  apply strictMono_nat_of_lt_succ
  intro index
  have positive : 0 < headerSize + length + alignPadding length := by
    rw [headerSize]
    omega
  rw [entryAt, entryAt, Nat.succ_mul, ← Nat.add_assoc]
  exact Nat.lt_add_of_pos_right positive

/-- What creation leaves at each entry of a queue that fits. The link of the last
one is redirected to the first. -/
theorem create_entry (queue : Queue) (buf : Address) {bufLength numEntries length index : Nat}
    (fits : ¬ bufLength < numEntries * (length + headerSize + alignPadding length))
    (inside : index < numEntries) :
    (create queue buf bufLength numEntries length).2.entries (entryAt buf length index) =
      { configured (queue.entries (entryAt buf length index)) (entryAt buf length index) length
          (alignPadding length) with
        pNextEntry := entryAt buf length (position numEntries index 1) } := by
  obtain ⟨last, rfl⟩ : ∃ last, numEntries = last + 1 := ⟨numEntries - 1, by omega⟩
  have loopEntry : (createLoop queue.entries buf (last + 1) length (alignPadding length)).1
      (entryAt buf length index) =
        configured (queue.entries (entryAt buf length index)) (entryAt buf length index) length
          (alignPadding length) :=
    createLoop_entry queue.entries buf _ _ inside
  have lastEntry : (createLoop queue.entries buf (last + 1) length (alignPadding length)).2 =
      entryAt buf length last := by
    rw [createLoop_succ]
    rfl
  rw [create, if_neg fits]
  dsimp only
  rw [← alignPadding, lastEntry]
  by_cases isLast : index = last
  · subst isLast
    have first : position (index + 1) index 1 = 0 := Nat.mod_self _
    rw [Function.update_self, loopEntry, first, entryAt_zero]
  · have next : position (last + 1) index 1 = index + 1 := Nat.mod_eq_of_lt (by omega)
    rw [Function.update_of_ne fun same => isLast ((entryAt_strictMono buf length).injective same),
      loopEntry, next, entryAt_succ]
    rfl

theorem init_entry (queue : Queue) (rxBuffer : Address) {index : Nat} (inside : index < numDE) :
    (init queue rxBuffer).entries (slot rxBuffer index) =
      { configured (queue.entries (slot rxBuffer index)) (slot rxBuffer index)
          (maxLength + numAppendedBytes) (alignPadding (maxLength + numAppendedBytes)) with
        pNextEntry := slot rxBuffer (position numDE index 1) } :=
  create_entry queue rxBuffer (by decide) inside

theorem init_inStep (queue : Queue) (rxBuffer : Address) :
    InStepAt rxBuffer (init queue rxBuffer) 0 0 where
  startLt := numDE_pos
  countLe := Nat.zero_le _
  linked := fun index inside => by rw [init_entry queue rxBuffer inside]
  readAt := rfl
  currentAt := rfl
  finished := Occupied.none (fun index inside finished => by
    rw [init_entry queue rxBuffer inside] at finished
    cases finished) numDE_pos
  pending := fun index inside => by
    rw [init_entry queue rxBuffer inside]
    exact Or.inr rfl

def cleared (entry : DataEntry) : DataEntry := { entry with status := .pending }

/-- The passes of `reset` over a ring clear the status of one entry each. -/
theorem resetEntry_iterate {entries : Address → DataEntry} {place : Nat → Address} {size : Nat}
    (links : ∀ index < size, (entries (place index)).pNextEntry = place (position size index 1))
    {passes : Nat} (bounded : passes ≤ size) :
    resetEntry^[passes] (entries, place 0) =
      (fun address => if ∃ index < passes, address = place index then cleared (entries address)
        else entries address, place (position size 0 passes)) := by
  induction passes with
  | zero =>
      have none : ∀ address, ¬ ∃ index < 0, address = place index :=
        fun address some => some.elim fun index both => Nat.not_lt_zero index both.1
      simp only [none, if_false, position]
      rfl
  | succ passes ih =>
      have here : position size 0 passes = passes := by
        rw [position, Nat.zero_add, Nat.mod_eq_of_lt bounded]
      rw [Function.iterate_succ_apply', ih (Nat.le_of_succ_le bounded), here, resetEntry]
      apply Prod.ext
      · funext address
        by_cases last : address = place passes
        · subst last
          have reached : ∃ index < passes + 1, place passes = place index :=
            ⟨passes, Nat.lt_succ_self passes, rfl⟩
          simp only [setStatus, Function.update_self, if_pos reached]
          split
          · rfl
          · rfl
        · have earlier : (∃ index < passes + 1, address = place index) ↔
              ∃ index < passes, address = place index := by
            simp only [Nat.exists_lt_succ_right, last, or_false]
          simp only [setStatus, Function.update_of_ne last, earlier]
      · have next : position size 0 (passes + 1) = position size passes 1 := by
          rw [← position_position, here]
        simp only [next, ← links passes bounded]
        split
        · rfl
        · rfl

/-- A reset of a ring clears the statuses of its entries and nothing else of them. -/
theorem reset_entries (place : Nat → Address) (first : place 0 = rxBuffer)
    (links : ∀ index < numDE, (queue.entries (place index)).pNextEntry =
      place (position numDE index 1)) (address : Address) :
    (reset queue rxBuffer).entries address =
      if ∃ index < numDE, address = place index then cleared (queue.entries address)
      else queue.entries address := by
  rw [reset, ← first, resetEntry_iterate links (Nat.le_refl _)]

/-- A reset puts reader and RF core in step whatever the statuses and pointers
were, as long as the links are those of the ring. -/
theorem reset_inStep (linked : Linked rxBuffer queue.entries) :
    InStepAt rxBuffer (reset queue rxBuffer) 0 0 := by
  have atSlot : ∀ index < numDE, (reset queue rxBuffer).entries (slot rxBuffer index) =
      cleared (queue.entries (slot rxBuffer index)) := by
    intro index inside
    rw [reset_entries (slot rxBuffer) (Nat.add_zero rxBuffer) linked, if_pos ⟨index, inside, rfl⟩]
  have pending : ∀ index < numDE,
      ((reset queue rxBuffer).entries (slot rxBuffer index)).status = .pending := by
    intro index inside
    rw [atSlot index inside]
    rfl
  have notFinished : ∀ index < numDE,
      ¬ ((reset queue rxBuffer).entries (slot rxBuffer index)).status = .finished := by
    intro index inside finished
    rw [pending index inside] at finished
    cases finished
  exact
    { startLt := numDE_pos
      countLe := Nat.zero_le _
      linked := fun index inside => by
        rw [atSlot index inside]
        exact linked index inside
      readAt := (Nat.add_zero rxBuffer).symm
      currentAt := (Nat.add_zero rxBuffer).symm
      finished := Occupied.none notFinished numDE_pos
      pending := fun index inside => Or.inr (pending index inside) }

theorem receive_eq_of_full (full : canStore queue = false) (packet : Packet) :
    receive queue packet = queue := by
  rw [receive, full]
  rfl

theorem receive_entries_of_ne (room : canStore queue = true) (packet : Packet) {address : Address}
    (different : address ≠ queue.object.pCurrEntry) :
    (receive queue packet).entries address = queue.entries address := by
  simp only [receive, room, if_true]
  exact Function.update_of_ne different _ _

theorem receive_entries_current (room : canStore queue = true) (packet : Packet) :
    (receive queue packet).entries queue.object.pCurrEntry =
      { queue.entries queue.object.pCurrEntry with
        status := .finished
        data := storeElement (queue.entries queue.object.pCurrEntry).data packet } := by
  simp only [receive, room, if_true]
  exact Function.update_self ..

theorem InStepAt.receive (inStep : InStepAt rxBuffer queue start count) (room : count < numDE)
    (packet : Packet) : InStepAt rxBuffer (receive queue packet) start (count + 1) := by
  have storable := inStep.canStore_iff.mpr room
  have current := receive_entries_current storable packet
  rw [inStep.currentAt] at current
  have elsewhere : ∀ index, index ≠ position numDE start count →
      (RadioQueue.receive queue packet).entries (slot rxBuffer index) =
        queue.entries (slot rxBuffer index) := fun index different =>
    receive_entries_of_ne storable packet fun same =>
      different (slot_injective (same.trans inStep.currentAt))
  refine
    { startLt := inStep.startLt
      countLe := room
      linked := ?_
      readAt := ?_
      currentAt := ?_
      finished := ?_
      pending := ?_ }
  · simp only [RadioQueue.receive, storable, if_true]
    exact inStep.linked.update _ _ rfl
  · simp only [RadioQueue.receive, storable, if_true]
    exact inStep.readAt
  · simp only [RadioQueue.receive, storable, if_true]
    rw [inStep.currentAt, inStep.linked _ (position_lt numDE_pos _), position_position]
  · refine inStep.finished.push room ?_ fun index different => ?_
    · rw [current]
    · rw [elsewhere index different]
  · intro index inside
    by_cases here : index = position numDE start count
    · subst here
      rw [current]
      exact Or.inl rfl
    · rw [elsewhere index here]
      exact inStep.pending index inside

theorem InStepAt.nextEntry (inStep : InStepAt rxBuffer queue start (count + 1)) :
    InStepAt rxBuffer (nextEntry queue) (position numDE start 1) count := by
  have released : ((RadioQueue.nextEntry queue).entries (slot rxBuffer start)).status =
      .pending := by
    simp only [RadioQueue.nextEntry, advance, markPending, inStep.readAt, setStatus_self]
  have elsewhere : ∀ index, index ≠ start →
      ((RadioQueue.nextEntry queue).entries (slot rxBuffer index)).status =
        (queue.entries (slot rxBuffer index)).status := fun index different => by
    simp only [RadioQueue.nextEntry, advance, markPending, inStep.readAt]
    exact setStatus_status_of_ne _ _ fun same => different (slot_injective same)
  refine
    { startLt := position_lt numDE_pos _
      countLe := Nat.le_of_succ_le inStep.countLe
      linked := inStep.linked.setStatus _ _
      readAt := ?_
      currentAt := ?_
      finished := ?_
      pending := ?_ }
  · simp only [RadioQueue.nextEntry, advance, markPending, setStatus_pNextEntry]
    rw [inStep.readAt, inStep.linked _ inStep.startLt]
  · rw [position_position, Nat.add_comm 1]
    exact inStep.currentAt
  · refine inStep.finished.pop inStep.countLe inStep.startLt ?_ fun index different => ?_
    · rw [released]
      exact EntryStatus.noConfusion
    · rw [elsewhere index different]
  · intro index inside
    by_cases here : index = start
    · subst here
      exact Or.inr released
    · rw [elsewhere index here]
      exact inStep.pending index inside

theorem InStepAt.not_finished (empty : InStepAt rxBuffer queue start 0) {index : Nat}
    (inside : index < numDE) : (queue.entries (slot rxBuffer index)).status ≠ .finished := by
  obtain ⟨offset, offsetLt, rfl⟩ := position_reaches empty.startLt inside
  intro finished
  exact absurd ((empty.finished offset offsetLt).mp finished) (Nat.not_lt_zero offset)

theorem InStepAt.exists_receive (inStep : InStepAt rxBuffer queue start count) (packet : Packet) :
    ∃ count, InStepAt rxBuffer (RadioQueue.receive queue packet) start count := by
  cases room : canStore queue with
  | false =>
      rw [receive_eq_of_full room]
      exact ⟨count, inStep⟩
  | true => exact ⟨count + 1, inStep.receive (inStep.canStore_iff.mp room) packet⟩

theorem InStepAt.exists_nextEntry (inStep : InStepAt rxBuffer queue start count)
    (present : hasPacket queue = true) :
    ∃ start count, InStepAt rxBuffer (RadioQueue.nextEntry queue) start count := by
  cases count with
  | zero => exact absurd (inStep.hasPacket_iff.mp present) (Nat.lt_irrefl 0)
  | succ count => exact ⟨_, count, inStep.nextEntry⟩

theorem finished_of_nextEntry {address : Address}
    (finished : ((nextEntry queue).entries address).status = .finished) :
    (queue.entries address).status = .finished := by
  by_cases here : address = queue.readEntry
  · subst here
    simp only [nextEntry, advance, markPending, setStatus_self] at finished
    cases finished
  · simp only [nextEntry, advance, markPending] at finished
    rwa [setStatus_status_of_ne _ _ here] at finished

end MSniff.Concrete.RadioQueue
