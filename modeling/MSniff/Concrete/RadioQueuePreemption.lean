/-
The overflow callback preempting a call of takePacket. The call is a sequence of
statements, the copy byte by byte; every statement loads the static pointers
anew. After the callback has reset the ring, the RF core stores packets, and then
the call goes on from where it stood.
-/

import MSniff.Concrete.RadioQueueHistory

namespace MSniff.Concrete.RadioQueue

open CyclicWindow

/-! ### takePacket statement by statement -/

/-- The statement a call is about to execute, with the locals live there. -/
inductive Point
  | entry
  | fetchLength
  | compareLength (elementLength : Nat)
  | copy (elementLength : Nat) (source : Address) (done : List UInt8)
  | markPending (elementLength : Nat) (copied : Option (List UInt8))
  | advance (elementLength : Nat) (copied : Option (List UInt8))
  | returned (value : Nat) (copied : Option (List UInt8))

/-- What the call does to entries: reading an element's length or one of its
bytes, and marking an entry pending, with whether it was finished until then. -/
inductive Access
  | length (entry : Address)
  | byte (entry : Address) (index : Nat)
  | mark (entry : Address) (wasFinished : Bool)

structure Call where
  queue : Queue
  point : Point
  log : List Access

def statement (maxlen : Nat) (call : Call) : Call :=
  match call.point with
  | .entry =>
      if hasPacket call.queue then { call with point := .fetchLength }
      else { call with point := .returned 0 none }
  | .fetchLength =>
      { call with
        point := .compareLength
          (get16bitValue (call.queue.entries call.queue.readEntry).data)
        log := call.log ++ [.length call.queue.readEntry] }
  | .compareLength elementLength =>
      if elementLength ≤ maxlen then
        { call with point := .copy elementLength call.queue.readEntry [] }
      else { call with point := .markPending elementLength none }
  | .copy elementLength source done =>
      if done.length < elementLength then
        { call with
          point := .copy elementLength source
            (done ++ [(call.queue.entries source).data (deConfigSize + done.length)])
          log := call.log ++ [.byte source done.length] }
      else { call with point := .markPending elementLength (some done) }
  | .markPending elementLength copied =>
      { queue := markPending call.queue
        point := .advance elementLength copied
        log := call.log ++ [.mark call.queue.readEntry (hasPacket call.queue)] }
  | .advance elementLength copied =>
      { call with queue := advance call.queue, point := .returned elementLength copied }
  | .returned _ _ => call

def remaining (maxlen : Nat) : Point → Nat
  | .entry => maxlen + 6
  | .fetchLength => maxlen + 5
  | .compareLength elementLength => elementLength + 4
  | .copy elementLength _ done => elementLength - done.length + 3
  | .markPending _ _ => 2
  | .advance _ _ => 1
  | .returned _ _ => 0

def finish (maxlen : Nat) (call : Call) : Call :=
  (statement maxlen)^[remaining maxlen call.point] call

variable {queue : Queue} {log : List Access} {maxlen : Nat}

theorem statement_returned (value : Nat) (copied : Option (List UInt8)) (statements : Nat) :
    (statement maxlen)^[statements] ⟨queue, .returned value copied, log⟩ =
      ⟨queue, .returned value copied, log⟩ :=
  Function.iterate_fixed rfl statements

theorem statement_markPending (elementLength : Nat) (copied : Option (List UInt8))
    (statements : Nat) :
    (statement maxlen)^[statements + 2] ⟨queue, .markPending elementLength copied, log⟩ =
      ⟨nextEntry queue, .returned elementLength copied,
        log ++ [.mark queue.readEntry (hasPacket queue)]⟩ := by
  rw [Function.iterate_add_apply]
  exact statement_returned elementLength copied statements

/-- The copy takes what is left of the element from the entry it started on. -/
theorem statement_copy (elementLength : Nat) (source : Address) (done : List UInt8)
    (statements : Nat) :
    (statement maxlen)^[statements + 2 + (elementLength - done.length) + 1]
        ⟨queue, .copy elementLength source done, log⟩ =
      ⟨nextEntry queue,
        .returned elementLength
          (some (done ++ (copyBytes (queue.entries source) elementLength).drop done.length)),
        log ++ ((List.range elementLength).map (Access.byte source)).drop done.length ++
          [.mark queue.readEntry (hasPacket queue)]⟩ := by
  generalize leftEq : elementLength - done.length = left
  induction left generalizing done log with
  | zero =>
      have complete : ¬ done.length < elementLength := by omega
      have nothing : elementLength ≤ done.length := by omega
      rw [Function.iterate_succ_apply]
      simp only [statement, if_neg complete]
      rw [statement_markPending, List.drop_eq_nil_of_le (by simpa [copyBytes] using nothing),
        List.drop_eq_nil_of_le (by simpa using nothing), List.append_nil, List.append_nil]
  | succ left ih =>
      have more : done.length < elementLength := by omega
      rw [Function.iterate_succ_apply, ← Nat.add_assoc]
      simp only [statement, if_pos more]
      rw [ih (done ++ _) (by simp only [List.length_append, List.length_singleton]; omega)]
      have moreBytes : done.length < (copyBytes (queue.entries source) elementLength).length := by
        simpa [copyBytes] using more
      have moreAccesses : done.length <
          ((List.range elementLength).map (Access.byte source)).length := by simpa using more
      rw [List.drop_eq_getElem_cons moreBytes, List.drop_eq_getElem_cons moreAccesses]
      simp [copyBytes]

def elementAccesses (queue : Queue) (elementLength maxlen : Nat) : List Access :=
  if elementLength ≤ maxlen then
    (List.range elementLength).map (Access.byte queue.readEntry)
  else []

theorem statement_compareLength (elementLength statements : Nat) :
    (statement maxlen)^[statements + (elementLength + 4)]
        ⟨queue, .compareLength elementLength, log⟩ =
      ⟨nextEntry queue,
        .returned elementLength
          (if elementLength ≤ maxlen then
            some (copyBytes (queue.entries queue.readEntry) elementLength) else none),
        log ++ elementAccesses queue elementLength maxlen ++
          [.mark queue.readEntry (hasPacket queue)]⟩ := by
  rw [← Nat.add_assoc, Function.iterate_succ_apply]
  by_cases fits : elementLength ≤ maxlen
  · have copying := @statement_copy queue log maxlen elementLength queue.readEntry [] statements
    have sameCount : statements + elementLength + 3 =
        statements + 2 + (elementLength - ([] : List UInt8).length) + 1 := by
      simp only [List.length_nil]
      omega
    rw [← sameCount] at copying
    simp only [statement, if_pos fits, elementAccesses]
    exact copying
  · simp only [statement, if_neg fits, elementAccesses, List.append_nil]
    exact statement_markPending elementLength none (statements + elementLength + 1)

theorem statement_fetchLength (statements : Nat) :
    let elementLength := get16bitValue (queue.entries queue.readEntry).data
    (statement maxlen)^[statements + (maxlen + 5)] ⟨queue, .fetchLength, log⟩ =
      ⟨nextEntry queue,
        .returned elementLength
          (if elementLength ≤ maxlen then
            some (copyBytes (queue.entries queue.readEntry) elementLength) else none),
        log ++ [.length queue.readEntry] ++ elementAccesses queue elementLength maxlen ++
          [.mark queue.readEntry (hasPacket queue)]⟩ := by
  intro elementLength
  rw [← Nat.add_assoc, Function.iterate_succ_apply]
  by_cases fits : elementLength ≤ maxlen
  · have sameCount : statements + maxlen + 4 =
        statements + (maxlen - elementLength) + (elementLength + 4) := by omega
    rw [sameCount]
    exact statement_compareLength elementLength (statements + (maxlen - elementLength))
  · rw [Function.iterate_succ_apply]
    simp only [statement, elementAccesses]
    rw [if_neg fits, if_neg fits, if_neg fits]
    simp only [List.append_nil]
    exact statement_markPending elementLength none (statements + maxlen + 1)

theorem finish_fetchLength (queue : Queue) (maxlen : Nat) :
    let elementLength := get16bitValue (queue.entries queue.readEntry).data
    finish maxlen ⟨queue, .fetchLength, []⟩ =
      ⟨nextEntry queue,
        .returned elementLength
          (if elementLength ≤ maxlen then
            some (copyBytes (queue.entries queue.readEntry) elementLength) else none),
        .length queue.readEntry :: elementAccesses queue elementLength maxlen ++
          [.mark queue.readEntry (hasPacket queue)]⟩ := by
  have finished := @statement_fetchLength queue [] maxlen 0
  rw [Nat.zero_add] at finished
  exact finished

theorem finish_entry_of_packet {queue : Queue} (present : hasPacket queue = true) (maxlen : Nat) :
    finish maxlen ⟨queue, .entry, []⟩ = finish maxlen ⟨queue, .fetchLength, []⟩ := by
  unfold finish
  simp only [remaining, Function.iterate_succ_apply, statement, present, if_true]

theorem finish_entry_of_empty {queue : Queue} (empty : hasPacket queue = false) (maxlen : Nat) :
    finish maxlen ⟨queue, .entry, []⟩ = ⟨queue, .returned 0 none, []⟩ := by
  unfold finish
  simp only [remaining]
  rw [Function.iterate_succ_apply]
  simp only [statement, empty, Bool.false_eq_true, if_false]
  exact statement_returned 0 none _

/-- Left alone, the statements of a call amount to `takePacket`. -/
theorem finish_entry (queue : Queue) (maxlen : Nat) :
    let result := takePacket queue maxlen
    (finish maxlen ⟨queue, .entry, []⟩).queue = result.queue ∧
      (finish maxlen ⟨queue, .entry, []⟩).point = .returned result.value result.copied := by
  cases present : hasPacket queue with
  | true =>
      rw [finish_entry_of_packet present, finish_fetchLength]
      simp only [takePacket, present, if_true, and_self]
  | false =>
      rw [finish_entry_of_empty present]
      simp only [takePacket, present, Bool.false_eq_true, if_false, and_self]

/-! ### The callback inside a call -/

/-- A ring state: any statuses, pointers and data over the ring's links. -/
structure LinkedQueue (rxBuffer : Address) where
  queue : Queue
  linked : Linked rxBuffer queue.entries

/-- Radio_callback resets the ring; then the RF core stores what arrives. The
history counts from the reset. -/
def afterCallback (rxBuffer : Address) (queue : Queue) (arrivals : List Packet) : History :=
  EventRun.run (step rxBuffer) (History.start (reset queue rxBuffer))
    (arrivals.map RingEvent.receive)

def released (log : List Access) : List Address :=
  log.filterMap fun
    | .mark entry true => some entry
    | _ => none

/-- The preempted call goes on. What it released counts as removed, with what it
returns and has copied. -/
def resume (maxlen : Nat) (history : History) (point : Point) : History × List Access :=
  let final := finish maxlen ⟨history.queue, point, []⟩
  let handedOut : Removal :=
    match final.point with
    | .returned value copied => ⟨maxlen, value, copied⟩
    | _ => ⟨maxlen, 0, none⟩
  ({ history with
      queue := final.queue
      taken := history.taken ++ (released final.log).map history.origin
      removals := history.removals ++ (released final.log).map fun _ => handedOut },
    final.log)

/-- The call read the element of the entry: its length and, unless the caller's
buffer is too short, every byte. -/
def ReadWhole (entries : Address → DataEntry) (maxlen : Nat) (log : List Access)
    (entry : Address) : Prop :=
  .length entry ∈ log ∧
    (get16bitValue (entries entry).data ≤ maxlen →
      ∀ index < get16bitValue (entries entry).data, .byte entry index ∈ log)

/-- What the overflow recovery owes the reader: the pointers are in step again,
no packet stored since the reset was marked pending unread, and whatever happens
later, packets are taken in the order they were stored. -/
structure Recovers (rxBuffer : Address) (maxlen : Nat) (queue : Queue) (point : Point)
    (arrivals : List Packet) : Prop where
  inStep : InStep rxBuffer (resume maxlen (afterCallback rxBuffer queue arrivals) point).1.queue
  read : ∀ entry ∈ released (resume maxlen (afterCallback rxBuffer queue arrivals) point).2,
    ReadWhole (afterCallback rxBuffer queue arrivals).queue.entries maxlen
      (resume maxlen (afterCallback rxBuffer queue arrivals) point).2 entry
  inOrder : ∀ events, (EventRun.run (step rxBuffer)
    (resume maxlen (afterCallback rxBuffer queue arrivals) point).1 events).FaithfulFifo rxBuffer

/-- The preemption points at which the callback does no harm. Between the check
and the read of the length it is saved by a packet that arrives in time. -/
def HarmlessAt (arrivals : List Packet) : Point → Prop
  | .entry => True
  | .fetchLength => arrivals ≠ []
  | .returned _ _ => True
  | _ => False

/-! ### What the callback leaves, and what the call does from there -/

theorem Tracked.receiveAll {rxBuffer : Address} {history : History} {start count : Nat}
    (tracked : Tracked rxBuffer history start count) (packets : List Packet) :
    Tracked rxBuffer
      (EventRun.run (RadioQueue.step rxBuffer) history (packets.map RingEvent.receive))
      start (min numDE (count + packets.length)) := by
  induction packets generalizing history count with
  | nil =>
      rw [List.length_nil, Nat.add_zero, Nat.min_eq_right tracked.inStep.countLe]
      exact tracked
  | cons packet rest ih =>
      rw [List.map_cons, EventRun.run_cons, List.length_cons]
      by_cases room : count < numDE
      · rw [← Nat.add_assoc, Nat.add_right_comm]
        exact ih (tracked.receive room packet)
      · have full : count = numDE := Nat.le_antisymm tracked.inStep.countLe (Nat.not_lt.mp room)
        have refused := ih tracked
        rw [full, Nat.min_eq_left (Nat.le_add_right _ _)] at refused ⊢
        rw [RadioQueue.step, History.receive_of_full tracked.inStep room]
        exact refused

variable {rxBuffer : Address} {start count : Nat}

theorem afterCallback_tracked (linked : Linked rxBuffer queue.entries)
    (arrivals : List Packet) :
    Tracked rxBuffer (afterCallback rxBuffer queue arrivals) 0 (min numDE arrivals.length) := by
  have counted := (start_tracked (reset_inStep linked)).receiveAll arrivals
  rw [Nat.zero_add] at counted
  exact counted

/-- From a state in step, a pointer moved without its entry having been taken is
out of step, whatever the RF core has filled. -/
theorem InStepAt.not_inStep_advance (inStep : InStepAt rxBuffer queue start count) :
    ¬ InStep rxBuffer (advance queue) := by
  intro stillInStep
  rcases stillInStep with ⟨reach, reachLe, atCurrent, finished⟩
  have startLt := inStep.startLt
  have countLe := inStep.countLe
  have walk : ∀ offset, follow (advance queue) offset =
      slot rxBuffer (position numDE start (offset + 1)) := fun offset => by
    rw [← inStep.follow_eq, follow, follow, Function.iterate_succ_apply]
    rfl
  have occupied : ∀ offset < numDE,
      (offset < count ↔ ∃ other < reach,
        position numDE start (other + 1) = position numDE start offset) := by
    intro offset inside
    apply (inStep.finished offset inside).symm.trans
    apply (finished _ (position_lt numDE_pos offset)).trans
    constructor
    · intro listed
      rcases listed with ⟨other, before, same⟩
      rw [walk] at same
      exact ⟨other, before, slot_injective same⟩
    · intro listed
      rcases listed with ⟨other, before, same⟩
      exact ⟨other, before, by rw [walk, same]⟩
  have currentSame : position numDE start (reach + 1) = position numDE start count := by
    rw [walk, show (advance queue).object = queue.object from rfl, inStep.currentAt] at atCurrent
    exact slot_injective atCurrent
  have atStart := occupied 0 numDE_pos
  have atNext := occupied 1 (by decide)
  unfold position numDE at *
  -- with three entries only one skipped over, the pointer meets the RF core a lap late
  have late : 0 < reach ∧ count ≤ 1 := by
    rcases Nat.eq_zero_or_pos count with none | some
    · omega
    · obtain ⟨other, before, same⟩ := atStart.mp some
      omega
  have claimsNext := atNext.mpr ⟨0, late.1, rfl⟩
  omega

theorem InStepAt.markPending_of_empty (inStep : InStepAt rxBuffer queue start 0) :
    InStepAt rxBuffer (markPending queue) start 0 where
  startLt := inStep.startLt
  countLe := inStep.countLe
  linked := inStep.linked.setStatus _ _
  readAt := inStep.readAt
  currentAt := inStep.currentAt
  finished := Occupied.none (fun index inside finished => by
    by_cases here : slot rxBuffer index = queue.readEntry
    · simp only [markPending, here, setStatus_self] at finished
      cases finished
    · simp only [markPending, setStatus_status_of_ne _ _ here] at finished
      obtain ⟨offset, offsetLt, rfl⟩ := position_reaches inStep.startLt inside
      exact Nat.not_lt_zero offset ((inStep.finished offset offsetLt).mp finished)) numDE_pos
  pending := fun index inside => by
    by_cases here : slot rxBuffer index = queue.readEntry
    · exact Or.inr (here ▸ setStatus_self _ _ _)
    · simp only [markPending, setStatus_status_of_ne _ _ here]
      exact inStep.pending index inside

theorem InStepAt.not_inStep_nextEntry (inStep : InStepAt rxBuffer queue start 0) :
    ¬ InStep rxBuffer (RadioQueue.nextEntry queue) :=
  inStep.markPending_of_empty.not_inStep_advance

/-! ### The preempted call -/

/-- A call preempted once it holds the length ends like any other, but what it
reads afterwards never includes a length. -/
def IsStale : Point → Prop
  | .compareLength _ => True
  | .copy _ _ _ => True
  | .markPending _ _ => True
  | _ => False

theorem finish_stale (queue : Queue) (maxlen : Nat) {point : Point} (stale : IsStale point) :
    ∃ value copied accesses, (∀ entry, Access.length entry ∉ accesses) ∧
      finish maxlen ⟨queue, point, []⟩ =
        ⟨nextEntry queue, .returned value copied,
          accesses ++ [.mark queue.readEntry (hasPacket queue)]⟩ := by
  cases point with
  | compareLength elementLength =>
      have finished := @statement_compareLength queue [] maxlen elementLength 0
      rw [Nat.zero_add] at finished
      refine ⟨_, _, _, fun entry => ?_, finished⟩
      unfold elementAccesses
      split <;> simp
  | copy elementLength source done =>
      have finished := @statement_copy queue [] maxlen elementLength source done 0
      have sameCount : 0 + 2 + (elementLength - done.length) + 1 =
          remaining maxlen (.copy elementLength source done) := by
        simp only [remaining]
        omega
      rw [sameCount] at finished
      refine ⟨_, _, _, fun entry member => ?_, finished⟩
      have drawn := List.mem_of_mem_drop member
      simp at drawn
  | markPending elementLength copied =>
      refine ⟨elementLength, copied, [], fun entry => List.not_mem_nil, ?_⟩
      exact @statement_markPending queue [] maxlen elementLength copied 0
  | entry => cases stale
  | fetchLength => cases stale
  | advance _ _ => cases stale
  | returned _ _ => cases stale

@[simp] theorem released_append (first second : List Access) :
    released (first ++ second) = released first ++ released second :=
  List.filterMap_append

@[simp] theorem released_mark (entry : Address) (wasFinished : Bool) :
    released [.mark entry wasFinished] = if wasFinished then [entry] else [] := by
  cases wasFinished <;> rfl

theorem released_elementAccesses (queue : Queue) (elementLength maxlen : Nat) :
    released (elementAccesses queue elementLength maxlen) = [] := by
  unfold elementAccesses
  split
  · simp [released, List.filterMap_map]
  · rfl

/-- A call that has found a packet and not yet read its length is indifferent to
the preemption: what it does is what a fresh call would. -/
theorem resume_fetchLength {history : History} (present : hasPacket history.queue = true)
    (maxlen : Nat) :
    (resume maxlen history .fetchLength).1 = history.takePacket maxlen ∧
      released (resume maxlen history .fetchLength).2 = [history.queue.readEntry] := by
  have log : released (finish maxlen ⟨history.queue, .fetchLength, []⟩).log =
      [history.queue.readEntry] := by
    rw [finish_fetchLength, List.cons_append, ← List.singleton_append, released_append,
      released_append, released_elementAccesses, released_mark, present]
    rfl
  constructor
  · simp only [resume, log, List.map_singleton]
    rw [finish_fetchLength]
    simp only [History.takePacket, takePacket, present, if_true]
  · exact log

theorem resume_fetchLength_reads (history : History) (maxlen : Nat) :
    ReadWhole history.queue.entries maxlen (resume maxlen history .fetchLength).2
      history.queue.readEntry := by
  simp only [resume]
  rw [finish_fetchLength]
  constructor
  · exact List.mem_cons_self
  · intro fits index inside
    apply List.mem_append_left
    apply List.mem_cons_of_mem
    rw [elementAccesses, if_pos fits]
    exact List.mem_map_of_mem (List.mem_range.mpr inside)

theorem resume_entry_of_packet {history : History} (present : hasPacket history.queue = true)
    (maxlen : Nat) : resume maxlen history .entry = resume maxlen history .fetchLength := by
  simp only [resume]
  rw [finish_entry_of_packet present]

theorem resume_entry_of_empty {history : History} (empty : hasPacket history.queue = false)
    (maxlen : Nat) : resume maxlen history .entry = (history, []) := by
  simp only [resume]
  rw [finish_entry_of_empty empty]
  simp [released]

theorem resume_returned (history : History) (maxlen value : Nat)
    (copied : Option (List UInt8)) :
    resume maxlen history (.returned value copied) = (history, []) := by
  simp [resume, finish, remaining, released]

/-- A stale call releases the first packet stored since the reset unread, or
leaves an empty ring with its pointer a step ahead. -/
theorem resume_stale {history : History} {point : Point} (stale : IsStale point) (maxlen : Nat) :
    (resume maxlen history point).1.queue = nextEntry history.queue ∧
      (hasPacket history.queue = true →
        history.queue.readEntry ∈ released (resume maxlen history point).2 ∧
        .length history.queue.readEntry ∉ (resume maxlen history point).2) := by
  obtain ⟨value, copied, accesses, noLength, finished⟩ := finish_stale history.queue maxlen stale
  simp only [resume, finished]
  constructor
  · trivial
  · intro present
    constructor
    · simp [present]
    · simpa using noLength history.queue.readEntry

/-! ### When the recovery succeeds -/

/-- Where the resumed call leaves a history that is tracked and has read what it
released, all that the recovery owes follows. -/
theorem recovers_of_tracked {point : Point} {arrivals : List Packet}
    (tracked : Tracked rxBuffer (resume maxlen (afterCallback rxBuffer queue arrivals) point).1
      start count)
    (read : ∀ entry ∈ released (resume maxlen (afterCallback rxBuffer queue arrivals) point).2,
      ReadWhole (afterCallback rxBuffer queue arrivals).queue.entries maxlen
        (resume maxlen (afterCallback rxBuffer queue arrivals) point).2 entry) :
    Recovers rxBuffer maxlen queue point arrivals where
  inStep := tracked.inStep.inStep
  read := read
  inOrder := fun events => by
    obtain ⟨_, _, later⟩ := tracked.run events
    exact later.faithfulFifo

theorem recovers_fetchLength (linked : Linked rxBuffer queue.entries) (maxlen : Nat)
    {arrivals : List Packet} (arrived : arrivals ≠ []) :
    Recovers rxBuffer maxlen queue .fetchLength arrivals := by
  have tracked := afterCallback_tracked linked arrivals
  have some : 0 < min numDE arrivals.length :=
    Nat.lt_min.mpr ⟨numDE_pos, List.length_pos_iff.mpr arrived⟩
  obtain ⟨count, countEq⟩ := Nat.exists_eq_succ_of_ne_zero (Nat.ne_of_gt some)
  rw [countEq] at tracked
  have present := tracked.inStep.hasPacket_iff.mpr (Nat.succ_pos count)
  obtain ⟨taken, marked⟩ := resume_fetchLength present maxlen
  have after := tracked.takePacket maxlen
  rw [← taken] at after
  apply recovers_of_tracked after
  intro entry member
  rw [marked, List.mem_singleton] at member
  rw [member]
  exact resume_fetchLength_reads _ maxlen

theorem recovers_of_unchanged (linked : Linked rxBuffer queue.entries) {point : Point}
    {arrivals : List Packet}
    (unchanged : resume maxlen (afterCallback rxBuffer queue arrivals) point =
      (afterCallback rxBuffer queue arrivals, [])) :
    Recovers rxBuffer maxlen queue point arrivals := by
  have tracked := afterCallback_tracked linked arrivals
  apply recovers_of_tracked
  · rw [unchanged]
    exact tracked
  · intro entry member
    rw [unchanged] at member
    cases member

theorem recovers_entry (linked : Linked rxBuffer queue.entries) (maxlen : Nat)
    (arrivals : List Packet) : Recovers rxBuffer maxlen queue .entry arrivals := by
  cases present : hasPacket (afterCallback rxBuffer queue arrivals).queue with
  | true =>
      have same := resume_entry_of_packet present maxlen
      have arrived : arrivals ≠ [] := by
        rintro rfl
        have empty := (afterCallback_tracked linked []).inStep.hasPacket_iff.mp present
        exact Nat.lt_irrefl 0 empty
      have recovered := recovers_fetchLength linked maxlen arrived
      constructor
      · rw [same]
        exact recovered.inStep
      · rw [same]
        exact recovered.read
      · rw [same]
        exact recovered.inOrder
  | false => exact recovers_of_unchanged linked (resume_entry_of_empty present maxlen)

theorem not_recovers_stale (linked : Linked rxBuffer queue.entries) {point : Point}
    (stale : IsStale point) (arrivals : List Packet) :
    ¬ Recovers rxBuffer maxlen queue point arrivals := by
  intro recovers
  have tracked := afterCallback_tracked linked arrivals
  obtain ⟨moved, unread⟩ :=
    @resume_stale (afterCallback rxBuffer queue arrivals) point stale maxlen
  rcases Nat.eq_zero_or_pos (min numDE arrivals.length) with none | some
  · rw [none] at tracked
    have inStep := recovers.inStep
    rw [moved] at inStep
    exact tracked.inStep.not_inStep_nextEntry inStep
  · obtain ⟨marked, noLength⟩ := unread (tracked.inStep.hasPacket_iff.mpr some)
    exact noLength (recovers.read _ marked).1

theorem not_recovers_fetchLength_of_none (linked : Linked rxBuffer queue.entries) :
    ¬ Recovers rxBuffer maxlen queue .fetchLength [] := by
  intro recovers
  have tracked := afterCallback_tracked linked []
  have inStep := recovers.inStep
  simp only [resume] at inStep
  rw [finish_fetchLength] at inStep
  exact tracked.inStep.not_inStep_nextEntry inStep

theorem not_recovers_advance (linked : Linked rxBuffer queue.entries) (value : Nat)
    (copied : Option (List UInt8)) (arrivals : List Packet) :
    ¬ Recovers rxBuffer maxlen queue (.advance value copied) arrivals := fun recovers =>
  (afterCallback_tracked linked arrivals).inStep.not_inStep_advance recovers.inStep

/-- The callback leaves reader and RF core able to go on exactly where it meets
the call before its check, after its last statement, or between the check and the
read of the length with a packet stored in time. -/
theorem recovers_iff_harmlessAt (rxBuffer : Address) (maxlen : Nat)
    (ring : LinkedQueue rxBuffer) (point : Point) (arrivals : List Packet) :
    Recovers rxBuffer maxlen ring.queue point arrivals ↔ HarmlessAt arrivals point := by
  cases point with
  | entry => exact iff_of_true (recovers_entry ring.linked maxlen arrivals) trivial
  | fetchLength =>
      constructor
      · rintro recovers rfl
        exact not_recovers_fetchLength_of_none ring.linked recovers
      · exact recovers_fetchLength ring.linked maxlen
  | compareLength elementLength =>
      have stale : IsStale (.compareLength elementLength) := trivial
      exact iff_of_false (not_recovers_stale ring.linked stale arrivals) id
  | copy elementLength source done =>
      have stale : IsStale (.copy elementLength source done) := trivial
      exact iff_of_false (not_recovers_stale ring.linked stale arrivals) id
  | markPending elementLength copied =>
      have stale : IsStale (.markPending elementLength copied) := trivial
      exact iff_of_false (not_recovers_stale ring.linked stale arrivals) id
  | advance value copied =>
      exact iff_of_false (not_recovers_advance ring.linked value copied arrivals) id
  | returned value copied =>
      exact iff_of_true (recovers_of_unchanged ring.linked (resume_returned _ maxlen value copied))
        trivial

def onePacketStored : Queue :=
  receive
    (init
      { entries := fun _ => ⟨0, .pending, .general, 0, 0, fun _ => 0⟩
        object := ⟨0, none⟩
        readEntry := 0 } 0)
    ⟨[7], by decide⟩

/-- The callback falls between the check and the read of the length, and nothing
arrives before the call goes on. -/
theorem onePacketStored_not_recovers :
    (statement maxLength ⟨onePacketStored, .entry, []⟩).point = .fetchLength ∧
      ¬ Recovers 0 maxLength onePacketStored .fetchLength [] := by
  have filled : InStepAt 0 onePacketStored 0 1 := (init_inStep _ 0).receive (by decide) _
  have present : hasPacket onePacketStored = true := filled.hasPacket_iff.mpr Nat.one_pos
  constructor
  · simp only [statement, present, if_true]
  · exact not_recovers_fetchLength_of_none filled.linked

end MSniff.Concrete.RadioQueue
