/-
Runs of the ring with the RF core storing, the Ethernet task taking and the
overflow callback resetting, each taken as one step. The history names every
stored packet by its position, so the order of delivery is stated for equal
packets too; it refines the abstract lossy queue.
-/

import Mathlib.Data.List.Forall2
import MSniff.EventRun
import MSniff.StampedFifo
import MSniff.Concrete.RadioQueueRing

namespace MSniff.Concrete.RadioQueue

open CyclicWindow

inductive RingEvent
  | receive (packet : Packet)
  | takePacket (maxlen : Nat)
  | reset

/-- What one call of `takePacket` that released an entry gave its caller. -/
structure Removal where
  maxlen : Nat
  value : Nat
  copied : Option (List UInt8)

/-- The ring with the record of a run: the packets the RF core stored, for each
entry the position of the packet stored there last, the positions removed with
what was handed out, and the positions that were finished at a reset. -/
structure History where
  queue : Queue
  origin : Address → Nat
  stored : List Packet
  taken : List Nat
  removals : List Removal
  lost : List Nat

def History.start (queue : Queue) : History := ⟨queue, fun _ => 0, [], [], [], []⟩

def History.waiting (history : History) : List Nat :=
  (finishedEntries history.queue).map history.origin

def History.receive (history : History) (packet : Packet) : History :=
  if canStore history.queue then
    { history with
      queue := RadioQueue.receive history.queue packet
      origin := Function.update history.origin history.queue.object.pCurrEntry
        history.stored.length
      stored := history.stored ++ [packet] }
  else { history with queue := RadioQueue.receive history.queue packet }

def History.takePacket (history : History) (maxlen : Nat) : History :=
  let result := RadioQueue.takePacket history.queue maxlen
  if hasPacket history.queue then
    { history with
      queue := result.queue
      taken := history.taken ++ [history.origin history.queue.readEntry]
      removals := history.removals ++ [⟨maxlen, result.value, result.copied⟩] }
  else { history with queue := result.queue }

def History.reset (history : History) (rxBuffer : Address) : History :=
  { history with
    queue := RadioQueue.reset history.queue rxBuffer
    lost := history.lost ++ history.waiting }

def step (rxBuffer : Address) (history : History) : RingEvent → History
  | .receive packet => history.receive packet
  | .takePacket maxlen => history.takePacket maxlen
  | .reset => history.reset rxBuffer

/-! ### What a run is to satisfy -/

/-- The caller got the packet stored at this position: its length, and its bytes
unless they do not fit the buffer. -/
def Delivers (stored : List Packet) (position : Nat) (removal : Removal) : Prop :=
  ∃ packet, stored[position]? = some packet ∧ removal.value = packet.bytes.length ∧
    removal.copied =
      if packet.bytes.length ≤ removal.maxlen then some packet.bytes else none

theorem Delivers.append {stored : List Packet} {position : Nat} {removal : Removal}
    (delivers : Delivers stored position removal) (packet : Packet) :
    Delivers (stored ++ [packet]) position removal := by
  obtain ⟨earlier, present, rest⟩ := delivers
  exact ⟨earlier, List.getElem?_append_left (List.getElem?_eq_some_iff.mp present).1 ▸ present, rest⟩

/-- The positions stored and not lost at a reset, in the order of storing. -/
def History.kept (history : History) : List Nat :=
  (List.range history.stored.length).filter fun position => !history.lost.contains position

structure History.FaithfulFifo (rxBuffer : Address) (history : History) : Prop where
  inStep : InStep rxBuffer history.queue
  inOrder : history.taken ++ history.waiting = history.kept
  delivered : List.Forall₂ (Delivers history.stored) history.taken history.removals

/-! ### Refinement of the abstract queue -/

def History.toFifo (history : History) : StampedFifo.History Packet :=
  { stored := history.stored
    waiting := history.waiting
    taken := history.taken
    lost := history.lost }

variable {rxBuffer : Address} {history : History} {start count : Nat}

theorem waiting_eq (inStep : InStepAt rxBuffer history.queue start count) :
    history.waiting = (List.range count).map
      fun offset => history.origin (slot rxBuffer (position numDE start offset)) := by
  rw [History.waiting, inStep.finishedEntries_eq, List.map_map]
  rfl

theorem History.receive_of_room (inStep : InStepAt rxBuffer history.queue start count)
    (room : count < numDE) (packet : Packet) :
    history.receive packet =
      { history with
        queue := RadioQueue.receive history.queue packet
        origin := Function.update history.origin (slot rxBuffer (position numDE start count))
          history.stored.length
        stored := history.stored ++ [packet] } := by
  rw [History.receive, if_pos (inStep.canStore_iff.mpr room), inStep.currentAt]

theorem History.receive_of_full (inStep : InStepAt rxBuffer history.queue start count)
    (full : ¬ count < numDE) (packet : Packet) : history.receive packet = history := by
  have refused : canStore history.queue = false := by
    rw [← Bool.not_eq_true, inStep.canStore_iff]
    exact full
  rw [History.receive, refused, receive_eq_of_full refused]
  rfl

theorem History.takePacket_of_empty (inStep : InStepAt rxBuffer history.queue start 0)
    (maxlen : Nat) : history.takePacket maxlen = history := by
  have empty : hasPacket history.queue = false := by
    rw [← Bool.not_eq_true, inStep.hasPacket_iff]
    exact Nat.lt_irrefl 0
  simp only [History.takePacket, RadioQueue.takePacket, empty, Bool.false_eq_true, if_false]

/-- What a call that finds a packet does to the history: it releases the first
finished entry and hands out its element. -/
theorem History.takePacket_of_packet
    (inStep : InStepAt rxBuffer history.queue start (count + 1)) (maxlen : Nat) :
    let entry := history.queue.entries (slot rxBuffer start)
    history.takePacket maxlen =
      { history with
        queue := nextEntry history.queue
        taken := history.taken ++ [history.origin (slot rxBuffer start)]
        removals := history.removals ++
          [{ maxlen := maxlen
             value := get16bitValue entry.data
             copied := if get16bitValue entry.data ≤ maxlen then
               some (copyBytes entry (get16bitValue entry.data)) else none }] } := by
  have present : hasPacket history.queue = true := inStep.hasPacket_iff.mpr (Nat.succ_pos count)
  simp only [History.takePacket, RadioQueue.takePacket, present, if_true, inStep.readAt]

theorem History.receive_toFifo (inStep : InStepAt rxBuffer history.queue start count)
    (room : count < numDE) (packet : Packet) :
    (history.receive packet).toFifo = history.toFifo.push packet := by
  have nowInStep : InStepAt rxBuffer (history.receive packet).queue start (count + 1) := by
    rw [History.receive_of_room inStep room]
    exact inStep.receive room packet
  have waits : (history.receive packet).waiting =
      history.waiting ++ [history.stored.length] := by
    rw [waiting_eq nowInStep, waiting_eq inStep, List.range_succ, List.map_append,
      List.map_singleton, History.receive_of_room inStep room]
    simp only [Function.update_self]
    congr 1
    refine List.map_congr_left fun offset member => Function.update_of_ne (fun same => ?_) _ _
    have before := List.mem_range.mp member
    exact Nat.ne_of_lt before
      (position_injective (Nat.lt_trans before room) room (slot_injective same))
  rw [History.toFifo, waits, History.receive_of_room inStep room]
  rfl

theorem History.takePacket_toFifo
    (inStep : InStepAt rxBuffer history.queue start (count + 1)) (maxlen : Nat) :
    (history.takePacket maxlen).toFifo = history.toFifo.pop := by
  have nowInStep : InStepAt rxBuffer (history.takePacket maxlen).queue
      (position numDE start 1) count := by
    rw [History.takePacket_of_packet inStep]
    exact inStep.nextEntry
  have waits : history.waiting =
      history.origin (slot rxBuffer start) :: (history.takePacket maxlen).waiting := by
    have shifted : ∀ offset, position numDE start (offset + 1) =
        position numDE (position numDE start 1) offset := fun offset => by
      rw [position_position, Nat.add_comm]
    rw [waiting_eq nowInStep, waiting_eq inStep, List.range_succ_eq_map, List.map_cons,
      position_zero inStep.startLt, List.map_map, History.takePacket_of_packet inStep]
    refine congrArg (List.cons _) (List.map_congr_left fun offset _ => ?_)
    rw [Function.comp_apply, Nat.succ_eq_add_one, shifted]
  simp only [History.toFifo, StampedFifo.History.pop, waits, List.tail_cons, List.head?_cons,
    Option.toList_some]
  rw [History.takePacket_of_packet inStep]

theorem History.reset_toFifo (inStep : InStepAt rxBuffer history.queue start count) :
    (history.reset rxBuffer).toFifo = history.toFifo.clear := by
  have nowInStep : InStepAt rxBuffer (history.reset rxBuffer).queue 0 0 :=
    reset_inStep inStep.linked
  rw [History.toFifo, waiting_eq nowInStep]
  rfl

/-! ### The invariant of runs -/

def HoldsElement (entry : DataEntry) (packet : Packet) : Prop :=
  get16bitValue entry.data = packet.bytes.length ∧
    copyBytes entry packet.bytes.length = packet.bytes

structure Tracked (rxBuffer : Address) (history : History) (start count : Nat) : Prop where
  inStep : InStepAt rxBuffer history.queue start count
  fifo : history.toFifo.Faithful
  content : ∀ offset < count, ∃ packet,
    history.stored[history.origin (slot rxBuffer (position numDE start offset))]? = some packet ∧
      HoldsElement (history.queue.entries (slot rxBuffer (position numDE start offset))) packet
  delivered : List.Forall₂ (Delivers history.stored) history.taken history.removals

theorem Tracked.faithfulFifo (tracked : Tracked rxBuffer history start count) :
    history.FaithfulFifo rxBuffer :=
  ⟨tracked.inStep.inStep, tracked.fifo.inOrder, tracked.delivered⟩

theorem nextEntry_data (queue : Queue) (address : Address) :
    ((nextEntry queue).entries address).data = (queue.entries address).data := by
  simp only [nextEntry, advance, markPending, setStatus_data]

theorem HoldsElement.of_data {entry other : DataEntry} {packet : Packet}
    (holds : HoldsElement entry packet) (same : other.data = entry.data) :
    HoldsElement other packet := by
  simpa only [HoldsElement, copyBytes, same] using holds

theorem holdsElement_receive {queue : Queue} (storable : canStore queue = true)
    (packet : Packet) :
    HoldsElement ((RadioQueue.receive queue packet).entries queue.object.pCurrEntry) packet := by
  rw [receive_entries_current storable packet]
  exact ⟨get16bitValue_storeElement _ packet, copyBytes_storeElement _ _ packet⟩

theorem Tracked.receive (tracked : Tracked rxBuffer history start count)
    (room : count < numDE) (packet : Packet) :
    Tracked rxBuffer (history.receive packet) start (count + 1) := by
  have storable := tracked.inStep.canStore_iff.mpr room
  have opened := History.receive_of_room tracked.inStep room packet
  refine
    { inStep := ?_
      fifo := ?_
      content := fun offset reached => ?_
      delivered := ?_ }
  · rw [opened]
    exact tracked.inStep.receive room packet
  · rw [History.receive_toFifo tracked.inStep room]
    exact tracked.fifo.push packet
  · rw [opened]
    by_cases last : offset = count
    · subst last
      refine ⟨packet, ?_, ?_⟩
      · simp
      · rw [← tracked.inStep.currentAt]
        exact holdsElement_receive storable packet
    · have before : offset < count := by omega
      obtain ⟨earlier, present, holds⟩ := tracked.content offset before
      have elsewhere : slot rxBuffer (position numDE start offset) ≠
          slot rxBuffer (position numDE start count) := fun same =>
        last (position_injective (Nat.lt_trans before room) room (slot_injective same))
      refine ⟨earlier, ?_, ?_⟩
      · simp only [Function.update_of_ne elsewhere]
        rw [List.getElem?_append_left (List.getElem?_eq_some_iff.mp present).1]
        exact present
      · rw [← tracked.inStep.currentAt] at elsewhere
        simp only [receive_entries_of_ne storable packet elsewhere]
        exact holds
  · rw [opened]
    exact tracked.delivered.imp fun position removal delivers => delivers.append packet

theorem Tracked.takePacket (tracked : Tracked rxBuffer history start (count + 1))
    (maxlen : Nat) :
    Tracked rxBuffer (history.takePacket maxlen) (position numDE start 1) count := by
  have opened := History.takePacket_of_packet tracked.inStep maxlen
  refine
    { inStep := ?_
      fifo := ?_
      content := fun offset reached => ?_
      delivered := ?_ }
  · rw [opened]
    exact tracked.inStep.nextEntry
  · rw [History.takePacket_toFifo tracked.inStep]
    exact tracked.fifo.pop
  · rw [opened]
    obtain ⟨packet, present, holds⟩ := tracked.content (1 + offset) (by omega)
    rw [← position_position] at present holds
    exact ⟨packet, present, holds.of_data (nextEntry_data _ _)⟩
  · obtain ⟨packet, present, holds⟩ := tracked.content 0 (Nat.succ_pos count)
    rw [position_zero tracked.inStep.startLt] at present holds
    rw [opened]
    refine List.rel_append tracked.delivered (List.Forall₂.cons ?_ List.Forall₂.nil)
    exact ⟨packet, present, holds.1, by simp only [holds.1, holds.2]⟩

theorem Tracked.reset (tracked : Tracked rxBuffer history start count) :
    Tracked rxBuffer (history.reset rxBuffer) 0 0 where
  inStep := reset_inStep tracked.inStep.linked
  fifo := by
    rw [History.reset_toFifo tracked.inStep]
    exact tracked.fifo.clear
  content := fun offset impossible => absurd impossible (Nat.not_lt_zero offset)
  delivered := tracked.delivered

theorem Tracked.step (tracked : Tracked rxBuffer history start count) (event : RingEvent) :
    ∃ start count, Tracked rxBuffer (RadioQueue.step rxBuffer history event) start count := by
  cases event with
  | receive packet =>
      by_cases room : count < numDE
      · exact ⟨start, count + 1, tracked.receive room packet⟩
      · refine ⟨start, count, ?_⟩
        rw [RadioQueue.step, History.receive_of_full tracked.inStep room]
        exact tracked
  | takePacket maxlen =>
      cases count with
      | zero =>
          refine ⟨start, 0, ?_⟩
          rw [RadioQueue.step, History.takePacket_of_empty tracked.inStep]
          exact tracked
      | succ count => exact ⟨_, count, tracked.takePacket maxlen⟩
  | reset => exact ⟨0, 0, tracked.reset⟩

theorem Tracked.run (tracked : Tracked rxBuffer history start count) (events : List RingEvent) :
    ∃ start count,
      Tracked rxBuffer (EventRun.run (RadioQueue.step rxBuffer) history events) start count := by
  induction events generalizing history start count with
  | nil => exact ⟨start, count, tracked⟩
  | cons event rest ih =>
      obtain ⟨_, _, next⟩ := tracked.step event
      exact ih next

theorem start_tracked {queue : Queue} (inStep : InStepAt rxBuffer queue start 0) :
    Tracked rxBuffer (History.start queue) start 0 where
  inStep := inStep
  fifo := by
    have empty : (History.start queue).waiting = [] := @waiting_eq _ (.start queue) _ _ inStep
    rw [History.toFifo, empty]
    exact StampedFifo.History.empty_faithful
  content := fun offset impossible => absurd impossible (Nat.not_lt_zero offset)
  delivered := List.Forall₂.nil

/-- Every run from the initialised ring, in any order of RF core, reader and
overflow resets: the finished entries are the ones between the two pointers, and
the packets taken are the packets stored, each once and in order, without those
that were finished at a reset. -/
theorem run_faithfulFifo (queue : Queue) (rxBuffer : Address) (events : List RingEvent) :
    (EventRun.run (step rxBuffer) (History.start (init queue rxBuffer)) events).FaithfulFifo
      rxBuffer := by
  obtain ⟨_, _, tracked⟩ := (start_tracked (init_inStep queue rxBuffer)).run events
  exact tracked.faithfulFifo

end MSniff.Concrete.RadioQueue
