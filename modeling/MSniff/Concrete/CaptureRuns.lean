/-
From the packets that the radio stores to the datagrams that the Ethernet task hands to
the UDP layer, with what Wireshark dissects of them: the switch of the protocol, overflows,
the RF core and the task come in any order that the scheduler allows.
-/

import MSniff.Concrete.RadioLabels
import MSniff.Concrete.RadioQueueHistory

namespace MSniff.Concrete.RadioTask

open RadioQueue EventRun EthernetTask

/-- The tasks together with the record of the ring, and for each stored packet the
protocol of the command that received it. -/
structure Capture where
  labelling : Labelling
  history : History
  received : List Protocol

/-- What an event does to the ring. -/
def ringEvents (labelling : Labelling) : LabelEvent → List RingEvent
  | .radio (.call _) => []
  | .radio .advance => if labelling.switching.point = .assigned then [.reset] else []
  | .radio (.callback _ _) => if labelling.receiver.core.commands = [] then [] else [.reset]
  | .radio .commandEnds => []
  | .store packet => if labelling.receiver.core.commands = [] then [] else [.receive packet]
  | .readProtocol => []
  | .takePacket _ _ => if labelling.label.isNone then [] else [.takePacket maxlen]

/-- Under which protocol an event stores a packet, where it stores one. -/
def receivedBy (labelling : Labelling) : LabelEvent → List Protocol
  | .store _ =>
      match labelling.receiver.core.commands with
      | [] => []
      | command :: _ => if canStore labelling.queue then [command.protocol] else []
  | _ => []

def captureStep (rxBuffer : Address) (capture : Capture) (event : LabelEvent) : Capture where
  labelling := labelStep rxBuffer capture.labelling event
  history := run (RadioQueue.step rxBuffer) capture.history (ringEvents capture.labelling event)
  received := capture.received ++ receivedBy capture.labelling event

/-- The packets are not longer than the Ethernet task's buffer, and the target is set. -/
def Fits : LabelEvent → Prop
  | .store packet => 0 < packet.bytes.length ∧ packet.bytes.length ≤ maxlen
  | .takePacket target _ => target.dword ≠ 0
  | _ => True

/-- What Wireshark is to show for the packet stored at this position. -/
def Capture.view (capture : Capture) (position : Nat) : Option (Dissector × List UInt8) :=
  match capture.history.stored[position]?, capture.received[position]? with
  | some packet, some protocol => some (dissectorOf protocol, packetPrefix protocol ++ packet.bytes)
  | _, _ => none

def Capture.shown (capture : Capture) : List (Option (Dissector × List UInt8)) :=
  capture.labelling.sent.map fun sent => dispatch sent.datagram

/-- What is shown are the packets taken, as they were received, and these with the ones
that wait are the ones stored and not emptied out, each once and in their order. -/
structure Capture.Faithful (capture : Capture) : Prop where
  shown : capture.shown = capture.history.taken.map capture.view
  inOrder : capture.history.taken ++ capture.history.waiting = capture.history.kept
  known : capture.received.length = capture.history.stored.length

/-! ### The invariant of runs -/

variable {rxBuffer : Address} {capture : Capture}

structure Capturing (rxBuffer : Address) (capture : Capture) : Prop where
  consistent : Consistent rxBuffer capture.labelling
  tracked : ∃ start count, Tracked rxBuffer capture.history start count
  queue : capture.history.queue = capture.labelling.queue
  known : capture.received.length = capture.history.stored.length
  origin : ∀ index < numDE,
    (capture.labelling.queue.entries (slot rxBuffer index)).status = .finished →
      capture.received[capture.history.origin (slot rxBuffer index)]? =
        some (capture.labelling.origin (slot rxBuffer index))
  fits : ∀ packet ∈ capture.history.stored, 0 < packet.bytes.length ∧ packet.bytes.length ≤ maxlen
  shown : capture.shown = capture.history.taken.map capture.view

theorem Capturing.faithful (capturing : Capturing rxBuffer capture) : capture.Faithful := by
  obtain ⟨start, count, tracked⟩ := capturing.tracked
  exact ⟨capturing.shown, tracked.fifo.inOrder, capturing.known⟩

theorem Capturing.taken_lt (capturing : Capturing rxBuffer capture) {position : Nat}
    (taken : position ∈ capture.history.taken) : position < capture.history.stored.length := by
  have kept : position ∈ capture.history.kept := by
    rw [← capturing.faithful.inOrder]
    exact List.mem_append_left _ taken
  exact List.mem_range.mp (List.mem_of_mem_filter kept)

/-! ### The steps -/

/-- What a step has to show that stores nothing and sends nothing. -/
theorem Capturing.quiet (capturing : Capturing rxBuffer capture) {next : Labelling}
    (consistent : Consistent rxBuffer next) (queue : next.queue = capture.labelling.queue)
    (origin : next.origin = capture.labelling.origin) (sent : next.sent = capture.labelling.sent) :
    Capturing rxBuffer { capture with labelling := next } where
  consistent := consistent
  tracked := capturing.tracked
  queue := capturing.queue.trans queue.symm
  known := capturing.known
  origin := by
    change ∀ index < numDE, (next.queue.entries (slot rxBuffer index)).status = .finished →
      capture.received[capture.history.origin (slot rxBuffer index)]? =
        some (next.origin (slot rxBuffer index))
    rw [queue, origin]
    exact capturing.origin
  fits := capturing.fits
  shown := by
    have shown := capturing.shown
    rw [Capture.shown] at *
    rw [sent]
    exact shown

theorem view_of_earlier {longer : Capture} {stored : List Packet} {received : List Protocol}
    (stores : longer.history.stored = capture.history.stored ++ stored)
    (receives : longer.received = capture.received ++ received)
    (known : capture.received.length = capture.history.stored.length) {position : Nat}
    (before : position < capture.history.stored.length) :
    longer.view position = capture.view position := by
  rw [Capture.view, Capture.view, stores, receives, List.getElem?_append_left before,
    List.getElem?_append_left (known ▸ before)]

/-- One that stores a packet in a free entry. -/
theorem Capturing.stored (capturing : Capturing rxBuffer capture) {next : Labelling}
    {packet : Packet} {protocol : Protocol} (room : canStore capture.labelling.queue = true)
    (fits : 0 < packet.bytes.length ∧ packet.bytes.length ≤ maxlen)
    (consistent : Consistent rxBuffer next)
    (queue : next.queue = receive capture.labelling.queue packet)
    (origin : next.origin = Function.update capture.labelling.origin
      capture.labelling.queue.object.pCurrEntry protocol)
    (sent : next.sent = capture.labelling.sent) :
    Capturing rxBuffer
      { labelling := next
        history := capture.history.receive packet
        received := capture.received ++ [protocol] } := by
  have history : capture.history.receive packet =
      { capture.history with
        queue := receive capture.labelling.queue packet
        origin := Function.update capture.history.origin
          capture.labelling.queue.object.pCurrEntry capture.history.stored.length
        stored := capture.history.stored ++ [packet] } := by
    rw [History.receive, capturing.queue, if_pos room]
  have tracked : ∃ start count, Tracked rxBuffer (capture.history.receive packet) start count := by
    obtain ⟨start, count, tracked⟩ := capturing.tracked
    exact tracked.step (.receive packet)
  rw [history] at tracked ⊢
  constructor
  · exact consistent
  · exact tracked
  · exact queue.symm
  · rw [List.length_append, List.length_append, capturing.known]
    rfl
  · intro index inside finished
    change (next.queue.entries (slot rxBuffer index)).status = .finished at finished
    rw [queue] at finished
    change (capture.received ++ [protocol])[Function.update capture.history.origin
      capture.labelling.queue.object.pCurrEntry capture.history.stored.length
        (slot rxBuffer index)]? = some (next.origin (slot rxBuffer index))
    rw [origin]
    by_cases here : slot rxBuffer index = capture.labelling.queue.object.pCurrEntry
    · rw [here, Function.update_self, Function.update_self, ← capturing.known,
        List.getElem?_concat_length]
    · rw [receive_entries_of_ne room packet here] at finished
      have present := capturing.origin index inside finished
      rw [Function.update_of_ne here, Function.update_of_ne here,
        List.getElem?_append_left (List.getElem?_eq_some_iff.mp present).1]
      exact present
  · intro earlier member
    rcases List.mem_append.mp member with before | new
    · exact capturing.fits earlier before
    · rw [List.mem_singleton.mp new]
      exact fits
  · change next.sent.map (fun sent => dispatch sent.datagram) = _
    rw [sent]
    refine capturing.shown.trans (List.map_congr_left fun position taken => ?_)
    exact (view_of_earlier rfl rfl capturing.known (capturing.taken_lt taken)).symm

/-- One that empties the ring besides. -/
theorem Capturing.emptied (capturing : Capturing rxBuffer capture) {next : Labelling}
    (consistent : Consistent rxBuffer next)
    (queue : next.queue = reset capture.labelling.queue rxBuffer)
    (sent : next.sent = capture.labelling.sent) :
    Capturing rxBuffer
      { capture with labelling := next, history := capture.history.reset rxBuffer } where
  consistent := consistent
  tracked := by
    obtain ⟨start, count, tracked⟩ := capturing.tracked
    exact ⟨0, 0, tracked.reset⟩
  queue := by
    change reset capture.history.queue rxBuffer = next.queue
    rw [capturing.queue, queue]
  known := capturing.known
  origin := by
    obtain ⟨start, count, inStep⟩ := capturing.consistent.inStep
    have empty := reset_inStep inStep.linked
    intro index inside finished
    change (next.queue.entries (slot rxBuffer index)).status = .finished at finished
    rw [queue] at finished
    exact absurd finished (empty.not_finished inside)
  fits := capturing.fits
  shown := by
    have shown := capturing.shown
    rw [Capture.shown] at *
    rw [sent]
    exact shown

theorem call_queue (switching : Switching) (p : Protocol) :
    (switchStep rxBuffer switching (.call p)).receiver.queue = switching.receiver.queue := by
  simp only [switchStep]
  cases switching.point with
  | _ => rfl

theorem advanceSwitch_queue (switching : Switching) :
    (advanceSwitch rxBuffer switching).receiver.queue =
      if switching.point = .assigned then reset switching.receiver.queue rxBuffer
      else switching.receiver.queue := by
  unfold advanceSwitch
  cases switching.point with
  | _ => rfl

theorem Capturing.radio (capturing : Capturing rxBuffer capture) {event : SwitchEvent}
    (scheduled : Scheduled capture.labelling (.radio event)) :
    Capturing rxBuffer (captureStep rxBuffer capture (.radio event)) := by
  have consistent := capturing.consistent.step scheduled
  have received : capture.received ++ receivedBy capture.labelling (.radio event) =
      capture.received := List.append_nil _
  rw [captureStep, received]
  cases event with
  | call p =>
      apply capturing.quiet consistent
      · exact @call_queue rxBuffer _ p
      · rfl
      · rfl
  | advance =>
      have queue := @advanceSwitch_queue rxBuffer capture.labelling.switching
      by_cases assigned : capture.labelling.switching.point = .assigned
      · simp only [ringEvents, assigned, if_true, run_cons, run_nil]
        rw [if_pos assigned] at queue
        exact capturing.emptied consistent queue rfl
      · simp only [ringEvents, assigned, if_false, run_nil]
        rw [if_neg assigned] at queue
        exact capturing.quiet consistent queue rfl rfl
  | callback e ended =>
      have active : capture.labelling.receiver.core.commands ≠ [] := scheduled.2
      have callback := congrArg (Receiver.queue ∘ Switching.receiver)
        (@switchStep_callback capture.labelling.switching rxBuffer active e ended)
      simp only [ringEvents, active, if_false, run_cons, run_nil]
      exact capturing.emptied consistent callback rfl
  | commandEnds => exact capturing.quiet consistent rfl rfl rfl

theorem Capturing.store (capturing : Capturing rxBuffer capture) {packet : Packet}
    (scheduled : Scheduled capture.labelling (.store packet)) (fits : Fits (.store packet)) :
    Capturing rxBuffer (captureStep rxBuffer capture (.store packet)) := by
  have consistent := capturing.consistent.step scheduled
  cases commands : capture.labelling.receiver.core.commands with
  | nil => exact absurd commands scheduled.2
  | cons command rest =>
      cases room : canStore capture.labelling.queue with
      | true =>
          have next : labelStep rxBuffer capture.labelling (.store packet) =
              { capture.labelling.setQueue (receive capture.labelling.queue packet) with
                origin := Function.update capture.labelling.origin
                  capture.labelling.queue.object.pCurrEntry command.protocol } := by
            simp only [labelStep, Labelling.store, commands, room, if_true]
          simp only [captureStep, ringEvents, receivedBy, commands, room, if_true, reduceCtorEq,
            if_false, run_cons, run_nil, RadioQueue.step]
          apply capturing.stored room fits consistent
          · rw [next]
            rfl
          · rw [next]
          · rw [next]
            rfl
      | false =>
          have next : labelStep rxBuffer capture.labelling (.store packet) =
              capture.labelling.setQueue (receive capture.labelling.queue packet) := by
            simp only [labelStep, Labelling.store, commands, room, Bool.false_eq_true, if_false]
            rfl
          have refused : capture.history.receive packet = capture.history := by
            rw [History.receive, capturing.queue, room, receive_eq_of_full room, ← capturing.queue]
            rfl
          simp only [captureStep, ringEvents, receivedBy, commands, room, reduceCtorEq, if_false,
            Bool.false_eq_true, run_cons, run_nil, RadioQueue.step, refused, List.append_nil]
          apply capturing.quiet consistent
          · rw [next]
            exact receive_eq_of_full room packet
          · rw [next]
            rfl
          · rw [next]
            rfl

/-- What the Ethernet task finds at the head of the ring is a packet as it was received,
and it is sent as what it is. -/
theorem Capturing.head (capturing : Capturing rxBuffer capture)
    (present : hasPacket capture.labelling.queue = true)
    (unassigned : capture.labelling.switching.point ≠ .assigned) :
    ∃ packet,
      capture.history.stored[capture.history.origin capture.labelling.queue.readEntry]? =
        some packet ∧
      capture.received[capture.history.origin capture.labelling.queue.readEntry]? =
        some capture.labelling.current ∧
      HoldsElement (capture.labelling.queue.entries capture.labelling.queue.readEntry) packet := by
  obtain ⟨start, count, tracked⟩ := capturing.tracked
  have inStep := tracked.inStep
  rw [capturing.queue] at inStep
  have some := inStep.hasPacket_iff.mp present
  obtain ⟨packet, stored, holds⟩ := tracked.content 0 some
  rw [CyclicWindow.position_zero inStep.startLt, ← inStep.readAt] at stored holds
  have finished := of_decide_eq_true present
  rw [inStep.readAt] at finished
  have received := capturing.origin start inStep.startLt finished
  rw [capturing.consistent.labels.waiting unassigned start inStep.startLt finished,
    ← inStep.readAt] at received
  rw [capturing.queue] at holds
  exact ⟨packet, stored, received, holds⟩

/-- One that takes the packet at the head and sends it. -/
theorem Capturing.taken (capturing : Capturing rxBuffer capture) {next : Labelling} {packet : Packet}
    {sent : Sent} (present : hasPacket capture.labelling.queue = true)
    (stored : capture.history.stored[capture.history.origin capture.labelling.queue.readEntry]? =
      some packet)
    (received : capture.received[capture.history.origin capture.labelling.queue.readEntry]? =
      some capture.labelling.current)
    (consistent : Consistent rxBuffer next)
    (queue : next.queue = nextEntry capture.labelling.queue)
    (origin : next.origin = capture.labelling.origin)
    (sends : next.sent = capture.labelling.sent ++ [sent])
    (payload : dispatch sent.datagram = some (dissectorOf capture.labelling.current,
      packetPrefix capture.labelling.current ++ packet.bytes)) :
    Capturing rxBuffer
      { capture with labelling := next, history := capture.history.takePacket maxlen } := by
  have tracked : ∃ start count, Tracked rxBuffer (capture.history.takePacket maxlen) start count := by
    obtain ⟨start, count, tracked⟩ := capturing.tracked
    exact tracked.step (.takePacket maxlen)
  have history : capture.history.takePacket maxlen =
      { capture.history with
        queue := nextEntry capture.labelling.queue
        taken := capture.history.taken ++
          [capture.history.origin capture.labelling.queue.readEntry]
        removals := (capture.history.takePacket maxlen).removals } := by
    simp only [History.takePacket, RadioQueue.takePacket, capturing.queue, present, if_true]
  rw [history] at tracked ⊢
  constructor
  · exact consistent
  · exact tracked
  · exact queue.symm
  · exact capturing.known
  · intro index inside finished
    change (next.queue.entries (slot rxBuffer index)).status = .finished at finished
    rw [queue] at finished
    change capture.received[capture.history.origin (slot rxBuffer index)]? =
      some (next.origin (slot rxBuffer index))
    rw [origin]
    exact capturing.origin index inside (finished_of_nextEntry finished)
  · exact capturing.fits
  · have view : capture.view (capture.history.origin capture.labelling.queue.readEntry) =
        dispatch sent.datagram := by
      rw [Capture.view, stored, received, payload]
    have shown := capturing.shown
    change next.sent.map (fun sent => dispatch sent.datagram) =
      (capture.history.taken ++ [_]).map capture.view
    rw [sends, List.map_append, List.map_append, List.map_singleton, List.map_singleton, view]
    exact congrArg (· ++ _) shown

/-- What is at the head goes out, for it was stored with a length that the task accepts. -/
theorem Capturing.sendable (capturing : Capturing rxBuffer capture) {target : IPAddress}
    {stack : Nat → UInt8} (fits : Fits (.takePacket target stack))
    (present : hasPacket capture.labelling.queue = true)
    (unassigned : capture.labelling.switching.point ≠ .assigned) :
    Sendable capture.labelling.queue target := by
  obtain ⟨packet, stored, _, length, _⟩ := capturing.head present unassigned
  have size : readLength capture.labelling.queue = packet.bytes.length := length
  have bounds := capturing.fits packet (List.mem_of_getElem? stored)
  refine ⟨present, ?_, ?_, fits⟩
  · rw [size]
    exact bounds.1
  · rw [size]
    exact bounds.2

/-- The task reads the protocol only where the switch has not just stored a new one. -/
theorem Capturing.unassigned (capturing : Capturing rxBuffer capture) {proto : Protocol}
    (label : capture.labelling.label = some proto) :
    capture.labelling.switching.point ≠ .assigned := by
  intro assigned
  have blocked := (capturing.consistent.read proto label).2
  rw [assigned] at blocked
  cases blocked

theorem Capturing.take (capturing : Capturing rxBuffer capture) {target : IPAddress}
    {stack : Nat → UInt8} (scheduled : Scheduled capture.labelling (.takePacket target stack))
    (fits : Fits (.takePacket target stack)) :
    Capturing rxBuffer (captureStep rxBuffer capture (.takePacket target stack)) := by
  have consistent := capturing.consistent.step scheduled
  cases label : capture.labelling.label with
  | none => exact absurd label scheduled
  | some proto =>
      have unassigned := capturing.unassigned label
      obtain ⟨rfl, _⟩ := capturing.consistent.read proto label
      simp only [captureStep, ringEvents, receivedBy, label, Option.isNone_some, Bool.false_eq_true,
        if_false, run_cons, run_nil, RadioQueue.step, List.append_nil]
      cases present : hasPacket capture.labelling.queue with
      | false =>
          have empty := handleRFpacket_of_empty present capture.labelling.current target stack
          have same : capture.history.takePacket maxlen = capture.history := by
            simp only [History.takePacket, RadioQueue.takePacket, capturing.queue, present,
              Bool.false_eq_true, if_false]
            rw [← capturing.queue]
          have next : labelStep rxBuffer capture.labelling (.takePacket target stack) =
              { capture.labelling.setQueue capture.labelling.queue with label := none } := by
            simp only [labelStep, Labelling.take, label, empty, datagrams, assemble, List.map_nil,
              List.append_nil]
            rfl
          rw [same]
          exact capturing.quiet consistent (by rw [next]; rfl) (by rw [next]; rfl) (by rw [next]; rfl)
      | true =>
          obtain ⟨packet, stored, received, length, bytes⟩ :=
            capturing.head present unassigned
          have size : readLength capture.labelling.queue = packet.bytes.length := length
          have sendable := capturing.sendable fits present unassigned
          have result := handleRFpacket_of_sendable sendable capture.labelling.current stack
          rw [size, bytes] at result
          have next : labelStep rxBuffer capture.labelling (.takePacket target stack) =
              { capture.labelling.setQueue (nextEntry capture.labelling.queue) with
                label := none
                sent := capture.labelling.sent ++
                  [⟨⟨target, port, frame capture.labelling.current packet.bytes⟩,
                    packet.bytes.length,
                    capture.labelling.origin capture.labelling.queue.readEntry⟩] } := by
            simp only [labelStep, Labelling.take, label, result, size, datagrams_sendCalls,
              List.map_singleton]
          apply capturing.taken present stored received consistent
          · rw [next]
            rfl
          · rw [next]
            rfl
          · rw [next]
          · exact dissector_frame _ _

theorem Capturing.step (capturing : Capturing rxBuffer capture) {event : LabelEvent}
    (scheduled : Scheduled capture.labelling event) (fits : Fits event) :
    Capturing rxBuffer (captureStep rxBuffer capture event) := by
  cases event with
  | radio event => exact capturing.radio scheduled
  | store packet => exact capturing.store scheduled fits
  | readProtocol =>
      have consistent := capturing.consistent.step scheduled
      have received : capture.received ++ receivedBy capture.labelling .readProtocol =
          capture.received := List.append_nil _
      rw [captureStep, received]
      exact capturing.quiet consistent rfl rfl rfl
  | takePacket target stack => exact capturing.take scheduled fits

/-! ### The beginning and the end -/

instance decidableFits : ∀ event, Decidable (Fits event)
  | .radio _ => isTrue trivial
  | .store _ => inferInstanceAs (Decidable (_ ∧ _))
  | .readProtocol => isTrue trivial
  | .takePacket _ _ => inferInstanceAs (Decidable (_ ≠ _))

end MSniff.Concrete.RadioTask
