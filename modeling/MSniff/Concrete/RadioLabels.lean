/-
The protocol byte of the datagrams. The Ethernet task reads the current protocol and
then takes a packet; the switch stores the new protocol and then empties the ring. The
two tasks take turns where one of them blocks, while the RF core and its callback come
in anywhere.
-/

import MSniff.Concrete.PacketRoundTrip
import MSniff.Concrete.RadioSwitch

namespace MSniff.Concrete.RadioTask

open RadioQueue EventRun EthernetTask

/-! ### Two tasks and the RF core -/

/-- A datagram with the length of the packet in it and the protocol of the command
under which the RF core stored that packet. -/
structure Sent where
  datagram : Datagram
  packetlen : Nat
  storedUnder : Protocol

/-- The switch, for each entry the protocol of the command under which it was stored
last, the protocol that the Ethernet task has read for the packet it is about to
take, and what it has sent. -/
structure Labelling where
  switching : Switching
  origin : Address → Protocol
  label : Option Protocol
  sent : List Sent

def Labelling.receiver (labelling : Labelling) : Receiver := labelling.switching.receiver

def Labelling.queue (labelling : Labelling) : Queue := labelling.receiver.queue

def Labelling.current (labelling : Labelling) : Protocol :=
  labelling.receiver.radio.currentProtocol

def Labelling.setQueue (labelling : Labelling) (queue : Queue) : Labelling :=
  { labelling with
    switching := { labelling.switching with
      receiver := { labelling.receiver with queue := queue } } }

def startLabelling (queue : Queue) (rxBuffer : Address) : Labelling :=
  ⟨startSwitching queue rxBuffer, fun _ => .ieee802154, none, []⟩

inductive LabelEvent
  | radio (event : SwitchEvent)
  | store (packet : Packet)
  | readProtocol
  | takePacket (target : IPAddress) (stack : Nat → UInt8)

/-- The RF core stores under the command that runs. -/
def Labelling.store (labelling : Labelling) (packet : Packet) : Labelling :=
  match labelling.receiver.core.commands with
  | [] => labelling
  | command :: _ =>
      { labelling.setQueue (receive labelling.queue packet) with
        origin :=
          if canStore labelling.queue then
            Function.update labelling.origin labelling.queue.object.pCurrEntry command.protocol
          else labelling.origin }

/-- The rest of `Ethernet_handleRFpacket` behind the protocol it has read. -/
def Labelling.take (labelling : Labelling) (target : IPAddress) (stack : Nat → UInt8) :
    Labelling :=
  match labelling.label with
  | none => labelling
  | some proto =>
      let result := handleRFpacket labelling.queue proto target stack
      { labelling.setQueue result.queue with
        label := none
        sent := labelling.sent ++ (datagrams result.calls).map fun datagram =>
          ⟨datagram, readLength labelling.queue, labelling.origin labelling.queue.readEntry⟩ }

def labelStep (rxBuffer : Address) (labelling : Labelling) : LabelEvent → Labelling
  | .radio event =>
      { labelling with switching := switchStep rxBuffer labelling.switching event }
  | .store packet => labelling.store packet
  | .readProtocol => { labelling with label := some labelling.current }
  | .takePacket target stack => labelling.take target stack

/-- The points of a switch at which its task is inside a driver call that blocks. -/
def SwitchPoint.blocked : SwitchPoint → Bool
  | .idle => true
  | .flushing _ _ => true
  | .flushed _ => true
  | .closed _ => false
  | .assigned => false
  | .emptied => true
  | .opened => true
  | .tuned => false

/-- The switch is inside `RF_close`. -/
def SwitchPoint.closing : SwitchPoint → Bool
  | .flushed _ => true
  | _ => false

def Active (receiver : Receiver) : Prop :=
  receiver.core.opened ≠ none ∧ receiver.core.commands ≠ []

/-- When each event can happen: the switch goes on where the Ethernet task is not about
to take a packet, `RF_close` returns when no command is active, packets and overflows
come while one is, and the Ethernet task gets to run where the switch blocks. -/
def Scheduled (labelling : Labelling) : LabelEvent → Prop
  | .radio (.call _) => labelling.label = none
  | .radio .advance => labelling.label = none ∧
      (labelling.switching.point.closing = true → labelling.receiver.core.commands = [])
  | .radio (.callback _ _) => Active labelling.receiver
  | .radio .commandEnds => True
  | .store _ => Active labelling.receiver
  | .readProtocol => labelling.switching.point.blocked = true
  | .takePacket _ _ => labelling.label ≠ none

instance decidableActive (receiver : Receiver) : Decidable (Active receiver) :=
  inferInstanceAs (Decidable (_ ∧ _))

instance decidableScheduled (labelling : Labelling) :
    ∀ event, Decidable (Scheduled labelling event)
  | .radio (.call _) => inferInstanceAs (Decidable (_ = _))
  | .radio .advance => inferInstanceAs (Decidable (_ ∧ (_ → _)))
  | .radio (.callback _ _) => decidableActive _
  | .radio .commandEnds => isTrue trivial
  | .store _ => decidableActive _
  | .readProtocol => inferInstanceAs (Decidable (_ = true))
  | .takePacket _ _ => inferInstanceAs (Decidable (_ ≠ none))

/-- Every datagram carries the protocol that its packet was stored under, and outside
the moment at which a switch has stored the new protocol and not yet emptied the ring
no packet of another protocol waits in it. -/
structure TrueLabels (rxBuffer : Address) (labelling : Labelling) : Prop where
  sent : ∀ sent ∈ labelling.sent, ∃ bytes, bytes.length = sent.packetlen ∧
    sent.datagram.payload = frame sent.storedUnder bytes
  waiting : labelling.switching.point ≠ .assigned → ∀ index < numDE,
    (labelling.queue.entries (slot rxBuffer index)).status = .finished →
      labelling.origin (slot rxBuffer index) = labelling.current

/-- At the points behind `RF_close` no command is outstanding. -/
def SwitchPoint.stopped : SwitchPoint → Bool
  | .idle => false
  | .flushing _ _ => false
  | .flushed _ => false
  | _ => true

/-- What holds in every state of a scheduled run. -/
structure Consistent (rxBuffer : Address) (labelling : Labelling) : Prop where
  inStep : ∃ start count, InStepAt rxBuffer labelling.queue start count
  labels : TrueLabels rxBuffer labelling
  commands : ∀ command ∈ labelling.receiver.core.commands, command.protocol = labelling.current
  stopped : labelling.switching.point.stopped = true → labelling.receiver.core.commands = []
  read : ∀ proto, labelling.label = some proto →
    proto = labelling.current ∧ labelling.switching.point.blocked = true

variable {rxBuffer : Address} {labelling : Labelling}

/-! ### The steps -/

/-- A step of the switch or of its driver sends nothing. -/
theorem Consistent.radio (consistent : Consistent rxBuffer labelling) {next : Switching}
    (inStep : ∃ start count, InStepAt rxBuffer next.receiver.queue start count)
    (waiting : next.point ≠ .assigned → ∀ index < numDE,
      (next.receiver.queue.entries (slot rxBuffer index)).status = .finished →
        labelling.origin (slot rxBuffer index) = next.receiver.radio.currentProtocol)
    (commands : ∀ command ∈ next.receiver.core.commands,
      command.protocol = next.receiver.radio.currentProtocol)
    (stopped : next.point.stopped = true → next.receiver.core.commands = [])
    (read : ∀ proto, labelling.label = some proto →
      proto = next.receiver.radio.currentProtocol ∧ next.point.blocked = true) :
    Consistent rxBuffer { labelling with switching := next } where
  inStep := inStep
  labels := ⟨consistent.labels.sent, waiting⟩
  commands := commands
  stopped := stopped
  read := read

/-- So does one that leaves the queue, the protocol and the commands as they are. -/
theorem Consistent.keep (consistent : Consistent rxBuffer labelling) {next : Switching}
    (queue : next.receiver.queue = labelling.queue)
    (radio : next.receiver.radio = labelling.receiver.radio)
    (commands : next.receiver.core.commands = labelling.receiver.core.commands)
    (emptied : labelling.switching.point ≠ .assigned)
    (stopped : next.point.stopped = true → labelling.receiver.core.commands = [])
    (read : ∀ proto, labelling.label = some proto →
      proto = next.receiver.radio.currentProtocol ∧ next.point.blocked = true) :
    Consistent rxBuffer { labelling with switching := next } := by
  apply consistent.radio
  · rw [queue]
    exact consistent.inStep
  · intro _
    rw [queue, radio]
    exact consistent.labels.waiting emptied
  · rw [commands, radio]
    exact consistent.commands
  · rw [commands]
    exact stopped
  · exact read

theorem Consistent.call (consistent : Consistent rxBuffer labelling) (p : Protocol) :
    Consistent rxBuffer (labelStep rxBuffer labelling (.radio (.call p))) := by
  obtain ⟨⟨receiver, point, posts⟩, origin, label, sent⟩ := labelling
  cases point with
  | idle =>
      refine consistent.keep rfl rfl rfl SwitchPoint.noConfusion ?_ fun proto read => ?_
      · intro impossible
        cases impossible
      · exact ⟨(consistent.read proto read).1, rfl⟩
  | _ => exact consistent

/-- A queue just reset holds nothing that could be of another protocol. -/
theorem reset_waiting {queue : Queue} {start count : Nat}
    (inStep : InStepAt rxBuffer queue start count) (origin : Address → Protocol)
    (current : Protocol) :
    ∀ index < numDE,
      ((reset queue rxBuffer).entries (slot rxBuffer index)).status = .finished →
        origin (slot rxBuffer index) = current := fun _ inside finished =>
  absurd finished ((reset_inStep inStep.linked).not_finished inside)

theorem Consistent.advance (consistent : Consistent rxBuffer labelling)
    (scheduled : Scheduled labelling (.radio .advance)) :
    Consistent rxBuffer (labelStep rxBuffer labelling (.radio .advance)) := by
  obtain ⟨⟨receiver, point, posts⟩, origin, label, sent⟩ := labelling
  obtain ⟨asleep, returns⟩ := scheduled
  have inStep := consistent.inStep
  have waiting := consistent.labels.waiting
  have commands := consistent.commands
  have stopped := consistent.stopped
  have read : ∀ (next : Switching) (proto : Protocol), label = some proto →
      proto = next.receiver.radio.currentProtocol ∧ next.point.blocked = true := by
    intro next proto labelled
    cases asleep.symm.trans labelled
  cases point with
  | idle => exact consistent
  | flushing p left =>
      apply consistent.radio
      · exact inStep
      · intro _
        exact waiting SwitchPoint.noConfusion
      · intro command member
        exact commands command (List.mem_of_mem_drop member)
      · intro impossible
        cases impossible
      · exact read _
  | flushed p =>
      have none : receiver.core.commands = [] := returns rfl
      exact consistent.keep rfl rfl rfl SwitchPoint.noConfusion (fun _ => none) (read _)
  | closed p =>
      have none : receiver.core.commands = [] := stopped rfl
      apply consistent.radio
      · exact inStep
      · intro notAssigned
        exact absurd rfl notAssigned
      · intro command member
        change command ∈ receiver.core.commands at member
        rw [none] at member
        cases member
      · intro _
        exact none
      · exact read _
  | assigned =>
      obtain ⟨start, count, inStepAt⟩ := inStep
      apply consistent.radio
      · exact ⟨0, 0, reset_inStep inStepAt.linked⟩
      · intro _
        exact reset_waiting inStepAt _ _
      · exact commands
      · exact stopped
      · exact read _
  | emptied =>
      exact consistent.keep rfl rfl rfl SwitchPoint.noConfusion stopped (read _)
  | opened =>
      exact consistent.keep rfl rfl rfl SwitchPoint.noConfusion stopped (read _)
  | tuned =>
      apply consistent.radio
      · exact inStep
      · intro _
        exact waiting SwitchPoint.noConfusion
      · intro command member
        rcases List.mem_append.mp member with earlier | posted
        · exact commands command earlier
        · rw [List.mem_singleton.mp posted]
          exact rxCommand_protocol receiver.radio
      · intro impossible
        cases impossible
      · exact read _

/-- An event of a command moves a switch to no other kind of point. -/
theorem SwitchPoint.ended_kind (point : SwitchPoint) (count : Nat) :
    (point.ended count).stopped = point.stopped ∧
      (point.ended count).blocked = point.blocked ∧
      (point = .assigned → point.ended count = .assigned) := by
  cases point with
  | flushing p left => exact ⟨rfl, rfl, SwitchPoint.noConfusion⟩
  | _ => exact ⟨rfl, rfl, id⟩

theorem Consistent.callback (consistent : Consistent rxBuffer labelling) {e : UInt64}
    {ended : Bool} (active : Active labelling.receiver) :
    Consistent rxBuffer (labelStep rxBuffer labelling (.radio (.callback e ended))) := by
  obtain ⟨stopped, blocked, _⟩ := labelling.switching.point.ended_kind ended.toNat
  obtain ⟨start, count, inStep⟩ := consistent.inStep
  change Consistent rxBuffer
    { labelling with switching := switchStep rxBuffer labelling.switching (.callback e ended) }
  rw [switchStep_callback active.2]
  apply consistent.radio
  · exact ⟨0, 0, reset_inStep inStep.linked⟩
  · intro _
    exact reset_waiting inStep _ _
  · intro command member
    rcases List.mem_append.mp member with earlier | posted
    · exact consistent.commands command (List.mem_of_mem_drop earlier)
    · rw [List.mem_singleton.mp posted]
      exact rxCommand_protocol _
  · intro nowStopped
    exact absurd (consistent.stopped (stopped.symm.trans nowStopped)) active.2
  · intro proto read
    exact ⟨(consistent.read proto read).1, blocked.trans (consistent.read proto read).2⟩

theorem Consistent.commandEnds (consistent : Consistent rxBuffer labelling) :
    Consistent rxBuffer (labelStep rxBuffer labelling (.radio .commandEnds)) := by
  obtain ⟨stopped, blocked, assigned⟩ := labelling.switching.point.ended_kind 1
  apply consistent.radio
  · exact consistent.inStep
  · intro notAssigned
    exact consistent.labels.waiting fun here => notAssigned (assigned here)
  · intro command member
    exact consistent.commands command (List.mem_of_mem_drop member)
  · intro nowStopped
    have none := consistent.stopped (stopped.symm.trans nowStopped)
    change labelling.receiver.core.commands.drop 1 = []
    rw [none]
    rfl
  · intro proto read
    exact ⟨(consistent.read proto read).1, blocked.trans (consistent.read proto read).2⟩

/-- The origins of the entries behind a packet stored under the running command. -/
theorem store_waiting {queue : Queue} {origin : Address → Protocol} {current : Protocol}
    (waiting : ∀ index < numDE, (queue.entries (slot rxBuffer index)).status = .finished →
      origin (slot rxBuffer index) = current) (packet : Packet) :
    ∀ index < numDE, ((receive queue packet).entries (slot rxBuffer index)).status = .finished →
      (if canStore queue then Function.update origin queue.object.pCurrEntry current
        else origin) (slot rxBuffer index) = current := by
  intro index inside finished
  cases room : canStore queue with
  | false =>
      rw [receive_eq_of_full room] at finished
      exact waiting index inside finished
  | true =>
      rw [if_pos rfl]
      by_cases here : slot rxBuffer index = queue.object.pCurrEntry
      · rw [here, Function.update_self]
      · rw [receive_entries_of_ne room packet here] at finished
        rw [Function.update_of_ne here]
        exact waiting index inside finished

theorem Consistent.store (consistent : Consistent rxBuffer labelling)
    (active : Active labelling.receiver) (packet : Packet) :
    Consistent rxBuffer (labelStep rxBuffer labelling (.store packet)) := by
  obtain ⟨start, count, inStep⟩ := consistent.inStep
  cases commands : labelling.receiver.core.commands with
  | nil => exact absurd commands active.2
  | cons command rest =>
      have running : command.protocol = labelling.current := by
        apply consistent.commands command
        rw [commands]
        exact List.mem_cons_self
      simp only [labelStep, Labelling.store, commands, running]
      constructor
      · obtain ⟨count, received⟩ := inStep.exists_receive packet
        exact ⟨start, count, received⟩
      · constructor
        · exact consistent.labels.sent
        · intro notAssigned
          exact store_waiting (consistent.labels.waiting notAssigned) packet
      · exact consistent.commands
      · exact consistent.stopped
      · exact consistent.read

/-- What the Ethernet task takes was finished, so it is of the current protocol, which
is still the one it has read. -/
theorem Consistent.take (consistent : Consistent rxBuffer labelling) (target : IPAddress)
    (stack : Nat → UInt8) :
    Consistent rxBuffer (labelStep rxBuffer labelling (.takePacket target stack)) := by
  cases label : labelling.label with
  | none =>
      simp only [labelStep, Labelling.take, label]
      exact consistent
  | some proto =>
      obtain ⟨start, count, inStep⟩ := consistent.inStep
      obtain ⟨current, blocked⟩ := consistent.read proto label
      have waiting := consistent.labels.waiting fun assigned => by
        rw [assigned] at blocked
        cases blocked
      have leaves := handleRFpacket_queue labelling.queue proto target stack
      simp only [labelStep, Labelling.take, label]
      constructor
      · change ∃ start count, InStepAt rxBuffer
          (handleRFpacket labelling.queue proto target stack).queue start count
        rw [leaves]
        cases present : hasPacket labelling.queue with
        | false => exact ⟨start, count, inStep⟩
        | true => exact inStep.exists_nextEntry present
      · constructor
        · intro entry member
          rcases List.mem_append.mp member with earlier | now
          · exact consistent.labels.sent entry earlier
          · obtain ⟨datagram, sends, rfl⟩ := List.mem_map.mp now
            obtain ⟨present, _, bytes, length, payload⟩ := handleRFpacket_datagrams sends
            refine ⟨bytes, length, ?_⟩
            have finished := of_decide_eq_true present
            rw [inStep.readAt] at finished
            have stored := waiting start inStep.startLt finished
            rw [← inStep.readAt, ← current] at stored
            exact payload.trans (congrArg (frame · bytes) stored.symm)
        · intro _ index inside finished
          change ((handleRFpacket labelling.queue proto target stack).queue.entries
            (slot rxBuffer index)).status = .finished at finished
          rw [leaves] at finished
          apply waiting index inside
          cases present : hasPacket labelling.queue with
          | false =>
              rw [present] at finished
              exact finished
          | true =>
              rw [present] at finished
              exact finished_of_nextEntry finished
      · exact consistent.commands
      · exact consistent.stopped
      · intro _ impossible
        cases impossible

theorem Consistent.readProtocol (consistent : Consistent rxBuffer labelling)
    (scheduled : Scheduled labelling .readProtocol) :
    Consistent rxBuffer (labelStep rxBuffer labelling .readProtocol) where
  inStep := consistent.inStep
  labels := ⟨consistent.labels.sent, consistent.labels.waiting⟩
  commands := consistent.commands
  stopped := consistent.stopped
  read := by
    intro proto read
    cases read
    exact ⟨rfl, scheduled⟩

theorem Consistent.step (consistent : Consistent rxBuffer labelling) {event : LabelEvent}
    (scheduled : Scheduled labelling event) :
    Consistent rxBuffer (labelStep rxBuffer labelling event) := by
  cases event with
  | radio event =>
      cases event with
      | call p => exact consistent.call p
      | advance => exact consistent.advance scheduled
      | callback e ended => exact consistent.callback scheduled
      | commandEnds => exact consistent.commandEnds
  | store packet => exact consistent.store scheduled packet
  | readProtocol => exact consistent.readProtocol scheduled
  | takePacket target stack => exact consistent.take target stack

theorem startLabelling_consistent (queue : Queue) (rxBuffer : Address) :
    Consistent rxBuffer (startLabelling queue rxBuffer) := by
  have inStep := reset_inStep (init_inStep queue rxBuffer).linked
  constructor
  · exact ⟨0, 0, inStep⟩
  · constructor
    · intro entry none
      cases none
    · intro _ index inside finished
      exact absurd finished (inStep.not_finished inside)
  · intro command member
    rw [List.mem_singleton.mp member]
    rfl
  · intro impossible
    cases impossible
  · intro _ impossible
    cases impossible

/-- The labels are true in every run in which the tasks take turns where one blocks,
whatever the order of switches, packets, overflows and calls of the Ethernet task. -/
theorem scheduled_trueLabels (queue : Queue) (rxBuffer : Address) (events : List LabelEvent)
    (scheduled : Meets (labelStep rxBuffer) Scheduled (startLabelling queue rxBuffer) events) :
    TrueLabels rxBuffer (run (labelStep rxBuffer) (startLabelling queue rxBuffer) events) := by
  have consistent : Consistent rxBuffer
      (run (labelStep rxBuffer) (startLabelling queue rxBuffer) events) := by
    apply scheduled.invariant
    · intro labelling event (consistent : Consistent rxBuffer labelling) permitted
      exact consistent.step permitted
    · exact startLabelling_consistent queue rxBuffer
  exact consistent.labels

/-- A packet under each protocol, with an overflow while the switch flushes. -/
def switchedRun : List LabelEvent :=
  [.store ⟨[1, 2, 3], by decide⟩, .readProtocol, .takePacket ⟨![192, 168, 5, 12]⟩ fun _ => 0,
    .radio (.call .ble1M), .radio (.callback 0 true), .store ⟨[4], by decide⟩,
    .radio .advance, .readProtocol, .radio .commandEnds,
    .takePacket ⟨![192, 168, 5, 12]⟩ fun _ => 0,
    .radio .advance, .radio .advance, .radio .advance, .radio .advance, .radio .advance,
    .radio .advance, .store ⟨[5, 6], by decide⟩, .readProtocol,
    .takePacket ⟨![192, 168, 5, 12]⟩ fun _ => 0]

theorem switchedRun_trueLabels :
    TrueLabels 0 (run (labelStep 0) (startLabelling blankQueue 0) switchedRun) :=
  scheduled_trueLabels blankQueue 0 switchedRun (by decide)

end MSniff.Concrete.RadioTask
