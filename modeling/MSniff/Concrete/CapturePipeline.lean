/-
The sniffer from the radio to the wire. The Ethernet task takes a packet from the ring only
when it is through with the one before, and gives its frame to the chip access by access,
while the RF core, the switch of the protocol and the chip go on. What Wireshark shows of
the chip's datagrams are the packets taken.
-/

import MSniff.Concrete.CaptureRuns
import MSniff.Concrete.TransmitProgress

namespace MSniff.Concrete.CapturePipeline

open EventRun RadioQueue RadioTask EthernetTask Transmit

/-! ### The composition -/

structure Pipeline where
  capture : Capture
  sender : Sender

/-- An event of the radio's side, a register access of the Ethernet task, or a turn of the
chip: it takes a command, or it has transmitted a datagram. -/
inductive PipelineEvent
  | radio (event : LabelEvent)
  | access
  | command
  | transmitted

/-- Ethernet_handleRFpacket goes on with its calls of the UDP layer. -/
def handOver (labelling : Labelling) (sender : Sender) : LabelEvent → Sender
  | .takePacket target stack =>
      match labelling.label with
      | none => sender
      | some proto =>
          let result := handleRFpacket labelling.queue proto target stack
          { sender with
            calls := sender.calls ++ result.calls
            handled := sender.handled ++ datagrams result.calls }
  | _ => sender

def pipelineStep (rxBuffer : Address) (beyond : Nat → UInt8) (pipeline : Pipeline) :
    PipelineEvent → Pipeline
  | .radio event =>
      { capture := captureStep rxBuffer pipeline.capture event
        sender := handOver pipeline.capture.labelling pipeline.sender event }
  | .access => { pipeline with sender := Transmit.step beyond pipeline.sender .task }
  | .command => { pipeline with sender := Transmit.step beyond pipeline.sender .command }
  | .transmitted => { pipeline with sender := Transmit.step beyond pipeline.sender .chip }

/-- The parts of Ethernet_handleRFpacket before its calls of the UDP layer. -/
def takesUp : LabelEvent → Bool
  | .readProtocol => true
  | .takePacket _ _ => true
  | _ => false

/-- The task is one thread, what the radio does is scheduled and its packets fit, and no
write goes wrong for room in the chip's buffer. -/
def Permitted (pipeline : Pipeline) : PipelineEvent → Prop
  | .radio event =>
      Scheduled pipeline.capture.labelling event ∧ Fits event ∧
        (takesUp event = true → works pipeline.sender .task = false)
  | .access => Roomy pipeline.sender .task
  | .command => True
  | .transmitted => True

/-- What Wireshark shows of the datagrams that the chip has put on the wire. -/
def Pipeline.shown (pipeline : Pipeline) : List (Option (Dissector × List UInt8)) :=
  pipeline.sender.socket.wire.map dispatch

/-! ### The invariant -/

variable {rxBuffer : Address} {beyond : Nat → UInt8} {pipeline : Pipeline}

structure Flowing (rxBuffer : Address) (pipeline : Pipeline) : Prop where
  capturing : Capturing rxBuffer pipeline.capture
  sound : Sound pipeline.sender
  handled : pipeline.sender.handled = pipeline.capture.labelling.sent.map Sent.datagram

theorem idle_of_works {sender : Sender} (idle : works sender .task = false) :
    sender.point = .nextCall ∧ sender.calls = [] := by
  obtain ⟨socket, offset, point, calls, handled⟩ := sender
  cases point with
  | nextCall =>
      cases calls with
      | nil => exact ⟨rfl, rfl⟩
      | cons call rest => cases idle
  | _ => cases idle

/-- To the chip's side a packet that is taken and goes out is one that the task takes up. -/
theorem handOver_sendable {labelling : Labelling} {sender : Sender} {target : IPAddress}
    {stack : Nat → UInt8} {proto : Protocol} (label : labelling.label = some proto)
    (sendable : Sendable labelling.queue target) (idle : works sender .task = false) :
    handOver labelling sender (.takePacket target stack) =
      Transmit.step beyond sender
        (.packet ⟨labelling.queue, proto, target, stack, sendable⟩) := by
  obtain ⟨point, calls⟩ := idle_of_works idle
  have result := handleRFpacket_of_sendable sendable proto stack
  simp only [handOver, label, Transmit.step, point, calls, SniffedPacket.calls, result,
    List.nil_append, datagrams_sendCalls]
  rfl

theorem handOver_empty {labelling : Labelling} (sender : Sender) {target : IPAddress}
    {stack : Nat → UInt8} {proto : Protocol} (label : labelling.label = some proto)
    (empty : hasPacket labelling.queue = false) :
    handOver labelling sender (.takePacket target stack) = sender := by
  have result := handleRFpacket_of_empty empty proto target stack
  simp only [handOver, label, result, datagrams, assemble, List.append_nil]

theorem handOver_handled {labelling : Labelling} {sender : Sender}
    (handled : sender.handled = labelling.sent.map Sent.datagram) (rxBuffer : Address)
    (event : LabelEvent) :
    (handOver labelling sender event).handled =
      (labelStep rxBuffer labelling event).sent.map Sent.datagram := by
  cases event with
  | radio event => exact handled
  | store packet =>
      simp only [handOver, labelStep, Labelling.store]
      split
      · exact handled
      · exact handled
  | readProtocol => exact handled
  | takePacket target stack =>
      simp only [handOver, labelStep, Labelling.take]
      cases labelling.label with
      | none => exact handled
      | some proto =>
          rw [List.map_append, ← handled, List.map_map]
          exact congrArg (sender.handled ++ ·) (List.map_id _).symm

theorem Flowing.radio (flowing : Flowing rxBuffer pipeline) {event : LabelEvent}
    (permitted : Permitted pipeline (.radio event)) :
    Flowing rxBuffer (pipelineStep rxBuffer beyond pipeline (.radio event)) := by
  obtain ⟨scheduled, fits, single⟩ := permitted
  refine ⟨flowing.capturing.step scheduled fits, ?_,
    handOver_handled flowing.handled rxBuffer event⟩
  cases event with
  | radio event => exact flowing.sound
  | store packet => exact flowing.sound
  | readProtocol => exact flowing.sound
  | takePacket target stack =>
      simp only [pipelineStep]
      cases label : pipeline.capture.labelling.label with
      | none => exact absurd label scheduled
      | some proto =>
          cases present : hasPacket pipeline.capture.labelling.queue with
          | false =>
              rw [handOver_empty _ label present]
              exact flowing.sound
          | true =>
              have unassigned := flowing.capturing.unassigned label
              have sendable := flowing.capturing.sendable fits present unassigned
              rw [@handOver_sendable beyond _ _ _ _ _ label sendable (single rfl)]
              exact flowing.sound.step trivial

theorem advance_handled (beyond : Nat → UInt8) (sender : Sender) :
    (Transmit.advance beyond sender).handled = sender.handled := by
  unfold Transmit.advance
  split
  · split
    · rfl
    · rfl
    · rfl
    · rfl
  · split
    · rfl
    · split
      · rfl
      · rfl
  · split
    · rfl
    · rfl
  · rfl
  · split
    · rfl
    · rfl
  · split
    · rfl
    · rfl
  · rfl

theorem Flowing.step (flowing : Flowing rxBuffer pipeline) {event : PipelineEvent}
    (permitted : Permitted pipeline event) :
    Flowing rxBuffer (pipelineStep rxBuffer beyond pipeline event) := by
  cases event with
  | radio event => exact flowing.radio permitted
  | access =>
      have roomy : Roomy pipeline.sender .task := permitted
      exact ⟨flowing.capturing, flowing.sound.step roomy,
        (advance_handled beyond _).trans flowing.handled⟩
  | command =>
      have sound : Sound (Transmit.step beyond pipeline.sender .command) :=
        flowing.sound.step trivial
      exact ⟨flowing.capturing, sound, flowing.handled⟩
  | transmitted =>
      have sound : Sound (Transmit.step beyond pipeline.sender .chip) := flowing.sound.step trivial
      exact ⟨flowing.capturing, sound, flowing.handled⟩

/-! ### Whole runs -/

instance decidableFound (bytes : List UInt8) :
    ∀ found : FreeSize ⊕ Nat, Decidable (∀ free, found = .inr free → bytes.length ≤ free)
  | .inl _ => isTrue nofun
  | .inr free =>
      decidable_of_iff (bytes.length ≤ free)
        ⟨fun fits _ same => Sum.inr.inj same ▸ fits, fun all => all free rfl⟩

instance decidableRoomy : ∀ sender : Sender, Decidable (Roomy sender .task)
  | ⟨_, _, .nextCall, _, _⟩ => isTrue trivial
  | ⟨socket, _, .compareSize bytes loop, _, _⟩ => decidableFound bytes (loop.next socket.txFsr)
  | ⟨_, _, .clipSize _ _, _, _⟩ => isTrue trivial
  | ⟨_, _, .transfer _ _, _, _⟩ => inferInstanceAs (Decidable (_ ≤ _))
  | ⟨_, _, .awaitSend, _, _⟩ => isTrue trivial
  | ⟨_, _, .readInterrupt, _, _⟩ => isTrue trivial
  | ⟨_, _, .clearInterrupt, _, _⟩ => isTrue trivial

instance decidablePermitted (pipeline : Pipeline) : ∀ event, Decidable (Permitted pipeline event)
  | .radio _ => inferInstanceAs (Decidable (_ ∧ _ ∧ (_ → _)))
  | .access => decidableRoomy pipeline.sender
  | .command => isTrue trivial
  | .transmitted => isTrue trivial

end MSniff.Concrete.CapturePipeline
