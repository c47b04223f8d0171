/-
From the ring to Wireshark: the datagram assembled from the calls of
Ethernet_handleRFpacket and what the dissector of msniff.lua makes of it.
-/

import MSniff.Concrete.EthernetTask

namespace MSniff.Concrete.EthernetTask

open RadioQueue RadioTask

/-! ### The datagram -/

structure Datagram where
  address : IPAddress
  port : Nat
  payload : List UInt8

/-- The datagrams that calls amount to, given the one begun before them. -/
def assemble : Option Datagram → List UdpCall → List Datagram
  | _, [] => []
  | _, .beginPacket ip port :: rest => assemble (some ⟨ip, port, []⟩) rest
  | begun, .write bytes :: rest =>
      assemble (begun.map fun datagram =>
        { datagram with payload := datagram.payload ++ bytes }) rest
  | begun, .endPacket :: rest => begun.toList ++ assemble none rest

def datagrams (calls : List UdpCall) : List Datagram := assemble none calls

def packetPrefix : Protocol → List UInt8
  | .ble1M => accesAddress
  | .ieee802154 => []

def frame (protocol : Protocol) (bytes : List UInt8) : List UInt8 :=
  protocol.code :: (packetPrefix protocol ++ bytes)

theorem datagrams_sendCalls (protocol : Protocol) (target : IPAddress) (bytes : List UInt8) :
    datagrams (sendCalls protocol target bytes) =
      [⟨target, port, frame protocol bytes⟩] := by
  cases protocol with
  | ble1M => rfl
  | ieee802154 => rfl

/-! ### The dissector -/

inductive Dissector
  | btle
  | wpan
  deriving DecidableEq, Repr

/-- `msniff_protocol.dissector`: which dissector it calls, and on which bytes. -/
def dissector : List UInt8 → Option (Dissector × List UInt8)
  | [] => none
  | proto :: rest =>
      if proto = 0 then some (.btle, rest)
      else if proto = 1 then some (.wpan, rest)
      else none

/-- Wireshark hands the dissector the payloads of its port only. -/
def dispatch (datagram : Datagram) : Option (Dissector × List UInt8) :=
  if datagram.port = 2014 then dissector datagram.payload else none

def dissectorOf : Protocol → Dissector
  | .ble1M => .btle
  | .ieee802154 => .wpan

theorem dissector_frame (protocol : Protocol) (bytes : List UInt8) :
    dissector (frame protocol bytes) =
      some (dissectorOf protocol, packetPrefix protocol ++ bytes) := by
  cases protocol with
  | ble1M => rfl
  | ieee802154 => rfl

/-! ### The round trip -/

def readLength (queue : Queue) : Nat := get16bitValue (queue.entries queue.readEntry).data

def Sendable (queue : Queue) (target : IPAddress) : Prop :=
  hasPacket queue = true ∧ 0 < readLength queue ∧ readLength queue ≤ maxlen ∧ target.dword ≠ 0

structure RoundTrips (queue : Queue) (protocol : Protocol) (target : IPAddress)
    (result : HandleResult) : Prop where
  released : hasPacket queue = true → result.queue = nextEntry queue
  kept : hasPacket queue = false → result.queue = queue
  oneDatagram : Sendable queue target → ∃ datagram, datagrams result.calls = [datagram]
  noDatagram : ¬ Sendable queue target → datagrams result.calls = []
  inBuffer : result.bytesWritten ≤ maxlen ∧ result.bytesRead ≤ maxlen
  decoded : ∀ datagram ∈ datagrams result.calls, datagram.address = target ∧
    dispatch datagram = some (dissectorOf protocol,
      packetPrefix protocol ++ copyBytes (queue.entries queue.readEntry) (readLength queue))

/-- A finished element that the copy discards and the sender still sends. -/
def SendsDiscarded (queue : Queue) (target : IPAddress) : Prop :=
  hasPacket queue = true ∧ maxlen < readLength queue ∧ target.dword ≠ 0

variable {queue : Queue} {target : IPAddress}

theorem handleRFpacket_of_empty (empty : hasPacket queue = false) (protocol : Protocol)
    (target : IPAddress) (stack : Nat → UInt8) :
    handleRFpacket queue protocol target stack = ⟨queue, [], 0, 0⟩ := by
  simp [handleRFpacket, takePacket, empty]

theorem handleRFpacket_of_packet (present : hasPacket queue = true) (protocol : Protocol)
    (target : IPAddress) (stack : Nat → UInt8) :
    let copied := if readLength queue ≤ maxlen then
      copyBytes (queue.entries queue.readEntry) (readLength queue) else []
    handleRFpacket queue protocol target stack =
      if readLength queue ≠ 0 ∧ target.dword ≠ 0 then
        ⟨nextEntry queue,
          sendCalls protocol target (readBuffer (writeBuffer stack copied) (readLength queue)),
          copied.length, readLength queue⟩
      else ⟨nextEntry queue, [], copied.length, 0⟩ := by
  by_cases fits : readLength queue ≤ maxlen
  · simp only [readLength] at fits
    simp only [handleRFpacket, takePacket, present, readLength, fits, if_true, Option.getD_some]
  · simp only [readLength] at fits
    simp only [handleRFpacket, takePacket, present, readLength, fits, if_true, if_false,
      Option.getD_none]

/-- The queue that the Ethernet task leaves, and the datagrams it sends. -/
theorem handleRFpacket_queue (queue : Queue) (proto : Protocol) (target : IPAddress)
    (stack : Nat → UInt8) :
    (handleRFpacket queue proto target stack).queue =
      if hasPacket queue then nextEntry queue else queue := by
  cases present : hasPacket queue with
  | false =>
      rw [handleRFpacket_of_empty present]
      rfl
  | true =>
      rw [handleRFpacket_of_packet present]
      split
      · rfl
      · rfl

theorem handleRFpacket_datagrams {proto : Protocol} {target : IPAddress}
    {stack : Nat → UInt8} {datagram : Datagram}
    (member : datagram ∈ datagrams (handleRFpacket queue proto target stack).calls) :
    hasPacket queue = true ∧ datagram.address = target ∧
      ∃ bytes, bytes.length = readLength queue ∧ datagram.payload = frame proto bytes := by
  cases present : hasPacket queue with
  | false =>
      rw [handleRFpacket_of_empty present] at member
      cases member
  | true =>
      refine ⟨rfl, ?_⟩
      rw [handleRFpacket_of_packet present] at member
      split at member
      · rw [datagrams_sendCalls, List.mem_singleton] at member
        rw [member]
        refine ⟨rfl, _, ?_, rfl⟩
        simp only [readBuffer, List.length_map, List.length_range]
      · cases member

theorem handleRFpacket_of_sendable (sendable : Sendable queue target) (protocol : Protocol)
    (stack : Nat → UInt8) :
    handleRFpacket queue protocol target stack =
      ⟨nextEntry queue,
        sendCalls protocol target
          (copyBytes (queue.entries queue.readEntry) (readLength queue)),
        readLength queue, readLength queue⟩ := by
  obtain ⟨present, nonempty, fits, nonzero⟩ := sendable
  have length : (copyBytes (queue.entries queue.readEntry) (readLength queue)).length =
      readLength queue := by
    simp only [copyBytes, List.length_map, List.length_range]
  have whole := readBuffer_writeBuffer stack
    (copyBytes (queue.entries queue.readEntry) (readLength queue))
  rw [length] at whole
  rw [handleRFpacket_of_packet present, if_pos ⟨Nat.ne_of_gt nonempty, nonzero⟩]
  simp only [if_pos fits, whole, length]

theorem roundTrips_of_sendable (sendable : Sendable queue target) (protocol : Protocol)
    (stack : Nat → UInt8) :
    RoundTrips queue protocol target (handleRFpacket queue protocol target stack) := by
  rw [handleRFpacket_of_sendable sendable]
  constructor
  · intro _
    rfl
  · intro empty
    rw [sendable.1] at empty
    cases empty
  · intro _
    exact ⟨_, datagrams_sendCalls _ _ _⟩
  · intro notSendable
    exact absurd sendable notSendable
  · exact ⟨sendable.2.2.1, sendable.2.2.1⟩
  · intro datagram member
    rw [datagrams_sendCalls, List.mem_singleton] at member
    rw [member]
    exact ⟨rfl, dissector_frame _ _⟩

theorem roundTrips_of_silent (notSendable : ¬ Sendable queue target)
    (notDiscarded : ¬ SendsDiscarded queue target) (protocol : Protocol) (stack : Nat → UInt8) :
    RoundTrips queue protocol target (handleRFpacket queue protocol target stack) := by
  cases present : hasPacket queue with
  | false =>
      rw [handleRFpacket_of_empty present]
      constructor
      · intro finished
        rw [present] at finished
        cases finished
      · intro _
        rfl
      · intro sendable
        exact absurd sendable notSendable
      · intro _
        rfl
      · exact ⟨Nat.zero_le _, Nat.zero_le _⟩
      · intro datagram member
        cases member
  | true =>
      have silent : ¬ (readLength queue ≠ 0 ∧ target.dword ≠ 0) := by
        intro sends
        rcases sends with ⟨nonempty, nonzero⟩
        rcases Nat.lt_or_ge maxlen (readLength queue) with excess | fits
        · exact notDiscarded ⟨present, excess, nonzero⟩
        · exact notSendable ⟨present, Nat.pos_of_ne_zero nonempty, fits, nonzero⟩
      rw [handleRFpacket_of_packet present, if_neg silent]
      constructor
      · intro _
        rfl
      · intro empty
        rw [present] at empty
        cases empty
      · intro sendable
        exact absurd sendable notSendable
      · intro _
        rfl
      · constructor
        · split
          · simpa [copyBytes] using ‹_›
          · exact Nat.zero_le _
        · exact Nat.zero_le _
      · intro datagram member
        cases member

theorem not_roundTrips_of_sendsDiscarded (discarded : SendsDiscarded queue target)
    (protocol : Protocol) (stack : Nat → UInt8) :
    ¬ RoundTrips queue protocol target (handleRFpacket queue protocol target stack) := by
  intro roundTrips
  obtain ⟨present, excess, nonzero⟩ := discarded
  have nonempty : readLength queue ≠ 0 := Nat.ne_of_gt (Nat.lt_of_le_of_lt (Nat.zero_le _) excess)
  have notSendable : ¬ Sendable queue target := fun sendable =>
    Nat.not_le_of_lt excess sendable.2.2.1
  have none := roundTrips.noDatagram notSendable
  rw [handleRFpacket_of_packet present, if_pos ⟨nonempty, nonzero⟩, datagrams_sendCalls] at none
  cases none

/-- A call takes its element through to the dissector exactly where it does not
send an element longer than the local buffer. -/
theorem handleRFpacket_roundTrips_iff (queue : Queue) (protocol : Protocol) (target : IPAddress)
    (stack : Nat → UInt8) :
    RoundTrips queue protocol target (handleRFpacket queue protocol target stack) ↔
      ¬ SendsDiscarded queue target := by
  constructor
  · intro roundTrips discarded
    exact not_roundTrips_of_sendsDiscarded discarded protocol stack roundTrips
  · intro notDiscarded
    by_cases sendable : Sendable queue target
    · exact roundTrips_of_sendable sendable protocol stack
    · exact roundTrips_of_silent sendable notDiscarded protocol stack

/-- A finished element of 2048 bytes, each of them 8. -/
def oversizeElement : Queue where
  entries := fun _ => ⟨0, .finished, .general, deConfigSize, maxLength + numAppendedBytes,
    fun index => if index = 0 then 0 else 8⟩
  object := ⟨0, none⟩
  readEntry := 0

theorem oversizeElement_not_roundTrips :
    readLength oversizeElement + deConfigSize ≤ maxLength + numAppendedBytes ∧
      ¬ RoundTrips oversizeElement .ieee802154 ⟨![192, 168, 5, 12]⟩
        (handleRFpacket oversizeElement .ieee802154 ⟨![192, 168, 5, 12]⟩ fun _ => 0) := by
  constructor
  · decide
  · apply not_roundTrips_of_sendsDiscarded
    exact ⟨by decide, by decide, by decide⟩

end MSniff.Concrete.EthernetTask
