/-
Radio_getStats. The RF core counts frames in the output structures of the two RX
commands, IEEE 802.15.4 frames by type in counters of eight bits; a poll copies what it
finds for the current protocol into globalStats.
-/

import Mathlib.Algebra.Group.Nat.Defs
import MSniff.EventRun
import MSniff.Concrete.RadioTask

namespace MSniff.Concrete.RadioTask

open EventRun

/-! ### Counters -/

/-- The types of frames; the RX command accepts all those of IEEE 802.15.4. -/
inductive Frame
  | beacon
  | data
  | ack
  | macCmd
  | reserved
  | ble
  deriving DecidableEq

def Frame.protocol : Frame → Protocol
  | .ble => .ble1M
  | _ => .ieee802154

structure BleGenericRxOutput where
  nRxOk : UInt16
  nRxNok : UInt16
  lastRssi : Int8

structure IeeeRxOutput where
  nRxBeacon : UInt8
  nRxData : UInt8
  nRxAck : UInt8
  nRxMacCmd : UInt8
  nRxReserved : UInt8
  nRxNok : UInt8
  lastRssi : Int8

/-- The counter of a type of IEEE 802.15.4 frames. -/
def IeeeRxOutput.counter (ieeeStats : IeeeRxOutput) : Frame → UInt8
  | .beacon => ieeeStats.nRxBeacon
  | .data => ieeeStats.nRxData
  | .ack => ieeeStats.nRxAck
  | .macCmd => ieeeStats.nRxMacCmd
  | .reserved => ieeeStats.nRxReserved
  | .ble => 0

structure RadioStats where
  nRxOkBle : UInt16
  nRxNokBle : UInt16
  nRxOkIeee : UInt16
  nRxNokIeee : UInt16
  lastRssi : Int8

/-- The statics of radio_task.c that the counting concerns, with the numbers of valid
frames received so far, all of them and at the last poll under each protocol. -/
structure Counting where
  currentProtocol : Protocol
  stats : BleGenericRxOutput
  ieeeStats : IeeeRxOutput
  globalStats : RadioStats
  received : Frame → Nat
  polled : Protocol → Nat

def startCounting : Counting where
  currentProtocol := .ieee802154
  stats := ⟨0, 0, 0⟩
  ieeeStats := ⟨0, 0, 0, 0, 0, 0, 0⟩
  globalStats := ⟨0, 0, 0, 0, 0⟩
  received := fun _ => 0
  polled := fun _ => 0

def Counting.receivedOf (counting : Counting) : Protocol → Nat
  | .ble1M => counting.received .ble
  | .ieee802154 => counting.received .beacon + counting.received .data +
      counting.received .ack + counting.received .macCmd + counting.received .reserved

/-! ### Frames and polls -/

def countBle (stats : BleGenericRxOutput) (rssi : Int8) : Frame → BleGenericRxOutput
  | .ble => { stats with nRxOk := stats.nRxOk + 1, lastRssi := rssi }
  | _ => stats

def countIeee (ieeeStats : IeeeRxOutput) (rssi : Int8) : Frame → IeeeRxOutput
  | .beacon => { ieeeStats with nRxBeacon := ieeeStats.nRxBeacon + 1, lastRssi := rssi }
  | .data => { ieeeStats with nRxData := ieeeStats.nRxData + 1, lastRssi := rssi }
  | .ack => { ieeeStats with nRxAck := ieeeStats.nRxAck + 1, lastRssi := rssi }
  | .macCmd => { ieeeStats with nRxMacCmd := ieeeStats.nRxMacCmd + 1, lastRssi := rssi }
  | .reserved => { ieeeStats with nRxReserved := ieeeStats.nRxReserved + 1, lastRssi := rssi }
  | .ble => ieeeStats

/-- The RF core receives a valid frame of the protocol it runs. -/
def receiveFrame (counting : Counting) (frame : Frame) (rssi : Int8) : Counting :=
  if frame.protocol = counting.currentProtocol then
    { counting with
      stats := countBle counting.stats rssi frame
      ieeeStats := countIeee counting.ieeeStats rssi frame
      received := Function.update counting.received frame (counting.received frame + 1) }
  else counting

/-- The RF core receives a frame whose checksum is wrong. -/
def receiveInvalid (counting : Counting) (rssi : Int8) : Counting :=
  match counting.currentProtocol with
  | .ble1M =>
      { counting with
        stats := { counting.stats with nRxNok := counting.stats.nRxNok + 1, lastRssi := rssi } }
  | .ieee802154 =>
      { counting with
        ieeeStats := { counting.ieeeStats with
          nRxNok := counting.ieeeStats.nRxNok + 1
          lastRssi := rssi } }

def getStats (currentProtocol : Protocol) (stats : BleGenericRxOutput)
    (ieeeStats : IeeeRxOutput) (globalStats : RadioStats) : RadioStats :=
  match currentProtocol with
  | .ble1M =>
      { globalStats with
        nRxOkBle := stats.nRxOk
        nRxNokBle := stats.nRxNok
        lastRssi := stats.lastRssi }
  | .ieee802154 =>
      { globalStats with
        nRxOkIeee := UInt16.ofNat
          (ieeeStats.nRxData.toNat + ieeeStats.nRxBeacon.toNat + ieeeStats.nRxMacCmd.toNat)
        nRxNokIeee := ieeeStats.nRxNok.toUInt16
        lastRssi := ieeeStats.lastRssi }

inductive CountEvent
  | receive (frame : Frame) (rssi : Int8)
  | receiveInvalid (rssi : Int8)
  | setCurrentProtocol (p : Protocol)
  | getStats

def pollStats (counting : Counting) : Counting :=
  { counting with
    globalStats :=
      getStats counting.currentProtocol counting.stats counting.ieeeStats counting.globalStats
    polled := Function.update counting.polled counting.currentProtocol
      (counting.receivedOf counting.currentProtocol) }

def countStep (counting : Counting) : CountEvent → Counting
  | .receive frame rssi => receiveFrame counting frame rssi
  | .receiveInvalid rssi => receiveInvalid counting rssi
  | .setCurrentProtocol p => { counting with currentProtocol := p }
  | .getStats => pollStats counting

/-! ### True counts -/

structure TrueCounts (counting : Counting) : Prop where
  ble : counting.globalStats.nRxOkBle.toNat = counting.receivedOf .ble1M % 2 ^ 16
  ieee : counting.globalStats.nRxOkIeee.toNat = counting.receivedOf .ieee802154 % 2 ^ 16

/-- What a poll has to find true: the counts of each protocol after it. -/
def PollsTrue (counting : Counting) : CountEvent → Prop
  | .getStats => TrueCounts (countStep counting .getStats)
  | _ => True

/-- The IEEE 802.15.4 frames that no counter read by `getStats` shows: those of the
types it leaves out, and 256 for each time that one of its counters has wrapped. -/
def Counting.unseen (counting : Counting) : Nat :=
  counting.received .ack + counting.received .reserved +
    256 * (counting.received .data / 256 + counting.received .beacon / 256 +
      counting.received .macCmd / 256)

/-- Frames of the protocol received since it was last polled for. -/
def Counting.unpolled (counting : Counting) (protocol : Protocol) : Nat :=
  counting.receivedOf protocol - counting.polled protocol

/-- A poll meets no frame that it cannot see, short of multiples of 2 ^ 16. -/
def SeesAll (counting : Counting) : CountEvent → Prop
  | .getStats =>
      match counting.currentProtocol with
      | .ble1M => counting.unpolled .ieee802154 % 2 ^ 16 = 0
      | .ieee802154 => counting.unseen % 2 ^ 16 = 0 ∧ counting.unpolled .ble1M % 2 ^ 16 = 0
  | _ => True

/-- The counters follow the frames modulo their widths, and each reported count was
true at the last poll under its protocol. -/
structure Follows (counting : Counting) : Prop where
  ble : counting.stats.nRxOk.toNat = counting.received .ble % 2 ^ 16
  ieee : ∀ frame, frame.protocol = .ieee802154 →
    (counting.ieeeStats.counter frame).toNat = counting.received frame % 2 ^ 8
  reportedBle : counting.globalStats.nRxOkBle.toNat = counting.polled .ble1M % 2 ^ 16
  reportedIeee : counting.globalStats.nRxOkIeee.toNat = counting.polled .ieee802154 % 2 ^ 16
  polledLe : ∀ protocol, counting.polled protocol ≤ counting.receivedOf protocol

variable {counting : Counting}

theorem nRxOk_countBle (stats : BleGenericRxOutput) (rssi : Int8) (frame : Frame) :
    (countBle stats rssi frame).nRxOk = if .ble = frame then stats.nRxOk + 1 else stats.nRxOk := by
  cases frame with
  | _ => rfl

theorem counter_countIeee (ieeeStats : IeeeRxOutput) (rssi : Int8) (frame : Frame)
    {other : Frame} (ieee : other.protocol = .ieee802154) :
    (countIeee ieeeStats rssi frame).counter other =
      if other = frame then ieeeStats.counter other + 1 else ieeeStats.counter other := by
  cases other with
  | ble => cases ieee
  | _ =>
      cases frame with
      | _ => rfl

theorem counted_mod {width counter next received : Nat} {same : Prop} [Decidable same]
    (before : counter = received % width) (counts : next = (counter + 1) % width) :
    (if same then next else counter) = (if same then received + 1 else received) % width := by
  by_cases counted : same
  · rw [if_pos counted, if_pos counted, counts, before, Nat.mod_add_mod]
  · rw [if_neg counted, if_neg counted, before]

theorem le_update (received : Frame → Nat) (frame other : Frame) :
    received other ≤ Function.update received frame (received frame + 1) other := by
  by_cases same : other = frame
  · subst same
    rw [Function.update_self]
    exact Nat.le_succ _
  · rw [Function.update_of_ne same]

theorem receivedOf_le_update (frame : Frame) (protocol : Protocol) :
    counting.receivedOf protocol ≤
      Counting.receivedOf
        { counting with
          received := Function.update counting.received frame (counting.received frame + 1) }
        protocol := by
  have grows := le_update counting.received frame
  cases protocol with
  | ble1M => exact grows .ble
  | ieee802154 =>
      exact Nat.add_le_add (Nat.add_le_add (Nat.add_le_add (Nat.add_le_add (grows .beacon)
        (grows .data)) (grows .ack)) (grows .macCmd)) (grows .reserved)

theorem update_received (received : Frame → Nat) (frame other : Frame) :
    Function.update received frame (received frame + 1) other =
      if other = frame then received other + 1 else received other := by
  by_cases same : other = frame
  · subst same
    rw [Function.update_self, if_pos rfl]
  · rw [Function.update_of_ne same, if_neg same]

theorem Follows.receive (follows : Follows counting) (frame : Frame) (rssi : Int8) :
    Follows (receiveFrame counting frame rssi) := by
  unfold receiveFrame
  by_cases running : frame.protocol = counting.currentProtocol
  · rw [if_pos running]
    refine ⟨?_, fun other ieee => ?_, follows.reportedBle, follows.reportedIeee, fun protocol =>
      Nat.le_trans (follows.polledLe protocol) (receivedOf_le_update frame protocol)⟩
    · dsimp only
      rw [nRxOk_countBle, update_received, apply_ite UInt16.toNat]
      exact counted_mod follows.ble (UInt16.toNat_add _ _)
    · dsimp only
      rw [counter_countIeee _ _ _ ieee, update_received, apply_ite UInt8.toNat]
      exact counted_mod (follows.ieee other ieee) (UInt8.toNat_add _ _)
  · rw [if_neg running]
    exact follows

theorem Follows.receiveInvalid (follows : Follows counting) (rssi : Int8) :
    Follows (receiveInvalid counting rssi) := by
  unfold RadioTask.receiveInvalid
  cases counting.currentProtocol with
  | ble1M =>
      exact ⟨follows.ble, follows.ieee, follows.reportedBle, follows.reportedIeee,
        follows.polledLe⟩
  | ieee802154 =>
      refine ⟨follows.ble, fun frame ieee => ?_, follows.reportedBle, follows.reportedIeee,
        follows.polledLe⟩
      have before := follows.ieee frame ieee
      cases frame with
      | _ => exact before

/-- What a poll for IEEE 802.15.4 reports is short of the frames it does not see. -/
theorem Follows.reported_iff (follows : Follows counting) :
    (UInt16.ofNat (counting.ieeeStats.nRxData.toNat + counting.ieeeStats.nRxBeacon.toNat +
        counting.ieeeStats.nRxMacCmd.toNat)).toNat = counting.receivedOf .ieee802154 % 2 ^ 16 ↔
      counting.unseen % 2 ^ 16 = 0 := by
  have data : counting.ieeeStats.nRxData.toNat = _ := follows.ieee .data rfl
  have beacon : counting.ieeeStats.nRxBeacon.toNat = _ := follows.ieee .beacon rfl
  have macCmd : counting.ieeeStats.nRxMacCmd.toNat = _ := follows.ieee .macCmd rfl
  have total : counting.receivedOf .ieee802154 = counting.received .beacon +
      counting.received .data + counting.received .ack + counting.received .macCmd +
      counting.received .reserved := rfl
  rw [UInt16.toNat_ofNat', data, beacon, macCmd, total]
  unfold Counting.unseen
  omega

theorem unpolled_iff (bounded : ∀ protocol, counting.polled protocol ≤ counting.receivedOf protocol)
    (protocol : Protocol) :
    counting.polled protocol % 2 ^ 16 = counting.receivedOf protocol % 2 ^ 16 ↔
      counting.unpolled protocol % 2 ^ 16 = 0 := by
  have before := bounded protocol
  unfold Counting.unpolled
  omega

theorem trueCounts_iff (follows : Follows counting) :
    TrueCounts (pollStats counting) ↔ SeesAll counting .getStats := by
  have reportedBle := unpolled_iff follows.polledLe .ble1M
  have reportedIeee := unpolled_iff follows.polledLe .ieee802154
  rw [← follows.reportedBle] at reportedBle
  rw [← follows.reportedIeee] at reportedIeee
  unfold SeesAll
  cases current : counting.currentProtocol with
  | ble1M =>
      rw [← reportedIeee]
      constructor
      · intro counts
        have ieee := counts.ieee
        simp only [pollStats, getStats, current] at ieee
        exact ieee
      · intro ieee
        constructor
        · simp only [pollStats, getStats, current]
          exact follows.ble
        · simp only [pollStats, getStats, current]
          exact ieee
  | ieee802154 =>
      rw [← reportedBle, ← follows.reported_iff]
      constructor
      · intro counts
        have ble := counts.ble
        have ieee := counts.ieee
        simp only [pollStats, getStats, current] at ble ieee
        exact ⟨ieee, ble⟩
      · intro seen
        constructor
        · simp only [pollStats, getStats, current]
          exact seen.2
        · simp only [pollStats, getStats, current]
          exact seen.1

theorem update_polled_le (bounded : ∀ protocol, counting.polled protocol ≤ counting.receivedOf protocol)
    (current protocol : Protocol) :
    Function.update counting.polled current (counting.receivedOf current) protocol ≤
      counting.receivedOf protocol := by
  by_cases same : protocol = current
  · subst same
    rw [Function.update_self]
  · rw [Function.update_of_ne same]
    exact bounded protocol

theorem Follows.poll (follows : Follows counting) (sees : SeesAll counting .getStats) :
    Follows (pollStats counting) := by
  have counts := (trueCounts_iff follows).mpr sees
  have polledLe := update_polled_le follows.polledLe counting.currentProtocol
  cases current : counting.currentProtocol with
  | ble1M =>
      refine ⟨follows.ble, follows.ieee, ?_, ?_, polledLe⟩
      · rw [counts.ble]
        simp only [pollStats, current, Function.update_self]
        rfl
      · simp only [pollStats, getStats, current]
        exact follows.reportedIeee
  | ieee802154 =>
      refine ⟨follows.ble, follows.ieee, ?_, ?_, polledLe⟩
      · simp only [pollStats, getStats, current]
        exact follows.reportedBle
      · rw [counts.ieee]
        simp only [pollStats, current, Function.update_self]
        rfl

theorem Follows.step (follows : Follows counting) {event : CountEvent}
    (sees : SeesAll counting event) : Follows (countStep counting event) := by
  cases event with
  | receive frame rssi => exact follows.receive frame rssi
  | receiveInvalid rssi => exact follows.receiveInvalid rssi
  | setCurrentProtocol p =>
      exact ⟨follows.ble, follows.ieee, follows.reportedBle, follows.reportedIeee,
        follows.polledLe⟩
  | getStats => exact follows.poll sees

theorem startCounting_follows : Follows startCounting where
  ble := rfl
  ieee := fun frame _ => by
    cases frame with
    | _ => rfl
  reportedBle := rfl
  reportedIeee := rfl
  polledLe := fun _ => Nat.zero_le _

/-- The reported counts are true after every poll of a run exactly where no poll comes
while frames are out of its sight: wrapped or left out counters for IEEE 802.15.4, and
frames of the other protocol that came after the last poll under it. -/
theorem pollsTrue_iff_seesAll (events : List CountEvent) :
    Meets countStep PollsTrue startCounting events ↔
      Meets countStep SeesAll startCounting events := by
  apply meets_iff
  · intro counting event (follows : Follows counting) sees
    exact follows.step sees
  · intro counting event follows
    cases event with
    | getStats => exact trueCounts_iff follows
    | receive frame rssi => exact Iff.rfl
    | receiveInvalid rssi => exact Iff.rfl
    | setCurrentProtocol p => exact Iff.rfl
  · exact startCounting_follows

/-- A data frame just before a switch is missing from the poll behind it. -/
theorem switch_not_pollsTrue :
    ¬ Meets countStep PollsTrue startCounting
      [.getStats, .receive .data 0, .setCurrentProtocol .ble1M, .getStats] := by
  intro polls
  have counts : TrueCounts _ := polls.2.2.2.1
  have missing := counts.ieee
  cases missing

end MSniff.Concrete.RadioTask
