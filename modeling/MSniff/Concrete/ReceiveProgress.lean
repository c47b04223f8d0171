/-
No reading call waits for anything but the chip's taking of a RECV. A look at the received
size can fail, and has to be repeated, only because of a datagram that came in meanwhile;
each of those takes room that only the end of the call gives back, so they are few.
-/

import MSniff.Concrete.ReceiveRuns

namespace MSniff.Concrete.Receive

open CircularStore EthernetTask SocketTable Transmit

/-! ### What is left to do -/

/-- The register accesses of a step: six for the copy of a block with the pointer read
before it, the pointer and the RECV written behind it. A look at Sn_CR that finds the RECV
not taken does not count: how often the task looks is for the chip to say. -/
def accesses (receiver : Receiver) : Event → Nat
  | .task =>
      match receiver.point with
      | .idle => 0
      | .receive _ _ (.transfer _) => 6
      | .receive _ _ (.await _ _) => if receiver.socket.snCr then 0 else 1
      | _ => 1
  | .call .peek =>
      match receiver.point with
      | .idle => if receiver.udp.remaining = 0 then 0 else 3
      | _ => 0
  | _ => 0

/-- The register accesses up to the end of the loop, and where it may end with
nothing, those of looking once more. -/
def loopCost (current : Nat) : ReceivedSize → Nat
  | .firstHigh _ => 4
  | .firstLow _ high => if high = current / 256 then 3 else 8
  | .secondHigh val1 => if val1 = current then 2 else 7
  | .secondLow val1 high => if val1 = current ∧ high = current / 256 then 1 else 6

def stageCost (current : Nat) : Stage → Nat
  | .size loop => loopCost current loop + 7
  | .status => 12
  | .transfer _ => 7
  | .await _ _ => 1

/-- A flush reads byte by byte, and parsePacket then looks for the next header. -/
def flushCost (remaining : Nat) : Cause → Nat
  | .flush _ => 11 * (remaining - 1) + 15
  | _ => 0

def pointCost (current remaining : Nat) : Point → Nat
  | .idle => 0
  | .check loop => loopCost current loop + 11
  | .receive cause _ stage => stageCost current stage + flushCost remaining cause

/-- The bytes in the buffer that have not been copied. -/
def Socket.behind (socket : Socket) : Nat :=
  (socket.rxWr + registerRange - socket.rxRd) % registerRange

/-- Room for more datagrams, counting what this call may still free. -/
def Receiver.room (receiver : Receiver) : Nat :=
  bufferSize + 8 + receiver.udp.remaining - receiver.socket.behind

def Receiver.potential (receiver : Receiver) : Nat :=
  match receiver.point with
  | .idle => 0
  | .receive (.flush parsing) _ (.await _ _) =>
      (receiver.took 1).room + flushCost receiver.udp.remaining (.flush parsing) + 1
  | .receive _ _ (.await _ _) => 1
  | point => receiver.room + pointCost receiver.socket.rxRsr receiver.udp.remaining point

variable {floor current grown remaining : Nat} {loop : ReceivedSize}

theorem loopCost_pos : 0 < loopCost current loop := by
  cases loop with
  | firstHigh val => exact Nat.succ_pos _
  | firstLow val high =>
      simp only [loopCost]
      split <;> omega
  | secondHigh val1 =>
      simp only [loopCost]
      split <;> omega
  | secondLow val1 high =>
      simp only [loopCost]
      split <;> omega

theorem loopCost_grow : loopCost grown loop ≤ loopCost current loop + 5 := by
  cases loop with
  | firstHigh val => exact Nat.le_add_right _ _
  | firstLow val high =>
      simp only [loopCost]
      split <;> split <;> omega
  | secondHigh val1 =>
      simp only [loopCost]
      split <;> split <;> omega
  | secondLow val1 high =>
      simp only [loopCost]
      split <;> split <;> omega

theorem loopCost_le : loopCost current loop ≤ 8 := by
  cases loop with
  | firstHigh val =>
      simp only [loopCost]
      omega
  | firstLow val high =>
      simp only [loopCost]
      split <;> omega
  | secondHigh val1 =>
      simp only [loopCost]
      split <;> omega
  | secondLow val1 high =>
      simp only [loopCost]
      split <;> omega

theorem pointCost_le (point : Point) :
    pointCost current remaining point ≤ 11 * remaining + 30 := by
  cases point with
  | idle => exact Nat.zero_le _
  | check loop =>
      have bounded := @loopCost_le current loop
      simp only [pointCost]
      omega
  | receive cause len stage =>
      have bounded : stageCost current stage ≤ 15 := by
        cases stage with
        | size loop => exact Nat.add_le_add_right loopCost_le 7
        | status => exact Nat.le_add_right 12 3
        | transfer ret => exact Nat.le_add_right 7 8
        | await ret bytes => exact Nat.le_add_right 1 14
      have flushing : flushCost remaining cause ≤ 11 * remaining + 15 := by
        cases cause with
        | flush parsing =>
            simp only [flushCost]
            omega
        | header => exact Nat.zero_le _
        | read => exact Nat.zero_le _
        | readBuf len => exact Nat.zero_le _
      simp only [pointCost]
      omega

theorem pointCost_grow (point : Point) :
    pointCost grown remaining point ≤ pointCost current remaining point + 5 := by
  cases point with
  | idle => exact Nat.zero_le _
  | check loop =>
      have grows := @loopCost_grow current grown loop
      simp only [pointCost]
      omega
  | receive cause len stage =>
      cases stage with
      | size loop =>
          have grows := @loopCost_grow current grown loop
          simp only [pointCost, stageCost]
          omega
      | status => exact Nat.le_add_right _ _
      | transfer ret => exact Nat.le_add_right _ _
      | await ret bytes => exact Nat.le_add_right _ _

/-- Each access brings the end of the loop closer, and a loop that ends with nothing
although bytes are there has been disturbed. -/
theorem LoopSound.loopCost_next (sound : LoopSound floor current loop) :
    match loop.next current with
    | .inl next => loopCost current next < loopCost current loop
    | .inr size => size = 0 → 0 < current → 6 ≤ loopCost current loop := by
  cases loop with
  | firstHigh val =>
      simp only [FreeSize.next, loopCost, if_true]
      omega
  | firstLow val high =>
      by_cases exact : high = current / 256
      · subst exact
        have whole : current / 256 * 256 + current % 256 = current := by omega
        by_cases zero : current = 0
        · have none : ¬ val ≠ 0 := fun nonzero => absurd (sound.1 nonzero) (by omega)
          simp only [FreeSize.next, zero, ne_eq, not_true_eq_false, if_false, none]
          intro _ positive
          exact absurd positive (Nat.lt_irrefl 0)
        · simp only [FreeSize.next, whole, ne_eq, zero, not_false_eq_true, if_true, loopCost]
          omega
      · by_cases zero : high * 256 + current % 256 = 0
        · by_cases different : val ≠ 0
          · simp only [FreeSize.next, zero, ne_eq, not_true_eq_false, if_false, different,
              not_false_eq_true, if_true, loopCost, exact]
            omega
          · simp only [FreeSize.next, zero, ne_eq, not_true_eq_false, if_false, different,
              loopCost, exact]
            omega
        · simp only [FreeSize.next, ne_eq, zero, not_false_eq_true, if_true, loopCost, exact,
            if_false]
          split <;> omega
  | secondHigh val1 =>
      by_cases exact : val1 = current
      · simp only [FreeSize.next, loopCost, exact, and_self, if_true]
        omega
      · simp only [FreeSize.next, loopCost, exact, false_and, if_false]
        omega
  | secondLow val1 high =>
      by_cases exact : val1 = current ∧ high = current / 256
      · obtain ⟨exactVal, exactHigh⟩ := exact
        subst exactVal exactHigh
        have whole : val1 / 256 * 256 + val1 % 256 = val1 := by omega
        simp only [FreeSize.next, whole, ne_eq, not_true_eq_false, if_false]
        omega
      · by_cases different : high * 256 + current % 256 ≠ val1
        · simp only [FreeSize.next, different, ne_eq, not_false_eq_true, if_true, loopCost, exact,
            if_false]
          omega
        · simp only [FreeSize.next, different, if_false, loopCost, exact]
          omega

/-! ### Steps -/

variable {start reader view : Reader} {receiver : Receiver} {stack : Nat → UInt8} {cause : Cause}
  {datagram : Inbound}

theorem potential_eq (copied : receiver.point.awaits = false) (busy : receiver.point ≠ .idle) :
    receiver.potential =
      receiver.room + pointCost receiver.socket.rxRsr receiver.udp.remaining receiver.point := by
  obtain ⟨socket, udp, point, log⟩ := receiver
  cases point with
  | idle => exact absurd rfl busy
  | check loop => rfl
  | receive cause len stage =>
      cases stage with
      | await ret bytes => cases copied
      | size loop => cases cause <;> rfl
      | status => cases cause <;> rfl
      | transfer ret => cases cause <;> rfl

theorem potential_answer (call : Call) (value : Int) (stored : List UInt8) :
    (receiver.answer call value stored).potential = 0 := rfl

theorem potential_enter (cause : Cause) (len : Int) :
    (receiver.enter cause len).potential =
      receiver.room + (11 + flushCost receiver.udp.remaining cause) := by
  cases cause with
  | _ => rfl

theorem potential_flush (receiver : Receiver) (parsing : Bool) :
    (receiver.flush parsing).potential ≤ receiver.room + 11 * receiver.udp.remaining + 15 := by
  by_cases left : receiver.udp.remaining ≠ 0
  · simp only [Receiver.flush, left, ne_eq, not_false_eq_true, if_true]
    have entered := @potential_enter receiver (.flush parsing) 1
    simp only [flushCost] at entered
    omega
  · cases parsing with
    | true =>
        simp only [Receiver.flush, left, if_false, if_true]
        have looking : ({ receiver with point := .check (.firstHigh 0) } : Receiver).potential =
            receiver.room + 15 := rfl
        omega
    | false =>
        simp only [Receiver.flush, left, if_false, Bool.false_eq_true, potential_answer]
        exact Nat.zero_le _

/-- After a look that found nothing a flush looks again. -/
theorem potential_finish_nothing {ret : Int} (nothing : ret ≤ 0) (cause : Cause)
    (flushing : ∀ parsing, cause = .flush parsing → receiver.udp.remaining ≠ 0) :
    (receiver.finish stack ret [] cause).potential + 1 ≤
      receiver.room + (12 + flushCost receiver.udp.remaining cause) := by
  have notPositive : ¬ 0 < ret := Int.not_lt.mpr nothing
  cases cause with
  | header =>
      simp only [Receiver.finish, notPositive, if_false, potential_answer]
      omega
  | read =>
      simp only [Receiver.finish, notPositive, if_false, potential_answer]
      omega
  | readBuf len =>
      simp only [Receiver.finish, notPositive, if_false, potential_answer]
      omega
  | flush parsing =>
      have some := flushing parsing rfl
      have again := potential_flush receiver parsing
      simp only [Receiver.finish, notPositive, if_false, flushCost]
      omega

/-! ### What has not been copied -/

theorem ChipSound.behind_eq {socket : Socket} (sound : ChipSound socket reader) :
    socket.behind = reader.unread.length := by
  rw [← sound.rxRsr_eq, Socket.behind, sound.inStep]
  rfl

theorem Claimed.behind_eq {socket : Socket} {ret : Nat} (claimed : Claimed view ret socket)
    (within : ret ≤ view.unread.length) : socket.behind = view.unread.length - ret := by
  cases claimed with
  | @commanded base chip =>
      have whole := chip.behind_eq
      have fits := chip.fits
      have inRange := chip.inRange
      have inStep := chip.inStep
      have wraps := chip.wraps
      simp only [Socket.behind, Socket.recv] at whole ⊢
      unfold registerRange bufferSize at *
      omega
  | taken chip behind => rw [chip.behind_eq, behind, List.length_drop]

theorem Claimed.behind_le {socket : Socket} {ret : Nat} (claimed : Claimed view ret socket)
    (within : ret ≤ view.unread.length) : socket.behind ≤ bufferSize := by
  have exact := claimed.behind_eq within
  cases claimed with
  | commanded chip =>
      have fits := chip.fits
      omega
  | taken chip behind =>
      rw [chip.behind_eq]
      exact chip.fits

theorem behind_takeCommand (socket : Socket) : socket.takeCommand.behind = socket.behind := by
  unfold Socket.takeCommand
  split
  · rfl
  · rfl

/-! ### Steps of the task -/

theorem Coherent.remaining_eq (coherent : Coherent start reader view receiver) :
    receiver.udp.remaining = view.rest.length := by
  rw [coherent.udp]

theorem Serves.flushing {count : Nat} (coherent : Coherent start reader view receiver)
    (serves : Serves view count cause) (parsing : Bool) (same : cause = .flush parsing) :
    receiver.udp.remaining ≠ 0 := by
  subst same
  rw [coherent.remaining_eq]
  exact fun empty => serves.2 (List.eq_nil_of_length_eq_zero empty)

theorem Coherent.potential_transfer (coherent : Coherent start reader view receiver) {len : Int}
    {ret : Nat} (within : receiver.point = .receive cause len (.transfer ret)) :
    (Receive.advance stack receiver).potential + 6 ≤ receiver.potential := by
  have copied : receiver.point.awaits = false := by
    rw [within]
    rfl
  have before := potential_eq copied (by rw [within]; exact Point.noConfusion)
  have chip := coherent.chip copied
  have point := coherent.point
  rw [within] at point
  obtain ⟨count, _, serves, exact, positive⟩ := point
  subst exact
  simp only [within, pointCost, stageCost] at before
  simp only [Receive.advance, within]
  cases cause with
  | flush parsing =>
      obtain ⟨one, left⟩ := serves
      subst one
      have whole := chip.behind_eq
      have rest : (receiver.socket.recv 1).behind = view.unread.length - 1 :=
        (Claimed.commanded chip).behind_eq
          (Nat.le_trans (List.length_pos_iff.mpr left) Reader.rest_le_unread)
      have lower := @Reader.rest_le_unread view
      have some := List.length_pos_iff.mpr left
      have remaining := coherent.remaining_eq
      simp only [Receiver.potential, Receiver.room, Receiver.took, flushCost] at before ⊢
      omega
  | header =>
      simp only [Receiver.potential, flushCost] at before ⊢
      omega
  | read =>
      simp only [Receiver.potential, flushCost] at before ⊢
      omega
  | readBuf requested =>
      simp only [Receiver.potential, flushCost] at before ⊢
      omega

theorem Coherent.potential_await (coherent : Coherent start reader view receiver) {len : Int}
    {ret : Nat} {bytes : List UInt8}
    (within : receiver.point = .receive cause len (.await ret bytes))
    (taken : receiver.socket.snCr = false) :
    (Receive.advance stack receiver).potential + 1 ≤ receiver.potential := by
  have point := coherent.point
  rw [within] at point
  obtain ⟨count, _, serves, exact, positive⟩ := point
  subst exact
  have present : (0 : Int) < (ret : Int) := Int.natCast_pos.mpr positive
  simp only [Receive.advance, within, taken, Bool.false_eq_true, if_false]
  cases cause with
  | header =>
      have before : receiver.potential = 1 := by simp only [Receiver.potential, within]
      simp only [Receiver.finish, present, if_true, potential_answer]
      omega
  | read =>
      have before : receiver.potential = 1 := by simp only [Receiver.potential, within]
      simp only [Receiver.finish, present, if_true, potential_answer]
      omega
  | readBuf requested =>
      have before : receiver.potential = 1 := by simp only [Receiver.potential, within]
      simp only [Receiver.finish, present, if_true, potential_answer]
      omega
  | flush parsing =>
      have again := potential_flush (receiver.took 1) parsing
      have fewer : (receiver.took 1).udp.remaining = receiver.udp.remaining - 1 := rfl
      have before : receiver.potential = (receiver.took 1).room +
          flushCost receiver.udp.remaining (.flush parsing) + 1 := by
        simp only [Receiver.potential, within]
      simp only [Receiver.finish, present, if_true]
      simp only [flushCost] at before
      omega

theorem Serves.unread_pos {count : Nat} (serves : Serves view count cause) :
    0 < view.unread.length := by
  cases cause with
  | header =>
      rw [serves.1] at serves
      exact Nat.lt_of_lt_of_le (by decide) serves.within
  | read => exact Nat.lt_of_lt_of_le (List.length_pos_iff.mpr serves.2) Reader.rest_le_unread
  | readBuf len => exact Nat.lt_of_lt_of_le (List.length_pos_iff.mpr serves.2) Reader.rest_le_unread
  | flush parsing =>
      exact Nat.lt_of_lt_of_le (List.length_pos_iff.mpr serves.2) Reader.rest_le_unread

/-- Only a call for no bytes at all is served without copying any. -/
theorem Serves.of_zero (serves : Serves view 0 cause) : ∃ len, cause = .readBuf len := by
  cases cause with
  | header => exact absurd serves.1 (by decide)
  | read => exact absurd serves.1 (by decide)
  | readBuf len => exact ⟨len, rfl⟩
  | flush parsing => exact absurd serves.1 (by decide)

theorem Coherent.potential_size (coherent : Coherent start reader view receiver) {len : Int}
    {loop : ReceivedSize} (within : receiver.point = .receive cause len (.size loop)) :
    (Receive.advance stack receiver).potential + 1 ≤ receiver.potential := by
  have copied : receiver.point.awaits = false := by
    rw [within]
    rfl
  have before := potential_eq copied (by rw [within]; exact Point.noConfusion)
  have point := coherent.point
  have chip := coherent.chip copied
  have fits := chip.fits
  have received := chip.rxRsr_eq
  rw [within] at point
  simp only [within, pointCost, stageCost] at before
  obtain ⟨count, exact, serves, sound⟩ := point
  subst exact
  change LoopSound count view.unread.length loop at sound
  rw [← received] at sound fits
  have cost := sound.loopCost_next
  have size := sound.next (by rw [received]; exact serves.within)
  have positive := @loopCost_pos receiver.socket.rxRsr loop
  have stage (other : Stage) (copies : (Point.receive cause count other).awaits = false) :
      ({ receiver with point := .receive cause count other } : Receiver).potential =
        receiver.room + (stageCost receiver.socket.rxRsr other +
          flushCost receiver.udp.remaining cause) :=
    potential_eq copies Point.noConfusion
  simp only [Receive.advance, within]
  cases next : loop.next receiver.socket.rxRsr with
  | inl further =>
      rw [next] at cost
      have after := stage (.size further) rfl
      simp only [stageCost] at after
      change ({ receiver with point := .receive cause count (.size further) } : Receiver).potential +
        1 ≤ _
      omega
  | inr found =>
      rw [next] at cost size
      change found = 0 ∨ count ≤ found ∧ found ≤ receiver.socket.rxRsr at size
      have small : int16 found = found := int16_of_small (by omega)
      simp only [small]
      by_cases none : (found : Int) = 0
      · have waits : 0 < receiver.socket.rxRsr := by
          rw [received]
          exact serves.unread_pos
        have disturbed := cost (Int.natCast_eq_zero.mp none) waits
        have after := stage .status rfl
        simp only [stageCost] at after
        simp only [none, if_true]
        omega
      · simp only [none, if_false]
        have clipped : (if (count : Int) < (found : Int) then (count : Int) else (found : Int)) =
            count := by omega
        simp only [clipped]
        by_cases wanted : (0 : Int) < count
        · have after := stage (.transfer count) rfl
          simp only [stageCost] at after
          simp only [wanted, if_true, Int.toNat_natCast]
          omega
        · simp only [wanted, if_false]
          have nothing : count = 0 := by omega
          subst nothing
          obtain ⟨requested, buffered⟩ := serves.of_zero
          subst buffered
          simp only [Receiver.finish, wanted, if_false, potential_answer]
          omega

theorem Coherent.potential_check (coherent : Coherent start reader view receiver)
    {loop : ReceivedSize} (within : receiver.point = .check loop) :
    (Receive.advance stack receiver).potential + 1 ≤ receiver.potential := by
  have copied : receiver.point.awaits = false := by
    rw [within]
    rfl
  have before := potential_eq copied (by rw [within]; exact Point.noConfusion)
  have point := coherent.point
  rw [within] at point
  obtain ⟨_, sound⟩ := point
  rw [← (coherent.chip copied).rxRsr_eq] at sound
  simp only [within, pointCost] at before
  have cost := sound.loopCost_next
  have positive := @loopCost_pos receiver.socket.rxRsr loop
  simp only [Receive.advance, within]
  cases next : loop.next receiver.socket.rxRsr with
  | inl further =>
      rw [next] at cost
      have after : ({ receiver with point := .check further } : Receiver).potential =
          receiver.room + (loopCost receiver.socket.rxRsr further + 11) := rfl
      change ({ receiver with point := .check further } : Receiver).potential + 1 ≤ _
      omega
  | inr size =>
      by_cases found : 0 < size
      · simp only [found, if_true]
        have after := @potential_enter receiver .header 8
        simp only [flushCost] at after
        omega
      · simp only [found, if_false, potential_answer]
        omega

theorem Coherent.potential_status (coherent : Coherent start reader view receiver) {len : Int}
    (within : receiver.point = .receive cause len .status) :
    (Receive.advance stack receiver).potential + 1 ≤ receiver.potential := by
  have copied : receiver.point.awaits = false := by
    rw [within]
    rfl
  have before := potential_eq copied (by rw [within]; exact Point.noConfusion)
  have point := coherent.point
  rw [within] at point
  simp only [within, pointCost, stageCost] at before
  obtain ⟨count, _, serves, _⟩ := point
  rw [before]
  simp only [Receive.advance, within]
  split
  · exact potential_finish_nothing (Int.le_refl 0) cause (serves.flushing coherent)
  · exact potential_finish_nothing (Int.le_refl 0) cause (serves.flushing coherent)
  · exact potential_finish_nothing (Int.le_refl 0) cause (serves.flushing coherent)
  · exact potential_finish_nothing (by decide) cause (serves.flushing coherent)

theorem Coherent.potential_advance (coherent : Coherent start reader view receiver)
    (busy : receiver.point ≠ .idle) :
    (Receive.advance stack receiver).potential + accesses receiver .task ≤ receiver.potential := by
  cases within : receiver.point with
  | idle => exact absurd within busy
  | check loop =>
      simp only [accesses, within]
      exact coherent.potential_check within
  | receive cause len stage =>
      cases stage with
      | size loop =>
          simp only [accesses, within]
          exact coherent.potential_size within
      | status =>
          simp only [accesses, within]
          exact coherent.potential_status within
      | transfer ret =>
          simp only [accesses, within]
          exact coherent.potential_transfer within
      | await ret bytes =>
          simp only [accesses, within]
          cases taken : receiver.socket.snCr with
          | true =>
              simp only [Receive.advance, within, taken, if_true]
              exact Nat.le_refl _
          | false => exact coherent.potential_await within taken

/-! ### Steps of the chip -/

theorem Coherent.potential_takeCommand (coherent : Coherent start reader view receiver) :
    ({ receiver with socket := receiver.socket.takeCommand } : Receiver).potential =
      receiver.potential := by
  have behind := behind_takeCommand receiver.socket
  cases awaits : receiver.point.awaits with
  | false =>
      have taken := (coherent.chip awaits).taken
      simp only [Socket.takeCommand, taken, Bool.false_eq_true, if_false]
  | true =>
      obtain ⟨socket, udp, point, log⟩ := receiver
      cases point with
      | receive cause len stage =>
          cases stage with
          | await ret bytes =>
              cases cause with
              | flush parsing =>
                  simp only [Receiver.potential, Receiver.room, Receiver.took, behind]
              | _ => rfl
          | _ => cases awaits
      | _ => cases awaits

theorem Coherent.potential_store (coherent : Coherent start reader view receiver)
    (busy : receiver.point ≠ .idle) (room : receiver.socket.hasRoom datagram) :
    ({ receiver with
      socket := receiver.socket.store datagram
      log := receiver.log ++ [.arrived datagram] } : Receiver).potential ≤ receiver.potential := by
  have stored := coherent.store room
  cases awaits : receiver.point.awaits with
  | false =>
      have before := potential_eq awaits busy
      have after := @potential_eq
        { receiver with
          socket := receiver.socket.store datagram
          log := receiver.log ++ [.arrived datagram] } awaits busy
      have grows := @pointCost_grow receiver.socket.rxRsr (receiver.socket.store datagram).rxRsr
        receiver.udp.remaining receiver.point
      have chip := coherent.chip awaits
      have chipAfter := chip.store room
      have less := chip.behind_eq
      have more := chipAfter.behind_eq
      have fits := chipAfter.fits
      rw [Reader.unread_arrive, List.length_append, record_length] at more fits
      simp only [Receiver.room] at before after
      omega
  | true =>
      have heldBefore := coherent.held
      have heldAfter := stored.held
      have point := coherent.point
      obtain ⟨socket, udp, place, log⟩ := receiver
      cases place with
      | receive cause len stage =>
          cases stage with
          | await ret bytes =>
              obtain ⟨count, _, serves, exact, _⟩ := point
              subst exact
              have longer : ret ≤ (view.arrive datagram).unread.length := by
                rw [Reader.unread_arrive, List.length_append]
                exact Nat.le_trans serves.within (Nat.le_add_right _ _)
              have less := heldBefore.1.behind_eq serves.within
              have more := heldAfter.1.behind_eq longer
              rw [Reader.unread_arrive, List.length_append] at more
              cases cause with
              | flush parsing =>
                  simp only [Receiver.potential, Receiver.room, Receiver.took] at less more ⊢
                  omega
              | _ => exact Nat.le_refl _
          | _ => cases awaits
      | _ => cases awaits

theorem Coherent.pays (coherent : Coherent start reader view receiver)
    (busy : receiver.point ≠ .idle) (event : Event) :
    (Receive.step stack receiver event).potential + accesses receiver event ≤
      receiver.potential := by
  cases event with
  | command => exact Nat.le_of_eq coherent.potential_takeCommand
  | arrive datagram =>
      by_cases room : receiver.socket.hasRoom datagram
      · simp only [Receive.step, room, if_true]
        exact coherent.potential_store busy room
      · simp only [Receive.step, room, if_false]
        exact Nat.le_refl _
  | call call =>
      have same : Receive.step stack receiver (.call call) = receiver := by
        cases within : receiver.point with
        | idle => exact absurd within busy
        | check loop => simp only [Receive.step, within]
        | receive cause len stage => simp only [Receive.step, within]
      have none : accesses receiver (.call call) = 0 := by
        cases within : receiver.point with
        | idle => exact absurd within busy
        | check loop => cases call <;> simp only [accesses, within]
        | receive cause len stage => cases call <;> simp only [accesses, within]
      rw [same, none]
      exact Nat.le_refl _
  | task => exact coherent.potential_advance busy

theorem Coherent.potential_bound (coherent : Coherent start reader view receiver) :
    receiver.potential ≤ 25000 := by
  have lower := @Reader.rest_le_unread view
  have remaining := coherent.remaining_eq
  by_cases idle : receiver.point = .idle
  · simp only [Receiver.potential, idle]
    exact Nat.zero_le _
  · cases awaits : receiver.point.awaits with
    | false =>
        have chip := coherent.chip awaits
        have fits := chip.fits
        have behind := chip.behind_eq
        have exact := potential_eq awaits idle
        have cost := @pointCost_le receiver.socket.rxRsr receiver.udp.remaining receiver.point
        simp only [Receiver.room] at exact
        unfold bufferSize at fits exact
        omega
    | true =>
        have held := coherent.held
        have point := coherent.point
        obtain ⟨socket, udp, place, log⟩ := receiver
        cases place with
        | receive cause len stage =>
            cases stage with
            | await ret bytes =>
                obtain ⟨count, _, serves, exact, _⟩ := point
                subst exact
                have behind := held.1.behind_eq serves.within
                have fits := held.1.behind_le serves.within
                cases cause with
                | flush parsing =>
                    have one : ret = 1 := serves.1
                    subst one
                    simp only at behind fits remaining
                    simp only [Receiver.potential, Receiver.room, Receiver.took, flushCost]
                    unfold bufferSize at *
                    omega
                | _ => exact Nat.le_add_left 1 24999
            | _ => cases awaits
        | _ => cases awaits

/-! ### Runs -/

/-- A turn within a call that makes no access worth counting looks at a RECV that the chip
has not taken. -/
theorem waits_of_accesses (busy : receiver.point ≠ .idle) (none : accesses receiver .task = 0) :
    receiver.socket.snCr = true := by
  obtain ⟨socket, udp, point, log⟩ := receiver
  cases point with
  | idle => exact absurd rfl busy
  | check loop => cases none
  | receive cause len stage =>
      cases stage with
      | await ret bytes =>
          by_contra taken
          rw [show accesses ⟨socket, udp, .receive cause len (.await ret bytes), log⟩ .task = 1 from
            if_neg taken] at none
          cases none
      | _ => cases none

/-- Whatever arrives while it runs, a call is over after at most 25000 register accesses,
not counting the looks at a RECV that the chip has not taken, and there is nothing else
that it waits for. -/
theorem run_call_ends (memory : Nat → UInt8) (pointer : Fin registerRange) (remoteIP : IPAddress)
    (remotePort : Nat) (stack : Nat → UInt8) (earlier events : List Event)
    (busy : EventRun.Meets (step stack) (fun receiver _ => receiver.point ≠ .idle)
      (EventRun.run (step stack) (.start memory pointer remoteIP remotePort) earlier) events) :
    let before := EventRun.run (step stack) (.start memory pointer remoteIP remotePort) earlier
    let after := EventRun.run (step stack) before events
    EventRun.total (step stack) accesses before events ≤ 25000 ∧
      (after.point ≠ .idle → accesses after .task = 0 → after.socket.snCr = true) := by
  intro before after
  have sound := run_sound (start_sound memory pointer remoteIP remotePort) stack earlier
  have paid := @EventRun.Meets.total_le Receiver Event (step stack)
    (fun receiver _ => receiver.point ≠ .idle) (Sound (.fresh remoteIP remotePort)) accesses
    (fun _ => false) Receiver.potential 0 (fun _ event before _ => run_sound before stack [event])
    (fun _ event ⟨_, _, coherent⟩ present => coherent.pays present event) _ _ busy sound
  obtain ⟨reader, view, coherent⟩ := sound
  rw [Nat.zero_mul, Nat.add_zero] at paid
  exact ⟨Nat.le_trans (Nat.le_of_add_right_le paid) coherent.potential_bound, waits_of_accesses⟩

/-- A byte looked for and copied, its RECV taken behind the first look at Sn_CR. -/
def byteEvents : List Event := [.task, .task, .task, .task, .task, .task, .command, .task]

def shortDatagram : Inbound := ⟨⟨![10, 0, 0, 1]⟩, 67, [1, 2, 3]⟩

/-- The datagram comes in and is opened. -/
def openedEvents : List Event :=
  [.arrive shortDatagram, .call .parsePacket] ++ List.replicate 4 .task ++ byteEvents

instance (point : Point) : Decidable (point = .idle) :=
  match point with
  | .idle => isTrue rfl
  | .check _ => isFalse nofun
  | .receive _ _ _ => isFalse nofun

/-- The flush of its three bytes, and another datagram that arrives meanwhile. -/
theorem openedFlush_ends :
    let events := byteEvents ++ [.arrive shortDatagram] ++ byteEvents ++ byteEvents
    let before := EventRun.run (step fun _ => 0)
      (.start (fun _ => 0) ⟨65535, by decide⟩ ⟨![0, 0, 0, 0]⟩ 0)
      (openedEvents ++ [.call .flush])
    let after := EventRun.run (step fun _ => 0) before events
    EventRun.total (step fun _ => 0) accesses before events ≤ 25000 ∧
      (after.point ≠ .idle → accesses after .task = 0 → after.socket.snCr = true) :=
  run_call_ends _ _ _ _ _ _ _ (by decide)

end MSniff.Concrete.Receive
