/-
The sending side waits for nothing but the chip's taking of a SEND. Each other access of
the task comes out of what its packet may cost, whatever the chip finishes in between and
however the reads of the free size are torn by it; and what has been handled is on the
wire when nothing is left to do.
-/

import MSniff.Concrete.TransmitRuns

namespace MSniff.Concrete.Transmit

open EthernetTask EventRun RadioTask

/-! ### The loop over the free size -/

/-- No value that the loop has read outlasts a free size of nothing, which would not end
the loop. -/
def FreeSize.Settled (txFsr : Nat) : FreeSize → Prop
  | .firstHigh val => val ≠ 0 → txFsr ≠ 0
  | .firstLow val high => val ≠ 0 ∨ high ≠ 0 → txFsr ≠ 0
  | .secondHigh _ => txFsr ≠ 0
  | .secondLow _ _ => txFsr ≠ 0

/-- The reads that are left; one pass more where the register has changed since. -/
def FreeSize.reads (txFsr : Nat) : FreeSize → Nat
  | .firstHigh _ => 4
  | .firstLow _ high => if high = txFsr / 256 then 3 else 7
  | .secondHigh val1 => if val1 = txFsr then 2 else 6
  | .secondLow val1 high => if val1 = txFsr ∧ high = txFsr / 256 then 1 else 5

theorem FreeSize.reads_le (loop : FreeSize) (txFsr later : Nat) :
    loop.reads later ≤ loop.reads txFsr + 4 := by
  cases loop with
  | firstHigh val => exact Nat.le_add_right _ _
  | firstLow val high =>
      simp only [FreeSize.reads]
      split <;> split <;> omega
  | secondHigh val1 =>
      simp only [FreeSize.reads]
      split <;> split <;> omega
  | secondLow val1 high =>
      simp only [FreeSize.reads]
      split <;> split <;> omega

theorem FreeSize.Settled.later {loop : FreeSize} {txFsr later : Nat} (settled : loop.Settled txFsr)
    (grows : txFsr ≤ later) : loop.Settled later := by
  have nonzero : txFsr ≠ 0 → later ≠ 0 := by omega
  cases loop with
  | firstHigh val => exact fun read => nonzero (settled read)
  | firstLow val high => exact fun read => nonzero (settled read)
  | secondHigh val1 => exact nonzero settled
  | secondLow val1 high => exact nonzero settled

/-- A read goes on with one less left, or ends the loop. -/
theorem FreeSize.Settled.next {loop : FreeSize} {txFsr : Nat} (settled : loop.Settled txFsr) :
    match loop.next txFsr with
    | .inl after => after.Settled txFsr ∧ after.reads txFsr + 1 ≤ loop.reads txFsr
    | .inr _ => 1 ≤ loop.reads txFsr := by
  have bytes : txFsr / 256 * 256 + txFsr % 256 = txFsr := Nat.div_add_mod' txFsr 256
  cases loop with
  | firstHigh val =>
      refine ⟨fun read => ?_, ?_⟩
      · rcases read with val | high
        · exact settled val
        · intro none
          rw [none] at high
          exact high rfl
      · simp only [FreeSize.reads, if_true, Nat.reduceAdd, Nat.le_refl]
  | firstLow val high =>
      have fresh : high = txFsr / 256 → high * 256 + txFsr % 256 = txFsr := by
        rintro rfl
        exact bytes
      by_cases some : high * 256 + txFsr % 256 ≠ 0
      · have result : (FreeSize.firstLow val high).next txFsr =
            .inl (.secondHigh (high * 256 + txFsr % 256)) := if_pos some
        rw [result]
        constructor
        · intro none
          have empty : high = 0 := by
            by_contra read
            exact settled (.inr read) none
          rw [empty, none] at some
          exact some rfl
        · simp only [FreeSize.reads]
          split <;> split <;> omega
      · by_cases differs : val ≠ high * 256 + txFsr % 256
        · have result : (FreeSize.firstLow val high).next txFsr = .inl (.firstHigh val) :=
            (if_neg some).trans (if_pos differs)
          have free := settled (.inl (by omega))
          rw [result]
          refine ⟨fun _ => free, ?_⟩
          simp only [FreeSize.reads]
          split <;> omega
        · have result : (FreeSize.firstLow val high).next txFsr = .inr val :=
            (if_neg some).trans (if_neg differs)
          rw [result]
          simp only [FreeSize.reads]
          split <;> omega
  | secondHigh val1 =>
      refine ⟨settled, ?_⟩
      simp only [FreeSize.reads, and_true]
      split <;> omega
  | secondLow val1 high =>
      by_cases differs : high * 256 + txFsr % 256 ≠ val1
      · have result : (FreeSize.secondLow val1 high).next txFsr =
            .inl (.firstHigh (high * 256 + txFsr % 256)) := if_pos differs
        rw [result]
        refine ⟨fun _ => settled, ?_⟩
        simp only [FreeSize.reads]
        split
        · next fresh =>
            rw [fresh.2, fresh.1] at differs
            exact absurd bytes differs
        · exact Nat.le_refl _
      · have result : (FreeSize.secondLow val1 high).next txFsr =
            .inr (high * 256 + txFsr % 256) := if_neg differs
        rw [result]
        simp only [FreeSize.reads]
        split <;> omega

/-! ### What a packet costs -/

/-- The register accesses of the task's next step, where a step between two accesses
counts as one too. A look at Sn_CR that finds the SEND not taken does not count: how often
the task looks is for the chip to say. -/
def accesses (sender : Sender) : Event → Nat
  | .task =>
      match sender.point, sender.calls with
      | .nextCall, [] => 0
      | .nextCall, .beginPacket _ _ :: _ => 3
      | .transfer _ _, _ => 5
      | .awaitSend, _ => if sender.socket.snCr then 0 else 1
      | _, _ => 1
  | _ => 0

/-- The last call leaves the chip a frame to transmit, which may once make the task read
the free size again. -/
def callCost : UdpCall → Nat
  | .beginPacket _ _ => 3
  | .write _ => 10
  | .endPacket => 8

def pointCost (txFsr : Nat) : Point → Nat
  | .nextCall => 0
  | .compareSize _ loop => loop.reads txFsr + 5
  | .clipSize _ loop => loop.reads txFsr + 5
  | .transfer _ _ => 5
  | .awaitSend => 3
  | .readInterrupt => 2
  | .clearInterrupt => 1

/-- The frames that the chip has been given or is about to take. -/
def Socket.frames (socket : Socket) : Nat :=
  socket.pending.length + if socket.snCr then 1 else 0

def Sender.cost (sender : Sender) : Nat :=
  pointCost sender.socket.txFsr sender.point + (sender.calls.map callCost).sum +
    4 * sender.socket.frames

theorem SniffedPacket.cost_le (packet : SniffedPacket) : (packet.calls.map callCost).sum ≤ 41 := by
  rw [packet.calls_eq]
  by_cases ble : packet.protocol.code = Protocol.ble1M.code
  · simp only [sendCalls, if_pos ble]
    exact Nat.le_refl 41
  · simp only [sendCalls, if_neg ble]
    exact Nat.le_add_right 31 10

/-- A turn of the task that finds something to do. -/
def works (sender : Sender) : Event → Bool
  | .task =>
      match sender.point, sender.calls with
      | .nextCall, [] => false
      | _, _ => true
  | _ => false

def Event.isPacket : Event → Bool
  | .packet _ => true
  | _ => false

def LoopSettled (sender : Sender) : Prop :=
  match sender.point with
  | .compareSize _ loop => loop.Settled sender.socket.txFsr
  | _ => True

structure Progressing (sender : Sender) : Prop where
  sound : Sound sender
  settled : LoopSettled sender

/-! ### The chip -/

theorem Coherent.txFsr_finish {sender : Sender} {first : Nat} {waiting current : List Datagram}
    {written : List UInt8} (coherent : Coherent sender first waiting current written) :
    sender.socket.txFsr ≤ sender.socket.finish.txFsr := by
  have fits := coherent.fits
  have total : sender.socket.untransmitted = (contents waiting).length := by
    unfold Socket.untransmitted
    rw [coherent.pending, regions_length]
  unfold Socket.txFsr Socket.finish Socket.untransmitted at *
  cases pending : sender.socket.pending with
  | nil =>
      simp only [pending]
      exact Nat.le_refl _
  | cons region rest =>
      rw [pending, List.map_cons, List.sum_cons] at total
      simp only [List.map_cons, List.sum_cons]
      unfold bufferSize registerRange at *
      omega

theorem finish_length (socket : Socket) :
    socket.finish.pending.length = socket.pending.length - 1 := by
  unfold Socket.finish
  cases pending : socket.pending with
  | nil =>
      simp only [pending]
      rfl
  | cons region rest => rfl

theorem finish_of_none {socket : Socket} (none : socket.pending = []) : socket.finish = socket := by
  unfold Socket.finish
  rw [none]

theorem finish_snCr (socket : Socket) : socket.finish.snCr = socket.snCr := by
  unfold Socket.finish
  split
  · rfl
  · rfl

variable {beyond : Nat → UInt8} {sender : Sender}

theorem Progressing.chip (progressing : Progressing sender) :
    LoopSettled (step beyond sender .chip) ∧ (step beyond sender .chip).cost ≤ sender.cost := by
  obtain ⟨first, waiting, current, written, coherent⟩ := progressing.sound
  have grows := coherent.txFsr_finish
  have settled := progressing.settled
  obtain ⟨socket, offset, point, calls, handled⟩ := sender
  constructor
  · cases point with
    | compareSize bytes loop => exact FreeSize.Settled.later settled grows
    | _ => trivial
  · by_cases none : socket.pending = []
    · have same : step beyond ⟨socket, offset, point, calls, handled⟩ .chip =
          ⟨socket, offset, point, calls, handled⟩ :=
        congrArg (Sender.mk · offset point calls handled) (finish_of_none none)
      rw [same]
    · have shorter := finish_length socket
      have some := List.length_pos_iff.mpr none
      have dearer : pointCost socket.finish.txFsr point ≤ pointCost socket.txFsr point + 4 := by
        cases point with
        | compareSize bytes loop =>
            have reads := loop.reads_le socket.txFsr socket.finish.txFsr
            simp only [pointCost]
            omega
        | clipSize bytes loop =>
            have reads := loop.reads_le socket.txFsr socket.finish.txFsr
            simp only [pointCost]
            omega
        | _ => exact Nat.le_add_right _ _
      change pointCost socket.finish.txFsr point + (calls.map callCost).sum +
          4 * socket.finish.frames ≤
        pointCost socket.txFsr point + (calls.map callCost).sum + 4 * socket.frames
      simp only [Socket.frames, finish_snCr]
      omega

/-- The frame that the chip takes was counted before. -/
theorem frames_takeCommand (socket : Socket) : socket.takeCommand.frames = socket.frames := by
  unfold Socket.takeCommand
  split
  · next commanded =>
      simp only [Socket.frames, Socket.send, commanded, List.length_append, List.length_singleton,
        Bool.false_eq_true, if_false, if_true, Nat.add_zero]
  · rfl

theorem Progressing.command (progressing : Progressing sender) :
    LoopSettled (step beyond sender .command) ∧
      (step beyond sender .command).cost ≤ sender.cost := by
  obtain ⟨first, waiting, current, written, coherent⟩ := progressing.sound
  have settled := progressing.settled
  have command := coherent.command
  have frames := frames_takeCommand sender.socket
  obtain ⟨socket, offset, point, calls, handled⟩ := sender
  cases taken : socket.snCr with
  | false =>
      have same : step beyond ⟨socket, offset, point, calls, handled⟩ .command =
          ⟨socket, offset, point, calls, handled⟩ := by
        simp only [step, Socket.takeCommand, taken, Bool.false_eq_true, if_false]
      rw [same]
      exact ⟨settled, Nat.le_refl _⟩
  | true =>
      simp only [taken] at command
      cases point with
      | awaitSend =>
          refine ⟨trivial, ?_⟩
          change 3 + (calls.map callCost).sum + 4 * socket.takeCommand.frames ≤
            3 + (calls.map callCost).sum + 4 * socket.frames
          exact Nat.le_of_eq (congrArg (_ + 4 * ·) frames)
      | _ => cases command

/-! ### The task -/

theorem startUDP_frame (socket : Socket) (addr : IPAddress) (port : Nat) :
    (startUDP socket addr port).frames = socket.frames ∧
      (startUDP socket addr port).txFsr = socket.txFsr := by
  unfold startUDP
  split
  · exact ⟨rfl, rfl⟩
  · exact ⟨rfl, rfl⟩

/-- What a step of the task leaves, and that its accesses are paid for. -/
def Paid (beyond : Nat → UInt8) (sender : Sender) : Prop :=
  LoopSettled (step beyond sender .task) ∧
    (step beyond sender .task).cost + accesses sender .task ≤ sender.cost

theorem paid_nextCall {socket : Socket} {offset : Nat} {calls : List UdpCall}
    {handled : List Datagram} (free : socket.snCr = false) :
    Paid beyond ⟨socket, offset, .nextCall, calls, handled⟩ := by
  cases calls with
  | nil => exact ⟨trivial, Nat.le_refl _⟩
  | cons call rest =>
      cases call with
      | beginPacket ip port =>
          obtain ⟨frames, txFsr⟩ := startUDP_frame socket ip port
          refine ⟨trivial, ?_⟩
          change 0 + (rest.map callCost).sum + 4 * (startUDP socket ip port).frames + 3 ≤
            0 + (3 + (rest.map callCost).sum) + 4 * socket.frames
          rw [frames]
          omega
      | write bytes =>
          refine ⟨fun none => absurd rfl none, ?_⟩
          change 4 + 5 + (rest.map callCost).sum + 4 * socket.frames + 1 ≤
            0 + (10 + (rest.map callCost).sum) + 4 * socket.frames
          omega
      | endPacket =>
          have more : ({ socket with snCr := true } : Socket).frames = socket.frames + 1 := by
            simp only [Socket.frames, free, Bool.false_eq_true, if_true, if_false, Nat.add_zero]
          refine ⟨trivial, ?_⟩
          change 3 + (rest.map callCost).sum +
              4 * ({ socket with snCr := true } : Socket).frames + 1 ≤
            0 + (8 + (rest.map callCost).sum) + 4 * socket.frames
          rw [more]
          omega

theorem paid_compareSize {socket : Socket} {offset : Nat} {bytes : List UInt8} {loop : FreeSize}
    {calls : List UdpCall} {handled : List Datagram} (settled : loop.Settled socket.txFsr)
    (roomy : ∀ free, loop.next socket.txFsr = .inr free → bytes.length ≤ free) :
    Paid beyond ⟨socket, offset, .compareSize bytes loop, calls, handled⟩ := by
  have read := @FreeSize.Settled.next loop socket.txFsr settled
  unfold Paid
  cases result : loop.next socket.txFsr with
  | inl next =>
      rw [result] at read
      obtain ⟨settledNext, fewer⟩ := read
      have after : step beyond ⟨socket, offset, .compareSize bytes loop, calls, handled⟩ .task =
          ⟨socket, offset, .compareSize bytes next, calls, handled⟩ := by
        simp only [step, Transmit.advance, result]
      rw [after]
      refine ⟨settledNext, ?_⟩
      change next.reads socket.txFsr + 5 + (calls.map callCost).sum + 4 * socket.frames + 1 ≤
        loop.reads socket.txFsr + 5 + (calls.map callCost).sum + 4 * socket.frames
      omega
  | inr free =>
      rw [result] at read
      have small : ¬ bytes.length > free := Nat.not_lt.mpr (roomy free result)
      have after : step beyond ⟨socket, offset, .compareSize bytes loop, calls, handled⟩ .task =
          ⟨socket, offset, .transfer bytes bytes.length, calls, handled⟩ := by
        simp only [step, Transmit.advance, result, if_neg small]
      rw [after]
      refine ⟨trivial, ?_⟩
      change 5 + (calls.map callCost).sum + 4 * socket.frames + 1 ≤
        loop.reads socket.txFsr + 5 + (calls.map callCost).sum + 4 * socket.frames
      omega

/-- Only a look at Sn_CR that finds the SEND there costs nothing, and leaves all as it is. -/
theorem paid_awaitSend {socket : Socket} {offset : Nat} {calls : List UdpCall}
    {handled : List Datagram} : Paid beyond ⟨socket, offset, .awaitSend, calls, handled⟩ := by
  unfold Paid
  cases taken : socket.snCr with
  | true =>
      have after : step beyond ⟨socket, offset, .awaitSend, calls, handled⟩ .task =
          ⟨socket, offset, .awaitSend, calls, handled⟩ := if_pos taken
      have looks : accesses ⟨socket, offset, .awaitSend, calls, handled⟩ .task = 0 :=
        if_pos taken
      rw [after, looks]
      exact ⟨trivial, Nat.le_refl _⟩
  | false =>
      have free : ¬ socket.snCr = true := Bool.eq_false_iff.mp taken
      have after : step beyond ⟨socket, offset, .awaitSend, calls, handled⟩ .task =
          ⟨socket, offset, .readInterrupt, calls, handled⟩ := if_neg free
      have looks : accesses ⟨socket, offset, .awaitSend, calls, handled⟩ .task = 1 :=
        if_neg free
      rw [after, looks]
      refine ⟨trivial, ?_⟩
      change 2 + (calls.map callCost).sum + 4 * socket.frames + 1 ≤
        3 + (calls.map callCost).sum + 4 * socket.frames
      omega

theorem paid_readInterrupt {socket : Socket} {offset : Nat} {calls : List UdpCall}
    {handled : List Datagram} : Paid beyond ⟨socket, offset, .readInterrupt, calls, handled⟩ := by
  unfold Paid
  by_cases ok : socket.sendOk = true
  · have after : step beyond ⟨socket, offset, .readInterrupt, calls, handled⟩ .task =
        ⟨socket, offset, .clearInterrupt, calls, handled⟩ := if_pos ok
    rw [after]
    refine ⟨trivial, ?_⟩
    change 1 + (calls.map callCost).sum + 4 * socket.frames + 1 ≤
      2 + (calls.map callCost).sum + 4 * socket.frames
    omega
  · have after : step beyond ⟨socket, offset, .readInterrupt, calls, handled⟩ .task =
        ⟨socket, offset, .nextCall, calls, handled⟩ := if_neg ok
    rw [after]
    refine ⟨trivial, ?_⟩
    change 0 + (calls.map callCost).sum + 4 * socket.frames + 1 ≤
      2 + (calls.map callCost).sum + 4 * socket.frames
    omega

theorem Progressing.task (progressing : Progressing sender) (roomy : Roomy sender .task) :
    Paid beyond sender := by
  obtain ⟨first, waiting, current, written, coherent⟩ := progressing.sound
  have settled := progressing.settled
  have stage := coherent.stage
  have command := coherent.command
  obtain ⟨socket, offset, point, calls, handled⟩ := sender
  simp only at stage command
  cases point with
  | nextCall => exact paid_nextCall command
  | compareSize bytes loop => exact paid_compareSize settled roomy
  | clipSize bytes loop => cases stage
  | transfer bytes ret =>
      refine ⟨trivial, ?_⟩
      change 0 + (calls.map callCost).sum + 4 * socket.frames + 5 ≤
        5 + (calls.map callCost).sum + 4 * socket.frames
      omega
  | awaitSend => exact paid_awaitSend
  | readInterrupt => exact paid_readInterrupt
  | clearInterrupt =>
      refine ⟨trivial, ?_⟩
      change 0 + (calls.map callCost).sum + 4 * socket.frames + 1 ≤
        1 + (calls.map callCost).sum + 4 * socket.frames
      omega

/-! ### Packets and runs -/

theorem Progressing.packet (progressing : Progressing sender) (packet : SniffedPacket) :
    LoopSettled (step beyond sender (.packet packet)) ∧
      (step beyond sender (.packet packet)).cost ≤ sender.cost + 41 := by
  have settled := progressing.settled
  obtain ⟨socket, offset, point, calls, handled⟩ := sender
  cases point with
  | nextCall =>
      cases calls with
      | nil =>
          have cost := packet.cost_le
          refine ⟨trivial, ?_⟩
          change 0 + (packet.calls.map callCost).sum + 4 * socket.frames ≤
            0 + 0 + 4 * socket.frames + 41
          omega
      | cons call rest => exact ⟨trivial, Nat.le_add_right _ _⟩
  | _ => exact ⟨settled, Nat.le_add_right _ _⟩

theorem Progressing.step (progressing : Progressing sender) {event : Event}
    (roomy : Roomy sender event) : Progressing (step beyond sender event) := by
  refine ⟨progressing.sound.step roomy, ?_⟩
  cases event with
  | command => exact progressing.command.1
  | chip => exact progressing.chip.1
  | task => exact (progressing.task roomy).1
  | packet packet => exact (progressing.packet packet).1

theorem Progressing.pays (progressing : Progressing sender) {event : Event}
    (roomy : Roomy sender event) :
    (Transmit.step beyond sender event).cost + accesses sender event ≤
      sender.cost + (if event.isPacket then 41 else 0) := by
  cases event with
  | command => exact progressing.command.2
  | chip => exact progressing.chip.2
  | task => exact (progressing.task roomy).2
  | packet packet => exact (progressing.packet packet).2

/-- A turn with something to do that makes no access worth counting looks at a SEND that the
chip has not taken. -/
theorem waits_of_accesses {sender : Sender} (busy : works sender .task = true)
    (none : accesses sender .task = 0) :
    sender.point = .awaitSend ∧ sender.socket.snCr = true := by
  obtain ⟨socket, offset, point, calls, handled⟩ := sender
  cases point with
  | nextCall =>
      cases calls with
      | nil => cases busy
      | cons call rest => cases call <;> cases none
  | awaitSend =>
      refine ⟨rfl, ?_⟩
      by_contra taken
      rw [show accesses ⟨socket, offset, .awaitSend, calls, handled⟩ .task = 1 from if_neg taken]
        at none
      cases none
  | _ => cases none

end MSniff.Concrete.Transmit
