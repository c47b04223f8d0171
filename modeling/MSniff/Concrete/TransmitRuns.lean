/-
Runs of the Ethernet task against the chip. As long as every write finds room for
the frame it belongs to, the buffer holds the frames handed over and not yet
transmitted, one behind the other, and behind them the frame being built; so the
wire carries the complete frames, in order.
-/

import MSniff.EventRun
import MSniff.Concrete.TransmitBuffer

namespace MSniff.Concrete.Transmit

open CircularStore EthernetTask RadioQueue RadioTask

/-- The step does not go wrong: a write takes the branch in which its bytes fit
the free size it has read, and when they are copied there is room for them behind
what the frame has in the buffer already. -/
def Roomy (sender : Sender) : Event → Prop
  | .task =>
      match sender.point with
      | .compareSize bytes loop =>
          ∀ free, loop.next sender.socket.txFsr = .inr free → bytes.length ≤ free
      | .transfer bytes _ => sender.offset + bytes.length ≤ sender.socket.txFsr
      | _ => True
  | _ => True

/-! ### What the buffer holds -/

def contents (waiting : List Datagram) : List UInt8 := (waiting.map Datagram.payload).flatten

def regions : Nat → List Datagram → List Region
  | _, [] => []
  | first, datagram :: rest =>
      ⟨first % registerRange, datagram.payload.length, datagram.address, datagram.port⟩ ::
        regions (first + datagram.payload.length) rest

theorem regions_append (first : Nat) (waiting : List Datagram) (last : Datagram) :
    regions first (waiting ++ [last]) = regions first waiting ++
      [⟨(first + (contents waiting).length) % registerRange, last.payload.length, last.address,
        last.port⟩] := by
  induction waiting generalizing first with
  | nil => rfl
  | cons datagram rest ih =>
      simp only [List.cons_append, regions, ih, contents, List.map_cons, List.flatten_cons,
        List.length_append, Nat.add_assoc]

theorem regions_length (first : Nat) (waiting : List Datagram) :
    ((regions first waiting).map Region.length).sum = (contents waiting).length := by
  induction waiting generalizing first with
  | nil => rfl
  | cons datagram rest ih =>
      simp only [regions, List.map_cons, List.sum_cons, ih, contents, List.flatten_cons,
        List.length_append]

theorem contents_append (waiting : List Datagram) (last : Datagram) :
    contents (waiting ++ [last]) = contents waiting ++ last.payload := by
  simp [contents]

/-- The calls write these bytes and then end the packet. -/
def Finishes : List UdpCall → List UInt8 → Prop
  | [.endPacket], bytes => bytes = []
  | .write first :: rest, bytes => ∃ tail, bytes = first ++ tail ∧ Finishes rest tail
  | _, _ => False

/-- How far the task is with the frame it is building: the point it is at, the
calls it has left, that frame and the bytes of it in the buffer. -/
inductive Stage (socket : Socket) (offset : Nat) :
    Point → List UdpCall → List Datagram → List UInt8 → Prop
  | idle : Stage socket offset .nextCall [] [] []
  | accepted (packet : SniffedPacket) :
      Stage socket offset .nextCall packet.calls [packet.datagram] []
  | building {datagram : Datagram} {written rest : List UInt8} {calls : List UdpCall}
      (addressed : socket.dipr = datagram.address ∧ socket.dport = datagram.port)
      (counted : offset = written.length) (split : datagram.payload = written ++ rest)
      (finishes : Finishes calls rest) :
      Stage socket offset .nextCall calls [datagram] written
  | comparing {datagram : Datagram} {written bytes rest : List UInt8} {calls : List UdpCall}
      (loop : FreeSize)
      (addressed : socket.dipr = datagram.address ∧ socket.dport = datagram.port)
      (counted : offset = written.length) (split : datagram.payload = written ++ (bytes ++ rest))
      (finishes : Finishes calls rest) :
      Stage socket offset (.compareSize bytes loop) calls [datagram] written
  | transferring {datagram : Datagram} {written bytes rest : List UInt8} {calls : List UdpCall}
      (addressed : socket.dipr = datagram.address ∧ socket.dport = datagram.port)
      (counted : offset = written.length) (split : datagram.payload = written ++ (bytes ++ rest))
      (finishes : Finishes calls rest) :
      Stage socket offset (.transfer bytes bytes.length) calls [datagram] written
  | commanded {datagram : Datagram} {written : List UInt8}
      (addressed : socket.dipr = datagram.address ∧ socket.dport = datagram.port)
      (complete : datagram.payload = written) :
      Stage socket offset .awaitSend [] [datagram] written
  | sent : Stage socket offset .awaitSend [] [] []
  | checking : Stage socket offset .readInterrupt [] [] []
  | clearing : Stage socket offset .clearInterrupt [] [] []

/-- The SEND of the current frame is written and not taken. -/
def commanded : Point → List Datagram → Bool
  | .awaitSend, _ :: _ => true
  | _, _ => false

/-- The frames handed over and not transmitted lie from `first` on, and behind
them the bytes of the current frame. -/
structure Coherent (sender : Sender) (first : Nat) (waiting current : List Datagram)
    (written : List UInt8) : Prop where
  handled : sender.handled = sender.socket.wire ++ waiting ++ current
  pending : sender.socket.pending = regions first waiting
  content : readCells bufferSize sender.socket.memory first
    ((contents waiting).length + written.length) = contents waiting ++ written
  fits : (contents waiting).length + written.length ≤ bufferSize
  readsBack : sender.socket.txWr = (first + (contents waiting).length) % registerRange
  pointer : sender.socket.txWritten =
    (first + (contents waiting).length + written.length) % registerRange
  command : sender.socket.snCr = commanded sender.point current
  stage : Stage sender.socket sender.offset sender.point sender.calls current written

variable {beyond : Nat → UInt8} {sender : Sender} {first : Nat} {waiting current : List Datagram}
  {written : List UInt8}

theorem Coherent.txFsr_eq (coherent : Coherent sender first waiting current written) :
    sender.socket.txFsr = bufferSize - (contents waiting).length := by
  have fits := coherent.fits
  unfold Socket.txFsr Socket.untransmitted
  rw [coherent.pending, regions_length]
  unfold bufferSize registerRange at *
  omega

theorem Stage.of_destination {socket other : Socket} {offset : Nat} {point : Point}
    {calls : List UdpCall} (stage : Stage socket offset point calls current written)
    (sameAddress : other.dipr = socket.dipr) (samePort : other.dport = socket.dport) :
    Stage other offset point calls current written := by
  cases stage with
  | idle => exact .idle
  | accepted packet => exact .accepted packet
  | building addressed counted split finishes =>
      exact .building (by rwa [sameAddress, samePort]) counted split finishes
  | comparing loop addressed counted split finishes =>
      exact .comparing loop (by rwa [sameAddress, samePort]) counted split finishes
  | transferring addressed counted split finishes =>
      exact .transferring (by rwa [sameAddress, samePort]) counted split finishes
  | commanded addressed complete =>
      exact .commanded (by rwa [sameAddress, samePort]) complete
  | sent => exact .sent
  | checking => exact .checking
  | clearing => exact .clearing

theorem register_modEq (pointer : Nat) : pointer % registerRange ≡ pointer [MOD bufferSize] := by
  have divides : bufferSize ∣ registerRange := by decide
  exact Nat.mod_mod_of_dvd pointer divides

/-! ### Steps -/

/-- A finished transmission puts the oldest waiting frame on the wire as it was
handed over. -/
theorem Coherent.finish (coherent : Coherent sender first waiting current written) :
    ∃ first waiting,
      Coherent { sender with socket := sender.socket.finish } first waiting current written := by
  cases waiting with
  | nil =>
      have none : sender.socket.pending = [] := coherent.pending
      have unchanged : sender.socket.finish = sender.socket := by
        unfold Socket.finish
        rw [none]
      refine ⟨first, [], ?_⟩
      rw [unchanged]
      exact coherent
  | cons datagram rest =>
      have content := coherent.content
      have fits := coherent.fits
      simp only [contents, List.map_cons, List.flatten_cons, List.length_append, Nat.add_assoc]
        at content fits
      rw [readCells_append, List.append_assoc] at content
      obtain ⟨oldest, others⟩ := List.append_inj content (readCells_length _)
      have finished : sender.socket.finish =
          { sender.socket with
            pending := regions (first + datagram.payload.length) rest
            wire := sender.socket.wire ++ [datagram]
            sendOk := true } := by
        unfold Socket.finish
        rw [coherent.pending]
        simp only [regions]
        rw [readCells_congr (register_modEq first), oldest]
      refine ⟨first + datagram.payload.length, rest, ?_⟩
      rw [finished]
      constructor
      · simp only [coherent.handled, List.append_assoc, List.cons_append, List.nil_append]
      · rfl
      · exact others
      · exact Nat.le_trans (Nat.le_add_left _ _) fits
      · simp only [coherent.readsBack, contents, List.map_cons, List.flatten_cons,
          List.length_append, Nat.add_assoc]
      · simp only [coherent.pointer, contents, List.map_cons, List.flatten_cons,
          List.length_append, Nat.add_assoc]
      · exact coherent.command
      · exact coherent.stage.of_destination rfl rfl

theorem finishes_writes (bytes : List UInt8) : Finishes [.write bytes, .endPacket] bytes :=
  ⟨[], (List.append_nil bytes).symm, rfl⟩

theorem SniffedPacket.calls_finishes (packet : SniffedPacket) :
    ∃ rest, packet.calls = .beginPacket packet.target EthernetTask.port :: rest ∧
      Finishes rest packet.datagram.payload := by
  rw [packet.calls_eq]
  cases known : packet.protocol with
  | ble1M =>
      refine ⟨_, rfl, ?_⟩
      simp only [SniffedPacket.datagram, known]
      exact ⟨_, rfl, _, rfl, finishes_writes packet.bytes⟩
  | ieee802154 =>
      refine ⟨_, rfl, ?_⟩
      simp only [SniffedPacket.datagram, known]
      exact ⟨_, rfl, finishes_writes packet.bytes⟩

theorem startUDP_of_target {target : IPAddress} (nonzero : target.dword ≠ 0) (socket : Socket) :
    startUDP socket target EthernetTask.port =
      { socket with dipr := target, dport := EthernetTask.port } := by
  have accepted : ¬ ((∀ index, target.bytes index = 0) ∨ EthernetTask.port = 0) := by
    rw [← target.dword_eq_zero]
    intro either
    rcases either with zero | zero
    · exact nonzero zero
    · cases zero
  rw [startUDP, if_neg accepted]

/-- A write's bytes, copied with room for them, extend the frame in the buffer. -/
theorem Coherent.transfer {socket : Socket} {offset : Nat} {calls : List UdpCall}
    {handled : List Datagram} {bytes : List UInt8}
    (coherent : Coherent ⟨socket, offset, .transfer bytes bytes.length, calls, handled⟩
      first waiting current written)
    (room : offset + bytes.length ≤ socket.txFsr) :
    ∃ written, Coherent
      ⟨sendDataProcessingOffset socket offset bytes,
        (offset + bytes.length) % registerRange, .nextCall, calls, handled⟩
      first waiting current written := by
  have free := coherent.txFsr_eq
  have fits := coherent.fits
  have content := coherent.content
  have stage := coherent.stage
  simp only at free fits content stage
  rw [free] at room
  cases stage with
  | transferring addressed counted split finishes =>
      have total : (contents waiting).length + written.length + bytes.length ≤ bufferSize := by
        omega
      have inRange : bufferSize < registerRange := by decide
      have place : (socket.txWr + offset) % registerRange ≡
          first + ((contents waiting).length + written.length) [MOD bufferSize] := by
        have readsBack : socket.txWr = _ := coherent.readsBack
        rw [readsBack, counted, Nat.mod_add_mod, Nat.add_assoc]
        exact register_modEq _
      refine ⟨written ++ bytes, ?_⟩
      constructor
      · exact coherent.handled
      · exact coherent.pending
      · simp only [sendDataProcessingOffset]
        rw [writeCells_congr place, List.length_append, ← Nat.add_assoc (contents waiting).length,
          readCells_writeCells_behind _ _ total, content, List.append_assoc]
      · rw [List.length_append]
        omega
      · exact coherent.readsBack
      · have readsBack : socket.txWr = _ := coherent.readsBack
        simp only [sendDataProcessingOffset, readsBack, counted, List.length_append,
          Nat.mod_add_mod, Nat.add_assoc]
      · exact coherent.command
      · refine .building ?_ ?_ ?_ finishes
        · exact addressed
        · rw [counted, List.length_append]
          exact Nat.mod_eq_of_lt (by omega)
        · rw [split, List.append_assoc]

/-- SEND hands the frame over, all of it in the buffer, once the chip takes it. -/
theorem Coherent.send {socket : Socket} {offset : Nat} {handled : List Datagram}
    {datagram : Datagram}
    (coherent : Coherent ⟨socket, offset, .awaitSend, [], handled⟩ first waiting [datagram]
      written)
    (addressed : socket.dipr = datagram.address ∧ socket.dport = datagram.port)
    (complete : datagram.payload = written) :
    Coherent ⟨{ socket.send with snCr := false }, offset, .awaitSend, [], handled⟩ first
      (waiting ++ [datagram]) [] [] := by
  have fits := coherent.fits
  have readsBack : socket.txWr = _ := coherent.readsBack
  have pointer : socket.txWritten = _ := coherent.pointer
  have handedOver : (socket.txWritten + registerRange - socket.txWr) % registerRange =
      written.length := by
    rw [pointer, readsBack]
    unfold bufferSize at fits
    unfold registerRange
    omega
  constructor
  · have handed : handled = _ := coherent.handled
    simp only [handed, Socket.send, List.append_assoc, List.append_nil]
  · have pending : socket.pending = _ := coherent.pending
    simp only [Socket.send, pending, handedOver, addressed.1, addressed.2]
    rw [regions_append, complete, readsBack]
  · have content := coherent.content
    simp only [contents_append, complete, List.length_append, List.length_nil, Nat.add_zero,
      List.append_nil]
    exact content
  · simpa only [contents_append, complete, List.length_append, List.length_nil, Nat.add_zero]
      using fits
  · simp only [Socket.send, pointer, contents_append, complete, List.length_append, Nat.add_assoc]
  · simp only [Socket.send, pointer, contents_append, complete, List.length_append,
      List.length_nil, Nat.add_zero, Nat.add_assoc]
  · rfl
  · exact .sent

theorem Coherent.takeCommand (coherent : Coherent sender first waiting current written) :
    ∃ waiting current written,
      Coherent { sender with socket := sender.socket.takeCommand } first waiting current
        written := by
  obtain ⟨socket, offset, point, calls, handled⟩ := sender
  have command := coherent.command
  have stage := coherent.stage
  simp only at command stage
  cases taken : socket.snCr with
  | false =>
      refine ⟨waiting, current, written, ?_⟩
      simp only [Socket.takeCommand, taken, Bool.false_eq_true, if_false]
      exact coherent
  | true =>
      rw [taken] at command
      simp only [Socket.takeCommand, taken, if_true]
      cases stage with
      | commanded addressed complete => exact ⟨_, _, _, coherent.send addressed complete⟩
      | _ => cases command

theorem Coherent.nextCall {socket : Socket} {offset : Nat} {calls : List UdpCall}
    {handled : List Datagram}
    (coherent : Coherent ⟨socket, offset, .nextCall, calls, handled⟩ first waiting current written) :
    ∃ waiting current written,
      Coherent (advance beyond ⟨socket, offset, .nextCall, calls, handled⟩) first waiting current
        written := by
  have stage := coherent.stage
  simp only at stage
  cases stage with
  | idle => exact ⟨_, _, _, coherent⟩
  | accepted packet =>
      obtain ⟨rest, first', finishes⟩ := packet.calls_finishes
      refine ⟨waiting, [packet.datagram], [], ?_⟩
      simp only [advance, first', startUDP_of_target packet.sendable.2.2.2]
      exact { coherent with stage := .building ⟨rfl, rfl⟩ rfl rfl finishes }
  | building addressed counted split finishes =>
      cases calls with
      | nil => cases finishes
      | cons call rest =>
          cases call with
          | beginPacket ip port => cases finishes
          | write bytes =>
              obtain ⟨tail, tailEq, restFinishes⟩ := finishes
              refine ⟨_, _, _, { coherent with stage := ?_ }⟩
              exact .comparing _ addressed counted (by rw [split, tailEq]) restFinishes
          | endPacket =>
              cases rest with
              | nil =>
                  have complete : _ = [] := finishes
                  rw [complete, List.append_nil] at split
                  refine ⟨_, _, _, { coherent with command := rfl, stage := ?_ }⟩
                  exact .commanded addressed split
              | cons _ _ => cases finishes

/-- One step of the task, where a write that does not fit is not reached. -/
theorem Coherent.advance (coherent : Coherent sender first waiting current written)
    (roomy : Roomy sender .task) :
    ∃ waiting current written, Coherent (Transmit.advance beyond sender) first waiting current
      written := by
  obtain ⟨socket, offset, point, calls, handled⟩ := sender
  have stage := coherent.stage
  simp only at stage
  cases point with
  | nextCall => exact coherent.nextCall
  | compareSize bytes loop =>
      cases stage with
      | @comparing datagram _ _ _ _ _ addressed counted split finishes =>
          refine ⟨waiting, [datagram], written, ?_⟩
          simp only [Transmit.advance]
          cases result : loop.next socket.txFsr with
          | inl next =>
              exact { coherent with stage := .comparing next addressed counted split finishes }
          | inr free =>
              have small : ¬ bytes.length > free := Nat.not_lt.mpr (roomy free result)
              simp only [if_neg small]
              exact { coherent with stage := .transferring addressed counted split finishes }
  | clipSize bytes loop => cases stage
  | transfer bytes ret =>
      cases stage with
      | @transferring datagram =>
          obtain ⟨written, after⟩ := coherent.transfer roomy
          refine ⟨waiting, [datagram], written, ?_⟩
          simp only [Transmit.advance, readBuffer_writeBuffer]
          exact after
  | awaitSend =>
      have command := coherent.command
      simp only [Transmit.advance]
      cases stage with
      | commanded =>
          have waits : socket.snCr = true := command
          rw [if_pos waits]
          exact ⟨_, _, _, coherent⟩
      | sent =>
          have taken : ¬ socket.snCr = true := Bool.eq_false_iff.mp command
          rw [if_neg taken]
          exact ⟨_, _, _, { coherent with stage := .checking }⟩
  | readInterrupt =>
      cases stage with
      | checking =>
          refine ⟨waiting, [], [], ?_⟩
          simp only [Transmit.advance]
          split
          · exact { coherent with stage := .clearing }
          · exact { coherent with stage := .idle }
  | clearInterrupt =>
      cases stage with
      | clearing => exact ⟨waiting, [], [], { coherent with stage := .idle }⟩

theorem Coherent.accept (coherent : Coherent sender first waiting current written)
    (packet : SniffedPacket) :
    ∃ current, Coherent (Transmit.step beyond sender (.packet packet)) first waiting current
      written := by
  obtain ⟨socket, offset, point, calls, handled⟩ := sender
  have stage := coherent.stage
  simp only at stage
  cases stage with
  | idle =>
      refine ⟨[packet.datagram], { coherent with handled := ?_, stage := .accepted packet }⟩
      have earlier : handled = _ := coherent.handled
      simp only [Transmit.step, earlier, List.append_nil]
  | accepted earlier =>
      obtain ⟨rest, calls, _⟩ := earlier.calls_finishes
      refine ⟨[earlier.datagram], ?_⟩
      rw [calls] at coherent ⊢
      exact coherent
  | building addressed counted split finishes =>
      cases calls with
      | nil => cases finishes
      | cons _ _ => exact ⟨_, coherent⟩
  | comparing => exact ⟨_, coherent⟩
  | transferring => exact ⟨_, coherent⟩
  | commanded => exact ⟨_, coherent⟩
  | sent => exact ⟨_, coherent⟩
  | checking => exact ⟨_, coherent⟩
  | clearing => exact ⟨_, coherent⟩

/-! ### Single packets -/

theorem run_write {socket : Socket} {bytes : List UInt8} (nonempty : bytes ≠ [])
    (small : bytes.length ≤ socket.txFsr) (beyond : Nat → UInt8) (offset : Nat)
    (calls : List UdpCall) (handled : List Datagram) :
    EventRun.run (step beyond) ⟨socket, offset, .nextCall, .write bytes :: calls, handled⟩
        (List.replicate 6 .task) =
      ⟨sendDataProcessingOffset socket offset bytes, (offset + bytes.length) % registerRange,
        .nextCall, calls, handled⟩ := by
  have some : socket.txFsr ≠ 0 := by
    have positive := List.length_pos_iff.mpr nonempty
    omega
  have notLarge : ¬ socket.txFsr < bytes.length := Nat.not_lt.mpr small
  simp [List.replicate, step, advance, FreeSize.next, Nat.div_add_mod', some, notLarge,
    readBuffer_writeBuffer]

theorem meets_write {socket : Socket} {bytes : List UInt8} {offset : Nat}
    (room : offset + bytes.length ≤ socket.txFsr) (nonempty : bytes ≠ []) (beyond : Nat → UInt8)
    (calls : List UdpCall) (handled : List Datagram) :
    EventRun.Meets (step beyond) Roomy
      ⟨socket, offset, .nextCall, .write bytes :: calls, handled⟩ (List.replicate 6 .task) := by
  have some : socket.txFsr ≠ 0 := by
    have positive := List.length_pos_iff.mpr nonempty
    omega
  have small : bytes.length ≤ socket.txFsr := by omega
  have notLarge : ¬ socket.txFsr < bytes.length := Nat.not_lt.mpr small
  simp [List.replicate, EventRun.Meets, Roomy, step, advance, FreeSize.next, Nat.div_add_mod',
    some, notLarge, small, room]

theorem meets_write_append {socket : Socket} {bytes : List UInt8} {offset : Nat}
    (room : offset + bytes.length ≤ socket.txFsr) (nonempty : bytes ≠ []) {beyond : Nat → UInt8}
    {calls : List UdpCall} {handled : List Datagram} {rest : List Event}
    (later : EventRun.Meets (step beyond) Roomy
      ⟨sendDataProcessingOffset socket offset bytes, (offset + bytes.length) % registerRange,
        .nextCall, calls, handled⟩ rest) :
    EventRun.Meets (step beyond) Roomy
      ⟨socket, offset, .nextCall, .write bytes :: calls, handled⟩
      (List.replicate 6 .task ++ rest) := by
  have small : bytes.length ≤ socket.txFsr := Nat.le_trans (Nat.le_add_left _ _) room
  rw [EventRun.meets_append, run_write nonempty small]
  exact ⟨meets_write room nonempty beyond calls handled, later⟩

/-- The SEND of a packet, which the chip takes behind the first look at Sn_CR and
finishes behind the second. -/
def sendEvents : List Event := [.task, .task, .command, .task, .chip, .task, .task]

/-- A packet taken up, its four calls before the SEND and the SEND for a BLE
packet. -/
def blePacketEvents (packet : SniffedPacket) : List Event :=
  .packet packet :: .task :: (List.replicate 6 .task ++ (List.replicate 6 .task ++
    (List.replicate 6 .task ++ sendEvents)))

theorem SniffedPacket.bytes_length (packet : SniffedPacket) :
    packet.bytes.length = readLength packet.queue := by
  simp only [SniffedPacket.bytes, copyBytes, List.length_map, List.length_range]

theorem SniffedPacket.bytes_ne_nil (packet : SniffedPacket) : packet.bytes ≠ [] := by
  apply List.ne_nil_of_length_pos
  rw [packet.bytes_length]
  exact packet.sendable.2.1

def bleBegun (memory : Nat → UInt8) (packet : SniffedPacket) : Sender where
  socket := { (Sender.start memory packet.target EthernetTask.port).socket with sendOk := false }
  offset := 0
  point := .nextCall
  calls := [.write [Protocol.ble1M.code], .write accesAddress, .write packet.bytes, .endPacket]
  handled := [packet.datagram]

theorem run_bleBegun {packet : SniffedPacket} (ble : packet.protocol = .ble1M)
    (beyond memory : Nat → UInt8) (dipr : IPAddress) (dport : Nat) :
    EventRun.run (step beyond) (.start memory dipr dport) [.packet packet, .task] =
      bleBegun memory packet := by
  have taken : step beyond (.start memory dipr dport) (.packet packet) =
      { Sender.start memory dipr dport with
        calls := .beginPacket packet.target EthernetTask.port :: (bleBegun memory packet).calls
        handled := [packet.datagram] } := by
    simp only [step, Sender.start, packet.calls_eq, sendCalls, ble]
    rfl
  rw [EventRun.run_cons, taken, EventRun.run_cons, EventRun.run_nil]
  simp only [step, advance, Sender.start]
  rw [startUDP_of_target packet.sendable.2.2.2]
  rfl

theorem le_txFsr_of_idle {socket : Socket} (idle : socket.pending = []) {count : Nat}
    (fits : count ≤ 2048) : count ≤ socket.txFsr := by
  have whole : socket.txFsr = 2048 := by
    rw [Socket.txFsr, Socket.untransmitted, idle]
    rfl
  rw [whole]
  exact fits

theorem accesAddress_ne_nil : accesAddress ≠ [] := List.cons_ne_nil _ _

theorem blePacketEvents_eq (packet : SniffedPacket) :
    blePacketEvents packet = [.packet packet, .task] ++ (List.replicate 6 .task ++
      (List.replicate 6 .task ++ (List.replicate 6 .task ++ sendEvents))) := rfl

/-- A BLE packet of any length on an idle chip: every single write passes the check
of the free size, so all of the frame is written and handed over. -/
theorem run_blePacket {packet : SniffedPacket} (ble : packet.protocol = .ble1M)
    (beyond memory : Nat → UInt8) (dipr : IPAddress) (dport : Nat) :
    let final := EventRun.run (step beyond) (.start memory dipr dport) (blePacketEvents packet)
    final.handled = [packet.datagram] ∧
      final.socket.wire =
        [⟨packet.target, EthernetTask.port,
          readCells bufferSize
            (writeCells bufferSize
              (writeCells bufferSize (writeCells bufferSize memory 0 [Protocol.ble1M.code]) 1 accesAddress)
              5 packet.bytes)
            0 (5 + packet.bytes.length)⟩] := by
  have small : packet.bytes.length ≤ 2048 := by
    rw [packet.bytes_length]
    exact Nat.le_succ_of_le packet.sendable.2.2.1
  rw [blePacketEvents_eq, EventRun.run_append, run_bleBegun ble, bleBegun, EventRun.run_append, run_write,
    EventRun.run_append, run_write, EventRun.run_append, run_write]
  · have handedOver : (5 + packet.bytes.length) % 65536 % 65536 = 5 + packet.bytes.length := by omega
    simp [sendEvents, step, advance, Socket.send, Socket.takeCommand, Socket.finish,
      sendDataProcessingOffset, accesAddress, Sender.start, registerRange, handedOver]
  · exact packet.bytes_ne_nil
  · exact le_txFsr_of_idle rfl small
  · exact accesAddress_ne_nil
  · exact le_txFsr_of_idle rfl (by decide)
  · exact List.cons_ne_nil _ _
  · exact le_txFsr_of_idle rfl (by decide)

theorem meets_blePacket {packet : SniffedPacket} (ble : packet.protocol = .ble1M)
    (room : 5 + packet.bytes.length ≤ bufferSize) (beyond memory : Nat → UInt8)
    (dipr : IPAddress) (dport : Nat) :
    EventRun.Meets (step beyond) Roomy (.start memory dipr dport) (blePacketEvents packet) := by
  rw [blePacketEvents_eq, EventRun.meets_append]
  constructor
  · exact ⟨trivial, by simp [Roomy, step, Sender.start], trivial⟩
  · rw [run_bleBegun ble, bleBegun]
    apply meets_write_append (le_txFsr_of_idle rfl (by decide)) (List.cons_ne_nil _ _)
    apply meets_write_append (le_txFsr_of_idle rfl (by decide)) accesAddress_ne_nil
    apply meets_write_append (le_txFsr_of_idle rfl room) packet.bytes_ne_nil
    exact ⟨trivial, trivial, trivial, trivial, trivial, trivial, trivial, trivial⟩

/-! ### Runs -/

def Sound (sender : Sender) : Prop :=
  ∃ first waiting current written, Coherent sender first waiting current written

theorem Sound.step (sound : Sound sender) {event : Event} (roomy : Roomy sender event) :
    Sound (step beyond sender event) := by
  obtain ⟨first, waiting, current, written, coherent⟩ := sound
  cases event with
  | command =>
      obtain ⟨_, _, _, after⟩ := coherent.takeCommand
      exact ⟨_, _, _, _, after⟩
  | chip =>
      obtain ⟨_, _, after⟩ := coherent.finish
      exact ⟨_, _, _, _, after⟩
  | task =>
      obtain ⟨_, _, _, after⟩ := @Coherent.advance beyond _ _ _ _ _ coherent roomy
      exact ⟨_, _, _, _, after⟩
  | packet packet =>
      obtain ⟨_, after⟩ := @Coherent.accept beyond _ _ _ _ _ coherent packet
      exact ⟨_, _, _, _, after⟩

theorem Sound.wire_isPrefix (sound : Sound sender) : sender.socket.wire <+: sender.handled := by
  obtain ⟨first, waiting, current, written, coherent⟩ := sound
  rw [coherent.handled, List.append_assoc]
  exact List.prefix_append _ _

theorem start_sound (memory : Nat → UInt8) (dipr : IPAddress) (dport : Nat) :
    Sound (.start memory dipr dport) := by
  refine ⟨0, [], [], [], ?_⟩
  constructor
  · rfl
  · rfl
  · rfl
  · exact Nat.zero_le _
  · rfl
  · rfl
  · rfl
  · exact .idle

/-- However the chip's transmissions and the task's steps interleave: as long as
no write goes wrong for room, the wire carries the complete frames of the packets
handled, in their order, each once. -/
theorem run_wire_isPrefix (beyond memory : Nat → UInt8) (dipr : IPAddress) (dport : Nat)
    (events : List Event)
    (roomy : EventRun.Meets (step beyond) Roomy (.start memory dipr dport) events) :
    (EventRun.run (step beyond) (.start memory dipr dport) events).socket.wire <+:
      (EventRun.run (step beyond) (.start memory dipr dport) events).handled := by
  have sound : Sound (EventRun.run (step beyond) (.start memory dipr dport) events) :=
    roomy.invariant (fun _ _ before roomyStep => before.step roomyStep)
      (start_sound memory dipr dport)
  exact sound.wire_isPrefix

def shortPacket : SniffedPacket where
  queue :=
    { entries := fun _ => ⟨0, .finished, .general, deConfigSize, maxLength + numAppendedBytes,
        fun index => if index = 1 then 0 else 1⟩
      object := ⟨0, none⟩
      readEntry := 0 }
  protocol := .ble1M
  target := ⟨![192, 168, 5, 12]⟩
  stack := fun _ => 0
  sendable := ⟨by decide, by decide, by decide, by decide⟩

theorem shortPacket_wire_isPrefix :
    let final := EventRun.run (step fun _ => 0) (.start (fun _ => 0) shortPacket.target 2014)
      (blePacketEvents shortPacket)
    final.socket.wire <+: final.handled :=
  run_wire_isPrefix _ _ _ _ _
    (meets_blePacket rfl (by rw [shortPacket.bytes_length]; decide) _ _ _ _)

/-- A BLE packet of 2047 bytes, all of them set. -/
def longestPacket : SniffedPacket where
  queue :=
    { entries := fun _ => ⟨0, .finished, .general, deConfigSize, maxLength + numAppendedBytes,
        fun index => if index = 1 then 7 else 255⟩
      object := ⟨0, none⟩
      readEntry := 0 }
  protocol := .ble1M
  target := ⟨![192, 168, 5, 12]⟩
  stack := fun _ => 0
  sendable := ⟨by decide, by decide, by decide, by decide⟩

theorem longestPacket_length : longestPacket.bytes.length = 2047 := by
  rw [longestPacket.bytes_length]
  decide

/-- What is written 2043 bytes behind the header lands on the header. -/
theorem longestPacket_overwrites (memory : Nat → UInt8) :
    writeCells bufferSize memory 5 longestPacket.bytes 0 = 255 := by
  have inside : 2043 < longestPacket.bytes.length := by
    rw [longestPacket_length]
    decide
  have fits : longestPacket.bytes.length ≤ bufferSize := by
    rw [longestPacket_length]
    decide
  have wrapped : (5 + 2043) % bufferSize = 0 := rfl
  rw [← wrapped, writeCells_apply _ fits inside]
  simp only [SniffedPacket.bytes, copyBytes, List.getElem_map, List.getElem_range]
  rfl

/-- On an idle chip its frame of 2052 bytes wraps over its own beginning. -/
theorem longestPacket_corrupted :
    let final := EventRun.run (step fun _ => 0) (.start (fun _ => 0) longestPacket.target 2014)
      (blePacketEvents longestPacket)
    ∃ datagram ∈ final.socket.wire, datagram ∉ final.handled := by
  intro final
  obtain ⟨handled, wire⟩ := @run_blePacket longestPacket rfl (fun _ => 0) (fun _ => 0)
    longestPacket.target 2014
  refine ⟨_, by rw [wire]; exact List.mem_singleton_self _, ?_⟩
  rw [handled, List.mem_singleton]
  intro same
  have firstBytes := congrArg (fun datagram => datagram.payload[0]?) same
  simp only [readCells] at firstBytes
  rw [List.getElem?_map, List.getElem?_range (by omega), Option.map_some, Nat.add_zero,
    Nat.zero_mod, longestPacket_overwrites] at firstBytes
  cases firstBytes

end MSniff.Concrete.Transmit
