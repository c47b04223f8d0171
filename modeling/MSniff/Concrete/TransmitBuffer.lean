/-
The transmit side of one W5500 UDP socket and the driver code that feeds it:
EthernetUdp.c, the buffered sending of socket.c, and of w5500.c the free-size loop and
the wait for a command. The processor and the chip take turns between two register
accesses, so a 16-bit register read as two bytes can be torn; only the copy of a block
makes one step with the accesses to the pointer that belongs to it.
-/

import MSniff.CircularStore
import MSniff.Concrete.PacketRoundTrip

namespace MSniff.Concrete.Transmit

open CircularStore EthernetTask RadioQueue RadioTask

/-! ### The chip -/

def bufferSize : Nat := 2048
def registerRange : Nat := 2 ^ 16

/-- Bytes handed over by one SEND, with the destination registers at that time. -/
structure Region where
  start : Nat
  length : Nat
  address : IPAddress
  port : Nat

/-- `txWr` is what Sn_TX_WR reads back, `txWritten` what was written to it last. `snCr`
is set while Sn_CR holds a SEND that the chip has not taken. -/
structure Socket where
  memory : Nat → UInt8
  txWr : Nat
  txWritten : Nat
  dipr : IPAddress
  dport : Nat
  pending : List Region
  wire : List Datagram
  sendOk : Bool
  snCr : Bool

def Socket.untransmitted (socket : Socket) : Nat := (socket.pending.map Region.length).sum

/-- Sn_TX_FSR, a 16-bit register. -/
def Socket.txFsr (socket : Socket) : Nat :=
  (bufferSize + registerRange - socket.untransmitted % registerRange) % registerRange

def Socket.send (socket : Socket) : Socket :=
  { socket with
    txWr := socket.txWritten
    pending := socket.pending ++
      [{ start := socket.txWr
         length := (socket.txWritten + registerRange - socket.txWr) % registerRange
         address := socket.dipr
         port := socket.dport }] }

/-- The chip takes the command that was written, in its own time. -/
def Socket.takeCommand (socket : Socket) : Socket :=
  if socket.snCr then { socket.send with snCr := false } else socket

/-- The chip finishes its oldest transmission. The bytes are those in the buffer
by now: the latest it can have read them. -/
def Socket.finish (socket : Socket) : Socket :=
  match socket.pending with
  | [] => socket
  | region :: rest =>
      { socket with
        pending := rest
        wire := socket.wire ++
          [{ address := region.address
             port := region.port
             payload := readCells bufferSize socket.memory region.start region.length }]
        sendOk := true }

/-! ### The driver -/

/-- Where W5500_getTXFreeSize stands: before the high or the low byte of its first
or its second read of Sn_TX_FSR. -/
inductive FreeSize
  | firstHigh (val : Nat)
  | firstLow (val high : Nat)
  | secondHigh (val1 : Nat)
  | secondLow (val1 high : Nat)

def FreeSize.next (txFsr : Nat) : FreeSize → FreeSize ⊕ Nat
  | .firstHigh val => .inl (.firstLow val (txFsr / 256))
  | .firstLow val high =>
      let val1 := high * 256 + txFsr % 256
      if val1 ≠ 0 then .inl (.secondHigh val1)
      else if val ≠ val1 then .inl (.firstHigh val)
      else .inr val
  | .secondHigh val1 => .inl (.secondLow val1 (txFsr / 256))
  | .secondLow val1 high =>
      let val := high * 256 + txFsr % 256
      if val ≠ val1 then .inl (.firstHigh val) else .inr val

def sendDataProcessingOffset (socket : Socket) (dataOffset : Nat) (data : List UInt8) : Socket :=
  let ptr := (socket.txWr + dataOffset) % registerRange
  { socket with
    memory := writeCells bufferSize socket.memory ptr data
    txWritten := (ptr + data.length) % registerRange }

def startUDP (socket : Socket) (addr : IPAddress) (port : Nat) : Socket :=
  if (∀ index, addr.bytes index = 0) ∨ port = 0 then socket
  else { socket with dipr := addr, dport := port }

/-- Where the Ethernet task stands: between two calls of the UDP layer, in
bufferData with its two calls of W5500_getTXFreeSize and the copy, or in sendUDP
behind the SEND that it has written: in W5500_execCmdSn, which polls Sn_CR until the
chip has taken it, or behind that. -/
inductive Point
  | nextCall
  | compareSize (bytes : List UInt8) (loop : FreeSize)
  | clipSize (bytes : List UInt8) (loop : FreeSize)
  | transfer (bytes : List UInt8) (ret : Nat)
  | awaitSend
  | readInterrupt
  | clearInterrupt

/-- One call of Ethernet_handleRFpacket that has a packet to send. -/
structure SniffedPacket where
  queue : Queue
  protocol : Protocol
  target : IPAddress
  stack : Nat → UInt8
  sendable : Sendable queue target

def SniffedPacket.calls (packet : SniffedPacket) : List UdpCall :=
  (handleRFpacket packet.queue packet.protocol packet.target packet.stack).calls

def SniffedPacket.bytes (packet : SniffedPacket) : List UInt8 :=
  copyBytes (packet.queue.entries packet.queue.readEntry) (readLength packet.queue)

def SniffedPacket.datagram (packet : SniffedPacket) : Datagram :=
  ⟨packet.target, EthernetTask.port, frame packet.protocol packet.bytes⟩

theorem SniffedPacket.calls_eq (packet : SniffedPacket) :
    packet.calls = sendCalls packet.protocol packet.target packet.bytes := by
  rw [SniffedPacket.calls, handleRFpacket_of_sendable packet.sendable]
  rfl

/-- `handled` records the complete frame of every packet the task has begun. -/
structure Sender where
  socket : Socket
  offset : Nat
  point : Point
  calls : List UdpCall
  handled : List Datagram

/-- The task's next step. `beyond` is the memory behind the source of a write. -/
def advance (beyond : Nat → UInt8) (sender : Sender) : Sender :=
  match sender.point with
  | .nextCall =>
      match sender.calls with
      | [] => sender
      | .beginPacket ip port :: rest =>
          { sender with
            socket := startUDP sender.socket ip port
            offset := 0
            calls := rest }
      | .write bytes :: rest =>
          { sender with point := .compareSize bytes (.firstHigh 0), calls := rest }
      | .endPacket :: rest =>
          { sender with
            socket := { sender.socket with snCr := true }
            point := .awaitSend
            calls := rest }
  | .compareSize bytes loop =>
      match loop.next sender.socket.txFsr with
      | .inl loop => { sender with point := .compareSize bytes loop }
      | .inr free =>
          if bytes.length > free then { sender with point := .clipSize bytes (.firstHigh 0) }
          else { sender with point := .transfer bytes bytes.length }
  | .clipSize bytes loop =>
      match loop.next sender.socket.txFsr with
      | .inl loop => { sender with point := .clipSize bytes loop }
      | .inr free => { sender with point := .transfer bytes free }
  | .transfer bytes ret =>
      { sender with
        socket := sendDataProcessingOffset sender.socket sender.offset
          (readBuffer (writeBuffer beyond bytes) ret)
        offset := (sender.offset + ret) % registerRange
        point := .nextCall }
  | .awaitSend =>
      if sender.socket.snCr then sender else { sender with point := .readInterrupt }
  | .readInterrupt =>
      if sender.socket.sendOk then { sender with point := .clearInterrupt }
      else { sender with point := .nextCall }
  | .clearInterrupt =>
      { sender with socket := { sender.socket with sendOk := false }, point := .nextCall }

inductive Event
  | command
  | chip
  | task
  | packet (packet : SniffedPacket)

/-- A packet is taken up when the one before has been dealt with. -/
def step (beyond : Nat → UInt8) (sender : Sender) : Event → Sender
  | .command => { sender with socket := sender.socket.takeCommand }
  | .chip => { sender with socket := sender.socket.finish }
  | .task => advance beyond sender
  | .packet packet =>
      match sender.point, sender.calls with
      | .nextCall, [] =>
          { sender with
            calls := packet.calls
            handled := sender.handled ++ [packet.datagram] }
      | _, _ => sender

def Sender.start (memory : Nat → UInt8) (dipr : IPAddress) (dport : Nat) : Sender where
  socket :=
    { memory := memory
      txWr := 0
      txWritten := 0
      dipr := dipr
      dport := dport
      pending := []
      wire := []
      sendOk := false
      snCr := false }
  offset := 0
  point := .nextCall
  calls := []
  handled := []

end MSniff.Concrete.Transmit
