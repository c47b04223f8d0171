/-
The receive side of one W5500 UDP socket and the driver code that empties it:
recv and peek of socket.c and the reading functions of EthernetUdp.c. Processor and
chip take turns as on the transmit side.
-/

import MSniff.Concrete.DatagramReader
import MSniff.Concrete.SocketTable
import MSniff.Concrete.TransmitBuffer

namespace MSniff.Concrete.Receive

open CircularStore EthernetTask SocketTable Transmit

/-! ### The chip -/

/-- `released` is the read pointer as of the last RECV that the chip has taken. `snCr` is
set while Sn_CR holds one that it has not. -/
structure Socket where
  memory : Nat → UInt8
  rxRd : Nat
  released : Nat
  rxWr : Nat
  status : SocketStatus
  snCr : Bool

/-- Sn_RX_RSR, a 16-bit register. -/
def Socket.rxRsr (socket : Socket) : Nat :=
  (socket.rxWr + registerRange - socket.released) % registerRange

def highByte (value : Nat) : UInt8 := UInt8.ofNat (value / 256)
def lowByte (value : Nat) : UInt8 := UInt8.ofNat value

/-- What the chip puts before the data of a UDP datagram. -/
def Inbound.info (datagram : Inbound) : List UInt8 :=
  List.ofFn datagram.source.bytes ++
    [highByte datagram.port.toNat, lowByte datagram.port.toNat,
      highByte datagram.payload.length, lowByte datagram.payload.length]

def Inbound.record (datagram : Inbound) : List UInt8 := datagram.info ++ datagram.payload

def Socket.hasRoom (socket : Socket) (datagram : Inbound) : Prop :=
  socket.rxRsr + datagram.record.length ≤ bufferSize

instance (socket : Socket) (datagram : Inbound) : Decidable (socket.hasRoom datagram) :=
  inferInstanceAs (Decidable (_ ≤ _))

def Socket.store (socket : Socket) (datagram : Inbound) : Socket :=
  { socket with
    memory := writeCells bufferSize socket.memory socket.rxWr datagram.record
    rxWr := (socket.rxWr + datagram.record.length) % registerRange }

/-- The chip takes the command that was written, in its own time. -/
def Socket.takeCommand (socket : Socket) : Socket :=
  if socket.snCr then { socket with released := socket.rxRd, snCr := false } else socket

/-! ### The driver -/

/-- W5500_getRXReceivedSize is the loop of W5500_getTXFreeSize over Sn_RX_RSR. -/
abbrev ReceivedSize := FreeSize

/-- The bytes that W5500_recv_data_processing copies. -/
def recvDataProcessing (socket : Socket) (len : Nat) : List UInt8 :=
  readCells bufferSize socket.memory socket.rxRd len

/-- The pointer that it moves, and the RECV that recv writes behind it. -/
def Socket.recv (socket : Socket) (len : Nat) : Socket :=
  { socket with rxRd := (socket.rxRd + len) % registerRange, snCr := true }

def int16 (value : Nat) : Int := Int.bmod value 65536

structure EthernetUDP where
  remoteIP : IPAddress
  remotePort : Nat
  remaining : Nat

/-- Which call recv serves: the header in parsePacket, the two reading functions, or
the read of EthernetUDP_flush, which parsePacket calls too. -/
inductive Cause
  | header
  | read
  | readBuf (len : Nat)
  | flush (parsing : Bool)
  deriving DecidableEq, Repr

/-- Behind the RECV stands W5500_execCmdSn, which polls Sn_CR until the chip has taken it. -/
inductive Stage
  | size (loop : ReceivedSize)
  | status
  | transfer (ret : Nat)
  | await (ret : Nat) (bytes : List UInt8)

/-- Where the Ethernet task stands: between two calls, in parsePacket's own look at
the received size, or in recv(s, buf, len). -/
inductive Point
  | idle
  | check (loop : ReceivedSize)
  | receive (cause : Cause) (len : Int) (stage : Stage)

structure Receiver where
  socket : Socket
  udp : EthernetUDP
  point : Point
  log : List Transaction

def Receiver.answer (receiver : Receiver) (call : Call) (value : Int) (stored : List UInt8) :
    Receiver :=
  { receiver with
    point := .idle
    log := receiver.log ++ [.answered call ⟨value, stored, receiver.udp.remoteIP,
      receiver.udp.remotePort, receiver.udp.remaining⟩] }

def Receiver.enter (receiver : Receiver) (cause : Cause) (len : Int) : Receiver :=
  { receiver with point := .receive cause len (.size (.firstHigh 0)) }

/-- The head of the loop in EthernetUDP_flush. -/
def Receiver.flush (receiver : Receiver) (parsing : Bool) : Receiver :=
  if receiver.udp.remaining ≠ 0 then receiver.enter (.flush parsing) 1
  else if parsing then { receiver with point := .check (.firstHigh 0) }
  else receiver.answer .flush 0 []

def Receiver.begin (receiver : Receiver) : Call → Receiver
  | .parsePacket => receiver.flush true
  | .read =>
      if 0 < receiver.udp.remaining then receiver.enter .read 1
      else receiver.answer .read (-1) []
  | .readBuf len =>
      if 0 < receiver.udp.remaining then
        receiver.enter (.readBuf len)
          (int16 (if receiver.udp.remaining ≤ len then receiver.udp.remaining else len))
      else receiver.answer (.readBuf len) (-1) []
  | .peek =>
      if receiver.udp.remaining = 0 then receiver.answer .peek (-1) []
      else
        receiver.answer .peek
          ((recvDataProcessing receiver.socket 1).getD 0 0).toNat []
  | .flush => receiver.flush false

def Receiver.took (receiver : Receiver) (count : Nat) : Receiver :=
  { receiver with udp := { receiver.udp with remaining := receiver.udp.remaining - count } }

/-- The header that parsePacket takes apart. `stack` is what its array held before. -/
def parseHeader (stack : Nat → UInt8) (bytes : List UInt8) : EthernetUDP :=
  let tmpBuf := writeBuffer stack bytes
  { remoteIP := ⟨fun place => tmpBuf place⟩
    remotePort := (tmpBuf 4).toNat * 256 + (tmpBuf 5).toNat
    remaining := (tmpBuf 6).toNat * 256 + (tmpBuf 7).toNat }

/-- The caller of recv goes on with what it returned. -/
def Receiver.finish (stack : Nat → UInt8) (receiver : Receiver) (ret : Int) (bytes : List UInt8) :
    Cause → Receiver
  | .header =>
      if 0 < ret then
        let parsed := { receiver with udp := parseHeader stack bytes }
        parsed.answer .parsePacket parsed.udp.remaining []
      else receiver.answer .parsePacket ret []
  | .read =>
      if 0 < ret then (receiver.took 1).answer .read (bytes.getD 0 0).toNat []
      else receiver.answer .read (-1) []
  | .readBuf len =>
      if 0 < ret then (receiver.took ret.toNat).answer (.readBuf len) ret bytes
      else receiver.answer (.readBuf len) (-1) []
  | .flush parsing =>
      if 0 < ret then (receiver.took 1).flush parsing else receiver.flush parsing

/-- The task's next step. -/
def advance (stack : Nat → UInt8) (receiver : Receiver) : Receiver :=
  match receiver.point with
  | .idle => receiver
  | .check loop =>
      match loop.next receiver.socket.rxRsr with
      | .inl loop => { receiver with point := .check loop }
      | .inr size =>
          if 0 < size then receiver.enter .header 8
          else receiver.answer .parsePacket 0 []
  | .receive cause len (.size loop) =>
      match loop.next receiver.socket.rxRsr with
      | .inl loop => { receiver with point := .receive cause len (.size loop) }
      | .inr size =>
          let ret := int16 size
          if ret = 0 then { receiver with point := .receive cause len .status }
          else
            let ret := if len < ret then len else ret
            if 0 < ret then { receiver with point := .receive cause len (.transfer ret.toNat) }
            else receiver.finish stack ret [] cause
  | .receive cause _ .status =>
      match receiver.socket.status with
      | .listen | .closed | .closeWait => receiver.finish stack 0 [] cause
      | _ => receiver.finish stack (-1) [] cause
  | .receive cause len (.transfer ret) =>
      { receiver with
        socket := receiver.socket.recv ret
        point := .receive cause len (.await ret (recvDataProcessing receiver.socket ret)) }
  | .receive cause _ (.await ret bytes) =>
      if receiver.socket.snCr then receiver else receiver.finish stack ret bytes cause

inductive Event
  | command
  | arrive (datagram : Inbound)
  | call (call : Call)
  | task

/-- A datagram that finds no room is lost. The task makes one call at a time. -/
def step (stack : Nat → UInt8) (receiver : Receiver) : Event → Receiver
  | .command => { receiver with socket := receiver.socket.takeCommand }
  | .arrive datagram =>
      if receiver.socket.hasRoom datagram then
        { receiver with
          socket := receiver.socket.store datagram
          log := receiver.log ++ [.arrived datagram] }
      else receiver
  | .call call =>
      match receiver.point with
      | .idle => receiver.begin call
      | _ => receiver
  | .task => advance stack receiver

/-- A UDP socket just opened, with the read and write pointers wherever they are. -/
def Receiver.start (memory : Nat → UInt8) (pointer : Fin registerRange) (remoteIP : IPAddress)
    (remotePort : Nat) : Receiver where
  socket :=
    { memory := memory
      rxRd := pointer
      released := pointer
      rxWr := pointer
      status := .udp
      snCr := false }
  udp := { remoteIP := remoteIP, remotePort := remotePort, remaining := 0 }
  point := .idle
  log := []

end MSniff.Concrete.Receive
