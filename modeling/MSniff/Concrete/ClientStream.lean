/-
The transmit side of one W5500 TCP socket and the blocking send of socket.c. The task and
the chip take turns between two register accesses; only the copy of a block makes one step
with the accesses to the pointer that belongs to it.
-/

import MSniff.EventRun
import MSniff.Concrete.SocketTable
import MSniff.Concrete.TransmitBuffer

namespace MSniff.Concrete.ClientStream

open CircularStore SocketTable Transmit

/-! ### The chip -/

inductive Command
  | send
  | close
  deriving DecidableEq, Repr

/-- `txRd` points to the oldest byte that the peer has not acknowledged. Behind it lie
the bytes that it has received but not acknowledged, and then those that it has not.
`txWr` is what Sn_TX_WR reads back, `txWritten` what was written to it last. `snCr` is the
command that Sn_CR holds while the chip has not taken it. -/
structure Connection where
  memory : Nat → UInt8
  txRd : Nat
  txWr : Nat
  txWritten : Nat
  unacknowledged : Nat
  unsent : Nat
  status : SocketStatus
  sending : Bool
  sendOk : Bool
  snCr : Option Command
  received : List UInt8

/-- Sn_TX_FSR, a 16-bit register. -/
def Connection.txFsr (connection : Connection) : Nat :=
  (bufferSize + registerRange -
    (connection.unacknowledged + connection.unsent) % registerRange) % registerRange

/-- The statuses in which `send` goes on. -/
def isUp (status : SocketStatus) : Bool := status = .established ∨ status = .closeWait

/-- SEND, which a socket without a connection ignores. -/
def Connection.send (connection : Connection) : Connection :=
  if isUp connection.status then
    { connection with
      txWr := connection.txWritten
      unsent := connection.unsent +
        (connection.txWritten + registerRange - connection.txWr) % registerRange
      sending := true }
  else connection

/-- The peer receives bytes. They are those in the buffer by now: the latest that the
chip can have read them. -/
def Connection.deliver (connection : Connection) (count : Nat) : Connection :=
  if isUp connection.status then
    { connection with
      unacknowledged := connection.unacknowledged + min count connection.unsent
      unsent := connection.unsent - min count connection.unsent
      received := connection.received ++ readCells bufferSize connection.memory
        (connection.txRd + connection.unacknowledged) (min count connection.unsent) }
  else connection

/-- The peer acknowledges bytes, and the chip frees them. -/
def Connection.acknowledge (connection : Connection) (count : Nat) : Connection :=
  if isUp connection.status then
    { connection with
      txRd := (connection.txRd + min count connection.unacknowledged) % registerRange
      unacknowledged := connection.unacknowledged - min count connection.unacknowledged }
  else connection

def Connection.finishSend (connection : Connection) : Connection :=
  if connection.sending then { connection with sending := false, sendOk := true } else connection

def Connection.peerCloses (connection : Connection) : Connection :=
  if connection.status = .established then { connection with status := .closeWait }
  else connection

def Connection.close (connection : Connection) : Connection :=
  { connection with status := .closed }

/-- The chip takes the command that was written, in its own time. -/
def Connection.takeCommand (connection : Connection) : Connection :=
  match connection.snCr with
  | none => connection
  | some .send => { connection.send with snCr := none }
  | some .close => { connection.close with snCr := none }

/-! ### The driver -/

/-- How many of the bytes of a write `send` takes: its length parameter has 16 bits. -/
def sendLength (size : Nat) : Nat :=
  if size % registerRange > bufferSize then bufferSize else size % registerRange

def sendDataProcessing (connection : Connection) (data : List UInt8) : Connection :=
  { connection with
    memory := writeCells bufferSize connection.memory connection.txWr data
    txWritten := (connection.txWr + data.length) % registerRange }

/-- Where the task stands: between two calls of `EthernetClient_write`, or in `send`,
before the register access that the name says. Behind a command it is in W5500_execCmdSn,
which polls Sn_CR until the chip has taken it. -/
inductive Point
  | nextWrite
  | freeSize (buf : List UInt8) (ret : Nat) (loop : FreeSize)
  | checkStatus (buf : List UInt8) (ret freesize : Nat)
  | transfer (buf : List UInt8) (ret : Nat)
  | sendCommand (size ret : Nat)
  | awaitSend (size ret : Nat)
  | readInterrupt (size ret : Nat)
  | readStatus (size ret : Nat)
  | closeCommand
  | awaitClose
  | closeInterrupt
  | clearInterrupt (size ret : Nat)

/-- `returned` records what the calls of `EthernetClient_write` have returned. -/
structure Session where
  connection : Connection
  point : Point
  writes : List (List UInt8)
  returned : List Nat

/-- What `EthernetClient_write` makes of the result of `send`. -/
def writeResult (size ret : Nat) : Nat := if ret = 0 then 0 else size

def advance (session : Session) : Session :=
  match session.point with
  | .nextWrite =>
      match session.writes with
      | [] => session
      | buf :: rest =>
          { session with
            point := .freeSize buf (sendLength buf.length) (.firstHigh 0)
            writes := rest }
  | .freeSize buf ret loop =>
      match loop.next session.connection.txFsr with
      | .inl loop => { session with point := .freeSize buf ret loop }
      | .inr freesize => { session with point := .checkStatus buf ret freesize }
  | .checkStatus buf ret freesize =>
      if session.connection.status ≠ .established ∧ session.connection.status ≠ .closeWait then
        { session with point := .transfer buf 0 }
      else if freesize < ret then { session with point := .freeSize buf ret (.firstHigh 0) }
      else { session with point := .transfer buf ret }
  | .transfer buf ret =>
      { session with
        connection := sendDataProcessing session.connection (buf.take ret)
        point := .sendCommand buf.length ret }
  | .sendCommand size ret =>
      { session with
        connection := { session.connection with snCr := some .send }
        point := .awaitSend size ret }
  | .awaitSend size ret =>
      if session.connection.snCr.isSome then session
      else { session with point := .readInterrupt size ret }
  | .readInterrupt size ret =>
      if session.connection.sendOk then { session with point := .clearInterrupt size ret }
      else { session with point := .readStatus size ret }
  | .readStatus size ret =>
      if session.connection.status = .closed then { session with point := .closeCommand }
      else { session with point := .readInterrupt size ret }
  | .closeCommand =>
      { session with
        connection := { session.connection with snCr := some .close }
        point := .awaitClose }
  | .awaitClose =>
      if session.connection.snCr.isSome then session
      else { session with point := .closeInterrupt }
  | .closeInterrupt =>
      { session with
        connection := { session.connection with sendOk := false }
        point := .nextWrite
        returned := session.returned ++ [0] }
  | .clearInterrupt size ret =>
      { session with
        connection := { session.connection with sendOk := false }
        point := .nextWrite
        returned := session.returned ++ [writeResult size ret] }

inductive Event
  | task
  | command
  | deliver (count : Nat)
  | acknowledge (count : Nat)
  | finishSend
  | peerCloses
  | disconnect

def step (session : Session) : Event → Session
  | .task => advance session
  | .command => { session with connection := session.connection.takeCommand }
  | .deliver count => { session with connection := session.connection.deliver count }
  | .acknowledge count => { session with connection := session.connection.acknowledge count }
  | .finishSend => { session with connection := session.connection.finishSend }
  | .peerCloses => { session with connection := session.connection.peerCloses }
  | .disconnect => { session with connection := session.connection.close }

/-- A connection just established, before these writes. -/
def Session.start (memory : Nat → UInt8) (pointer : Nat) (writes : List (List UInt8)) : Session where
  connection :=
    { memory := memory
      txRd := pointer % registerRange
      txWr := pointer % registerRange
      txWritten := pointer % registerRange
      unacknowledged := 0
      unsent := 0
      status := .established
      sending := false
      sendOk := false
      snCr := none
      received := [] }
  point := .nextWrite
  writes := writes
  returned := []

end MSniff.Concrete.ClientStream
