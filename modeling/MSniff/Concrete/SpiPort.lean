/-
The SPI port of the W5500 and the driver's accesses through it, the register functions of
w5500.c over SPIfg.c. Between any two bytes on the bus the chip may change its registers
and buffers by itself.
-/

import MSniff.Concrete.ReceiveBuffer

namespace MSniff.Concrete.SpiPort

open Receive SocketTable Transmit

/-! ### The chip -/

/-- The cells by block and offset: the common registers, and for each socket its
registers, its transmit buffer and its receive buffer. -/
abbrev Memory := Nat → Nat → UInt8

def commonBlock : Nat := 0
def registerBlock (s : Nat) : Nat := 4 * (s % maxSockNum) + 1
def txBlock (s : Nat) : Nat := 4 * (s % maxSockNum) + 2
def rxBlock (s : Nat) : Nat := 4 * (s % maxSockNum) + 3

/-- Addresses run around within a buffer. -/
def blockSize (block : Nat) : Nat := if block % 4 < 2 then registerRange else bufferSize

def writeCell (memory : Memory) (block offset : Nat) (value : UInt8) : Memory :=
  Function.update memory block (Function.update (memory block) offset value)

inductive Access
  | read (block offset : Nat) (value : UInt8)
  | write (block offset : Nat) (value : UInt8)
  deriving DecidableEq

/-- How far the chip is with a frame: the next byte is one of the header or, with the
block, the address and the direction of the header, one of the data. -/
inductive Frame
  | deselected
  | addressHigh
  | addressLow (high : UInt8)
  | control (address : Nat)
  | data (block address : Nat) (writes : Bool)
  deriving DecidableEq

/-- `accesses` records what has been done to the cells from outside. -/
structure Port where
  memory : Memory
  frame : Frame
  clock : Nat
  accesses : List Access

/-- What the chip does by itself before each byte. -/
abbrev Environment := Nat → Memory → Memory

/-- Only a falling edge of the select line begins a frame. -/
def setSS (port : Port) : Port :=
  if port.frame = .deselected then { port with frame := .addressHigh } else port

def resetSS (port : Port) : Port := { port with frame := .deselected }

/-- One byte each way. The upper five bits of the control byte select the block, the next
one the direction; the driver leaves the last two, for the variable data length, clear. -/
def transf (environment : Environment) (port : Port) (tx : UInt8) : UInt8 × Port :=
  let memory := environment port.clock port.memory
  match port.frame with
  | .deselected => (0, { port with memory := memory, clock := port.clock + 1 })
  | .addressHigh =>
      (0, { port with memory := memory, clock := port.clock + 1, frame := .addressLow tx })
  | .addressLow high =>
      (0, { port with
        memory := memory
        clock := port.clock + 1
        frame := .control (high.toNat * 256 + tx.toNat) })
  | .control address =>
      (0, { port with
        memory := memory
        clock := port.clock + 1
        frame := .data (tx.toNat / 8) address (tx.toNat / 4 % 2 = 1) })
  | .data block address true =>
      (0, { memory := writeCell memory block (address % blockSize block) tx
            frame := .data block ((address + 1) % registerRange) true
            clock := port.clock + 1
            accesses := port.accesses ++ [.write block (address % blockSize block) tx] })
  | .data block address false =>
      let value := memory block (address % blockSize block)
      (value, { memory := memory
                frame := .data block ((address + 1) % registerRange) false
                clock := port.clock + 1
                accesses := port.accesses ++ [.read block (address % blockSize block) value] })

def transfLoop (environment : Environment) (port : Port) : List UInt8 → List UInt8 × Port
  | [] => ([], port)
  | tx :: rest =>
      let (rx, port) := transf environment port tx
      let (later, port) := transfLoop environment port rest
      (rx :: later, port)

/-! ### The driver -/

variable (environment : Environment)

def header (addr : Nat) (cb : UInt8) : List UInt8 := [highByte addr, lowByte addr, cb]

def writeBuf (port : Port) (addr : Nat) (cb : UInt8) (buf : List UInt8) : Port :=
  let (_, port) := transfLoop environment (setSS port) (header addr cb)
  let (_, port) := transfLoop environment port buf
  resetSS port

def readBuf (port : Port) (addr : Nat) (cb : UInt8) (len : Nat) : List UInt8 × Port :=
  let (_, port) := transfLoop environment (setSS port) (header addr cb)
  let (buf, port) := transfLoop environment port (List.replicate len 0)
  (buf, resetSS port)

def write (port : Port) (addr : Nat) (cb data : UInt8) : Port :=
  writeBuf environment port addr cb [data]

def read (port : Port) (addr : Nat) (cb : UInt8) : UInt8 × Port :=
  let (buf, port) := readBuf environment port addr cb 1
  (buf.headD 0, port)

/-- The socket number shifted by five bits and the base, cut to one byte. -/
def cntlByte (s base : Nat) : UInt8 := UInt8.ofNat (s * 32 + base)

def readSn (port : Port) (s addr : Nat) : UInt8 × Port :=
  read environment port addr (cntlByte s 0x08)

def writeSn (port : Port) (s addr : Nat) (data : UInt8) : Port :=
  write environment port addr (cntlByte s 0x0C) data

def readSnBuf (port : Port) (s addr len : Nat) : List UInt8 × Port :=
  readBuf environment port addr (cntlByte s 0x08) len

def writeSnBuf (port : Port) (s addr : Nat) (buf : List UInt8) : Port :=
  writeBuf environment port addr (cntlByte s 0x0C) buf

/-- The two accesses that the macro for a socket's 16-bit register makes. -/
def readSn16 (port : Port) (s address : Nat) : Nat × Port :=
  let (high, port) := readSn environment port s address
  let (low, port) := readSn environment port s (address + 1)
  (high.toNat * 256 + low.toNat, port)

def writeSn16 (port : Port) (s address data : Nat) : Port :=
  let port := writeSn environment port s address (highByte data)
  writeSn environment port s (address + 1) (lowByte data)

/-- The macros for the common registers. -/
def readCommon (port : Port) (address size : Nat) : List UInt8 × Port :=
  readBuf environment port address 0x00 size

def writeCommon (port : Port) (address : Nat) (buff : List UInt8) : Port :=
  writeBuf environment port address 0x04 buff

def snTxWr : Nat := 0x24
def snRxRd : Nat := 0x28

def sendDataProcessingOffset (port : Port) (s dataOffset : Nat) (data : List UInt8) : Port :=
  let (ptr, port) := readSn16 environment port s snTxWr
  let ptr := (ptr + dataOffset) % registerRange
  let port := writeBuf environment port ptr (cntlByte s 0x14) data
  writeSn16 environment port s snTxWr ((ptr + data.length) % registerRange)

def readData (port : Port) (s src len : Nat) : List UInt8 × Port :=
  readBuf environment port src (cntlByte s 0x18) len

def recvDataProcessing (port : Port) (s len : Nat) (peek : Bool) : List UInt8 × Port :=
  let (ptr, port) := readSn16 environment port s snRxRd
  let (data, port) := readData environment port s ptr len
  if peek then (data, port)
  else (data, writeSn16 environment port s snRxRd ((ptr + len) % registerRange))

/-- W5500_init once the select line and the SPI are set up: two kilobytes for each buffer
of the sockets up to this one. -/
def initSizes (port : Port) : Nat → Port
  | 0 => port
  | i + 1 =>
      let port := initSizes port i
      let port := write environment port 0x1E (cntlByte i 0x0C) 2
      write environment port 0x1F (cntlByte i 0x0C) 2

def init (port : Port) : Port := initSizes environment port maxSockNum

end MSniff.Concrete.SpiPort
