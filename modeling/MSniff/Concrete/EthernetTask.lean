/-
Ethernet_handleRFpacket of ethernet_task.c: one element taken from the ring and
passed to the UDP layer as a sequence of calls. The local buffer is the memory
from its first byte on, so an access behind its end is an access like any other
and shows in the extents the model keeps.
-/

import MSniff.Concrete.IPAddress
import MSniff.Concrete.RadioQueue
import MSniff.Concrete.RadioTask

namespace MSniff.Concrete.EthernetTask

open RadioQueue RadioTask

def port : Nat := 2014
def maxlen : Nat := 2047
def accesAddress : List UInt8 := [0xD6, 0xBE, 0x89, 0x8E]

/-- A call of EthernetUdp.c; a write with the bytes that its pointer and size
name. -/
inductive UdpCall
  | beginPacket (ip : IPAddress) (port : Nat)
  | write (bytes : List UInt8)
  | endPacket

def readBuffer (buffer : Nat → UInt8) (size : Nat) : List UInt8 := (List.range size).map buffer

def writeBuffer (buffer : Nat → UInt8) (bytes : List UInt8) : Nat → UInt8 := fun index =>
  bytes.getD index (buffer index)

/-- What one call does: the ring it leaves, its calls of the UDP layer, and how
many bytes from the start of the local buffer it writes and has read. -/
structure HandleResult where
  queue : Queue
  calls : List UdpCall
  bytesWritten : Nat
  bytesRead : Nat

/-- The calls for a packet whose bytes start the buffer. -/
def sendCalls (currentProtocol : Protocol) (hTargetIp : IPAddress) (bytes : List UInt8) :
    List UdpCall :=
  let proto := currentProtocol.code
  [.beginPacket hTargetIp port, .write [proto]] ++
    (if proto = Protocol.ble1M.code then [.write accesAddress] else []) ++
    [.write bytes, .endPacket]

def handleRFpacket (queue : Queue) (currentProtocol : Protocol) (hTargetIp : IPAddress)
    (stack : Nat → UInt8) : HandleResult :=
  let taken := takePacket queue maxlen
  let copied := taken.copied.getD []
  let packetlen := taken.value
  if packetlen ≠ 0 ∧ hTargetIp.dword ≠ 0 then
    { queue := taken.queue
      calls := sendCalls currentProtocol hTargetIp
        (readBuffer (writeBuffer stack copied) packetlen)
      bytesWritten := copied.length
      bytesRead := packetlen }
  else
    { queue := taken.queue, calls := [], bytesWritten := copied.length, bytesRead := 0 }

theorem readBuffer_writeBuffer (buffer : Nat → UInt8) (bytes : List UInt8) :
    readBuffer (writeBuffer buffer bytes) bytes.length = bytes := by
  apply List.ext_getElem
  · simp only [readBuffer, List.length_map, List.length_range]
  · intro index _ inside
    simp only [readBuffer, writeBuffer, List.getElem_map, List.getElem_range]
    exact List.getD_eq_getElem bytes _ inside

end MSniff.Concrete.EthernetTask
