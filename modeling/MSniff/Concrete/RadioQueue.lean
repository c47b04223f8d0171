/-
The RF core's data-entry ring of radio_queue.c. Entries live in a memory indexed
by address, so creation, reset and the reader follow the stored next pointers.
The driver library's headers are not part of the repository: of an entry the
model keeps the fields the source reads or writes, with its data field eight
bytes behind its start.
-/

import Mathlib.Data.List.GetD
import MSniff.CyclicWindow

namespace MSniff.Concrete.RadioQueue

open CyclicWindow

/-! ### Entries and queue objects -/

def headerSize : Nat := 8
def maxLength : Nat := 2047
def numDE : Nat := 3
def numAppendedBytes : Nat := 12
def deConfigSize : Nat := 2

/-- `RF_QUEUE_ALIGN_PADDING`: 4 and not 0 for a length that is already aligned. -/
def alignPadding (length : Nat) : Nat := 4 - (length + headerSize) % 4

def deBufferSize (numEntries dataSize appendedBytes : Nat) : Nat :=
  numEntries * (headerSize + dataSize + appendedBytes + alignPadding (dataSize + appendedBytes))

abbrev Address := Nat

inductive EntryStatus
  | pending
  | finished
  | other (code : UInt8)
  deriving DecidableEq, Repr

inductive EntryType
  | general
  | other (code : UInt8)
  deriving DecidableEq, Repr

structure DataEntry where
  pNextEntry : Address
  status : EntryStatus
  configType : EntryType
  configLenSz : Nat
  length : Nat
  data : Nat → UInt8

structure DataQueue where
  pCurrEntry : Address
  pLastEntry : Option Address

/-- The memory the module works on: the data entries by address and the three
static objects apart from the receive buffer, which the entries lie in. -/
structure Queue where
  entries : Address → DataEntry
  object : DataQueue
  readEntry : Address

def setStatus (entries : Address → DataEntry) (entry : Address) (status : EntryStatus) :
    Address → DataEntry :=
  Function.update entries entry { entries entry with status := status }

/-! ### Functions of radio_queue.c -/

/-- An entry as the loop of `create` writes it: `pNextEntry` is computed from the
address of the data field. -/
def configured (entry : DataEntry) (buf : Address) (length pad : Nat) : DataEntry :=
  { entry with
    status := .pending
    configType := .general
    configLenSz := deConfigSize
    length := length
    pNextEntry := buf + headerSize + length + pad }

def configureEntry (entries : Address → DataEntry) (buf : Address) (length pad : Nat) :
    Address → DataEntry :=
  Function.update entries buf (configured (entries buf) buf length pad)

def createLoop (entries : Address → DataEntry) (firstEntry : Address) (numEntries length pad : Nat) :
    (Address → DataEntry) × Address :=
  (List.range numEntries).foldl
    (fun memory i =>
      let buf := firstEntry + i * (headerSize + length + pad)
      (configureEntry memory.1 buf length pad, buf))
    (entries, firstEntry)

def create (queue : Queue) (buf : Address) (bufLength numEntries length : Nat) : Nat × Queue :=
  if bufLength < numEntries * (length + headerSize + alignPadding length) then (1, queue)
  else
    let pad := 4 - (length + headerSize) % 4
    let (entries, lastEntry) := createLoop queue.entries buf numEntries length pad
    (0,
      { entries := Function.update entries lastEntry { entries lastEntry with pNextEntry := buf }
        object := { pCurrEntry := buf, pLastEntry := none }
        readEntry := buf })

def init (queue : Queue) (rxBuffer : Address) : Queue :=
  (create queue rxBuffer (deBufferSize numDE maxLength numAppendedBytes) numDE
    (maxLength + numAppendedBytes)).2

def hasPacket (queue : Queue) : Bool := (queue.entries queue.readEntry).status = .finished

def resetEntry (memory : (Address → DataEntry) × Address) : (Address → DataEntry) × Address :=
  (setStatus memory.1 memory.2 .pending, (memory.1 memory.2).pNextEntry)

def reset (queue : Queue) (rxBuffer : Address) : Queue :=
  { entries := (resetEntry^[numDE] (queue.entries, rxBuffer)).1
    object := { queue.object with pCurrEntry := rxBuffer }
    readEntry := rxBuffer }

def markPending (queue : Queue) : Queue :=
  { queue with entries := setStatus queue.entries queue.readEntry .pending }

def advance (queue : Queue) : Queue :=
  { queue with readEntry := (queue.entries queue.readEntry).pNextEntry }

def nextEntry (queue : Queue) : Queue := advance (markPending queue)

def get16bitValue (buffer : Nat → UInt8) : Nat :=
  ((buffer 1).toNat <<< 8) ||| (buffer 0).toNat

/-- What `memcpy` reads when it is handed the element's bytes behind its length. -/
def copyBytes (entry : DataEntry) (elementLength : Nat) : List UInt8 :=
  (List.range elementLength).map fun i => entry.data (deConfigSize + i)

/-- The result of `takePacket`: its value and the bytes it wrote to the front of
the caller's buffer, none where it wrote nothing. -/
structure TakeResult where
  queue : Queue
  value : Nat
  copied : Option (List UInt8)

def takePacket (queue : Queue) (maxlen : Nat) : TakeResult :=
  if hasPacket queue then
    let entry := queue.entries queue.readEntry
    let elementLength := get16bitValue entry.data
    { queue := nextEntry queue
      value := elementLength
      copied := if elementLength ≤ maxlen then some (copyBytes entry elementLength) else none }
  else { queue := queue, value := 0, copied := none }

/-! ### The RF core -/

/-- A received packet fits the capacity that `init` configures for every entry,
its two length bytes included. -/
structure Packet where
  bytes : List UInt8
  fits : bytes.length + deConfigSize ≤ maxLength + numAppendedBytes

/-- The element as the RF core lays it out: the length, low byte first, then the
packet; what lies behind it stays. -/
def storeElement (data : Nat → UInt8) (packet : Packet) : Nat → UInt8 := fun i =>
  if i = 0 then UInt8.ofNat packet.bytes.length
  else if i = 1 then UInt8.ofNat (packet.bytes.length / 256)
  else packet.bytes.getD (i - deConfigSize) (data i)

def canStore (queue : Queue) : Bool :=
  (queue.entries queue.object.pCurrEntry).status = .pending

/-- The RF core's reaction to a packet. Where the current entry is not pending it
stores nothing; that it then raises RxBufFull shows as a later reset. -/
def receive (queue : Queue) (packet : Packet) : Queue :=
  if canStore queue then
    let current := queue.object.pCurrEntry
    let entry := queue.entries current
    { queue with
      entries := Function.update queue.entries current
        { entry with status := .finished, data := storeElement entry.data packet }
      object := { queue.object with pCurrEntry := entry.pNextEntry } }
  else queue

/-! ### The element codec -/

theorem get16bitValue_eq (buffer : Nat → UInt8) :
    get16bitValue buffer = 256 * (buffer 1).toNat + (buffer 0).toNat := by
  have low : (buffer 0).toNat < 2 ^ 8 := UInt8.toNat_lt _
  rw [get16bitValue, ← Nat.shiftLeft_add_eq_or_of_lt low, Nat.shiftLeft_eq]
  omega

theorem get16bitValue_storeElement (data : Nat → UInt8) (packet : Packet) :
    get16bitValue (storeElement data packet) = packet.bytes.length := by
  have fits := packet.fits
  simp only [deConfigSize, maxLength, numAppendedBytes] at fits
  simp only [get16bitValue_eq, storeElement, one_ne_zero, if_false, if_true, UInt8.toNat_ofNat']
  omega

theorem storeElement_packet (data : Nat → UInt8) (packet : Packet) (index : Nat)
    (inside : index < packet.bytes.length) :
    storeElement data packet (deConfigSize + index) = packet.bytes[index] := by
  have notLow : deConfigSize + index ≠ 0 := by rw [deConfigSize]; omega
  have notHigh : deConfigSize + index ≠ 1 := by rw [deConfigSize]; omega
  rw [storeElement, if_neg notLow, if_neg notHigh, Nat.add_sub_cancel_left,
    List.getD_eq_getElem packet.bytes _ inside]

theorem copyBytes_storeElement (entry : DataEntry) (status : EntryStatus) (packet : Packet) :
    copyBytes { entry with status := status, data := storeElement entry.data packet }
      packet.bytes.length = packet.bytes := by
  apply List.ext_getElem
  · simp only [copyBytes, List.length_map, List.length_range]
  · intro index _ inside
    simp only [copyBytes, List.getElem_map, List.getElem_range]
    exact storeElement_packet entry.data packet index inside

end MSniff.Concrete.RadioQueue
