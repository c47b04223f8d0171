/-
The copying routines of w5500.c at the SPI port, any number of them one after the other: on
the cells that a socket leaves to the driver they are those of the socket models, and they
reach no cell of another socket.
-/

import MSniff.Concrete.SpiAccess

namespace MSniff.Concrete.SpiPort

open CircularStore Receive SocketTable Transmit

variable {environment : Environment} {port middle final : Port} {s : Nat}

/-! ### Traces -/

/-- These accesses have been made, and the bus is free. -/
structure Trace (port final : Port) (made : List Access) : Prop where
  deselected : final.frame = .deselected
  accesses : final.accesses = port.accesses ++ made

theorem Trace.trans {made later : List Access} (first : Trace port middle made)
    (second : Trace middle final later) : Trace port final (made ++ later) := by
  refine ⟨second.deselected, ?_⟩
  rw [second.accesses, first.accesses, List.append_assoc]

theorem Performed.trace {call : Call} {result : List UInt8 × Port}
    (performed : Performed environment port call result) :
    Trace port result.2 (call.accesses result.1) :=
  ⟨performed.deselected, performed.accesses⟩

def Access.block : Access → Nat
  | .read block _ _ => block
  | .write block _ _ => block

theorem writesAt_block {block address : Nat} {buf : List UInt8} :
    ∀ access ∈ writesAt block address buf, access.block = block := by
  induction buf generalizing address with
  | nil => exact List.forall_mem_nil _
  | cons value rest ih => exact List.forall_mem_cons.mpr ⟨rfl, ih⟩

theorem readsAt_block {block address : Nat} {values : List UInt8} :
    ∀ access ∈ readsAt block address values, access.block = block := by
  induction values generalizing address with
  | nil => exact List.forall_mem_nil _
  | cons value rest ih => exact List.forall_mem_cons.mpr ⟨rfl, ih⟩

theorem Agrees.trans {memory bank other : Memory} (first : Agrees environment memory bank)
    (second : Agrees environment bank other) : Agrees environment memory other :=
  fun cell offset alone => (first cell offset alone).trans (second cell offset alone)

theorem Agrees.put {memory bank : Memory} (agrees : Agrees environment memory bank)
    (block address : Nat) (buf : List UInt8) :
    Agrees environment (putCells memory block address buf) (putCells bank block address buf) :=
  fun cell offset alone => putCells_congr (agrees cell offset alone) block address buf

/-! ### Pointer registers -/

def wordAt (memory : Memory) (block address : Nat) : Nat :=
  (memory block address).toNat * 256 + (memory block (address + 1)).toNat

theorem wordAt_lt (memory : Memory) (block address : Nat) :
    wordAt memory block address < registerRange := by
  have high := (memory block address).toNat_lt
  have low := (memory block (address + 1)).toNat_lt
  unfold wordAt registerRange
  omega

/-- The two bytes of a word as they go over the bus. -/
def wordBytes (value : Nat) : List UInt8 := [highByte value, lowByte value]

theorem wordBytes_of_bytes (high low : UInt8) :
    wordBytes (high.toNat * 256 + low.toNat) = [high, low] := by
  have below := low.toNat_lt
  have upper : (high.toNat * 256 + low.toNat) / 256 = high.toNat := by omega
  rw [wordBytes, highByte, lowByte, upper, UInt8.ofNat_toNat]
  congr 2
  apply UInt8.toNat_inj.mp
  rw [UInt8.toNat_ofNat']
  omega

theorem wordBytes_mod (value : Nat) : wordBytes (value % registerRange) = wordBytes value := by
  have high : highByte (value % registerRange) = highByte value := by
    apply UInt8.toNat_inj.mp
    rw [highByte, highByte, UInt8.toNat_ofNat', UInt8.toNat_ofNat']
    unfold registerRange
    omega
  have low : lowByte (value % registerRange) = lowByte value := by
    apply UInt8.toNat_inj.mp
    rw [lowByte, lowByte, UInt8.toNat_ofNat', UInt8.toNat_ofNat']
    unfold registerRange
    omega
  rw [wordBytes, high, low, wordBytes]

/-- The chip leaves the two bytes of a pointer register to the driver. -/
def LeavesWord (environment : Environment) (block address : Nat) : Prop :=
  LeavesAlone environment block address ∧ LeavesAlone environment block (address + 1)

/-- The register reads as this value whatever has been written to it. -/
def ShowsWord (environment : Environment) (block address value : Nat) : Prop :=
  ∀ clock memory, environment clock memory block address = highByte value ∧
    environment clock memory block (address + 1) = lowByte value

theorem registerBlock_offset {address : Nat} (inRange : address < registerRange) :
    address % blockSize (registerBlock s) = address := by
  have registers : registerBlock s % 4 < 2 := by
    unfold registerBlock
    omega
  rw [blockSize, if_pos registers]
  exact Nat.mod_eq_of_lt inRange

theorem readSn_spec (deselected : port.frame = .deselected) {address : Nat}
    (inRange : address < registerRange) :
    let result := readSn environment port s address
    Trace port result.2 (readsAt (registerBlock s) address [result.1]) ∧
      Agrees environment result.2.memory port.memory := by
  intro result
  have performed := @Call.performed environment port (.readSn s address 1) inRange deselected
  have length := (@readBuf_spec environment port deselected address inRange (cntlByte s 0x08)
    (by rw [cntlByte_direction s (by decide)]; decide) 1).2.1
  obtain ⟨value, single⟩ := List.length_eq_one_iff.mp length
  have answered : result.1 = value := congrArg (fun buf => buf.headD 0) single
  have made := performed.trace
  rw [show ((Call.readSn s address 1).perform environment port).1 = [value] from single] at made
  rw [answered]
  exact ⟨made, performed.cells⟩

theorem readSn_answer (deselected : port.frame = .deselected) {address : Nat}
    (inRange : address < registerRange) (alone : LeavesAlone environment (registerBlock s) address) :
    (readSn environment port s address).1 = port.memory (registerBlock s) address := by
  have performed := @Call.performed environment port (.readSn s address 1) inRange deselected
  have undisturbed : (Call.readSn s address 1).Undisturbed environment := by
    intro index inside
    have first : index = 0 := Nat.lt_one_iff.mp inside
    rw [first]
    change LeavesAlone environment (registerBlock s) (address % blockSize (registerBlock s))
    rw [registerBlock_offset inRange]
    exact alone
  have value := congrArg (fun buf => buf.headD 0) (performed.answers undisturbed)
  refine value.trans ?_
  change port.memory (registerBlock s) ((address + 0) % blockSize (registerBlock s)) = _
  rw [Nat.add_zero, registerBlock_offset inRange]

theorem readSn_shown (deselected : port.frame = .deselected) {address : Nat}
    (inRange : address < registerRange) {value : UInt8}
    (shows : ∀ clock memory, environment clock memory (registerBlock s) address = value) :
    (readSn environment port s address).1 = value := by
  have data := @transfLoop_header environment port deselected address inRange (cntlByte s 0x08)
  have block : (cntlByte s 0x08).toNat / 8 = registerBlock s := cntlByte_block s (by decide)
  have reading : ¬ (cntlByte s 0x08).toNat / 4 % 2 = 1 := by
    rw [cntlByte_direction s (by decide)]
    decide
  rw [block, decide_eq_false reading] at data
  simp only [readSn, read, readBuf, data, List.replicate, transfLoop, transf,
    registerBlock_offset inRange]
  exact shows _ _

theorem readSn16_spec (deselected : port.frame = .deselected) {address : Nat}
    (inRange : address + 1 < registerRange) :
    let result := readSn16 environment port s address
    Trace port result.2 (readsAt (registerBlock s) address (wordBytes result.1)) ∧
      Agrees environment result.2.memory port.memory := by
  obtain ⟨first, kept⟩ := readSn_spec deselected (Nat.lt_of_succ_lt inRange)
  obtain ⟨second, later⟩ := readSn_spec first.deselected inRange
  refine ⟨?_, later.trans kept⟩
  simp only [readSn16, wordBytes_of_bytes]
  exact first.trans second

theorem readSn16_answer (deselected : port.frame = .deselected) {address : Nat}
    (inRange : address + 1 < registerRange)
    (leaves : LeavesWord environment (registerBlock s) address) :
    (readSn16 environment port s address).1 = wordAt port.memory (registerBlock s) address := by
  obtain ⟨first, kept⟩ := @readSn_spec environment port s deselected address
    (Nat.lt_of_succ_lt inRange)
  simp only [readSn16, wordAt]
  rw [readSn_answer deselected (Nat.lt_of_succ_lt inRange) leaves.1,
    readSn_answer first.deselected inRange leaves.2, kept _ _ leaves.2]

theorem readSn16_shown (deselected : port.frame = .deselected) {address value : Nat}
    (inRange : address + 1 < registerRange)
    (shows : ShowsWord environment (registerBlock s) address value) :
    (readSn16 environment port s address).1 = value % registerRange := by
  obtain ⟨first, _⟩ := @readSn_spec environment port s deselected address
    (Nat.lt_of_succ_lt inRange)
  have small : value % registerRange < registerRange := Nat.mod_lt _ (by decide)
  simp only [readSn16]
  rw [readSn_shown deselected (Nat.lt_of_succ_lt inRange) fun clock memory => (shows clock memory).1,
    readSn_shown first.deselected inRange fun clock memory => (shows clock memory).2]
  unfold highByte lowByte registerRange at *
  rw [UInt8.toNat_ofNat', UInt8.toNat_ofNat']
  omega

theorem writeSn_spec (deselected : port.frame = .deselected) {address : Nat}
    (inRange : address < registerRange) (value : UInt8) :
    let final := writeSn environment port s address value
    Trace port final (writesAt (registerBlock s) address [value]) ∧
      Agrees environment final.memory
        (putCells port.memory (registerBlock s) address [value]) := by
  have performed := @Call.performed environment port (.writeSn s address [value]) inRange deselected
  exact ⟨performed.trace, performed.cells⟩

/-- What the two bytes of a register are after a word has been written to it. -/
def putWord (memory : Memory) (block address value : Nat) : Memory :=
  putCells memory block address (wordBytes value)

theorem writeSn16_spec (deselected : port.frame = .deselected) {address : Nat}
    (inRange : address + 1 < registerRange) (value : Nat) :
    let final := writeSn16 environment port s address value
    Trace port final (writesAt (registerBlock s) address (wordBytes value)) ∧
      Agrees environment final.memory (putWord port.memory (registerBlock s) address value) := by
  obtain ⟨first, high⟩ := @writeSn_spec environment port s deselected address
    (Nat.lt_of_succ_lt inRange) (highByte value)
  obtain ⟨second, low⟩ := @writeSn_spec environment _ s first.deselected (address + 1) inRange
    (lowByte value)
  exact ⟨first.trans second, low.trans (high.put _ _ _)⟩

theorem putWord_eq (memory : Memory) {address : Nat} (inRange : address + 1 < registerRange)
    (value : Nat) :
    putWord memory (registerBlock s) address value =
      writeCell (writeCell memory (registerBlock s) address (highByte value)) (registerBlock s)
        (address + 1) (lowByte value) := by
  rw [putWord, wordBytes, putCells, putCells, putCells, registerBlock_offset (Nat.lt_of_succ_lt inRange),
    registerBlock_offset inRange]

theorem wordAt_putWord (memory : Memory) {address value : Nat}
    (inRange : address + 1 < registerRange) (fits : value < registerRange) :
    wordAt (putWord memory (registerBlock s) address value) (registerBlock s) address = value := by
  rw [putWord_eq memory inRange]
  simp only [wordAt, writeCell, Function.update_self]
  rw [Function.update_of_ne (Nat.ne_of_lt (Nat.lt_succ_self address)), Function.update_self]
  exact header_address fits

theorem putWord_of_ne (memory : Memory) {block address value : Nat} (inRange : address + 1 < registerRange)
    (elsewhere : block ≠ registerBlock s) :
    putWord memory (registerBlock s) address value block = memory block := by
  rw [putWord_eq memory inRange]
  simp only [writeCell]
  rw [Function.update_of_ne elsewhere, Function.update_of_ne elsewhere]

/-! ### The two routines -/

theorem txBlock_size (s : Nat) : blockSize (txBlock s) = bufferSize := by
  have buffer : ¬ txBlock s % 4 < 2 := by
    unfold txBlock
    omega
  rw [blockSize, if_neg buffer]

theorem rxBlock_size (s : Nat) : blockSize (rxBlock s) = bufferSize := by
  have buffer : ¬ rxBlock s % 4 < 2 := by
    unfold rxBlock
    omega
  rw [blockSize, if_neg buffer]

theorem txBlock_ne (s : Nat) : txBlock s ≠ registerBlock s := by
  unfold txBlock registerBlock
  omega

theorem rxBlock_ne (s : Nat) : rxBlock s ≠ registerBlock s := by
  unfold rxBlock registerBlock
  omega

theorem rxBlock_ne_tx (s : Nat) : rxBlock s ≠ txBlock s := by
  unfold rxBlock txBlock
  omega

theorem mod_lt_registerRange (value : Nat) : value % registerRange < registerRange :=
  Nat.mod_lt _ (by decide)

theorem sendDataProcessingOffset_spec (deselected : port.frame = .deselected) {txWr : Nat}
    (shows : ShowsWord environment (registerBlock s) snTxWr txWr) (dataOffset : Nat)
    (data : List UInt8) :
    let ptr := (txWr + dataOffset) % registerRange
    let final := sendDataProcessingOffset environment port s dataOffset data
    Trace port final
        (readsAt (registerBlock s) snTxWr (wordBytes txWr) ++ writesAt (txBlock s) ptr data ++
          writesAt (registerBlock s) snTxWr (wordBytes ((ptr + data.length) % registerRange))) ∧
      Agrees environment final.memory
        (putWord (putCells port.memory (txBlock s) ptr data) (registerBlock s) snTxWr
          ((ptr + data.length) % registerRange)) := by
  intro ptr final
  obtain ⟨first, kept⟩ := @readSn16_spec environment port s deselected snTxWr (by decide)
  have pointer := readSn16_shown deselected (by decide) shows
  have start : ((readSn16 environment port s snTxWr).1 + dataOffset) % registerRange = ptr := by
    rw [pointer, Nat.mod_add_mod]
  have copied := @Call.performed environment (readSn16 environment port s snTxWr).2
    (.writeTx s ptr data) (mod_lt_registerRange _) first.deselected
  have second : Trace (readSn16 environment port s snTxWr).2
      (writeBuf environment (readSn16 environment port s snTxWr).2 ptr (cntlByte s 0x14) data)
      (writesAt (txBlock s) ptr data) := copied.trace
  have cells : Agrees environment
      (writeBuf environment (readSn16 environment port s snTxWr).2 ptr (cntlByte s 0x14)
        data).memory
      (putCells (readSn16 environment port s snTxWr).2.memory (txBlock s) ptr data) := copied.cells
  obtain ⟨third, written⟩ := @writeSn16_spec environment _ s second.deselected snTxWr (by decide)
    ((ptr + data.length) % registerRange)
  rw [pointer, wordBytes_mod] at first
  simp only [final, sendDataProcessingOffset, start]
  exact ⟨(first.trans second).trans third,
    written.trans ((cells.trans (kept.put _ _ _)).put _ _ _)⟩

theorem recvDataProcessing_spec (deselected : port.frame = .deselected)
    (leaves : LeavesWord environment (registerBlock s) snRxRd) (len : Nat) (peek : Bool) :
    let ptr := wordAt port.memory (registerBlock s) snRxRd
    let result := recvDataProcessing environment port s len peek
    Trace port result.2
        (readsAt (registerBlock s) snRxRd (wordBytes ptr) ++
          readsAt (rxBlock s) ptr result.1 ++
          if peek then []
          else writesAt (registerBlock s) snRxRd (wordBytes ((ptr + len) % registerRange))) ∧
      ((∀ index < len, LeavesAlone environment (rxBlock s) ((ptr + index) % bufferSize)) →
        result.1 = readCells bufferSize (port.memory (rxBlock s)) ptr len) ∧
      Agrees environment result.2.memory
        (if peek then port.memory
        else putWord port.memory (registerBlock s) snRxRd ((ptr + len) % registerRange)) := by
  intro ptr result
  obtain ⟨first, kept⟩ := @readSn16_spec environment port s deselected snRxRd (by decide)
  have pointer := readSn16_answer deselected (by decide) leaves
  have read := @Call.performed environment (readSn16 environment port s snRxRd).2
    (.readRx s ptr len) (wordAt_lt _ _ _) first.deselected
  have second : Trace (readSn16 environment port s snRxRd).2
      (readData environment (readSn16 environment port s snRxRd).2 s ptr len).2
      (readsAt (rxBlock s) ptr
        (readData environment (readSn16 environment port s snRxRd).2 s ptr len).1) := read.trace
  have cells : Agrees environment
      (readData environment (readSn16 environment port s snRxRd).2 s ptr len).2.memory
      (readSn16 environment port s snRxRd).2.memory := read.cells
  have answers (alone : ∀ index < len,
      LeavesAlone environment (rxBlock s) ((ptr + index) % bufferSize)) :
      (readData environment (readSn16 environment port s snRxRd).2 s ptr len).1 =
        readCells bufferSize (port.memory (rxBlock s)) ptr len := by
    have undisturbed : (Call.readRx s ptr len).Undisturbed environment := by
      intro index inside
      change LeavesAlone environment (rxBlock s) ((ptr + index) % blockSize (rxBlock s))
      rw [rxBlock_size]
      exact alone index inside
    have same : getCells (readSn16 environment port s snRxRd).2.memory (rxBlock s) ptr len =
        getCells port.memory (rxBlock s) ptr len :=
      getCells_congr fun index inside => kept _ _ (undisturbed index inside)
    have answer := (read.answers undisturbed).trans same
    rw [getCells, rxBlock_size] at answer
    exact answer
  rw [pointer] at first
  simp only [result, recvDataProcessing, pointer]
  cases peek with
  | true =>
      have made := first.trans second
      rw [← List.append_nil (_ ++ _)] at made
      exact ⟨made, answers, cells.trans kept⟩
  | false =>
      obtain ⟨third, written⟩ := @writeSn16_spec environment _ s second.deselected snRxRd
        (by decide) ((ptr + len) % registerRange)
      exact ⟨(first.trans second).trans third, answers,
        written.trans ((cells.trans kept).put _ _ _)⟩

/-- W5500_init gives every buffer of the sockets its two kilobytes. -/
theorem initSizes_spec (deselected : port.frame = .deselected) {count : Nat}
    (sockets : count ≤ maxSockNum) :
    let final := initSizes environment port count
    final.frame = .deselected ∧
      ∀ other < count, ∀ address ∈ [0x1E, 0x1F],
        LeavesAlone environment (registerBlock other) address →
          final.memory (registerBlock other) address = 2 := by
  induction count with
  | zero => exact ⟨deselected, fun _ inside => absurd inside (Nat.not_lt_zero _)⟩
  | succ i ih =>
      obtain ⟨ended, earlier⟩ := ih (Nat.le_of_succ_le sockets)
      obtain ⟨first, rxSize⟩ := @writeSn_spec environment _ i ended 0x1E (by decide) 2
      obtain ⟨second, txSize⟩ := @writeSn_spec environment _ i first.deselected 0x1F (by decide) 2
      refine ⟨second.deselected, fun other inside address known alone => ?_⟩
      refine (txSize _ _ alone).trans ((putCells_congr (rxSize _ _ alone) _ _ _).trans ?_)
      simp only [putCells, registerBlock_offset (show 0x1E < registerRange by decide),
        registerBlock_offset (show 0x1F < registerRange by decide), writeCell]
      by_cases last : other = i
      · rw [last, Function.update_self, Function.update_self]
        by_cases later : address = 0x1F
        · rw [later, Function.update_self]
        · have rest := (List.mem_cons.mp known).resolve_right
            fun only => later (List.mem_singleton.mp only)
          rw [Function.update_of_ne later, rest, Function.update_self]
      · have apart : registerBlock other ≠ registerBlock i := by
          unfold registerBlock maxSockNum at *
          omega
        rw [Function.update_of_ne apart, Function.update_of_ne apart]
        exact earlier other (by omega) address known alone

/-! ### The socket models -/

/-- The models of a socket's two directions. -/
structure Models where
  tx : Transmit.Socket
  rx : Receive.Socket

/-- The blocks of the socket hold what its models say, the receive buffer as far as the chip
leaves it to the driver. -/
structure Pictures (environment : Environment) (memory : Memory) (s : Nat) (models : Models) :
    Prop where
  txMemory : memory (txBlock s) = models.tx.memory
  rxMemory : ∀ offset, LeavesAlone environment (rxBlock s) offset →
    memory (rxBlock s) offset = models.rx.memory offset
  rxPointer : wordAt memory (registerBlock s) snRxRd = models.rx.rxRd

/-- The chip changes neither the transmit buffer nor the read pointer by itself, and shows
the write pointer of the last SEND until the next. -/
structure DriverOwns (environment : Environment) (s txWr : Nat) : Prop where
  txMemory : ∀ offset, LeavesAlone environment (txBlock s) offset
  txPointer : ShowsWord environment (registerBlock s) snTxWr txWr
  rxPointer : LeavesWord environment (registerBlock s) snRxRd

/-- A call of one of the two routines. -/
inductive Transfer
  | send (dataOffset : Nat) (data : List UInt8)
  | recv (len : Nat) (peek : Bool)

variable (environment) in
def Transfer.perform (port : Port) (s : Nat) : Transfer → List UInt8 × Port
  | .send dataOffset data => ([], sendDataProcessingOffset environment port s dataOffset data)
  | .recv len peek => recvDataProcessing environment port s len peek

/-- The call on the models. -/
def Transfer.apply (models : Models) : Transfer → List UInt8 × Models
  | .send dataOffset data =>
      ([], { models with tx := Transmit.sendDataProcessingOffset models.tx dataOffset data })
  | .recv len peek =>
      (Receive.recvDataProcessing models.rx len,
        if peek then models else { models with rx := models.rx.recv len })

/-- The accesses that the call is to make, with what it reads of the buffer. -/
def Transfer.accesses (s : Nat) (models : Models) (transfer : Transfer) (result : List UInt8) :
    List Access :=
  let next := (transfer.apply models).2
  match transfer with
  | .send dataOffset data =>
      readsAt (registerBlock s) snTxWr (wordBytes models.tx.txWr) ++
        writesAt (txBlock s) ((models.tx.txWr + dataOffset) % registerRange) data ++
        writesAt (registerBlock s) snTxWr (wordBytes next.tx.txWritten)
  | .recv _ peek =>
      readsAt (registerBlock s) snRxRd (wordBytes models.rx.rxRd) ++
        readsAt (rxBlock s) models.rx.rxRd result ++
        if peek then [] else writesAt (registerBlock s) snRxRd (wordBytes next.rx.rxRd)

/-- The chip leaves the cells that the call reads. -/
def Transfer.Undisturbed (environment : Environment) (s : Nat) (models : Models) :
    Transfer → Prop
  | .send _ _ => True
  | .recv len _ => ∀ index < len,
      LeavesAlone environment (rxBlock s) ((models.rx.rxRd + index) % bufferSize)

/-- One call at the port, beside the call on the models. -/
structure Refines (environment : Environment) (port : Port) (s : Nat) (models : Models)
    (transfer : Transfer) (result : List UInt8 × Port) : Prop where
  trace : Trace port result.2 (transfer.accesses s models result.1)
  answer : transfer.Undisturbed environment s models → result.1 = (transfer.apply models).1
  pictures : Pictures environment result.2.memory s (transfer.apply models).2
  elsewhere : ∀ block offset, block ∉ [registerBlock s, txBlock s, rxBlock s] →
    LeavesAlone environment block offset → result.2.memory block offset = port.memory block offset

theorem Agrees.wordAt {memory bank : Memory} (agrees : Agrees environment memory bank)
    {block address : Nat} (leaves : LeavesWord environment block address) :
    SpiPort.wordAt memory block address = SpiPort.wordAt bank block address := by
  unfold SpiPort.wordAt
  rw [agrees _ _ leaves.1, agrees _ _ leaves.2]

/-- A word written to one pointer register leaves the other. -/
theorem wordAt_putWord_apart (memory : Memory) {address other value : Nat}
    (inRange : address + 1 < registerRange) (apart : address + 1 < other ∨ other + 1 < address) :
    wordAt (putWord memory (registerBlock s) address value) (registerBlock s) other =
      wordAt memory (registerBlock s) other := by
  rw [putWord_eq memory inRange]
  simp only [wordAt, writeCell, Function.update_self]
  rw [Function.update_of_ne (by omega), Function.update_of_ne (by omega),
    Function.update_of_ne (by omega), Function.update_of_ne (by omega)]

theorem putCells_of_ne (memory : Memory) {block other : Nat} (elsewhere : other ≠ block) (ptr : Nat)
    (data : List UInt8) : putCells memory block ptr data other = memory other := by
  rw [putCells_eq, Function.update_of_ne elsewhere]

variable {models : Models}

theorem send_refines (deselected : port.frame = .deselected)
    (owns : DriverOwns environment s models.tx.txWr)
    (pictures : Pictures environment port.memory s models) (dataOffset : Nat) (data : List UInt8) :
    Refines environment port s models (.send dataOffset data)
      ((Transfer.send dataOffset data).perform environment port s) := by
  obtain ⟨trace, agrees⟩ :=
    @sendDataProcessingOffset_spec environment port s deselected _ owns.txPointer dataOffset data
  refine ⟨trace, fun _ => rfl, ⟨?_, ?_, ?_⟩, ?_⟩
  · funext offset
    refine (agrees _ _ (owns.txMemory offset)).trans ?_
    rw [putWord_of_ne _ (by decide) (txBlock_ne s), putCells_eq, Function.update_self,
      txBlock_size, pictures.txMemory]
    rfl
  · intro offset alone
    refine (agrees _ _ alone).trans ?_
    rw [putWord_of_ne _ (by decide) (rxBlock_ne s), putCells_of_ne _ (rxBlock_ne_tx s)]
    exact pictures.rxMemory offset alone
  · refine (agrees.wordAt owns.rxPointer).trans ?_
    rw [wordAt_putWord_apart _ (by decide) (by decide), wordAt,
      putCells_of_ne _ (txBlock_ne s).symm]
    exact pictures.rxPointer
  · intro block offset outside alone
    simp only [List.mem_cons, List.not_mem_nil, or_false, not_or] at outside
    refine (agrees _ _ alone).trans ?_
    rw [putWord_of_ne _ (by decide) outside.1, putCells_of_ne _ outside.2.1]

theorem recv_refines (deselected : port.frame = .deselected)
    (owns : DriverOwns environment s models.tx.txWr)
    (pictures : Pictures environment port.memory s models) (len : Nat) (peek : Bool) :
    Refines environment port s models (.recv len peek)
      ((Transfer.recv len peek).perform environment port s) := by
  obtain ⟨trace, answer, agrees⟩ :=
    @recvDataProcessing_spec environment port s deselected owns.rxPointer len peek
  rw [pictures.rxPointer] at trace answer agrees
  have kept {block : Nat} (elsewhere : block ≠ registerBlock s) :
      (if peek then port.memory
        else putWord port.memory (registerBlock s) snRxRd
          ((models.rx.rxRd + len) % registerRange)) block = port.memory block := by
    cases peek with
    | true => rfl
    | false => exact putWord_of_ne _ (by decide) elsewhere
  have moved : wordAt (if peek then port.memory
      else putWord port.memory (registerBlock s) snRxRd ((models.rx.rxRd + len) % registerRange))
      (registerBlock s) snRxRd =
        ((Transfer.recv len peek).apply models).2.rx.rxRd := by
    cases peek with
    | true => exact pictures.rxPointer
    | false => exact wordAt_putWord _ (by decide) (mod_lt_registerRange _)
  have memories : ((Transfer.recv len peek).apply models).2.tx.memory = models.tx.memory ∧
      ((Transfer.recv len peek).apply models).2.rx.memory = models.rx.memory := by
    cases peek with
    | true => exact ⟨rfl, rfl⟩
    | false => exact ⟨rfl, rfl⟩
  refine ⟨?_, fun undisturbed => ?_, ⟨?_, ?_, ?_⟩, ?_⟩
  · cases peek with
    | true => exact trace
    | false => exact trace
  · refine (answer undisturbed).trans (List.map_congr_left fun index member => ?_)
    exact pictures.rxMemory _ (undisturbed index (List.mem_range.mp member))
  · rw [memories.1]
    funext offset
    refine (agrees _ _ (owns.txMemory offset)).trans ?_
    rw [kept (txBlock_ne s), pictures.txMemory]
  · intro offset alone
    refine (agrees _ _ alone).trans ?_
    rw [kept (rxBlock_ne s), memories.2]
    exact pictures.rxMemory offset alone
  · exact (agrees.wordAt owns.rxPointer).trans moved
  · intro block offset outside alone
    simp only [List.mem_cons, List.not_mem_nil, or_false, not_or] at outside
    refine (agrees _ _ alone).trans ?_
    rw [kept outside.1]

theorem Transfer.refines (deselected : port.frame = .deselected)
    (owns : DriverOwns environment s models.tx.txWr)
    (pictures : Pictures environment port.memory s models) (transfer : Transfer) :
    Refines environment port s models transfer (transfer.perform environment port s) := by
  cases transfer with
  | send dataOffset data => exact send_refines deselected owns pictures dataOffset data
  | recv len peek => exact recv_refines deselected owns pictures len peek

/-! ### Runs of transfers -/

variable (environment) in
def transferAll (port : Port) (s : Nat) : List Transfer → List (List UInt8) × Port
  | [] => ([], port)
  | transfer :: rest =>
      let (result, port) := transfer.perform environment port s
      let (later, port) := transferAll port s rest
      (result :: later, port)

def applyTransfers (models : Models) : List Transfer → List (List UInt8) × Models
  | [] => ([], models)
  | transfer :: rest =>
      let (result, models) := transfer.apply models
      let (later, models) := applyTransfers models rest
      (result :: later, models)

/-- The accesses of the calls with these results, in their order. -/
def madeBy (s : Nat) (models : Models) : List Transfer → List (List UInt8) → List Access
  | transfer :: rest, result :: later =>
      transfer.accesses s models result ++ madeBy s (transfer.apply models).2 rest later
  | _, _ => []

theorem Transfer.apply_txWr (models : Models) (transfer : Transfer) :
    (transfer.apply models).2.tx.txWr = models.tx.txWr := by
  cases transfer with
  | send dataOffset data => rfl
  | recv len peek =>
      cases peek with
      | true => rfl
      | false => rfl

/-- Every access of a call is to a block of its socket. -/
theorem Transfer.accesses_block (transfer : Transfer) (result : List UInt8) :
    ∀ access ∈ transfer.accesses s models result,
      access.block ∈ [registerBlock s, txBlock s, rxBlock s] := by
  intro access member
  cases transfer with
  | send dataOffset data =>
      rcases List.mem_append.mp member with before | pointer
      · rcases List.mem_append.mp before with read | copied
        · rw [readsAt_block access read]
          exact List.mem_cons_self ..
        · rw [writesAt_block access copied]
          exact List.mem_cons_of_mem _ (List.mem_cons_self ..)
      · rw [writesAt_block access pointer]
        exact List.mem_cons_self ..
  | recv len peek =>
      rcases List.mem_append.mp member with before | pointer
      · rcases List.mem_append.mp before with read | copied
        · rw [readsAt_block access read]
          exact List.mem_cons_self ..
        · rw [readsAt_block access copied]
          exact List.mem_cons_of_mem _ (List.mem_cons_of_mem _ (List.mem_cons_self ..))
      · cases peek with
        | true => cases pointer
        | false =>
            rw [writesAt_block access pointer]
            exact List.mem_cons_self ..

theorem madeBy_block (transfers : List Transfer) (results : List (List UInt8)) :
    ∀ access ∈ madeBy s models transfers results,
      access.block ∈ [registerBlock s, txBlock s, rxBlock s] := by
  induction transfers generalizing models results with
  | nil => exact List.forall_mem_nil _
  | cons transfer rest ih =>
      cases results with
      | nil => exact List.forall_mem_nil _
      | cons result later =>
          intro access member
          rcases List.mem_append.mp member with first | others
          · exact transfer.accesses_block result access first
          · exact ih later access others

/-- Whatever else the chip changes between any two bytes: calls of the two copying routines,
in any order and number, make exactly the accesses that their models tell, all to the blocks
of the socket; they leave its buffers and the read pointer, and every cell elsewhere, as
the models have them afterwards; and each call that reads only cells that the chip leaves
alone returns what the models return. -/
theorem transfers_refine (environment : Environment) {port : Port} {s : Nat} {models : Models}
    (deselected : port.frame = .deselected) (owns : DriverOwns environment s models.tx.txWr)
    (pictures : Pictures environment port.memory s models) (transfers : List Transfer) :
    let result := transferAll environment port s transfers
    let next := applyTransfers models transfers
    Trace port result.2 (madeBy s models transfers result.1) ∧
      (∀ access ∈ madeBy s models transfers result.1,
        access.block ∈ [registerBlock s, txBlock s, rxBlock s]) ∧
      Pictures environment result.2.memory s next.2 ∧
      (∀ block offset, block ∉ [registerBlock s, txBlock s, rxBlock s] →
        LeavesAlone environment block offset →
          result.2.memory block offset = port.memory block offset) ∧
      ∀ (index : Nat) (transfer : Transfer), transfers[index]? = some transfer →
        transfer.Undisturbed environment s (applyTransfers models (transfers.take index)).2 →
          result.1[index]? = next.1[index]? := by
  induction transfers generalizing port models with
  | nil =>
      exact ⟨⟨deselected, (List.append_nil _).symm⟩, List.forall_mem_nil _, pictures,
        fun _ _ _ _ => rfl, fun _ _ _ _ => rfl⟩
  | cons transfer rest ih =>
      have first := Transfer.refines deselected owns pictures transfer
      rw [← transfer.apply_txWr models] at owns
      obtain ⟨trace, _, after, elsewhere, answers⟩ := ih first.trace.deselected owns first.pictures
      refine ⟨first.trace.trans trace, madeBy_block _ _, after, ?_, ?_⟩
      · intro block offset outside alone
        exact (elsewhere block offset outside alone).trans
          (first.elsewhere block offset outside alone)
      · intro index other present undisturbed
        cases index with
        | zero =>
            obtain rfl : transfer = other := Option.some_inj.mp present
            exact congrArg some (first.answer undisturbed)
        | succ later => exact answers later other present undisturbed

/-- A chip that counts in the status register of its first socket and shows the write
pointer of the fourth. -/
def showingChip : Environment := fun clock memory =>
  putWord (busyChip clock memory) (registerBlock 3) snTxWr 2040

theorem showingChip_leaves {block offset : Nat} (counter : block ≠ registerBlock 0)
    (pointer : block ≠ registerBlock 3 ∨ offset ≠ snTxWr ∧ offset ≠ snTxWr + 1) :
    LeavesAlone showingChip block offset := by
  intro clock memory
  have busy : busyChip clock memory block offset = memory block offset := by
    simp only [busyChip, writeCell]
    rw [Function.update_of_ne counter]
  simp only [showingChip, putWord_eq _ (show snTxWr + 1 < registerRange by decide), writeCell]
  by_cases here : block = registerBlock 3
  · obtain ⟨high, low⟩ := pointer.resolve_left (not_not.mpr here)
    subst here
    rw [Function.update_self, Function.update_of_ne low, Function.update_self,
      Function.update_of_ne high]
    exact busy
  · rw [Function.update_of_ne here, Function.update_of_ne here]
    exact busy

theorem showingChip_owns : DriverOwns showingChip 3 2040 where
  txMemory := fun _ => showingChip_leaves (by decide) (.inl (by decide))
  txPointer := by
    intro clock memory
    simp only [showingChip, putWord_eq _ (show snTxWr + 1 < registerRange by decide), writeCell,
      Function.update_self]
    exact ⟨rfl, trivial⟩
  rxPointer := ⟨showingChip_leaves (by decide) (.inr (by decide)),
    showingChip_leaves (by decide) (.inr (by decide))⟩

/-- The two pieces of a datagram, across the end of the buffer, a peek and a read. -/
def pieces : List Transfer :=
  [.send 0 [1, 2, 3, 4, 5], .recv 1 true, .send 5 [6, 7, 8, 9], .recv 8 false]

theorem pieces_transfers :
    let models : Models :=
      ⟨⟨fun _ => 0, 2040, 2040, ⟨fun _ => 0⟩, 0, [], [], false, false⟩,
        ⟨fun _ => 0, 0, 0, 0, .udp, false⟩⟩
    let result := transferAll showingChip idlePort 3 pieces
    let next := applyTransfers models pieces
    Trace idlePort result.2 (madeBy 3 models pieces result.1) ∧
      (∀ access ∈ madeBy 3 models pieces result.1,
        access.block ∈ [registerBlock 3, txBlock 3, rxBlock 3]) ∧
      Pictures showingChip result.2.memory 3 next.2 ∧
      (∀ block offset, block ∉ [registerBlock 3, txBlock 3, rxBlock 3] →
        LeavesAlone showingChip block offset →
          result.2.memory block offset = idlePort.memory block offset) ∧
      ∀ (index : Nat) (transfer : Transfer), pieces[index]? = some transfer →
        transfer.Undisturbed showingChip 3 (applyTransfers models (pieces.take index)).2 →
          result.1[index]? = next.1[index]? := by
  intro models
  exact @transfers_refine showingChip idlePort 3 models rfl showingChip_owns
    ⟨rfl, fun _ _ => rfl, rfl⟩ pieces

end MSniff.Concrete.SpiPort
