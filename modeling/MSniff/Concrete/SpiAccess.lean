/-
What the driver's frames amount to: each data byte is one access to the cell meant, of the
block of the socket meant. On the cells that the chip leaves to the driver, calls at the
port are calls on a bank of cells.
-/

import MSniff.Concrete.SpiPort

namespace MSniff.Concrete.SpiPort

open CircularStore Receive SocketTable Transmit

variable {environment : Environment} {port : Port}

section Frames

variable {block address offset : Nat}

/-! ### The chip by itself -/

def elapse (environment : Environment) : Nat → Nat → Memory → Memory
  | _, 0, memory => memory
  | clock, count + 1, memory =>
      elapse environment (clock + 1) count (environment clock memory)

/-- The chip does not change the cell by itself. -/
def LeavesAlone (environment : Environment) (block offset : Nat) : Prop :=
  ∀ clock memory, environment clock memory block offset = memory block offset

theorem LeavesAlone.elapse (alone : LeavesAlone environment block offset) (clock count : Nat)
    (memory : Memory) :
    SpiPort.elapse environment clock count memory block offset = memory block offset := by
  induction count generalizing clock memory with
  | zero => rfl
  | succ count ih => exact (ih (clock + 1) (environment clock memory)).trans (alone clock memory)

/-! ### Headers -/

theorem cntlByte_toNat (s : Nat) {base : Nat} (small : base < 32) :
    (cntlByte s base).toNat = (s % maxSockNum) * 32 + base := by
  unfold cntlByte maxSockNum
  rw [UInt8.toNat_ofNat']
  omega

theorem header_address {addr : Nat} (inRange : addr < registerRange) :
    (highByte addr).toNat * 256 + (lowByte addr).toNat = addr := by
  unfold highByte lowByte registerRange at *
  rw [UInt8.toNat_ofNat', UInt8.toNat_ofNat']
  omega

/-- A header gives the chip the block, the address and the direction. -/
theorem transfLoop_header (deselected : port.frame = .deselected) {addr : Nat}
    (inRange : addr < registerRange) (cb : UInt8) :
    (transfLoop environment (setSS port) (header addr cb)).2 =
      { memory := elapse environment port.clock 3 port.memory
        frame := .data (cb.toNat / 8) addr (cb.toNat / 4 % 2 = 1)
        clock := port.clock + 3
        accesses := port.accesses } := by
  obtain ⟨memory, frame, clock, accesses⟩ := port
  cases deselected
  simp only [setSS, if_true, header, transfLoop, transf, header_address inRange]
  rfl

/-! ### Data -/

def writesAt (block : Nat) : Nat → List UInt8 → List Access
  | _, [] => []
  | address, value :: rest =>
      .write block (address % blockSize block) value :: writesAt block (address + 1) rest

def readsAt (block : Nat) : Nat → List UInt8 → List Access
  | _, [] => []
  | address, value :: rest =>
      .read block (address % blockSize block) value :: readsAt block (address + 1) rest

theorem blockSize_dvd (block : Nat) : blockSize block ∣ registerRange := by
  unfold blockSize
  split
  · exact Nat.dvd_refl _
  · decide

theorem offset_mod (block address : Nat) :
    address % registerRange % blockSize block = address % blockSize block :=
  Nat.mod_mod_of_dvd address (blockSize_dvd block)

/-- The bank of cells that the driver is to see. -/
def putCells (memory : Memory) (block : Nat) : Nat → List UInt8 → Memory
  | _, [] => memory
  | address, value :: rest =>
      putCells (writeCell memory block (address % blockSize block) value) block (address + 1) rest

def getCells (memory : Memory) (block address count : Nat) : List UInt8 :=
  readCells (blockSize block) (memory block) address count

theorem getCells_succ (memory : Memory) (block address count : Nat) :
    getCells memory block address (count + 1) =
      memory block (address % blockSize block) :: getCells memory block (address + 1) count := by
  rw [getCells, Nat.add_comm, readCells_append]
  rfl

theorem getCells_congr {memory other : Memory} {count : Nat}
    (same : ∀ index < count, memory block ((address + index) % blockSize block) =
      other block ((address + index) % blockSize block)) :
    getCells memory block address count = getCells other block address count :=
  List.map_congr_left fun index member => same index (List.mem_range.mp member)

theorem putCells_eq (memory : Memory) (block address : Nat) (buf : List UInt8) :
    putCells memory block address buf = Function.update memory block
      (writeCells (blockSize block) (memory block) address buf) := by
  induction buf generalizing memory address with
  | nil => exact (Function.update_eq_self block memory).symm
  | cons value rest ih =>
      rw [putCells, ih, writeCell, Function.update_self, Function.update_idem]
      rfl

theorem writeCell_congr {memory other : Memory} {cell : Nat} (same : memory cell offset = other cell offset)
    (block place : Nat) (value : UInt8) :
    writeCell memory block place value cell offset = writeCell other block place value cell offset := by
  unfold writeCell
  by_cases here : cell = block
  · subst here
    rw [Function.update_self, Function.update_self]
    by_cases there : offset = place
    · rw [there, Function.update_self, Function.update_self]
    · rw [Function.update_of_ne there, Function.update_of_ne there]
      exact same
  · rw [Function.update_of_ne here, Function.update_of_ne here]
    exact same

theorem putCells_congr {memory other : Memory} {cell : Nat} (same : memory cell offset = other cell offset)
    (block address : Nat) (buf : List UInt8) :
    putCells memory block address buf cell offset = putCells other block address buf cell offset := by
  induction buf generalizing memory other address with
  | nil => exact same
  | cons value rest ih => exact ih (writeCell_congr same block _ value) (address + 1)

/-- Data of a writing frame goes to the cells from its address on. -/
theorem transfLoop_write (buf : List UInt8)
    (writing : port.frame = .data block (address % registerRange) true) :
    let final := (transfLoop environment port buf).2
    final.accesses = port.accesses ++ writesAt block address buf ∧
      ∀ cell offset, LeavesAlone environment cell offset →
        final.memory cell offset = putCells port.memory block address buf cell offset := by
  induction buf generalizing port address with
  | nil => exact ⟨(List.append_nil _).symm, fun _ _ _ => rfl⟩
  | cons value rest ih =>
      obtain ⟨memory, frame, clock, accesses⟩ := port
      cases writing
      simp only [transfLoop, transf, offset_mod]
      obtain ⟨logged, cells⟩ := @ih
        { memory := writeCell (environment clock memory) block (address % blockSize block) value
          frame := .data block ((address % registerRange + 1) % registerRange) true
          clock := clock + 1
          accesses := accesses ++ [.write block (address % blockSize block) value] }
        (address + 1) (by rw [Nat.mod_add_mod])
      constructor
      · rw [logged, List.append_assoc]
        rfl
      · intro cell offset alone
        rw [cells cell offset alone]
        exact putCells_congr (writeCell_congr (alone clock memory) _ _ _) _ _ _

/-- Data of a reading frame comes from the cells from its address on. -/
theorem transfLoop_read (count : Nat)
    (reading : port.frame = .data block (address % registerRange) false) :
    let result := transfLoop environment port (List.replicate count 0)
    result.1.length = count ∧
      result.2.accesses = port.accesses ++ readsAt block address result.1 ∧
      ((∀ index < count, LeavesAlone environment block ((address + index) % blockSize block)) →
        result.1 = getCells port.memory block address count) ∧
      ∀ cell offset, LeavesAlone environment cell offset →
        result.2.memory cell offset = port.memory cell offset := by
  induction count generalizing port address with
  | zero =>
      refine ⟨rfl, (List.append_nil _).symm, fun _ => rfl, fun _ _ _ => rfl⟩
  | succ count ih =>
      obtain ⟨memory, frame, clock, accesses⟩ := port
      cases reading
      simp only [List.replicate_succ, transfLoop, transf, offset_mod]
      obtain ⟨length, logged, values, cells⟩ := @ih
        { memory := environment clock memory
          frame := .data block ((address % registerRange + 1) % registerRange) false
          clock := clock + 1
          accesses := accesses ++ [.read block (address % blockSize block)
            (environment clock memory block (address % blockSize block))] }
        (address + 1) (by rw [Nat.mod_add_mod])
      refine ⟨?_, ?_, ?_, ?_⟩
      · rw [List.length_cons, length]
      · rw [logged, List.append_assoc]
        rfl
      · intro alone
        have first : LeavesAlone environment block (address % blockSize block) :=
          alone 0 (Nat.succ_pos count)
        have later : ∀ index < count,
            LeavesAlone environment block ((address + 1 + index) % blockSize block) := by
          intro index inside
          have next := alone (index + 1) (Nat.succ_lt_succ inside)
          rw [← Nat.add_assoc, Nat.add_right_comm] at next
          exact next
        rw [values later, getCells_succ, first clock memory]
        congr 1
        exact getCells_congr fun index inside => later index inside clock memory
      · intro cell offset alone
        exact (cells cell offset alone).trans (alone clock memory)

/-! ### Whole frames -/

/-- A frame that writes does so to the cells from its address on. -/
theorem writeBuf_spec (deselected : port.frame = .deselected) {addr : Nat}
    (inRange : addr < registerRange) {cb : UInt8} (writing : cb.toNat / 4 % 2 = 1)
    (buf : List UInt8) :
    let final := writeBuf environment port addr cb buf
    final.frame = .deselected ∧
      final.accesses = port.accesses ++ writesAt (cb.toNat / 8) addr buf ∧
      ∀ cell offset, LeavesAlone environment cell offset →
        final.memory cell offset = putCells port.memory (cb.toNat / 8) addr buf cell offset := by
  have data := @transfLoop_header environment port deselected addr inRange cb
  rw [writing] at data
  obtain ⟨logged, cells⟩ := @transfLoop_write environment
    (transfLoop environment (setSS port) (header addr cb)).2 (cb.toNat / 8) addr buf
    (by rw [data, Nat.mod_eq_of_lt inRange]; rfl)
  refine ⟨rfl, ?_, fun cell offset alone => ?_⟩
  · have before := congrArg Port.accesses data
    exact logged.trans (congrArg (· ++ _) before)
  · refine (cells cell offset alone).trans (putCells_congr ?_ _ _ _)
    rw [data]
    exact alone.elapse _ _ _

theorem readBuf_spec (deselected : port.frame = .deselected) {addr : Nat}
    (inRange : addr < registerRange) {cb : UInt8} (reading : cb.toNat / 4 % 2 ≠ 1)
    (len : Nat) :
    let result := readBuf environment port addr cb len
    result.2.frame = .deselected ∧ result.1.length = len ∧
      result.2.accesses = port.accesses ++ readsAt (cb.toNat / 8) addr result.1 ∧
      ((∀ index < len, LeavesAlone environment (cb.toNat / 8)
          ((addr + index) % blockSize (cb.toNat / 8))) →
        result.1 = getCells port.memory (cb.toNat / 8) addr len) ∧
      ∀ cell offset, LeavesAlone environment cell offset →
        result.2.memory cell offset = port.memory cell offset := by
  have data := @transfLoop_header environment port deselected addr inRange cb
  rw [decide_eq_false reading] at data
  obtain ⟨length, logged, values, cells⟩ := @transfLoop_read environment
    (transfLoop environment (setSS port) (header addr cb)).2 (cb.toNat / 8) addr len
    (by rw [data, Nat.mod_eq_of_lt inRange])
  refine ⟨rfl, length, ?_, fun alone => ?_, fun cell offset alone => ?_⟩
  · have before := congrArg Port.accesses data
    exact logged.trans (congrArg (· ++ _) before)
  · refine (values alone).trans (getCells_congr fun index inside => ?_)
    rw [data]
    exact (alone index inside).elapse _ _ _
  · refine (cells cell offset alone).trans ?_
    rw [data]
    exact alone.elapse _ _ _

end Frames

/-! ### Calls -/

/-- The calls that the driver makes at the port, with what they pass. -/
inductive Call
  | readCommon (address size : Nat)
  | writeCommon (address : Nat) (buff : List UInt8)
  | readSn (s address len : Nat)
  | writeSn (s address : Nat) (buf : List UInt8)
  | writeTx (s ptr : Nat) (data : List UInt8)
  | readRx (s src len : Nat)

variable (environment) in
def Call.perform (port : Port) : Call → List UInt8 × Port
  | .readCommon address size => SpiPort.readCommon environment port address size
  | .writeCommon address buff => ([], SpiPort.writeCommon environment port address buff)
  | .readSn s address len => readSnBuf environment port s address len
  | .writeSn s address buf => ([], writeSnBuf environment port s address buf)
  | .writeTx s ptr data => ([], writeBuf environment port ptr (cntlByte s 0x14) data)
  | .readRx s src len => readData environment port s src len

/-- The block that a call is about, its first address, and what it writes or how much it
reads. -/
def Call.block : Call → Nat
  | .readCommon _ _ => commonBlock
  | .writeCommon _ _ => commonBlock
  | .readSn s _ _ => registerBlock s
  | .writeSn s _ _ => registerBlock s
  | .writeTx s _ _ => txBlock s
  | .readRx s _ _ => rxBlock s

def Call.address : Call → Nat
  | .readCommon address _ => address
  | .writeCommon address _ => address
  | .readSn _ address _ => address
  | .writeSn _ address _ => address
  | .writeTx _ ptr _ => ptr
  | .readRx _ src _ => src

def Call.data : Call → List UInt8 ⊕ Nat
  | .readCommon _ size => .inr size
  | .writeCommon _ buff => .inl buff
  | .readSn _ _ len => .inr len
  | .writeSn _ _ buf => .inl buf
  | .writeTx _ _ data => .inl data
  | .readRx _ _ len => .inr len

/-- The accesses that a call with this result is meant to make. -/
def Call.accesses (call : Call) (result : List UInt8) : List Access :=
  match call.data with
  | .inl buf => writesAt call.block call.address buf
  | .inr _ => readsAt call.block call.address result

/-- The call on a bank of cells. -/
def Call.apply (memory : Memory) (call : Call) : List UInt8 × Memory :=
  match call.data with
  | .inl buf => ([], putCells memory call.block call.address buf)
  | .inr len => (getCells memory call.block call.address len, memory)

/-- The chip leaves the cells that the call reads. -/
def Call.Undisturbed (environment : Environment) (call : Call) : Prop :=
  match call.data with
  | .inl _ => True
  | .inr len => ∀ index < len,
      LeavesAlone environment call.block ((call.address + index) % blockSize call.block)

structure Performed (environment : Environment) (port : Port) (call : Call)
    (result : List UInt8 × Port) : Prop where
  deselected : result.2.frame = .deselected
  accesses : result.2.accesses = port.accesses ++ call.accesses result.1
  answers : call.Undisturbed environment → result.1 = (call.apply port.memory).1
  cells : ∀ cell offset, LeavesAlone environment cell offset →
    result.2.memory cell offset = (call.apply port.memory).2 cell offset

theorem cntlByte_block (s : Nat) {base : Nat} (small : base < 32) :
    (cntlByte s base).toNat / 8 = 4 * (s % maxSockNum) + base / 8 := by
  rw [cntlByte_toNat s small]
  omega

theorem cntlByte_direction (s : Nat) {base : Nat} (small : base < 32) :
    (cntlByte s base).toNat / 4 % 2 = base / 4 % 2 := by
  rw [cntlByte_toNat s small]
  omega

theorem performed_write (deselected : port.frame = .deselected) {call : Call} {cb : UInt8}
    {buf : List UInt8} (inRange : call.address < registerRange) (writes : call.data = .inl buf)
    (block : cb.toNat / 8 = call.block) (writing : cb.toNat / 4 % 2 = 1) :
    Performed environment port call ([], writeBuf environment port call.address cb buf) := by
  obtain ⟨ended, logged, cells⟩ :=
    @writeBuf_spec environment port deselected call.address inRange cb writing buf
  rw [block] at logged cells
  constructor
  · exact ended
  · simp only [Call.accesses, writes]
    exact logged
  · intro _
    simp only [Call.apply, writes]
  · simp only [Call.apply, writes]
    exact cells

theorem performed_read (deselected : port.frame = .deselected) {call : Call} {cb : UInt8}
    {len : Nat} (inRange : call.address < registerRange) (reads : call.data = .inr len)
    (block : cb.toNat / 8 = call.block) (reading : cb.toNat / 4 % 2 ≠ 1) :
    Performed environment port call (readBuf environment port call.address cb len) := by
  obtain ⟨ended, _, logged, values, cells⟩ :=
    @readBuf_spec environment port deselected call.address inRange cb reading len
  rw [block] at logged values
  constructor
  · exact ended
  · simp only [Call.accesses, reads]
    exact logged
  · simp only [Call.Undisturbed, Call.apply, reads]
    exact values
  · simp only [Call.apply, reads]
    exact cells

theorem Call.performed (call : Call) (inRange : call.address < registerRange)
    (deselected : port.frame = .deselected) :
    Performed environment port call (call.perform environment port) := by
  cases call with
  | readCommon address size => exact performed_read deselected inRange rfl rfl (by decide)
  | writeCommon address buff => exact performed_write deselected inRange rfl rfl rfl
  | readSn s address len =>
      apply performed_read deselected inRange rfl (cntlByte_block s (by decide))
      rw [cntlByte_direction s (by decide)]
      decide
  | writeSn s address buf =>
      exact performed_write deselected inRange rfl (cntlByte_block s (by decide))
        (cntlByte_direction s (by decide))
  | writeTx s ptr data =>
      exact performed_write deselected inRange rfl (cntlByte_block s (by decide))
        (cntlByte_direction s (by decide))
  | readRx s src len =>
      apply performed_read deselected inRange rfl (cntlByte_block s (by decide))
      rw [cntlByte_direction s (by decide)]
      decide

/-! ### Runs of calls -/

variable (environment) in
def performAll (port : Port) : List Call → List (List UInt8) × Port
  | [] => ([], port)
  | call :: rest =>
      let (result, port) := call.perform environment port
      let (later, port) := performAll port rest
      (result :: later, port)

def applyAll (memory : Memory) : List Call → List (List UInt8) × Memory
  | [] => ([], memory)
  | call :: rest =>
      let (result, memory) := call.apply memory
      let (later, memory) := applyAll memory rest
      (result :: later, memory)

/-- The bank has in it what the chip has in the cells that it leaves to the driver. -/
def Agrees (environment : Environment) (memory bank : Memory) : Prop :=
  ∀ cell offset, LeavesAlone environment cell offset → memory cell offset = bank cell offset

theorem Agrees.answers {memory bank : Memory} (agrees : Agrees environment memory bank) {call : Call}
    (undisturbed : call.Undisturbed environment) : (call.apply memory).1 = (call.apply bank).1 := by
  unfold Call.Undisturbed at undisturbed
  unfold Call.apply
  cases data : call.data with
  | inl buf => rfl
  | inr len =>
      rw [data] at undisturbed
      exact getCells_congr fun index inside => agrees _ _ (undisturbed index inside)

theorem Agrees.cells {memory bank : Memory} (agrees : Agrees environment memory bank) (call : Call) :
    Agrees environment (call.apply memory).2 (call.apply bank).2 := by
  intro cell offset alone
  unfold Call.apply
  cases call.data with
  | inl buf => exact putCells_congr (agrees cell offset alone) _ _ _
  | inr len => exact agrees cell offset alone

/-- Whatever the chip changes by itself between the bytes: the calls make the accesses
meant, in their order, and leave the port free. In the cells that it leaves to the driver
the chip has afterwards what a bank of cells has, and each call that reads only such cells
is answered as the bank answers it, whatever the others read. -/
theorem run_calls (environment : Environment) {port : Port} (deselected : port.frame = .deselected)
    (bank : Memory) (agrees : Agrees environment port.memory bank) (calls : List Call)
    (inRange : ∀ call ∈ calls, call.address < registerRange) :
    let result := performAll environment port calls
    result.2.frame = .deselected ∧ result.1.length = calls.length ∧
      result.2.accesses = port.accesses ++ (List.zipWith Call.accesses calls result.1).flatten ∧
      (∀ (index : Nat) (call : Call), calls[index]? = some call → call.Undisturbed environment →
        result.1[index]? = (applyAll bank calls).1[index]?) ∧
      Agrees environment result.2.memory (applyAll bank calls).2 := by
  induction calls generalizing port bank with
  | nil => exact ⟨deselected, rfl, (List.append_nil _).symm, fun _ _ _ _ => rfl, agrees⟩
  | cons call rest ih =>
      obtain ⟨first, others⟩ := List.forall_mem_cons.mp inRange
      have performed := @Call.performed environment port call first deselected
      have after : Agrees environment (call.perform environment port).2.memory
          (call.apply bank).2 := fun cell offset alone =>
        (performed.cells cell offset alone).trans (agrees.cells call cell offset alone)
      obtain ⟨ended, length, logged, answers, cells⟩ := ih performed.deselected _ after others
      refine ⟨ended, congrArg (· + 1) length, ?_, fun index other present undisturbed => ?_, cells⟩
      · simp only [performAll]
        rw [logged, performed.accesses, List.zipWith_cons_cons, List.flatten_cons,
          List.append_assoc]
      · cases index with
        | zero =>
            obtain rfl : call = other := Option.some_inj.mp present
            exact congrArg some ((performed.answers undisturbed).trans (agrees.answers undisturbed))
        | succ later => exact answers later other present undisturbed

/-- A chip that keeps counting in the status register of its first socket. -/
def busyChip : Environment := fun clock memory =>
  writeCell memory (registerBlock 0) 3 (UInt8.ofNat clock)

def idlePort : Port := ⟨fun _ _ => 0, .deselected, 0, []⟩

/-- A look at that register, a write that wraps around in the buffer, and a read. -/
def mixedCalls : List Call := [.readSn 0 3 1, .writeTx 0 65535 [1, 2], .readRx 8 5 2]

theorem mixedCalls_run :
    let result := performAll busyChip idlePort mixedCalls
    result.2.frame = .deselected ∧ result.1.length = mixedCalls.length ∧
      result.2.accesses =
        idlePort.accesses ++ (List.zipWith Call.accesses mixedCalls result.1).flatten ∧
      (∀ (index : Nat) (call : Call), mixedCalls[index]? = some call → call.Undisturbed busyChip →
        result.1[index]? = (applyAll idlePort.memory mixedCalls).1[index]?) ∧
      Agrees busyChip result.2.memory (applyAll idlePort.memory mixedCalls).2 := by
  apply run_calls busyChip rfl idlePort.memory (fun _ _ _ => rfl)
  simp only [mixedCalls, List.forall_mem_cons]
  exact ⟨by decide, by decide, by decide, List.forall_mem_nil _⟩

end MSniff.Concrete.SpiPort
