/-
Runs of the reading calls against the chip. The buffer holds what is left of the
current datagram and behind it the waiting ones, header first; each look at the
received size is exact or finds nothing. So the calls are answered as a reader of
whole datagrams would answer them.
-/

import MSniff.Concrete.ReceiveBuffer
import MSniff.Concrete.TransmitRuns

namespace MSniff.Concrete.Receive

open CircularStore EthernetTask SocketTable Transmit

/-! ### Reading a growing register twice -/

/-- The register was at least `floor` when the loop began, and it grows. -/
def LoopSound (floor current : Nat) : ReceivedSize → Prop
  | .firstHigh val => val ≠ 0 → 0 < current
  | .firstLow val high => (val ≠ 0 → 0 < current) ∧
      ∃ first, floor ≤ first ∧ first ≤ current ∧ high = first / 256
  | .secondHigh val1 => ∃ first second, floor ≤ first ∧ first ≤ second ∧ second ≤ current ∧
      val1 = first / 256 * 256 + second % 256
  | .secondLow val1 high => ∃ first second third, floor ≤ first ∧ first ≤ second ∧
      second ≤ third ∧ third ≤ current ∧ val1 = first / 256 * 256 + second % 256 ∧
      high = third / 256

variable {floor current grown : Nat} {loop : ReceivedSize}

theorem LoopSound.start : LoopSound floor current (.firstHigh 0) := by
  intro nonzero
  exact absurd rfl nonzero

theorem LoopSound.grow (sound : LoopSound floor current loop) (grows : current ≤ grown) :
    LoopSound floor grown loop := by
  cases loop with
  | firstHigh val =>
      intro nonzero
      exact Nat.lt_of_lt_of_le (sound nonzero) grows
  | firstLow val high =>
      obtain ⟨positive, first, low, upper, exact⟩ := sound
      refine ⟨?_, first, low, Nat.le_trans upper grows, exact⟩
      intro nonzero
      exact Nat.lt_of_lt_of_le (positive nonzero) grows
  | secondHigh val1 =>
      obtain ⟨first, second, low, order, upper, exact⟩ := sound
      exact ⟨first, second, low, order, Nat.le_trans upper grows, exact⟩
  | secondLow val1 high =>
      obtain ⟨first, second, third, low, order, next, upper, exact⟩ := sound
      exact ⟨first, second, third, low, order, next, Nat.le_trans upper grows, exact⟩

/-- Two equal readings enclose a moment at which the register had that value. -/
theorem LoopSound.next (sound : LoopSound floor current loop) (low : floor ≤ current) :
    match loop.next current with
    | .inl loop => LoopSound floor current loop
    | .inr size => size = 0 ∨ floor ≤ size ∧ size ≤ current := by
  cases loop with
  | firstHigh val => exact ⟨sound, current, low, Nat.le_refl _, rfl⟩
  | firstLow val high =>
      obtain ⟨positive, first, lowFirst, upper, exact⟩ := sound
      by_cases zero : high * 256 + current % 256 = 0
      · by_cases different : val ≠ 0
        · simp only [FreeSize.next, zero, ne_eq, not_true_eq_false, if_false, different,
            not_false_eq_true, if_true]
          exact positive
        · simp only [FreeSize.next, zero, ne_eq, not_true_eq_false, if_false, different]
          exact .inl (Decidable.not_not.mp different)
      · simp only [FreeSize.next, ne_eq, zero, not_false_eq_true, if_true]
        exact ⟨first, current, lowFirst, upper, Nat.le_refl _, by rw [exact]⟩
  | secondHigh val1 =>
      obtain ⟨first, second, lowFirst, order, upper, exact⟩ := sound
      exact ⟨first, second, current, lowFirst, order, upper, Nat.le_refl _, exact, rfl⟩
  | secondLow val1 high =>
      obtain ⟨first, second, third, lowFirst, order, next, upper, exact, exactHigh⟩ := sound
      by_cases different : high * 256 + current % 256 ≠ val1
      · simp only [FreeSize.next, different, if_true, ne_eq, not_false_eq_true]
        intro nonzero
        omega
      · simp only [FreeSize.next, different, if_false]
        right
        omega

/-! ### What the buffer holds -/

def stream (waiting : List Inbound) : List UInt8 := (waiting.map Inbound.record).flatten

def Reader.unread (reader : Reader) : List UInt8 := reader.rest ++ stream reader.waiting

structure ChipSound (socket : Socket) (reader : Reader) : Prop where
  content : readCells bufferSize socket.memory socket.released reader.unread.length = reader.unread
  fits : reader.unread.length ≤ bufferSize
  inStep : socket.rxRd = socket.released
  taken : socket.snCr = false
  inRange : socket.released < registerRange
  wraps : socket.rxWr = (socket.released + reader.unread.length) % registerRange

variable {socket : Socket} {reader : Reader} {datagram : Inbound} {waiting : List Inbound}

theorem stream_append : stream (waiting ++ [datagram]) = stream waiting ++ datagram.record := by
  simp [stream]

theorem Reader.unread_arrive : (reader.arrive datagram).unread = reader.unread ++ datagram.record := by
  simp only [Reader.unread, Reader.arrive, stream_append, List.append_assoc]

theorem info_length : datagram.info.length = 8 := by
  simp [Inbound.info]

theorem record_length : datagram.record.length = 8 + datagram.payload.length := by
  rw [Inbound.record, List.length_append, info_length]

theorem ChipSound.rxRsr_eq (sound : ChipSound socket reader) :
    socket.rxRsr = reader.unread.length := by
  have fits := sound.fits
  have inRange := sound.inRange
  unfold Socket.rxRsr
  rw [sound.wraps]
  unfold registerRange bufferSize at *
  omega

theorem ChipSound.store (sound : ChipSound socket reader) (room : socket.hasRoom datagram) :
    ChipSound (socket.store datagram) (reader.arrive datagram) := by
  have fits : reader.unread.length + datagram.record.length ≤ bufferSize := by
    rw [← sound.rxRsr_eq]
    exact room
  constructor
  · have same : socket.rxWr ≡ socket.released + reader.unread.length [MOD bufferSize] := by
      rw [sound.wraps]
      exact register_modEq _
    simp only [Socket.store, Reader.unread_arrive, List.length_append]
    rw [writeCells_congr same, readCells_writeCells_behind _ _ fits, sound.content]
  · rw [Reader.unread_arrive, List.length_append]
    exact fits
  · exact sound.inStep
  · exact sound.taken
  · exact sound.inRange
  · simp only [Socket.store, Reader.unread_arrive, List.length_append, sound.wraps, Nat.mod_add_mod,
      Nat.add_assoc]

/-- Whatever is unread begins with what recv copies. -/
theorem ChipSound.recvDataProcessing_eq (sound : ChipSound socket reader) {len : Nat}
    (within : len ≤ reader.unread.length) :
    recvDataProcessing socket len = reader.unread.take len := by
  have content := sound.content
  obtain ⟨more, split⟩ := Nat.exists_eq_add_of_le within
  rw [split, readCells_append] at content
  have taken := congrArg (List.take len) content
  rw [List.take_append_of_le_length (by rw [readCells_length]), List.take_of_length_le
    (by rw [readCells_length])] at taken
  rw [recvDataProcessing, sound.inStep]
  exact taken

/-- What is left once the chip has taken the RECV. -/
theorem ChipSound.recv (sound : ChipSound socket reader) {len : Nat} {view : Reader}
    (within : len ≤ reader.unread.length) (left : view.unread = reader.unread.drop len) :
    ChipSound (socket.recv len).takeCommand view := by
  have content := sound.content
  have fits := sound.fits
  obtain ⟨more, split⟩ := Nat.exists_eq_add_of_le within
  have count : view.unread.length = more := by
    rw [left, List.length_drop, split, Nat.add_sub_cancel_left]
  have moved : (socket.recv len).takeCommand.released =
      (socket.released + len) % registerRange := by
    simp only [Socket.takeCommand, Socket.recv, if_true, sound.inStep]
  constructor
  · rw [split, readCells_append] at content
    have dropped := congrArg (List.drop len) content
    rw [List.drop_append_of_le_length (by rw [readCells_length]), List.drop_of_length_le
      (by rw [readCells_length]), List.nil_append] at dropped
    rw [count, moved, readCells_congr (register_modEq _), left]
    exact dropped
  · rw [count]
    omega
  · rfl
  · rfl
  · rw [moved]
    exact Nat.mod_lt _ (by decide)
  · rw [moved, count, Nat.mod_add_mod, Nat.add_assoc, ← split]
    exact sound.wraps

/-! ### The header -/

theorem bytes_of_word {value : Nat} (small : value < 65536) :
    (highByte value).toNat * 256 + (lowByte value).toNat = value := by
  simp only [highByte, lowByte, UInt8.toNat_ofNat']
  omega

theorem parseHeader_info (stack : Nat → UInt8) (small : datagram.payload.length < 65536) :
    parseHeader stack datagram.info =
      ⟨datagram.source, datagram.port.toNat, datagram.payload.length⟩ := by
  have address : (⟨fun place => writeBuffer stack datagram.info place⟩ : IPAddress) =
      datagram.source := by
    have places : (fun place : Fin 4 => writeBuffer stack datagram.info place) =
        datagram.source.bytes := by
      funext place
      match place with
      | 0 => rfl
      | 1 => rfl
      | 2 => rfl
      | 3 => rfl
    rw [places]
  have port : (writeBuffer stack datagram.info 4).toNat * 256 +
      (writeBuffer stack datagram.info 5).toNat = datagram.port.toNat :=
    bytes_of_word datagram.port.toNat_lt
  have length : (writeBuffer stack datagram.info 6).toNat * 256 +
      (writeBuffer stack datagram.info 7).toNat = datagram.payload.length := bytes_of_word small
  simp only [parseHeader, address, port, length]

/-! ### The calls -/

/-- What recv is to copy for its caller. -/
def Serves (view : Reader) (count : Nat) : Cause → Prop
  | .header => count = 8 ∧ view.rest = [] ∧ view.waiting ≠ []
  | .read => count = 1 ∧ view.rest ≠ []
  | .readBuf len => count = min len view.rest.length ∧ view.rest ≠ []
  | .flush _ => count = 1 ∧ view.rest ≠ []

def StageSound (count current : Nat) : Stage → Prop
  | .size loop => LoopSound count current loop
  | .status => True
  | .transfer ret => ret = count ∧ 0 < count
  | .await ret _ => ret = count ∧ 0 < count

def PointSound (view : Reader) : Point → Prop
  | .idle => True
  | .check loop => view.rest = [] ∧ LoopSound 0 view.unread.length loop
  | .receive cause len stage => ∃ count : Nat, len = count ∧ Serves view count cause ∧
      StageSound count view.unread.length stage

/-- A flush has thrown away part of what the caller has left. -/
def Settled (reader view : Reader) : Point → Prop
  | .idle => view = reader
  | .check _ => view.skip = reader.skip
  | .receive .header _ _ => view.skip = reader.skip
  | .receive (.flush _) _ _ => view.skip = reader.skip
  | .receive .read _ _ => view = reader
  | .receive (.readBuf _) _ _ => view = reader

/-- Behind a copy and before its end, the chip holds all or what the copy leaves, as it has
taken the RECV or not. -/
inductive Claimed (view : Reader) (ret : Nat) : Socket → Prop
  | commanded {base : Socket} (chip : ChipSound base view) : Claimed view ret (base.recv ret)
  | taken {socket : Socket} {left : Reader} (chip : ChipSound socket left)
      (behind : left.unread = view.unread.drop ret) : Claimed view ret socket

def Point.awaits : Point → Bool
  | .receive _ _ (.await _ _) => true
  | _ => false

def Held (view : Reader) (socket : Socket) : Point → Prop
  | .receive _ _ (.await ret bytes) => Claimed view ret socket ∧ bytes = view.unread.take ret
  | _ => ChipSound socket view

/-- `reader` is what the answered calls have left to the caller, `view` what the
driver has left of it. -/
structure Coherent (start reader view : Reader) (receiver : Receiver) : Prop where
  trace : start.Trace receiver.log reader
  held : Held view receiver.socket receiver.point
  udp : receiver.udp = ⟨view.remoteIP, view.remotePort, view.rest.length⟩
  point : PointSound view receiver.point
  settled : Settled reader view receiver.point

variable {start view : Reader} {receiver : Receiver} {stack : Nat → UInt8} {cause : Cause}

theorem int16_of_small {value : Nat} (small : value ≤ bufferSize) : int16 value = value := by
  unfold bufferSize at small
  apply Int.bmod_eq_of_le_mul_two
  · omega
  · omega

theorem Reader.rest_le_unread : reader.rest.length ≤ reader.unread.length := by
  rw [Reader.unread, List.length_append]
  exact Nat.le_add_right _ _

theorem Reader.unread_consume {count : Nat} (within : count ≤ reader.rest.length) :
    (reader.consume count).unread = reader.unread.drop count := by
  rw [Reader.unread, Reader.unread, List.drop_append_of_le_length within]
  rfl

theorem Reader.take_unread {count : Nat} (within : count ≤ reader.rest.length) :
    reader.unread.take count = reader.rest.take count := by
  rw [Reader.unread, List.take_append_of_le_length within]

theorem Reader.unread_of_next (done : reader.rest = []) (next : reader.waiting = datagram :: waiting) :
    reader.unread = datagram.info ++ (datagram.opened waiting).unread := by
  simp only [Reader.unread, done, next, stream, List.map_cons, List.flatten_cons, Inbound.record,
    Inbound.opened, List.nil_append, List.append_assoc]

theorem ChipSound.consume {socket : Socket} (sound : ChipSound socket reader) {count : Nat}
    (within : count ≤ reader.rest.length) :
    recvDataProcessing socket count = reader.rest.take count ∧
      ChipSound (socket.recv count).takeCommand (reader.consume count) := by
  have inBuffer : count ≤ reader.unread.length := Nat.le_trans within Reader.rest_le_unread
  constructor
  · rw [sound.recvDataProcessing_eq inBuffer, Reader.take_unread within]
  · exact sound.recv inBuffer (Reader.unread_consume within)

/-- The next eight bytes are the header of the next datagram. -/
theorem Reader.header_of_next (done : reader.rest = [])
    (next : reader.waiting = datagram :: waiting) :
    8 ≤ reader.unread.length ∧ reader.unread.take 8 = datagram.info ∧
      (datagram.opened waiting).unread = reader.unread.drop 8 := by
  have split := Reader.unread_of_next done next
  refine ⟨?_, ?_, ?_⟩
  · rw [split, List.length_append, info_length]
    exact Nat.le_add_right _ _
  · rw [split, ← @info_length datagram, List.take_left]
  · rw [split, ← @info_length datagram, List.drop_left]

/-- A datagram in the buffer is short enough for the two bytes of its length. -/
theorem parseHeader_of_next (stack : Nat → UInt8)
    (fits : (datagram.opened waiting).unread.length ≤ bufferSize) (done : reader.rest = [])
    (next : reader.waiting = datagram :: waiting) :
    parseHeader stack (reader.unread.take 8) =
      ⟨datagram.source, datagram.port.toNat, datagram.payload.length⟩ := by
  obtain ⟨_, info, _⟩ := Reader.header_of_next done next
  have small : datagram.payload.length < 65536 := by
    have payload : datagram.payload.length ≤ (datagram.opened waiting).unread.length :=
      @Reader.rest_le_unread (datagram.opened waiting)
    unfold bufferSize at fits
    omega
  rw [info]
  exact parseHeader_info stack small

theorem ChipSound.header {socket : Socket} (sound : ChipSound socket reader) (stack : Nat → UInt8)
    (done : reader.rest = []) (next : reader.waiting = datagram :: waiting) :
    8 ≤ reader.unread.length ∧
      parseHeader stack (recvDataProcessing socket 8) =
        ⟨datagram.source, datagram.port.toNat, datagram.payload.length⟩ ∧
      ChipSound (socket.recv 8).takeCommand (datagram.opened waiting) := by
  obtain ⟨whole, _, left⟩ := Reader.header_of_next done next
  have opened := sound.recv whole left
  rw [sound.recvDataProcessing_eq whole]
  exact ⟨whole, parseHeader_of_next stack opened.fits done next, opened⟩

theorem ChipSound.congr {socket : Socket} {view : Reader} (sound : ChipSound socket reader)
    (same : view.unread = reader.unread) : ChipSound socket view := by
  constructor
  · rw [same]
    exact sound.content
  · rw [same]
    exact sound.fits
  · exact sound.inStep
  · exact sound.taken
  · exact sound.inRange
  · rw [same]
    exact sound.wraps

theorem Serves.within {count : Nat} (serves : Serves view count cause) :
    count ≤ view.unread.length := by
  cases cause with
  | header =>
      obtain ⟨exact, done, present⟩ := serves
      cases next : view.waiting with
      | nil => exact absurd next present
      | cons datagram waiting =>
          rw [Reader.unread_of_next done next, List.length_append, info_length, exact]
          exact Nat.le_add_right _ _
  | read =>
      rw [serves.1]
      exact Nat.le_trans (List.length_pos_iff.mpr serves.2) Reader.rest_le_unread
  | readBuf len =>
      rw [serves.1]
      exact Nat.le_trans (Nat.min_le_right _ _) Reader.rest_le_unread
  | flush parsing =>
      rw [serves.1]
      exact Nat.le_trans (List.length_pos_iff.mpr serves.2) Reader.rest_le_unread

theorem coherent_answer {call : Call} {value : Int} {stored : List UInt8}
    (trace : start.Trace receiver.log reader) (chip : ChipSound receiver.socket view)
    (udp : receiver.udp = ⟨view.remoteIP, view.remotePort, view.rest.length⟩)
    (answers : reader.Answers call (view.reply value stored) view) :
    Coherent start view view (receiver.answer call value stored) := by
  constructor
  · simp only [Receiver.answer, udp]
    exact .answered trace answers
  · exact chip
  · exact udp
  · exact trivial
  · exact rfl

theorem coherent_enter {count : Nat} (trace : start.Trace receiver.log reader)
    (chip : ChipSound receiver.socket view)
    (udp : receiver.udp = ⟨view.remoteIP, view.remotePort, view.rest.length⟩)
    (serves : Serves view count cause)
    (settled : Settled reader view (receiver.enter cause count).point) :
    Coherent start reader view (receiver.enter cause count) := by
  constructor
  · exact trace
  · exact chip
  · exact udp
  · exact ⟨count, rfl, serves, @LoopSound.start count _⟩
  · exact settled

theorem coherent_flush (trace : start.Trace receiver.log reader)
    (chip : ChipSound receiver.socket view)
    (udp : receiver.udp = ⟨view.remoteIP, view.remotePort, view.rest.length⟩)
    (settled : view.skip = reader.skip) (parsing : Bool) :
    ∃ reader view, Coherent start reader view (receiver.flush parsing) := by
  by_cases done : view.rest = []
  · have exhausted : receiver.udp.remaining = 0 := by
      rw [udp, done]
      rfl
    cases parsing with
    | true =>
        refine ⟨reader, view, ?_⟩
        simp only [Receiver.flush, exhausted, ne_eq, not_true_eq_false, if_false, if_true]
        constructor
        · exact trace
        · exact chip
        · exact udp
        · exact ⟨done, LoopSound.start⟩
        · exact settled
    | false =>
        have skipped : view = reader.skip := by
          rw [← settled, Reader.skip, ← done]
        simp only [Receiver.flush, exhausted, ne_eq, not_true_eq_false, if_false,
          Bool.false_eq_true]
        refine ⟨view, view, coherent_answer trace chip udp ?_⟩
        rw [skipped]
        exact .flushed
  · have left : receiver.udp.remaining ≠ 0 := by
      rw [udp]
      exact fun empty => done (List.eq_nil_of_length_eq_zero empty)
    refine ⟨reader, view, ?_⟩
    simp only [Receiver.flush, left, ne_eq, not_false_eq_true, if_true]
    have serves : Serves view 1 (.flush parsing) := ⟨rfl, done⟩
    exact coherent_enter trace chip udp serves settled

theorem begin_readBuf (chip : ChipSound receiver.socket reader)
    (remaining : receiver.udp.remaining = reader.rest.length) (present : 0 < reader.rest.length)
    {len : Nat} :
    receiver.begin (.readBuf len) =
      receiver.enter (.readBuf len) (min len reader.rest.length : Nat) := by
  have clipped : (if reader.rest.length ≤ len then reader.rest.length else len) =
      min len reader.rest.length := by
    rw [Nat.min_comm, Nat.min_def]
  have small : min len reader.rest.length ≤ bufferSize :=
    Nat.le_trans (Nat.min_le_right _ _) (Nat.le_trans Reader.rest_le_unread chip.fits)
  simp only [Receiver.begin, remaining, present, if_true, clipped, int16_of_small small]

theorem begin_peek (chip : ChipSound receiver.socket reader)
    (remaining : receiver.udp.remaining = reader.rest.length) {first : UInt8} {rest : List UInt8}
    (content : reader.rest = first :: rest) :
    receiver.begin .peek = receiver.answer .peek first.toNat [] := by
  have some : 1 ≤ reader.rest.length := by
    rw [content]
    exact Nat.succ_pos _
  have peeked : recvDataProcessing receiver.socket 1 = [first] := by
    rw [(chip.consume some).1, content]
    rfl
  simp only [Receiver.begin, remaining, content, List.length_cons, Nat.succ_ne_zero, if_false, peeked]
  rfl

theorem Coherent.chip (coherent : Coherent start reader view receiver)
    (settled : receiver.point.awaits = false) : ChipSound receiver.socket view := by
  obtain ⟨socket, udp, point, log⟩ := receiver
  cases point with
  | receive cause len stage =>
      cases stage with
      | await ret bytes => cases settled
      | _ => exact coherent.held
  | _ => exact coherent.held

theorem Coherent.begin (coherent : Coherent start reader view receiver)
    (idle : receiver.point = .idle) (call : Call) :
    ∃ reader view, Coherent start reader view (receiver.begin call) := by
  have trace := coherent.trace
  have chip := coherent.chip (by rw [idle]; rfl)
  have udp := coherent.udp
  have settled := coherent.settled
  rw [idle] at settled
  change view = reader at settled
  subst view
  have remaining : receiver.udp.remaining = reader.rest.length := by rw [udp]
  cases call with
  | parsePacket => exact coherent_flush trace chip udp rfl true
  | flush => exact coherent_flush trace chip udp rfl false
  | read =>
      by_cases present : 0 < reader.rest.length
      · simp only [Receiver.begin, remaining, present, if_true]
        have serves : Serves reader 1 .read := ⟨rfl, List.ne_nil_of_length_pos present⟩
        exact ⟨reader, reader, coherent_enter trace chip udp serves rfl⟩
      · simp only [Receiver.begin, remaining, present, if_false]
        exact ⟨reader, reader, coherent_answer trace chip udp .noByte⟩
  | readBuf len =>
      by_cases present : 0 < reader.rest.length
      · rw [begin_readBuf chip remaining present]
        have serves : Serves reader (min len reader.rest.length) (.readBuf len) :=
          ⟨rfl, List.ne_nil_of_length_pos present⟩
        exact ⟨reader, reader, coherent_enter trace chip udp serves rfl⟩
      · simp only [Receiver.begin, remaining, present, if_false]
        exact ⟨reader, reader, coherent_answer trace chip udp .noBytes⟩
  | peek =>
      cases content : reader.rest with
      | nil =>
          simp only [Receiver.begin, remaining, content, List.length_nil, if_true]
          exact ⟨reader, reader, coherent_answer trace chip udp (.nothingToPeek content)⟩
      | cons first rest =>
          rw [begin_peek chip remaining content]
          exact ⟨reader, reader, coherent_answer trace chip udp (.peeked content)⟩

/-- recv has come back with nothing. -/
theorem Coherent.finish_nothing (coherent : Coherent start reader view receiver) {len ret : Int}
    {stage : Stage} (within : receiver.point = .receive cause len stage)
    (copied : receiver.point.awaits = false) (nothing : ret ≤ 0) :
    ∃ reader view, Coherent start reader view (receiver.finish stack ret [] cause) := by
  have trace := coherent.trace
  have chip := coherent.chip copied
  have udp := coherent.udp
  have settled := coherent.settled
  have point := coherent.point
  rw [within] at settled point
  obtain ⟨count, _, serves, _⟩ := point
  have notPositive : ¬ 0 < ret := Int.not_lt.mpr nothing
  cases cause with
  | header =>
      simp only [Receiver.finish, notPositive, if_false]
      have skipped : view = reader.skip := by
        rw [← show view.skip = reader.skip from settled, Reader.skip, ← serves.2.1]
      refine ⟨view, view, coherent_answer trace chip udp ?_⟩
      rw [skipped]
      exact .noPacket nothing
  | read =>
      simp only [Receiver.finish, notPositive, if_false]
      change view = reader at settled
      subst view
      exact ⟨reader, reader, coherent_answer trace chip udp .noByte⟩
  | readBuf len =>
      simp only [Receiver.finish, notPositive, if_false]
      change view = reader at settled
      subst view
      exact ⟨reader, reader, coherent_answer trace chip udp .noBytes⟩
  | flush parsing =>
      simp only [Receiver.finish, notPositive, if_false]
      exact coherent_flush trace chip udp settled parsing

theorem udp_took {count : Nat}
    (udp : receiver.udp = ⟨view.remoteIP, view.remotePort, view.rest.length⟩) :
    (receiver.took count).udp =
      ⟨(view.consume count).remoteIP, (view.consume count).remotePort,
        (view.consume count).rest.length⟩ := by
  simp only [Receiver.took, udp, Reader.consume, List.length_drop]

/-- recv has copied what it was called for, and the chip has taken the RECV. -/
theorem Coherent.finish_some (coherent : Coherent start reader view receiver) {len : Int} {ret : Nat}
    {bytes : List UInt8} (within : receiver.point = .receive cause len (.await ret bytes))
    (taken : receiver.socket.snCr = false) :
    ∃ reader view, Coherent start reader view (receiver.finish stack ret bytes cause) := by
  have trace := coherent.trace
  have udp := coherent.udp
  have settled := coherent.settled
  have point := coherent.point
  have held := coherent.held
  rw [within] at settled point held
  obtain ⟨count, _, serves, exact, positive⟩ := point
  obtain ⟨claimed, copied⟩ := held
  subst exact
  obtain ⟨left, chip, behind⟩ : ∃ left, ChipSound receiver.socket left ∧
      left.unread = view.unread.drop ret := by
    generalize receiver.socket = socket at claimed taken
    cases claimed with
    | commanded chip => cases taken
    | taken chip behind => exact ⟨_, chip, behind⟩
  have present : (0 : Int) < (ret : Int) := Int.natCast_pos.mpr positive
  cases cause with
  | header =>
      obtain ⟨eight, done, waits⟩ := serves
      cases next : view.waiting with
      | nil => exact absurd next waits
      | cons datagram waiting =>
          subst eight
          obtain ⟨_, _, same⟩ := Reader.header_of_next done next
          have opened := chip.congr (same.trans behind.symm)
          have header := parseHeader_of_next stack opened.fits done next
          have waits : reader.waiting = datagram :: waiting := by
            rw [← next]
            exact (congrArg Reader.waiting settled).symm
          rw [← copied] at header
          simp only [Receiver.finish, present, if_true, header]
          exact ⟨_, _, coherent_answer trace opened rfl (.opened waits)⟩
  | read =>
      obtain ⟨one, left⟩ := serves
      subst one
      change view = reader at settled
      subst view
      have inRest : 1 ≤ reader.rest.length := List.length_pos_iff.mpr left
      have consumed := chip.congr ((Reader.unread_consume inRest).trans behind.symm)
      rw [Reader.take_unread inRest] at copied
      cases content : reader.rest with
      | nil => exact absurd content left
      | cons first rest =>
          simp only [Receiver.finish, present, if_true, copied, content, List.take_succ_cons,
            List.take_zero]
          exact ⟨_, _, coherent_answer trace consumed (udp_took udp) (.byte content)⟩
  | readBuf len =>
      obtain ⟨exact, left⟩ := serves
      change view = reader at settled
      subst view
      have inRest : ret ≤ reader.rest.length := by
        rw [exact]
        exact Nat.min_le_right _ _
      have consumed := chip.congr ((Reader.unread_consume inRest).trans behind.symm)
      rw [Reader.take_unread inRest] at copied
      simp only [Receiver.finish, present, if_true, copied, Int.toNat_natCast]
      exact ⟨_, _, coherent_answer trace consumed (udp_took udp) (.bytes positive exact)⟩
  | flush parsing =>
      obtain ⟨one, left⟩ := serves
      subst one
      have inRest : 1 ≤ view.rest.length := List.length_pos_iff.mpr left
      have consumed := chip.congr ((Reader.unread_consume inRest).trans behind.symm)
      simp only [Receiver.finish, present, if_true]
      have skipped : (view.consume 1).skip = reader.skip := settled
      refine @coherent_flush reader start (view.consume 1) _ ?_ ?_ ?_ skipped parsing
      · exact trace
      · exact consumed
      · exact udp_took udp

theorem Settled.stage {len : Int} {stage other : Stage}
    (settled : Settled reader view (.receive cause len stage)) :
    Settled reader view (.receive cause len other) := by
  cases cause with
  | header => exact settled
  | read => exact settled
  | readBuf len => exact settled
  | flush parsing => exact settled

theorem Coherent.stage (coherent : Coherent start reader view receiver) {count : Nat}
    {stage other : Stage} {socket : Socket} (within : receiver.point = .receive cause count stage)
    (serves : Serves view count cause) (sound : StageSound count view.unread.length other)
    (held : Held view socket (.receive cause count other)) :
    Coherent start reader view
      { receiver with socket := socket, point := .receive cause count other } := by
  have settled := coherent.settled
  rw [within] at settled
  constructor
  · exact coherent.trace
  · exact held
  · exact coherent.udp
  · exact ⟨count, rfl, serves, sound⟩
  · exact settled.stage

/-- parsePacket looks for a datagram. -/
theorem Coherent.lookForPacket (coherent : Coherent start reader view receiver)
    {loop : ReceivedSize} (within : receiver.point = .check loop) :
    ∃ reader view, Coherent start reader view (advance stack receiver) := by
  have chip := coherent.chip (by rw [within]; rfl)
  have point := coherent.point
  have settled := coherent.settled
  rw [within] at point settled
  obtain ⟨done, sound⟩ := point
  have after := sound.next (Nat.zero_le _)
  simp only [Receive.advance, within, chip.rxRsr_eq]
  cases next : loop.next view.unread.length with
  | inl loop =>
      rw [next] at after
      exact ⟨reader, view, coherent.trace, chip, coherent.udp, ⟨done, after⟩, settled⟩
  | inr size =>
      rw [next] at after
      by_cases found : 0 < size
      · have waits : view.waiting ≠ [] := by
          intro none
          have empty : view.unread = [] := by
            rw [Reader.unread, done, none]
            rfl
          rw [empty, List.length_nil] at after
          omega
        simp only [found, if_true]
        have serves : Serves view 8 .header := ⟨rfl, done, waits⟩
        exact ⟨reader, view, coherent_enter coherent.trace chip coherent.udp serves settled⟩
      · have skipped : view = reader.skip := by
          rw [← show view.skip = reader.skip from settled, Reader.skip, ← done]
        simp only [found, if_false]
        refine ⟨view, view, coherent_answer coherent.trace chip coherent.udp ?_⟩
        rw [skipped]
        exact .noPacket (Int.le_refl 0)

/-- recv looks for how much there is. -/
theorem Coherent.lookForBytes (coherent : Coherent start reader view receiver) {len : Int}
    {loop : ReceivedSize} (within : receiver.point = .receive cause len (.size loop)) :
    ∃ reader view, Coherent start reader view (advance stack receiver) := by
  have copied : receiver.point.awaits = false := by
    rw [within]
    rfl
  have chip := coherent.chip copied
  have point := coherent.point
  rw [within] at point
  obtain ⟨count, exact, serves, sound⟩ := point
  subst exact
  have after := LoopSound.next sound serves.within
  simp only [Receive.advance, within, chip.rxRsr_eq]
  cases next : loop.next view.unread.length with
  | inl loop =>
      rw [next] at after
      exact ⟨reader, view, coherent.stage within serves after chip⟩
  | inr size =>
      rw [next] at after
      change size = 0 ∨ count ≤ size ∧ size ≤ view.unread.length at after
      have small : int16 size = size := by
        apply int16_of_small
        have fits := chip.fits
        omega
      by_cases found : size = 0
      · have none : int16 size = 0 := by
          rw [small, found]
          rfl
        simp only [none, if_true]
        exact ⟨reader, view, coherent.stage within serves trivial chip⟩
      · have some : int16 size ≠ 0 := by
          rw [small]
          exact Int.natCast_ne_zero.mpr found
        have clipped : (if (count : Int) < int16 size then (count : Int) else int16 size) =
            count := by
          rw [small]
          omega
        simp only [some, if_false, clipped]
        by_cases wanted : (0 : Int) < count
        · simp only [wanted, if_true, Int.toNat_natCast]
          have transfer : StageSound count view.unread.length (.transfer count) :=
            ⟨rfl, Int.natCast_pos.mp wanted⟩
          exact ⟨reader, view, coherent.stage within serves transfer chip⟩
        · simp only [wanted, if_false]
          exact coherent.finish_nothing within copied (Int.not_lt.mp wanted)

theorem Coherent.advance (coherent : Coherent start reader view receiver) :
    ∃ reader view, Coherent start reader view (advance stack receiver) := by
  have point := coherent.point
  cases within : receiver.point with
  | idle =>
      refine ⟨reader, view, ?_⟩
      simp only [Receive.advance, within]
      exact coherent
  | check loop => exact coherent.lookForPacket within
  | receive cause len stage =>
      cases stage with
      | size loop => exact coherent.lookForBytes within
      | status =>
          have copied : receiver.point.awaits = false := by
            rw [within]
            rfl
          simp only [Receive.advance, within]
          split
          · exact coherent.finish_nothing within copied (Int.le_refl 0)
          · exact coherent.finish_nothing within copied (Int.le_refl 0)
          · exact coherent.finish_nothing within copied (Int.le_refl 0)
          · exact coherent.finish_nothing within copied (by decide)
      | transfer ret =>
          have chip := coherent.chip (by rw [within]; rfl)
          rw [within] at point
          obtain ⟨count, exact, serves, same, positive⟩ := point
          subst exact same
          have bytes := chip.recvDataProcessing_eq serves.within
          simp only [Receive.advance, within]
          exact ⟨reader, view, coherent.stage within serves ⟨rfl, positive⟩ ⟨.commanded chip, bytes⟩⟩
      | await ret bytes =>
          simp only [Receive.advance, within]
          cases taken : receiver.socket.snCr with
          | true => exact ⟨reader, view, coherent⟩
          | false => exact coherent.finish_some within taken

/-- What the chip has taken is free for what arrives. -/
theorem Claimed.takeCommand {ret : Nat} {socket : Socket} (claimed : Claimed view ret socket)
    (within : ret ≤ view.unread.length) : Claimed view ret socket.takeCommand := by
  cases claimed with
  | @commanded base chip =>
      have left : (⟨view.unread.drop ret, view.remoteIP, view.remotePort, []⟩ : Reader).unread =
          view.unread.drop ret := List.append_nil _
      exact .taken (chip.recv within left) left
  | taken chip behind =>
      have same : socket.takeCommand = socket := by
        simp only [Socket.takeCommand, chip.taken, Bool.false_eq_true, if_false]
      rw [same]
      exact .taken chip behind

theorem Coherent.takeCommand (coherent : Coherent start reader view receiver) :
    Coherent start reader view { receiver with socket := receiver.socket.takeCommand } := by
  have held := coherent.held
  have point := coherent.point
  constructor
  · exact coherent.trace
  · cases awaits : receiver.point.awaits with
    | false =>
        have chip := coherent.chip awaits
        have same : receiver.socket.takeCommand = receiver.socket := by
          simp only [Socket.takeCommand, chip.taken, Bool.false_eq_true, if_false]
        rw [same]
        exact held
    | true =>
        obtain ⟨socket, udp, place, log⟩ := receiver
        cases place with
        | receive cause len stage =>
            cases stage with
            | await ret bytes =>
                obtain ⟨claimed, copied⟩ := held
                obtain ⟨count, _, serves, exact, _⟩ := point
                subst exact
                exact ⟨claimed.takeCommand serves.within, copied⟩
            | _ => cases awaits
        | _ => cases awaits
  · exact coherent.udp
  · exact point
  · exact coherent.settled

theorem Claimed.store {ret : Nat} {socket : Socket} (claimed : Claimed view ret socket)
    (within : ret ≤ view.unread.length) (room : socket.hasRoom datagram) :
    Claimed (view.arrive datagram) ret (socket.store datagram) := by
  cases claimed with
  | @commanded base chip => exact .commanded (chip.store room)
  | @taken _ left chip behind =>
      refine .taken (chip.store room) ?_
      rw [Reader.unread_arrive, Reader.unread_arrive, behind, List.drop_append_of_le_length within]

theorem Coherent.store (coherent : Coherent start reader view receiver)
    (room : receiver.socket.hasRoom datagram) :
    Coherent start (reader.arrive datagram) (view.arrive datagram)
      { receiver with
        socket := receiver.socket.store datagram
        log := receiver.log ++ [.arrived datagram] } := by
  have grows : view.unread.length ≤ (view.arrive datagram).unread.length := by
    rw [Reader.unread_arrive, List.length_append]
    exact Nat.le_add_right _ _
  have point := coherent.point
  have settled := coherent.settled
  constructor
  · exact .arrived coherent.trace datagram
  · have held := coherent.held
    cases awaits : receiver.point.awaits with
    | false =>
        have stored := (coherent.chip awaits).store room
        obtain ⟨socket, udp, place, log⟩ := receiver
        cases place with
        | receive cause len stage =>
            cases stage with
            | await ret bytes => cases awaits
            | _ => exact stored
        | _ => exact stored
    | true =>
        obtain ⟨socket, udp, place, log⟩ := receiver
        cases place with
        | receive cause len stage =>
            cases stage with
            | await ret bytes =>
                obtain ⟨claimed, copied⟩ := held
                obtain ⟨count, _, serves, exact, _⟩ := point
                subst exact
                refine ⟨claimed.store serves.within room, ?_⟩
                rw [Reader.unread_arrive, List.take_append_of_le_length serves.within]
                exact copied
            | _ => cases awaits
        | _ => cases awaits
  · exact coherent.udp
  · cases within : receiver.point with
    | idle => exact trivial
    | check loop =>
        rw [within] at point
        exact ⟨point.1, point.2.grow grows⟩
    | receive cause len stage =>
        rw [within] at point
        obtain ⟨count, exact, serves, sound⟩ := point
        refine ⟨count, exact, ?_, ?_⟩
        · cases cause with
          | header =>
              refine ⟨serves.1, serves.2.1, ?_⟩
              exact List.append_ne_nil_of_right_ne_nil _ (List.cons_ne_nil _ _)
          | read => exact serves
          | readBuf len => exact serves
          | flush parsing => exact serves
        · cases stage with
          | size loop => exact LoopSound.grow sound grows
          | status => exact trivial
          | transfer ret => exact sound
          | await ret bytes => exact sound
  · have same : view.skip = reader.skip → (view.arrive datagram).skip = (reader.arrive datagram).skip :=
      fun skipped => congrArg (fun reader => Reader.arrive reader datagram) skipped
    have equal : view = reader → view.arrive datagram = reader.arrive datagram :=
      fun whole => congrArg (fun reader => Reader.arrive reader datagram) whole
    cases within : receiver.point with
    | idle =>
        rw [within] at settled
        exact equal settled
    | check loop =>
        rw [within] at settled
        exact same settled
    | receive cause len stage =>
        rw [within] at settled
        cases cause with
        | header => exact same settled
        | read => exact equal settled
        | readBuf len => exact equal settled
        | flush parsing => exact same settled

theorem Coherent.step (coherent : Coherent start reader view receiver) (event : Event) :
    ∃ reader view, Coherent start reader view (step stack receiver event) := by
  cases event with
  | command => exact ⟨reader, view, coherent.takeCommand⟩
  | arrive datagram =>
      by_cases room : receiver.socket.hasRoom datagram
      · simp only [Receive.step, room, if_true]
        exact ⟨_, _, coherent.store room⟩
      · simp only [Receive.step, room, if_false]
        exact ⟨reader, view, coherent⟩
  | call call =>
      cases within : receiver.point with
      | idle =>
          simp only [Receive.step, within]
          exact coherent.begin within call
      | check loop =>
          simp only [Receive.step, within]
          exact ⟨reader, view, coherent⟩
      | receive cause len stage =>
          simp only [Receive.step, within]
          exact ⟨reader, view, coherent⟩
  | task => exact coherent.advance

/-! ### Runs -/

def Sound (start : Reader) (receiver : Receiver) : Prop :=
  ∃ reader view, Coherent start reader view receiver

theorem start_sound (memory : Nat → UInt8) (pointer : Fin registerRange) (remoteIP : IPAddress)
    (remotePort : Nat) :
    Sound (.fresh remoteIP remotePort) (.start memory pointer remoteIP remotePort) := by
  refine ⟨_, _, .start, ?_, rfl, trivial, rfl⟩
  constructor
  · rfl
  · exact Nat.zero_le _
  · rfl
  · rfl
  · exact pointer.isLt
  · exact (Nat.mod_eq_of_lt pointer.isLt).symm

theorem run_sound (sound : Sound start receiver) (stack : Nat → UInt8) (events : List Event) :
    Sound start (EventRun.run (step stack) receiver events) := by
  induction events generalizing receiver with
  | nil => exact sound
  | cons event rest ih =>
      obtain ⟨reader, view, coherent⟩ := sound
      exact ih (coherent.step event)

/-- However arrivals and register accesses interleave, the calls are answered as a
reader of whole datagrams may answer them: those opened are the ones that arrived
first, each with its own sender and length, and the bytes read are the first ones of
theirs. -/
theorem run_delivered (memory : Nat → UInt8) (pointer : Fin registerRange) (remoteIP : IPAddress)
    (remotePort : Nat) (stack : Nat → UInt8) (events : List Event) :
    let final := EventRun.run (step stack) (.start memory pointer remoteIP remotePort) events
    ∃ reader opened, (Reader.fresh remoteIP remotePort).Trace final.log reader ∧
      arrivals final.log = opened ++ reader.waiting ∧
      List.Forall₂ Delivered (receptions final.log) (visible opened) := by
  intro final
  obtain ⟨reader, view, coherent⟩ :=
    run_sound (start_sound memory pointer remoteIP remotePort) stack events
  obtain ⟨opened, accounted⟩ := coherent.trace.accounted
  exact ⟨reader, opened, coherent.trace, accounted.arrived, accounted.delivered⟩

end MSniff.Concrete.Receive
