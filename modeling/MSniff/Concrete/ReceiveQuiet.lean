/-
Reading calls during which nothing arrives. Each is answered with what there is, after
a number of register accesses that depends on nothing else, the looks at a RECV that the
chip has not taken apart.
-/

import MSniff.Concrete.ReceiveProgress

namespace MSniff.Concrete.Receive

open CircularStore EthernetTask SocketTable Transmit

/-! ### The undisturbed reader -/

def Reader.respond (reader : Reader) : Call → Reply × Reader
  | .parsePacket =>
      match reader.waiting with
      | [] => (reader.skip.reply 0 [], reader.skip)
      | datagram :: waiting =>
          ((datagram.opened waiting).reply datagram.payload.length [], datagram.opened waiting)
  | .read =>
      match reader.rest with
      | [] => (reader.reply (-1) [], reader)
      | first :: _ => ((reader.consume 1).reply first.toNat [], reader.consume 1)
  | .readBuf len =>
      let count := min len reader.rest.length
      if 0 < count then
        ((reader.consume count).reply count (reader.rest.take count), reader.consume count)
      else (reader.reply (-1) [], reader)
  | .peek =>
      match reader.rest with
      | [] => (reader.reply (-1) [], reader)
      | first :: _ => (reader.reply first.toNat [], reader)
  | .flush => (reader.skip.reply 0 [], reader.skip)

/-- Two reads of the size for nothing, or four of them and the header; eleven accesses for
each recv that copies, four to read the size, six for the copy and its RECV and the look at
Sn_CR that finds it taken. -/
def Reader.accesses (reader : Reader) : Call → Nat
  | .parsePacket => 11 * reader.rest.length + (if reader.waiting.length = 0 then 2 else 15)
  | .read => if reader.rest.length = 0 then 0 else 11
  | .readBuf len => if reader.rest.length = 0 then 0 else if len = 0 then 4 else 11
  | .peek => if reader.rest.length = 0 then 0 else 3
  | .flush => 11 * reader.rest.length

theorem Reader.answers_respond (reader : Reader) (call : Call) :
    reader.Answers call (reader.respond call).1 (reader.respond call).2 := by
  cases call with
  | parsePacket =>
      cases next : reader.waiting with
      | nil =>
          simp only [Reader.respond, next]
          exact .noPacket (Int.le_refl 0)
      | cons datagram waiting =>
          simp only [Reader.respond, next]
          exact .opened next
  | read =>
      cases next : reader.rest with
      | nil =>
          simp only [Reader.respond, next]
          exact .noByte
      | cons first rest =>
          simp only [Reader.respond, next]
          exact .byte next
  | readBuf len =>
      by_cases positive : 0 < min len reader.rest.length
      · simp only [Reader.respond, positive, if_true]
        exact .bytes positive rfl
      · simp only [Reader.respond, positive, if_false]
        exact .noBytes
  | peek =>
      cases next : reader.rest with
      | nil =>
          simp only [Reader.respond, next]
          exact .nothingToPeek next
      | cons first rest =>
          simp only [Reader.respond, next]
          exact .peeked next
  | flush => exact .flushed

/-! ### Undisturbed accesses -/

/-- A turn of the task, or the chip takes a command. -/
def Event.quiet : Event → Prop
  | .task => True
  | .command => True
  | .arrive _ => False
  | .call _ => False

/-- What a call comes to where nothing arrives. -/
abbrev Quiet (stack : Nat → UInt8) (receiver : Receiver) (amount : Nat)
    (Goal : Receiver → Prop) : Prop :=
  EventRun.Leads (step stack) accesses Event.quiet receiver amount Goal

variable {start reader view : Reader} {receiver after : Receiver} {cause : Cause}
  {stack : Nat → UInt8} {Goal : Receiver → Prop} {amount cost : Nat}

theorem takeCommand_of_taken {socket : Socket} (taken : socket.snCr = false) :
    socket.takeCommand = socket := by
  simp only [Socket.takeCommand, taken, Bool.false_eq_true, if_false]

theorem quiet_idle (idle : receiver.point = .idle) (taken : receiver.socket.snCr = false)
    (reached : Goal receiver) : Quiet stack receiver 0 Goal := by
  apply EventRun.Leads.stay _ reached
  intro event quiet
  cases event with
  | task =>
      constructor
      · simp only [step, advance, idle]
      · simp only [accesses, idle]
  | command =>
      refine ⟨?_, rfl⟩
      simp only [step, takeCommand_of_taken taken]
  | arrive datagram => cases quiet
  | call call => cases quiet

/-- With no RECV to take there is only the task's step. -/
theorem quiet_task (taken : receiver.socket.snCr = false)
    (costs : accesses receiver .task = cost) (positive : 0 < cost)
    (next : step stack receiver .task = after) (later : Quiet stack after amount Goal) :
    Quiet stack receiver (amount + cost) Goal := by
  apply EventRun.Leads.step (Nat.add_pos_right _ positive)
  intro event quiet
  cases event with
  | task =>
      refine .inr ⟨amount, ?_, ?_⟩
      · rw [costs]
      · rw [next]
        exact later
  | command =>
      refine .inl ⟨?_, rfl⟩
      simp only [step, takeCommand_of_taken taken]
  | arrive datagram => cases quiet
  | call call => cases quiet

theorem quiet_access (taken : receiver.socket.snCr = false)
    (costs : accesses receiver .task = 1) (next : step stack receiver .task = after)
    (later : Quiet stack after amount Goal) : Quiet stack receiver (amount + 1) Goal :=
  quiet_task taken costs Nat.one_pos next later

/-- However often the task looks, it goes on when the chip has taken the RECV. -/
theorem quiet_await {len : Int} {ret : Nat} {bytes : List UInt8}
    (within : receiver.point = .receive cause len (.await ret bytes))
    (commanded : receiver.socket.snCr = true)
    (later : Quiet stack { receiver with socket := receiver.socket.takeCommand } (amount + 1) Goal) :
    Quiet stack receiver (amount + 1) Goal := by
  apply EventRun.Leads.step (Nat.succ_pos _)
  intro event quiet
  cases event with
  | task =>
      left
      simp only [step, advance, accesses, within, commanded, if_true, and_self]
  | command => exact .inr ⟨amount + 1, rfl, later⟩
  | arrive datagram => cases quiet
  | call call => cases quiet

/-- The block, its pointer and the RECV, and behind them the look that finds it taken. -/
theorem quiet_copy {len : Int} {ret : Nat} (taken : receiver.socket.snCr = false)
    (within : receiver.point = .receive cause len (.transfer ret))
    (later : Quiet stack
      ({ receiver with
        socket := (receiver.socket.recv ret).takeCommand
        point := .receive cause len (.await ret (recvDataProcessing receiver.socket ret)) }.finish
          stack ret (recvDataProcessing receiver.socket ret) cause) amount Goal) :
    Quiet stack receiver (amount + 7) Goal := by
  let awaiting (socket : Socket) : Receiver :=
    { receiver with
      socket := socket
      point := .receive cause len (.await ret (recvDataProcessing receiver.socket ret)) }
  have copies : step stack receiver .task = awaiting (receiver.socket.recv ret) := by
    simp only [step, advance, within, awaiting]
  have looks : Quiet stack (awaiting (receiver.socket.recv ret).takeCommand) (amount + 1) Goal :=
    quiet_access rfl rfl rfl later
  have waits : Quiet stack (awaiting (receiver.socket.recv ret)) (amount + 1) Goal :=
    quiet_await rfl rfl looks
  have costs : accesses receiver .task = 6 := by simp only [accesses, within]
  have copied : Quiet stack receiver (amount + 1 + 6) Goal :=
    quiet_task taken costs (Nat.succ_pos 5) copies waits
  exact copied

theorem next_firstLow {size : Nat} (present : size ≠ 0) :
    FreeSize.next size (.firstLow 0 (size / 256)) = .inl (.secondHigh size) := by
  have whole : size / 256 * 256 + size % 256 = size := Nat.div_add_mod' _ _
  simp only [FreeSize.next, whole, present, ne_eq, not_false_eq_true, if_true]

theorem next_secondLow {size : Nat} :
    FreeSize.next size (.secondLow size (size / 256)) = .inr size := by
  have whole : size / 256 * 256 + size % 256 = size := Nat.div_add_mod' _ _
  simp only [FreeSize.next, whole, ne_eq, not_true_eq_false, if_false]

theorem next_of_empty {size : Nat} (empty : size = 0) :
    FreeSize.next size (.firstLow 0 (size / 256)) = .inr 0 := by
  subst empty
  rfl

variable {len : Int} {loop further : ReceivedSize} {size count : Nat}

theorem advance_further (stack : Nat → UInt8) (within : receiver.point = .receive cause len (.size loop))
    (next : loop.next receiver.socket.rxRsr = .inl further) :
    step stack receiver .task = { receiver with point := .receive cause len (.size further) } := by
  simp only [step, advance, within, next]

theorem advance_found (stack : Nat → UInt8)
    (within : receiver.point = .receive cause count (.size loop))
    (next : loop.next receiver.socket.rxRsr = .inr size) (positive : 0 < count)
    (present : count ≤ size) (small : size ≤ bufferSize) :
    step stack receiver .task =
      { receiver with point := .receive cause count (.transfer count) } := by
  have some : (size : Int) ≠ 0 := by omega
  have clipped : (if (count : Int) < (size : Int) then (count : Int) else (size : Int)) = count := by
    omega
  have wanted : (0 : Int) < count := Int.natCast_pos.mpr positive
  simp only [step, advance, within, next, int16_of_small small, some, if_false, clipped, wanted,
    if_true, Int.toNat_natCast]

theorem advance_unwanted (stack : Nat → UInt8)
    (within : receiver.point = .receive (.readBuf count) 0 (.size loop))
    (next : loop.next receiver.socket.rxRsr = .inr size) (present : size ≠ 0)
    (small : size ≤ bufferSize) :
    step stack receiver .task = receiver.answer (.readBuf count) (-1) [] := by
  have some : (size : Int) ≠ 0 := Int.natCast_ne_zero.mpr present
  have clipped : (if (0 : Int) < (size : Int) then (0 : Int) else (size : Int)) = 0 := by omega
  have none : ¬ (0 : Int) < 0 := Int.lt_irrefl 0
  simp only [step, advance, within, next, int16_of_small small, some, if_false, clipped, none,
    Receiver.finish]

theorem check_further (stack : Nat → UInt8) (within : receiver.point = .check loop)
    (next : loop.next receiver.socket.rxRsr = .inl further) :
    step stack receiver .task = { receiver with point := .check further } := by
  simp only [step, advance, within, next]

theorem check_found (stack : Nat → UInt8) (within : receiver.point = .check loop)
    (next : loop.next receiver.socket.rxRsr = .inr size) (present : size ≠ 0) :
    step stack receiver .task = receiver.enter .header 8 := by
  have some : 0 < size := Nat.pos_of_ne_zero present
  simp only [step, advance, within, next, some, if_true]

theorem check_none (stack : Nat → UInt8) (within : receiver.point = .check loop)
    (next : loop.next receiver.socket.rxRsr = .inr 0) :
    step stack receiver .task = receiver.answer .parsePacket 0 [] := by
  simp only [step, advance, within, next, Nat.lt_irrefl, if_false]

/-- Three reads of a size that stays the same. -/
theorem quiet_size {len : Int} (taken : receiver.socket.snCr = false)
    (exact : receiver.socket.rxRsr = size) (present : size ≠ 0)
    (later : Quiet stack
      { receiver with point := .receive cause len (.size (.secondLow size (size / 256))) }
      amount Goal) : Quiet stack (receiver.enter cause len) (amount + 3) Goal := by
  subst exact
  let looking (loop : ReceivedSize) : Receiver :=
    { receiver with point := .receive cause len (.size loop) }
  have first : step stack (receiver.enter cause len) .task =
      looking (.firstLow 0 (receiver.socket.rxRsr / 256)) := advance_further stack rfl rfl
  have second : step stack (looking (.firstLow 0 (receiver.socket.rxRsr / 256))) .task =
      looking (.secondHigh receiver.socket.rxRsr) :=
    advance_further stack rfl (next_firstLow present)
  have third : step stack (looking (.secondHigh receiver.socket.rxRsr)) .task =
      looking (.secondLow receiver.socket.rxRsr (receiver.socket.rxRsr / 256)) :=
    advance_further stack rfl rfl
  have fromThird : Quiet stack (looking (.secondHigh receiver.socket.rxRsr)) (amount + 1) Goal :=
    quiet_access taken rfl third later
  have fromSecond : Quiet stack (looking (.firstLow 0 (receiver.socket.rxRsr / 256))) (amount + 2)
      Goal := quiet_access taken rfl second fromThird
  exact quiet_access taken rfl first fromSecond

theorem quiet_enter (taken : receiver.socket.snCr = false) (exact : receiver.socket.rxRsr = size)
    (positive : 0 < count) (present : count ≤ size) (small : size ≤ bufferSize)
    (later : Quiet stack
      ({ receiver with
        socket := (receiver.socket.recv count).takeCommand
        point := .receive cause count (.await count (recvDataProcessing receiver.socket count))
        }.finish stack count (recvDataProcessing receiver.socket count) cause) amount Goal) :
    Quiet stack (receiver.enter cause count) (amount + 11) Goal := by
  have found := @advance_found
    { receiver with point := .receive cause count (.size (.secondLow size (size / 256))) } cause
    (.secondLow size (size / 256)) size count stack rfl (exact ▸ next_secondLow) positive present small
  have copies := @quiet_copy { receiver with point := .receive cause count (.transfer count) } cause
    stack Goal amount count count taken rfl later
  have fromFound : Quiet stack
      { receiver with point := .receive cause count (.size (.secondLow size (size / 256))) }
      (amount + 8) Goal := quiet_access taken rfl found copies
  exact quiet_size taken exact (by omega) fromFound

theorem quiet_enter_none (taken : receiver.socket.snCr = false)
    (exact : receiver.socket.rxRsr = size) (present : size ≠ 0) (small : size ≤ bufferSize)
    (later : Quiet stack (receiver.answer (.readBuf count) (-1) []) amount Goal) :
    Quiet stack (receiver.enter (.readBuf count) 0) (amount + 4) Goal := by
  have ends : step stack
      { receiver with point := .receive (.readBuf count) 0 (.size (.secondLow size (size / 256))) }
      .task = receiver.answer (.readBuf count) (-1) [] :=
    advance_unwanted stack rfl (exact ▸ next_secondLow) present small
  have fromEnd : Quiet stack
      { receiver with point := .receive (.readBuf count) 0 (.size (.secondLow size (size / 256))) }
      (amount + 1) Goal := quiet_access taken rfl ends later
  exact quiet_size taken exact present fromEnd

theorem quiet_check (taken : receiver.socket.snCr = false) (exact : receiver.socket.rxRsr = size)
    (present : size ≠ 0) (later : Quiet stack (receiver.enter .header 8) amount Goal) :
    Quiet stack { receiver with point := .check (.firstHigh 0) } (amount + 4) Goal := by
  subst exact
  let looking (loop : ReceivedSize) : Receiver := { receiver with point := .check loop }
  have first : step stack (looking (.firstHigh 0)) .task =
      looking (.firstLow 0 (receiver.socket.rxRsr / 256)) := check_further stack rfl rfl
  have second : step stack (looking (.firstLow 0 (receiver.socket.rxRsr / 256))) .task =
      looking (.secondHigh receiver.socket.rxRsr) := check_further stack rfl (next_firstLow present)
  have third : step stack (looking (.secondHigh receiver.socket.rxRsr)) .task =
      looking (.secondLow receiver.socket.rxRsr (receiver.socket.rxRsr / 256)) :=
    check_further stack rfl rfl
  have last : step stack (looking (.secondLow receiver.socket.rxRsr (receiver.socket.rxRsr / 256)))
      .task = receiver.enter .header 8 := check_found stack rfl next_secondLow present
  have fromLast : Quiet stack
      (looking (.secondLow receiver.socket.rxRsr (receiver.socket.rxRsr / 256))) (amount + 1) Goal :=
    quiet_access taken rfl last later
  have fromThird : Quiet stack (looking (.secondHigh receiver.socket.rxRsr)) (amount + 2) Goal :=
    quiet_access taken rfl third fromLast
  have fromSecond : Quiet stack (looking (.firstLow 0 (receiver.socket.rxRsr / 256))) (amount + 3)
      Goal := quiet_access taken rfl second fromThird
  exact quiet_access taken rfl first fromSecond

theorem quiet_check_none (taken : receiver.socket.snCr = false) (empty : receiver.socket.rxRsr = 0)
    (later : Quiet stack (receiver.answer .parsePacket 0 []) amount Goal) :
    Quiet stack { receiver with point := .check (.firstHigh 0) } (amount + 2) Goal := by
  let looking (loop : ReceivedSize) : Receiver := { receiver with point := .check loop }
  have first : step stack (looking (.firstHigh 0)) .task =
      looking (.firstLow 0 (receiver.socket.rxRsr / 256)) := check_further stack rfl rfl
  have last : step stack (looking (.firstLow 0 (receiver.socket.rxRsr / 256))) .task =
      receiver.answer .parsePacket 0 [] := check_none stack rfl (next_of_empty empty)
  have fromLast : Quiet stack (looking (.firstLow 0 (receiver.socket.rxRsr / 256))) (amount + 1)
      Goal := quiet_access taken rfl last later
  exact quiet_access taken rfl first fromLast

theorem flush_point (point : Point) (parsing : Bool) :
    { receiver with point := point }.flush parsing = receiver.flush parsing := by
  unfold Receiver.flush
  split
  · rfl
  · split
    · rfl
    · rfl

/-- The calls are answered as without a chip, and what follows finds the rest. -/
structure Responded (start reader : Reader) (call : Call) (log : List Transaction)
    (final : Receiver) : Prop where
  log : final.log = log ++ [.answered call (reader.respond call).1]
  idle : final.point = .idle
  coherent : Coherent start (reader.respond call).2 (reader.respond call).2 final

theorem responded_answer {log : List Transaction} {call : Call} {value : Int} {stored : List UInt8}
    (same : receiver.log = log) (trace : start.Trace log reader)
    (chip : ChipSound receiver.socket view)
    (udp : receiver.udp = ⟨view.remoteIP, view.remotePort, view.rest.length⟩)
    (response : reader.respond call = (view.reply value stored, view)) :
    Responded start reader call log (receiver.answer call value stored) := by
  subst same
  have answers := reader.answers_respond call
  rw [response] at answers
  constructor
  · simp only [Receiver.answer, udp, response]
    rfl
  · rfl
  · rw [response]
    exact coherent_answer trace chip udp answers

theorem quiet_answer {log : List Transaction} {call : Call} {value : Int} {stored : List UInt8}
    (same : receiver.log = log) (trace : start.Trace log reader)
    (chip : ChipSound receiver.socket view)
    (udp : receiver.udp = ⟨view.remoteIP, view.remotePort, view.rest.length⟩)
    (response : reader.respond call = (view.reply value stored, view)) :
    Quiet stack (receiver.answer call value stored) 0 (Responded start reader call log) :=
  quiet_idle rfl chip.taken (responded_answer same trace chip udp response)

/-- Byte by byte, a flush comes to the end of the datagram. -/
theorem quiet_flush (parsing : Bool) (chip : ChipSound receiver.socket view)
    (udp : receiver.udp = ⟨view.remoteIP, view.remotePort, view.rest.length⟩)
    (later : ∀ socket, ChipSound socket view.skip → Quiet stack
      ({ receiver with
        socket := socket
        udp := ⟨view.remoteIP, view.remotePort, 0⟩ }.flush parsing) amount Goal) :
    Quiet stack (receiver.flush parsing) (amount + 11 * view.rest.length) Goal := by
  induction counted : view.rest.length generalizing receiver view with
  | zero =>
      have done : view.skip = view := by
        rw [Reader.skip, ← List.eq_nil_of_length_eq_zero counted]
      rw [counted] at udp
      rw [done] at later
      have ended := later receiver.socket chip
      rw [← udp] at ended
      exact ended
  | succ count ih =>
      have nonempty : 1 ≤ view.rest.length := by omega
      have left : receiver.udp.remaining ≠ 0 := by
        rw [udp, counted]
        exact Nat.succ_ne_zero count
      have entered : receiver.flush parsing = receiver.enter (.flush parsing) 1 := by
        simp only [Receiver.flush, left, ne_eq, not_false_eq_true, if_true]
      obtain ⟨_, consumed⟩ := chip.consume nonempty
      let copied : Receiver :=
        { receiver with
          socket := (receiver.socket.recv 1).takeCommand
          point := .receive (.flush parsing) 1 (.await 1 (recvDataProcessing receiver.socket 1)) }
      have fewer : (view.consume 1).rest.length = count := by
        rw [Reader.consume, List.length_drop, counted, Nat.add_sub_cancel]
      have further : Quiet stack ((copied.took 1).flush parsing) (amount + 11 * count) Goal := by
        apply @ih (view.consume 1) (copied.took 1) consumed
        · exact @udp_took view copied 1 udp
        · intro socket sound
          have ended := later socket sound
          rw [← flush_point copied.point] at ended
          exact ended
        · exact fewer
      rw [entered, Nat.mul_succ, ← Nat.add_assoc]
      exact @quiet_enter receiver (.flush parsing) stack Goal _ _ 1 chip.taken chip.rxRsr_eq
        Nat.one_pos (Nat.le_trans nonempty Reader.rest_le_unread) chip.fits further

theorem skip_unread_length : view.skip.unread.length = (stream view.waiting).length := by
  rw [Reader.unread, List.length_append]
  exact Nat.zero_add _

/-- parsePacket behind its flush. -/
theorem quiet_parse (trace : start.Trace receiver.log reader)
    (chip : ChipSound receiver.socket reader.skip)
    (udp : receiver.udp = ⟨reader.remoteIP, reader.remotePort, 0⟩) :
    Quiet stack { receiver with point := .check (.firstHigh 0) }
      (if reader.waiting.length = 0 then 2 else 15)
      (Responded start reader .parsePacket receiver.log) := by
  cases next : reader.waiting with
  | nil =>
      have empty : receiver.socket.rxRsr = 0 := by
        rw [chip.rxRsr_eq, skip_unread_length, next]
        rfl
      rw [List.length_nil, if_pos rfl]
      apply quiet_check_none chip.taken empty
      apply quiet_answer rfl trace chip udp
      simp only [Reader.respond, next]
  | cons datagram waiting =>
      obtain ⟨whole, header, opened⟩ := chip.header stack rfl next
      rw [List.length_cons, if_neg (Nat.succ_ne_zero _)]
      apply quiet_check chip.taken chip.rxRsr_eq (by omega)
      apply @quiet_enter receiver .header stack _ 0 _ 8 chip.taken chip.rxRsr_eq (Nat.succ_pos 7)
        whole chip.fits
      have present : (0 : Int) < (8 : Nat) := Int.natCast_pos.mpr (Nat.succ_pos 7)
      simp only [Receiver.finish, present, if_true, header]
      apply quiet_answer
      · rfl
      · exact trace
      · exact opened
      · rfl
      · simp only [Reader.respond, next]

theorem quiet_read (trace : start.Trace receiver.log reader) (chip : ChipSound receiver.socket reader)
    (udp : receiver.udp = ⟨reader.remoteIP, reader.remotePort, reader.rest.length⟩) :
    Quiet stack (receiver.begin .read) (reader.accesses .read)
      (Responded start reader .read receiver.log) := by
  have remaining : receiver.udp.remaining = reader.rest.length := by rw [udp]
  cases content : reader.rest with
  | nil =>
      simp only [Receiver.begin, remaining, Reader.accesses, content, List.length_nil,
        Nat.lt_irrefl, if_false, if_true]
      apply quiet_answer rfl trace chip udp
      simp only [Reader.respond, content]
  | cons first rest =>
      have some : 0 < reader.rest.length := by
        rw [content]
        exact Nat.succ_pos _
      obtain ⟨bytes, consumed⟩ := chip.consume some
      have begun : receiver.begin .read = receiver.enter .read (1 : Nat) := by
        simp only [Receiver.begin, remaining, some, if_true]
        rfl
      rw [begun, Reader.accesses, if_neg some.ne']
      apply @quiet_enter receiver .read stack _ 0 _ 1 chip.taken chip.rxRsr_eq Nat.one_pos
        (Nat.le_trans some Reader.rest_le_unread) chip.fits
      have present : (0 : Int) < (1 : Nat) := Int.natCast_pos.mpr Nat.one_pos
      simp only [Receiver.finish, present, if_true, bytes, content]
      apply quiet_answer
      · rfl
      · exact trace
      · exact consumed
      · exact udp_took udp
      · simp only [Reader.respond, content]
        rfl

theorem quiet_readBuf (trace : start.Trace receiver.log reader)
    (chip : ChipSound receiver.socket reader)
    (udp : receiver.udp = ⟨reader.remoteIP, reader.remotePort, reader.rest.length⟩) (len : Nat) :
    Quiet stack (receiver.begin (.readBuf len)) (reader.accesses (.readBuf len))
      (Responded start reader (.readBuf len) receiver.log) := by
  have remaining : receiver.udp.remaining = reader.rest.length := by rw [udp]
  cases content : reader.rest with
  | nil =>
      simp only [Receiver.begin, remaining, Reader.accesses, content, List.length_nil,
        Nat.lt_irrefl, if_false, if_true]
      apply quiet_answer rfl trace chip udp
      simp only [Reader.respond, content, List.length_nil, Nat.min_zero, Nat.lt_irrefl, if_false]
  | cons first rest =>
      have some : 0 < reader.rest.length := by
        rw [content]
        exact Nat.succ_pos _
      rw [begin_readBuf chip remaining some, Reader.accesses, if_neg some.ne']
      have inRest : min len reader.rest.length ≤ reader.rest.length := Nat.min_le_right _ _
      by_cases nothing : len = 0
      · subst nothing
        have present : reader.unread.length ≠ 0 :=
          (Nat.lt_of_lt_of_le some Reader.rest_le_unread).ne'
        rw [if_pos rfl, Nat.zero_min]
        apply quiet_enter_none chip.taken chip.rxRsr_eq present chip.fits
        apply quiet_answer rfl trace chip udp
        simp only [Reader.respond, Nat.zero_min, Nat.lt_irrefl, if_false]
      · have positive : 0 < min len reader.rest.length :=
          Nat.lt_min.mpr ⟨Nat.pos_of_ne_zero nothing, some⟩
        obtain ⟨bytes, consumed⟩ := chip.consume inRest
        have present : (0 : Int) < (min len reader.rest.length : Nat) :=
          Int.natCast_pos.mpr positive
        rw [if_neg nothing]
        apply quiet_enter chip.taken chip.rxRsr_eq positive
          (Nat.le_trans inRest Reader.rest_le_unread) chip.fits
        simp only [Receiver.finish, present, if_true, bytes, Int.toNat_natCast]
        apply quiet_answer
        · rfl
        · exact trace
        · exact consumed
        · exact udp_took udp
        · simp only [Reader.respond, positive, if_true]

/-- A call during which nothing arrives is answered with what there is. -/
theorem quiet_call (coherent : Coherent start reader reader receiver)
    (idle : receiver.point = .idle) (call : Call) :
    ∃ amount, reader.accesses call = amount + accesses receiver (.call call) ∧
      Quiet stack (receiver.begin call) amount (Responded start reader call receiver.log) := by
  have trace := coherent.trace
  have chip := coherent.chip (by rw [idle]; rfl)
  have udp := coherent.udp
  have remaining := coherent.remaining_eq
  cases call with
  | parsePacket =>
      refine ⟨reader.accesses .parsePacket, rfl, ?_⟩
      rw [Reader.accesses, Nat.add_comm]
      apply quiet_flush true chip udp
      intro socket sound
      exact @quiet_parse start reader
        { receiver with socket := socket, udp := ⟨reader.remoteIP, reader.remotePort, 0⟩ } stack trace
        sound rfl
  | flush =>
      refine ⟨reader.accesses .flush, rfl, ?_⟩
      rw [Reader.accesses, ← Nat.zero_add (11 * _)]
      apply quiet_flush false chip udp
      intro socket sound
      apply quiet_answer
      · rfl
      · exact trace
      · exact sound
      · rfl
      · rfl
  | read => exact ⟨reader.accesses .read, rfl, quiet_read trace chip udp⟩
  | readBuf len => exact ⟨reader.accesses (.readBuf len), rfl, quiet_readBuf trace chip udp len⟩
  | peek =>
      refine ⟨0, ?_, ?_⟩
      · simp only [Reader.accesses, accesses, idle, remaining, Nat.zero_add]
      · cases content : reader.rest with
        | nil =>
            simp only [Receiver.begin, remaining, content, List.length_nil, if_true]
            apply quiet_answer rfl trace chip udp
            simp only [Reader.respond, content]
        | cons first rest =>
            rw [begin_peek chip remaining content]
            apply quiet_answer rfl trace chip udp
            simp only [Reader.respond, content]

/-! ### Runs -/

/-- In every state between two calls, a call during which nothing arrives makes as many
accesses as what is there asks for, and having made them it is answered exactly as the
reader of the datagrams that have arrived and of the calls so far. -/
theorem run_undisturbed (memory : Nat → UInt8) (pointer : Fin registerRange) (remoteIP : IPAddress)
    (remotePort : Nat) (stack : Nat → UInt8) (earlier : List Event) (call : Call)
    (events : List Event)
    (idle : (EventRun.run (step stack) (.start memory pointer remoteIP remotePort) earlier).point =
      .idle)
    (quiet : ∀ event ∈ events, event.quiet) :
    let before := EventRun.run (step stack) (.start memory pointer remoteIP remotePort) earlier
    let made := EventRun.total (step stack) accesses before (.call call :: events)
    ∃ reader, (Reader.fresh remoteIP remotePort).Trace before.log reader ∧
      made ≤ reader.accesses call ∧
      (made = reader.accesses call →
        Responded (.fresh remoteIP remotePort) reader call before.log
          (EventRun.run (step stack) before (.call call :: events))) := by
  intro before made
  obtain ⟨reader, view, coherent⟩ :=
    run_sound (start_sound memory pointer remoteIP remotePort) stack earlier
  have settled := coherent.settled
  rw [idle] at settled
  change view = reader at settled
  subst view
  obtain ⟨amount, split, leads⟩ := @quiet_call _ _ _ stack coherent idle call
  have called : step stack before (.call call) = before.begin call := by
    simp only [step, before, idle]
  obtain ⟨bounded, reaches⟩ := leads events quiet
  refine ⟨reader, coherent.trace, ?_⟩
  rw [EventRun.run_cons, called, split]
  have total : made = EventRun.total (step stack) accesses (before.begin call) events +
      accesses before (.call call) := by
    simp only [made, EventRun.total, called]
  rw [total]
  exact ⟨Nat.add_le_add_right bounded _, fun exact => reaches (Nat.add_right_cancel exact)⟩

/-- Two of the three bytes of an opened datagram are read. -/
theorem openedReadBuf_undisturbed :
    let before := EventRun.run (step fun _ => 0)
      (.start (fun _ => 0) ⟨65535, by decide⟩ ⟨![0, 0, 0, 0]⟩ 0) openedEvents
    let made := EventRun.total (step fun _ => 0) accesses before (.call (.readBuf 2) :: byteEvents)
    ∃ reader, (Reader.fresh ⟨![0, 0, 0, 0]⟩ 0).Trace before.log reader ∧
      made = reader.accesses (.readBuf 2) ∧
      Responded (.fresh ⟨![0, 0, 0, 0]⟩ 0) reader (.readBuf 2) before.log
        (EventRun.run (step fun _ => 0) before (.call (.readBuf 2) :: byteEvents)) := by
  have quiet : ∀ event ∈ byteEvents, event.quiet := by simp [byteEvents, Event.quiet]
  obtain ⟨reader, trace, bounded, responded⟩ :=
    run_undisturbed (fun _ => 0) ⟨65535, by decide⟩ ⟨![0, 0, 0, 0]⟩ 0 (fun _ => 0) openedEvents
      (.readBuf 2) byteEvents (by decide) quiet
  have most : reader.accesses (.readBuf 2) ≤ 11 := by
    unfold Reader.accesses
    grind
  have made : EventRun.total (step fun _ => 0) accesses
      (EventRun.run (step fun _ => 0)
        (.start (fun _ => 0) ⟨65535, by decide⟩ ⟨![0, 0, 0, 0]⟩ 0) openedEvents)
      (.call (.readBuf 2) :: byteEvents) = 11 := by decide
  have exact := Nat.le_antisymm bounded (Nat.le_trans most (Nat.le_of_eq made.symm))
  exact ⟨reader, trace, exact, responded exact⟩

end MSniff.Concrete.Receive
