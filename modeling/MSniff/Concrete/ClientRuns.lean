/-
Runs of a client session against the chip and the peer. A free size that the driver has
read is never more than what is free, for only the driver takes from it; so a copy never
reaches bytes that the peer has not acknowledged, and the peer receives the texts printed
as one stream without a gap.
-/

import MSniff.Concrete.ClientStream
import MSniff.Concrete.TransmitRuns

namespace MSniff.Concrete.ClientStream

open CircularStore SocketTable Transmit

/-! ### What a session is to write -/

/-- What the peer is to receive of a write. -/
def clip (buf : List UInt8) : List UInt8 := buf.take (sendLength buf.length)

def written (writes : List (List UInt8)) : List UInt8 := (writes.map clip).flatten

def accepted (buf : List UInt8) : Nat := writeResult buf.length (sendLength buf.length)

theorem sendLength_le (size : Nat) : sendLength size ≤ size := by
  have narrowed := Nat.mod_le size registerRange
  unfold sendLength
  split
  · omega
  · exact narrowed

theorem sendLength_le_bufferSize (size : Nat) : sendLength size ≤ bufferSize := by
  unfold sendLength
  split
  · exact Nat.le_refl _
  · omega

theorem clip_length (buf : List UInt8) : (clip buf).length = sendLength buf.length := by
  rw [clip, List.length_take, Nat.min_eq_left (sendLength_le _)]

/-- Nothing read so far is more than what is free. -/
def Below (free : Nat) : FreeSize → Prop
  | .firstHigh val => val ≤ free
  | .firstLow val high => val ≤ free ∧ high ≤ free / 256
  | .secondHigh val1 => val1 ≤ free
  | .secondLow val1 high => val1 ≤ free ∧ high ≤ free / 256

variable {free more : Nat} {loop : FreeSize}

theorem Below.grow (below : Below free loop) (grows : free ≤ more) : Below more loop := by
  have high := Nat.div_le_div_right (c := 256) grows
  cases loop with
  | firstHigh val => exact Nat.le_trans below grows
  | firstLow val read => exact ⟨Nat.le_trans below.1 grows, Nat.le_trans below.2 high⟩
  | secondHigh val1 => exact Nat.le_trans below grows
  | secondLow val1 read => exact ⟨Nat.le_trans below.1 grows, Nat.le_trans below.2 high⟩

/-- A high byte read earlier and a low byte read now make up no more than what is free. -/
theorem torn_le {high : Nat} (earlier : high ≤ free / 256) : high * 256 + free % 256 ≤ free := by
  omega

theorem Below.next (below : Below free loop) :
    (∀ later, loop.next free = .inl later → Below free later) ∧
      ∀ freesize, loop.next free = .inr freesize → freesize ≤ free := by
  cases loop with
  | firstHigh val =>
      constructor
      · intro later same
        cases same
        exact ⟨below, Nat.le_refl _⟩
      · intro freesize same
        cases same
  | firstLow val high =>
      have torn := torn_le below.2
      simp only [FreeSize.next]
      constructor
      · intro later same
        split at same
        · cases same
          exact torn
        · split at same
          · cases same
            exact below.1
          · cases same
      · intro freesize same
        split at same
        · cases same
        · split at same
          · cases same
          · cases same
            exact below.1
  | secondHigh val1 =>
      constructor
      · intro later same
        cases same
        exact ⟨below, Nat.le_refl _⟩
      · intro freesize same
        cases same
  | secondLow val1 high =>
      have torn := torn_le below.2
      simp only [FreeSize.next]
      constructor
      · intro later same
        split at same
        · cases same
          exact torn
        · cases same
      · intro freesize same
        split at same
        · cases same
        · cases same
          exact torn

/-! ### The invariant -/

/-- How far the task is with the write at hand: the point it is at, how many bytes of it
are in the buffer but not handed over, which are to be copied yet, and what the call is
going to return. No SEND is under way before it gives the next one. -/
inductive Stage (connection : Connection) : Point → Nat → List UInt8 → List Nat → Prop
  | idle (quiet : connection.sending = false ∧ connection.sendOk = false) :
      Stage connection .nextWrite 0 [] []
  | measuring {buf : List UInt8} {loop : FreeSize}
      (quiet : connection.sending = false ∧ connection.sendOk = false)
      (below : Below connection.txFsr loop) :
      Stage connection (.freeSize buf (sendLength buf.length) loop) 0 (clip buf) [accepted buf]
  | measured {buf : List UInt8} {freesize : Nat}
      (quiet : connection.sending = false ∧ connection.sendOk = false)
      (below : freesize ≤ connection.txFsr) :
      Stage connection (.checkStatus buf (sendLength buf.length) freesize) 0 (clip buf)
        [accepted buf]
  | copying {buf : List UInt8}
      (quiet : connection.sending = false ∧ connection.sendOk = false)
      (room : sendLength buf.length ≤ connection.txFsr) :
      Stage connection (.transfer buf (sendLength buf.length)) 0 (clip buf) [accepted buf]
  | handing {size ret : Nat}
      (quiet : connection.sending = false ∧ connection.sendOk = false) :
      Stage connection (.sendCommand size ret) ret [] [writeResult size ret]
  | commanded {size ret : Nat}
      (quiet : connection.sending = false ∧ connection.sendOk = false)
      (untaken : connection.snCr = some .send) :
      Stage connection (.awaitSend size ret) ret [] [writeResult size ret]
  | taken {size ret : Nat}
      (given : connection.sending = !connection.sendOk) (free : connection.snCr = none) :
      Stage connection (.awaitSend size ret) 0 [] [writeResult size ret]
  | waiting {size ret : Nat}
      (given : connection.sending = !connection.sendOk) :
      Stage connection (.readInterrupt size ret) 0 [] [writeResult size ret]
  | looking {size ret : Nat}
      (given : connection.sending = !connection.sendOk) :
      Stage connection (.readStatus size ret) 0 [] [writeResult size ret]
  | clearing {size ret : Nat} (finished : connection.sending = false) :
      Stage connection (.clearInterrupt size ret) 0 [] [writeResult size ret]

def awaitsSend : Point → Bool
  | .awaitSend _ _ => true
  | _ => false

/-- What the peer has received, what lies in the buffer for it and what is still to be
copied make up the texts, in this order. -/
structure Coherent (writes : List (List UInt8)) (session : Session) (copied : Nat)
    (rest : List UInt8) (owed : List Nat) : Prop where
  up : isUp session.connection.status = true
  whole : session.connection.received ++
    readCells bufferSize session.connection.memory
      (session.connection.txRd + session.connection.unacknowledged)
      (session.connection.unsent + copied) ++ (rest ++ written session.writes) = written writes
  fits : session.connection.unacknowledged + session.connection.unsent + copied ≤ bufferSize
  readsBack : session.connection.txWr = (session.connection.txRd +
    session.connection.unacknowledged + session.connection.unsent) % registerRange
  pointer : session.connection.txWritten = (session.connection.txRd +
    session.connection.unacknowledged + session.connection.unsent + copied) % registerRange
  results : session.returned ++ (owed ++ session.writes.map accepted) = writes.map accepted
  command : awaitsSend session.point = false → session.connection.snCr = none
  stage : Stage session.connection session.point copied rest owed

/-- While there is a connection the session is coherent, and afterwards the peer has
received a part of it from the start on. -/
def Sound (writes : List (List UInt8)) (session : Session) : Prop :=
  session.connection.received <+: written writes ∧
    (isUp session.connection.status = true →
      ∃ copied rest owed, Coherent writes session copied rest owed)

variable {writes : List (List UInt8)} {session : Session} {copied : Nat} {rest : List UInt8}
  {owed : List Nat}

theorem Coherent.sound (coherent : Coherent writes session copied rest owed) :
    Sound writes session := by
  refine ⟨?_, fun _ => ⟨copied, rest, owed, coherent⟩⟩
  rw [← coherent.whole, List.append_assoc]
  exact List.prefix_append _ _

theorem Coherent.txFsr_eq (coherent : Coherent writes session copied rest owed) :
    session.connection.txFsr =
      bufferSize - (session.connection.unacknowledged + session.connection.unsent) := by
  have fits := coherent.fits
  unfold Connection.txFsr
  unfold bufferSize registerRange at *
  omega

/-- What leaves the flags and does not take from the free size leaves the stage. -/
theorem Stage.keep {connection other : Connection} {point : Point}
    (stage : Stage connection point copied rest owed) (sending : other.sending = connection.sending)
    (sendOk : other.sendOk = connection.sendOk) (snCr : other.snCr = connection.snCr)
    (grows : connection.txFsr ≤ other.txFsr) : Stage other point copied rest owed := by
  cases stage with
  | idle quiet => exact .idle (by rwa [sending, sendOk])
  | measuring quiet below => exact .measuring (by rwa [sending, sendOk]) (below.grow grows)
  | measured quiet below => exact .measured (by rwa [sending, sendOk]) (below.trans grows)
  | copying quiet room => exact .copying (by rwa [sending, sendOk]) (room.trans grows)
  | handing quiet => exact .handing (by rwa [sending, sendOk])
  | commanded quiet untaken => exact .commanded (by rwa [sending, sendOk]) (by rwa [snCr])
  | taken given free => exact .taken (by rwa [sending, sendOk]) (by rwa [snCr])
  | waiting given => exact .waiting (by rwa [sending, sendOk])
  | looking given => exact .looking (by rwa [sending, sendOk])
  | clearing finished => exact .clearing (by rwa [sending])

/-! ### The chip and the peer -/

theorem Coherent.deliver (coherent : Coherent writes session copied rest owed) (count : Nat) :
    Coherent writes (step session (.deliver count)) copied rest owed := by
  have fits := coherent.fits
  have delivered : step session (.deliver count) =
      { session with connection := { session.connection with
          unacknowledged :=
            session.connection.unacknowledged + min count session.connection.unsent
          unsent := session.connection.unsent - min count session.connection.unsent
          received := session.connection.received ++ readCells bufferSize
            session.connection.memory
            (session.connection.txRd + session.connection.unacknowledged)
            (min count session.connection.unsent) } } := by
    simp only [step, Connection.deliver, coherent.up, if_true]
  have some : min count session.connection.unsent ≤ session.connection.unsent :=
    Nat.min_le_right _ _
  rw [delivered]
  generalize min count session.connection.unsent = taken at *
  have split : session.connection.unsent + copied =
      taken + (session.connection.unsent - taken + copied) := by
    omega
  constructor
  · exact coherent.up
  · have whole := coherent.whole
    rw [split, readCells_append] at whole
    simp only [← whole, List.append_assoc, Nat.add_assoc]
  · simp only
    omega
  · simp only [coherent.readsBack]
    congr 1
    omega
  · simp only [coherent.pointer]
    congr 1
    omega
  · exact coherent.results
  · exact coherent.command
  · refine coherent.stage.keep ?_ ?_ ?_ ?_
    · rfl
    · rfl
    · rfl
    · have total : session.connection.unacknowledged + taken +
          (session.connection.unsent - taken) =
            session.connection.unacknowledged + session.connection.unsent := by
        omega
      simp only [Connection.txFsr, total]
      exact Nat.le_refl _

theorem Coherent.acknowledge (coherent : Coherent writes session copied rest owed) (count : Nat) :
    Coherent writes (step session (.acknowledge count)) copied rest owed := by
  have fits := coherent.fits
  have free := coherent.txFsr_eq
  have freed : step session (.acknowledge count) =
      { session with connection := { session.connection with
          txRd := (session.connection.txRd +
            min count session.connection.unacknowledged) % registerRange
          unacknowledged := session.connection.unacknowledged -
            min count session.connection.unacknowledged } } := by
    simp only [step, Connection.acknowledge, coherent.up, if_true]
  have some : min count session.connection.unacknowledged ≤ session.connection.unacknowledged :=
    Nat.min_le_right _ _
  rw [freed]
  generalize min count session.connection.unacknowledged = taken at *
  have same : ∀ behind, (session.connection.txRd + taken) % registerRange +
      (session.connection.unacknowledged - taken) + behind ≡
        session.connection.txRd + session.connection.unacknowledged + behind
          [MOD registerRange] := by
    intro behind
    have together : session.connection.txRd + taken +
        (session.connection.unacknowledged - taken) =
          session.connection.txRd + session.connection.unacknowledged := by
      omega
    rw [← together]
    exact ((Nat.mod_modEq _ _).add_right _).add_right _
  constructor
  · exact coherent.up
  · have divides : bufferSize ∣ registerRange := by decide
    have place := (same 0).of_dvd divides
    simp only [Nat.add_zero] at place
    simp only [readCells_congr place]
    exact coherent.whole
  · simp only
    omega
  · rw [coherent.readsBack]
    exact (same _).symm
  · rw [coherent.pointer]
    simp only [Nat.add_assoc _ session.connection.unsent]
    exact (same _).symm
  · exact coherent.results
  · exact coherent.command
  · refine coherent.stage.keep ?_ ?_ ?_ ?_
    · rfl
    · rfl
    · rfl
    · rw [free]
      simp only [Connection.txFsr]
      unfold bufferSize registerRange at *
      omega

theorem Stage.finishSend {connection : Connection} {point : Point}
    (stage : Stage connection point copied rest owed) (sending : connection.sending = true) :
    Stage { connection with sending := false, sendOk := true } point copied rest owed := by
  have busy : ¬ (connection.sending = false ∧ connection.sendOk = false) := by
    rintro ⟨idle, _⟩
    rw [sending] at idle
    cases idle
  cases stage with
  | idle quiet => exact absurd quiet busy
  | measuring quiet => exact absurd quiet busy
  | measured quiet => exact absurd quiet busy
  | copying quiet => exact absurd quiet busy
  | handing quiet => exact absurd quiet busy
  | commanded quiet => exact absurd quiet busy
  | taken given free => exact .taken rfl free
  | waiting => exact .waiting rfl
  | looking => exact .looking rfl
  | clearing finished => exact .clearing rfl

theorem Coherent.finishSend (coherent : Coherent writes session copied rest owed) :
    Coherent writes (step session .finishSend) copied rest owed := by
  simp only [step, Connection.finishSend]
  by_cases sending : session.connection.sending = true
  · rw [if_pos sending]
    exact { coherent with stage := coherent.stage.finishSend sending }
  · rw [if_neg sending]
    exact coherent

theorem Coherent.peerCloses (coherent : Coherent writes session copied rest owed) :
    Coherent writes (step session .peerCloses) copied rest owed := by
  simp only [step, Connection.peerCloses]
  by_cases established : session.connection.status = .established
  · rw [if_pos established]
    exact { coherent with up := rfl, stage := coherent.stage.keep rfl rfl rfl (Nat.le_refl _) }
  · rw [if_neg established]
    exact coherent

/-! ### The task -/

theorem Coherent.nextWrite {connection : Connection} {pending : List (List UInt8)}
    {returned : List Nat}
    (coherent : Coherent writes ⟨connection, .nextWrite, pending, returned⟩ copied rest owed) :
    Sound writes (advance ⟨connection, .nextWrite, pending, returned⟩) := by
  have stage := coherent.stage
  cases stage with
  | idle quiet =>
      cases pending with
      | nil => exact coherent.sound
      | cons buf later =>
          have measuring : Coherent writes
              ⟨connection, .freeSize buf (sendLength buf.length) (.firstHigh 0), later, returned⟩
              0 (clip buf) [accepted buf] :=
            { coherent with stage := .measuring quiet (Nat.zero_le _) }
          exact measuring.sound

theorem Coherent.freeSize {connection : Connection} {buf : List UInt8} {ret : Nat}
    {pending : List (List UInt8)} {returned : List Nat}
    (coherent : Coherent writes ⟨connection, .freeSize buf ret loop, pending, returned⟩ copied
      rest owed) :
    Sound writes (advance ⟨connection, .freeSize buf ret loop, pending, returned⟩) := by
  have stage := coherent.stage
  cases stage with
  | measuring quiet below =>
      simp only [advance]
      cases result : loop.next connection.txFsr with
      | inl later =>
          have measuring : Coherent writes
              ⟨connection, .freeSize buf (sendLength buf.length) later, pending, returned⟩ 0
              (clip buf) [accepted buf] :=
            { coherent with stage := .measuring quiet (below.next.1 later result) }
          exact measuring.sound
      | inr freesize =>
          have measured : Coherent writes
              ⟨connection, .checkStatus buf (sendLength buf.length) freesize, pending, returned⟩ 0
              (clip buf) [accepted buf] :=
            { coherent with stage := .measured quiet (below.next.2 freesize result) }
          exact measured.sound

theorem isUp_iff {status : SocketStatus} :
    isUp status = true ↔ ¬ (status ≠ .established ∧ status ≠ .closeWait) := by
  unfold isUp
  rw [decide_eq_true_iff, not_and_or, not_not, not_not]

theorem Coherent.checkStatus {connection : Connection} {buf : List UInt8} {ret freesize : Nat}
    {pending : List (List UInt8)} {returned : List Nat}
    (coherent : Coherent writes ⟨connection, .checkStatus buf ret freesize, pending, returned⟩
      copied rest owed) :
    Sound writes (advance ⟨connection, .checkStatus buf ret freesize, pending, returned⟩) := by
  have stage := coherent.stage
  have up := isUp_iff.mp coherent.up
  cases stage with
  | measured quiet below =>
      simp only [advance, if_neg up]
      by_cases small : freesize < sendLength buf.length
      · rw [if_pos small]
        have measuring : Coherent writes
            ⟨connection, .freeSize buf (sendLength buf.length) (.firstHigh 0), pending, returned⟩
            0 (clip buf) [accepted buf] :=
          { coherent with stage := .measuring quiet (Nat.zero_le _) }
        exact measuring.sound
      · rw [if_neg small]
        have copying : Coherent writes
            ⟨connection, .transfer buf (sendLength buf.length), pending, returned⟩ 0 (clip buf)
            [accepted buf] :=
          { coherent with stage := .copying quiet ((Nat.le_of_not_lt small).trans below) }
        exact copying.sound

/-- The bytes of a write, copied where there is room for them, follow those in the buffer. -/
theorem Coherent.transfer {connection : Connection} {buf : List UInt8} {ret : Nat}
    {pending : List (List UInt8)} {returned : List Nat}
    (coherent : Coherent writes ⟨connection, .transfer buf ret, pending, returned⟩ copied rest
      owed) :
    Sound writes (advance ⟨connection, .transfer buf ret, pending, returned⟩) := by
  have stage := coherent.stage
  have free : connection.txFsr = bufferSize - (connection.unacknowledged + connection.unsent) :=
    coherent.txFsr_eq
  have fits := coherent.fits
  have whole := coherent.whole
  have readsBack : connection.txWr = _ := coherent.readsBack
  simp only at fits whole
  cases stage with
  | copying quiet room =>
      have length := clip_length buf
      rw [free] at room
      have total : connection.unacknowledged + connection.unsent + (clip buf).length ≤
          bufferSize := by
        omega
      have place : connection.txWr ≡
          connection.txRd + connection.unacknowledged + connection.unsent [MOD bufferSize] := by
        rw [readsBack]
        exact register_modEq _
      have copied : Coherent writes
          (advance ⟨connection, .transfer buf (sendLength buf.length), pending, returned⟩)
          (clip buf).length [] [accepted buf] := by
        constructor
        · exact coherent.up
        · simp only [advance, sendDataProcessing]
          change _ ++ readCells bufferSize
            (writeCells bufferSize connection.memory connection.txWr (clip buf)) _ _ ++ _ = _
          rw [writeCells_congr place, readCells_writeCells_behind _ _ (by omega), ← whole]
          simp only [List.nil_append, Nat.add_zero, List.append_assoc]
        · exact total
        · exact readsBack
        · simp only [advance, sendDataProcessing, readsBack, Nat.mod_add_mod]
          rfl
        · exact coherent.results
        · exact coherent.command
        · simp only [advance, sendDataProcessing, length]
          exact .handing quiet
      exact copied.sound

theorem Coherent.sendCommand {connection : Connection} {size ret : Nat}
    {pending : List (List UInt8)} {returned : List Nat}
    (coherent : Coherent writes ⟨connection, .sendCommand size ret, pending, returned⟩ copied rest
      owed) :
    Sound writes (advance ⟨connection, .sendCommand size ret, pending, returned⟩) := by
  have stage := coherent.stage
  cases stage with
  | handing quiet =>
      have commanded : Coherent writes
          ⟨{ connection with snCr := some .send }, .awaitSend size copied, pending, returned⟩
          copied [] [writeResult size copied] :=
        { coherent with command := nofun, stage := .commanded quiet rfl }
      exact commanded.sound

theorem Coherent.awaitSend {connection : Connection} {size ret : Nat}
    {pending : List (List UInt8)} {returned : List Nat}
    (coherent : Coherent writes ⟨connection, .awaitSend size ret, pending, returned⟩ copied rest
      owed) :
    Sound writes (advance ⟨connection, .awaitSend size ret, pending, returned⟩) := by
  have stage := coherent.stage
  simp only [advance]
  cases stage with
  | commanded quiet untaken =>
      rw [untaken, Option.isSome_some, if_pos rfl]
      exact coherent.sound
  | taken given free =>
      have waiting : Coherent writes ⟨connection, .readInterrupt size ret, pending, returned⟩ 0 []
          [writeResult size ret] :=
        { coherent with command := fun _ => free, stage := .waiting given }
      rw [free, Option.isSome_none, if_neg Bool.false_ne_true]
      exact waiting.sound

/-- What the chip takes is all that the write at hand has copied. -/
theorem Coherent.send {connection : Connection} {size : Nat} {pending : List (List UInt8)}
    {returned : List Nat}
    (coherent : Coherent writes ⟨connection, .awaitSend size copied, pending, returned⟩ copied []
      [writeResult size copied])
    (quiet : connection.sending = false ∧ connection.sendOk = false) :
    Coherent writes
      ⟨{ connection.send with snCr := none }, .awaitSend size copied, pending, returned⟩ 0 []
      [writeResult size copied] := by
  have fits := coherent.fits
  have readsBack : connection.txWr = _ := coherent.readsBack
  have pointer : connection.txWritten = _ := coherent.pointer
  have up : isUp connection.status = true := coherent.up
  simp only at fits
  have handedOver : (connection.txWritten + registerRange - connection.txWr) % registerRange =
      copied := by
    rw [pointer, readsBack]
    unfold bufferSize at fits
    unfold registerRange
    omega
  simp only [Connection.send, up, if_true, handedOver]
  constructor
  · exact up
  · exact coherent.whole
  · simp only
    omega
  · simp only [pointer, Nat.add_assoc]
  · simp only [pointer, Nat.add_assoc, Nat.add_zero]
  · exact coherent.results
  · exact nofun
  · exact .taken (by rw [quiet.2]; rfl) rfl

theorem takeCommand_of_none {connection : Connection} (free : connection.snCr = none) :
    connection.takeCommand = connection := by
  simp only [Connection.takeCommand, free]

theorem takeCommand_cases (connection : Connection) :
    connection.takeCommand = connection ∨
      connection.takeCommand = { connection.send with snCr := none } ∨
      connection.takeCommand = { connection.close with snCr := none } := by
  unfold Connection.takeCommand
  cases connection.snCr with
  | none => exact .inl rfl
  | some command =>
      cases command with
      | send => exact .inr (.inl rfl)
      | close => exact .inr (.inr rfl)

theorem Coherent.takeCommand (coherent : Coherent writes session copied rest owed) :
    Sound writes (step session .command) := by
  obtain ⟨connection, point, pending, returned⟩ := session
  have stage := coherent.stage
  simp only [step]
  cases stage with
  | commanded quiet untaken =>
      have sends : connection.takeCommand = { connection.send with snCr := none } := by
        rw [Connection.takeCommand, show connection.snCr = some .send from untaken]
      rw [sends]
      exact (coherent.send quiet).sound
  | taken given free =>
      rw [takeCommand_of_none free]
      exact coherent.sound
  | _ =>
      rw [takeCommand_of_none (coherent.command rfl)]
      exact coherent.sound

theorem Coherent.readInterrupt {connection : Connection} {size ret : Nat}
    {pending : List (List UInt8)} {returned : List Nat}
    (coherent : Coherent writes ⟨connection, .readInterrupt size ret, pending, returned⟩ copied
      rest owed) :
    Sound writes (advance ⟨connection, .readInterrupt size ret, pending, returned⟩) := by
  have stage := coherent.stage
  cases stage with
  | waiting given =>
      simp only [advance]
      cases sendOk : connection.sendOk with
      | true =>
          rw [sendOk] at given
          have clearing : Coherent writes ⟨connection, .clearInterrupt size ret, pending, returned⟩
              0 [] [writeResult size ret] :=
            { coherent with stage := .clearing given }
          exact clearing.sound
      | false =>
          have looking : Coherent writes ⟨connection, .readStatus size ret, pending, returned⟩ 0 []
              [writeResult size ret] :=
            { coherent with stage := .looking given }
          exact looking.sound

theorem Coherent.readStatus {connection : Connection} {size ret : Nat}
    {pending : List (List UInt8)} {returned : List Nat}
    (coherent : Coherent writes ⟨connection, .readStatus size ret, pending, returned⟩ copied rest
      owed) :
    Sound writes (advance ⟨connection, .readStatus size ret, pending, returned⟩) := by
  have stage := coherent.stage
  have open' : connection.status ≠ .closed := by
    intro closed
    have up : isUp connection.status = true := coherent.up
    rw [closed] at up
    cases up
  cases stage with
  | looking given =>
      have waiting : Coherent writes ⟨connection, .readInterrupt size ret, pending, returned⟩ 0 []
          [writeResult size ret] :=
        { coherent with stage := .waiting given }
      simp only [advance, if_neg open']
      exact waiting.sound

theorem Coherent.clearInterrupt {connection : Connection} {size ret : Nat}
    {pending : List (List UInt8)} {returned : List Nat}
    (coherent : Coherent writes ⟨connection, .clearInterrupt size ret, pending, returned⟩ copied
      rest owed) :
    Sound writes (advance ⟨connection, .clearInterrupt size ret, pending, returned⟩) := by
  have stage := coherent.stage
  cases stage with
  | clearing finished =>
      have idle : Coherent writes
          (advance ⟨connection, .clearInterrupt size ret, pending, returned⟩) 0 [] [] :=
        { coherent with
          results := by
            rw [← coherent.results]
            simp only [advance, List.append_assoc, List.nil_append]
          stage := .idle ⟨finished, rfl⟩ }
      exact idle.sound

/-- While there is a connection, a step of the task leaves the session coherent. -/
theorem Coherent.advance (coherent : Coherent writes session copied rest owed) :
    Sound writes (advance session) := by
  obtain ⟨connection, point, pending, returned⟩ := session
  have stage := coherent.stage
  cases point with
  | nextWrite => exact coherent.nextWrite
  | freeSize buf ret loop => exact coherent.freeSize
  | checkStatus buf ret freesize => exact coherent.checkStatus
  | transfer buf ret => exact coherent.transfer
  | sendCommand size ret => exact coherent.sendCommand
  | awaitSend size ret => exact coherent.awaitSend
  | readInterrupt size ret => exact coherent.readInterrupt
  | readStatus size ret => exact coherent.readStatus
  | closeCommand => cases stage
  | awaitClose => cases stage
  | closeInterrupt => cases stage
  | clearInterrupt size ret => exact coherent.clearInterrupt

/-! ### Without a connection -/

/-- What the task by itself leaves to the chip and the peer. -/
structure Keeps (connection other : Connection) : Prop where
  received : other.received = connection.received
  status : other.status = connection.status
  unacknowledged : other.unacknowledged = connection.unacknowledged
  unsent : other.unsent = connection.unsent

theorem Keeps.refl (connection : Connection) : Keeps connection connection :=
  ⟨rfl, rfl, rfl, rfl⟩

theorem advance_keeps (session : Session) :
    Keeps session.connection (ClientStream.advance session).connection := by
  obtain ⟨connection, point, pending, returned⟩ := session
  cases point with
  | nextWrite =>
      cases pending with
      | nil => exact .refl connection
      | cons buf later => exact .refl connection
  | freeSize buf ret loop =>
      simp only [ClientStream.advance]
      cases loop.next connection.txFsr with
      | inl later => exact .refl connection
      | inr freesize => exact .refl connection
  | checkStatus buf ret freesize =>
      simp only [ClientStream.advance]
      split
      · exact .refl connection
      · split
        · exact .refl connection
        · exact .refl connection
  | transfer buf ret => exact ⟨rfl, rfl, rfl, rfl⟩
  | sendCommand size ret => exact ⟨rfl, rfl, rfl, rfl⟩
  | awaitSend size ret =>
      simp only [ClientStream.advance]
      split
      · exact .refl connection
      · exact .refl connection
  | readInterrupt size ret =>
      simp only [ClientStream.advance]
      split
      · exact .refl connection
      · exact .refl connection
  | readStatus size ret =>
      simp only [ClientStream.advance]
      split
      · exact .refl connection
      · exact .refl connection
  | closeCommand => exact ⟨rfl, rfl, rfl, rfl⟩
  | awaitClose =>
      simp only [ClientStream.advance]
      split
      · exact .refl connection
      · exact .refl connection
  | closeInterrupt => exact ⟨rfl, rfl, rfl, rfl⟩
  | clearInterrupt size ret => exact ⟨rfl, rfl, rfl, rfl⟩

/-- What becomes of a socket without a connection. -/
structure StaysDown (connection other : Connection) : Prop where
  received : other.received = connection.received
  down : isUp other.status = false
  closed : connection.status = .closed → other.status = .closed
  unacknowledged : other.unacknowledged = connection.unacknowledged
  unsent : other.unsent = connection.unsent

theorem StaysDown.refl {connection : Connection} (down : isUp connection.status = false) :
    StaysDown connection connection :=
  ⟨rfl, down, id, rfl, rfl⟩

theorem takeCommand_of_down {connection : Connection} (down : isUp connection.status = false) :
    StaysDown connection connection.takeCommand := by
  rcases takeCommand_cases connection with same | sends | closes
  · rw [same]
    exact .refl down
  · rw [sends]
    simp only [Connection.send, down, Bool.false_eq_true, if_false]
    exact ⟨rfl, down, id, rfl, rfl⟩
  · rw [closes]
    exact ⟨rfl, rfl, fun _ => rfl, rfl, rfl⟩

theorem step_of_down {session : Session} (down : isUp session.connection.status = false)
    (event : Event) : StaysDown session.connection (step session event).connection := by
  cases event with
  | task =>
      have keeps := advance_keeps session
      have same := keeps.status
      exact ⟨keeps.received, same ▸ down, fun closed => same.trans closed, keeps.unacknowledged,
        keeps.unsent⟩
  | command => exact takeCommand_of_down down
  | deliver count =>
      simp only [step, Connection.deliver, down, Bool.false_eq_true, if_false]
      exact .refl down
  | acknowledge count =>
      simp only [step, Connection.acknowledge, down, Bool.false_eq_true, if_false]
      exact .refl down
  | finishSend =>
      simp only [step, Connection.finishSend]
      split
      · exact ⟨rfl, down, id, rfl, rfl⟩
      · exact .refl down
  | peerCloses =>
      have notEstablished : session.connection.status ≠ .established := by
        intro established
        rw [established] at down
        cases down
      simp only [step, Connection.peerCloses, if_neg notEstablished]
      exact .refl down
  | disconnect => exact ⟨rfl, rfl, fun _ => rfl, rfl, rfl⟩

/-! ### Runs -/

theorem Sound.step (sound : Sound writes session) (event : Event) :
    Sound writes (ClientStream.step session event) := by
  cases up : isUp session.connection.status with
  | false =>
      have lost := step_of_down up event
      refine ⟨?_, fun impossible => ?_⟩
      · rw [lost.received]
        exact sound.1
      · rw [lost.down] at impossible
        cases impossible
  | true =>
      obtain ⟨copied, rest, owed, coherent⟩ := sound.2 up
      cases event with
      | task => exact coherent.advance
      | command => exact coherent.takeCommand
      | deliver count => exact (coherent.deliver count).sound
      | acknowledge count => exact (coherent.acknowledge count).sound
      | finishSend => exact coherent.finishSend.sound
      | peerCloses => exact coherent.peerCloses.sound
      | disconnect =>
          refine ⟨sound.1, fun impossible => ?_⟩
          cases impossible

theorem start_sound (memory : Nat → UInt8) (pointer : Nat) (writes : List (List UInt8)) :
    Sound writes (.start memory pointer writes) := by
  have coherent : Coherent writes (.start memory pointer writes) 0 [] [] := by
    constructor
    · rfl
    · rfl
    · exact Nat.zero_le _
    · exact (Nat.mod_mod _ _).symm
    · exact (Nat.mod_mod _ _).symm
    · rfl
    · exact fun _ => rfl
    · exact .idle ⟨rfl, rfl⟩
  exact coherent.sound

theorem run_sound (memory : Nat → UInt8) (pointer : Nat) (writes : List (List UInt8))
    (events : List Event) :
    Sound writes (EventRun.run step (.start memory pointer writes) events) := by
  have every : EventRun.Meets step (fun _ _ => True) (.start memory pointer writes) events :=
    (EventRun.meets_forall_iff step _ _ _).mpr fun _ _ => trivial
  exact every.invariant (fun _ event sound _ => sound.step event)
    (start_sound memory pointer writes)

/-- The writes are done, and what the peer has not received of them is in the buffer. -/
theorem Coherent.done (coherent : Coherent writes session copied rest owed)
    (returned : session.point = .nextWrite) (none : session.writes = []) :
    session.returned = writes.map accepted ∧
      session.connection.received ++ readCells bufferSize session.connection.memory
        (session.connection.txRd + session.connection.unacknowledged)
        session.connection.unsent = written writes := by
  have stage := coherent.stage
  have whole := coherent.whole
  have results := coherent.results
  rw [returned] at stage
  rw [none] at whole results
  cases stage with
  | idle =>
      constructor
      · rw [← results]
        exact (List.append_nil _).symm
      · rw [← whole]
        exact (List.append_nil _).symm

/-- However the task, the chip and the peer interleave, and whenever the connection ends:
what the peer receives is a beginning of the texts written, each as far as one `send`
takes it, in their order and without a gap. When all calls have returned with the
connection still there, each has reported its result and all of it is received or waits
in the buffer. -/
theorem run_received (memory : Nat → UInt8) (pointer : Nat) (writes : List (List UInt8))
    (events : List Event) :
    let final := EventRun.run step (.start memory pointer writes) events
    final.connection.received <+: written writes ∧
      (isUp final.connection.status = true → final.point = .nextWrite → final.writes = [] →
        final.returned = writes.map accepted ∧
          final.connection.received ++ readCells bufferSize final.connection.memory
            (final.connection.txRd + final.connection.unacknowledged)
            final.connection.unsent = written writes) := by
  intro final
  obtain ⟨received, coherent⟩ := run_sound memory pointer writes events
  refine ⟨received, fun up returned none => ?_⟩
  obtain ⟨_, _, _, coherent⟩ := coherent up
  exact coherent.done returned none

end MSniff.Concrete.ClientStream
