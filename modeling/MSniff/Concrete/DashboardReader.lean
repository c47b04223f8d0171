/-
The read loop of Dashboard_mainTask on one connection. The request line is read by
EthernetClient_readBytesUntil, which waits for bytes that are late, and the rest
character by character by the loop itself, which does not. Time is in
milliseconds: a poll that finds nothing takes one, and so does the sleep of 100
ticks of 10 microseconds.
-/

import Mathlib.Logic.Function.Iterate
import MSniff.Concrete.DashboardQuery

namespace MSniff.Concrete.Dashboard

def lineFeed : UInt8 := 10

def carriageReturn : UInt8 := 13

def inputBufferSize : Nat := 128

def timeout : Nat := 1000

/-- How many bytes of what the client sends have arrived at each time after
`EthernetServer_available` has found its first. -/
structure Arrival (stream : List UInt8) where
  arrived : Nat → Nat
  monotone : Monotone arrived
  bounded : ∀ time, arrived time ≤ stream.length
  complete : ∃ time, arrived time = stream.length
  begun : 0 < arrived 0

variable {stream : List UInt8}

def available (arrival : Arrival stream) (consumed time : Nat) : Nat :=
  arrival.arrived time - consumed

/-- `none` stands for the result -1. -/
def readByte (arrival : Arrival stream) (consumed time : Nat) : Option UInt8 :=
  if available arrival consumed time = 0 then none else stream[consumed]?

/-- The polls that `timedRead` still has after this one; it returns the time as well. -/
def timedReadLoop (arrival : Arrival stream) (consumed : Nat) :
    Nat → Nat → Option UInt8 × Nat
  | 0, time => (readByte arrival consumed time, time)
  | left + 1, time =>
      match readByte arrival consumed time with
      | some c => (some c, time)
      | none => timedReadLoop arrival consumed left (time + 1)

def timedRead (arrival : Arrival stream) (consumed time : Nat) : Option UInt8 × Nat :=
  timedReadLoop arrival consumed timeout time

structure LineRead where
  stored : List UInt8
  consumed : Nat
  time : Nat

def LineRead.store (c : UInt8) (read : LineRead) : LineRead :=
  { read with stored := c :: read.stored }

def readBytesUntil (arrival : Arrival stream) (terminator : UInt8) : Nat → Nat → Nat → LineRead
  | 0, consumed, time => ⟨[], consumed, time⟩
  | length + 1, consumed, time =>
      match timedRead arrival consumed time with
      | (none, later) => ⟨[], consumed, later⟩
      | (some c, later) =>
          if c = terminator then ⟨[], consumed + 1, later⟩
          else (readBytesUntil arrival terminator length (consumed + 1) later).store c

structure Request where
  consumed : Nat
  buffer : List UInt8

/-- The task's variables on a connection. `connected` falls when
`Dashboard_handleHttp` has stopped the client; until then the client keeps it. -/
structure Reader where
  time : Nat
  consumed : Nat
  incomingBuffer : List UInt8
  readDestination : Bool
  currentLineIsBlank : Bool
  connected : Bool
  requests : List Request

def initialReader (incomingBuffer : List UInt8) : Reader :=
  ⟨0, 0, incomingBuffer, false, true, true, []⟩

def readDestinationLine (arrival : Arrival stream) (reader : Reader) : Reader :=
  if reader.readDestination then reader
  else
    let read := readBytesUntil arrival lineFeed inputBufferSize reader.consumed reader.time
    { reader with
      time := read.time
      consumed := read.consumed
      incomingBuffer := read.stored ++ reader.incomingBuffer.drop read.stored.length
      readDestination := true }

def lineIsBlank (currentLineIsBlank : Bool) (c : UInt8) : Bool :=
  if c = lineFeed then true else if c = carriageReturn then currentLineIsBlank else false

/-- The rest of the turn; the uint8_t of the source turns -1 into 255. -/
def readCharacter (arrival : Arrival stream) (reader : Reader) : Reader :=
  let read := readByte arrival reader.consumed reader.time
  let c := read.getD 255
  let consumed := if read.isSome then reader.consumed + 1 else reader.consumed
  let answers := c = lineFeed ∧ reader.currentLineIsBlank
  { reader with
    consumed := consumed
    currentLineIsBlank := lineIsBlank reader.currentLineIsBlank c
    connected := if answers then false else reader.connected
    requests :=
      if answers then reader.requests ++ [⟨consumed, reader.incomingBuffer⟩]
      else reader.requests }

def turn (arrival : Arrival stream) (reader : Reader) : Reader :=
  if reader.connected then
    let served :=
      if available arrival reader.consumed reader.time = 0 then reader
      else readCharacter arrival (readDestinationLine arrival reader)
    { served with time := served.time + 1 }
  else reader

def turns (arrival : Arrival stream) (count : Nat) (reader : Reader) : Reader :=
  (turn arrival)^[count] reader

/-! ### The character loop -/

variable {arrival : Arrival stream} {reader : Reader}

theorem readByte_of_not_available {consumed time : Nat}
    (nothing : available arrival consumed time = 0) : readByte arrival consumed time = none :=
  if_pos nothing

theorem readByte_of_available {consumed time : Nat}
    (waiting : available arrival consumed time ≠ 0) :
    ∃ c rest, stream.drop consumed = c :: rest ∧ stream.drop (consumed + 1) = rest ∧
      readByte arrival consumed time = some c := by
  have within : consumed < stream.length := by
    have bounded := arrival.bounded time
    unfold available at waiting
    omega
  refine ⟨stream[consumed], stream.drop (consumed + 1), List.drop_eq_getElem_cons within, rfl, ?_⟩
  unfold readByte
  rw [if_neg waiting]
  exact List.getElem?_eq_getElem within

/-- Where the characters of a text are answered: the bytes consumed by then. -/
def answer : Bool → Nat → List UInt8 → Option Nat
  | _, _, [] => none
  | blank, consumed, c :: rest =>
      if c = lineFeed ∧ blank = true then some (consumed + 1)
      else answer (lineIsBlank blank c) (consumed + 1) rest

/-- The line has been read, nothing has been answered yet, and the rest of the
stream is to be answered as the outcome says. -/
structure Waits (stream : List UInt8) (buffer : List UInt8) (outcome : Option Nat)
    (reader : Reader) : Prop where
  lineRead : reader.readDestination = true
  sameBuffer : reader.incomingBuffer = buffer
  connected : reader.connected = true
  requests : reader.requests = []
  rest : answer reader.currentLineIsBlank reader.consumed (stream.drop reader.consumed) = outcome

structure Answered (buffer : List UInt8) (outcome : Option Nat) (reader : Reader) : Prop where
  stopped : reader.connected = false
  once : ∃ consumed, outcome = some consumed ∧ reader.requests = [⟨consumed, buffer⟩]

variable {buffer : List UInt8} {outcome : Option Nat}

theorem Waits.afterCharacter (waits : Waits stream buffer outcome reader)
    (waiting : available arrival reader.consumed reader.time ≠ 0) :
    Waits stream buffer outcome (readCharacter arrival reader) ∧
        (readCharacter arrival reader).consumed = reader.consumed + 1 ∨
      Answered buffer outcome (readCharacter arrival reader) := by
  obtain ⟨c, rest, text, laterText, read⟩ := readByte_of_available waiting
  have outcomeOf := waits.rest
  rw [text, answer] at outcomeOf
  unfold readCharacter
  simp only [read, Option.getD_some, Option.isSome_some, if_true]
  split_ifs at outcomeOf ⊢ with answers
  · right
    constructor
    · rfl
    · refine ⟨reader.consumed + 1, outcomeOf.symm, ?_⟩
      rw [waits.requests, waits.sameBuffer]
      rfl
  · left
    refine ⟨⟨waits.lineRead, waits.sameBuffer, waits.connected, waits.requests, ?_⟩, trivial⟩
    rw [laterText]
    exact outcomeOf

theorem Waits.atTime (waits : Waits stream buffer outcome reader) (time : Nat) :
    Waits stream buffer outcome { reader with time := time } :=
  ⟨waits.lineRead, waits.sameBuffer, waits.connected, waits.requests, waits.rest⟩

theorem Answered.atTime (answered : Answered buffer outcome reader) (time : Nat) :
    Answered buffer outcome { reader with time := time } :=
  ⟨answered.stopped, answered.once⟩

theorem readDestinationLine_of_read (lineRead : reader.readDestination = true) :
    readDestinationLine arrival reader = reader := by
  unfold readDestinationLine
  rw [if_pos lineRead]

theorem Waits.afterAvailable (waits : Waits stream buffer outcome reader)
    (waiting : available arrival reader.consumed reader.time ≠ 0) :
    Waits stream buffer outcome (turn arrival reader) ∧
        (turn arrival reader).consumed = reader.consumed + 1 ∨
      Answered buffer outcome (turn arrival reader) := by
  unfold turn
  rw [if_pos waits.connected]
  simp only [if_neg waiting, readDestinationLine_of_read waits.lineRead]
  rcases waits.afterCharacter waiting with ⟨still, consumed⟩ | answered
  · exact Or.inl ⟨still.atTime _, consumed⟩
  · exact Or.inr (answered.atTime _)

theorem Waits.afterTurn (waits : Waits stream buffer outcome reader) (arrival : Arrival stream) :
    Waits stream buffer outcome (turn arrival reader) ∨
      Answered buffer outcome (turn arrival reader) := by
  by_cases nothing : available arrival reader.consumed reader.time = 0
  · left
    unfold turn
    rw [if_pos waits.connected]
    simp only [if_pos nothing]
    exact waits.atTime _
  · rcases waits.afterAvailable nothing with ⟨still, _⟩ | answered
    · exact Or.inl still
    · exact Or.inr answered

theorem Waits.turn_time (waits : Waits stream buffer outcome reader) (arrival : Arrival stream) :
    (turn arrival reader).time = reader.time + 1 := by
  unfold turn
  rw [if_pos waits.connected]
  simp only [readDestinationLine_of_read waits.lineRead]
  split_ifs
  · rfl
  · rfl

theorem turn_of_stopped (stopped : reader.connected = false) : turn arrival reader = reader := by
  unfold turn
  rw [if_neg (by simp [stopped])]

theorem turns_succ (count : Nat) :
    turns arrival (count + 1) reader = turn arrival (turns arrival count reader) :=
  Function.iterate_succ_apply' _ _ _

theorem turns_add (first second : Nat) :
    turns arrival (second + first) reader = turns arrival second (turns arrival first reader) :=
  Function.iterate_add_apply _ _ _ _

theorem turns_succ_first (count : Nat) :
    turns arrival (count + 1) reader = turns arrival count (turn arrival reader) :=
  Function.iterate_succ_apply _ _ _

theorem Answered.afterTurns (answered : Answered buffer outcome reader)
    (arrival : Arrival stream) (count : Nat) :
    Answered buffer outcome (turns arrival count reader) := by
  induction count with
  | zero => exact answered
  | succ count ih =>
      rw [turns_succ, turn_of_stopped ih.stopped]
      exact ih

/-- After any number of turns the connection waits or has been answered, once and
where the outcome says. -/
theorem Waits.afterTurns (waits : Waits stream buffer outcome reader) (arrival : Arrival stream)
    (count : Nat) :
    Waits stream buffer outcome (turns arrival count reader) ∧
        (turns arrival count reader).time = reader.time + count ∨
      Answered buffer outcome (turns arrival count reader) := by
  induction count with
  | zero => exact Or.inl ⟨waits, rfl⟩
  | succ count ih =>
      rw [turns_succ]
      rcases ih with ⟨still, time⟩ | answered
      · rcases still.afterTurn arrival with next | answered
        · have later := still.turn_time arrival
          rw [time] at later
          exact Or.inl ⟨next, later⟩
        · exact Or.inr answered
      · rw [turn_of_stopped answered.stopped]
        exact Or.inr answered

theorem Waits.notConsumed {consumed : Nat}
    (waits : Waits stream buffer (some consumed) reader) : reader.consumed < stream.length := by
  by_contra whole
  have rest := waits.rest
  rw [List.drop_eq_nil_of_le (Nat.le_of_not_lt whole), answer] at rest
  cases rest

theorem Waits.answered_of_arrived {consumed : Nat}
    (waits : Waits stream buffer (some consumed) reader)
    (everything : arrival.arrived reader.time = stream.length) :
    ∃ count, Answered buffer (some consumed) (turns arrival count reader) := by
  -- On the bytes that are left: with all of them there a turn leaves one less.
  induction remaining : stream.length - reader.consumed generalizing reader with
  | zero =>
      have within := waits.notConsumed
      omega
  | succ remaining ih =>
      have waiting : available arrival reader.consumed reader.time ≠ 0 := by
        unfold available
        omega
      rcases waits.afterAvailable waiting with ⟨next, advanced⟩ | answered
      · have later : arrival.arrived (turn arrival reader).time = stream.length := by
          apply le_antisymm (arrival.bounded _)
          rw [← everything]
          apply arrival.monotone
          rw [waits.turn_time arrival]
          exact Nat.le_succ _
        obtain ⟨count, answered⟩ := ih next later (by omega)
        exact ⟨count + 1, answered⟩
      · exact ⟨1, answered⟩

theorem Waits.answered {consumed : Nat} (waits : Waits stream buffer (some consumed) reader)
    (arrival : Arrival stream) :
    ∃ count, Answered buffer (some consumed) (turns arrival count reader) := by
  obtain ⟨last, everything⟩ := arrival.complete
  rcases waits.afterTurns arrival last with ⟨still, time⟩ | answered
  · have arrived : arrival.arrived (turns arrival last reader).time = stream.length := by
      apply le_antisymm (arrival.bounded _)
      rw [← everything]
      apply arrival.monotone
      omega
    obtain ⟨count, answered⟩ := still.answered_of_arrived arrived
    refine ⟨count + last, ?_⟩
    rw [turns_add]
    exact answered
  · exact ⟨last, answered⟩

end MSniff.Concrete.Dashboard
