/-
When a connection is answered. The first turn of the loop reads the request line and
one character more; where that has not arrived, what is left of the flag depends on
it.
-/

import MSniff.Concrete.DashboardReader

namespace MSniff.Concrete.Dashboard

/-! ### Reading the request line -/

/-- The line at the start of a text, as far as it fits the room, and what is left of
the text behind it. -/
def lineOf : Nat → List UInt8 → List UInt8 × List UInt8
  | 0, text => ([], text)
  | _ + 1, [] => ([], [])
  | room + 1, c :: rest =>
      if c = lineFeed then ([], rest)
      else (c :: (lineOf room rest).1, (lineOf room rest).2)

def firstLine (stream : List UInt8) : List UInt8 := stream.takeWhile (· ≠ lineFeed)

def afterFirstLine (stream : List UInt8) : List UInt8 :=
  (stream.dropWhile (· ≠ lineFeed)).drop 1

variable {stream : List UInt8}

/-- Within the first line and up to its end no byte is late by the timeout. -/
def Timely (arrival : Arrival stream) : Prop :=
  ∀ time index, index < (firstLine stream).length → index + 1 < stream.length →
    index < arrival.arrived time → index + 1 < arrival.arrived (time + (timeout - 1))

variable {arrival : Arrival stream} {consumed : Nat}

theorem drop_succ_of_drop {c : UInt8} {rest : List UInt8} (text : stream.drop consumed = c :: rest) :
    consumed < stream.length ∧ stream.drop (consumed + 1) = rest := by
  constructor
  · have lengths := congrArg List.length text
    rw [List.length_drop, List.length_cons] at lengths
    omega
  · rw [← List.drop_drop, text]
    rfl

theorem readByte_eq {time : Nat} {c : UInt8} {rest : List UInt8}
    (text : stream.drop consumed = c :: rest) (arrived : consumed < arrival.arrived time) :
    readByte arrival consumed time = some c := by
  have waiting : available arrival consumed time ≠ 0 := by
    unfold available
    omega
  obtain ⟨d, later, sameText, _, read⟩ := readByte_of_available waiting
  rw [text] at sameText
  cases sameText
  exact read

theorem readByte_none {time : Nat} (notArrived : arrival.arrived time ≤ consumed) :
    readByte arrival consumed time = none := by
  apply readByte_of_not_available
  unfold available
  omega

theorem timedReadLoop_some {c : UInt8} {rest : List UInt8}
    (text : stream.drop consumed = c :: rest) {left time : Nat}
    (soon : consumed < arrival.arrived (time + left)) :
    ∃ later, consumed < arrival.arrived later ∧
      timedReadLoop arrival consumed left time = (some c, later) := by
  induction left generalizing time with
  | zero =>
      have arrived : consumed < arrival.arrived time := soon
      refine ⟨time, arrived, ?_⟩
      rw [timedReadLoop, readByte_eq text arrived]
  | succ left ih =>
      by_cases arrived : consumed < arrival.arrived time
      · refine ⟨time, arrived, ?_⟩
        rw [timedReadLoop, readByte_eq text arrived]
      · rw [timedReadLoop, readByte_none (Nat.le_of_not_lt arrived)]
        apply ih
        rw [Nat.add_assoc, Nat.add_comm 1 left]
        exact soon

theorem timedReadLoop_none (ended : stream.length ≤ consumed) (left time : Nat) :
    timedReadLoop arrival consumed left time = (none, time + left) := by
  have nothing : ∀ time, readByte arrival consumed time = none :=
    fun time => readByte_none ((arrival.bounded time).trans ended)
  induction left generalizing time with
  | zero =>
      rw [timedReadLoop, nothing]
      rfl
  | succ left ih =>
      rw [timedReadLoop, nothing]
      simp only [ih]
      rw [Nat.add_assoc, Nat.add_comm 1 left]

/-- A line that arrives in time is stored and leaves the stream behind it, whatever
the times at which its bytes arrive. -/
theorem readBytesUntil_timely (timely : Timely arrival) (length : Nat) {time : Nat}
    (line : consumed + (firstLine (stream.drop consumed)).length = (firstLine stream).length)
    (within : consumed ≤ stream.length)
    (soon : consumed < stream.length → consumed < arrival.arrived (time + timeout)) :
    let read := readBytesUntil arrival lineFeed length consumed time
    read.stored = (lineOf length (stream.drop consumed)).1 ∧
      stream.drop read.consumed = (lineOf length (stream.drop consumed)).2 ∧
      read.consumed ≤ stream.length := by
  induction length generalizing consumed time with
  | zero => exact ⟨rfl, rfl, within⟩
  | succ length ih =>
      cases text : stream.drop consumed with
      | nil =>
          have ended : stream.length ≤ consumed := List.drop_eq_nil_iff.mp text
          simp only [readBytesUntil, timedRead, timedReadLoop_none ended]
          exact ⟨rfl, text, within⟩
      | cons c rest =>
          obtain ⟨inside, behind⟩ := drop_succ_of_drop text
          obtain ⟨later, arrived, read⟩ := timedReadLoop_some text (soon inside)
          simp only [readBytesUntil, timedRead, read, lineOf]
          by_cases ends : c = lineFeed
          · simp only [if_pos ends]
            exact ⟨trivial, behind, inside⟩
          · simp only [if_neg ends, LineRead.store]
            have first : firstLine (c :: rest) = c :: firstLine rest :=
              List.takeWhile_cons_of_pos (by simpa using ends)
            rw [text, first, List.length_cons] at line
            have nextLine : consumed + 1 + (firstLine (stream.drop (consumed + 1))).length =
                (firstLine stream).length := by
              rw [behind]
              omega
            -- The timeout of the next byte counts from the time at which this one is read.
            have nextSoon : consumed + 1 < stream.length →
                consumed + 1 < arrival.arrived (later + timeout) := by
              intro nextInside
              have next := timely later consumed (by omega) nextInside arrived
              exact next.trans_le (arrival.monotone (by unfold timeout; omega))
            have ih := ih nextLine inside nextSoon
            rw [behind] at ih
            exact ⟨congrArg (c :: ·) ih.1, ih.2⟩

theorem readBytesUntil_time {length time : Nat}
    (present : consumed + (firstLine (stream.drop consumed)).length < arrival.arrived time) :
    (readBytesUntil arrival lineFeed length consumed time).time = time := by
  induction length generalizing consumed with
  | zero => rfl
  | succ length ih =>
      cases text : stream.drop consumed with
      | nil =>
          have ended : stream.length ≤ consumed := List.drop_eq_nil_iff.mp text
          have bounded := arrival.bounded time
          omega
      | cons c rest =>
          have read : timedRead arrival consumed time = (some c, time) := by
            unfold timedRead timeout
            rw [timedReadLoop, readByte_eq text (by omega)]
          rw [readBytesUntil, read]
          by_cases ends : c = lineFeed
          · simp only [if_pos ends]
          · have first : firstLine (c :: rest) = c :: firstLine rest :=
              List.takeWhile_cons_of_pos (by simpa using ends)
            rw [text, first, List.length_cons] at present
            simp only [if_neg ends, LineRead.store]
            apply ih
            rw [(drop_succ_of_drop text).2]
            omega

/-! ### The first turn -/

variable (arrival) in
def opened (previous : List UInt8) : Reader :=
  readDestinationLine arrival (initialReader previous)

def lineBuffer (stream previous : List UInt8) : List UInt8 :=
  (lineOf inputBufferSize stream).1 ++ previous.drop (lineOf inputBufferSize stream).1.length

theorem opened_waits (timely : Timely arrival) (previous : List UInt8) :
    Waits stream (lineBuffer stream previous)
        (answer true (opened arrival previous).consumed (lineOf inputBufferSize stream).2)
        (opened arrival previous) ∧
      stream.drop (opened arrival previous).consumed = (lineOf inputBufferSize stream).2 ∧
        (opened arrival previous).consumed ≤ stream.length := by
  have soon : 0 < stream.length → 0 < arrival.arrived (0 + timeout) :=
    fun _ => arrival.begun.trans_le (arrival.monotone (Nat.zero_le _))
  obtain ⟨stored, rest, within⟩ :=
    readBytesUntil_timely timely inputBufferSize (Nat.zero_add _) (Nat.zero_le _) soon
  rw [List.drop_zero] at stored rest
  have buffer : (opened arrival previous).incomingBuffer =
      (readBytesUntil arrival lineFeed inputBufferSize 0 0).stored ++
        previous.drop (readBytesUntil arrival lineFeed inputBufferSize 0 0).stored.length := rfl
  refine ⟨⟨rfl, ?_, rfl, rfl, congrArg (answer true _) rest⟩, rest, within⟩
  rw [buffer, stored]
  rfl

/-- Whether the character behind the line has arrived when the loop reads it. -/
def characterWaits (arrival : Arrival stream) (previous : List UInt8) : Bool :=
  available arrival (opened arrival previous).consumed (opened arrival previous).time ≠ 0

theorem turn_initialReader (previous : List UInt8) :
    turn arrival (initialReader previous) =
      { readCharacter arrival (opened arrival previous) with
        time := (readCharacter arrival (opened arrival previous)).time + 1 } := by
  have connected : (initialReader previous).connected = true := rfl
  have begun : available arrival (initialReader previous).consumed
      (initialReader previous).time ≠ 0 := Nat.sub_ne_zero_of_lt arrival.begun
  unfold turn
  rw [if_pos connected]
  simp only [if_neg begun]
  rfl

/-- A character that has not arrived is taken for one that is there. -/
theorem Waits.afterNothing {buffer : List UInt8} {outcome : Option Nat} {reader : Reader}
    (waits : Waits stream buffer outcome reader)
    (nothing : available arrival reader.consumed reader.time = 0) :
    Waits stream buffer (answer false reader.consumed (stream.drop reader.consumed))
      (readCharacter arrival reader) := by
  have read := readByte_of_not_available nothing
  have other : ¬ ((255 : UInt8) = lineFeed) := by decide
  unfold readCharacter
  simp only [read, Option.getD_none, Option.isSome_none, other, false_and, if_false]
  exact ⟨waits.lineRead, waits.sameBuffer, waits.connected, waits.requests, rfl⟩

theorem first_turn (timely : Timely arrival) (previous : List UInt8) :
    let outcome := answer (characterWaits arrival previous)
      (opened arrival previous).consumed (lineOf inputBufferSize stream).2
    Waits stream (lineBuffer stream previous) outcome (turn arrival (initialReader previous)) ∨
      Answered (lineBuffer stream previous) outcome (turn arrival (initialReader previous)) := by
  obtain ⟨waits, rest, _⟩ := opened_waits timely previous
  rw [turn_initialReader]
  by_cases nothing :
      available arrival (opened arrival previous).consumed (opened arrival previous).time = 0
  · have missing : characterWaits arrival previous = false := by simp [characterWaits, nothing]
    have still := waits.afterNothing nothing
    rw [rest] at still
    simp only [missing]
    exact Or.inl (still.atTime _)
  · have there : characterWaits arrival previous = true := by simp [characterWaits, nothing]
    simp only [there]
    rcases waits.afterCharacter nothing with ⟨still, _⟩ | answered
    · exact Or.inl (still.atTime _)
    · exact Or.inr (answered.atTime _)

variable (arrival) in
def outcomeOf (previous : List UInt8) : Option Nat :=
  answer (characterWaits arrival previous) (opened arrival previous).consumed
    (lineOf inputBufferSize stream).2

theorem later_turns (timely : Timely arrival) (previous : List UInt8) (count : Nat) :
    Waits stream (lineBuffer stream previous) (outcomeOf arrival previous)
        (turns arrival (count + 1) (initialReader previous)) ∨
      Answered (lineBuffer stream previous) (outcomeOf arrival previous)
        (turns arrival (count + 1) (initialReader previous)) := by
  rw [turns_succ_first]
  rcases first_turn timely previous with waits | answered
  · rcases waits.afterTurns arrival count with ⟨still, _⟩ | answered
    · exact Or.inl still
    · exact Or.inr answered
  · exact Or.inr (answered.afterTurns arrival count)

theorem exists_answered (timely : Timely arrival) {previous : List UInt8} {consumed : Nat}
    (outcome : outcomeOf arrival previous = some consumed) :
    ∃ count, Answered (lineBuffer stream previous) (some consumed)
      (turns arrival count (initialReader previous)) := by
  have opens := first_turn timely previous
  rw [show answer _ _ _ = some consumed from outcome] at opens
  rcases opens with waits | answered
  · obtain ⟨count, answered⟩ := waits.answered arrival
    refine ⟨count + 1, ?_⟩
    rw [turns_succ_first]
    exact answered
  · exact ⟨1, answered⟩

def Requests (arrival : Arrival stream) (previous : List UInt8) (request : Request) : Prop :=
  ∃ count, request ∈ (turns arrival count (initialReader previous)).requests

theorem requests_iff (timely : Timely arrival) (previous : List UInt8) (request : Request) :
    Requests arrival previous request ↔
      outcomeOf arrival previous = some request.consumed ∧
        request.buffer = lineBuffer stream previous := by
  constructor
  · intro requested
    rcases requested with ⟨count, member⟩
    cases count with
    | zero => cases member
    | succ count =>
        rcases later_turns timely previous count with waits | answered
        · rw [waits.requests] at member
          cases member
        · obtain ⟨consumed, outcome, requests⟩ := answered.once
          rw [requests, List.mem_singleton] at member
          rw [member]
          exact ⟨outcome, rfl⟩
  · intro expected
    rcases expected with ⟨outcome, sameBuffer⟩
    obtain ⟨count, answered⟩ := exists_answered timely outcome
    obtain ⟨consumed, same, requests⟩ := answered.once
    cases same
    refine ⟨count, ?_⟩
    rw [requests, ← sameBuffer]
    exact List.mem_singleton_self _

/-! ### Answers -/

theorem answer_false {line : List UInt8} (plain : lineFeed ∉ line) (consumed : Nat)
    (rest : List UInt8) :
    answer false consumed (line ++ lineFeed :: rest) =
      answer true (consumed + line.length + 1) rest := by
  induction line generalizing consumed with
  | nil => rfl
  | cons c line ih =>
      rw [List.mem_cons, not_or] at plain
      have flag : lineIsBlank false c = false := by
        unfold lineIsBlank
        rw [if_neg (Ne.symm plain.1)]
        split_ifs <;> rfl
      rw [List.cons_append, answer, if_neg (by simp), flag, ih plain.2, List.length_cons]
      congr 1
      omega

theorem answer_blank {line : List UInt8} (blank : ∀ c ∈ line, c = carriageReturn)
    (consumed : Nat) (rest : List UInt8) :
    answer true consumed (line ++ lineFeed :: rest) = some (consumed + line.length + 1) := by
  induction line generalizing consumed with
  | nil => rfl
  | cons c line ih =>
      rw [List.forall_mem_cons] at blank
      have other : ¬ (carriageReturn = lineFeed) := by decide
      rw [List.cons_append, blank.1, answer, if_neg (fun ends => other ends.1)]
      have flag : lineIsBlank true carriageReturn = true := by decide
      rw [flag, ih blank.2, List.length_cons]
      congr 1
      omega

theorem answer_text {line : List UInt8} (plain : lineFeed ∉ line)
    (text : ∃ c ∈ line, c ≠ carriageReturn) (blank : Bool) (consumed : Nat)
    (rest : List UInt8) :
    answer blank consumed (line ++ lineFeed :: rest) =
      answer true (consumed + line.length + 1) rest := by
  induction line generalizing consumed with
  | nil =>
      obtain ⟨c, member, _⟩ := text
      cases member
  | cons c line ih =>
      rw [List.mem_cons, not_or] at plain
      have notEnd : ¬ (c = lineFeed ∧ blank = true) := fun ends => plain.1 ends.1.symm
      have position : consumed + 1 + line.length + 1 = consumed + (line.length + 1) + 1 := by
        omega
      rw [List.cons_append, answer, if_neg notEnd, List.length_cons]
      unfold lineIsBlank
      rw [if_neg (Ne.symm plain.1)]
      by_cases isReturn : c = carriageReturn
      · rw [if_pos isReturn]
        obtain ⟨d, member, other⟩ := text
        have later : ∃ c ∈ line, c ≠ carriageReturn := by
          cases member with
          | head => exact absurd isReturn other
          | tail _ member => exact ⟨d, member, other⟩
        rw [ih plain.2 later, position]
      · rw [if_neg isReturn, answer_false plain.2, position]

/-! ### Requests that are there altogether -/

def immediate (stream : List UInt8) (nonempty : stream ≠ []) : Arrival stream where
  arrived := fun _ => stream.length
  monotone := fun _ _ _ => Nat.le_refl _
  bounded := fun _ => Nat.le_refl _
  complete := ⟨0, rfl⟩
  begun := List.length_pos_iff.mpr nonempty

theorem immediate_timely (nonempty : stream ≠ []) : Timely (immediate stream nonempty) :=
  fun _ _ _ inside _ => inside

theorem immediate_outcome (nonempty : stream ≠ []) (previous : List UInt8) :
    outcomeOf (immediate stream nonempty) previous =
      answer true (stream.length - (lineOf inputBufferSize stream).2.length)
        (lineOf inputBufferSize stream).2 := by
  obtain ⟨_, rest, within⟩ := opened_waits (immediate_timely nonempty) previous
  have position := congrArg List.length rest
  rw [List.length_drop] at position
  unfold outcomeOf
  cases text : (lineOf inputBufferSize stream).2 with
  | nil => rfl
  | cons c later =>
      rw [text, List.length_cons] at position
      have inside : (opened (immediate stream nonempty) previous).consumed < stream.length := by
        omega
      have there : characterWaits (immediate stream nonempty) previous = true :=
        decide_eq_true (Nat.sub_ne_zero_of_lt inside)
      rw [there, List.length_cons]
      congr 1
      omega

/-- A first line, header lines with characters other than CR, and an empty line; each
line may end in CR. -/
structure HttpRequest where
  first : List UInt8
  headers : List (List UInt8)
  last : List UInt8
  firstPlain : lineFeed ∉ first
  headersPlain : ∀ header ∈ headers, lineFeed ∉ header ∧ ∃ c ∈ header, c ≠ carriageReturn
  lastBlank : ∀ c ∈ last, c = carriageReturn

def headerText (headers : List (List UInt8)) (last : List UInt8) : List UInt8 :=
  headers.flatMap (fun header => header ++ [lineFeed]) ++ (last ++ [lineFeed])

def HttpRequest.bytes (request : HttpRequest) : List UInt8 :=
  request.first ++ lineFeed :: headerText request.headers request.last

theorem HttpRequest.nonempty (request : HttpRequest) : request.bytes ≠ [] :=
  List.append_ne_nil_of_right_ne_nil _ (List.cons_ne_nil _ _)

theorem answer_headers {headers : List (List UInt8)} {last : List UInt8}
    (plain : ∀ header ∈ headers, lineFeed ∉ header ∧ ∃ c ∈ header, c ≠ carriageReturn)
    (blank : ∀ c ∈ last, c = carriageReturn) (consumed : Nat) :
    answer true consumed (headerText headers last) =
      some (consumed + (headerText headers last).length) := by
  induction headers generalizing consumed with
  | nil =>
      simp only [headerText, List.flatMap_nil, List.nil_append]
      rw [answer_blank blank, List.length_append, List.length_singleton, Nat.add_assoc]
  | cons header headers ih =>
      rw [List.forall_mem_cons] at plain
      have split : headerText (header :: headers) last =
          header ++ lineFeed :: headerText headers last := by
        simp [headerText]
      rw [split, answer_text plain.1.1 plain.1.2, ih plain.2, List.length_append,
        List.length_cons]
      congr 1
      omega

theorem lineOf_short {room : Nat} (short : (firstLine stream).length < room) :
    lineOf room stream = (firstLine stream, afterFirstLine stream) := by
  induction stream generalizing room with
  | nil => cases room <;> rfl
  | cons c rest ih =>
      cases room with
      | zero => cases short
      | succ room =>
          unfold firstLine afterFirstLine at *
          rw [lineOf]
          by_cases ends : c = lineFeed
          · rw [if_pos ends, List.takeWhile_cons_of_neg (by simpa using ends),
              List.dropWhile_cons_of_neg (by simpa using ends)]
            rfl
          · rw [List.takeWhile_cons_of_pos (by simpa using ends), List.length_cons] at short
            rw [if_neg ends, ih (Nat.lt_of_succ_lt_succ short),
              List.takeWhile_cons_of_pos (by simpa using ends),
              List.dropWhile_cons_of_pos (by simpa using ends)]

theorem lineOf_stored (room : Nat) (text : List UInt8) :
    (lineOf room text).1 = (firstLine text).take room := by
  induction text generalizing room with
  | nil => cases room <;> rfl
  | cons c rest ih =>
      cases room with
      | zero => rfl
      | succ room =>
          unfold firstLine at *
          rw [lineOf]
          by_cases ends : c = lineFeed
          · rw [if_pos ends, List.takeWhile_cons_of_neg (by simpa using ends)]
            rfl
          · rw [if_neg ends, List.takeWhile_cons_of_pos (by simpa using ends), ih room]
            rfl

theorem firstLine_append {line : List UInt8} (plain : lineFeed ∉ line) (rest : List UInt8) :
    firstLine (line ++ lineFeed :: rest) = line ∧
      afterFirstLine (line ++ lineFeed :: rest) = rest := by
  have passes : ∀ c ∈ line, decide (c ≠ lineFeed) = true := by
    intro c member
    exact decide_eq_true fun isEnd => plain (isEnd ▸ member)
  unfold firstLine afterFirstLine
  rw [List.takeWhile_append_of_pos passes, List.dropWhile_append_of_pos passes,
    List.takeWhile_cons_of_neg (by simp), List.dropWhile_cons_of_neg (by simp)]
  exact ⟨List.append_nil line, rfl⟩

theorem lineOf_long {line : List UInt8} (plain : lineFeed ∉ line) {room : Nat}
    (full : room ≤ line.length) (rest : List UInt8) :
    lineOf room (line ++ rest) = (line.take room, line.drop room ++ rest) := by
  induction line generalizing room with
  | nil =>
      cases room with
      | zero => rfl
      | succ room => cases full
  | cons c line ih =>
      rw [List.mem_cons, not_or] at plain
      cases room with
      | zero => rfl
      | succ room =>
          have fullRest := Nat.le_of_succ_le_succ full
          rw [List.cons_append, lineOf, if_neg (Ne.symm plain.1), ih plain.2 fullRest]
          rfl

/-- The connection is answered once, on its last byte and at no earlier one. -/
structure AnsweredAtEnd (arrival : Arrival stream) (previous : List UInt8) : Prop where
  reached : ∃ count, (turns arrival count (initialReader previous)).requests.map
    Request.consumed = [stream.length]
  only : ∀ count,
    (turns arrival count (initialReader previous)).requests.map Request.consumed = [] ∨
      (turns arrival count (initialReader previous)).requests.map Request.consumed =
        [stream.length]

theorem answeredAtEnd_iff_outcome (timely : Timely arrival) (previous : List UInt8) :
    AnsweredAtEnd arrival previous ↔ outcomeOf arrival previous = some stream.length := by
  constructor
  · intro atEnd
    rcases atEnd with ⟨⟨count, reached⟩, _⟩
    cases count with
    | zero => cases reached
    | succ count =>
        rcases later_turns timely previous count with waits | answered
        · rw [waits.requests] at reached
          cases reached
        · obtain ⟨consumed, outcome, requests⟩ := answered.once
          rw [requests] at reached
          cases reached
          exact outcome
  · intro outcome
    constructor
    · obtain ⟨count, answered⟩ := exists_answered timely outcome
      obtain ⟨consumed, same, requests⟩ := answered.once
      cases same
      refine ⟨count, ?_⟩
      rw [requests]
      rfl
    · intro count
      cases count with
      | zero => exact Or.inl rfl
      | succ count =>
          rcases later_turns timely previous count with waits | answered
          · rw [waits.requests]
            exact Or.inl rfl
          · obtain ⟨consumed, same, requests⟩ := answered.once
            rw [outcome] at same
            cases same
            rw [requests]
            exact Or.inr rfl

/-- The line fills the buffer, and nothing but CR is left of it for the loop. -/
def Overflows (first : List UInt8) : Prop :=
  inputBufferSize ≤ first.length ∧ ∀ c ∈ first.drop inputBufferSize, c = carriageReturn

theorem HttpRequest.outcome_iff (request : HttpRequest) (previous : List UInt8) :
    outcomeOf (immediate request.bytes request.nonempty) previous = some request.bytes.length ↔
      ¬ Overflows request.first := by
  have bytes : request.bytes =
      request.first ++ lineFeed :: headerText request.headers request.last := rfl
  have size : request.bytes.length =
      request.first.length + (headerText request.headers request.last).length + 1 := by
    rw [bytes, List.length_append, List.length_cons, Nat.add_assoc]
  rw [immediate_outcome]
  by_cases fits : request.first.length < inputBufferSize
  · have notFull : ¬ Overflows request.first := fun full => Nat.not_le_of_lt fits full.1
    have line := firstLine_append request.firstPlain (headerText request.headers request.last)
    rw [← bytes] at line
    rw [lineOf_short (by rw [line.1]; exact fits), line.2,
      answer_headers request.headersPlain request.lastBlank]
    dsimp only
    apply iff_of_true _ notFull
    congr 1
    omega
  · have full : inputBufferSize ≤ request.first.length := Nat.le_of_not_lt fits
    have plain : lineFeed ∉ request.first.drop inputBufferSize :=
      fun member => request.firstPlain (List.mem_of_mem_drop member)
    have left : (request.first.drop inputBufferSize).length =
        request.first.length - inputBufferSize := List.length_drop
    rw [bytes, lineOf_long request.firstPlain full, ← bytes, List.length_append,
      List.length_cons]
    by_cases blank : ∀ c ∈ request.first.drop inputBufferSize, c = carriageReturn
    · rw [answer_blank blank]
      apply iff_of_false
      · intro same
        have headers : 0 < (headerText request.headers request.last).length :=
          List.length_pos_iff.mpr (by simp [headerText])
        have position := Option.some.inj same
        omega
      · exact fun notFull => notFull ⟨full, blank⟩
    · have text : ∃ c ∈ request.first.drop inputBufferSize, c ≠ carriageReturn := by
        by_contra none
        exact blank fun c member => by_contra fun other => none ⟨c, member, other⟩
      rw [answer_text plain text, answer_headers request.headersPlain request.lastBlank]
      apply iff_of_true
      · congr 1
        omega
      · exact fun overflows => blank overflows.2

/-- A request is answered at its end, and not before, unless its first line leaves
nothing but CR behind the full buffer. -/
theorem answeredAtEnd_iff (request : HttpRequest) (previous : List UInt8) :
    AnsweredAtEnd (immediate request.bytes request.nonempty) previous ↔
      ¬ Overflows request.first := by
  rw [answeredAtEnd_iff_outcome (immediate_timely request.nonempty)]
  exact request.outcome_iff previous

/-- A page name that makes the line, with its CR, as long as the buffer. -/
def longRequest : HttpRequest where
  first := [71, 69, 84, 32, 47] ++ List.replicate 113 97 ++ httpText ++ [47, 49, 46, 49, 13]
  headers := [[72, 111, 115, 116, 58, 32, 109, 13]]
  last := [13]
  firstPlain := by decide
  headersPlain := by decide
  lastBlank := List.forall_mem_singleton.mpr rfl

theorem longRequest_not_answeredAtEnd :
    ¬ AnsweredAtEnd (immediate longRequest.bytes longRequest.nonempty)
      (List.replicate inputBufferSize 0) := by
  rw [answeredAtEnd_iff_outcome (immediate_timely longRequest.nonempty), longRequest.outcome_iff,
    not_not]
  have full : longRequest.first.length = inputBufferSize := rfl
  have nothingLeft : longRequest.first.drop inputBufferSize = [] :=
    List.drop_eq_nil_of_le (Nat.le_of_eq full)
  constructor
  · exact Nat.le_of_eq full.symm
  · rw [nothingLeft]
    nofun

end MSniff.Concrete.Dashboard
