/-
What a request can make the dashboard read: the request line read into the buffer,
what the buffer held before behind it, and the search and the parsing over both.
-/

import MSniff.Concrete.DashboardAnswer

namespace MSniff.Concrete.Dashboard

open TextScan

/-! ### Queries that dangle -/

/-- A query that comes to a known name without a value, past pairs with values of
which none restarts the session. Before a name any "=" and before a value any "&"
are passed over. -/
inductive Dangles : List UInt8 → Prop
  | bare (skipped name : List UInt8) (skips : ∀ c ∈ skipped, c = equalsSign)
      (known : name ∈ names) : Dangles (skipped ++ name)
  | empty (skipped name ampersands : List UInt8) (skips : ∀ c ∈ skipped, c = equalsSign)
      (known : name ∈ names) (blank : ∀ c ∈ ampersands, c = ampersand) :
      Dangles (skipped ++ (name ++ equalsSign :: ampersands))
  | later (skipped name ampersands value rest : List UInt8)
      (skips : ∀ c ∈ skipped, c = equalsSign) (nameNonempty : name ≠ [])
      (namePlain : equalsSign ∉ name) (blank : ∀ c ∈ ampersands, c = ampersand)
      (valueNonempty : value ≠ []) (valuePlain : ampersand ∉ value)
      (continues : ¬ Restarts ⟨name, some value⟩) (dangles : Dangles rest) :
      Dangles (skipped ++ (name ++ equalsSign ::
        (ampersands ++ (value ++ ampersand :: rest))))

theorem name_nonempty {name : List UInt8} (known : name ∈ names) : name ≠ [] := by
  rintro rfl
  exact absurd known (by decide)

theorem name_plain : ∀ name ∈ names, equalsSign ∉ name := by decide

theorem not_dangles_nil : ¬ Dangles [] := by
  intro dangles
  generalize whole : ([] : List UInt8) = text at dangles
  cases dangles with
  | bare skipped name _ known =>
      exact name_nonempty known (List.append_eq_nil_iff.mp whole.symm).2
  | empty => simp at whole
  | later => simp at whole

variable {circumstances : Nat → Circumstances} {count : Nat} {device : Device}

theorem handleQuery_of_dangles {saved : List UInt8} (dangles : Dangles saved)
    (spiOpen : device.spiOpen = true) :
    (handleQuery circumstances count device saved).2 = .error .nullDereference := by
  induction dangles generalizing count device with
  | bare skipped name skips known =>
      have cuts := (Cut.last skipped name (forall_mem_singleton_iff.mpr skips)
        (name_nonempty known) (forall_not_mem_singleton_iff.mpr (name_plain name known))).strtok
      have fails := handleParameterChange_of_readsNull
        ⟨⟨name, none⟩, circumstances count⟩ ⟨known, rfl⟩ device
      rw [handleQuery_error cuts fails]
  | empty skipped name ampersands skips known blank =>
      have cuts := (Cut.delimited skipped name equalsSign ampersands
        (forall_mem_singleton_iff.mpr skips) (name_nonempty known)
        (forall_not_mem_singleton_iff.mpr (name_plain name known))
        (List.mem_singleton_self _)).strtok
      have noValue : (strtok [ampersand] ampersands).1 = none := by
        rw [strtok_none (forall_mem_singleton_iff.mpr blank)]
      have fails := handleParameterChange_of_readsNull
        ⟨⟨name, (strtok [ampersand] ampersands).1⟩, circumstances count⟩
        ⟨known, noValue⟩ device
      rw [handleQuery_error cuts fails]
  | later skipped name ampersands value rest skips nameNonempty namePlain blank valueNonempty
      valuePlain continues _ ih =>
      have cuts := (Cut.delimited skipped name equalsSign
        (ampersands ++ (value ++ ampersand :: rest)) (forall_mem_singleton_iff.mpr skips)
        nameNonempty (forall_not_mem_singleton_iff.mpr namePlain)
        (List.mem_singleton_self _)).strtok
      have given := (Cut.delimited ampersands value ampersand rest
        (forall_mem_singleton_iff.mpr blank) valueNonempty
        (forall_not_mem_singleton_iff.mpr valuePlain) (List.mem_singleton_self _)).strtok
      obtain ⟨next, succeeds, sameSpi⟩ := handleParameterChange_of_harmless
        ⟨⟨name, some value⟩, circumstances count⟩ nofun continues device
      rw [handleQuery_ok cuts (by rw [given]; exact succeeds), given]
      exact ih (sameSpi.trans spiOpen)

theorem dangles_of_handleQuery {saved : List UInt8} (spiOpen : device.spiOpen = true)
    (halts : (handleQuery circumstances count device saved).2 = .error .nullDereference) :
    Dangles saved := by
  fun_induction handleQuery circumstances count device saved with
  | case1 => cases halts
  | case2 count device saved parameter rest cuts arguments halt fails =>
      cases halts
      have outcomes := handleParameterChange_cases ⟨arguments, circumstances count⟩ spiOpen
      rw [fails] at outcomes
      rcases outcomes with ⟨⟨known, noValue⟩, _⟩ | ⟨_, _, looped⟩ | ⟨_, _, _, returned, _⟩
      case inr.inl => cases looped
      case inr.inr => cases returned
      cases cut_of_strtok cuts with
      | last skipped _ skips =>
          exact .bare skipped parameter (forall_mem_singleton_iff.mp skips) known
      | delimited skipped _ delimiter _ skips _ _ delimits =>
          obtain rfl := List.mem_singleton.mp delimits
          rcases strtok_cases [ampersand] rest with ⟨blank, _⟩ | ⟨value, _, _, given⟩
          · exact .empty skipped parameter rest (forall_mem_singleton_iff.mp skips) known
              (forall_mem_singleton_iff.mp blank)
          · change (strtok [ampersand] rest).1 = none at noValue
            rw [given] at noValue
            cases noValue
  | case3 count device saved parameter rest cuts arguments next succeeds made result later ih =>
      have outcomes := handleParameterChange_cases ⟨arguments, circumstances count⟩ spiOpen
      rw [succeeds] at outcomes
      rcases outcomes with ⟨_, halted⟩ | ⟨_, _, looped⟩ | ⟨_, continues, _, returned, nextOpen⟩
      case inl => cases halted
      case inr.inl => cases looped
      cases returned
      rw [later] at ih
      have dangles := ih nextOpen halts
      change ¬ Restarts ⟨parameter, (strtok [ampersand] rest).1⟩ at continues
      cases cut_of_strtok cuts with
      | last => exact absurd dangles not_dangles_nil
      | delimited skipped _ nameEnd _ skips nameNonempty namePlain nameEnds =>
          obtain rfl := List.mem_singleton.mp nameEnds
          rcases strtok_cases [ampersand] rest with ⟨_, none⟩ | ⟨value, behind, valueCut, given⟩
          · rw [none] at dangles
            exact absurd dangles not_dangles_nil
          · rw [given] at dangles continues
            cases valueCut with
            | last => exact absurd dangles not_dangles_nil
            | delimited ampersands _ valueEnd _ blank valueNonempty valuePlain valueEnds =>
                obtain rfl := List.mem_singleton.mp valueEnds
                exact .later skipped parameter ampersands value behind
                  (forall_mem_singleton_iff.mp skips) nameNonempty
                  (forall_not_mem_singleton_iff.mp namePlain)
                  (forall_mem_singleton_iff.mp blank) valueNonempty
                  (forall_not_mem_singleton_iff.mp valuePlain) continues dangles

theorem handleQuery_null_iff (spiOpen : device.spiOpen = true) (saved : List UInt8) :
    (handleQuery circumstances count device saved).2 = .error .nullDereference ↔
      Dangles saved := by
  constructor
  · exact dangles_of_handleQuery spiOpen
  · intro dangles
    exact handleQuery_of_dangles dangles spiOpen

/-! ### Received lines -/

/-- The bytes a connection can leave in the buffer: a line up to its line feed, to the
end of the buffer or to a pause as long as the timeout. -/
structure ReceivedLine where
  bytes : List UInt8
  plain : lineFeed ∉ bytes
  fits : bytes.length ≤ inputBufferSize

theorem readBytesUntil_plain {stream : List UInt8} (arrival : Arrival stream)
    (length consumed time : Nat) :
    lineFeed ∉ (readBytesUntil arrival lineFeed length consumed time).stored ∧
      (readBytesUntil arrival lineFeed length consumed time).stored.length ≤ length := by
  induction length generalizing consumed time with
  | zero => exact ⟨List.not_mem_nil, Nat.le_refl _⟩
  | succ length ih =>
      rw [readBytesUntil]
      split
      · exact ⟨List.not_mem_nil, Nat.zero_le _⟩
      · rename_i c later _
        obtain ⟨plain, fits⟩ := ih (consumed + 1) later
        split_ifs with ends
        · exact ⟨List.not_mem_nil, Nat.zero_le _⟩
        · constructor
          · intro stored
            rcases stored with _ | ⟨_, member⟩
            · exact ends rfl
            · exact plain member
          · exact Nat.succ_le_succ fits

def receivedLine {stream : List UInt8} (arrival : Arrival stream) : ReceivedLine where
  bytes := (readBytesUntil arrival lineFeed inputBufferSize 0 0).stored
  plain := (readBytesUntil_plain arrival inputBufferSize 0 0).1
  fits := (readBytesUntil_plain arrival inputBufferSize 0 0).2

/-- What else there is when a line is received: the stream it begins, the times at
which that arrives, the buffer as earlier connections have left it and the memory
behind the buffer. -/
structure Surroundings (line : ReceivedLine) where
  stream : List UInt8
  arrival : Arrival stream
  received : (receivedLine arrival).bytes = line.bytes
  previous : List UInt8
  previousSize : previous.length = inputBufferSize
  beyond : List UInt8

def handled (started : StartedDevice) (circumstances : Nat → Circumstances)
    {line : ReceivedLine} (around : Surroundings line) : Handled :=
  handleHttp circumstances started.device
    ((opened around.arrival around.previous).incomingBuffer ++ around.beyond)

/-- No null pointer is dereferenced, no byte is read that was not received, and the
parameter changes do not depend on any other. -/
structure Confined (started : StartedDevice) (line : ReceivedLine) : Prop where
  noNull : ∀ circumstances (around : Surroundings line),
    (handled started circumstances around).result ≠ .error .nullDereference
  within : ∀ circumstances (around : Surroundings line),
    (handled started circumstances around).bytesRead ≤ line.bytes.length
  determined : ∀ circumstances (first second : Surroundings line),
    (handled started circumstances first).made = (handled started circumstances second).made

def queryOf (text : List UInt8) : List UInt8 :=
  ((text.dropWhile (· = questionMark)).dropWhile (· ≠ questionMark)).drop 1

/-- " HTTP" is received, no NUL before it, and the query before it does not dangle. -/
def WellFormed (line : ReceivedLine) : Prop :=
  ∃ text, 0 ∉ text ∧ FirstOccurrence httpText text line.bytes ∧ ¬ Dangles (queryOf text)

theorem strtok_queryOf (text : List UInt8) :
    (strtok [questionMark] text).2 = queryOf text := by
  rw [strtok_rest]
  simp only [List.mem_singleton]
  rfl

theorem opened_buffer {line : ReceivedLine} (around : Surroundings line) :
    (opened around.arrival around.previous).incomingBuffer =
      line.bytes ++ around.previous.drop line.bytes.length := by
  rw [← around.received]
  rfl

theorem handled_eq (started : StartedDevice) (circumstances : Nat → Circumstances)
    {line : ReceivedLine} {text : List UInt8} (plain : 0 ∉ text)
    (occurs : FirstOccurrence httpText text line.bytes) (around : Surroundings line) :
    handled started circumstances around =
      ⟨text.length + httpText.length,
        (handleQuery circumstances 0 started.device (queryOf text)).1,
        (handleQuery circumstances 0 started.device (queryOf text)).2⟩ := by
  have found := occurs.strstr_append (List.cons_ne_nil _ _) plain
    (around.previous.drop line.bytes.length ++ around.beyond)
  rw [← List.append_assoc] at found
  unfold handled
  rw [opened_buffer, handleHttp_found found, strtok_queryOf]

theorem confined_of_wellFormed (started : StartedDevice) {line : ReceivedLine}
    (wellFormed : WellFormed line) : Confined started line := by
  obtain ⟨text, plain, occurs, notDangles⟩ := wellFormed
  constructor
  · intro circumstances around null
    rw [handled_eq started circumstances plain occurs] at null
    exact notDangles ((handleQuery_null_iff started.spiOpen _).mp null)
  · intro circumstances around
    rw [handled_eq started circumstances plain occurs]
    have size := occurs.here.length_le
    rw [List.length_append] at size
    exact size
  · intro circumstances first second
    rw [handled_eq started circumstances plain occurs, handled_eq started circumstances plain occurs]

theorem receivedLine_timely {stream : List UInt8} {arrival : Arrival stream}
    (timely : Timely arrival) :
    (receivedLine arrival).bytes = (firstLine stream).take inputBufferSize := by
  obtain ⟨waits, _⟩ := opened_waits timely []
  have stored := waits.sameBuffer
  have buffer : (opened arrival []).incomingBuffer =
      (receivedLine arrival).bytes ++ [].drop (receivedLine arrival).bytes.length := rfl
  rw [buffer, lineBuffer, List.drop_nil, List.drop_nil, List.append_nil, List.append_nil,
    lineOf_stored] at stored
  exact stored

def cleared (line : ReceivedLine) : Surroundings line where
  stream := line.bytes ++ lineFeed :: []
  arrival := immediate _ (List.append_ne_nil_of_right_ne_nil _ (List.cons_ne_nil _ _))
  received := by
    rw [receivedLine_timely (immediate_timely _), (firstLine_append line.plain []).1,
      List.take_of_length_le line.fits]
  previous := List.replicate inputBufferSize 0
  previousSize := List.length_replicate
  beyond := [0]

theorem cleared_memory (line : ReceivedLine) :
    ∃ behind, (opened (cleared line).arrival (cleared line).previous).incomingBuffer ++
      (cleared line).beyond = line.bytes ++ 0 :: behind := by
  refine ⟨List.replicate (inputBufferSize - line.bytes.length) 0, ?_⟩
  rw [opened_buffer, List.append_assoc]
  unfold cleared
  rw [List.drop_replicate, ← List.replicate_succ', List.replicate_succ]

theorem wellFormed_of_confined {started : StartedDevice} {line : ReceivedLine}
    (confined : Confined started line) : WellFormed line := by
  have notNull := confined.noNull (fun _ => ⟨⟨fun _ => 0⟩, none⟩) (cleared line)
  obtain ⟨behind, memory⟩ := cleared_memory line
  unfold handled at notNull
  rw [memory] at notNull
  cases search : strstr 0 httpText (line.bytes ++ 0 :: behind) with
  | beyond => exact absurd search (strstr_ne_beyond (List.mem_append_right _ List.mem_cons_self))
  | missing before =>
      unfold handleHttp at notNull
      rw [search] at notNull
      exact absurd rfl notNull
  | found text =>
      obtain ⟨plain, occurs⟩ := strstr_found search
      have plainAll : 0 ∉ text ++ httpText := by
        rw [List.mem_append, not_or]
        exact ⟨plain, by decide⟩
      refine ⟨text, plain, ⟨?_, ?_⟩, ?_⟩
      · exact prefix_of_prefix_terminated plainAll occurs.here
      · intro shorter earlier
        exact occurs.first shorter (earlier.trans (List.prefix_append _ _))
      · intro dangles
        rw [handleHttp_found search, strtok_queryOf] at notNull
        exact notNull ((handleQuery_null_iff started.spiOpen _).mpr dangles)

/-- A request is handled within what is received of its line where the search ends
there and the query does not dangle. -/
theorem confined_iff (started : StartedDevice) (line : ReceivedLine) :
    Confined started line ↔ WellFormed line := by
  constructor
  · exact wellFormed_of_confined
  · exact confined_of_wellFormed started

/-- "GET /", a line without " HTTP". -/
def simpleRequest : ReceivedLine := ⟨[71, 69, 84, 32, 47], by decide, by decide⟩

theorem simpleRequest_not_confined :
    ∃ started : StartedDevice, ethernetBeginMac none poweredDevice = .ok started.device ∧
      ¬ Confined started simpleRequest := by
  obtain ⟨started, begun⟩ := exists_started
  refine ⟨started, begun, ?_⟩
  intro confined
  obtain ⟨text, _, occurs, _⟩ := wellFormed_of_confined confined
  have contained : httpText <:+: simpleRequest.bytes :=
    (List.suffix_append text httpText).isInfix.trans occurs.here.isInfix
  exact absurd contained (by decide)

end MSniff.Concrete.Dashboard
