/-
The same stream in different segments. The loop tests once a turn whether a byte is
there; in its first turn it reads the request line and one character more, and the
-1 of a character that is still under way clears the flag.
-/

import MSniff.Concrete.DashboardAnswer

namespace MSniff.Concrete.Dashboard

structure ShortStream where
  bytes : List UInt8
  short : (firstLine bytes).length < inputBufferSize

/-- Whatever the segments and the times at which they arrive, the same call is made or
none, as long as no gap inside the first line reaches the timeout. -/
def Independent (stream : ShortStream) : Prop :=
  ∀ first second : Arrival stream.bytes, Timely first → Timely second →
    ∀ previous request, Requests first previous request ↔ Requests second previous request

def BlankNext (text : List UInt8) : Prop :=
  ∃ returns later, (∀ c ∈ returns, c = carriageReturn) ∧ text = returns ++ lineFeed :: later

/-! ### The flag -/

theorem answer_flag {text : List UInt8} (notBlank : ¬ BlankNext text) (blank : Bool)
    (consumed : Nat) : answer blank consumed text = answer false consumed text := by
  induction text generalizing consumed with
  | nil => rfl
  | cons c rest ih =>
      have other : c ≠ lineFeed := by
        intro ends
        exact notBlank ⟨[], rest, nofun, congrArg (· :: rest) ends⟩
      have step : ∀ flag, answer flag consumed (c :: rest) =
          answer (lineIsBlank flag c) (consumed + 1) rest := by
        intro flag
        rw [answer, if_neg fun ends => other ends.1]
      rw [step, step]
      by_cases isReturn : c = carriageReturn
      · have restNotBlank : ¬ BlankNext rest := by
          intro blankRest
          rcases blankRest with ⟨returns, later, blanks, whole⟩
          exact notBlank ⟨c :: returns, later, List.forall_mem_cons.mpr ⟨isReturn, blanks⟩,
            congrArg (c :: ·) whole⟩
        have keeps : ∀ flag, lineIsBlank flag c = flag := by
          intro flag
          unfold lineIsBlank
          rw [if_neg other, if_pos isReturn]
        rw [keeps, keeps]
        exact ih restNotBlank (consumed + 1)
      · have clears : ∀ flag, lineIsBlank flag c = false := by
          intro flag
          unfold lineIsBlank
          rw [if_neg other, if_neg isReturn]
        rw [clears, clears]

theorem answer_gt {blank : Bool} {consumed found : Nat} {text : List UInt8}
    (answers : answer blank consumed text = some found) : consumed < found := by
  induction text generalizing blank consumed with
  | nil => cases answers
  | cons c rest ih =>
      rw [answer] at answers
      split_ifs at answers with ends
      · cases answers
        exact Nat.lt_succ_self consumed
      · exact (Nat.lt_succ_self consumed).trans (ih answers)

theorem answer_ne_of_blankNext {text : List UInt8} (blankNext : BlankNext text)
    (consumed : Nat) :
    ∃ found, answer true consumed text = some found ∧
      answer false consumed text ≠ some found := by
  obtain ⟨returns, later, blanks, rfl⟩ := blankNext
  have plain : lineFeed ∉ returns := by
    intro member
    exact absurd (blanks lineFeed member) (by decide)
  refine ⟨_, answer_blank blanks consumed later, ?_⟩
  rw [answer_false plain]
  intro same
  exact Nat.lt_irrefl _ (answer_gt same)

/-! ### Schedules -/

variable {stream : ShortStream}

theorem lineOf_stream (stream : ShortStream) :
    lineOf inputBufferSize stream.bytes =
      (firstLine stream.bytes, afterFirstLine stream.bytes) :=
  lineOf_short stream.short

theorem opened_consumed {arrival : Arrival stream.bytes} (timely : Timely arrival)
    (previous : List UInt8) :
    (opened arrival previous).consumed =
      stream.bytes.length - (afterFirstLine stream.bytes).length := by
  obtain ⟨_, rest, within⟩ := opened_waits timely previous
  have position := congrArg List.length rest
  rw [List.length_drop, lineOf_stream] at position
  dsimp only at position
  omega

/-- Of the schedule only the flag at the end of the first turn matters. -/
theorem outcomeOf_timely {arrival : Arrival stream.bytes} (timely : Timely arrival)
    (previous : List UInt8) :
    outcomeOf arrival previous =
      answer (characterWaits arrival previous)
        (stream.bytes.length - (afterFirstLine stream.bytes).length)
        (afterFirstLine stream.bytes) := by
  unfold outcomeOf
  rw [opened_consumed timely, lineOf_stream]

theorem bytes_eq_of_blankNext (blankNext : BlankNext (afterFirstLine stream.bytes)) :
    stream.bytes.length =
      (firstLine stream.bytes).length + 1 + (afterFirstLine stream.bytes).length := by
  obtain ⟨returns, later, _, whole⟩ := blankNext
  have split := congrArg List.length
    (List.takeWhile_append_dropWhile (p := (· ≠ lineFeed)) (l := stream.bytes))
  rw [List.length_append] at split
  have behind : (afterFirstLine stream.bytes).length =
      (stream.bytes.dropWhile (· ≠ lineFeed)).length - 1 := List.length_drop
  have nonempty : 0 < (afterFirstLine stream.bytes).length := by
    rw [whole, List.length_append, List.length_cons]
    omega
  unfold firstLine
  omega

/-- The first line arrives at once and the rest a timeout later. -/
def delayed (stream : ShortStream) (blankNext : BlankNext (afterFirstLine stream.bytes)) :
    Arrival stream.bytes where
  arrived := fun time =>
    if time < timeout then (firstLine stream.bytes).length + 1 else stream.bytes.length
  monotone := by
    intro earlier later order
    have whole := bytes_eq_of_blankNext blankNext
    dsimp only
    split_ifs
    · exact Nat.le_refl _
    · omega
    · omega
    · exact Nat.le_refl _
  bounded := by
    intro time
    have whole := bytes_eq_of_blankNext blankNext
    split_ifs
    · omega
    · exact Nat.le_refl _
  complete := ⟨timeout, if_neg (Nat.lt_irrefl _)⟩
  begun := Nat.succ_pos _

theorem delayed_timely (blankNext : BlankNext (afterFirstLine stream.bytes)) :
    Timely (delayed stream blankNext) := by
  intro time index inside within _
  unfold delayed
  dsimp only
  split_ifs
  · omega
  · exact within

theorem delayed_outcome (blankNext : BlankNext (afterFirstLine stream.bytes))
    (previous : List UInt8) :
    outcomeOf (delayed stream blankNext) previous =
      answer false (stream.bytes.length - (afterFirstLine stream.bytes).length)
        (afterFirstLine stream.bytes) := by
  have timely := delayed_timely blankNext
  have whole := bytes_eq_of_blankNext blankNext
  have time : (opened (delayed stream blankNext) previous).time = 0 := by
    apply readBytesUntil_time
    change 0 + (firstLine stream.bytes).length < (firstLine stream.bytes).length + 1
    omega
  have missing : characterWaits (delayed stream blankNext) previous = false := by
    apply decide_eq_false
    rw [time, opened_consumed timely, not_not]
    change (firstLine stream.bytes).length + 1 - _ = 0
    omega
  rw [outcomeOf_timely timely, missing]

theorem not_independent (blankNext : BlankNext (afterFirstLine stream.bytes)) :
    ¬ Independent stream := by
  intro independent
  have whole := bytes_eq_of_blankNext blankNext
  have nonempty : stream.bytes ≠ [] := List.length_pos_iff.mp (by omega)
  have promptly := immediate_timely nonempty
  have late := delayed_timely blankNext
  obtain ⟨found, answers, differs⟩ := answer_ne_of_blankNext blankNext
    (stream.bytes.length - (afterFirstLine stream.bytes).length)
  have outcome := immediate_outcome nonempty []
  rw [lineOf_stream] at outcome
  have request : Requests (immediate stream.bytes nonempty) []
      ⟨found, lineBuffer stream.bytes []⟩ :=
    (requests_iff promptly [] _).mpr ⟨outcome.trans answers, rfl⟩
  rw [independent _ _ promptly late, requests_iff late, delayed_outcome] at request
  exact differs request.1

/-- The calls do not depend on the segments unless an empty line follows the first. -/
theorem independent_iff (stream : ShortStream) :
    Independent stream ↔ ¬ BlankNext (afterFirstLine stream.bytes) := by
  constructor
  · intro independent blankNext
    exact not_independent blankNext independent
  · intro notBlank first second firstTimely secondTimely previous request
    rw [requests_iff firstTimely, requests_iff secondTimely, outcomeOf_timely firstTimely,
      outcomeOf_timely secondTimely, answer_flag notBlank (characterWaits first _),
      answer_flag notBlank (characterWaits second _)]

/-- "GET / HTTP/1.0" and an empty line. -/
def bareRequest : ShortStream where
  bytes := [71, 69, 84, 32, 47] ++ httpText ++ [47, 49, 46, 48, 13, 10, 13, 10]
  short := by decide

theorem bareRequest_not_independent : ¬ Independent bareRequest := by
  apply not_independent
  exact ⟨[13], [], List.forall_mem_singleton.mpr rfl, rfl⟩

end MSniff.Concrete.Dashboard
