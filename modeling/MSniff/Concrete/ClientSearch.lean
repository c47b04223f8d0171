/-
The search functions of EthernetClient.c: several texts sought at once in what a client
sends, byte by byte as it arrives and without a buffer.
-/

import MSniff.PrefixSearch
import MSniff.Concrete.DashboardAnswer

namespace MSniff.Concrete.ClientSearch

open Dashboard PrefixSearch

/-! ### The functions -/

/-- `str` is the text as far as `len` goes. -/
structure MultiTarget where
  str : List UInt8
  index : Nat

/-- The loop that walks back from a mismatch, from this index on. -/
def walkBack (str : List UInt8) (origIndex : Nat) (c : UInt8) : Nat → Nat
  | 0 => 0
  | index + 1 =>
      if c ≠ str.getD index 0 then walkBack str origIndex c index
      else if index = 0 then 1
      else if str.take index = (str.drop (origIndex - index)).take index then index + 1
      else walkBack str origIndex c index

/-- What a character does to a target, `none` where it completes it. -/
def MultiTarget.next (target : MultiTarget) (c : UInt8) : Option MultiTarget :=
  if c = target.str.getD target.index 0 then
    if target.index + 1 = target.str.length then none
    else some { target with index := target.index + 1 }
  else if target.index = 0 then some target
  else some { target with index := walkBack target.str target.index c target.index }

/-- The loop over the targets: the number of the first that is complete, or all of them. -/
def nextTargets (c : UInt8) : List MultiTarget → Nat ⊕ List MultiTarget
  | [] => .inr []
  | target :: rest =>
      match target.next c with
      | none => .inl 0
      | some next =>
          match nextTargets c rest with
          | .inl number => .inl (number + 1)
          | .inr later => .inr (next :: later)

structure Search where
  result : Option Nat
  consumed : Nat
  time : Nat

variable {stream : List UInt8}

/-- The first argument is how many bytes of the stream are still to be read; without any
`timedRead` runs into its timeout. `none` stands for the result -1. -/
def findLoop (arrival : Arrival stream) : Nat → List MultiTarget → Nat → Nat → Search
  | 0, _, consumed, time => ⟨none, consumed, (timedRead arrival consumed time).2⟩
  | left + 1, targets, consumed, time =>
      match timedRead arrival consumed time with
      | (none, later) => ⟨none, consumed, later⟩
      | (some c, later) =>
          match nextTargets c targets with
          | .inl number => ⟨some number, consumed + 1, later⟩
          | .inr next => findLoop arrival left next (consumed + 1) later

def findMulti (arrival : Arrival stream) (targets : List MultiTarget) (consumed time : Nat) :
    Search :=
  match targets.findIdx? (·.str.length = 0) with
  | some number => ⟨some number, consumed, time⟩
  | none => findLoop arrival (stream.length - consumed) targets consumed time

/-- `find` is the case without a terminator. -/
def findUntil (arrival : Arrival stream) (target : List UInt8) (terminator : Option (List UInt8))
    (consumed time : Nat) : Bool × Search :=
  let search := match terminator with
    | none => findMulti arrival [⟨target, 0⟩] consumed time
    | some terminator => findMulti arrival [⟨target, 0⟩, ⟨terminator, 0⟩] consumed time
  (search.result = some 0, search)

/-! ### A mismatch -/

theorem border_check {str : List UInt8} {index origIndex : Nat} (below : index ≤ origIndex)
    (inside : origIndex < str.length) :
    str.take index = (str.drop (origIndex - index)).take index ↔
      str.take index <:+ str.take origIndex := by
  have cut : (str.take origIndex).drop (origIndex - index) =
      (str.drop (origIndex - index)).take index := by
    rw [List.drop_take, Nat.sub_sub_self below]
  rw [List.suffix_iff_eq_drop, List.length_take, List.length_take, Nat.min_eq_left inside.le,
    Nat.min_eq_left (below.trans inside.le), cut]

/-- The walk back ends at the longest part that the character continues. -/
theorem walkBack_spec {str : List UInt8} {origIndex : Nat} {c : UInt8}
    (inside : origIndex < str.length) {index : Nat} (below : index ≤ origIndex) :
    (walkBack str origIndex c index = 0 ∨ ∃ shorter < index,
      walkBack str origIndex c index = shorter + 1 ∧ str[shorter]? = some c ∧
        str.take shorter <:+ str.take origIndex) ∧
      ∀ shorter < index, str[shorter]? = some c → str.take shorter <:+ str.take origIndex →
        shorter < walkBack str origIndex c index := by
  induction index with
  | zero => exact ⟨.inl rfl, fun _ impossible => absurd impossible (Nat.not_lt_zero _)⟩
  | succ index ih =>
      obtain ⟨reached, longest⟩ := ih (Nat.le_of_succ_le below)
      have character : str[index]? = some (str.getD index 0) := by
        have present : index < str.length := Nat.lt_of_lt_of_le below inside.le
        rw [List.getD_eq_getElem?_getD, List.getElem?_eq_getElem present]
        rfl
      -- Further back: what holds below this index, where it is none itself.
      have further : walkBack str origIndex c (index + 1) = walkBack str origIndex c index →
          ¬ (str[index]? = some c ∧ str.take index <:+ str.take origIndex) →
            (walkBack str origIndex c (index + 1) = 0 ∨ ∃ shorter < index + 1,
              walkBack str origIndex c (index + 1) = shorter + 1 ∧ str[shorter]? = some c ∧
                str.take shorter <:+ str.take origIndex) ∧
              ∀ shorter < index + 1, str[shorter]? = some c →
                str.take shorter <:+ str.take origIndex →
                  shorter < walkBack str origIndex c (index + 1) := by
        intro same notHere
        rw [same]
        constructor
        · rcases reached with none | ⟨shorter, less, rest⟩
          · exact .inl none
          · exact .inr ⟨shorter, less.trans (Nat.lt_succ_self index), rest⟩
        · intro shorter less continues border
          rcases Nat.lt_succ_iff_lt_or_eq.mp less with smaller | equal
          · exact longest shorter smaller continues border
          · rw [equal] at continues border
            exact absurd ⟨continues, border⟩ notHere
      by_cases mismatch : c ≠ str.getD index 0
      · apply further
        · rw [walkBack, if_pos mismatch]
        · rintro ⟨continues, _⟩
          rw [character] at continues
          exact mismatch (Option.some_inj.mp continues).symm
      · have continues : str[index]? = some c := by
          rw [character, not_not.mp mismatch]
        by_cases first : index = 0
        · have value : walkBack str origIndex c (index + 1) = 1 := by
            rw [walkBack, if_neg mismatch, if_pos first]
          rw [value]
          subst first
          exact ⟨.inr ⟨0, Nat.one_pos, rfl, continues, List.nil_suffix⟩, fun _ less _ _ => less⟩
        · have check := @border_check str index origIndex (Nat.le_of_succ_le below) inside
          by_cases border : str.take index = (str.drop (origIndex - index)).take index
          · have value : walkBack str origIndex c (index + 1) = index + 1 := by
              rw [walkBack, if_neg mismatch, if_neg first, if_pos border]
            rw [value]
            exact ⟨.inr ⟨index, Nat.lt_succ_self index, rfl, continues, check.mp border⟩,
              fun _ less _ _ => less⟩
          · apply further
            · rw [walkBack, if_neg mismatch, if_neg first, if_neg border]
            · rintro ⟨_, held⟩
              exact border (check.mpr held)

/-! ### One character -/

/-- A character completes a target, or the target is tracked past it. -/
theorem MultiTarget.next_spec {target : MultiTarget} {text : List UInt8}
    (tracks : Tracks target.str text target.index) (c : UInt8) :
    match target.next c with
    | none => target.str <:+ text ++ [c]
    | some next => next.str = target.str ∧ Tracks target.str (text ++ [c]) next.index := by
  have character : target.str[target.index]? = some (target.str.getD target.index 0) := by
    rw [List.getD_eq_getElem?_getD, List.getElem?_eq_getElem tracks.proper]
    rfl
  unfold MultiTarget.next
  by_cases same : c = target.str.getD target.index 0
  · have advanced := tracks.advance (character.trans (congrArg some same.symm))
    rw [if_pos same]
    by_cases complete : target.index + 1 = target.str.length
    · rw [if_pos complete]
      exact advanced.1 complete
    · rw [if_neg complete]
      exact ⟨rfl, advanced.2 complete⟩
  · have stops : target.str[target.index]? ≠ some c := by
      rw [character]
      exact fun known => same (Option.some_inj.mp known).symm
    rw [if_neg same]
    by_cases start : target.index = 0
    · rw [if_pos start]
      refine ⟨rfl, tracks.fall stops ?_⟩
      rw [start]
      exact ⟨.inl rfl, fun _ impossible => absurd impossible (Nat.not_lt_zero _)⟩
    · rw [if_neg start]
      obtain ⟨reached, longest⟩ := @walkBack_spec target.str target.index c tracks.proper
        target.index (Nat.le_refl _)
      exact ⟨rfl, tracks.fall stops ⟨reached, longest⟩⟩

/-! ### All targets -/

/-- This text and none before it has occurred at the end. -/
structure Finds (strs : List (List UInt8)) (text : List UInt8) (number : Nat) : Prop where
  found : ∃ str, strs[number]? = some str ∧ str <:+ text
  first : ∀ earlier < number, ∀ str, strs[earlier]? = some str → ¬ str <:+ text

def Tracking (text : List UInt8) (targets : List MultiTarget) : Prop :=
  ∀ target ∈ targets, Tracks target.str text target.index

theorem nextTargets_spec {text : List UInt8} {targets : List MultiTarget}
    (tracking : Tracking text targets) (c : UInt8) :
    match nextTargets c targets with
    | .inl number => Finds (targets.map MultiTarget.str) (text ++ [c]) number
    | .inr later =>
        later.map MultiTarget.str = targets.map MultiTarget.str ∧ Tracking (text ++ [c]) later := by
  induction targets with
  | nil => exact ⟨rfl, List.forall_mem_nil _⟩
  | cons target rest ih =>
      obtain ⟨tracks, others⟩ := List.forall_mem_cons.mp tracking
      have advanced := MultiTarget.next_spec tracks c
      have remaining := ih others
      unfold nextTargets
      cases result : target.next c with
      | none =>
          rw [result] at advanced
          exact ⟨⟨target.str, rfl, advanced⟩, fun _ less => absurd less (Nat.not_lt_zero _)⟩
      | some next =>
          rw [result] at advanced
          obtain ⟨same, after⟩ := advanced
          cases later : nextTargets c rest with
          | inl number =>
              rw [later] at remaining
              refine ⟨remaining.found, fun earlier less str known => ?_⟩
              cases earlier with
              | zero =>
                  have here : target.str = str := Option.some_inj.mp known
                  rw [← here]
                  exact after.not_occurs
              | succ before => exact remaining.first before (Nat.lt_of_succ_lt_succ less) str known
          | inr nexts =>
              rw [later] at remaining
              constructor
              · rw [List.map_cons, List.map_cons, same, remaining.1]
              · intro either member
                rcases List.mem_cons.mp member with first | other
                · rw [first, same]
                  exact after
                · exact remaining.2 either other

/-! ### The loop -/

theorem timedReadLoop_reads {arrival : Arrival stream} {consumed left time later : Nat} {c : UInt8}
    (read : timedReadLoop arrival consumed left time = (some c, later)) :
    stream[consumed]? = some c := by
  have byte : ∀ time, readByte arrival consumed time = some c → stream[consumed]? = some c := by
    intro time present
    unfold readByte at present
    split at present
    · cases present
    · exact present
  induction left generalizing time with
  | zero => exact byte time (congrArg Prod.fst read)
  | succ left ih =>
      rw [timedReadLoop] at read
      cases now : readByte arrival consumed time with
      | none =>
          rw [now] at read
          exact ih read
      | some d =>
          rw [now] at read
          have same : some d = some c := congrArg Prod.fst read
          exact byte time (now.trans same)

/-- A byte waited for from this time on is read as soon as it has arrived. -/
structure ReadAt (arrival : Arrival stream) (consumed time next : Nat) : Prop where
  waits : time ≤ next
  inTime : next ≤ time + timeout
  arrived : consumed < arrival.arrived next
  earliest : ∀ earlier, time ≤ earlier → earlier < next → arrival.arrived earlier ≤ consumed

/-- So many bytes are read one after the other, the last of them at this time. -/
inductive Reads (arrival : Arrival stream) : Nat → Nat → Nat → Nat → Prop
  | none {consumed time : Nat} : Reads arrival consumed time 0 time
  | next {consumed time next count last : Nat} (first : ReadAt arrival consumed time next)
      (rest : Reads arrival (consumed + 1) next count last) :
      Reads arrival consumed time (count + 1) last

theorem not_arrived {arrival : Arrival stream} {consumed time : Nat}
    (nothing : readByte arrival consumed time = none) : arrival.arrived time ≤ consumed := by
  by_contra arrived
  have inside := (Nat.lt_of_not_le arrived).trans_le (arrival.bounded time)
  rw [readByte_eq (List.drop_eq_getElem_cons inside) (Nat.lt_of_not_le arrived)] at nothing
  cases nothing

theorem timedReadLoop_readAt {arrival : Arrival stream} {consumed left time next : Nat} {c : UInt8}
    (read : timedReadLoop arrival consumed left time = (some c, next)) :
    time ≤ next ∧ next ≤ time + left ∧ consumed < arrival.arrived next ∧
      ∀ earlier, time ≤ earlier → earlier < next → arrival.arrived earlier ≤ consumed := by
  have now {time : Nat} {c : UInt8} (present : readByte arrival consumed time = some c) :
      consumed < arrival.arrived time := by
    by_contra late
    rw [readByte_none (Nat.le_of_not_lt late)] at present
    cases present
  induction left generalizing time with
  | zero =>
      obtain rfl : time = next := congrArg Prod.snd read
      exact ⟨Nat.le_refl _, Nat.le_add_right _ _, now (congrArg Prod.fst read),
        fun earlier after before => absurd after (Nat.not_le_of_lt before)⟩
  | succ left ih =>
      rw [timedReadLoop] at read
      cases present : readByte arrival consumed time with
      | some d =>
          rw [present] at read
          obtain rfl : time = next := congrArg Prod.snd read
          exact ⟨Nat.le_refl _, Nat.le_add_right _ _, now present,
            fun earlier after before => absurd after (Nat.not_le_of_lt before)⟩
      | none =>
          rw [present] at read
          obtain ⟨waits, inTime, arrived, earliest⟩ := ih read
          refine ⟨Nat.le_of_succ_le waits, by omega, arrived, fun earlier after before => ?_⟩
          rcases Nat.eq_or_lt_of_le after with same | later
          · rw [← same]
            exact not_arrived present
          · exact earliest earlier later before

theorem timedReadLoop_late {arrival : Arrival stream} {consumed left time later : Nat}
    (read : timedReadLoop arrival consumed left time = (none, later)) :
    later = time + left ∧ arrival.arrived later ≤ consumed := by
  induction left generalizing time with
  | zero =>
      obtain rfl : time = later := congrArg Prod.snd read
      exact ⟨rfl, not_arrived (congrArg Prod.fst read)⟩
  | succ left ih =>
      rw [timedReadLoop] at read
      cases present : readByte arrival consumed time with
      | some c =>
          rw [present] at read
          cases read
      | none =>
          rw [present] at read
          obtain ⟨same, late⟩ := ih read
          exact ⟨by omega, late⟩

/-- How a search for these texts ends that has this text behind it and reads on at this
byte from this time on: after so many bytes, the last of them read at its time and none of
the texts having occurred before. Either one occurs with that byte, or none does and no
other byte has arrived when the timeout after it is over. -/
structure Ends (arrival : Arrival stream) (strs : List (List UInt8)) (text : List UInt8)
    (consumed time : Nat) (search : Search) (count last : Nat) : Prop where
  reads : Reads arrival consumed time count last
  position : search.consumed = consumed + count
  before : ∀ earlier < count, ∀ str ∈ strs,
    ¬ str <:+ text ++ (stream.drop consumed).take earlier
  result : match search.result with
    | some number =>
        search.time = last ∧ Finds strs (text ++ (stream.drop consumed).take count) number
    | none =>
        search.time = last + timeout ∧ arrival.arrived search.time ≤ search.consumed ∧
          ∀ str ∈ strs, ¬ str <:+ text ++ (stream.drop consumed).take count

theorem Tracking.none_occurs {text : List UInt8} {targets : List MultiTarget}
    (tracking : Tracking text targets) :
    ∀ str ∈ targets.map MultiTarget.str, ¬ str <:+ text := by
  intro str member
  obtain ⟨target, present, rfl⟩ := List.mem_map.mp member
  exact (tracking target present).not_occurs

theorem ends_late {arrival : Arrival stream} {text : List UInt8} {targets : List MultiTarget}
    {consumed time later : Nat} (tracking : Tracking text targets)
    (read : timedRead arrival consumed time = (none, later)) :
    Ends arrival (targets.map MultiTarget.str) text consumed time ⟨none, consumed, later⟩ 0
      time where
  reads := .none
  position := rfl
  before := fun _ less => absurd less (Nat.not_lt_zero _)
  result := by
    obtain ⟨same, late⟩ := timedReadLoop_late read
    refine ⟨same, late, ?_⟩
    rw [List.take_zero, List.append_nil]
    exact tracking.none_occurs

theorem drop_of_read {arrival : Arrival stream} {consumed time later : Nat} {c : UInt8}
    (read : timedRead arrival consumed time = (some c, later)) :
    stream.drop consumed = c :: stream.drop (consumed + 1) := by
  have present := timedReadLoop_reads read
  obtain ⟨inside, value⟩ := List.getElem?_eq_some_iff.mp present
  rw [List.drop_eq_getElem_cons inside, value]

/-- A search that reads on behind one more byte, seen from before it. -/
theorem Ends.prepend {arrival : Arrival stream} {strs : List (List UInt8)} {text : List UInt8}
    {consumed time next count last : Nat} {search : Search} {c : UInt8}
    (ends : Ends arrival strs (text ++ [c]) (consumed + 1) next search count last)
    (read : ReadAt arrival consumed time next)
    (byte : stream.drop consumed = c :: stream.drop (consumed + 1))
    (none : ∀ str ∈ strs, ¬ str <:+ text) :
    Ends arrival strs text consumed time search (count + 1) last := by
  have longer : ∀ length, text ++ (stream.drop consumed).take (length + 1) =
      text ++ [c] ++ (stream.drop (consumed + 1)).take length := by
    intro length
    rw [byte, List.take_succ_cons, List.append_assoc]
    rfl
  constructor
  · exact .next read ends.reads
  · rw [ends.position, Nat.add_assoc, Nat.add_comm 1 count]
  · intro earlier less
    cases earlier with
    | zero =>
        rw [List.take_zero, List.append_nil]
        exact none
    | succ before =>
        rw [longer]
        exact ends.before before (Nat.lt_of_succ_lt_succ less)
  · rw [longer]
    exact ends.result

theorem findLoop_ends {arrival : Arrival stream} {text : List UInt8} {targets : List MultiTarget}
    {left consumed : Nat} (tracking : Tracking text targets)
    (remaining : stream.length - consumed = left) (time : Nat) :
    ∃ count last, Ends arrival (targets.map MultiTarget.str) text consumed time
      (findLoop arrival left targets consumed time) count last := by
  induction left generalizing text targets consumed time with
  | zero =>
      have read : timedRead arrival consumed time = (none, time + timeout) :=
        timedReadLoop_none (Nat.le_of_sub_eq_zero remaining) timeout time
      rw [findLoop, read]
      exact ⟨0, time, ends_late tracking read⟩
  | succ left ih =>
      unfold findLoop
      cases read : timedRead arrival consumed time with
      | mk byte later =>
          cases byte with
          | none => exact ⟨0, time, ends_late tracking read⟩
          | some c =>
              have text_c := drop_of_read read
              have after := nextTargets_spec tracking c
              obtain ⟨waits, inTime, arrived, earliest⟩ := timedReadLoop_readAt read
              have readAt : ReadAt arrival consumed time later := ⟨waits, inTime, arrived, earliest⟩
              simp only
              cases result : nextTargets c targets with
              | inl number =>
                  rw [result] at after
                  refine ⟨1, later, .next readAt .none, rfl, fun earlier less => ?_, rfl, ?_⟩
                  · rw [Nat.lt_one_iff.mp less, List.take_zero, List.append_nil]
                    exact tracking.none_occurs
                  · rw [text_c]
                    exact after
              | inr next =>
                  rw [result] at after
                  obtain ⟨same, tracked⟩ := after
                  have behind : stream.length - (consumed + 1) = left := by omega
                  obtain ⟨count, last, ends⟩ := ih tracked behind later
                  rw [same] at ends
                  exact ⟨count + 1, last, ends.prepend readAt text_c tracking.none_occurs⟩

/-! ### Searches -/

def targetsOf (strs : List (List UInt8)) : List MultiTarget := strs.map fun str => ⟨str, 0⟩

theorem targetsOf_str (strs : List (List UInt8)) :
    (targetsOf strs).map MultiTarget.str = strs := by
  induction strs with
  | nil => rfl
  | cons str rest ih => exact congrArg (str :: ·) ih

/-- An empty text is found before any byte is read. -/
theorem findMulti_ends (arrival : Arrival stream) (strs : List (List UInt8)) (consumed time : Nat) :
    ∃ count last, Ends arrival strs [] consumed time
      (findMulti arrival (targetsOf strs) consumed time) count last := by
  unfold findMulti
  cases empty : (targetsOf strs).findIdx? (·.str.length = 0) with
  | none =>
      have nonempty := List.findIdx?_eq_none_iff.mp empty
      have tracking : Tracking [] (targetsOf strs) := by
        intro target member
        obtain ⟨str, _, rfl⟩ := List.mem_map.mp member
        apply Tracks.start
        intro none
        have some := of_decide_eq_false (nonempty _ member)
        exact some (List.length_eq_zero_iff.mpr none)
      have ends := @findLoop_ends stream arrival [] (targetsOf strs) _ consumed tracking rfl time
      rw [targetsOf_str] at ends
      exact ends
  | some number =>
      rw [targetsOf, List.findIdx?_map] at empty
      obtain ⟨inside, found, first⟩ := List.findIdx?_eq_some_iff_getElem.mp empty
      refine ⟨0, time, .none, rfl, fun _ less => absurd less (Nat.not_lt_zero _), rfl,
        ⟨[], ?_, List.nil_suffix⟩, ?_⟩
      · rw [List.getElem?_eq_getElem inside]
        exact congrArg some (List.length_eq_zero_iff.mp (of_decide_eq_true found))
      · intro earlier less str known suffix
        obtain ⟨present, same⟩ := List.getElem?_eq_some_iff.mp known
        apply first earlier less
        rw [Function.comp_apply, same, List.suffix_nil.mp suffix]
        rfl

/-- A text is found before a terminator that ends no earlier. -/
theorem findUntil_iff (arrival : Arrival stream) (target terminator : List UInt8)
    (consumed time : Nat) :
    let found := findUntil arrival target (some terminator) consumed time
    found.1 = true ↔ ∃ count, found.2.consumed = consumed + count ∧
      target <:+ (stream.drop consumed).take count ∧
        ∀ earlier < count, ¬ terminator <:+ (stream.drop consumed).take earlier := by
  intro found
  obtain ⟨count, last, ends⟩ := findMulti_ends arrival [target, terminator] consumed time
  have result : found.1 = true ↔ found.2.result = some 0 := decide_eq_true_iff
  have search : found.2 = findMulti arrival (targetsOf [target, terminator]) consumed time := rfl
  rw [result, search]
  constructor
  · intro first
    have outcome := ends.result
    rw [first] at outcome
    obtain ⟨str, known, suffix⟩ := outcome.2.found
    have same : target = str := Option.some_inj.mp known
    rw [← same] at suffix
    refine ⟨count, ends.position, suffix, fun earlier less => ?_⟩
    exact ends.before earlier less terminator (List.mem_cons_of_mem _ (List.mem_singleton_self _))
  · rintro ⟨length, position, suffix, _⟩
    have same : length = count := Nat.add_left_cancel (position.symm.trans ends.position)
    rw [same] at suffix
    have outcome := ends.result
    cases number : (findMulti arrival (targetsOf [target, terminator]) consumed time).result with
    | none =>
        rw [number] at outcome
        exact absurd suffix (outcome.2.2 target (List.mem_cons_self ..))
    | some number' =>
        rw [number] at outcome
        cases number' with
        | zero => rfl
        | succ later => exact absurd suffix (outcome.2.first 0 (Nat.succ_pos later) target rfl)

/-- Whatever arrives and when: a search ends at the first byte at which one of the texts
has been read, with the number of the first such text, and it gives up only when nothing
more has come for as long as the timeout since its last byte and none has been read; so a
text is found exactly where its terminator has not ended before it. -/
theorem search_finds_first (arrival : Arrival stream) (consumed time : Nat) :
    (∀ strs, ∃ count last, Ends arrival strs [] consumed time
      (findMulti arrival (targetsOf strs) consumed time) count last) ∧
    ∀ target terminator,
      let found := findUntil arrival target (some terminator) consumed time
      found.1 = true ↔ ∃ count, found.2.consumed = consumed + count ∧
        target <:+ (stream.drop consumed).take count ∧
          ∀ earlier < count, ¬ terminator <:+ (stream.drop consumed).take earlier := by
  constructor
  · exact fun strs => findMulti_ends arrival strs consumed time
  · exact fun target terminator => findUntil_iff arrival target terminator consumed time

end MSniff.Concrete.ClientSearch
