/-
Searching a stream for a pattern without looking back at it. All that is kept of the text
read is how much of the pattern its end can be the beginning of. One more symbol takes that
up by one, or back to a border of the part matched that the symbol continues.
-/

import Mathlib.Data.List.Infix

namespace MSniff.PrefixSearch

variable {Symbol : Type*} {pattern text : List Symbol} {index next : Nat} {symbol : Symbol}

/-- The pattern has not occurred at the end of the text, and this many of its symbols are
the most that are there. -/
structure Tracks (pattern text : List Symbol) (index : Nat) : Prop where
  proper : index < pattern.length
  held : pattern.take index <:+ text
  longest : ∀ other ≤ pattern.length, pattern.take other <:+ text → other ≤ index

/-- The longest continuation, by this symbol, of a part matched that is shorter than it. -/
structure FallsTo (pattern : List Symbol) (index : Nat) (symbol : Symbol) (next : Nat) : Prop where
  reached : next = 0 ∨ ∃ shorter < index, next = shorter + 1 ∧
    pattern[shorter]? = some symbol ∧ pattern.take shorter <:+ pattern.take index
  longest : ∀ shorter < index, pattern[shorter]? = some symbol →
    pattern.take shorter <:+ pattern.take index → shorter < next

theorem Tracks.start (nonempty : pattern ≠ []) : Tracks pattern [] 0 := by
  constructor
  · exact List.length_pos_iff.mpr nonempty
  · exact List.nil_suffix
  · intro other within empty
    have none := congrArg List.length (List.suffix_nil.mp empty)
    rw [List.length_take, Nat.min_eq_left within] at none
    exact Nat.le_of_eq none

theorem Tracks.not_occurs (tracks : Tracks pattern text index) : ¬ pattern <:+ text := by
  intro occurs
  have whole := tracks.longest pattern.length (Nat.le_refl _)
  rw [List.take_length] at whole
  exact Nat.not_lt.mpr (whole occurs) tracks.proper

theorem take_succ_suffix_iff {count : Nat} (inside : count < pattern.length) :
    pattern.take (count + 1) <:+ text ++ [symbol] ↔
      pattern[count]? = some symbol ∧ pattern.take count <:+ text := by
  have split : pattern.take (count + 1) = pattern.take count ++ [pattern[count]] :=
    (List.take_concat_get' pattern count inside).symm
  rw [split, List.suffix_concat_iff, List.getElem?_eq_getElem inside, Option.some_inj]
  constructor
  · intro either
    rcases either with none | ⟨before, same, held⟩
    · exact absurd none (List.append_ne_nil_of_right_ne_nil _ (List.cons_ne_nil _ _))
    · obtain ⟨front, last⟩ := List.append_inj' same rfl
      exact ⟨List.head_eq_of_cons_eq last, front ▸ held⟩
  · rintro ⟨last, held⟩
    exact .inr ⟨_, by rw [last], held⟩

/-- A part matched ends with each shorter part that the text ends with too. -/
theorem border_iff {shorter : Nat} (tracks : Tracks pattern text index) (below : shorter ≤ index) :
    pattern.take shorter <:+ pattern.take index ↔ pattern.take shorter <:+ text := by
  constructor
  · exact fun border => border.trans tracks.held
  · intro held
    apply List.suffix_of_suffix_length_le held tracks.held
    rw [List.length_take, List.length_take]
    omega

/-- The symbol continues the part matched. -/
theorem Tracks.advance (tracks : Tracks pattern text index)
    (continues : pattern[index]? = some symbol) :
    (index + 1 = pattern.length → pattern <:+ text ++ [symbol]) ∧
      (index + 1 ≠ pattern.length → Tracks pattern (text ++ [symbol]) (index + 1)) := by
  have held : pattern.take (index + 1) <:+ text ++ [symbol] :=
    (take_succ_suffix_iff tracks.proper).mpr ⟨continues, tracks.held⟩
  constructor
  · intro complete
    rw [complete, List.take_length] at held
    exact held
  · intro incomplete
    constructor
    · exact lt_of_le_of_ne tracks.proper incomplete
    · exact held
    · intro other within suffix
      cases other with
      | zero => exact Nat.zero_le _
      | succ before =>
          have shorter := ((take_succ_suffix_iff within).mp suffix).2
          exact Nat.succ_le_succ (tracks.longest before (Nat.le_of_succ_le within) shorter)

/-- The symbol does not continue it, and the search falls back. -/
theorem Tracks.fall (tracks : Tracks pattern text index)
    (stops : pattern[index]? ≠ some symbol) (falls : FallsTo pattern index symbol next) :
    Tracks pattern (text ++ [symbol]) next := by
  constructor
  · rcases falls.reached with none | ⟨shorter, below, rfl, _, _⟩
    · rw [none]
      exact Nat.zero_lt_of_lt tracks.proper
    · exact Nat.lt_of_le_of_lt below tracks.proper
  · rcases falls.reached with none | ⟨shorter, below, rfl, continues, border⟩
    · rw [none]
      exact List.nil_suffix
    · have inside := below.trans tracks.proper
      exact (take_succ_suffix_iff inside).mpr ⟨continues, (border_iff tracks below.le).mp border⟩
  · intro other within suffix
    cases other with
    | zero => exact Nat.zero_le _
    | succ before =>
        obtain ⟨continues, held⟩ := (take_succ_suffix_iff within).mp suffix
        have bounded := tracks.longest before (Nat.le_of_succ_le within) held
        have different : before ≠ index := by
          intro same
          rw [same] at continues
          exact stops continues
        have below := lt_of_le_of_ne bounded different
        exact falls.longest before below continues ((border_iff tracks bounded).mpr held)

end MSniff.PrefixSearch
