/-
IPAddress_fromString read field by field: which octets it has stored when it stops,
whether or not it accepts the text.
-/

import MSniff.DottedDecimal
import MSniff.Concrete.IPAddress

namespace MSniff.Concrete.IPAddress

open DottedDecimal

/-! ### The parser over fields -/

def readFields (address : IPAddress) (dots : Nat) : List (List UInt8) → Bool × IPAddress
  | [] => (false, address)
  | [last] =>
      if Readable last ∧ dots = 3 then (true, address.setByte 3 (value last))
      else (false, address)
  | field :: next :: rest =>
      if Readable field ∧ dots ≠ 3 then
        readFields (address.setByte dots (value field)) (dots + 1) (next :: rest)
      else (false, address)

/-- Over a field the loop accumulates its value, or stops without a store. -/
theorem fromStringLoop_field (address : IPAddress) (dots : Nat) {read field : List UInt8}
    (small : value read ≤ 255) (noDot : dot ∉ field) (rest : List UInt8) :
    fromStringLoop address (value read) dots (field ++ rest) =
      if (∀ c ∈ field, isDigit c = true) ∧ value (read ++ field) ≤ 255 then
        fromStringLoop address (value (read ++ field)) dots rest
      else (false, address) := by
  induction field generalizing read with
  | nil =>
      rw [List.append_nil, if_pos ⟨List.forall_mem_nil _, small⟩]
      rfl
  | cons c field ih =>
      rw [List.mem_cons, not_or] at noDot
      rw [List.cons_append, fromStringLoop]
      by_cases digit : isDigit c = true
      · have bounds := (isDigit_iff c).mp digit
        have accumulated : (value read * 10 + (c.toNat - 48)) % 2 ^ 16 = value (read ++ [c]) := by
          rw [value_append_singleton, Nat.mod_eq_of_lt (by omega), Nat.mul_comm]
        have grouped : read ++ c :: field = (read ++ [c]) ++ field := by simp
        rw [if_pos (of_decide_eq_true digit)]
        dsimp only
        rw [accumulated, grouped]
        by_cases excess : value (read ++ [c]) > 255
        · have grows := value_le_append (read ++ [c]) field
          rw [if_pos excess, if_neg fun both => by omega]
        · rw [if_neg excess, ih (by omega) noDot.2]
          simp only [List.forall_mem_cons, digit, true_and]
      · have notDot : c ≠ 46 := fun same => noDot.1 same.symm
        rw [if_neg fun bounds => digit (decide_eq_true bounds), if_neg notDot,
          if_neg fun both => digit (both.1 c List.mem_cons_self)]

theorem fromStringLoop_first (address : IPAddress) (dots : Nat) {field : List UInt8}
    (noDot : dot ∉ field) (rest : List UInt8) :
    fromStringLoop address 0 dots (field ++ rest) =
      if Readable field then fromStringLoop address (value field) dots rest
      else (false, address) := by
  have nothing : value [] ≤ 255 := Nat.zero_le _
  have scanned := fromStringLoop_field address dots nothing noDot rest
  apply scanned.trans
  by_cases readable : Readable field
  · rw [if_pos readable, List.nil_append, if_pos ((readable_iff field).mp readable)]
  · rw [if_neg readable, List.nil_append,
      if_neg fun both => readable ((readable_iff field).mpr both)]

theorem fromStringLoop_dot (address : IPAddress) (acc dots : Nat) (rest : List UInt8) :
    fromStringLoop address acc dots (dot :: rest) =
      if dots = 3 then (false, address)
      else fromStringLoop (address.setByte dots acc) 0 (dots + 1) rest := by
  have notDigit : ¬ (48 ≤ dot ∧ dot ≤ 57) := by decide
  rw [fromStringLoop, if_neg notDigit]
  exact if_pos rfl

theorem readFields_cons (address : IPAddress) (dots : Nat) (field : List UInt8)
    {later : List (List UInt8)} (more : later ≠ []) :
    readFields address dots (field :: later) =
      if Readable field ∧ dots ≠ 3 then
        readFields (address.setByte dots (value field)) (dots + 1) later
      else (false, address) := by
  cases later with
  | nil => exact absurd rfl more
  | cons next rest => rfl

theorem fromStringLoop_eq (address : IPAddress) (dots : Nat) (text : List UInt8) :
    fromStringLoop address 0 dots text = readFields address dots (fields text) := by
  generalize size : text.length = length
  induction length using Nat.strongRecOn generalizing address dots text with
  | ind length ih =>
      by_cases member : dot ∈ text
      · obtain ⟨field, rest, rfl, noDot⟩ := List.eq_append_cons_of_mem member
        have shorter : rest.length < length := by
          rw [← size, List.length_append, List.length_cons]
          omega
        have split : fields (field ++ dot :: rest) = field :: fields rest :=
          List.splitOn_append_cons_self_of_not_mem noDot rest
        rw [split, readFields_cons address dots field (fields_ne_nil rest),
          fromStringLoop_first address dots noDot, fromStringLoop_dot,
          ih rest.length shorter (address.setByte dots (value field)) (dots + 1) rest rfl]
        by_cases readable : Readable field
        · by_cases last : dots = 3
          · rw [if_pos readable, if_pos last, if_neg fun both => both.2 last]
          · rw [if_pos readable, if_neg last, if_pos ⟨readable, last⟩]
        · rw [if_neg readable, if_neg fun both => readable both.1]
      · have alone : fields text = [text] := List.splitOn_eq_singleton member
        have scanned := fromStringLoop_first address dots member []
        rw [List.append_nil] at scanned
        rw [alone, readFields, scanned, fromStringLoop]
        by_cases readable : Readable text
        · by_cases last : dots = 3
          · rw [if_pos readable, if_neg (not_not.mpr last), if_pos ⟨readable, last⟩]
          · rw [if_pos readable, if_pos last, if_neg fun both => last both.2]
        · rw [if_neg readable, if_neg fun both => readable both.1]

/-! ### The octets stored -/

/-- Of the fields, the first of which is at place `dots`, the one at the place is read:
it and those before it are readable, and a dot ends it or, at place 3, the text. -/
structure ReadsFrom (dots : Nat) (fields : List (List UInt8)) (place : Nat) : Prop where
  reached : dots ≤ place
  readable : ∀ earlier ≤ place - dots, Readable (fields.getD earlier [])
  ended : if place = 3 then dots + fields.length = 4 else place - dots + 1 < fields.length

def Reads (text : List UInt8) (place : Nat) : Prop := ReadsFrom 0 (fields text) place

theorem readsFrom_iff (dots : Nat) (fields : List (List UInt8)) (place : Nat) :
    ReadsFrom dots fields place ↔
      dots ≤ place ∧ (∀ earlier ≤ place - dots, Readable (fields.getD earlier [])) ∧
        if place = 3 then dots + fields.length = 4 else place - dots + 1 < fields.length := by
  constructor
  · intro reads
    exact ⟨reads.reached, reads.readable, reads.ended⟩
  · intro parts
    exact ⟨parts.1, parts.2.1, parts.2.2⟩

instance decidableReadsFrom (dots : Nat) (fields : List (List UInt8)) (place : Nat) :
    Decidable (ReadsFrom dots fields place) :=
  decidable_of_iff
    (dots ≤ place ∧ (∀ earlier < place - dots + 1, Readable (fields.getD earlier [])) ∧
      if place = 3 then dots + fields.length = 4 else place - dots + 1 < fields.length)
    (by simp only [Nat.lt_succ_iff, readsFrom_iff])

instance decidableReads (text : List UInt8) (place : Nat) : Decidable (Reads text place) :=
  inferInstanceAs (Decidable (ReadsFrom 0 (fields text) place))

theorem readsFrom_singleton {dots : Nat} (inside : dots ≤ 3) (last : List UInt8)
    {place : Nat} (placeLt : place < 4) :
    ReadsFrom dots [last] place ↔ (Readable last ∧ dots = 3) ∧ place = 3 := by
  constructor
  · intro reads
    have reached := reads.reached
    have ended := reads.ended
    by_cases fourth : place = 3
    · rw [if_pos fourth, List.length_singleton] at ended
      have atLast : dots = 3 := by omega
      exact ⟨⟨reads.readable 0 (Nat.zero_le _), atLast⟩, fourth⟩
    · rw [if_neg fourth, List.length_singleton] at ended
      omega
  · intro both
    obtain ⟨⟨readable, rfl⟩, rfl⟩ := both
    refine ⟨Nat.le_refl 3, fun earlier before => ?_, rfl⟩
    rw [Nat.le_zero.mp before]
    exact readable

theorem readsFrom_cons {dots : Nat} (inside : dots ≤ 3) (field : List UInt8)
    {later : List (List UInt8)} (more : later ≠ []) {place : Nat} (placeLt : place < 4) :
    ReadsFrom dots (field :: later) place ↔
      (Readable field ∧ dots ≠ 3) ∧ (place = dots ∨ ReadsFrom (dots + 1) later place) := by
  have some : 0 < later.length := List.length_pos_iff.mpr more
  constructor
  · intro reads
    have reached := reads.reached
    have ended := reads.ended
    rw [List.length_cons] at ended
    have notLast : dots ≠ 3 := by
      split at ended
      · omega
      · omega
    refine ⟨⟨reads.readable 0 (Nat.zero_le _), notLast⟩, ?_⟩
    by_cases here : place = dots
    · exact Or.inl here
    · refine Or.inr ⟨by omega, fun earlier before => ?_, ?_⟩
      · exact reads.readable (earlier + 1) (by omega)
      · by_cases fourth : place = 3
        · rw [if_pos fourth] at ended ⊢
          omega
        · rw [if_neg fourth] at ended ⊢
          omega
  · intro both
    obtain ⟨⟨readable, notLast⟩, here | reads⟩ := both
    · subst here
      refine ⟨Nat.le_refl _, fun earlier before => ?_, ?_⟩
      · rw [Nat.sub_self, Nat.le_zero] at before
        rw [before]
        exact readable
      · rw [if_neg notLast, List.length_cons]
        omega
    · have reached := reads.reached
      have ended := reads.ended
      refine ⟨by omega, fun earlier before => ?_, ?_⟩
      · cases earlier with
        | zero => exact readable
        | succ earlier => exact reads.readable earlier (by omega)
      · rw [List.length_cons]
        by_cases fourth : place = 3
        · rw [if_pos fourth] at ended ⊢
          omega
        · rw [if_neg fourth] at ended ⊢
          omega

theorem readFields_bytes (address : IPAddress) {dots : Nat} (inside : dots ≤ 3)
    (fields : List (List UInt8)) (place : Fin 4) :
    (readFields address dots fields).2.bytes place =
      if ReadsFrom dots fields place then UInt8.ofNat (value (fields.getD (place - dots) []))
      else address.bytes place := by
  induction fields generalizing address dots with
  | nil =>
      have none : ¬ ReadsFrom dots [] place := fun reads => by
        have ended := reads.ended
        simp only [List.length_nil] at ended
        split at ended
        · omega
        · omega
      rw [if_neg none]
      rfl
  | cons field later ih =>
      by_cases more : later = []
      · subst more
        have reads := readsFrom_singleton inside field place.isLt
        rw [readFields]
        by_cases accepted : Readable field ∧ dots = 3
        · rw [if_pos accepted]
          obtain ⟨readable, rfl⟩ := accepted
          by_cases fourth : place.val = 3
          · rw [if_pos (reads.mpr ⟨⟨readable, rfl⟩, fourth⟩), fourth]
            exact if_pos fourth
          · rw [if_neg fun stored => fourth (reads.mp stored).2]
            exact if_neg fourth
        · rw [if_neg accepted, if_neg fun stored => accepted (reads.mp stored).1]
      · have reads := readsFrom_cons inside field more place.isLt
        rw [readFields_cons address dots field more]
        by_cases goesOn : Readable field ∧ dots ≠ 3
        · have next : dots + 1 ≤ 3 := by omega
          rw [if_pos goesOn, ih (address.setByte dots (value field)) next]
          by_cases stored : ReadsFrom (dots + 1) later place
          · have reached := stored.reached
            have further : place.val - dots = place.val - (dots + 1) + 1 := by omega
            rw [if_pos stored, if_pos (reads.mpr ⟨goesOn, Or.inr stored⟩), further]
            rfl
          · rw [if_neg stored]
            by_cases here : place.val = dots
            · rw [if_pos (reads.mpr ⟨goesOn, Or.inl here⟩), here, Nat.sub_self]
              exact if_pos here
            · rw [if_neg fun either => (reads.mp either).2.elim here stored]
              exact if_neg here
        · rw [if_neg goesOn, if_neg fun stored => goesOn (reads.mp stored).1]

/-- What the parser leaves in each byte, whether it accepts the text or not. -/
theorem fromString_bytes (address : IPAddress) (text : List UInt8) (place : Fin 4) :
    (address.fromString text).2.bytes place =
      if Reads text place then UInt8.ofNat (octetAt text place) else address.bytes place := by
  rw [fromString, fromStringLoop_eq]
  exact readFields_bytes address (Nat.zero_le 3) (fields text) place

theorem reads_of_wellFormed {text : List UInt8} (wellFormed : WellFormed text) (place : Fin 4) :
    Reads text place := by
  have four := wellFormed.four
  refine ⟨Nat.zero_le _, fun earlier before => ?_, ?_⟩
  · have inside : earlier < (fields text).length := by omega
    rw [List.getD_eq_getElem _ _ inside]
    exact (wellFormed.octets _ (List.getElem_mem inside)).2
  · split
    · omega
    · omega

theorem octetAt_le_of_reads {text : List UInt8} {place : Nat} (reads : Reads text place) :
    octetAt text place ≤ 255 :=
  (reads.readable place (Nat.le_refl _)).small

theorem fromString_of_wellFormed (address : IPAddress) {text : List UInt8}
    (wellFormed : WellFormed text) : Denotes text (address.fromString text).2.bytes := by
  refine ⟨wellFormed, fun place => ?_⟩
  have reads := reads_of_wellFormed wellFormed place
  have small := octetAt_le_of_reads reads
  rw [fromString_bytes, if_pos reads, UInt8.toNat_ofNat']
  exact Nat.mod_eq_of_lt (by omega)

end MSniff.Concrete.IPAddress
