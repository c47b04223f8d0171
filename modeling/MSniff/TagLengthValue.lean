/-
Lists of items, each a tag byte, a length byte and that many bytes of value. A padding
byte stands for itself, a closing byte ends the list, and nothing but padding follows
it.
-/

import Mathlib.Logic.Basic

namespace MSniff.TagLengthValue

structure Item where
  tag : UInt8
  value : List UInt8

def Item.bytes (item : Item) : List UInt8 :=
  item.tag :: UInt8.ofNat item.value.length :: item.value

structure Item.Plain (padding closing : UInt8) (item : Item) : Prop where
  notPadding : item.tag ≠ padding
  notClosing : item.tag ≠ closing
  short : item.value.length < 256

inductive Encodes (padding closing : UInt8) : List UInt8 → List Item → Prop
  | closed (count : Nat) : Encodes padding closing (closing :: List.replicate count padding) []
  | padded {bytes : List UInt8} {items : List Item} (rest : Encodes padding closing bytes items) :
      Encodes padding closing (padding :: bytes) items
  | item {bytes : List UInt8} {items : List Item} {item : Item} (plain : item.Plain padding closing)
      (rest : Encodes padding closing bytes items) :
      Encodes padding closing (item.bytes ++ bytes) (item :: items)

/-- The items before the closing byte. `fuel` bounds their number. -/
def decode (padding closing : UInt8) : Nat → List UInt8 → Option (List Item)
  | 0, _ => none
  | _ + 1, [] => none
  | fuel + 1, tag :: rest =>
      if tag = closing then some []
      else if tag = padding then decode padding closing fuel rest
      else
        match rest with
        | [] => none
        | length :: rest =>
            if length.toNat ≤ rest.length then
              (decode padding closing fuel (rest.drop length.toNat)).map fun items =>
                ⟨tag, rest.take length.toNat⟩ :: items
            else none

variable {padding closing : UInt8} {bytes : List UInt8} {items : List Item} {item : Item}

theorem toNat_length (short : item.value.length < 256) :
    (UInt8.ofNat item.value.length).toNat = item.value.length := by
  rw [UInt8.toNat_ofNat']
  exact Nat.mod_eq_of_lt short

theorem encodes_flatMap (plain : ∀ item ∈ items, item.Plain padding closing) :
    Encodes padding closing (items.flatMap Item.bytes ++ [closing]) items := by
  induction items with
  | nil => exact .closed 0
  | cons item rest ih =>
      rw [List.forall_mem_cons] at plain
      rw [List.flatMap_cons, List.append_assoc]
      exact .item plain.1 (ih plain.2)

theorem encodes_padded (plain : ∀ item ∈ items, item.Plain padding closing) (count : Nat) :
    Encodes padding closing
      (items.flatMap (fun item => padding :: item.bytes) ++ closing :: List.replicate count padding)
      items := by
  induction items with
  | nil => exact .closed count
  | cons item rest ih =>
      rw [List.forall_mem_cons] at plain
      rw [List.flatMap_cons, List.append_assoc]
      exact .padded (.item plain.1 (ih plain.2))

theorem Encodes.ne_nil (encodes : Encodes padding closing bytes items) : bytes ≠ [] := by
  cases encodes with
  | closed count => exact List.cons_ne_nil _ _
  | padded rest => exact List.cons_ne_nil _ _
  | item plain rest => exact List.cons_ne_nil _ _

theorem decode_item (plain : item.Plain padding closing) (fuel : Nat) :
    decode padding closing (fuel + 1) (item.bytes ++ bytes) =
      (decode padding closing fuel bytes).map (item :: ·) := by
  have length := toNat_length plain.short
  have fits : item.value.length ≤ (item.value ++ bytes).length := by
    rw [List.length_append]
    exact Nat.le_add_right _ _
  simp only [Item.bytes, List.cons_append, decode, plain.notClosing, plain.notPadding, if_false,
    length, fits, if_true, List.drop_left, List.take_left]

/-- Every way to write the items down is read as these items. -/
theorem Encodes.decode (different : padding ≠ closing) (encodes : Encodes padding closing bytes items)
    {fuel : Nat} (enough : bytes.length ≤ fuel) :
    TagLengthValue.decode padding closing fuel bytes = some items := by
  induction encodes generalizing fuel with
  | closed count =>
      cases fuel with
      | zero => exact absurd enough (Nat.not_succ_le_zero _)
      | succ fuel => simp only [TagLengthValue.decode, if_true]
  | padded rest ih =>
      cases fuel with
      | zero => exact absurd enough (Nat.not_succ_le_zero _)
      | succ fuel =>
          simp only [TagLengthValue.decode, different, if_false, if_true]
          exact ih (Nat.le_of_succ_le_succ enough)
  | item plain rest ih =>
      cases fuel with
      | zero => exact absurd enough (Nat.not_succ_le_zero _)
      | succ fuel =>
          rw [decode_item plain, ih]
          · rfl
          · simp only [Item.bytes, List.cons_append, List.length_cons, List.length_append] at enough
            omega

/-- What the last item with this tag says. -/
def latest {Meaning : Type*} (tag : UInt8) (meaning : List UInt8 → Meaning) (items : List Item) :
    Option Meaning :=
  (items.filterMap fun item => if item.tag = tag then some (meaning item.value) else none).getLast?

section

variable {Meaning : Type*} {tag : UInt8} {meaning : List UInt8 → Meaning}

theorem latest_cons_of_ne (other : item.tag ≠ tag) (items : List Item) :
    latest tag meaning (item :: items) = latest tag meaning items := by
  simp only [latest, List.filterMap_cons, other, if_false]

theorem latest_of_absent (absent : ∀ item ∈ items, item.tag ≠ tag) :
    latest tag meaning items = none := by
  induction items with
  | nil => rfl
  | cons item rest ih =>
      rw [List.forall_mem_cons] at absent
      rw [latest_cons_of_ne absent.1, ih absent.2]

/-- Where every item of a tag says the same, so does the last of them. -/
theorem latest_eq {value : Meaning} (agree : ∀ item ∈ items, item.tag = tag → meaning item.value = value) :
    latest tag meaning items = none ∨ latest tag meaning items = some value := by
  cases found : latest tag meaning items with
  | none => exact .inl rfl
  | some last =>
      have member := List.mem_of_getLast? found
      rw [List.mem_filterMap] at member
      obtain ⟨item, among, said⟩ := member
      by_cases same : item.tag = tag
      · rw [if_pos same, agree item among same] at said
        exact .inr said.symm
      · rw [if_neg same] at said
        cases said

theorem latest_cons_of_absent (same : item.tag = tag) (absent : ∀ item ∈ items, item.tag ≠ tag) :
    latest tag meaning (item :: items) = some (meaning item.value) := by
  have none := @latest_of_absent _ _ _ meaning absent
  unfold latest at *
  simp only [List.filterMap_cons, same, if_true, List.getLast?_cons, none, Option.getD_none]

end

/-- A part of a state that the items of one tag set, and no other item touches, holds at
the end what the last of them says. -/
theorem foldl_latest {State Meaning : Type*} {step : State → Item → State} {part : State → Meaning}
    {tag : UInt8} {meaning : List UInt8 → Meaning} {Invariant : State → Prop} {items : List Item}
    (preserved : ∀ item ∈ items, ∀ state, Invariant state → Invariant (step state item))
    (sets : ∀ state item, Invariant state →
      part (step state item) = if item.tag = tag then meaning item.value else part state)
    {state : State} (initially : Invariant state) :
    part (items.foldl step state) = (latest tag meaning items).getD (part state) := by
  induction items generalizing state with
  | nil => rfl
  | cons item rest ih =>
      rw [List.forall_mem_cons] at preserved
      rw [List.foldl_cons, ih preserved.2 (preserved.1 state initially), sets state item initially]
      unfold latest
      by_cases same : item.tag = tag
      · simp only [List.filterMap_cons, same, if_true, List.getLast?_cons, Option.getD_some]
      · simp only [List.filterMap_cons, same, if_false]

end MSniff.TagLengthValue
