/-
The target address as it is shown and as it is used. Ethernet_setTargetIp hands one
text to the parser, whose verdict it ignores, and to strcpy, which stops at the
terminator wherever the array ends.
-/

import MSniff.EventRun
import MSniff.Concrete.AddressText
import MSniff.Concrete.EthernetSettings
import MSniff.Concrete.PacketRoundTrip

namespace MSniff.Concrete.EthernetSettings

open DottedDecimal EthernetTask EventRun IPAddress

/-! ### Strings in memory -/

/-- The string that an array holds: the characters before its first terminator. -/
structure HoldsText (array : Nat → UInt8) (text : List UInt8) : Prop where
  plain : 0 ∉ text
  chars : ∀ index (inside : index < text.length), array index = text[index]
  ended : array text.length = 0

variable {array : Nat → UInt8} {left right : List UInt8}

theorem HoldsText.length_le (holdsLeft : HoldsText array left) (holdsRight : HoldsText array right) :
    right.length ≤ left.length := by
  apply Nat.le_of_not_lt
  intro longer
  have zero := (holdsRight.chars left.length longer).symm.trans holdsLeft.ended
  exact holdsRight.plain (zero ▸ List.getElem_mem longer)

theorem HoldsText.unique (holdsLeft : HoldsText array left) (holdsRight : HoldsText array right) :
    left = right := by
  apply List.ext_getElem
  · exact Nat.le_antisymm (holdsRight.length_le holdsLeft) (holdsLeft.length_le holdsRight)
  · intro index inLeft inRight
    exact (holdsLeft.chars index inLeft).symm.trans (holdsRight.chars index inRight)

/-- The indices that `memset` of an array and `strcpy` of a text into it write. -/
def Writes (size : Nat) (text : List UInt8) (index : Nat) : Prop :=
  index < size ∨ index ≤ text.length

theorem holdsText_copyText (array : Nat → UInt8) (size : Nat) {text : List UInt8}
    (plain : 0 ∉ text) : HoldsText (copyText array size text) text where
  plain := plain
  chars := fun index inside => by
    rw [copyText, if_pos inside, List.getD_eq_getElem text _ inside]
  ended := by rw [copyText, if_neg (Nat.lt_irrefl _), if_pos (Or.inl rfl)]

/-! ### The target -/

/-- A string as a caller hands it over. -/
structure Text where
  chars : List UInt8
  plain : 0 ∉ chars

/-- After a call the array holds a string that fits it, nothing behind it was written,
and the string denotes the target that packets are sent to. -/
structure ShowsTarget (text : Text) (ethernet : Ethernet) : Prop where
  confined : ∀ index, Writes ipMaxSize text.chars index → index < ipMaxSize
  shown : ∃ shown, HoldsText ethernet.pTargetIp shown ∧ shown.length ≤ ipMaxSize - 1 ∧
    Denotes shown ethernet.hTargetIp.bytes ∧
    ∀ queue proto stack,
      ∀ datagram ∈ datagrams (handleRFpacket queue proto ethernet.hTargetIp stack).calls,
        Denotes shown datagram.address.bytes

def targetStep (ethernet : Ethernet) (text : Text) : Ethernet := setTargetIp ethernet text.chars

theorem showsTarget_step_iff (ethernet : Ethernet) (text : Text) :
    ShowsTarget text (targetStep ethernet text) ↔
      text.chars.length < ipMaxSize ∧ WellFormed text.chars := by
  have holds : HoldsText (targetStep ethernet text).pTargetIp text.chars :=
    holdsText_copyText ethernet.pTargetIp ipMaxSize text.plain
  constructor
  · intro shows
    obtain ⟨shown, holdsShown, _, denotes, _⟩ := shows.shown
    constructor
    · exact shows.confined text.chars.length (Or.inr (Nat.le_refl _))
    · rw [holds.unique holdsShown]
      exact denotes.1
  · intro good
    have denotes : Denotes text.chars (targetStep ethernet text).hTargetIp.bytes :=
      fromString_of_wellFormed ethernet.hTargetIp good.2
    refine ⟨fun index writes => ?_, text.chars, holds, Nat.le_sub_one_of_lt good.1, denotes, ?_⟩
    · exact writes.elim id fun inside => Nat.lt_of_le_of_lt inside good.1
    · intro queue proto stack datagram member
      obtain ⟨_, address, _⟩ := handleRFpacket_datagrams member
      rw [address]
      exact denotes

/-- The displayed target is the actual one after every call of a sequence exactly where
every text is a well-formed address that fits the array. -/
theorem showsTarget_iff (ethernet : Ethernet) (texts : List Text) :
    Meets targetStep (fun ethernet text => ShowsTarget text (targetStep ethernet text)) ethernet
        texts ↔
      ∀ text ∈ texts, text.chars.length < ipMaxSize ∧ WellFormed text.chars := by
  rw [← meets_forall_iff targetStep _ ethernet]
  exact meets_congr showsTarget_step_iff ethernet texts

/-- "1.2", whose first number goes into the address before the text turns out short. -/
def shortText : Text := ⟨[49, 46, 50], by decide⟩

theorem shortText_not_showsTarget :
    ¬ ShowsTarget shortText (targetStep powered shortText) := by
  rw [showsTarget_step_iff]
  intro good
  cases good.2.four

end MSniff.Concrete.EthernetSettings
