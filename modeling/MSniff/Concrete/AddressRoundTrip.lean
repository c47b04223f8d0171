/-
The functions that show an address and their round trips with those that set it. The
printer is sprintf with four decimal numbers between dots.
-/

import MSniff.Concrete.AddressSetters
import MSniff.Concrete.TargetAddress

namespace MSniff.Concrete.EthernetSettings

open DottedDecimal IPAddress

/-! ### Showing an address -/

def octets (address : IPAddress) : List Nat :=
  List.ofFn fun place => (address.bytes place).toNat

/-- The characters that `sprintf` prints for "%u.%u.%u.%u". -/
def printed (address : IPAddress) : List UInt8 := dotted (octets address)

/-- `IPAddress_toString`: the memory from `strIP` on after the characters and their
terminator. -/
def toString (address : IPAddress) (strIP : Nat → UInt8) : Nat → UInt8 := fun index =>
  (printed address ++ [0]).getD index (strIP index)

/-- How many bytes `IPAddress_toString` writes. -/
def printedSize (address : IPAddress) : Nat := (printed address ++ [0]).length

/-- The globals of ethernet_task.c in which addresses are shown, each array as the
memory from its first byte on. -/
structure Displays where
  hThisIp : IPAddress
  pThisIp : Nat → UInt8
  pGatewayIp : Nat → UInt8
  pMask : Nat → UInt8

def getThisIp (ethernet : Ethernet) (displays : Displays) : Displays :=
  { displays with
    hThisIp := ethernet.sipr
    pThisIp := toString ethernet.sipr displays.pThisIp }

def getGatewayIp (ethernet : Ethernet) (displays : Displays) : Displays :=
  { displays with pGatewayIp := toString ethernet.gar displays.pGatewayIp }

def getMask (ethernet : Ethernet) (displays : Displays) : Displays :=
  { displays with pMask := toString ethernet.subr displays.pMask }

/-- The registers of the W5500 that are shown and set. -/
inductive Register
  | sipr
  | gar
  | subr
  deriving DecidableEq

def Register.setter : Register → Setter
  | .sipr => .thisIp
  | .gar => .gatewayIp
  | .subr => .mask

/-- The register's content. -/
def Register.content (ethernet : Ethernet) (register : Register) : IPAddress :=
  Setter.own ethernet register.setter

/-- The array that the register's get function returns, after the call. -/
def Register.get (register : Register) (ethernet : Ethernet) (displays : Displays) :
    Nat → UInt8 :=
  match register with
  | .sipr => (getThisIp ethernet displays).pThisIp
  | .gar => (getGatewayIp ethernet displays).pGatewayIp
  | .subr => (getMask ethernet displays).pMask

/-- The array before the call. -/
def Register.array (displays : Displays) : Register → Nat → UInt8
  | .sipr => displays.pThisIp
  | .gar => displays.pGatewayIp
  | .subr => displays.pMask

theorem get_eq (register : Register) (ethernet : Ethernet) (displays : Displays) :
    register.get ethernet displays =
      toString (register.content ethernet) (register.array displays) := by
  cases register with
  | _ => rfl

/-! ### The printed text -/

theorem length_octets (address : IPAddress) : (octets address).length = 4 := List.length_ofFn

theorem octets_ne_nil (address : IPAddress) : octets address ≠ [] := by
  rw [← List.length_pos_iff, length_octets]
  exact Nat.succ_pos 3

theorem octets_le (address : IPAddress) : ∀ octet ∈ octets address, octet ≤ 255 := by
  intro octet member
  obtain ⟨place, rfl⟩ := List.mem_ofFn.mp member
  exact Nat.le_of_lt_succ (address.bytes place).toNat_lt

theorem denotes_printed (address : IPAddress) : Denotes (printed address) address.bytes := by
  refine ⟨wellFormed_dotted (length_octets address) (octets_le address), fun place => ?_⟩
  have inside : place.val < (octets address).length := (length_octets address).symm ▸ place.isLt
  rw [printed, octetAt_dotted (octets_ne_nil address) inside]
  exact (List.getElem_ofFn inside).symm

theorem canonicalText_printed (address : IPAddress) : CanonicalText (printed address) :=
  canonicalText_dotted (octets_ne_nil address)

theorem printedSize_le (address : IPAddress) : printedSize address ≤ ipMaxSize := by
  have short := length_dotted_lt (octets_ne_nil address) (octets_le address)
  have four := length_octets address
  rw [printedSize, List.length_append, List.length_singleton, printed, ipMaxSize]
  omega

theorem plain_printed (address : IPAddress) : 0 ∉ printed address := by
  intro member
  rcases mem_dotted member with separator | digit
  · cases separator
  · cases digit

theorem toString_of_lt {address : IPAddress} {strIP : Nat → UInt8} {index : Nat}
    (inside : index < (printed address ++ [0]).length) :
    toString address strIP index = (printed address ++ [0])[index] :=
  List.getD_eq_getElem _ _ inside

theorem holdsText_toString (address : IPAddress) (strIP : Nat → UInt8) :
    HoldsText (toString address strIP) (printed address) where
  plain := plain_printed address
  chars := fun index inside => by
    rw [toString_of_lt (by rw [List.length_append]; omega), List.getElem_append_left inside]
  ended := by
    rw [toString_of_lt (by rw [List.length_append, List.length_singleton]; omega),
      List.getElem_concat_length rfl]

theorem toString_of_printedSize_le {address : IPAddress} {strIP : Nat → UInt8} {index : Nat}
    (outside : printedSize address ≤ index) : toString address strIP index = strIP index :=
  List.getD_eq_default _ _ outside

/-! ### Round trips -/

/-- What the get function returns: a string that lies in the array with its terminator,
nothing behind the array written. -/
structure Shows (register : Register) (ethernet : Ethernet) (displays : Displays)
    (text : List UInt8) : Prop where
  holds : HoldsText (register.get ethernet displays) text
  fits : text.length < ipMaxSize
  confined : ∀ index, ipMaxSize ≤ index →
    register.get ethernet displays index = Register.array displays register index

theorem shows_printed (register : Register) (ethernet : Ethernet) (displays : Displays) :
    Shows register ethernet displays (printed (register.content ethernet)) := by
  have size := printedSize_le (register.content ethernet)
  refine ⟨?_, ?_, fun index outside => ?_⟩
  · rw [get_eq]
    exact holdsText_toString _ _
  · rw [printedSize, List.length_append] at size
    exact Nat.lt_of_succ_le size
  · rw [get_eq]
    exact toString_of_printedSize_le (Nat.le_trans size outside)

theorem content_setter_of_ne {register other : Register} (different : other ≠ register)
    (ethernet : Ethernet) (tmpIp : IPAddress) (text : List UInt8) :
    other.content (register.setter.call ethernet tmpIp text) = other.content ethernet := by
  apply own_call_of_ne
  intro same
  apply different
  cases register with
  | _ =>
      cases other with
      | _ => first | rfl | cases same

/-- What a well-formed text denotes is what the register holds once it is set. -/
theorem denotes_content (register : Register) (ethernet : Ethernet) (tmpIp : IPAddress)
    {text : List UInt8} (wellFormed : WellFormed text) :
    Denotes text (register.content (register.setter.call ethernet tmpIp text)).bytes := by
  rw [Register.content, own_call]
  exact fromString_of_wellFormed _ wellFormed

theorem content_setter_printed (register other : Register) (ethernet : Ethernet)
    (tmpIp : IPAddress) :
    other.content (register.setter.call ethernet tmpIp (printed (register.content ethernet))) =
      other.content ethernet := by
  by_cases own : other = register
  · subst own
    have shown := denotes_printed (other.content ethernet)
    have set := denotes_content other ethernet tmpIp shown.1
    exact congrArg IPAddress.mk (denotes_unique set shown)
  · exact content_setter_of_ne own ethernet tmpIp _

/-- The text is the decimal form of the address, the only one without leading zeros. -/
structure DecimalForm (text : List UInt8) (bytes : Fin 4 → UInt8) : Prop where
  denotes : Denotes text bytes
  canonical : CanonicalText text
  only : ∀ other, Denotes other bytes → CanonicalText other → other = text

theorem decimalForm_printed (address : IPAddress) :
    DecimalForm (printed address) address.bytes where
  denotes := denotes_printed address
  canonical := canonicalText_printed address
  only := fun _ denotes canonical =>
    canonicalText_unique canonical (canonicalText_printed address) denotes
      (denotes_printed address)

/-- Setting a register to the text it is shown as changes no register, and a register
set to a well-formed text is shown as the decimal form of the same address. -/
theorem resubmitted_address (register : Register) (ethernet : Ethernet) (displays : Displays)
    (tmpIp : IPAddress) :
    (∃ shown, Shows register ethernet displays shown ∧
      ∀ other : Register, other.content (register.setter.call ethernet tmpIp shown) =
        other.content ethernet) ∧
    ∀ text, WellFormed text →
      ∃ shown bytes, Shows register (register.setter.call ethernet tmpIp text) displays shown ∧
        Denotes text bytes ∧ DecimalForm shown bytes := by
  constructor
  · exact ⟨_, shows_printed register ethernet displays, fun other =>
      content_setter_printed register other ethernet tmpIp⟩
  · intro text wellFormed
    exact ⟨_, _, shows_printed register _ displays, denotes_content register ethernet tmpIp
      wellFormed, decimalForm_printed _⟩

end MSniff.Concrete.EthernetSettings
