/-
The four functions that set an address from a text. None of them looks at the parser's
verdict, and three hand it an uninitialised local whose content then goes to the chip.
-/

import MSniff.Concrete.AddressText
import MSniff.Concrete.EthernetSettings

namespace MSniff.Concrete.EthernetSettings

open DottedDecimal IPAddress

/-! ### The setters -/

inductive Setter
  | targetIp
  | thisIp
  | gatewayIp
  | mask
  deriving DecidableEq

def Setter.call (setter : Setter) (ethernet : Ethernet) (tmpIp : IPAddress)
    (text : List UInt8) : Ethernet :=
  match setter with
  | .targetIp => setTargetIp ethernet text
  | .thisIp => setThisIp ethernet tmpIp text
  | .gatewayIp => setGatewayIp ethernet tmpIp text
  | .mask => setMask ethernet tmpIp text

/-- The address that the function is there to set. -/
def Setter.own (ethernet : Ethernet) : Setter → IPAddress
  | .targetIp => ethernet.hTargetIp
  | .thisIp => ethernet.sipr
  | .gatewayIp => ethernet.gar
  | .mask => ethernet.subr

/-- What the parser is given to write to. -/
def Setter.parsed (setter : Setter) (ethernet : Ethernet) (tmpIp : IPAddress) : IPAddress :=
  match setter with
  | .targetIp => ethernet.hTargetIp
  | _ => tmpIp

variable {setter : Setter} {ethernet : Ethernet} {tmpIp : IPAddress} {text : List UInt8}

theorem own_call (setter : Setter) (ethernet : Ethernet) (tmpIp : IPAddress)
    (text : List UInt8) :
    Setter.own (setter.call ethernet tmpIp text) setter =
      ((setter.parsed ethernet tmpIp).fromString text).2 := by
  cases setter with
  | _ => rfl

theorem own_call_of_ne {other : Setter} (different : other ≠ setter) :
    Setter.own (setter.call ethernet tmpIp text) other = Setter.own ethernet other := by
  cases setter with
  | _ =>
      cases other with
      | _ => first | rfl | exact absurd rfl different

/-- Where the function clears `bUsingDhcp`: on purpose, or by the write behind the handle. -/
def Setter.Clears (setter : Setter) (ethernet : Ethernet) : Prop :=
  match setter with
  | .targetIp => FindsSocket ethernet
  | .thisIp => True
  | .gatewayIp => False
  | .mask => False

theorem bUsingDhcp_call (setter : Setter) (ethernet : Ethernet) (tmpIp : IPAddress)
    (text : List UInt8) :
    (setter.call ethernet tmpIp text).bUsingDhcp = true ↔
      ethernet.bUsingDhcp = true ∧ ¬ setter.Clears ethernet := by
  cases setter with
  | targetIp => exact bUsingDhcp_setTargetIp ethernet text
  | thisIp => exact ⟨nofun, fun kept => absurd trivial kept.2⟩
  | gatewayIp => exact ⟨fun set => ⟨set, id⟩, And.left⟩
  | mask => exact ⟨fun set => ⟨set, id⟩, And.left⟩

/-! ### Malformed texts -/

structure SameSettings (before after : Ethernet) : Prop where
  addresses : ∀ setter, Setter.own after setter = Setter.own before setter
  bUsingDhcp : after.bUsingDhcp = before.bUsingDhcp

/-- A malformed text changes nothing; a well-formed one sets the function's own address
to what it denotes and no other, and only the function that gives the device a fixed
address may touch the flag. -/
structure SetsOnlyWellFormed (setter : Setter) (text : List UInt8) (before after : Ethernet) :
    Prop where
  malformed : ¬ WellFormed text → SameSettings before after
  denoted : WellFormed text → Denotes text (Setter.own after setter).bytes
  others : WellFormed text → ∀ other, other ≠ setter →
    Setter.own after other = Setter.own before other
  flag : WellFormed text → setter ≠ .thisIp → after.bUsingDhcp = before.bUsingDhcp

/-- Each byte that the parser stores before it stops is the one that the address has
already, each other byte of what it was given too, and no flag is left to clear. -/
structure KeepsSettings (setter : Setter) (ethernet : Ethernet) (tmpIp : IPAddress)
    (text : List UInt8) : Prop where
  bytes : ∀ place : Fin 4, (Setter.own ethernet setter).bytes place =
    if Reads text place then UInt8.ofNat (octetAt text place)
    else (setter.parsed ethernet tmpIp).bytes place
  bUsingDhcp : setter.Clears ethernet → ethernet.bUsingDhcp = false

theorem own_call_eq_iff :
    Setter.own (setter.call ethernet tmpIp text) setter = Setter.own ethernet setter ↔
      ∀ place : Fin 4, (Setter.own ethernet setter).bytes place =
        if Reads text place then UInt8.ofNat (octetAt text place)
        else (setter.parsed ethernet tmpIp).bytes place := by
  rw [own_call]
  constructor
  · intro same place
    rw [← same, fromString_bytes]
  · intro same
    have bytes : ((setter.parsed ethernet tmpIp).fromString text).2.bytes =
        (Setter.own ethernet setter).bytes := by
      funext place
      rw [fromString_bytes, same place]
    exact congrArg IPAddress.mk bytes

theorem bUsingDhcp_call_eq_iff :
    (setter.call ethernet tmpIp text).bUsingDhcp = ethernet.bUsingDhcp ↔
      (setter.Clears ethernet → ethernet.bUsingDhcp = false) := by
  have called := bUsingDhcp_call setter ethernet tmpIp text
  rw [Bool.eq_iff_iff, called]
  constructor
  · intro same clears
    rw [← Bool.not_eq_true]
    intro set
    exact (same.mpr set).2 clears
  · intro clear
    refine ⟨And.left, fun set => ⟨set, fun clears => ?_⟩⟩
    rw [clear clears] at set
    cases set

theorem sameSettings_iff :
    SameSettings ethernet (setter.call ethernet tmpIp text) ↔
      KeepsSettings setter ethernet tmpIp text := by
  constructor
  · intro same
    exact ⟨own_call_eq_iff.mp (same.addresses setter), bUsingDhcp_call_eq_iff.mp same.bUsingDhcp⟩
  · intro keeps
    refine ⟨fun other => ?_, bUsingDhcp_call_eq_iff.mpr keeps.bUsingDhcp⟩
    by_cases own : other = setter
    · rw [own]
      exact own_call_eq_iff.mpr keeps.bytes
    · exact own_call_of_ne own

/-- The functions set addresses from well-formed texts only, except where a malformed
one brings something else into the address or clears the flag, or where a new target
clears it. -/
theorem setsOnlyWellFormed_iff (setter : Setter) (ethernet : Ethernet) (tmpIp : IPAddress)
    (text : List UInt8) :
    SetsOnlyWellFormed setter text ethernet (setter.call ethernet tmpIp text) ↔
      (WellFormed text ∧
        (setter = .targetIp → FindsSocket ethernet → ethernet.bUsingDhcp = false)) ∨
      KeepsSettings setter ethernet tmpIp text := by
  rw [← sameSettings_iff]
  constructor
  · intro sets
    by_cases wellFormed : WellFormed text
    · refine Or.inl ⟨wellFormed, ?_⟩
      rintro rfl
      exact bUsingDhcp_call_eq_iff.mp (sets.flag wellFormed nofun)
    · exact Or.inr (sets.malformed wellFormed)
  · intro either
    refine ⟨fun malformed => either.resolve_left fun good => malformed good.1,
      fun wellFormed => ?_, fun _ other different => own_call_of_ne different,
      fun wellFormed notOwn => ?_⟩
    · rw [own_call]
      exact fromString_of_wellFormed _ wellFormed
    · rcases either with ⟨_, clear⟩ | same
      · rw [bUsingDhcp_call_eq_iff]
        cases setter with
        | targetIp => exact clear rfl
        | thisIp => exact absurd rfl notOwn
        | gatewayIp => exact nofun
        | mask => exact nofun
      · exact same.bUsingDhcp

/-- "10.x" sent as the mask of a device that has 255.255.255.0. -/
def partialText : List UInt8 := [49, 48, 46, 120]

def maskedEthernet : Ethernet := { powered with subr := ⟨![255, 255, 255, 0]⟩ }

theorem partialText_not_setsOnlyWellFormed :
    ¬ SetsOnlyWellFormed .mask partialText maskedEthernet
      (Setter.mask.call maskedEthernet ⟨![0, 0, 0, 0]⟩ partialText) := by
  intro sets
  have malformed : ¬ WellFormed partialText := fun wellFormed => by cases wellFormed.four
  have same := congrArg (fun address => address.bytes 0)
    ((sets.malformed malformed).addresses .mask)
  cases same

end MSniff.Concrete.EthernetSettings
