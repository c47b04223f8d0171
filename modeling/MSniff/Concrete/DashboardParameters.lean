/-
Dashboard_handleParameterChange and the functions behind it. A parameter names one
of eight settings; a value that strtok did not find is a null pointer. Two things
end the dashboard for good: reading through a null pointer and the loop of
SPI_begin behind a failed SPI_open.
-/

import Mathlib.Data.List.TakeWhile
import MSniff.FallibleRun
import MSniff.Concrete.EthernetSettings
import MSniff.Concrete.RadioTask

namespace MSniff.Concrete.Dashboard

open EthernetSettings RadioTask

structure Device where
  ethernet : Ethernet
  radio : Radio
  spiOpen : Bool

inductive Halt
  | nullDereference
  | spiLoop
  | unterminated
  deriving DecidableEq

structure Arguments where
  parameter : List UInt8
  value : Option (List UInt8)
  deriving DecidableEq

/-- What a call meets: the content of the uninitialised local of the address
handlers and the outcome of DHCP. -/
structure Circumstances where
  tmpIp : IPAddress
  lease : Option Lease

structure Call extends Arguments, Circumstances

/-- SPI_open returns NULL for an instance that is open already. -/
def spiBegin (device : Device) : Except Halt Device :=
  if device.spiOpen then .error .spiLoop else .ok { device with spiOpen := true }

def ethernetBeginMac (lease : Option Lease) (device : Device) : Except Halt Device := do
  let device ← spiBegin device
  let (begun, dhcp) := beginMac device.ethernet
  return { device with ethernet := endMac begun dhcp lease }

def startDhcp (lease : Option Lease) (device : Device) : Except Halt Device :=
  ethernetBeginMac lease
    { device with ethernet := { device.ethernet with bUsingDhcp := true } }

def isSpace (c : UInt8) : Bool := c = 32 ∨ (9 ≤ c ∧ c ≤ 13)

def isDigit (c : UInt8) : Bool := 48 ≤ c ∧ c ≤ 57

def digitsValue (digits : List UInt8) : Nat :=
  digits.foldl (fun total c => 10 * total + (c.toNat - 48)) 0

/-- `atoi` for numbers in the range of an int. -/
def atoi (text : List UInt8) : Int :=
  match text.dropWhile isSpace with
  | 45 :: rest => -digitsValue (rest.takeWhile isDigit)
  | 43 :: rest => digitsValue (rest.takeWhile isDigit)
  | rest => digitsValue (rest.takeWhile isDigit)

def dereference : Option (List UInt8) → Except Halt (List UInt8)
  | some text => .ok text
  | none => .error .nullDereference

def firstChar (text : List UInt8) : UInt8 := text.headD 0

def handleTgt (call : Call) (device : Device) : Except Halt Device := do
  let value ← dereference call.value
  return { device with ethernet := setTargetIp device.ethernet value }

/-- The protocol computed here is not used. -/
def handlePro (call : Call) (device : Device) : Except Halt Device := do
  let _ ← dereference call.value
  return device

def handleRun (call : Call) (device : Device) : Except Halt Device := do
  let value ← dereference call.value
  let started := if firstChar value = 49 then startSniffing device.ethernet else device.ethernet
  let stopped := if firstChar value = 48 then stopSniffing started else started
  return { device with ethernet := stopped }

def handleGip (call : Call) (device : Device) : Except Halt Device := do
  let value ← dereference call.value
  return { device with ethernet := setGatewayIp device.ethernet call.tmpIp value }

def handleMsk (call : Call) (device : Device) : Except Halt Device := do
  let value ← dereference call.value
  return { device with ethernet := setMask device.ethernet call.tmpIp value }

def handleTip (call : Call) (device : Device) : Except Halt Device := do
  let value ← dereference call.value
  return { device with ethernet := setThisIp device.ethernet call.tmpIp value }

def handleDhcp (call : Call) (device : Device) : Except Halt Device := do
  let value ← dereference call.value
  if firstChar value = 49 then startDhcp call.lease device else return device

def handleChn (call : Call) (device : Device) : Except Halt Device := do
  let value ← dereference call.value
  return { device with radio := setRXChannel device.radio (UInt8.ofNat (atoi value % 256).toNat) }

def tgtName : List UInt8 := [116, 103, 116]
def proName : List UInt8 := [112, 114, 111]
def runName : List UInt8 := [114, 117, 110]
def gipName : List UInt8 := [103, 105, 112]
def mskName : List UInt8 := [109, 115, 107]
def tipName : List UInt8 := [116, 105, 112]
def dhcpName : List UInt8 := [100, 104, 99, 112]
def chnName : List UInt8 := [99, 104, 110]

def branches (call : Call) : List (List UInt8 × (Device → Except Halt Device)) :=
  [(tgtName, handleTgt call), (proName, handlePro call), (runName, handleRun call),
    (gipName, handleGip call), (mskName, handleMsk call), (tipName, handleTip call),
    (dhcpName, handleDhcp call), (chnName, handleChn call)]

def handleParameterChange (device : Device) (call : Call) : Except Halt Device :=
  FallibleRun.keyed (branches call) call.parameter device

def handleParameters (device : Device) (calls : List Call) : Except Halt Device :=
  FallibleRun.run handleParameterChange device calls

/-! ### What a call comes to -/

def names : List (List UInt8) :=
  [tgtName, proName, runName, gipName, mskName, tipName, dhcpName, chnName]

theorem branches_names (call : Call) : (branches call).map Prod.fst = names := rfl

theorem names_nodup : names.Nodup := by decide

def ReadsNull (arguments : Arguments) : Prop :=
  arguments.parameter ∈ names ∧ arguments.value = none

def Restarts (arguments : Arguments) : Prop :=
  arguments.parameter = dhcpName ∧ ∃ text, arguments.value = some text ∧ firstChar text = 49

instance decidableReadsNull (arguments : Arguments) : Decidable (ReadsNull arguments) :=
  inferInstanceAs (Decidable (_ ∧ _))

theorem handleParameterChange_of_mem {call : Call}
    {branch : List UInt8 × (Device → Except Halt Device)} (known : branch ∈ branches call)
    (named : call.parameter = branch.1) (device : Device) :
    handleParameterChange device call = branch.2 device := by
  unfold handleParameterChange
  apply FallibleRun.keyed_of_mem
  · rw [branches_names]
    exact names_nodup
  · rw [named]
    exact known

theorem handleParameterChange_of_unknown {call : Call} (unknown : call.parameter ∉ names)
    (device : Device) : handleParameterChange device call = .ok device := by
  unfold handleParameterChange
  apply FallibleRun.keyed_of_not_mem
  rw [branches_names]
  exact unknown

theorem exists_branch {call : Call} (known : call.parameter ∈ names) :
    ∃ branch ∈ branches call, call.parameter = branch.1 := by
  rw [← branches_names call] at known
  obtain ⟨branch, member, named⟩ := List.mem_map.mp known
  exact ⟨branch, member, named.symm⟩

theorem branch_of_none {call : Call} (null : call.value = none)
    {branch : List UInt8 × (Device → Except Halt Device)} (member : branch ∈ branches call)
    (device : Device) : branch.2 device = .error .nullDereference := by
  simp only [branches, List.mem_cons, List.not_mem_nil, or_false] at member
  rcases member with rfl | rfl | rfl | rfl | rfl | rfl | rfl | rfl
  all_goals
    simp only [handleTgt, handlePro, handleRun, handleGip, handleMsk, handleTip, handleDhcp,
      handleChn, null]
    rfl

theorem handleParameterChange_of_readsNull (call : Call)
    (readsNull : ReadsNull call.toArguments) (device : Device) :
    handleParameterChange device call = .error .nullDereference := by
  obtain ⟨branch, member, named⟩ := exists_branch readsNull.1
  rw [handleParameterChange_of_mem member named]
  exact branch_of_none readsNull.2 member device

/-- A device whose Ethernet session has been begun: its SPI is open, and nothing
closes it. -/
structure StartedDevice where
  device : Device
  spiOpen : device.spiOpen = true

theorem ethernetBeginMac_spiOpen {lease : Option Lease} {device begun : Device}
    (succeeds : ethernetBeginMac lease device = .ok begun) : begun.spiOpen = true := by
  unfold ethernetBeginMac spiBegin at succeeds
  split at succeeds
  · cases succeeds
  · cases succeeds
    rfl

theorem branch_of_some {call : Call} {text : List UInt8} (value : call.value = some text)
    {branch : List UInt8 × (Device → Except Halt Device)} (member : branch ∈ branches call)
    (harmless : ¬ (branch.1 = dhcpName ∧ firstChar text = 49)) (device : Device) :
    ∃ next, branch.2 device = .ok next ∧ next.spiOpen = device.spiOpen := by
  simp only [branches, List.mem_cons, List.not_mem_nil, or_false] at member
  rcases member with rfl | rfl | rfl | rfl | rfl | rfl | rfl | rfl
  case inr.inr.inr.inr.inr.inr.inl =>
    have other : ¬ firstChar text = 49 := fun first => harmless ⟨rfl, first⟩
    refine ⟨device, ?_, rfl⟩
    simp only [handleDhcp, value, dereference, bind, Except.bind, if_neg other]
    rfl
  all_goals
    simp only [handleTgt, handlePro, handleRun, handleGip, handleMsk, handleTip, handleChn, value]
    exact ⟨_, rfl, rfl⟩

theorem handleParameterChange_of_restarts (call : Call) (restarts : Restarts call.toArguments)
    {device : Device} (spiOpen : device.spiOpen = true) :
    handleParameterChange device call = .error .spiLoop := by
  obtain ⟨named, text, value, first⟩ := restarts
  have member : (dhcpName, handleDhcp call) ∈ branches call := by simp [branches]
  rw [handleParameterChange_of_mem member named]
  simp only [handleDhcp, value, dereference, bind, Except.bind, if_pos first, startDhcp,
    ethernetBeginMac, spiBegin, if_pos spiOpen]

theorem handleParameterChange_of_harmless (call : Call)
    (notNull : ¬ ReadsNull call.toArguments) (notRestarts : ¬ Restarts call.toArguments) (device : Device) :
    ∃ next, handleParameterChange device call = .ok next ∧ next.spiOpen = device.spiOpen := by
  by_cases known : call.parameter ∈ names
  · obtain ⟨branch, member, named⟩ := exists_branch known
    cases value : call.value with
    | none => exact absurd ⟨known, value⟩ notNull
    | some text =>
        rw [handleParameterChange_of_mem member named]
        apply branch_of_some value member
        intro restarts
        rcases restarts with ⟨dhcp, first⟩
        exact notRestarts ⟨named.trans dhcp, text, value, first⟩
  · exact ⟨device, handleParameterChange_of_unknown known device, rfl⟩

/-- All that a call can come to once the SPI is open. -/
theorem handleParameterChange_cases (call : Call) {device : Device}
    (spiOpen : device.spiOpen = true) :
    ReadsNull call.toArguments ∧
        handleParameterChange device call = .error .nullDereference ∨
      ¬ ReadsNull call.toArguments ∧ Restarts call.toArguments ∧
        handleParameterChange device call = .error .spiLoop ∨
      ¬ ReadsNull call.toArguments ∧ ¬ Restarts call.toArguments ∧
        ∃ next, handleParameterChange device call = .ok next ∧ next.spiOpen = true := by
  by_cases readsNull : ReadsNull call.toArguments
  · exact Or.inl ⟨readsNull, handleParameterChange_of_readsNull call readsNull device⟩
  · by_cases restarts : Restarts call.toArguments
    · exact Or.inr (Or.inl ⟨readsNull, restarts,
        handleParameterChange_of_restarts call restarts spiOpen⟩)
    · obtain ⟨next, returned, same⟩ :=
        handleParameterChange_of_harmless call readsNull restarts device
      exact Or.inr (Or.inr ⟨readsNull, restarts, next, returned, same.trans spiOpen⟩)

/-! ### Sequences of parameters -/

def beforeNull (calls : List Call) : List Call :=
  calls.takeWhile fun call => ¬ ReadsNull call.toArguments

theorem handleParameters_spiLoop_iff {device : Device} (spiOpen : device.spiOpen = true)
    (calls : List Call) :
    handleParameters device calls = .error .spiLoop ↔
      ∃ call ∈ beforeNull calls, Restarts call.toArguments := by
  induction calls generalizing device with
  | nil => exact iff_of_false nofun nofun
  | cons call rest ih =>
      unfold handleParameters beforeNull
      rcases handleParameterChange_cases call spiOpen with ⟨readsNull, halted⟩ |
        ⟨notNull, restarts, halted⟩ | ⟨notNull, notRestarts, next, returned, nextOpen⟩
      · rw [FallibleRun.run_cons_error halted]
        simp [readsNull]
      · rw [FallibleRun.run_cons_error halted, List.takeWhile_cons_of_pos (by simpa using notNull)]
        exact iff_of_true rfl ⟨call, List.mem_cons_self, restarts⟩
      · rw [FallibleRun.run_cons_ok returned, List.takeWhile_cons_of_pos (by simpa using notNull)]
        apply (ih nextOpen).trans
        constructor
        · intro found
          rcases found with ⟨later, member, laterRestarts⟩
          exact ⟨later, List.mem_cons_of_mem _ member, laterRestarts⟩
        · intro found
          rcases found with ⟨later, member, laterRestarts⟩
          cases member with
          | head => exact absurd laterRestarts notRestarts
          | tail _ member => exact ⟨later, member, laterRestarts⟩

theorem handleParameters_returns (device : Device) {calls : List Call}
    (harmless : ∀ call ∈ calls, ¬ ReadsNull call.toArguments ∧ ¬ Restarts call.toArguments) :
    ∃ next, handleParameters device calls = .ok next := by
  induction calls generalizing device with
  | nil => exact ⟨device, rfl⟩
  | cons call rest ih =>
      obtain ⟨notNull, notRestarts⟩ := harmless call List.mem_cons_self
      obtain ⟨next, returned, _⟩ := handleParameterChange_of_harmless call notNull notRestarts device
      have restHarmless := fun later member => harmless later (List.mem_cons_of_mem _ member)
      obtain ⟨last, rest⟩ := ih next restHarmless
      refine ⟨last, ?_⟩
      unfold handleParameters
      rw [FallibleRun.run_cons_ok returned]
      exact rest

/-- No request hangs the device in the loop of SPI_begin, and one whose parameters
all have values is handled to its end. -/
structure HandlesAll (started : StartedDevice) (calls : List Call) : Prop where
  noSpiLoop : handleParameters started.device calls ≠ .error .spiLoop
  returns : (∀ call ∈ calls, call.value ≠ none) →
    ∃ next, handleParameters started.device calls = .ok next

/-- The only way into the loop is the parameter that restarts the session. -/
theorem handlesAll_iff (started : StartedDevice) (calls : List Call) :
    HandlesAll started calls ↔ ∀ call ∈ beforeNull calls, ¬ Restarts call.toArguments := by
  have loops := handleParameters_spiLoop_iff started.spiOpen calls
  constructor
  · intro handles call member restarts
    exact handles.noSpiLoop (loops.mpr ⟨call, member, restarts⟩)
  · intro harmless
    constructor
    · intro looped
      obtain ⟨call, member, restarts⟩ := loops.mp looped
      exact harmless call member restarts
    · intro present
      have notNull : ∀ call ∈ calls, ¬ ReadsNull call.toArguments :=
        fun call member readsNull => present call member readsNull.2
      have whole : beforeNull calls = calls :=
        List.takeWhile_eq_self_iff.mpr fun call member => by simpa using notNull call member
      rw [whole] at harmless
      exact handleParameters_returns started.device fun call member =>
        ⟨notNull call member, harmless call member⟩

/-- The device before `Ethernet_mainTask` begins its session. -/
def poweredDevice : Device where
  ethernet := powered
  radio := ⟨.ieee802154, 0, 0, 0, 0⟩
  spiOpen := false

theorem exists_started :
    ∃ started : StartedDevice, ethernetBeginMac none poweredDevice = .ok started.device := by
  cases begun : ethernetBeginMac none poweredDevice with
  | error halt => cases begun
  | ok device => exact ⟨⟨device, ethernetBeginMac_spiOpen begun⟩, rfl⟩

def dhcpOn : Call := ⟨⟨dhcpName, some [49]⟩, ⟨⟨fun _ => 0⟩, none⟩⟩

/-- The session is begun once at the start, and the first request to begin it anew
finds the SPI open. -/
theorem dhcpOn_spiLoop :
    ∃ started : StartedDevice, ethernetBeginMac none poweredDevice = .ok started.device ∧
      handleParameters started.device [dhcpOn] = .error .spiLoop := by
  obtain ⟨started, begun⟩ := exists_started
  refine ⟨started, begun, ?_⟩
  apply (handleParameters_spiLoop_iff started.spiOpen _).mpr
  have first : dhcpOn ∈ beforeNull [dhcpOn] := by
    rw [show beforeNull [dhcpOn] = [dhcpOn] from rfl]
    exact List.mem_singleton_self dhcpOn
  exact ⟨dhcpOn, first, rfl, [49], rfl, rfl⟩

end MSniff.Concrete.Dashboard
