/-
The parameter `chn`. Its value goes from atoi's int into the byte that
Radio_setRXChannel takes, so the channel selected is the number modulo 256.
-/

import MSniff.DottedDecimal
import MSniff.Concrete.DashboardParameters
import MSniff.Concrete.RadioChannel

namespace MSniff.Concrete.Dashboard

open RadioTask

/-! ### Values of decimal digits -/

structure ChannelText where
  digits : List UInt8
  nonempty : digits ≠ []
  decimal : ∀ c ∈ digits, isDigit c = true
  inRange : digitsValue digits < 2 ^ 31

def ChannelText.number (text : ChannelText) : Nat := digitsValue text.digits

theorem isDigit_iff (c : UInt8) : isDigit c = true ↔ 48 ≤ c.toNat ∧ c.toNat ≤ 57 :=
  DottedDecimal.isDigit_iff c

theorem not_isSpace_of_isDigit {c : UInt8} (digit : isDigit c = true) : isSpace c = false := by
  have bounds := (isDigit_iff c).mp digit
  simp only [isSpace, ← UInt8.toNat_inj, UInt8.le_iff_toNat_le, decide_eq_false_iff_not]
  have blank : (32 : UInt8).toNat = 32 := rfl
  have last : (13 : UInt8).toNat = 13 := rfl
  omega

theorem atoi_digits {digits : List UInt8} (decimal : ∀ c ∈ digits, isDigit c = true) :
    atoi digits = digitsValue digits := by
  unfold atoi
  cases digits with
  | nil => rfl
  | cons c rest =>
      have digit := decimal c List.mem_cons_self
      have bounds := (isDigit_iff c).mp digit
      have notMinus : c ≠ 45 := fun same => by
        subst same
        cases digit
      have notPlus : c ≠ 43 := fun same => by
        subst same
        cases digit
      rw [List.dropWhile_cons_of_neg (by simp [not_isSpace_of_isDigit digit])]
      split
      · rename_i same
        exact absurd (List.cons.inj same).1 notMinus
      · rename_i same
        exact absurd (List.cons.inj same).1 notPlus
      · rw [List.takeWhile_eq_self_iff.mpr decimal]

/-! ### What the parameter is to do -/

def validChannel : Protocol → Nat → Bool
  | .ble1M, n => 37 ≤ n ∧ n ≤ 39
  | .ieee802154, n => 11 ≤ n ∧ n ≤ 26

def numberFrequency : Protocol → Nat → Nat
  | .ble1M, n => if n = 37 then 2402 else if n = 38 then 2426 else 2480
  | .ieee802154, n => 2405 + 5 * (n - 11)

/-- The commands of the protocol that is not the current one are as they were. -/
def OtherUntouched (before after : Radio) : Prop :=
  match before.currentProtocol with
  | .ble1M => after.ieeeFrequency = before.ieeeFrequency
  | .ieee802154 => after.bleFrequency = before.bleFrequency ∧
      after.bleChannel = before.bleChannel ∧ after.bleOverride = before.bleOverride

structure SelectsOnlyValid (before after : Radio) (n : Nat) : Prop where
  protocol : after.currentProtocol = before.currentProtocol
  selects : validChannel before.currentProtocol n = true →
    fsFrequency after = numberFrequency before.currentProtocol n ∧ OtherUntouched before after
  ignores : validChannel before.currentProtocol n = false → after = before

/-- The commands of the current protocol are those of this channel already. -/
def HoldsChannel (radio : Radio) (n : Nat) : Prop :=
  match radio.currentProtocol with
  | .ble1M => radio.bleFrequency = numberFrequency .ble1M n ∧ radio.bleChannel = n ∧
      radio.bleOverride = 0
  | .ieee802154 => radio.ieeeFrequency = numberFrequency .ieee802154 n

/-- The byte that the number becomes is no channel, or the one that the number is, or
one that changes nothing. -/
def NarrowsHarmlessly (radio : Radio) (n : Nat) : Prop :=
  validChannel radio.currentProtocol (n % 256) = false ∨
    validChannel radio.currentProtocol n = true ∨ HoldsChannel radio (n % 256)

def narrowed (n : Nat) : UInt8 := UInt8.ofNat n

theorem accepts_narrowed (protocol : Protocol) (n : Nat) :
    accepts protocol (narrowed n) = validChannel protocol (n % 256) := by
  cases protocol with
  | ble1M =>
      simp only [accepts, validChannel, narrowed, UInt8.le_iff_toNat_le, UInt8.toNat_ofNat']
      rfl
  | ieee802154 =>
      simp only [accepts, validChannel, narrowed, UInt8.le_iff_toNat_le, UInt8.toNat_ofNat']
      rfl

theorem channelFrequency_narrowed (protocol : Protocol) (n : Nat) :
    channelFrequency protocol (narrowed n) = numberFrequency protocol (n % 256) := by
  cases protocol with
  | ble1M =>
      simp only [channelFrequency, numberFrequency, narrowed, ← UInt8.toNat_inj,
        UInt8.toNat_ofNat']
      rfl
  | ieee802154 => simp only [channelFrequency, numberFrequency, narrowed, UInt8.toNat_ofNat']

theorem handleChn_text (device : Device) (text : ChannelText) (circumstances : Circumstances) :
    handleParameterChange device ⟨⟨chnName, some text.digits⟩, circumstances⟩ =
      .ok { device with radio := setRXChannel device.radio (narrowed text.number) } := by
  have member : (chnName, handleChn ⟨⟨chnName, some text.digits⟩, circumstances⟩) ∈
      branches ⟨⟨chnName, some text.digits⟩, circumstances⟩ := by simp [branches]
  have byte : UInt8.ofNat (atoi text.digits % 256).toNat = narrowed text.number := by
    rw [atoi_digits text.decimal, narrowed, ChannelText.number, ← UInt8.toNat_inj,
      UInt8.toNat_ofNat', UInt8.toNat_ofNat']
    omega
  rw [handleParameterChange_of_mem member rfl]
  simp only [handleChn, dereference, bind, Except.bind, byte]
  rfl

theorem mod_of_validChannel {protocol : Protocol} {n : Nat}
    (valid : validChannel protocol n = true) : n % 256 = n := by
  apply Nat.mod_eq_of_lt
  cases protocol with
  | ble1M =>
      have bounds := of_decide_eq_true valid
      omega
  | ieee802154 =>
      have bounds := of_decide_eq_true valid
      omega

theorem setRXChannel_otherUntouched (radio : Radio) (ch : UInt8) :
    OtherUntouched radio (setRXChannel radio ch) := by
  unfold OtherUntouched setRXChannel
  cases radio.currentProtocol with
  | ble1M =>
      dsimp only
      split
      · rfl
      · rfl
  | ieee802154 =>
      dsimp only
      split
      · exact ⟨rfl, rfl, rfl⟩
      · exact ⟨rfl, rfl, rfl⟩

/-- Accepting a channel changes nothing exactly where the structures hold it. -/
theorem setRXChannel_eq_self_iff {radio : Radio} {n : Nat}
    (accepted : accepts radio.currentProtocol (narrowed n) = true) :
    setRXChannel radio (narrowed n) = radio ↔ HoldsChannel radio (n % 256) := by
  obtain ⟨protocol, bleFrequency, bleChannel, bleOverride, ieeeFrequency⟩ := radio
  rw [setRXChannel_of_accepted accepted]
  cases protocol with
  | ble1M =>
      simp only [Radio.mk.injEq, HoldsChannel, channelFrequency_narrowed, true_and, and_true]
      have byte : (narrowed n).toNat = n % 256 := UInt8.toNat_ofNat' ..
      rw [byte, eq_comm, @eq_comm _ (n % 256), @eq_comm _ 0]
  | ieee802154 =>
      simp only [Radio.mk.injEq, HoldsChannel, channelFrequency_narrowed, true_and]
      rw [eq_comm]

theorem setRXChannel_narrowed_iff (radio : Radio) (n : Nat) :
    SelectsOnlyValid radio (setRXChannel radio (narrowed n)) n ↔ NarrowsHarmlessly radio n := by
  have narrow := accepts_narrowed radio.currentProtocol n
  have protocol := setRXChannel_currentProtocol radio (narrowed n)
  cases valid : validChannel radio.currentProtocol n with
  | true =>
      have same := mod_of_validChannel valid
      rw [same, valid] at narrow
      refine iff_of_true ⟨protocol, fun _ => ⟨?_, setRXChannel_otherUntouched radio _⟩, ?_⟩
        (Or.inr (Or.inl valid))
      · rw [fsFrequency_setRXChannel narrow, channelFrequency_narrowed, same]
      · intro invalid
        rw [valid] at invalid
        cases invalid
  | false =>
      cases aliased : validChannel radio.currentProtocol (n % 256) with
      | false =>
          rw [aliased] at narrow
          have unchanged := setRXChannel_of_rejected narrow
          refine iff_of_true ⟨protocol, fun impossible => ?_, fun _ => unchanged⟩ (Or.inl aliased)
          rw [valid] at impossible
          cases impossible
      | true =>
          rw [aliased] at narrow
          unfold NarrowsHarmlessly
          rw [aliased, valid, ← setRXChannel_eq_self_iff narrow]
          constructor
          · intro effect
            exact Or.inr (Or.inr (effect.ignores valid))
          · intro harmless
            rcases harmless with impossible | impossible | unchanged
            · cases impossible
            · cases impossible
            · refine ⟨protocol, fun impossible => ?_, fun _ => unchanged⟩
              rw [valid] at impossible
              cases impossible

/-- The parameter selects valid channels and changes nothing otherwise, except where
the number is out of range and its lowest byte another channel. -/
theorem handleChn_selectsOnlyValid_iff (device : Device) (text : ChannelText)
    (circumstances : Circumstances) :
    (∃ next,
      handleParameterChange device ⟨⟨chnName, some text.digits⟩, circumstances⟩ = .ok next ∧
        SelectsOnlyValid device.radio next.radio text.number) ↔
      NarrowsHarmlessly device.radio text.number := by
  rw [← setRXChannel_narrowed_iff, handleChn_text]
  constructor
  · intro handled
    obtain ⟨next, returned, effect⟩ := handled
    cases returned
    exact effect
  · intro effect
    exact ⟨_, rfl, effect⟩

/-- 267 in characters, whose lowest byte is 11. -/
def aliasText : ChannelText where
  digits := [50, 54, 55]
  nonempty := List.cons_ne_nil _ _
  decimal := fun c member => by
    simp only [List.mem_cons, List.not_mem_nil, or_false] at member
    rcases member with rfl | rfl | rfl
    · rfl
    · rfl
    · rfl
  inRange := by decide

/-- A device that receives IEEE 802.15.4 on channel 26. -/
def channel26Device : Device :=
  { poweredDevice with radio := { generatedRadio with ieeeFrequency := 2480 } }

theorem aliasText_not_selectsOnlyValid :
    ¬ ∃ next,
      handleParameterChange channel26Device
          ⟨⟨chnName, some aliasText.digits⟩, ⟨⟨fun _ => 0⟩, none⟩⟩ = .ok next ∧
        SelectsOnlyValid channel26Device.radio next.radio aliasText.number := by
  intro handled
  obtain ⟨next, returned, effect⟩ := handled
  rw [handleChn_text] at returned
  cases returned
  have unchanged := congrArg Radio.ieeeFrequency (effect.ignores rfl)
  cases unchanged

end MSniff.Concrete.Dashboard
