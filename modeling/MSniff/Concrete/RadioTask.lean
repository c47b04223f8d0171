/-
The part of radio_task.c that the dashboard reaches: the current protocol and the
fields of the radio commands that the choice of a channel writes.
-/

import Mathlib.Data.Nat.Basic

namespace MSniff.Concrete.RadioTask

inductive Protocol
  | ble1M
  | ieee802154
  deriving DecidableEq, Repr

/-- The values of the enumeration in radio_task.h. -/
def Protocol.code : Protocol → UInt8
  | .ble1M => 0
  | .ieee802154 => 1

/-- The frequencies of `RF_cmdFs_bt5le1m_0` and `RF_cmdFs_ieee154_1`, and of
`RF_cmdBle5GenericRx_bt5le1m_0` the channel and the override bit of its whitening. -/
structure Radio where
  currentProtocol : Protocol
  bleFrequency : Nat
  bleChannel : Nat
  bleOverride : Nat
  ieeeFrequency : Nat

def setRXChannel (radio : Radio) (ch : UInt8) : Radio :=
  match radio.currentProtocol with
  | .ble1M =>
      if 37 ≤ ch ∧ ch ≤ 39 then
        { radio with
          bleFrequency :=
            if ch = 37 then 2402
            else if ch = 38 then 2426
            else if ch = 39 then 2480
            else radio.bleFrequency
          bleChannel := ch.toNat
          bleOverride := 0 }
      else radio
  | .ieee802154 =>
      if 11 ≤ ch ∧ ch ≤ 26 then { radio with ieeeFrequency := 2405 + 5 * (ch.toNat - 11) }
      else radio

end MSniff.Concrete.RadioTask
