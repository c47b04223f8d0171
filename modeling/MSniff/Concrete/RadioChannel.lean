/-
The channel selected and the frequency received on. Radio_setRXChannel edits the
command structures, while the radio goes on with the frequency last programmed and
with the command last posted.
-/

import MSniff.EventRun
import MSniff.Concrete.RadioCore

namespace MSniff.Concrete.RadioTask

open RadioQueue EventRun

/-! ### Channels and frequencies -/

/-- The channels that `setRXChannel` accepts. -/
def accepts : Protocol → UInt8 → Bool
  | .ble1M, ch => 37 ≤ ch ∧ ch ≤ 39
  | .ieee802154, ch => 11 ≤ ch ∧ ch ≤ 26

def channelFrequency : Protocol → UInt8 → Nat
  | .ble1M, ch => if ch = 37 then 2402 else if ch = 38 then 2426 else 2480
  | .ieee802154, ch => 2405 + 5 * (ch.toNat - 11)

theorem ble_channel {ch : UInt8} (accepted : accepts .ble1M ch = true) :
    ch = 37 ∨ ch = 38 ∨ ch = 39 := by
  simp only [accepts, decide_eq_true_eq, UInt8.le_iff_toNat_le] at accepted
  simp only [← UInt8.toNat_inj]
  have low : (37 : UInt8).toNat = 37 := rfl
  have middle : (38 : UInt8).toNat = 38 := rfl
  have high : (39 : UInt8).toNat = 39 := rfl
  omega

theorem setRXChannel_of_rejected {radio : Radio} {ch : UInt8}
    (rejected : accepts radio.currentProtocol ch = false) : setRXChannel radio ch = radio := by
  unfold setRXChannel
  cases current : radio.currentProtocol with
  | ble1M =>
      rw [current] at rejected
      exact if_neg (of_decide_eq_false rejected)
  | ieee802154 =>
      rw [current] at rejected
      exact if_neg (of_decide_eq_false rejected)

/-- An accepted channel goes into the structures of the current protocol. -/
theorem setRXChannel_of_accepted {radio : Radio} {ch : UInt8}
    (accepted : accepts radio.currentProtocol ch = true) :
    setRXChannel radio ch =
      match radio.currentProtocol with
      | .ble1M =>
          { radio with
            bleFrequency := channelFrequency .ble1M ch
            bleChannel := ch.toNat
            bleOverride := 0 }
      | .ieee802154 => { radio with ieeeFrequency := channelFrequency .ieee802154 ch } := by
  unfold setRXChannel
  cases current : radio.currentProtocol with
  | ble1M =>
      rw [current] at accepted
      rw [if_pos (of_decide_eq_true accepted)]
      rcases ble_channel accepted with rfl | rfl | rfl
      · rfl
      · rfl
      · rfl
  | ieee802154 =>
      rw [current] at accepted
      exact if_pos (of_decide_eq_true accepted)

theorem setRXChannel_currentProtocol (radio : Radio) (ch : UInt8) :
    (setRXChannel radio ch).currentProtocol = radio.currentProtocol := by
  cases accepted : accepts radio.currentProtocol ch with
  | false => rw [setRXChannel_of_rejected accepted]
  | true =>
      rw [setRXChannel_of_accepted accepted]
      cases radio.currentProtocol with
      | ble1M => rfl
      | ieee802154 => rfl

/-! ### What the radio receives on -/

/-- The RF core's reading of the channel field of a BLE command: the advertising
channels by their number, and the value that ti_radio_config.c gives for 2402 MHz. -/
structure ChannelPlan where
  frequency : Nat → Nat
  advertising : ∀ ch, accepts .ble1M ch = true → frequency ch.toNat = channelFrequency .ble1M ch
  initially : frequency 0x66 = 2402

def RxCommand.frequency (plan : ChannelPlan) (programmed : Nat) (command : RxCommand) : Nat :=
  match command.protocol with
  | .ble1M => plan.frequency command.channel
  | .ieee802154 => programmed

def receiveFrequency (plan : ChannelPlan) (core : RfCore) : Option Nat :=
  match core.opened, core.commands with
  | some _, command :: _ => some (command.frequency plan core.frequency)
  | _, _ => none

/-! ### Sequences of calls -/

inductive RadioEvent
  | setRXChannel (ch : UInt8)
  | setCurrentProtocol (p : Protocol)
  | callback (e : UInt64) (ended : Bool)

/-- The receiver with, for each protocol, the channel it accepted last. -/
structure Tuning where
  receiver : Receiver
  accepted : Protocol → Option UInt8

def Tuning.current (tuning : Tuning) : Protocol := tuning.receiver.radio.currentProtocol

def startTuning (queue : Queue) (rxBuffer : Address) : Tuning :=
  ⟨mainTask queue rxBuffer, fun _ => none⟩

def tuningStep (rxBuffer : Address) (tuning : Tuning) : RadioEvent → Tuning
  | .setRXChannel ch =>
      { receiver := setReceiverChannel tuning.receiver ch
        accepted :=
          if accepts tuning.current ch then
            Function.update tuning.accepted tuning.current (some ch)
          else tuning.accepted }
  | .setCurrentProtocol p =>
      { tuning with receiver := setCurrentProtocol rxBuffer tuning.receiver p }
  | .callback e ended => { tuning with receiver := deliver rxBuffer tuning.receiver e ended }

/-- The radio receives on the channel last accepted for the current protocol. -/
def OnAccepted (plan : ChannelPlan) (tuning : Tuning) : Prop :=
  ∀ ch, tuning.accepted tuning.current = some ch →
    receiveFrequency plan tuning.receiver.core = some (channelFrequency tuning.current ch)

/-- A channel accepted is the one that the structures hold already. -/
def KeepsChannel (tuning : Tuning) : RadioEvent → Prop
  | .setRXChannel ch => accepts tuning.current ch = true →
      channelFrequency tuning.current ch = fsFrequency tuning.receiver.radio
  | _ => True

/-- The structures of both protocols hold the channels accepted last. -/
structure Selected (plan : ChannelPlan) (radio : Radio) (accepted : Protocol → Option UInt8) :
    Prop where
  bleChannel : plan.frequency radio.bleChannel = radio.bleFrequency
  ble : ∀ ch, accepted .ble1M = some ch → channelFrequency .ble1M ch = radio.bleFrequency
  ieee : ∀ ch, accepted .ieee802154 = some ch →
    channelFrequency .ieee802154 ch = radio.ieeeFrequency

/-- As long as no channel is changed, the radio receives on what the structures say. -/
structure Tuned (plan : ChannelPlan) (tuning : Tuning) : Prop where
  selected : Selected plan tuning.receiver.radio tuning.accepted
  opened : tuning.receiver.core.opened = some tuning.current
  programmed : tuning.receiver.core.frequency = fsFrequency tuning.receiver.radio
  receiving : tuning.receiver.core.commands ≠ []
  onFrequency : ∀ command ∈ tuning.receiver.core.commands,
    command.frequency plan tuning.receiver.core.frequency = fsFrequency tuning.receiver.radio

variable {plan : ChannelPlan} {radio : Radio} {tuning : Tuning} {rxBuffer : Address}

theorem fsFrequency_setRXChannel {ch : UInt8}
    (accepted : accepts radio.currentProtocol ch = true) :
    fsFrequency (setRXChannel radio ch) = channelFrequency radio.currentProtocol ch := by
  rw [fsFrequency, setRXChannel_currentProtocol, setRXChannel_of_accepted accepted]
  cases radio.currentProtocol with
  | ble1M => rfl
  | ieee802154 => rfl

theorem Selected.current {accepted : Protocol → Option UInt8}
    (selected : Selected plan radio accepted) {ch : UInt8}
    (last : accepted radio.currentProtocol = some ch) :
    channelFrequency radio.currentProtocol ch = fsFrequency radio := by
  unfold fsFrequency
  cases current : radio.currentProtocol with
  | ble1M => exact selected.ble ch (current ▸ last)
  | ieee802154 => exact selected.ieee ch (current ▸ last)

theorem Selected.setRXChannel {accepted : Protocol → Option UInt8}
    (selected : Selected plan radio accepted) {ch : UInt8}
    (taken : accepts radio.currentProtocol ch = true) :
    Selected plan (setRXChannel radio ch)
      (Function.update accepted radio.currentProtocol (some ch)) := by
  rw [setRXChannel_of_accepted taken]
  cases current : radio.currentProtocol with
  | ble1M =>
      rw [current] at taken
      constructor
      · exact plan.advertising ch taken
      · intro last same
        rw [Function.update_self] at same
        cases same
        rfl
      · intro last same
        exact selected.ieee last same
  | ieee802154 =>
      constructor
      · exact selected.bleChannel
      · intro last same
        exact selected.ble last same
      · intro last same
        rw [Function.update_self] at same
        cases same
        rfl

theorem rxCommand_frequency (bleChannel : plan.frequency radio.bleChannel = radio.bleFrequency) :
    (rxCommand radio).frequency plan (fsFrequency radio) = fsFrequency radio := by
  unfold rxCommand fsFrequency
  cases radio.currentProtocol with
  | ble1M => exact bleChannel
  | ieee802154 => rfl

theorem Tuned.receiveFrequency_eq (tuned : Tuned plan tuning) :
    receiveFrequency plan tuning.receiver.core = some (fsFrequency tuning.receiver.radio) := by
  unfold receiveFrequency
  rw [tuned.opened]
  cases commands : tuning.receiver.core.commands with
  | nil => exact absurd commands tuned.receiving
  | cons command rest =>
      have first : command ∈ tuning.receiver.core.commands := by
        rw [commands]
        exact List.mem_cons_self
      exact congrArg some (tuned.onFrequency command first)

theorem Tuned.onAccepted (tuned : Tuned plan tuning) : OnAccepted plan tuning := by
  intro ch last
  rw [tuned.receiveFrequency_eq, ← tuned.selected.current last]
  rfl

/-- A step that changes no channel keeps the radio tuned, whether the channel was
accepted or not. -/
theorem Tuned.setRXChannel (tuned : Tuned plan tuning) {ch : UInt8}
    (keeps : KeepsChannel tuning (.setRXChannel ch)) :
    Tuned plan (tuningStep rxBuffer tuning (.setRXChannel ch)) := by
  have current := setRXChannel_currentProtocol tuning.receiver.radio ch
  cases taken : accepts tuning.current ch with
  | false =>
      have unchanged : tuningStep rxBuffer tuning (.setRXChannel ch) = tuning := by
        simp only [tuningStep, setReceiverChannel, setRXChannel_of_rejected taken, taken,
          Bool.false_eq_true, if_false]
      rw [unchanged]
      exact tuned
  | true =>
      have same : fsFrequency (RadioTask.setRXChannel tuning.receiver.radio ch) =
          fsFrequency tuning.receiver.radio :=
        (fsFrequency_setRXChannel taken).trans (keeps taken)
      simp only [tuningStep, taken, if_true]
      constructor
      · exact tuned.selected.setRXChannel taken
      · exact tuned.opened.trans (congrArg some current.symm)
      · exact tuned.programmed.trans same.symm
      · exact tuned.receiving
      · intro command member
        exact (tuned.onFrequency command member).trans same.symm

/-- A command posted where the frequency programmed is the current one is received on
it, as are those before it. -/
theorem Tuned.beginRX {receiver : Receiver} {accepted : Protocol → Option UInt8}
    (selected : Selected plan receiver.radio accepted)
    (opened : receiver.core.opened = some receiver.radio.currentProtocol)
    (programmed : receiver.core.frequency = fsFrequency receiver.radio)
    (earlier : ∀ command ∈ receiver.core.commands,
      command.frequency plan receiver.core.frequency = fsFrequency receiver.radio) :
    Tuned plan ⟨beginRX receiver, accepted⟩ := by
  constructor
  · exact selected
  · exact opened
  · exact programmed
  · exact List.append_ne_nil_of_right_ne_nil _ (List.cons_ne_nil _ _)
  · intro command member
    rcases List.mem_append.mp member with before | posted
    · exact earlier command before
    · rw [List.mem_singleton.mp posted]
      change (rxCommand receiver.radio).frequency plan receiver.core.frequency =
        fsFrequency receiver.radio
      rw [programmed]
      exact rxCommand_frequency selected.bleChannel

theorem Tuned.setCurrentProtocol (tuned : Tuned plan tuning) (p : Protocol) :
    Tuned plan (tuningStep rxBuffer tuning (.setCurrentProtocol p)) := by
  apply Tuned.beginRX
  · exact ⟨tuned.selected.bleChannel, tuned.selected.ble, tuned.selected.ieee⟩
  · rfl
  · rfl
  · intro command member
    have flushed : tuning.receiver.core.commands.drop tuning.receiver.core.commands.length = [] :=
      List.drop_length
    change command ∈ tuning.receiver.core.commands.drop _ at member
    rw [flushed] at member
    cases member

theorem Tuned.callback (tuned : Tuned plan tuning) (e : UInt64) (ended : Bool) :
    Tuned plan (tuningStep rxBuffer tuning (.callback e ended)) := by
  unfold tuningStep deliver
  cases tuning.receiver.core.commands with
  | nil => exact tuned
  | cons command rest =>
      apply Tuned.beginRX
      · exact tuned.selected
      · exact tuned.opened
      · exact tuned.programmed
      · intro earlier member
        exact tuned.onFrequency earlier (List.mem_of_mem_drop member)

theorem Tuned.step (tuned : Tuned plan tuning) {event : RadioEvent}
    (keeps : KeepsChannel tuning event) : Tuned plan (tuningStep rxBuffer tuning event) := by
  cases event with
  | setRXChannel ch => exact tuned.setRXChannel keeps
  | setCurrentProtocol p => exact tuned.setCurrentProtocol p
  | callback e ended => exact tuned.callback e ended

theorem startTuning_tuned (plan : ChannelPlan) (queue : Queue) (rxBuffer : Address) :
    Tuned plan (startTuning queue rxBuffer) := by
  apply Tuned.beginRX
  · constructor
    · exact plan.initially
    · intro ch none
      cases none
    · intro ch none
      cases none
  · rfl
  · rfl
  · intro command member
    cases member

/-- A channel that differs from the one in the structures is accepted and not
received on. -/
theorem Tuned.onAccepted_iff (tuned : Tuned plan tuning) (event : RadioEvent) :
    OnAccepted plan (tuningStep rxBuffer tuning event) ↔ KeepsChannel tuning event := by
  constructor
  · intro onAccepted
    cases event with
    | setRXChannel ch =>
        intro taken
        have current := setRXChannel_currentProtocol tuning.receiver.radio ch
        have received := tuned.receiveFrequency_eq
        simp only [tuningStep, taken, if_true] at onAccepted
        have last := onAccepted ch (by
          change Function.update tuning.accepted tuning.current (some ch)
            (RadioTask.setRXChannel tuning.receiver.radio ch).currentProtocol = some ch
          rw [current]
          exact Function.update_self ..)
        change receiveFrequency plan tuning.receiver.core =
          some (channelFrequency
            (RadioTask.setRXChannel tuning.receiver.radio ch).currentProtocol ch) at last
        rw [current, received] at last
        exact (Option.some.inj last).symm
    | setCurrentProtocol p => exact trivial
    | callback e ended => exact trivial
  · intro keeps
    exact (tuned.step keeps).onAccepted

/-- The radio receives on the channel accepted last, in every state of a sequence,
exactly where no call of the sequence changes a channel. -/
theorem onAccepted_iff_keepsChannel (plan : ChannelPlan) (queue : Queue) (rxBuffer : Address)
    (events : List RadioEvent) :
    Meets (tuningStep rxBuffer) (fun tuning event => OnAccepted plan (tuningStep rxBuffer tuning event))
        (startTuning queue rxBuffer) events ↔
      Meets (tuningStep rxBuffer) KeepsChannel (startTuning queue rxBuffer) events := by
  apply meets_iff
  · intro tuning event (tuned : Tuned plan tuning) keeps
    exact tuned.step keeps
  · intro tuning event tuned
    exact tuned.onAccepted_iff event
  · exact startTuning_tuned plan queue rxBuffer

/-- The channel field as the RF core's documentation has it: the number of a BLE
channel, or the frequency's distance from 2300 MHz. -/
def documentedPlan : ChannelPlan where
  frequency := fun channel =>
    if channel = 37 then 2402
    else if channel = 38 then 2426
    else if channel = 39 then 2480
    else if channel ≤ 10 then 2404 + 2 * channel
    else if channel ≤ 36 then 2406 + 2 * channel
    else 2300 + channel
  advertising := fun _ accepted => by
    rcases ble_channel accepted with rfl | rfl | rfl
    · rfl
    · rfl
    · rfl
  initially := rfl

/-- After the start on channel 11, channel 26 is accepted and 2405 MHz received on. -/
theorem channel26_not_onAccepted :
    ¬ OnAccepted documentedPlan
      (run (tuningStep 0) (startTuning blankQueue 0) [.setRXChannel 26]) := by
  intro onAccepted
  have received := onAccepted 26 rfl
  cases received

end MSniff.Concrete.RadioTask
