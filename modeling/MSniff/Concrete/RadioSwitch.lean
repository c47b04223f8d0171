/-
Radio_setCurrentProtocol step by step, with the driver's callbacks in between. The
driver reports every event of a posted command to Radio_callback, the end that
RF_flushCmd brings about among them, and the callback posts reception anew.
-/

import MSniff.EventRun
import MSniff.Concrete.RadioCore

namespace MSniff.Concrete.RadioTask

open RadioQueue EventRun

/-! ### The switch and its driver -/

/-- What a call of `setCurrentProtocol` has behind it; inside `RF_flushCmd` also how
many of the commands it was called for are left. -/
inductive SwitchPoint
  | idle
  | flushing (p : Protocol) (left : Nat)
  | flushed (p : Protocol)
  | closed (p : Protocol)
  | assigned
  | emptied
  | opened
  | tuned
  deriving DecidableEq

def SwitchPoint.ended : SwitchPoint → Nat → SwitchPoint
  | .flushing p left, count => .flushing p (left - count)
  | point, _ => point

/-- A call of `RF_postCmd`: whether it falls between the flush of a switch and the
reception begun at its end, and the handle's state. -/
structure Post where
  between : Bool
  opened : Option Protocol
  deriving DecidableEq

structure Switching where
  receiver : Receiver
  point : SwitchPoint
  posts : List Post

def startSwitching (queue : Queue) (rxBuffer : Address) : Switching :=
  ⟨mainTask queue rxBuffer, .idle, [⟨false, some .ieee802154⟩]⟩

/-- A command may be over without a callback too. -/
inductive SwitchEvent
  | call (p : Protocol)
  | advance
  | callback (e : UInt64) (ended : Bool)
  | commandEnds

def Switching.move (switching : Switching) (receiver : Receiver) (point : SwitchPoint) :
    Switching :=
  { switching with receiver := receiver, point := point }

def advanceSwitch (rxBuffer : Address) (switching : Switching) : Switching :=
  let receiver := switching.receiver
  match switching.point with
  | .idle => switching
  | .flushing p left => switching.move (endCommands left receiver) (.flushed p)
  | .flushed p => switching.move (closeRF receiver) (.closed p)
  | .closed p => switching.move (assignProtocol p receiver) .assigned
  | .assigned => switching.move (resetQueue rxBuffer receiver) .emptied
  | .emptied => switching.move (openRF receiver) .opened
  | .opened => switching.move (setFS receiver) .tuned
  | .tuned =>
      { receiver := beginRX receiver
        point := .idle
        posts := switching.posts ++ [⟨false, receiver.core.opened⟩] }

def switchStep (rxBuffer : Address) (switching : Switching) : SwitchEvent → Switching
  | .call p =>
      match switching.point with
      | .idle =>
          { switching with point := .flushing p switching.receiver.core.commands.length }
      | _ => switching
  | .advance => advanceSwitch rxBuffer switching
  | .callback e ended =>
      match switching.receiver.core.commands with
      | [] => switching
      | _ :: _ =>
          { receiver := deliver rxBuffer switching.receiver e ended
            point := switching.point.ended ended.toNat
            posts := switching.posts ++
              [⟨switching.point ≠ .idle, switching.receiver.core.opened⟩] }
  | .commandEnds =>
      switching.move (endCommands 1 switching.receiver) (switching.point.ended 1)

/-- A call that nothing comes between is the function. -/
theorem advanceSwitch_setCurrentProtocol (rxBuffer : Address) (receiver : Receiver) (posts : List Post)
    (p : Protocol) :
    (advanceSwitch rxBuffer)^[7] (switchStep rxBuffer ⟨receiver, .idle, posts⟩ (.call p)) =
      ⟨setCurrentProtocol rxBuffer receiver p, .idle, posts ++ [⟨false, some p⟩]⟩ := rfl

/-! ### Stopping -/

/-- No reception is posted from the flush of a switch to its end, none on a closed
handle, and what is outstanding belongs to the protocol the RF core was opened with. -/
structure StopIsFinal (switching : Switching) : Prop where
  atEnd : ∀ post ∈ switching.posts, post.between = false
  onOpen : ∀ post ∈ switching.posts, post.opened ≠ none
  ofOpened : ∀ command ∈ switching.receiver.core.commands,
    switching.receiver.core.opened = some command.protocol

/-- No callback is delivered while a switch is under way. -/
def Undisturbed (switching : Switching) : SwitchEvent → Prop
  | .callback _ _ => switching.receiver.core.commands ≠ [] → switching.point = .idle
  | _ => True

def OpenedFor (receiver : Receiver) : Prop :=
  receiver.core.opened = some receiver.radio.currentProtocol

/-- The RF core as an undisturbed switch leaves it at each of its points. -/
def CoreAt (receiver : Receiver) : SwitchPoint → Prop
  | .idle => OpenedFor receiver
  | .flushing _ left => OpenedFor receiver ∧ receiver.core.commands.length ≤ left
  | .flushed _ => receiver.core.commands = []
  | .closed _ => receiver.core.commands = []
  | .assigned => receiver.core.commands = []
  | .emptied => receiver.core.commands = []
  | .opened => OpenedFor receiver ∧ receiver.core.commands = []
  | .tuned => OpenedFor receiver ∧ receiver.core.commands = []

structure Orderly (switching : Switching) : Prop where
  final : StopIsFinal switching
  core : CoreAt switching.receiver switching.point

variable {switching : Switching} {receiver : Receiver} {rxBuffer : Address}

theorem switchStep_callback (outstanding : switching.receiver.core.commands ≠ []) (e : UInt64)
    (ended : Bool) :
    switchStep rxBuffer switching (.callback e ended) =
      { receiver := callback rxBuffer (endCommands ended.toNat switching.receiver) e
        point := switching.point.ended ended.toNat
        posts := switching.posts ++
          [⟨switching.point ≠ .idle, switching.receiver.core.opened⟩] } := by
  cases commands : switching.receiver.core.commands with
  | nil => exact absurd commands outstanding
  | cons command rest => simp only [switchStep, deliver, commands]

theorem rxCommand_protocol (radio : Radio) :
    (rxCommand radio).protocol = radio.currentProtocol := by
  unfold rxCommand
  cases radio.currentProtocol with
  | ble1M => rfl
  | ieee802154 => rfl

theorem StopIsFinal.of_stopped {other : Switching} (final : StopIsFinal switching)
    (posts : other.posts = switching.posts) (stopped : other.receiver.core.commands = []) :
    StopIsFinal other := by
  constructor
  · rw [posts]
    exact final.atEnd
  · rw [posts]
    exact final.onOpen
  · intro command member
    rw [stopped] at member
    cases member

/-- Reception posted on a handle opened for the current protocol, outside the part
of a switch that is to have none. -/
theorem StopIsFinal.post (final : StopIsFinal switching) (openedFor : OpenedFor receiver)
    (kept : ∀ command ∈ receiver.core.commands,
      receiver.core.opened = some command.protocol) (point : SwitchPoint) :
    StopIsFinal
      ⟨beginRX receiver, point, switching.posts ++ [⟨false, receiver.core.opened⟩]⟩ := by
  refine ⟨fun post member => ?_, fun post member => ?_, fun command member => ?_⟩
  · rcases List.mem_append.mp member with earlier | last
    · exact final.atEnd post earlier
    · rw [List.mem_singleton.mp last]
  · rcases List.mem_append.mp member with earlier | last
    · exact final.onOpen post earlier
    · rw [List.mem_singleton.mp last, openedFor]
      exact Option.some_ne_none _
  · rcases List.mem_append.mp member with earlier | last
    · exact kept command earlier
    · rw [List.mem_singleton.mp last, rxCommand_protocol]
      exact openedFor

theorem Orderly.call (orderly : Orderly switching) (p : Protocol) :
    Orderly (switchStep rxBuffer switching (.call p)) := by
  obtain ⟨receiver, point, posts⟩ := switching
  cases point with
  | idle => exact ⟨⟨orderly.final.atEnd, orderly.final.onOpen, orderly.final.ofOpened⟩,
      orderly.core, Nat.le_refl _⟩
  | _ => exact orderly

theorem Orderly.advance (orderly : Orderly switching) :
    Orderly (advanceSwitch rxBuffer switching) := by
  obtain ⟨receiver, point, posts⟩ := switching
  have final := orderly.final
  have core := orderly.core
  cases point with
  | idle => exact orderly
  | flushing p left =>
      have none : (endCommands left receiver).core.commands = [] := List.drop_eq_nil_of_le core.2
      exact ⟨final.of_stopped rfl none, none⟩
  | flushed p => exact ⟨final.of_stopped rfl core, core⟩
  | closed p => exact ⟨final.of_stopped rfl core, core⟩
  | assigned => exact ⟨final.of_stopped rfl core, core⟩
  | emptied => exact ⟨final.of_stopped rfl core, rfl, core⟩
  | opened => exact ⟨final.of_stopped rfl core.2, core.1, core.2⟩
  | tuned => exact ⟨final.post core.1 (fun command member => by
      rw [core.2] at member
      cases member) _, core.1⟩

theorem Orderly.callback (orderly : Orderly switching) {e : UInt64} {ended : Bool}
    (undisturbed : Undisturbed switching (.callback e ended)) :
    Orderly (switchStep rxBuffer switching (.callback e ended)) := by
  by_cases outstanding : switching.receiver.core.commands = []
  · simp only [switchStep, outstanding]
    exact orderly
  · rw [switchStep_callback outstanding]
    obtain ⟨receiver, point, posts⟩ := switching
    have idle : point = .idle := undisturbed outstanding
    subst idle
    constructor
    · apply orderly.final.post
      · exact orderly.core
      · intro later member
        exact orderly.final.ofOpened later (List.mem_of_mem_drop member)
    · exact orderly.core

theorem Orderly.commandEnds (orderly : Orderly switching) :
    Orderly (switchStep rxBuffer switching .commandEnds) := by
  obtain ⟨receiver, point, posts⟩ := switching
  have final := orderly.final
  have core := orderly.core
  have fewer : receiver.core.commands = [] → receiver.core.commands.drop 1 = [] := by
    intro none
    rw [none]
    rfl
  constructor
  · refine ⟨final.atEnd, final.onOpen, fun command member => ?_⟩
    exact final.ofOpened command (List.mem_of_mem_drop member)
  · cases point with
    | idle => exact core
    | flushing p left =>
        refine ⟨core.1, ?_⟩
        change (receiver.core.commands.drop 1).length ≤ left - 1
        rw [List.length_drop]
        exact Nat.sub_le_sub_right core.2 1
    | flushed p => exact fewer core
    | closed p => exact fewer core
    | assigned => exact fewer core
    | emptied => exact fewer core
    | opened => exact ⟨core.1, fewer core.2⟩
    | tuned => exact ⟨core.1, fewer core.2⟩

theorem Orderly.step (orderly : Orderly switching) {event : SwitchEvent}
    (undisturbed : Undisturbed switching event) :
    Orderly (switchStep rxBuffer switching event) := by
  cases event with
  | call p => exact orderly.call p
  | advance => exact orderly.advance
  | callback e ended => exact orderly.callback undisturbed
  | commandEnds => exact orderly.commandEnds

theorem startSwitching_orderly (queue : Queue) (rxBuffer : Address) :
    Orderly (startSwitching queue rxBuffer) := by
  refine ⟨⟨fun post member => ?_, fun post member => ?_, fun command member => ?_⟩, rfl⟩
  · rw [List.mem_singleton.mp member]
  · rw [List.mem_singleton.mp member]
    exact Option.some_ne_none _
  · rw [List.mem_singleton.mp member]
    rfl

/-- The callback posts whatever it is told, so one delivered during a switch posts
where the switch is to have nothing posted. -/
theorem stopIsFinal_step_iff (orderly : Orderly switching) (event : SwitchEvent) :
    StopIsFinal (switchStep rxBuffer switching event) ↔ Undisturbed switching event := by
  constructor
  · intro final
    cases event with
    | callback e ended =>
        intro outstanding
        rw [switchStep_callback outstanding] at final
        have last := final.atEnd _ (List.mem_append_right _ (List.mem_singleton_self _))
        exact not_not.mp (of_decide_eq_false last)
    | call p => exact trivial
    | advance => exact trivial
    | commandEnds => exact trivial
  · intro undisturbed
    exact (orderly.step undisturbed).final

/-- Stopping is final in every state of a run exactly where the driver delivers no
callback from the flush of a switch to its end. -/
theorem stopIsFinal_iff_undisturbed (queue : Queue) (rxBuffer : Address)
    (events : List SwitchEvent) :
    Meets (switchStep rxBuffer)
        (fun switching event => StopIsFinal (switchStep rxBuffer switching event))
        (startSwitching queue rxBuffer) events ↔
      Meets (switchStep rxBuffer) Undisturbed (startSwitching queue rxBuffer) events := by
  apply meets_iff
  · intro switching event (orderly : Orderly switching) undisturbed
    exact orderly.step undisturbed
  · intro switching event orderly
    exact stopIsFinal_step_iff orderly event
  · exact startSwitching_orderly queue rxBuffer

/-- The flush reports the end of the command to the callback, which posts it anew;
after the switch an IEEE 802.15.4 command is outstanding on the core opened for BLE. -/
theorem flushCallback_not_stopIsFinal :
    ¬ StopIsFinal (run (switchStep 0) (startSwitching blankQueue 0)
      [.call .ble1M, .callback 2 true, .advance, .advance, .advance, .advance, .advance,
        .advance, .advance]) := by
  intro final
  have posted := final.ofOpened ⟨.ieee802154, 0⟩ List.mem_cons_self
  cases posted

end MSniff.Concrete.RadioTask
