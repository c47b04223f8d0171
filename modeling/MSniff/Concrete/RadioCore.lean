/-
The functions of radio_task.c that drive the RF core, over the command structures as
ti_radio_config.c initialises them. The driver and the RF core are not part of the
repository: of them the model keeps what the handle was opened with, the frequency
that the last CMD_FS programmed, and the RX commands posted and not yet over.
-/

import MSniff.Concrete.RadioQueueRing
import MSniff.Concrete.RadioTask

namespace MSniff.Concrete.RadioTask

open RadioQueue

/-! ### The RF core -/

/-- A posted RX command, with the channel field it had at that moment. -/
structure RxCommand where
  protocol : Protocol
  channel : Nat
  deriving DecidableEq

/-- The command at the head runs, those behind it wait. -/
structure RfCore where
  opened : Option Protocol
  frequency : Nat
  commands : List RxCommand
  deriving DecidableEq

structure Receiver where
  radio : Radio
  queue : Queue
  core : RfCore
  nRxBufFull : UInt16

/-! ### Functions of radio_task.c -/

/-- The frequency of the command that `Radio_getFScmd` returns. -/
def fsFrequency (radio : Radio) : Nat :=
  match radio.currentProtocol with
  | .ble1M => radio.bleFrequency
  | .ieee802154 => radio.ieeeFrequency

/-- The command that `Radio_getRXcmd` returns; channel 0 of the IEEE command keeps
the programmed frequency. -/
def rxCommand (radio : Radio) : RxCommand :=
  match radio.currentProtocol with
  | .ble1M => ⟨.ble1M, radio.bleChannel⟩
  | .ieee802154 => ⟨.ieee802154, 0⟩

def openRF (receiver : Receiver) : Receiver :=
  { receiver with
    core := { receiver.core with opened := some receiver.radio.currentProtocol } }

def setFS (receiver : Receiver) : Receiver :=
  { receiver with core := { receiver.core with frequency := fsFrequency receiver.radio } }

def beginRX (receiver : Receiver) : Receiver :=
  { receiver with
    core := { receiver.core with
      commands := receiver.core.commands ++ [rxCommand receiver.radio] } }

/-- The commands at the head are over, by an event of theirs or by `RF_flushCmd`, which
ends those that are posted when it is called. -/
def endCommands (count : Nat) (receiver : Receiver) : Receiver :=
  { receiver with
    core := { receiver.core with commands := receiver.core.commands.drop count } }

def closeRF (receiver : Receiver) : Receiver :=
  { receiver with core := { receiver.core with opened := none } }

def stopRX (receiver : Receiver) : Receiver :=
  closeRF (endCommands receiver.core.commands.length receiver)

def setReceiverChannel (receiver : Receiver) (ch : UInt8) : Receiver :=
  { receiver with radio := setRXChannel receiver.radio ch }

def initObjects (radio : Radio) : Radio :=
  { radio with bleChannel := 0x66, ieeeFrequency := 0x0965 }

def resetQueue (rxBuffer : Address) (receiver : Receiver) : Receiver :=
  { receiver with queue := reset receiver.queue rxBuffer }

/-- The event mask is not looked at. -/
def callback (rxBuffer : Address) (receiver : Receiver) (_e : UInt64) : Receiver :=
  beginRX (resetQueue rxBuffer { receiver with nRxBufFull := receiver.nRxBufFull + 1 })

def assignProtocol (p : Protocol) (receiver : Receiver) : Receiver :=
  { receiver with radio := { receiver.radio with currentProtocol := p } }

def setCurrentProtocol (rxBuffer : Address) (receiver : Receiver) (p : Protocol) : Receiver :=
  beginRX (setFS (openRF (resetQueue rxBuffer (assignProtocol p (stopRX receiver)))))

/-- The command structures as they are initialised. -/
def generatedRadio : Radio where
  currentProtocol := .ieee802154
  bleFrequency := 0x0962
  bleChannel := 0x66
  bleOverride := 1
  ieeeFrequency := 0x0965

/-- The zeroed memory of the program's start. -/
def blankQueue : Queue where
  entries := fun _ => ⟨0, .pending, .general, 0, 0, fun _ => 0⟩
  object := ⟨0, none⟩
  readEntry := 0

/-- `Radio_mainTask` up to its loop. -/
def mainTask (queue : Queue) (rxBuffer : Address) : Receiver :=
  beginRX (setFS (openRF
    { radio := initObjects generatedRadio
      queue := reset (init queue rxBuffer) rxBuffer
      core := ⟨none, 0, []⟩
      nRxBufFull := 0 }))

/-- The driver hands an event of the running command to its callback; `ended` says
whether the command is over with it. -/
def deliver (rxBuffer : Address) (receiver : Receiver) (e : UInt64) (ended : Bool) : Receiver :=
  match receiver.core.commands with
  | [] => receiver
  | _ :: _ => callback rxBuffer (endCommands ended.toNat receiver) e

end MSniff.Concrete.RadioTask
