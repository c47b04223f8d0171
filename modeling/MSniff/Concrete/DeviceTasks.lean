/-
The three tasks that main creates, from BIOS_start on: what each does up to its loop and
in it, which semaphores hold them back, and where they sleep. Between any two of their
steps the network changes the sockets.
-/

import MSniff.TaskSchedule
import MSniff.Concrete.SocketOwnership

namespace MSniff.Concrete.DeviceTasks

open EthernetSettings EthernetTask EventRun SocketOwnership SocketTable TaskSchedule
open RadioQueue (Queue)
open RadioTask (Protocol)

/-! ### Tasks -/

inductive Task
  | radio
  | ethernet
  | dashboard
  deriving DecidableEq

inductive Semaphore
  | radioInit
  | ethernetInit
  deriving DecidableEq

/-- The sockets and settings that the tasks share, and the calls of the UDP layer that
Ethernet_handleRFpacket has made. -/
structure Shared where
  ethernet : Ethernet
  resetSinceBegin : Bool
  calls : List UdpCall

inductive RadioPlace
  | starting
  | started
  | looping

/-- Where `Ethernet_mainTask` stands; `leasing` is the wait for the DHCP server. -/
inductive EthernetPlace
  | waiting
  | beginning
  | leasing (dhcp : EthernetUDP)
  | leased
  | beginningUdp
  | begun
  | looping

/-- The dashboard has begun, or stands at its first line. -/
abbrev DashboardPlace := Option Point

def Place : Task → Type
  | .radio => RadioPlace
  | .ethernet => EthernetPlace
  | .dashboard => DashboardPlace

/-- What the Ethernet task meets: how its DHCP request has ended, and the queue, the
protocol and the memory under its buffer. -/
structure EthernetChoice where
  ended : Option (Option Lease)
  queue : Queue
  currentProtocol : Protocol
  stack : Nat → UInt8

/-- For the radio task whether its commands have come to their end. -/
def Choice : Task → Type
  | .radio => Bool
  | .ethernet => EthernetChoice
  | .dashboard => SocketOwnership.Choice

structure NetworkChange where
  socket : Nat
  status : SocketStatus
  received : Bool

def priority : Task → Nat
  | .radio => 3
  | .ethernet => 2
  | .dashboard => 2

/-- RF_open and RF_runCmd block until the radio core is done. -/
def radioAct (shared : Shared) (place : RadioPlace) (done : Bool) :
    Action Semaphore Shared RadioPlace :=
  match place with
  | .starting => if done then ⟨shared, .started, .none⟩ else ⟨shared, .starting, .sleep⟩
  | .started => ⟨shared, .looping, .post .radioInit⟩
  | .looping => ⟨shared, .looping, .sleep⟩

def Shared.withEthernet (shared : Shared) (ethernet : Ethernet) : Shared :=
  { shared with ethernet := ethernet }

def ethernetAct (shared : Shared) (place : EthernetPlace) (choice : EthernetChoice) :
    Action Semaphore Shared EthernetPlace :=
  match place with
  | .waiting => ⟨shared, .beginning, .pend .radioInit⟩
  | .beginning =>
      let (ethernet, dhcp) := beginMac { shared.ethernet with bUsingDhcp := true }
      ⟨shared.withEthernet ethernet, .leasing dhcp, .none⟩
  | .leasing dhcp =>
      match choice.ended with
      | none => ⟨shared, .leasing dhcp, .sleep⟩
      | some lease => ⟨shared.withEthernet (endMac shared.ethernet dhcp lease), .leased, .none⟩
  | .leased => ⟨shared, .beginningUdp, .post .ethernetInit⟩
  | .beginningUdp =>
      let unused := { shared.ethernet with hEthUdp := ⟨maxSockNum, 0⟩ }
      ⟨shared.withEthernet (beginUdp unused), .begun, .none⟩
  | .begun =>
      ⟨shared.withEthernet { shared.ethernet with bReadyToSend := false }, .looping, .none⟩
  | .looping =>
      let turn := if shared.ethernet.bReadyToSend then
          (handleRFpacket choice.queue choice.currentProtocol shared.ethernet.hTargetIp
            choice.stack).calls
        else []
      ⟨{ shared with calls := shared.calls ++ turn }, .looping, .sleep⟩

def dashboardAct (tmpIp : IPAddress) (shared : Shared) (place : DashboardPlace)
    (choice : SocketOwnership.Choice) : Action Semaphore Shared DashboardPlace :=
  match place with
  | none => ⟨shared, some (.beginServer 0 true), .pend .ethernetInit⟩
  | some point =>
      let next := dashboardStep tmpIp ⟨shared.ethernet, point, shared.resetSinceBegin⟩ choice
      ⟨⟨next.ethernet, next.resetSinceBegin, shared.calls⟩, some next.dashboard,
        if next.dashboard.sleeps then .sleep else .none⟩

def act (tmpIp : IPAddress) : ∀ task, Shared → Place task → Choice task →
    Action Semaphore Shared (Place task)
  | .radio => radioAct
  | .ethernet => ethernetAct
  | .dashboard => dashboardAct tmpIp

/-- `networkStep` on what the tasks share; it does not look at the dashboard. -/
def networkChange (change : NetworkChange) (shared : Shared) : Shared :=
  let system : System := ⟨shared.ethernet, .mainSleep, shared.resetSinceBegin⟩
  shared.withEthernet
    (networkStep system change.socket change.status change.received).ethernet

def program (tmpIp : IPAddress) : Program Semaphore Shared NetworkChange Place Choice where
  priority := priority
  act := act tmpIp
  outside := networkChange

abbrev Device := Kernel Semaphore Shared Place

abbrev DeviceEvent := TaskSchedule.Event NetworkChange Choice

abbrev deviceStep (tmpIp : IPAddress) (device : Device) (event : DeviceEvent) : Device :=
  TaskSchedule.step (program tmpIp) device event

def startPlace : ∀ task, Place task
  | .radio => RadioPlace.starting
  | .ethernet => EthernetPlace.waiting
  | .dashboard => (none : DashboardPlace)

/-- `main` at BIOS_start: the tasks ready in the order in which they were created. -/
def start : Device where
  shared := ⟨powered, false, []⟩
  place := startPlace
  status := fun task => match task with
    | .radio => .ready 0
    | .ethernet => .ready 1
    | .dashboard => .ready 2
  waiting := fun _ => []
  available := fun _ => false
  clock := 3
  underWay := fun _ => false

def Device.ethernetPlace (device : Device) : EthernetPlace := device.place .ethernet

def Device.dashboardPlace (device : Device) : DashboardPlace := device.place .dashboard

theorem mem_tasks : ∀ task : Task, task ∈ [Task.radio, .ethernet, .dashboard]
  | .radio => List.mem_cons_self
  | .ethernet => List.mem_cons_of_mem _ List.mem_cons_self
  | .dashboard => List.mem_cons_of_mem _ (List.mem_cons_of_mem _ List.mem_cons_self)

instance decidableAllowed (tmpIp : IPAddress) (device : Device) :
    ∀ event, Decidable (Allowed (program tmpIp) device event)
  | .run _ _ => decidable_of_iff _ (mayRun_iff mem_tasks)
  | .wake _ => isTrue trivial
  | .outside _ => isTrue trivial

/-- The device as the model of two parties on one chip sees it. -/
def Device.system (device : Device) (point : Point) : System :=
  ⟨device.shared.ethernet, point, device.shared.resetSinceBegin⟩

end MSniff.Concrete.DeviceTasks
