/-
What the kernel's schedule makes of the three tasks. The Ethernet task has its chip and
its socket ready before the dashboard takes its first step, and from then on the two take
turns where the dashboard sleeps: each schedule is a run of the two parties on one chip.
-/

import MSniff.Concrete.DeviceTasks

namespace MSniff.Concrete.DeviceTasks

open EthernetSettings EthernetTask EventRun SocketOwnership SocketTable TaskSchedule
open RadioQueue (Queue)
open RadioTask (Protocol)

variable {tmpIp : IPAddress} {device : Device}

/-! ### Up to the loop of the Ethernet task -/

def chipBegun : Ethernet × EthernetUDP := beginMac { powered with bUsingDhcp := true }

/-- What `Ethernet_mainTask` has done where it stands, the dashboard having done nothing. -/
inductive Prepared : EthernetPlace → Ethernet → Prop
  | waiting : Prepared .waiting powered
  | beginning : Prepared .beginning powered
  | leasing : Prepared (.leasing chipBegun.2) chipBegun.1
  | leased (lease : Option Lease) :
      Prepared .leased (endMac chipBegun.1 chipBegun.2 lease)
  | beginningUdp (lease : Option Lease) :
      Prepared .beginningUdp (endMac chipBegun.1 chipBegun.2 lease)
  | begun (lease : Option Lease) : Prepared .begun (startup lease).ethernet
  | looping (lease : Option Lease) : Prepared .looping (startup lease).ethernet

/-- Before the dashboard's server there is no TCP socket for the network to change. -/
def NoTcp (chip : Chip) : Prop := ∀ s, (chip.socket s).mode ≠ .tcp

theorem NoTcp.openUdp {chip : Chip} (noTcp : NoTcp chip) (s port : Nat) (opener : Opener) :
    NoTcp (chip.openSocket s .udp port opener) := by
  intro other
  by_cases same : other % maxSockNum = s % maxSockNum
  · have here : (chip.openSocket s .udp port opener).socket other =
        (chip.openSocket s .udp port opener).socket s :=
      congrArg (chip.openSocket s .udp port opener) same
    rw [here, Chip.socket_openSocket_udp]
    exact nofun
  · rw [Chip.socket_openSocket_of_ne same]
    exact noTcp other

theorem NoTcp.close {chip : Chip} (noTcp : NoTcp chip) (s : Nat) : NoTcp (chip.close s) := by
  intro other
  by_cases same : other % maxSockNum = s % maxSockNum
  · have here : (chip.close s).socket other = (chip.close s).socket s :=
      congrArg (chip.close s) same
    rw [here, Chip.socket_close_self]
    exact noTcp s
  · rw [Chip.socket_close_of_ne same]
    exact noTcp other

theorem chipBegun_eq : chipBegun.1.chip = Chip.reset.openSocket 0 .udp dhcpClientPort .dhcp ∧
    chipBegun.2 = ⟨0, dhcpClientPort⟩ := by
  have begun := ethernetUDPBegin_first (show (Chip.reset.socket 0).status = .closed from rfl)
    ⟨maxSockNum, 0⟩ rfl dhcpClientPort .dhcp
  simp only [chipBegun, beginMac, begun, and_self]

theorem Prepared.noTcp {place : EthernetPlace} {ethernet : Ethernet}
    (prepared : Prepared place ethernet) : NoTcp ethernet.chip := by
  have reset : NoTcp Chip.reset := fun _ => nofun
  obtain ⟨chip, dhcp⟩ := chipBegun_eq
  have leased : ∀ lease, NoTcp (endMac chipBegun.1 chipBegun.2 lease).chip := by
    intro lease
    have used : ¬ 0 = maxSockNum := Nat.ne_of_lt maxSockNum_pos
    simp only [endMac, ethernetUDPStop, dhcp, used, if_false, chip]
    exact (reset.openUdp 0 dhcpClientPort .dhcp).close 0
  have begun : ∀ lease, NoTcp (startup lease).ethernet.chip := by
    intro lease
    rw [(startup_chip lease).1]
    exact ((reset.openUdp 0 dhcpClientPort .dhcp).close 0).openUdp 0 port .hEthUdp
  cases prepared with
  | waiting => exact reset
  | beginning => exact reset
  | leasing =>
      rw [chip]
      exact reset.openUdp 0 dhcpClientPort .dhcp
  | leased lease => exact leased lease
  | beginningUdp lease => exact leased lease
  | begun lease => exact begun lease
  | looping lease => exact begun lease

/-! ### What the two parties send -/

def turnOf (system : System) : SocketOwnership.Event → List UdpCall
  | .ethernetTask queue currentProtocol stack => turnCalls system queue currentProtocol stack
  | _ => []

/-- The calls of the UDP layer that the turns of a run amount to. -/
def sent (tmpIp : IPAddress) : System → List SocketOwnership.Event → List UdpCall
  | _, [] => []
  | system, event :: rest =>
      turnOf system event ++ sent tmpIp (SocketOwnership.step tmpIp system event) rest

theorem sent_concat (tmpIp : IPAddress) (system : System) (events : List SocketOwnership.Event)
    (event : SocketOwnership.Event) :
    sent tmpIp system (events ++ [event]) =
      sent tmpIp system events ++
        turnOf (run (SocketOwnership.step tmpIp) system events) event := by
  induction events generalizing system with
  | nil => exact List.append_nil _
  | cons first rest ih =>
      rw [List.cons_append, sent, sent, ih, List.append_assoc]
      rfl

/-! ### Before the dashboard's first step -/

def EthernetPlace.hasPosted : EthernetPlace → Bool
  | .beginningUdp => true
  | .begun => true
  | .looping => true
  | _ => false

/-- Until the semaphore is posted the dashboard has not passed it, and from there to its
loop the Ethernet task does not block. -/
structure Booting (device : Device) : Prop where
  prepared : Prepared device.ethernetPlace device.shared.ethernet
  calls : device.shared.calls = []
  begun : device.shared.resetSinceBegin = false
  atFirst : device.dashboardPlace = none ∨ device.dashboardPlace = some (.beginServer 0 true)
  held : device.ethernetPlace.hasPosted = false → device.available .ethernetInit = false ∧
    (device.dashboardPlace = none ∨ device.status .dashboard = .pending .ethernetInit)
  underWay : device.ethernetPlace.hasPosted = true → device.ethernetPlace ≠ .looping →
    device.underWay .ethernet = true

/-- The device is where a run of the two parties has come to, and has sent what that has. -/
structure Serving (tmpIp : IPAddress) (device : Device) (lease : Option Lease)
    (events : List SocketOwnership.Event) (point : Point) : Prop where
  looping : device.ethernetPlace = .looping
  stands : device.dashboardPlace = some point
  system : device.system point = run (SocketOwnership.step tmpIp) (startup lease) events
  calls : device.shared.calls = sent tmpIp (startup lease) events
  awake : point.sleeps = true ∨ device.underWay .dashboard = true

def Refines (tmpIp : IPAddress) (device : Device) : Prop :=
  Booting device ∨ ∃ lease events point, Serving tmpIp device lease events point

theorem start_consistent : Consistent (program tmpIp) start := by
  constructor
  · exact fun _ _ impossible => absurd impossible List.not_mem_nil
  · exact fun _ => List.nodup_nil
  · intro task since ready
    cases task <;> cases ready <;> exact Nat.lt_of_sub_eq_succ rfl
  · exact nofun

theorem start_booting : Booting start := by
  constructor
  · exact Prepared.waiting
  · rfl
  · rfl
  · exact .inl rfl
  · exact fun _ => ⟨rfl, .inl rfl⟩
  · exact nofun

/-! ### Steps -/

/-- The radio task touches neither the sockets nor the second semaphore. -/
theorem radioAct_frame (shared : Shared) (place : RadioPlace) (done : Bool) :
    (radioAct shared place done).shared = shared ∧
      (radioAct shared place done).request ≠ .pend .ethernetInit ∧
      (radioAct shared place done).request ≠ .post .ethernetInit := by
  cases place with
  | starting => cases done <;> exact ⟨rfl, nofun, nofun⟩
  | started => exact ⟨rfl, nofun, nofun⟩
  | looping => exact ⟨rfl, nofun, nofun⟩

/-- The semaphore stays taken, and the dashboard waits for it, while no other task asks
for it. -/
theorem Booting.held_run (booting : Booting device)
    (consistent : Consistent (program tmpIp) device) {task : Task} {choice : Choice task}
    (apart : Task.dashboard ≠ task) (before : device.ethernetPlace.hasPosted = false)
    (notPended : (act tmpIp task device.shared (device.place task) choice).request ≠
      .pend .ethernetInit)
    (notPosted : (act tmpIp task device.shared (device.place task) choice).request ≠
      .post .ethernetInit) :
    let after : Device := deviceStep tmpIp device (.run task choice)
    after.available .ethernetInit = false ∧
      (after.dashboardPlace = none ∨ after.status .dashboard = .pending .ethernetInit) := by
  intro after
  obtain ⟨taken, waits⟩ := booting.held before
  constructor
  · exact (available_run notPended notPosted).trans taken
  · rcases waits with first | pends
    · exact .inl ((place_run_of_ne apart).trans first)
    · exact .inr (consistent.pending_run apart pends notPosted)

theorem Booting.keep (booting : Booting device) {after : Device}
    (shared : after.shared = device.shared) (ethernet : after.ethernetPlace = device.ethernetPlace)
    (dashboard : after.dashboardPlace = device.dashboardPlace)
    (available : after.available .ethernetInit = device.available .ethernetInit)
    (waits : device.status .dashboard = .pending .ethernetInit →
      after.status .dashboard = .pending .ethernetInit)
    (underWay : after.underWay .ethernet = device.underWay .ethernet) : Booting after := by
  constructor
  · rw [ethernet, shared]
    exact booting.prepared
  · rw [shared]
    exact booting.calls
  · rw [shared]
    exact booting.begun
  · rw [dashboard]
    exact booting.atFirst
  · rw [ethernet, dashboard, available]
    intro before
    obtain ⟨taken, held⟩ := booting.held before
    exact ⟨taken, held.imp_right waits⟩
  · rw [ethernet, underWay]
    exact booting.underWay

theorem Booting.radio (booting : Booting device) (consistent : Consistent (program tmpIp) device)
    (done : Bool) : Booting (deviceStep tmpIp device (.run .radio done)) := by
  obtain ⟨shared, notPended, notPosted⟩ :=
    radioAct_frame device.shared (device.place .radio) done
  have ethernetApart : Task.ethernet ≠ .radio := nofun
  have dashboardApart : Task.dashboard ≠ .radio := nofun
  apply booting.keep
  · exact shared_run.trans shared
  · exact place_run_of_ne ethernetApart
  · exact place_run_of_ne dashboardApart
  · exact available_run notPended notPosted
  · exact fun pends => consistent.pending_run dashboardApart pends notPosted
  · exact underWay_run_of_ne ethernetApart

/-- What the Ethernet task does up to its loop, and in it while it is not to send. -/
theorem Prepared.act {place : EthernetPlace} {shared : Shared}
    (prepared : Prepared place shared.ethernet) (choice : EthernetChoice) :
    Prepared (ethernetAct shared place choice).place
        (ethernetAct shared place choice).shared.ethernet ∧
      (ethernetAct shared place choice).shared.calls = shared.calls ∧
      (ethernetAct shared place choice).shared.resetSinceBegin = shared.resetSinceBegin := by
  obtain ⟨ethernet, reset, calls⟩ := shared
  cases prepared with
  | waiting => exact ⟨.beginning, rfl, rfl⟩
  | beginning => exact ⟨.leasing, rfl, rfl⟩
  | leasing =>
      obtain ⟨ended, queue, currentProtocol, stack⟩ := choice
      cases ended with
      | none => exact ⟨.leasing, rfl, rfl⟩
      | some lease => exact ⟨.leased lease, rfl, rfl⟩
  | leased lease => exact ⟨.beginningUdp lease, rfl, rfl⟩
  | beginningUdp lease => exact ⟨.begun lease, rfl, rfl⟩
  | begun lease => exact ⟨.looping lease, rfl, rfl⟩
  | looping lease => exact ⟨.looping lease, List.append_nil _, rfl⟩

/-- Where the Ethernet task posts, and where it goes on without blocking. -/
theorem Prepared.request {place : EthernetPlace} {shared : Shared}
    (prepared : Prepared place shared.ethernet) (choice : EthernetChoice) :
    (ethernetAct shared place choice).request ≠ .pend .ethernetInit ∧
      ((ethernetAct shared place choice).place.hasPosted = false →
        place.hasPosted = false ∧
          (ethernetAct shared place choice).request ≠ .post .ethernetInit) ∧
      ((ethernetAct shared place choice).place.hasPosted = true →
        (ethernetAct shared place choice).place ≠ .looping →
          (ethernetAct shared place choice).request = .none ∨
            ∃ semaphore, (ethernetAct shared place choice).request = .post semaphore) := by
  obtain ⟨ethernet, reset, calls⟩ := shared
  cases prepared with
  | waiting => exact ⟨nofun, fun _ => ⟨rfl, nofun⟩, nofun⟩
  | beginning => exact ⟨nofun, fun _ => ⟨rfl, nofun⟩, nofun⟩
  | leasing =>
      obtain ⟨ended, queue, currentProtocol, stack⟩ := choice
      cases ended with
      | none => exact ⟨nofun, fun _ => ⟨rfl, nofun⟩, nofun⟩
      | some lease => exact ⟨nofun, fun _ => ⟨rfl, nofun⟩, nofun⟩
  | leased lease => exact ⟨nofun, nofun, fun _ _ => .inr ⟨_, rfl⟩⟩
  | beginningUdp lease => exact ⟨nofun, nofun, fun _ _ => .inl rfl⟩
  | begun lease => exact ⟨nofun, nofun, fun _ _ => .inl rfl⟩
  | looping lease => exact ⟨nofun, nofun, fun _ notYet => absurd rfl notYet⟩

theorem Booting.ethernet (booting : Booting device)
    (consistent : Consistent (program tmpIp) device) (choice : EthernetChoice) :
    Booting (deviceStep tmpIp device (.run .ethernet choice)) := by
  obtain ⟨prepared, calls, reset⟩ := booting.prepared.act choice
  obtain ⟨notPended, earlier, goes⟩ := booting.prepared.request choice
  generalize result : deviceStep tmpIp device (.run .ethernet choice) = after
  have shared : after.shared = (ethernetAct device.shared device.ethernetPlace choice).shared := by
    rw [← result]
    exact shared_run
  have ethernet : after.ethernetPlace =
      (ethernetAct device.shared device.ethernetPlace choice).place := by
    rw [← result]
    exact place_run_self
  have dashboard : after.dashboardPlace = device.dashboardPlace := by
    rw [← result]
    exact place_run_of_ne nofun
  constructor
  · rw [ethernet, shared]
    exact prepared
  · rw [shared, calls]
    exact booting.calls
  · rw [shared, reset]
    exact booting.begun
  · rw [dashboard]
    exact booting.atFirst
  · rw [ethernet, ← result]
    intro notPosted
    obtain ⟨before, silent⟩ := earlier notPosted
    exact booting.held_run consistent nofun before notPended silent
  · rw [ethernet, ← result]
    exact fun posted notYet => underWay_run_self (goes posted notYet)

/-- The dashboard's first line, where it passes the semaphore or waits for it. -/
theorem Booting.dashboardWaits (booting : Booting device) (first : device.dashboardPlace = none)
    (choice : SocketOwnership.Choice) :
    Booting (deviceStep tmpIp device (.run .dashboard choice)) := by
  have atFirst : device.place .dashboard = (none : DashboardPlace) := first
  have action : act tmpIp .dashboard device.shared (device.place .dashboard) choice =
      ⟨device.shared, some (.beginServer 0 true), .pend .ethernetInit⟩ := by
    rw [atFirst]
    rfl
  generalize result : deviceStep tmpIp device (.run .dashboard choice) = after
  have shared : after.shared = device.shared := by
    rw [← result]
    exact shared_run.trans (congrArg Action.shared action)
  have ethernet : after.ethernetPlace = device.ethernetPlace := by
    rw [← result]
    exact place_run_of_ne nofun
  constructor
  · rw [ethernet, shared]
    exact booting.prepared
  · rw [shared]
    exact booting.calls
  · rw [shared]
    exact booting.begun
  · rw [← result]
    exact .inr (place_run_self.trans (congrArg Action.place action))
  · rw [ethernet]
    intro before
    have taken := (booting.held before).1
    obtain ⟨waits, available⟩ := @run_pend _ _ _ _ _ _ (program tmpIp) device .dashboard _ _ _
      choice (congrArg Action.request action) taken
    rw [← result]
    exact ⟨(congrFun available _).trans taken, .inr waits⟩
  · rw [ethernet, ← result]
    intro posted notYet
    have apart : Task.ethernet ≠ .dashboard := nofun
    exact (underWay_run_of_ne apart).trans (booting.underWay posted notYet)

/-- Where the dashboard takes its first step the Ethernet task is in its loop. -/
theorem Booting.looping (booting : Booting device) (consistent : Consistent (program tmpIp) device)
    (dispatched : Dispatched (program tmpIp) device .dashboard)
    (passed : device.dashboardPlace = some (.beginServer 0 true)) :
    device.ethernetPlace = .looping := by
  have posted : device.ethernetPlace.hasPosted = true := by
    by_contra before
    obtain ⟨_, waits⟩ := booting.held (Bool.eq_false_iff.mpr before)
    obtain ⟨since, ready, _⟩ := dispatched
    rcases waits with first | pends
    · rw [passed] at first
      cases first
    · rw [ready] at pends
      cases pends
  by_contra notYet
  have underWay := booting.underWay posted notYet
  have equals : (program tmpIp).priority .ethernet = (program tmpIp).priority .dashboard := rfl
  have same := consistent.alone dispatched equals underWay
  cases same

theorem Booting.serving (booting : Booting device) (looping : device.ethernetPlace = .looping) :
    ∃ lease, device.system (.beginServer 0 true) = startup lease := by
  have prepared := booting.prepared
  rw [looping] at prepared
  obtain ⟨⟨ethernet, reset, calls⟩, _⟩ := device
  have begun : reset = false := booting.begun
  subst begun
  cases prepared with
  | looping lease => exact ⟨lease, rfl⟩

theorem Booting.wake (booting : Booting device) (task : Task) :
    Booting (deviceStep tmpIp device (.wake task)) := by
  obtain ⟨shared, place, available, underWay⟩ :=
    @wake_data _ _ _ _ _ _ (program tmpIp) device _ _ task
  apply booting.keep shared
  · exact congrFun place _
  · exact congrFun place _
  · exact congrFun available _
  · exact pending_wake
  · exact congrFun underWay _

/-- The network has no TCP socket to change yet. -/
theorem Booting.network (booting : Booting device) (change : NetworkChange) :
    Booting (deviceStep tmpIp device (.outside change)) := by
  have unchanged : networkChange change device.shared = device.shared := by
    have udp := booting.prepared.noTcp change.socket
    simp only [networkChange, networkStep, udp, false_and, if_false, Shared.withEthernet]
  have same : deviceStep tmpIp device (.outside change) = device := by
    change { device with shared := networkChange change device.shared } = device
    rw [unchanged]
  rw [same]
  exact booting

/-! ### From the dashboard's first step on -/

section Serving

variable {lease : Option Lease} {events : List SocketOwnership.Event} {point : Point}

/-- A step that leaves what the two parties have, and does not stop the dashboard. -/
theorem Serving.keep (serving : Serving tmpIp device lease events point) {after : Device}
    (shared : after.shared = device.shared) (ethernet : after.ethernetPlace = device.ethernetPlace)
    (dashboard : after.dashboardPlace = device.dashboardPlace)
    (underWay : after.underWay .dashboard = device.underWay .dashboard) :
    Serving tmpIp after lease events point where
  looping := ethernet.trans serving.looping
  stands := dashboard.trans serving.stands
  system := by
    rw [Device.system, shared]
    exact serving.system
  calls := by
    rw [shared]
    exact serving.calls
  awake := by
    rw [underWay]
    exact serving.awake

theorem Serving.radio (serving : Serving tmpIp device lease events point) (done : Bool) :
    Serving tmpIp (deviceStep tmpIp device (.run .radio done)) lease events point := by
  apply serving.keep
  · exact shared_run.trans (radioAct_frame device.shared (device.place .radio) done).1
  · exact place_run_of_ne nofun
  · exact place_run_of_ne nofun
  · have apart : Task.dashboard ≠ .radio := nofun
    exact underWay_run_of_ne apart

/-- A turn of the Ethernet task comes while the dashboard sleeps. -/
theorem Serving.ethernet (serving : Serving tmpIp device lease events point)
    (consistent : Consistent (program tmpIp) device)
    (dispatched : Dispatched (program tmpIp) device .ethernet) (choice : EthernetChoice) :
    Serving tmpIp (deviceStep tmpIp device (.run .ethernet choice)) lease
      (events ++ [.ethernetTask choice.queue choice.currentProtocol choice.stack]) point := by
  have asleep : point.sleeps = true := by
    rcases serving.awake with sleeps | underWay
    · exact sleeps
    · have equals : (program tmpIp).priority .dashboard = (program tmpIp).priority .ethernet := rfl
      have same := consistent.alone dispatched equals underWay
      cases same
  have here : device.place .ethernet = EthernetPlace.looping := serving.looping
  have shared : (deviceStep tmpIp device (.run .ethernet choice)).shared =
      (ethernetAct device.shared .looping choice).shared := by
    have acted : (deviceStep tmpIp device (.run .ethernet choice)).shared =
        (ethernetAct device.shared (device.place .ethernet) choice).shared := shared_run
    rw [here] at acted
    exact acted
  have turn : turnCalls (device.system point) choice.queue choice.currentProtocol choice.stack =
      if device.shared.ethernet.bReadyToSend then
        (handleRFpacket choice.queue choice.currentProtocol device.shared.ethernet.hTargetIp
          choice.stack).calls
      else [] := by
    simp only [turnCalls, Device.system, asleep, true_and]
  constructor
  · have acted : (deviceStep tmpIp device (.run .ethernet choice)).ethernetPlace =
        (ethernetAct device.shared (device.place .ethernet) choice).place := place_run_self
    rw [here] at acted
    exact acted
  · have apart : Task.dashboard ≠ .ethernet := nofun
    exact (place_run_of_ne apart).trans serving.stands
  · rw [run_append, ← serving.system, Device.system, shared]
    rfl
  · rw [shared, sent_concat, ← serving.system]
    change device.shared.calls ++ _ = _ ++ turnCalls _ _ _ _
    rw [turn, serving.calls]
  · exact .inl asleep

/-- A step of the dashboard is the same step of the two parties. -/
theorem Serving.dashboard (system : device.system point =
      run (SocketOwnership.step tmpIp) (startup lease) events)
    (looping : device.ethernetPlace = .looping) (stands : device.dashboardPlace = some point)
    (calls : device.shared.calls = sent tmpIp (startup lease) events)
    (choice : SocketOwnership.Choice) :
    ∃ next, Serving tmpIp (deviceStep tmpIp device (.run .dashboard choice)) lease
      (events ++ [.dashboard choice]) next := by
  have here : device.place .dashboard = (some point : DashboardPlace) := stands
  have action : act tmpIp .dashboard device.shared (device.place .dashboard) choice =
      dashboardAct tmpIp device.shared (some point) choice := by
    rw [here]
    rfl
  refine ⟨(dashboardStep tmpIp (device.system point) choice).dashboard, ?_⟩
  have shared : (deviceStep tmpIp device (.run .dashboard choice)).shared =
      (dashboardAct tmpIp device.shared (some point) choice).shared :=
    shared_run.trans (congrArg Action.shared action)
  constructor
  · have apart : Task.ethernet ≠ .dashboard := nofun
    exact (place_run_of_ne apart).trans looping
  · exact place_run_self.trans (congrArg Action.place action)
  · rw [run_append, ← system, Device.system, shared]
    rfl
  · rw [shared, sent_concat]
    exact calls.trans (List.append_nil _).symm
  · cases sleeps : (dashboardStep tmpIp (device.system point) choice).dashboard.sleeps with
    | true => exact .inl rfl
    | false =>
        have goes : (act tmpIp .dashboard device.shared (device.place .dashboard) choice).request =
            .none := by
          rw [action]
          exact if_neg (Bool.eq_false_iff.mp sleeps)
        exact .inr (underWay_run_self (.inl goes))

theorem Serving.wake (serving : Serving tmpIp device lease events point) (task : Task) :
    Serving tmpIp (deviceStep tmpIp device (.wake task)) lease events point := by
  obtain ⟨shared, place, _, underWay⟩ :=
    @wake_data _ _ _ _ _ _ (program tmpIp) device _ _ task
  apply serving.keep shared
  · exact congrFun place _
  · exact congrFun place _
  · exact congrFun underWay _

/-- What the network does has nothing to do with where the dashboard stands. -/
theorem networkStep_point (ethernet : Ethernet) (point other : Point) (reset : Bool)
    (change : NetworkChange) :
    networkStep ⟨ethernet, point, reset⟩ change.socket change.status change.received =
      ⟨(networkStep ⟨ethernet, other, reset⟩ change.socket change.status
        change.received).ethernet, point, reset⟩ := by
  simp only [networkStep]
  split
  · rfl
  · rfl

theorem Serving.network (serving : Serving tmpIp device lease events point)
    (change : NetworkChange) :
    Serving tmpIp (deviceStep tmpIp device (.outside change)) lease
      (events ++ [.network change.socket change.status change.received]) point := by
  constructor
  · exact serving.looping
  · exact serving.stands
  · rw [run_append, ← serving.system]
    exact (networkStep_point _ point .mainSleep _ change).symm
  · rw [sent_concat]
    exact serving.calls.trans (List.append_nil _).symm
  · exact serving.awake

end Serving

/-! ### Schedules -/

theorem refines_step (refines : Refines tmpIp device) (consistent : Consistent (program tmpIp) device)
    {event : DeviceEvent} (allowed : Allowed (program tmpIp) device event) :
    Refines tmpIp (deviceStep tmpIp device event) := by
  rcases refines with booting | ⟨lease, events, point, serving⟩
  · cases event with
    | run task choice =>
        cases task with
        | radio => exact .inl (booting.radio consistent choice)
        | ethernet => exact .inl (booting.ethernet consistent choice)
        | dashboard =>
            rcases booting.atFirst with first | passed
            · exact .inl (booting.dashboardWaits first choice)
            · have looping := booting.looping consistent allowed passed
              obtain ⟨lease, system⟩ := booting.serving looping
              exact .inr ⟨lease, _, @Serving.dashboard tmpIp device lease [] (.beginServer 0 true)
                system looping passed booting.calls choice⟩
    | wake task => exact .inl (booting.wake task)
    | outside change => exact .inl (booting.network change)
  · right
    cases event with
    | run task choice =>
        cases task with
        | radio => exact ⟨lease, events, point, serving.radio choice⟩
        | ethernet => exact ⟨lease, _, point, serving.ethernet consistent allowed choice⟩
        | dashboard =>
            exact ⟨lease, _, Serving.dashboard serving.system serving.looping serving.stands
              serving.calls choice⟩
    | wake task => exact ⟨lease, events, point, serving.wake task⟩
    | outside change => exact ⟨lease, _, point, serving.network change⟩

/-- In every order in which the kernel lets the tasks run from main on: while the dashboard
has not begun nothing is sent, and when it has, the device is where a run of the two
parties from their common start has come to and has sent what that run sends, the Ethernet
task's turns falling where the dashboard sleeps. -/
theorem schedule_refines (tmpIp : IPAddress) (events : List DeviceEvent)
    (scheduled : Meets (deviceStep tmpIp) (Allowed (program tmpIp)) start events) :
    Refines tmpIp (run (deviceStep tmpIp) start events) := by
  have both := @Meets.invariant _ _ (deviceStep tmpIp) (Allowed (program tmpIp))
    (fun device => Consistent (program tmpIp) device ∧ Refines tmpIp device)
    (fun device event invariant allowed =>
      ⟨invariant.1.step allowed, refines_step invariant.2 invariant.1 allowed⟩)
    start events scheduled ⟨start_consistent, .inl start_booting⟩
  exact both.2

/-- The tasks one after the other up to their sleeps, without an answer to DHCP, then the
dashboard's first step. -/
def bootEvents : List DeviceEvent :=
  List.replicate 3 (.run .radio true) ++
    List.replicate 7 (.run .ethernet ⟨some none, onePacket, .ble1M, fun _ => 0⟩) ++
      List.replicate 2 (.run .dashboard .proceed) ++ [.wake .ethernet]

theorem bootEvents_refines :
    Refines ⟨fun _ => 0⟩ (run (deviceStep ⟨fun _ => 0⟩) start bootEvents) :=
  schedule_refines _ _ (by decide)

end MSniff.Concrete.DeviceTasks
