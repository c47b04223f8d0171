/-
The Ethernet task and the dashboard task on one W5500. The dashboard moves in
steps of one loop pass or one register test, network changes fall between any two
of them, and the Ethernet task gets its turn where the dashboard sleeps. Of what the
strcpy of a target text writes beyond `pTargetIp` nothing is followed here: a text of 34
characters or more comes to lie over `Ethernet_server_port`, which keeps its values in
these runs.
-/

import MSniff.EventRun
import MSniff.Concrete.EthernetSettings
import MSniff.Concrete.PacketRoundTrip

namespace MSniff.Concrete.SocketOwnership

open EthernetSettings EthernetTask RadioQueue RadioTask SocketTable

def serverListensOn : Nat := 80

/-! ### The tasks -/

inductive AfterStop
  | accept (sock : Nat) (listening : Bool)
  | rest
  deriving DecidableEq

/-- Where the dashboard stands: in the loops of `EthernetServer_begin`,
`EthernetServer_accept` and `EthernetServer_available`, with a client, handling a
request, waiting for DHCP, in `EthernetClient_stop`, or asleep in one of them. -/
inductive Point
  | beginServer (sock : Nat) (starting : Bool)
  | accept (sock : Nat) (listening : Bool)
  | acceptClosed (sock : Nat) (listening : Bool)
  | choose (sock : Nat)
  | connected (client : Nat)
  | handling (client : Nat)
  | leasing (client : Nat) (dhcp : EthernetUDP)
  | stopping (sock : Nat) (after : AfterStop)
  | stopDelay (sock : Nat) (after : AfterStop)
  | clientSleep (client : Nat)
  | mainSleep

def Point.sleeps : Point → Bool
  | .leasing _ _ => true
  | .stopDelay _ _ => true
  | .clientSleep _ => true
  | .mainSleep => true
  | _ => false

/-- What a step may choose: whether the bytes read complete a request, what a
request's parameter asks for, how DHCP ends, whether a second has passed. -/
inductive Choice
  | proceed
  | request
  | setTargetIp (newTargetIp : List UInt8)
  | startDhcp
  | setThisIp (pIp : List UInt8)
  | startSniffing
  | stopSniffing
  | respond
  | leased (lease : Option Lease)
  | timeout

/-- `resetSinceBegin` records that the chip has been reset since `hEthUdp` was
begun. -/
structure System where
  ethernet : Ethernet
  dashboard : Point
  resetSinceBegin : Bool

def endStop (system : System) (sock : Nat) (after : AfterStop) : System :=
  { system with
    ethernet :=
      { system.ethernet with
        chip := if (system.ethernet.chip.socket sock).status = .closed then system.ethernet.chip
          else system.ethernet.chip.close sock
        serverPort := Function.update system.ethernet.serverPort sock 0 }
    dashboard := match after with
      | .accept next listening => .accept next listening
      | .rest => .mainSleep }

def clientConnected (socket : ChipSocket) : Bool :=
  !(socket.status = .listen ∨ socket.status = .closed ∨ socket.status = .finWait ∨
    (socket.status = .closeWait ∧ socket.received = false))

/-- The dashboard's next step. A choice that does not belong to the point leaves
everything as it is. -/
def dashboardStep (tmpIp : IPAddress) (system : System) (choice : Choice) : System :=
  match system.dashboard, choice with
  | .beginServer sock starting, .proceed =>
      let done : Point := if starting then .accept 0 false else .choose 0
      if sock < maxSockNum then
        if (system.ethernet.chip.socket sock).status = .closed then
          { system with
            ethernet :=
              { system.ethernet with
                chip :=
                  (system.ethernet.chip.openSocket sock .tcp serverListensOn .server).listen sock
                serverPort :=
                  Function.update system.ethernet.serverPort sock serverListensOn }
            dashboard := done }
        else { system with dashboard := .beginServer (sock + 1) starting }
      else { system with dashboard := done }
  | .accept sock listening, .proceed =>
      if sock < maxSockNum then
        if system.ethernet.serverPort sock = serverListensOn then
          if (system.ethernet.chip.socket sock).status = .listen then
            { system with dashboard := .accept (sock + 1) true }
          else { system with dashboard := .acceptClosed sock listening }
        else { system with dashboard := .accept (sock + 1) listening }
      else if listening then { system with dashboard := .choose 0 }
      else { system with dashboard := .beginServer 0 false }
  | .acceptClosed sock listening, .proceed =>
      if (system.ethernet.chip.socket sock).status = .closeWait ∧
          (system.ethernet.chip.socket sock).received = false then
        { system with dashboard := .stopping sock (.accept (sock + 1) listening) }
      else { system with dashboard := .accept (sock + 1) listening }
  | .choose sock, .proceed =>
      if sock < maxSockNum then
        if system.ethernet.serverPort sock = serverListensOn ∧
            ((system.ethernet.chip.socket sock).status = .established ∨
              (system.ethernet.chip.socket sock).status = .closeWait) ∧
            (system.ethernet.chip.socket sock).received = true then
          { system with dashboard := .connected sock }
        else { system with dashboard := .choose (sock + 1) }
      else { system with dashboard := .mainSleep }
  | .connected client, .proceed =>
      if clientConnected (system.ethernet.chip.socket client) then
        { system with dashboard := .clientSleep client }
      else { system with dashboard := .mainSleep }
  | .connected client, .request =>
      if clientConnected (system.ethernet.chip.socket client) then
        { system with dashboard := .handling client }
      else { system with dashboard := .mainSleep }
  | .handling _, .setTargetIp newTargetIp =>
      { system with
        ethernet := setTargetIp system.ethernet newTargetIp
        resetSinceBegin := false }
  | .handling client, .startDhcp =>
      let (ethernet, dhcp) := beginMac { system.ethernet with bUsingDhcp := true }
      { ethernet := ethernet, dashboard := .leasing client dhcp, resetSinceBegin := true }
  | .handling _, .setThisIp pIp =>
      { system with ethernet := setThisIp system.ethernet tmpIp pIp }
  | .handling _, .startSniffing => { system with ethernet := startSniffing system.ethernet }
  | .handling _, .stopSniffing => { system with ethernet := stopSniffing system.ethernet }
  | .handling client, .respond => { system with dashboard := .stopping client .rest }
  | .leasing client dhcp, .leased lease =>
      { system with ethernet := endMac system.ethernet dhcp lease, dashboard := .handling client }
  | .stopping sock after, .proceed =>
      if (system.ethernet.chip.socket sock).status ≠ .closed then
        { system with dashboard := .stopDelay sock after }
      else endStop system sock after
  | .stopping sock after, .timeout => endStop system sock after
  | .stopDelay sock after, .proceed => { system with dashboard := .stopping sock after }
  | .clientSleep client, .proceed => { system with dashboard := .connected client }
  | .mainSleep, .proceed => { system with dashboard := .accept 0 false }
  | _, _ => system

def networkStep (system : System) (s : Nat) (status : SocketStatus) (received : Bool) : System :=
  let socket := system.ethernet.chip.socket s
  if socket.mode = .tcp ∧ socket.status ≠ .closed then
    { system with
      ethernet :=
        { system.ethernet with
          chip := system.ethernet.chip.set s
            { socket with status := status, received := received } } }
  else system

/-- The calls of the UDP layer that a turn of the Ethernet task makes on the socket
of `hEthUdp`. -/
def turnCalls (system : System) (queue : Queue) (currentProtocol : Protocol)
    (stack : Nat → UInt8) : List UdpCall :=
  if system.dashboard.sleeps ∧ system.ethernet.bReadyToSend then
    (handleRFpacket queue currentProtocol system.ethernet.hTargetIp stack).calls
  else []

inductive Event
  | network (s : Nat) (status : SocketStatus) (received : Bool)
  | dashboard (choice : Choice)
  | ethernetTask (queue : Queue) (currentProtocol : Protocol) (stack : Nat → UInt8)

/-- A turn of the Ethernet task writes to the chip's buffers and leaves what is
modelled here alone. -/
def step (tmpIp : IPAddress) (system : System) : Event → System
  | .network s status received => networkStep system s status received
  | .dashboard choice => dashboardStep tmpIp system choice
  | .ethernetTask _ _ _ => system

/-- `Ethernet_mainTask` up to its loop, whatever comes of DHCP; the dashboard is
about to begin its server. -/
def startup (lease : Option Lease) : System :=
  let (begun, dhcp) := beginMac { powered with bUsingDhcp := true }
  { ethernet := beginUdp { endMac begun dhcp lease with hEthUdp := ⟨maxSockNum, 0⟩ }
    dashboard := .beginServer 0 true
    resetSinceBegin := false }

/-! ### Ownership -/

/-- A socket open in UDP mode on the sniffer's port, opened for `hEthUdp`. -/
structure IsSniffers (socket : ChipSocket) : Prop where
  mode : socket.mode = .udp
  status : socket.status = .udp
  port : socket.port = EthernetTask.port
  opener : socket.opener = .hEthUdp

def OwnSocket (system : System) : Prop :=
  system.ethernet.hEthUdp.sock < maxSockNum ∧ IsSniffers (system.ethernet.chip.socket system.ethernet.hEthUdp.sock)

/-- A turn that writes packet bytes or issues SEND does so on its own socket. -/
def SafeSend (system : System) : Event → Prop
  | .ethernetTask queue currentProtocol stack =>
      turnCalls system queue currentProtocol stack ≠ [] → OwnSocket system
  | _ => True

def Choice.setsTarget : Choice → Bool
  | .setTargetIp _ => true
  | _ => false

def Point.handles (sock : Nat) : Point → Bool
  | .handling client => client = sock
  | _ => false

/-- After a reset of the chip nothing is sent until a target address is set, and
that not by a request which came in over the number that `hEthUdp` holds. -/
def Permitted (system : System) : Event → Prop
  | .network _ _ _ => True
  | .dashboard choice =>
      choice.setsTarget = true → system.dashboard.handles system.ethernet.hEthUdp.sock = false
  | .ethernetTask queue _ _ =>
      system.dashboard.sleeps = true → system.ethernet.bReadyToSend = true → hasPacket queue = true →
        readLength queue ≠ 0 → system.ethernet.hTargetIp.dword ≠ 0 → system.resetSinceBegin = false

instance decidablePermitted (system : System) : ∀ event, Decidable (Permitted system event)
  | .network _ _ _ => isTrue trivial
  | .dashboard choice => inferInstanceAs (Decidable
      (choice.setsTarget = true → system.dashboard.handles system.ethernet.hEthUdp.sock = false))
  | .ethernetTask queue _ _ => inferInstanceAs (Decidable
      (system.dashboard.sleeps = true → system.ethernet.bReadyToSend = true → hasPacket queue = true →
        readLength queue ≠ 0 → system.ethernet.hTargetIp.dword ≠ 0 → system.resetSinceBegin = false))

theorem turnCalls_ne_nil {system : System} {queue : Queue} {currentProtocol : Protocol}
    {stack : Nat → UInt8} (sends : turnCalls system queue currentProtocol stack ≠ [])
    (permitted : Permitted system (.ethernetTask queue currentProtocol stack)) :
    system.resetSinceBegin = false := by
  unfold turnCalls at sends
  split at sends
  · next turn =>
      cases present : hasPacket queue with
      | false =>
          rw [handleRFpacket_of_empty present] at sends
          exact absurd rfl sends
      | true =>
          rw [handleRFpacket_of_packet present] at sends
          split at sends
          · next sendable => exact permitted turn.1 turn.2 present sendable.1 sendable.2
          · exact absurd rfl sends
  · exact absurd rfl sends

/-- The socket that the operation in progress is going to act on. -/
def Point.target : Point → Option Nat
  | .acceptClosed sock _ => some sock
  | .connected client => some client
  | .handling client => some client
  | .leasing client _ => some client
  | .stopping sock _ => some sock
  | .stopDelay sock _ => some sock
  | .clientSleep client => some client
  | _ => none

/-- Between a begin and the next reset socket 0 is the sniffer's, and the dashboard
neither lists it as its own nor is about to act on it. -/
structure Held (system : System) : Prop where
  sniffers : IsSniffers (system.ethernet.chip.socket 0)
  notServer : system.ethernet.serverPort 0 = 0
  notTarget : system.dashboard.target ≠ some 0
  notLeasing : ∀ client dhcp, system.dashboard ≠ .leasing client dhcp

structure Invariant (system : System) : Prop where
  sock : system.ethernet.hEthUdp.sock = 0
  targetInTable : ∀ target, system.dashboard.target = some target → target < maxSockNum
  held : system.resetSinceBegin = false → Held system

theorem Invariant.ownSocket {system : System} (invariant : Invariant system)
    (begun : system.resetSinceBegin = false) : OwnSocket system := by
  unfold OwnSocket
  rw [invariant.sock]
  exact ⟨maxSockNum_pos, (invariant.held begun).sniffers⟩

variable {system : System}

/-- A step of the dashboard that leaves the chip, the server's ports and the
sniffer's data alone and turns to another socket, or to none. -/
theorem Invariant.move (invariant : Invariant system) (point : Point)
    (inTable : ∀ target, point.target = some target → target < maxSockNum)
    (apart : system.resetSinceBegin = false → point.target ≠ some 0)
    (notLeasing : system.resetSinceBegin = false →
      ∀ client dhcp, point ≠ .leasing client dhcp) :
    Invariant { system with dashboard := point } where
  sock := invariant.sock
  targetInTable := inTable
  held := fun begun =>
    { invariant.held begun with
      notTarget := apart begun
      notLeasing := notLeasing begun }

theorem Invariant.moveOn (invariant : Invariant system) (point : Point)
    (noTarget : point.target = none) (notLeasing : ∀ client dhcp, point ≠ .leasing client dhcp) :
    Invariant { system with dashboard := point } := by
  apply invariant.move point
  · intro target here
    rw [noTarget] at here
    cases here
  · intro _ here
    rw [noTarget] at here
    cases here
  · intro _
    exact notLeasing

theorem Invariant.keep (invariant : Invariant system) (point : Point)
    (same : point.target = system.dashboard.target)
    (notLeasing : ∀ client dhcp, point ≠ .leasing client dhcp) :
    Invariant { system with dashboard := point } := by
  apply invariant.move point
  · rw [same]
    exact invariant.targetInTable
  · intro begun
    rw [same]
    exact (invariant.held begun).notTarget
  · intro _
    exact notLeasing

theorem Invariant.moveTo (invariant : Invariant system) (point : Point) {sock : Nat}
    (target : point.target = some sock) (inTable : sock < maxSockNum)
    (listed : system.ethernet.serverPort sock = serverListensOn)
    (notLeasing : ∀ client dhcp, point ≠ .leasing client dhcp) :
    Invariant { system with dashboard := point } := by
  apply invariant.move point
  · intro other here
    rw [target] at here
    cases here
    exact inTable
  · intro begun here
    rw [target] at here
    cases here
    rw [(invariant.held begun).notServer] at listed
    cases listed
  · intro _
    exact notLeasing

/-! ### Steps that change the chip -/

theorem blocks_apart {sock : Nat} (inTable : sock < maxSockNum) (notFirst : sock ≠ 0) :
    0 % maxSockNum ≠ sock % maxSockNum := by
  rw [Nat.mod_eq_of_lt inTable]
  exact fun same => notFirst same.symm

theorem Invariant.listen (invariant : Invariant system) {sock : Nat} (inTable : sock < maxSockNum)
    (closed : (system.ethernet.chip.socket sock).status = .closed) (point : Point)
    (noTarget : point.target = none) (notLeasing : ∀ client dhcp, point ≠ .leasing client dhcp) :
    Invariant
      { system with
        ethernet :=
          { system.ethernet with
            chip := (system.ethernet.chip.openSocket sock .tcp serverListensOn .server).listen sock
            serverPort := Function.update system.ethernet.serverPort sock serverListensOn }
        dashboard := point } := by
  have moved := invariant.moveOn point noTarget notLeasing
  constructor
  · exact invariant.sock
  · exact moved.targetInTable
  · intro begun
    have held := moved.held begun
    have notFirst : sock ≠ 0 := by
      rintro rfl
      have udp : (system.ethernet.chip.socket 0).status = .udp := held.sniffers.status
      rw [closed] at udp
      cases udp
    have same : ((system.ethernet.chip.openSocket sock .tcp serverListensOn .server).listen sock).socket 0 =
        system.ethernet.chip.socket 0 := by
      rw [Chip.socket_listen_of_ne (blocks_apart inTable notFirst),
        Chip.socket_openSocket_of_ne (blocks_apart inTable notFirst)]
    constructor
    · rw [same]
      exact held.sniffers
    · exact (Function.update_of_ne (Ne.symm notFirst) _ _).trans held.notServer
    · exact held.notTarget
    · exact held.notLeasing

theorem Invariant.endStop (invariant : Invariant system) {sock : Nat} (after : AfterStop)
    (target : system.dashboard.target = some sock) :
    Invariant (endStop system sock after) := by
  have inTable := invariant.targetInTable sock target
  constructor
  · exact invariant.sock
  · intro other here
    cases after with
    | accept _ _ => cases here
    | rest => cases here
  · intro begun
    have held := invariant.held begun
    have notFirst : sock ≠ 0 := by
      rintro rfl
      exact held.notTarget target
    constructor
    · simp only [SocketOwnership.endStop]
      split
      · exact held.sniffers
      · rw [Chip.socket_close_of_ne (blocks_apart inTable notFirst)]
        exact held.sniffers
    · exact (Function.update_of_ne (Ne.symm notFirst) _ _).trans held.notServer
    · cases after with
      | accept _ _ => exact nofun
      | rest => exact nofun
    · cases after with
      | accept _ _ => exact nofun
      | rest => exact nofun

theorem Invariant.setTargetIp (invariant : Invariant system) {client : Nat}
    (here : system.dashboard = .handling client) (other : client ≠ system.ethernet.hEthUdp.sock)
    (newTargetIp : List UInt8) :
    Invariant
      { system with
        ethernet := setTargetIp system.ethernet newTargetIp
        resetSinceBegin := false } := by
  rw [setTargetIp_eq invariant.sock]
  rw [invariant.sock] at other
  constructor
  · rfl
  · exact invariant.targetInTable
  · intro _
    constructor
    · rw [Chip.socket_openSocket_udp]
      exact ⟨rfl, rfl, rfl, rfl⟩
    · exact Function.update_self 0 0 system.ethernet.serverPort
    · simp only [here, Point.target]
      intro same
      exact other (Option.some.inj same)
    · simp only [here]
      exact nofun

/-- The reset invalidates what `hEthUdp` holds, and the invariant promises nothing
until the next begin. -/
theorem Invariant.startDhcp (invariant : Invariant system) {client : Nat}
    (here : system.dashboard = .handling client) :
    Invariant
      { ethernet := (beginMac { system.ethernet with bUsingDhcp := true }).1
        dashboard :=
          .leasing client (beginMac { system.ethernet with bUsingDhcp := true }).2
        resetSinceBegin := true } := by
  constructor
  · exact invariant.sock
  · intro target same
    apply invariant.targetInTable
    rw [here]
    exact same
  · exact nofun

theorem Invariant.endMac (invariant : Invariant system) {client : Nat} {dhcp : EthernetUDP}
    (here : system.dashboard = .leasing client dhcp) (lease : Option Lease) :
    Invariant
      { system with
        ethernet := endMac system.ethernet dhcp lease
        dashboard := .handling client } := by
  constructor
  · exact invariant.sock
  · intro target same
    apply invariant.targetInTable
    rw [here]
    exact same
  · intro begun
    exact absurd here ((invariant.held begun).notLeasing client dhcp)

theorem Invariant.settings (invariant : Invariant system) (ethernet : Ethernet)
    (sameChip : ethernet.chip = system.ethernet.chip)
    (samePorts : ethernet.serverPort = system.ethernet.serverPort)
    (sameUdp : ethernet.hEthUdp = system.ethernet.hEthUdp) :
    Invariant { system with ethernet := ethernet } := by
  constructor
  · rw [sameUdp]
    exact invariant.sock
  · exact invariant.targetInTable
  · intro begun
    have held := invariant.held begun
    constructor
    · rw [sameChip]
      exact held.sniffers
    · rw [samePorts]
      exact held.notServer
    · exact held.notTarget
    · exact held.notLeasing

theorem Invariant.networkStep (invariant : Invariant system) (s : Nat) (status : SocketStatus)
    (received : Bool) : Invariant (networkStep system s status received) := by
  simp only [SocketOwnership.networkStep]
  split
  · next changes =>
      constructor
      · exact invariant.sock
      · exact invariant.targetInTable
      · intro begun
        have held := invariant.held begun
        have elsewhere : 0 % maxSockNum ≠ s % maxSockNum := by
          intro same
          have udp : (system.ethernet.chip (0 % maxSockNum)).mode = .udp := held.sniffers.mode
          rw [same] at udp
          have tcp : (system.ethernet.chip (s % maxSockNum)).mode = .tcp := changes.1
          rw [udp] at tcp
          cases tcp
        constructor
        · rw [Chip.socket_set_of_ne elsewhere]
          exact held.sniffers
        · exact held.notServer
        · exact held.notTarget
        · exact held.notLeasing
  · exact invariant

/-! ### The dashboard's step -/

theorem Invariant.beginServer (invariant : Invariant system) {sock : Nat} {starting : Bool}
    (here : system.dashboard = .beginServer sock starting) (tmpIp : IPAddress) :
    Invariant (dashboardStep tmpIp system .proceed) := by
  have doneNoTarget : (if starting then Point.accept 0 false else .choose 0).target = none := by
    cases starting <;> rfl
  have doneNotLeasing : ∀ client dhcp,
      (if starting then Point.accept 0 false else .choose 0) ≠ .leasing client dhcp := by
    cases starting <;> exact nofun
  simp only [dashboardStep, here]
  split
  · next inTable =>
      split
      · next closed => exact invariant.listen inTable closed _ doneNoTarget doneNotLeasing
      · exact invariant.moveOn _ rfl nofun
  · exact invariant.moveOn _ doneNoTarget doneNotLeasing

theorem Invariant.accept (invariant : Invariant system) {sock : Nat} {listening : Bool}
    (here : system.dashboard = .accept sock listening) (tmpIp : IPAddress) :
    Invariant (dashboardStep tmpIp system .proceed) := by
  simp only [dashboardStep, here]
  split
  · next inTable =>
      split
      · next listed =>
          split
          · exact invariant.moveOn _ rfl nofun
          · exact invariant.moveTo _ rfl inTable listed nofun
      · exact invariant.moveOn _ rfl nofun
  · split
    · exact invariant.moveOn _ rfl nofun
    · exact invariant.moveOn _ rfl nofun

theorem Invariant.choose (invariant : Invariant system) {sock : Nat}
    (here : system.dashboard = .choose sock) (tmpIp : IPAddress) :
    Invariant (dashboardStep tmpIp system .proceed) := by
  simp only [dashboardStep, here]
  split
  · next inTable =>
      split
      · next chosen => exact invariant.moveTo _ rfl inTable chosen.1 nofun
      · exact invariant.moveOn _ rfl nofun
  · exact invariant.moveOn _ rfl nofun

theorem Invariant.dashboardStep (invariant : Invariant system) (tmpIp : IPAddress)
    (choice : Choice) (permitted : Permitted system (.dashboard choice)) :
    Invariant (dashboardStep tmpIp system choice) := by
  cases here : system.dashboard with
  | beginServer sock starting =>
      cases choice with
      | proceed => exact invariant.beginServer here tmpIp
      | _ => simpa only [SocketOwnership.dashboardStep, here] using invariant
  | accept sock listening =>
      cases choice with
      | proceed => exact invariant.accept here tmpIp
      | _ => simpa only [SocketOwnership.dashboardStep, here] using invariant
  | acceptClosed sock listening =>
      cases choice with
      | proceed =>
          simp only [SocketOwnership.dashboardStep, here]
          split
          · exact invariant.keep _ (by rw [here]; rfl) nofun
          · exact invariant.moveOn _ rfl nofun
      | _ => simpa only [SocketOwnership.dashboardStep, here] using invariant
  | choose sock =>
      cases choice with
      | proceed => exact invariant.choose here tmpIp
      | _ => simpa only [SocketOwnership.dashboardStep, here] using invariant
  | connected client =>
      cases choice with
      | proceed =>
          simp only [SocketOwnership.dashboardStep, here]
          split
          · exact invariant.keep _ (by rw [here]; rfl) nofun
          · exact invariant.moveOn _ rfl nofun
      | request =>
          simp only [SocketOwnership.dashboardStep, here]
          split
          · exact invariant.keep _ (by rw [here]; rfl) nofun
          · exact invariant.moveOn _ rfl nofun
      | _ => simpa only [SocketOwnership.dashboardStep, here] using invariant
  | handling client =>
      cases choice with
      | setTargetIp newTargetIp =>
          have other : client ≠ system.ethernet.hEthUdp.sock := by
            have apart := permitted rfl
            rw [here] at apart
            exact of_decide_eq_false apart
          have after := invariant.setTargetIp here other newTargetIp
          simpa only [SocketOwnership.dashboardStep, here] using after
      | startDhcp =>
          simp only [SocketOwnership.dashboardStep, here]
          exact invariant.startDhcp here
      | setThisIp pIp =>
          have after := invariant.settings (setThisIp system.ethernet tmpIp pIp) rfl rfl rfl
          simpa only [SocketOwnership.dashboardStep, here] using after
      | startSniffing =>
          have after := invariant.settings (startSniffing system.ethernet) rfl rfl rfl
          simpa only [SocketOwnership.dashboardStep, here] using after
      | stopSniffing =>
          have after := invariant.settings (stopSniffing system.ethernet) rfl rfl rfl
          simpa only [SocketOwnership.dashboardStep, here] using after
      | respond =>
          simp only [SocketOwnership.dashboardStep, here]
          exact invariant.keep _ (by rw [here]; rfl) nofun
      | _ => simpa only [SocketOwnership.dashboardStep, here] using invariant
  | leasing client dhcp =>
      cases choice with
      | leased lease =>
          simp only [SocketOwnership.dashboardStep, here]
          exact invariant.endMac here lease
      | _ => simpa only [SocketOwnership.dashboardStep, here] using invariant
  | stopping sock after =>
      cases choice with
      | proceed =>
          simp only [SocketOwnership.dashboardStep, here]
          split
          · exact invariant.keep _ (by rw [here]; rfl) nofun
          · exact invariant.endStop after (by rw [here]; rfl)
      | timeout =>
          simp only [SocketOwnership.dashboardStep, here]
          exact invariant.endStop after (by rw [here]; rfl)
      | _ => simpa only [SocketOwnership.dashboardStep, here] using invariant
  | stopDelay sock after =>
      cases choice with
      | proceed =>
          simp only [SocketOwnership.dashboardStep, here]
          exact invariant.keep _ (by rw [here]; rfl) nofun
      | _ => simpa only [SocketOwnership.dashboardStep, here] using invariant
  | clientSleep client =>
      cases choice with
      | proceed =>
          simp only [SocketOwnership.dashboardStep, here]
          exact invariant.keep _ (by rw [here]; rfl) nofun
      | _ => simpa only [SocketOwnership.dashboardStep, here] using invariant
  | mainSleep =>
      cases choice with
      | proceed =>
          simp only [SocketOwnership.dashboardStep, here]
          exact invariant.moveOn _ rfl nofun
      | _ => simpa only [SocketOwnership.dashboardStep, here] using invariant

/-! ### Runs -/

theorem Invariant.step (invariant : Invariant system) (tmpIp : IPAddress) {event : Event}
    (permitted : Permitted system event) : Invariant (step tmpIp system event) := by
  cases event with
  | network s status received => exact invariant.networkStep s status received
  | dashboard choice => exact invariant.dashboardStep tmpIp choice permitted
  | ethernetTask queue currentProtocol stack => exact invariant

/-- The chip as the startup leaves it: the DHCP socket closed again and the
sniffer's opened in its place. -/
theorem startup_chip (lease : Option Lease) :
    (startup lease).ethernet.chip = (((Chip.reset.openSocket 0 .udp dhcpClientPort .dhcp).close 0).openSocket
      0 .udp port .hEthUdp) ∧ (startup lease).ethernet.hEthUdp = ⟨0, port⟩ ∧
      (startup lease).ethernet.serverPort 0 = 0 := by
  have begun := ethernetUDPBegin_first (show (Chip.reset.socket 0).status = .closed from rfl)
    ⟨maxSockNum, 0⟩ rfl dhcpClientPort .dhcp
  have used : ¬ 0 = maxSockNum := Nat.ne_of_lt maxSockNum_pos
  have closed : (((Chip.reset.openSocket 0 .udp dhcpClientPort .dhcp).close 0).socket 0).status =
      .closed := by
    rw [Chip.socket_close_self]
  simp only [startup, powered, beginMac, begun, endMac, ethernetUDPStop, used, if_false, beginUdp]
  rw [ethernetUDPBegin_first closed _ rfl]
  exact ⟨rfl, rfl, Function.update_self 0 0 fun _ => 0⟩

theorem startup_invariant (lease : Option Lease) : Invariant (startup lease) := by
  obtain ⟨chip, hEthUdp, serverPort⟩ := startup_chip lease
  constructor
  · rw [hEthUdp]
  · exact nofun
  · intro _
    constructor
    · rw [chip, Chip.socket_openSocket_udp]
      exact ⟨rfl, rfl, rfl, rfl⟩
    · exact serverPort
    · exact nofun
    · exact nofun

theorem Invariant.safeSend (invariant : Invariant system) {event : Event}
    (permitted : Permitted system event) : SafeSend system event := by
  cases event with
  | network s status received => trivial
  | dashboard choice => trivial
  | ethernetTask queue currentProtocol stack =>
      intro sends
      exact invariant.ownSocket (turnCalls_ne_nil sends permitted)

/-- In every run after startup in which nothing is sent between a reset of the chip
and a new target address, every packet goes out on the sniffer's own socket. -/
theorem run_safeSend (tmpIp : IPAddress) (lease : Option Lease) (events : List Event)
    (permitted : EventRun.Meets (step tmpIp) Permitted (startup lease) events) :
    EventRun.Meets (step tmpIp) SafeSend (startup lease) events :=
  permitted.safe (fun _ _ invariant allowed => invariant.step tmpIp allowed)
    (fun _ _ invariant allowed => invariant.safeSend allowed) (startup_invariant lease)

def onePacket : Queue where
  entries := fun _ => ⟨0, .finished, .general, deConfigSize, maxLength + numAppendedBytes,
    fun index => if index = 0 then 1 else 0⟩
  object := ⟨0, none⟩
  readEntry := 0

/-- The server begins on socket 1, a browser connects there and its request comes
in. -/
def requestEvents : List Event :=
  List.replicate 2 (.dashboard .proceed) ++ [.network 1 .established true] ++
    List.replicate 15 (.dashboard .proceed) ++ [.dashboard .request]

def targetText : List UInt8 := [49, 46, 49, 46, 49, 46, 49]

def sendingEvents : List Event :=
  requestEvents ++ [.dashboard (.setTargetIp targetText), .dashboard .respond,
    .dashboard .proceed, .ethernetTask onePacket .ieee802154 fun _ => 0]

theorem sendingEvents_safeSend :
    EventRun.Meets (step ⟨fun _ => 0⟩) SafeSend (startup none) sendingEvents :=
  run_safeSend _ _ _ (by decide)

def restartEvents : List Event :=
  requestEvents ++ [.dashboard (.setTargetIp targetText), .dashboard .startDhcp]

/-- While the dashboard waits for the DHCP server, the packet goes out on the
socket of the DHCP object. -/
theorem restartEvents_not_safeSend :
    ¬ EventRun.Meets (step ⟨fun _ => 0⟩) SafeSend (startup none)
      (restartEvents ++ [.ethernetTask onePacket .ieee802154 fun _ => 0]) := by
  rw [EventRun.meets_append]
  intro safeSend
  rcases safeSend with ⟨_, safe, _⟩
  have sends : turnCalls (EventRun.run (step ⟨fun _ => 0⟩) (startup none) restartEvents) onePacket
      .ieee802154 (fun _ => 0) ≠ [] := by decide
  have foreign : ((EventRun.run (step ⟨fun _ => 0⟩) (startup none) restartEvents).ethernet.chip.socket
      (EventRun.run (step ⟨fun _ => 0⟩) (startup none) restartEvents).ethernet.hEthUdp.sock).opener =
        .dhcp := by decide
  rw [(safe sends).2.opener] at foreign
  cases foreign

end MSniff.Concrete.SocketOwnership
