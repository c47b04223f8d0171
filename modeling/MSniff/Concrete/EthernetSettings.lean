/-
The control functions of ethernet_task.c and the start of Ethernet.c: the globals
they keep and the registers of the W5500 they write. A text is its characters up
to the terminator.
-/

import MSniff.Concrete.EthernetTask
import MSniff.Concrete.SocketTable

namespace MSniff.Concrete.EthernetSettings

open SocketTable

def ipMaxSize : Nat := 17

/-- `pTargetIp` as it is initialised, 192.168.5.12 in characters. -/
def targetDefault : List UInt8 := [49, 57, 50, 46, 49, 54, 56, 46, 53, 46, 49, 50]

def dhcpClientPort : Nat := 68

/-- `pTargetIp` is the memory from the array's first byte on. -/
structure Ethernet where
  chip : Chip
  sipr : IPAddress
  gar : IPAddress
  subr : IPAddress
  serverPort : Nat → Nat
  hEthUdp : EthernetUDP
  hTargetIp : IPAddress
  pTargetIp : Nat → UInt8
  bReadyToSend : Bool
  bUsingDhcp : Bool

def powered : Ethernet where
  chip := .reset
  sipr := ⟨fun _ => 0⟩
  gar := ⟨fun _ => 0⟩
  subr := ⟨fun _ => 0⟩
  serverPort := fun _ => 0
  hEthUdp := ⟨0, 0⟩
  hTargetIp := ⟨fun _ => 0⟩
  pTargetIp := fun index => targetDefault.getD index 0
  bReadyToSend := false
  bUsingDhcp := false

structure Lease where
  localIp : IPAddress
  gatewayIp : IPAddress
  subnetMask : IPAddress

/-- `memset` of the whole array, then `strcpy`, which stops only at the terminator. -/
def copyText (array : Nat → UInt8) (size : Nat) (text : List UInt8) : Nat → UInt8 := fun index =>
  if index < text.length then text.getD index 0
  else if index = text.length ∨ index < size then 0
  else array index

/-- `Ethernet_begin_mac` once the SPI is open, up to its wait for an answer: the
reset chip, its zeroed address and the socket of the DHCP object. -/
def beginMac (ethernet : Ethernet) : Ethernet × EthernetUDP :=
  let (chip, dhcp) := ethernetUDPBegin .reset ⟨maxSockNum, 0⟩ dhcpClientPort .dhcp
  ({ ethernet with
      chip := chip
      sipr := ⟨fun _ => 0⟩
      gar := ⟨fun _ => 0⟩
      subr := ⟨fun _ => 0⟩ }, dhcp)

def endMac (ethernet : Ethernet) (dhcp : EthernetUDP) (lease : Option Lease) : Ethernet :=
  let (chip, serverPort, _) := ethernetUDPStop ethernet.chip ethernet.serverPort dhcp
  { ethernet with
    chip := chip
    serverPort := serverPort
    sipr := (lease.map Lease.localIp).getD ethernet.sipr
    gar := (lease.map Lease.gatewayIp).getD ethernet.gar
    subr := (lease.map Lease.subnetMask).getD ethernet.subr }

/-- `EthernetUDP_begin` of `hEthUdp`. data_packet.h leaves a `#pragma pack(1)` open, so
in ethernet_task.c the handle takes 13 bytes and `bUsingDhcp` is the one behind them,
while for EthernetUdp.c that byte is the upper one of `_remaining`, zeroed where a
socket is taken. -/
def beginUdp (ethernet : Ethernet) : Ethernet :=
  let (chip, hEthUdp) := ethernetUDPBegin ethernet.chip ethernet.hEthUdp EthernetTask.port .hEthUdp
  let taken := ethernet.hEthUdp.sock = maxSockNum ∧ hEthUdp.sock ≠ maxSockNum
  { ethernet with
    chip := chip
    hEthUdp := hEthUdp
    bUsingDhcp := ethernet.bUsingDhcp && !taken }

def stopUdp (ethernet : Ethernet) : Ethernet :=
  let (chip, serverPort, hEthUdp) :=
    ethernetUDPStop ethernet.chip ethernet.serverPort ethernet.hEthUdp
  { ethernet with chip := chip, serverPort := serverPort, hEthUdp := hEthUdp }

def setTargetIp (ethernet : Ethernet) (newTargetIp : List UInt8) : Ethernet :=
  let stopped := stopUdp { ethernet with bReadyToSend := false }
  let copied :=
    { stopped with
      hTargetIp := (stopped.hTargetIp.fromString newTargetIp).2
      pTargetIp := copyText stopped.pTargetIp ipMaxSize newTargetIp }
  { beginUdp copied with bReadyToSend := true }

/-- In this function and the two after it `tmpIp` is an uninitialised local. -/
def setThisIp (ethernet : Ethernet) (tmpIp : IPAddress) (pIp : List UInt8) : Ethernet :=
  { ethernet with bUsingDhcp := false, sipr := (tmpIp.fromString pIp).2 }

def setGatewayIp (ethernet : Ethernet) (tmpIp : IPAddress) (pIp : List UInt8) : Ethernet :=
  { ethernet with gar := (tmpIp.fromString pIp).2 }

def setMask (ethernet : Ethernet) (tmpMsk : IPAddress) (pMsk : List UInt8) : Ethernet :=
  { ethernet with subr := (tmpMsk.fromString pMsk).2 }

def startSniffing (ethernet : Ethernet) : Ethernet := { ethernet with bReadyToSend := true }

def stopSniffing (ethernet : Ethernet) : Ethernet := { ethernet with bReadyToSend := false }

/-- Setting the target closes the number that `hEthUdp` holds, whatever has become
of that socket, and where it is the first finds it closed when it begins again. -/
theorem setTargetIp_eq {ethernet : Ethernet} (sock : ethernet.hEthUdp.sock = 0)
    (newTargetIp : List UInt8) :
    setTargetIp ethernet newTargetIp =
      { ethernet with
        chip := (ethernet.chip.close 0).openSocket 0 .udp EthernetTask.port .hEthUdp
        serverPort := Function.update ethernet.serverPort 0 0
        hEthUdp := ⟨0, EthernetTask.port⟩
        hTargetIp := (ethernet.hTargetIp.fromString newTargetIp).2
        pTargetIp := copyText ethernet.pTargetIp ipMaxSize newTargetIp
        bReadyToSend := true
        bUsingDhcp := false } := by
  have used : ¬ 0 = maxSockNum := Nat.ne_of_lt maxSockNum_pos
  have closed : ((ethernet.chip.close 0).socket 0).status = .closed := by
    rw [Chip.socket_close_self]
  simp only [setTargetIp, stopUdp, beginUdp, ethernetUDPStop, used, if_false, sock]
  rw [ethernetUDPBegin_first closed _ rfl]
  simp only [used, ne_eq, not_false_eq_true, and_self, decide_true, Bool.not_true, Bool.and_false]

/-- A socket that `EthernetUDP_stop` and the next `EthernetUDP_begin` can take: the one
that the handle holds, or a free one. -/
def FindsSocket (ethernet : Ethernet) : Prop :=
  ethernet.hEthUdp.sock ≠ maxSockNum ∨ ∃ s < maxSockNum, isFree ethernet.chip s = true

theorem ethernetUDPBegin_sock_ne_iff {chip : Chip} {eth : EthernetUDP}
    (unused : eth.sock = maxSockNum) (port : Nat) (opener : Opener) :
    (ethernetUDPBegin chip eth port opener).2.sock ≠ maxSockNum ↔
      ∃ s < maxSockNum, isFree chip s = true := by
  simp only [ethernetUDPBegin, unused, ne_eq, not_true_eq_false, if_false]
  cases found : (List.range maxSockNum).find? (isFree chip) with
  | none =>
      rw [List.find?_eq_none] at found
      constructor
      · exact fun taken => absurd unused taken
      · rintro ⟨s, inTable, free⟩
        exact absurd free (found s (List.mem_range.mpr inTable))
  | some s =>
      have inTable : s < maxSockNum := List.mem_range.mp (List.mem_of_find?_eq_some found)
      constructor
      · exact fun _ => ⟨s, inTable, List.find?_some found⟩
      · exact fun _ => Nat.ne_of_lt inTable

theorem stopUdp_frees (ethernet : Ethernet) :
    (stopUdp ethernet).hEthUdp.sock = maxSockNum ∧
      ((∃ s < maxSockNum, isFree (stopUdp ethernet).chip s = true) ↔ FindsSocket ethernet) := by
  by_cases unused : ethernet.hEthUdp.sock = maxSockNum
  · simp only [stopUdp, ethernetUDPStop, FindsSocket, unused, if_true, ne_eq, not_true_eq_false,
      false_or, true_and]
  · simp only [stopUdp, ethernetUDPStop, FindsSocket, unused, if_false, ne_eq, not_false_eq_true,
      true_or, true_and, iff_true]
    refine ⟨ethernet.hEthUdp.sock % maxSockNum, Nat.mod_lt _ maxSockNum_pos, ?_⟩
    have block : (ethernet.chip.close ethernet.hEthUdp.sock).socket
        (ethernet.hEthUdp.sock % maxSockNum) =
          (ethernet.chip.close ethernet.hEthUdp.sock).socket ethernet.hEthUdp.sock :=
      congrArg (ethernet.chip.close ethernet.hEthUdp.sock) (Nat.mod_mod _ _)
    rw [isFree, block, Chip.socket_close_self]
    rfl

theorem bUsingDhcp_beginUdp {ethernet : Ethernet} (unused : ethernet.hEthUdp.sock = maxSockNum) :
    (beginUdp ethernet).bUsingDhcp = true ↔
      ethernet.bUsingDhcp = true ∧ ¬ ∃ s < maxSockNum, isFree ethernet.chip s = true := by
  rw [← ethernetUDPBegin_sock_ne_iff unused EthernetTask.port .hEthUdp]
  simp only [beginUdp, unused, true_and, Bool.and_eq_true, Bool.not_eq_true', decide_eq_false_iff_not]

/-- Setting the target leaves the flag set only where no socket is found for it. -/
theorem bUsingDhcp_setTargetIp (ethernet : Ethernet) (newTargetIp : List UInt8) :
    (setTargetIp ethernet newTargetIp).bUsingDhcp = true ↔
      ethernet.bUsingDhcp = true ∧ ¬ FindsSocket ethernet := by
  let stopped := stopUdp { ethernet with bReadyToSend := false }
  obtain ⟨unused, finds⟩ := stopUdp_frees { ethernet with bReadyToSend := false }
  let copied : Ethernet :=
    { stopped with
      hTargetIp := (stopped.hTargetIp.fromString newTargetIp).2
      pTargetIp := copyText stopped.pTargetIp ipMaxSize newTargetIp }
  have begun := @bUsingDhcp_beginUdp copied unused
  exact begun.trans (and_congr_right fun _ => not_congr finds)

end MSniff.Concrete.EthernetSettings
