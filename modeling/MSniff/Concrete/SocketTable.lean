/-
The sockets of the W5500 as the drivers see them, and the two functions of
EthernetUdp.c that take and release one. Who opened a socket is recorded with it;
the chip does not know.
-/

import MSniff.Concrete.IPAddress

namespace MSniff.Concrete.SocketTable

def maxSockNum : Nat := 8

inductive SocketStatus
  | closed
  | init
  | listen
  | synSent
  | synReceived
  | established
  | finWait
  | closing
  | timeWait
  | closeWait
  | lastAck
  | udp
  deriving DecidableEq, Repr

inductive SocketMode
  | close
  | tcp
  | udp
  deriving DecidableEq, Repr

inductive Opener
  | nobody
  | hEthUdp
  | dhcp
  | server
  deriving DecidableEq, Repr

structure ChipSocket where
  mode : SocketMode
  port : Nat
  status : SocketStatus
  received : Bool
  opener : Opener

/-- The register blocks of the sockets. The socket number makes up the upper three
bits of the control byte, so a number from 8 on names the block of a lower one. -/
abbrev Chip := Nat → ChipSocket

def Chip.socket (chip : Chip) (s : Nat) : ChipSocket := chip (s % maxSockNum)

def Chip.set (chip : Chip) (s : Nat) (socket : ChipSocket) : Chip :=
  Function.update chip (s % maxSockNum) socket

def Chip.reset : Chip := fun _ => ⟨.close, 0, .closed, false, .nobody⟩

def Chip.close (chip : Chip) (s : Nat) : Chip :=
  chip.set s { chip.socket s with status := .closed }

/-- `socket`, called on behalf of `opener`. -/
def Chip.openSocket (chip : Chip) (s : Nat) (mode : SocketMode) (port : Nat) (opener : Opener) : Chip :=
  (chip.close s).set s
    { mode := mode
      port := port
      status := if mode = .udp then .udp else .init
      received := false
      opener := opener }

def Chip.listen (chip : Chip) (s : Nat) : Chip :=
  if (chip.socket s).status = .init then chip.set s { chip.socket s with status := .listen }
  else chip

structure EthernetUDP where
  sock : Nat
  port : Nat

def isFree (chip : Chip) (s : Nat) : Bool :=
  (chip.socket s).status = .closed ∨ (chip.socket s).status = .finWait

def ethernetUDPBegin (chip : Chip) (eth : EthernetUDP) (port : Nat) (opener : Opener) :
    Chip × EthernetUDP :=
  if eth.sock ≠ maxSockNum then (chip, eth)
  else
    match (List.range maxSockNum).find? (isFree chip) with
    | none => (chip, eth)
    | some s => (chip.openSocket s .udp port opener, ⟨s, port⟩)

def ethernetUDPStop (chip : Chip) (serverPort : Nat → Nat) (eth : EthernetUDP) :
    Chip × (Nat → Nat) × EthernetUDP :=
  if eth.sock = maxSockNum then (chip, serverPort, eth)
  else (chip.close eth.sock, Function.update serverPort eth.sock 0, { eth with sock := maxSockNum })

/-! ### Register blocks -/

theorem maxSockNum_pos : 0 < maxSockNum := Nat.succ_pos 7

variable {chip : Chip} {s other : Nat}

theorem Chip.socket_set_self (socket : ChipSocket) : (chip.set s socket).socket s = socket :=
  Function.update_self ..

theorem Chip.socket_set_of_ne (different : other % maxSockNum ≠ s % maxSockNum)
    (socket : ChipSocket) : (chip.set s socket).socket other = chip.socket other :=
  Function.update_of_ne different _ _

theorem Chip.socket_close_self :
    (chip.close s).socket s = { chip.socket s with status := .closed } :=
  Chip.socket_set_self _

theorem Chip.socket_close_of_ne (different : other % maxSockNum ≠ s % maxSockNum) :
    (chip.close s).socket other = chip.socket other :=
  Chip.socket_set_of_ne different _

theorem Chip.socket_openSocket_of_ne (different : other % maxSockNum ≠ s % maxSockNum)
    (mode : SocketMode) (port : Nat) (opener : Opener) :
    (chip.openSocket s mode port opener).socket other = chip.socket other := by
  rw [Chip.openSocket, Chip.socket_set_of_ne different, Chip.socket_close_of_ne different]

theorem Chip.socket_openSocket_udp (port : Nat) (opener : Opener) :
    (chip.openSocket s .udp port opener).socket s = ⟨.udp, port, .udp, false, opener⟩ := by
  rw [Chip.openSocket, Chip.socket_set_self, if_pos rfl]

theorem Chip.socket_listen_of_ne (different : other % maxSockNum ≠ s % maxSockNum) :
    (chip.listen s).socket other = chip.socket other := by
  unfold Chip.listen
  split
  · exact Chip.socket_set_of_ne different _
  · rfl

theorem ethernetUDPBegin_first (closed : (chip.socket 0).status = .closed) (eth : EthernetUDP)
    (unused : eth.sock = maxSockNum) (port : Nat) (opener : Opener) :
    ethernetUDPBegin chip eth port opener = (chip.openSocket 0 .udp port opener, ⟨0, port⟩) := by
  have free : isFree chip 0 = true := by simp [isFree, closed]
  have found : (List.range maxSockNum).find? (isFree chip) = some 0 := by
    rw [show List.range maxSockNum = 0 :: [1, 2, 3, 4, 5, 6, 7] from rfl, List.find?_cons, free]
  simp only [ethernetUDPBegin, unused, ne_eq, not_true_eq_false, if_false, found]

end MSniff.Concrete.SocketTable
