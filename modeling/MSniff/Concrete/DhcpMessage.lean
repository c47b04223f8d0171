/-
The messages that the DHCP client of Dhcp.c sends, and what a server that knows the
message format reads in them.
-/

import MSniff.ByteOrder
import MSniff.TagLengthValue
import MSniff.Concrete.PacketRoundTrip

namespace MSniff.Concrete.Dhcp

open ByteOrder EthernetTask TagLengthValue

def serverPort : Nat := 67
def bootRequest : UInt8 := 1
def bootReply : UInt8 := 2
def hTypeTenMb : UInt8 := 1
def hLenEthernet : UInt8 := 6
def hops : UInt8 := 0
def flagsBroadcast : UInt16 := 0x8000
def magicCookie : UInt32 := 0x63825363
def hostName : List UInt8 := [87, 73, 90, 110, 101, 116]

inductive MessageType
  | discover
  | request
  deriving DecidableEq, Repr

def MessageType.code : MessageType → UInt8
  | .discover => 1
  | .request => 3

def typeOffer : UInt8 := 2
def typeAck : UInt8 := 5
def typeNak : UInt8 := 6

namespace Tag

def pad : UInt8 := 0
def subnetMask : UInt8 := 1
def routersOnSubnet : UInt8 := 3
def dns : UInt8 := 6
def hostName : UInt8 := 12
def domainName : UInt8 := 15
def requestedIPaddr : UInt8 := 50
def ipAddrLeaseTime : UInt8 := 51
def messageType : UInt8 := 53
def serverIdentifier : UInt8 := 54
def paramRequest : UInt8 := 55
def t1value : UInt8 := 58
def t2value : UInt8 := 59
def clientIdentifier : UInt8 := 61
def finish : UInt8 := 255

end Tag

inductive State
  | start
  | discover
  | request
  | leased
  | rerequest
  | release
  deriving DecidableEq, Repr

/-- The `DHCP` record, with the clock and the socket left to those who drive it. -/
structure Client where
  initialTransactionId : UInt32
  transactionId : UInt32
  macAddr : Fin 6 → UInt8
  localIp : IPAddress
  subnetMask : IPAddress
  gatewayIp : IPAddress
  dhcpServerIp : IPAddress
  dnsServerIp : IPAddress
  leaseTime : UInt32
  t1 : UInt32
  t2 : UInt32
  renewInSec : Int32
  rebindInSec : Int32
  state : State

/-- A record in zeroed memory, with its first message sent. -/
def blankClient : Client where
  initialTransactionId := 1
  transactionId := 2
  macAddr := fun _ => 7
  localIp := ⟨fun _ => 0⟩
  subnetMask := ⟨fun _ => 0⟩
  gatewayIp := ⟨fun _ => 0⟩
  dhcpServerIp := ⟨fun _ => 0⟩
  dnsServerIp := ⟨fun _ => 0⟩
  leaseTime := 0
  t1 := 0
  t2 := 0
  renewInSec := 0
  rebindInSec := 0
  state := .discover

def htonl (x : UInt32) : UInt32 := swap x

def htons (x : UInt16) : UInt16 := (x <<< 8 &&& (0xFF00 : UInt16)) ||| (x >>> 8 &&& (0x00FF : UInt16))

/-- The bytes of a 16-bit word in the memory of the processor. -/
def stored (word : UInt16) : List UInt8 := [word.toUInt8, (word >>> 8).toUInt8]

def hexDigit (c : UInt8) : UInt8 := if c < 10 then c + 48 else c + 65 - 10

/-- The loop of DHCP_printByte ends after the second digit at the latest; the first
cell holds a zero before it. -/
def printByte (n : UInt8) : List UInt8 :=
  let last := hexDigit (n - 16 * (n / 16))
  if n / 16 = 0 then [48, last] else [hexDigit (n / 16 - 16 * (n / 16 / 16)), last]

def addressBytes (address : IPAddress) : List UInt8 := List.ofFn address.bytes

variable (client : Client)

def fixedPart (secondsElapsed : UInt16) : List UInt8 :=
  [bootRequest, hTypeTenMb, hLenEthernet, hops] ++ littleEndian (htonl client.transactionId) ++
    [(secondsElapsed >>> 8).toUInt8, secondsElapsed.toUInt8] ++ stored (htons flagsBroadcast) ++
    List.replicate 16 0

def chaddr : List UInt8 := List.ofFn client.macAddr ++ List.replicate 10 0

def cookie : List UInt8 := bigEndian magicCookie

def leadingOptions (messageType : MessageType) : List UInt8 :=
  cookie ++ [Tag.messageType, 1, messageType.code] ++
    ([Tag.clientIdentifier, 7, 1] ++ List.ofFn client.macAddr) ++
    ([Tag.hostName, UInt8.ofNat (hostName.length + 6)] ++ hostName ++
      printByte (client.macAddr 3) ++ printByte (client.macAddr 4) ++ printByte (client.macAddr 5))

def requestOptions : List UInt8 :=
  [Tag.requestedIPaddr, 4] ++ addressBytes client.localIp ++
    ([Tag.serverIdentifier, 4] ++ addressBytes client.dhcpServerIp)

def parameters : List UInt8 :=
  [Tag.subnetMask, Tag.routersOnSubnet, Tag.dns, Tag.domainName, Tag.t1value, Tag.t2value]

/-- What the message's writes put down, one after the other. -/
def parts (messageType : MessageType) (secondsElapsed : UInt16) : List (List UInt8) :=
  [fixedPart client secondsElapsed, chaddr client] ++ List.replicate 6 (List.replicate 32 0) ++
    [leadingOptions client messageType] ++
    (if messageType = .request then [requestOptions client] else []) ++
    [[Tag.paramRequest, 6] ++ parameters ++ [Tag.finish]]

def sendMessage (messageType : MessageType) (secondsElapsed : UInt16) : List UdpCall :=
  .beginPacket ⟨fun _ => 255⟩ serverPort ::
    ((parts client messageType secondsElapsed).map UdpCall.write ++ [.endPacket])

/-! ### What a server reads -/

/-- A message of the protocol, its numbers as the network carries them. -/
structure Message where
  op : UInt8
  htype : UInt8
  hlen : UInt8
  hops : UInt8
  xid : List UInt8
  secs : List UInt8
  flags : List UInt8
  ciaddr : List UInt8
  yiaddr : List UInt8
  siaddr : List UInt8
  giaddr : List UInt8
  chaddr : List UInt8
  options : List Item

def field (bytes : List UInt8) (start count : Nat) : List UInt8 := (bytes.drop start).take count

def decodeMessage (bytes : List UInt8) : Option Message :=
  if field bytes 236 4 = [99, 130, 83, 99] then
    (decode Tag.pad Tag.finish bytes.length (bytes.drop 240)).map fun options =>
      { op := bytes.getD 0 0
        htype := bytes.getD 1 0
        hlen := bytes.getD 2 0
        hops := bytes.getD 3 0
        xid := field bytes 4 4
        secs := field bytes 8 2
        flags := field bytes 10 2
        ciaddr := field bytes 12 4
        yiaddr := field bytes 16 4
        siaddr := field bytes 20 4
        giaddr := field bytes 24 4
        chaddr := field bytes 28 16
        options := options }
  else none

def hostNameOf (macAddr : Fin 6 → UInt8) : List UInt8 :=
  hostName ++ printByte (macAddr 3) ++ printByte (macAddr 4) ++ printByte (macAddr 5)

def requestItems (client : Client) : MessageType → List Item
  | .discover => []
  | .request =>
      [⟨Tag.requestedIPaddr, addressBytes client.localIp⟩,
        ⟨Tag.serverIdentifier, addressBytes client.dhcpServerIp⟩]

def items (client : Client) (messageType : MessageType) : List Item :=
  [⟨Tag.messageType, [messageType.code]⟩,
    ⟨Tag.clientIdentifier, 1 :: List.ofFn client.macAddr⟩,
    ⟨Tag.hostName, hostNameOf client.macAddr⟩] ++
    requestItems client messageType ++ [⟨Tag.paramRequest, parameters⟩]

def messageOf (client : Client) (messageType : MessageType) (secondsElapsed : UInt16) : Message :=
  { op := bootRequest
    htype := hTypeTenMb
    hlen := hLenEthernet
    hops := 0
    xid := bigEndian client.transactionId
    secs := [(secondsElapsed >>> 8).toUInt8, secondsElapsed.toUInt8]
    flags := [128, 0]
    ciaddr := [0, 0, 0, 0]
    yiaddr := [0, 0, 0, 0]
    siaddr := [0, 0, 0, 0]
    giaddr := [0, 0, 0, 0]
    chaddr := chaddr client
    options := items client messageType }

variable {client}

def sentBytes (client : Client) (messageType : MessageType) (secondsElapsed : UInt16) : List UInt8 :=
  (parts client messageType secondsElapsed).flatten

theorem assemble_writes (begun : Datagram) (writes : List (List UInt8)) :
    assemble (some begun) (writes.map UdpCall.write ++ [.endPacket]) =
      [{ begun with payload := begun.payload ++ writes.flatten }] := by
  induction writes generalizing begun with
  | nil => simp [assemble]
  | cons first rest ih =>
      simp only [List.map_cons, List.cons_append, assemble, Option.map_some, ih, List.flatten_cons,
        List.append_assoc]

theorem assemble_append_begin (begun : Option Datagram) (calls rest : List UdpCall) (ip : IPAddress)
    (port : Nat) :
    assemble begun (calls ++ .beginPacket ip port :: rest) =
      assemble begun calls ++ assemble (some ⟨ip, port, []⟩) rest := by
  induction calls generalizing begun with
  | nil => simp [assemble]
  | cons call calls ih =>
      cases call with
      | beginPacket ip port => simp only [List.cons_append, assemble, ih]
      | write bytes => simp only [List.cons_append, assemble, ih]
      | endPacket => simp only [List.cons_append, assemble, ih, List.append_assoc]

theorem datagrams_append_sendMessage (calls : List UdpCall) (client : Client)
    (messageType : MessageType) (secondsElapsed : UInt16) :
    datagrams (calls ++ sendMessage client messageType secondsElapsed) =
      datagrams calls ++ [⟨⟨fun _ => 255⟩, serverPort, sentBytes client messageType secondsElapsed⟩] := by
  rw [sendMessage, datagrams, assemble_append_begin, assemble_writes, List.nil_append, sentBytes,
    datagrams]

theorem datagrams_sendMessage (client : Client) (messageType : MessageType) (secondsElapsed : UInt16) :
    datagrams (sendMessage client messageType secondsElapsed) =
      [⟨⟨fun _ => 255⟩, serverPort, sentBytes client messageType secondsElapsed⟩] := by
  exact datagrams_append_sendMessage [] client messageType secondsElapsed

theorem printByte_length (n : UInt8) : (printByte n).length = 2 := by
  unfold printByte
  split
  · rfl
  · rfl

theorem hostNameOf_length (macAddr : Fin 6 → UInt8) : (hostNameOf macAddr).length = 12 := by
  simp only [hostNameOf, List.length_append, printByte_length]
  rfl

theorem bytes_clientIdentifier (client : Client) :
    (⟨Tag.clientIdentifier, 1 :: List.ofFn client.macAddr⟩ : Item).bytes =
      [Tag.clientIdentifier, 7, 1] ++ List.ofFn client.macAddr := by
  simp [Item.bytes]

theorem bytes_hostName (client : Client) :
    (⟨Tag.hostName, hostNameOf client.macAddr⟩ : Item).bytes =
      [Tag.hostName, UInt8.ofNat (hostName.length + 6)] ++ hostNameOf client.macAddr := by
  rw [Item.bytes, hostNameOf_length]
  rfl

theorem leadingOptions_eq (client : Client) (messageType : MessageType) :
    leadingOptions client messageType = cookie ++
      ((⟨Tag.messageType, [messageType.code]⟩ : Item).bytes ++
        ((⟨Tag.clientIdentifier, 1 :: List.ofFn client.macAddr⟩ : Item).bytes ++
          (⟨Tag.hostName, hostNameOf client.macAddr⟩ : Item).bytes)) := by
  rw [bytes_clientIdentifier, bytes_hostName, leadingOptions, hostNameOf]
  simp only [List.append_assoc]
  rfl

theorem requestOptions_eq (client : Client) :
    requestOptions client = (⟨Tag.requestedIPaddr, addressBytes client.localIp⟩ : Item).bytes ++
      (⟨Tag.serverIdentifier, addressBytes client.dhcpServerIp⟩ : Item).bytes := by
  simp [requestOptions, Item.bytes, addressBytes]

theorem requestItems_plain (client : Client) (messageType : MessageType) :
    ∀ item ∈ requestItems client messageType, item.Plain Tag.pad Tag.finish := by
  cases messageType with
  | discover => exact List.forall_mem_nil _
  | request =>
      have short (address : IPAddress) : (addressBytes address).length < 256 := by
        simp [addressBytes]
      simp only [requestItems, List.forall_mem_cons]
      constructor
      · exact ⟨(by decide : Tag.requestedIPaddr ≠ Tag.pad),
          (by decide : Tag.requestedIPaddr ≠ Tag.finish), short _⟩
      constructor
      · exact ⟨(by decide : Tag.serverIdentifier ≠ Tag.pad),
          (by decide : Tag.serverIdentifier ≠ Tag.finish), short _⟩
      · exact List.forall_mem_nil _

theorem items_plain (client : Client) (messageType : MessageType) :
    ∀ item ∈ items client messageType, item.Plain Tag.pad Tag.finish := by
  simp only [items, List.cons_append, List.nil_append, List.forall_mem_cons, List.forall_mem_append]
  constructor
  · exact ⟨(by decide : Tag.messageType ≠ Tag.pad), (by decide : Tag.messageType ≠ Tag.finish),
      Nat.one_lt_succ_succ 254⟩
  constructor
  · exact ⟨(by decide : Tag.clientIdentifier ≠ Tag.pad),
      (by decide : Tag.clientIdentifier ≠ Tag.finish), by simp⟩
  constructor
  · exact ⟨(by decide : Tag.hostName ≠ Tag.pad), (by decide : Tag.hostName ≠ Tag.finish),
      by rw [hostNameOf_length]; decide⟩
  constructor
  · exact requestItems_plain client messageType
  constructor
  · exact ⟨(by decide : Tag.paramRequest ≠ Tag.pad), (by decide : Tag.paramRequest ≠ Tag.finish),
      by decide⟩
  · exact List.forall_mem_nil _

def optionBytes (client : Client) (messageType : MessageType) : List UInt8 :=
  (items client messageType).flatMap Item.bytes ++ [Tag.finish]

/-- The fixed fields, the cookie and behind it the options. -/
theorem sentBytes_eq (client : Client) (messageType : MessageType) (secondsElapsed : UInt16) :
    sentBytes client messageType secondsElapsed =
      fixedPart client secondsElapsed ++ (chaddr client ++ (List.replicate 192 0 ++
        (cookie ++ optionBytes client messageType))) := by
  have parameterItem : (⟨Tag.paramRequest, parameters⟩ : Item).bytes =
      [Tag.paramRequest, 6] ++ parameters := rfl
  cases messageType with
  | discover =>
      simp [sentBytes, parts, leadingOptions_eq, optionBytes, items, requestItems,
        parameterItem]
  | request =>
      simp [sentBytes, parts, leadingOptions_eq, requestOptions_eq, optionBytes, items,
        requestItems, parameterItem]

theorem field_left {first second : List UInt8} {start count : Nat}
    (inside : start + count ≤ first.length) :
    field (first ++ second) start count = field first start count := by
  rw [field, field, List.drop_append_of_le_length (by omega), List.take_append_of_le_length]
  rw [List.length_drop]
  omega

theorem field_middle {before middle after : List UInt8} {start count : Nat}
    (begins : before.length = start) (fills : middle.length = count) :
    field (before ++ (middle ++ after)) start count = middle := by
  subst begins fills
  rw [field, List.drop_left, List.take_left]

/-- Field by field and option by option, a server reads what the client means. -/
theorem decodeMessage_sentBytes (client : Client) (messageType : MessageType)
    (secondsElapsed : UInt16) :
    decodeMessage (sentBytes client messageType secondsElapsed) =
      some (messageOf client messageType secondsElapsed) := by
  have split := sentBytes_eq client messageType secondsElapsed
  have fixed : (fixedPart client secondsElapsed).length = 28 := rfl
  have addressed : (chaddr client).length = 16 := by simp [chaddr]
  have inFixed {start count : Nat} (inside : start + count ≤ 28) :
      field (sentBytes client messageType secondsElapsed) start count =
        field (fixedPart client secondsElapsed) start count := by
    rw [split]
    exact field_left inside
  have hardware : field (sentBytes client messageType secondsElapsed) 28 16 = chaddr client := by
    rw [split]
    exact field_middle fixed addressed
  have magic : field (sentBytes client messageType secondsElapsed) 236 4 = [99, 130, 83, 99] := by
    rw [split, ← List.append_assoc (chaddr client), ← List.append_assoc (fixedPart client _)]
    apply field_middle
    · simp only [List.length_append, List.length_replicate, fixed, addressed]
    · rfl
  have options : (sentBytes client messageType secondsElapsed).drop 240 =
      optionBytes client messageType := by
    rw [split, ← List.append_assoc (List.replicate 192 0), ← List.append_assoc (chaddr client),
      ← List.append_assoc (fixedPart client _)]
    apply List.drop_left'
    simp only [List.length_append, List.length_replicate, fixed, addressed]
    rfl
  have enough : (optionBytes client messageType).length ≤
      (sentBytes client messageType secondsElapsed).length := by
    rw [← options, List.length_drop]
    exact Nat.sub_le _ _
  have encodes : Encodes Tag.pad Tag.finish (optionBytes client messageType)
      (items client messageType) := encodes_flatMap (items_plain client messageType)
  have read := encodes.decode (by decide : Tag.pad ≠ Tag.finish) enough
  have first : sentBytes client messageType secondsElapsed =
      bootRequest :: hTypeTenMb :: hLenEthernet :: hops ::
        (littleEndian (htonl client.transactionId) ++
          (sentBytes client messageType secondsElapsed).drop 8) := by
    rw [split]
    rfl
  have op : (sentBytes client messageType secondsElapsed).getD 0 0 = bootRequest := by
    rw [first]
    rfl
  have htype : (sentBytes client messageType secondsElapsed).getD 1 0 = hTypeTenMb := by
    rw [first]
    rfl
  have hlen : (sentBytes client messageType secondsElapsed).getD 2 0 = hLenEthernet := by
    rw [first]
    rfl
  have hop : (sentBytes client messageType secondsElapsed).getD 3 0 = hops := by
    rw [first]
    rfl
  have xid : field (fixedPart client secondsElapsed) 4 4 = bigEndian client.transactionId :=
    littleEndian_swap client.transactionId
  rw [decodeMessage, if_pos magic, options, read, Option.map_some, hardware, op, htype, hlen, hop,
    inFixed (by decide), inFixed (by decide), inFixed (by decide), inFixed (by decide),
    inFixed (by decide), inFixed (by decide), inFixed (by decide), xid]
  rfl

/-- The calls of one message amount to one broadcast datagram that a server reads as
that message. -/
theorem sendMessage_understood (client : Client) (messageType : MessageType)
    (secondsElapsed : UInt16) :
    ∃ datagram, datagrams (sendMessage client messageType secondsElapsed) = [datagram] ∧
      datagram.address = ⟨fun _ => 255⟩ ∧ datagram.port = serverPort ∧
      decodeMessage datagram.payload = some (messageOf client messageType secondsElapsed) := by
  refine ⟨_, datagrams_sendMessage client messageType secondsElapsed, rfl, rfl, ?_⟩
  exact decodeMessage_sentBytes client messageType secondsElapsed

end MSniff.Concrete.Dhcp
