/-
The client on a network with a server that answers what it reads, and with other hosts
that send what they like: it comes to the lease that the server gives, and the chip's
registers to what the server says.
-/

import MSniff.Concrete.DhcpRequest
import MSniff.Concrete.DhcpServer
import MSniff.Concrete.EthernetSettings

namespace MSniff.Concrete.Dhcp

open ByteOrder EthernetTask EventRun Receive TagLengthValue

/-! ### The server -/

/-- A server, and what it gives to the client. Its options leave the type to each
message and name no other server. -/
structure Server where
  address : IPAddress
  grant : IPAddress
  options : List Item
  plain : ∀ item ∈ options, item.Plain Tag.pad Tag.finish
  regular : ∀ item ∈ options, Regular item
  untyped : ∀ item ∈ options, item.tag ≠ Tag.messageType
  honest : ∀ item ∈ options, item.tag = Tag.serverIdentifier → addressOf item.value = address

def typeOf (message : Message) : Option UInt8 :=
  latest Tag.messageType (·.getD 0 0) message.options

def requestedOf (message : Message) : Option (List UInt8) :=
  latest Tag.requestedIPaddr id message.options

def hardwareOf (message : Message) : Fin 6 → UInt8 := fun place => message.chaddr.getD place 0

def Server.typed (server : Server) (type : UInt8) : List Item :=
  ⟨Tag.messageType, [type]⟩ :: server.options

def Server.write (server : Server) (message : Message) (type : UInt8) : List UInt8 :=
  answer (wordOf message.xid) server.grant (hardwareOf message) (server.typed type)

/-- A discovery is answered with an offer, a request of what was offered with an
acknowledgement. -/
def Server.reply (server : Server) (payload : List UInt8) : Option (List UInt8) :=
  match decodeMessage payload with
  | none => none
  | some message =>
      if typeOf message = some MessageType.discover.code then
        some (server.write message typeOffer)
      else if typeOf message = some MessageType.request.code ∧
          requestedOf message = some (addressBytes server.grant) then
        some (server.write message typeAck)
      else none

variable {server : Server} {client : Client} {xid : UInt32} {type : UInt8}

theorem Server.typed_plain (server : Server) :
    ∀ item ∈ server.typed type, item.Plain Tag.pad Tag.finish := by
  rw [Server.typed, List.forall_mem_cons]
  constructor
  · exact ⟨(by decide : Tag.messageType ≠ Tag.pad), (by decide : Tag.messageType ≠ Tag.finish),
      Nat.one_lt_succ_succ 254⟩
  · exact server.plain

theorem Server.typed_regular (server : Server) : ∀ item ∈ server.typed type, Regular item := by
  rw [Server.typed, List.forall_mem_cons]
  constructor
  · exact (rfl : List.length [type] = 1)
  · exact server.regular

theorem hardwareOf_messageOf (client : Client) (messageType : MessageType) (seconds : UInt16) :
    hardwareOf (messageOf client messageType seconds) = client.macAddr := by
  funext place
  have inside : place.val < (List.ofFn client.macAddr).length := by
    rw [List.length_ofFn]
    exact place.isLt
  simp only [hardwareOf, messageOf, chaddr]
  rw [List.getD_append _ _ _ _ inside, List.getD_eq_getElem _ _ inside]
  exact List.getElem_ofFn inside

/-- What the server writes in answer to a message says what it means to say. -/
theorem Server.write_carries (server : Server) (client : Client) (messageType : MessageType)
    (seconds : UInt16) (type : UInt8) :
    Carries (server.write (messageOf client messageType seconds) type) client.transactionId
      server.grant client.macAddr (server.typed type) := by
  have xid : wordOf (messageOf client messageType seconds).xid = client.transactionId :=
    wordOf_bigEndian client.transactionId
  rw [Server.write, xid, hardwareOf_messageOf]
  exact answer_carries server.typed_plain server.typed_regular

theorem typeOf_messageOf (client : Client) (messageType : MessageType) (seconds : UInt16) :
    typeOf (messageOf client messageType seconds) = some messageType.code := by
  cases messageType with
  | discover => rfl
  | request => rfl

theorem requestedOf_messageOf (client : Client) (seconds : UInt16) :
    requestedOf (messageOf client .request seconds) = some (addressBytes client.localIp) := rfl

theorem Server.reply_discover (server : Server) (client : Client) (seconds : UInt16) :
    server.reply (sentBytes client .discover seconds) =
      some (server.write (messageOf client .discover seconds) typeOffer) := by
  simp only [Server.reply, decodeMessage_sentBytes, typeOf_messageOf, if_true]

theorem Server.reply_request (server : Server) (client : Client) (seconds : UInt16)
    (wanted : client.localIp = server.grant) :
    server.reply (sentBytes client .request seconds) =
      some (server.write (messageOf client .request seconds) typeAck) := by
  have other : ¬ some MessageType.request.code = some MessageType.discover.code := by decide
  simp only [Server.reply, decodeMessage_sentBytes, typeOf_messageOf, requestedOf_messageOf, wanted,
    other, if_false, and_self, if_true]

/-! ### What the server says of the settings -/

def noAddress : IPAddress := ⟨fun _ => 0⟩

/-- What the last option of a tag says, where there is one. -/
def Server.said {Meaning : Type*} (server : Server) (tag : UInt8) (meaning : List UInt8 → Meaning)
    (unset : Meaning) : Meaning := (latest tag meaning server.options).getD unset

structure Blank (client : Client) : Prop where
  subnetMask : client.subnetMask = noAddress
  gatewayIp : client.gatewayIp = noAddress
  dnsServerIp : client.dnsServerIp = noAddress
  dhcpServerIp : client.dhcpServerIp = noAddress
  t1 : client.t1 = 0
  t2 : client.t2 = 0
  leaseTime : client.leaseTime = 0

structure Granted (server : Server) (client : Client) : Prop where
  localIp : client.localIp = server.grant
  subnetMask : client.subnetMask = server.said Tag.subnetMask addressOf noAddress
  gatewayIp : client.gatewayIp = server.said Tag.routersOnSubnet addressOf noAddress
  dnsServerIp : client.dnsServerIp = server.said Tag.dns addressOf noAddress
  t1 : client.t1 = server.said Tag.t1value wordOf 0
  t2 : client.t2 = server.said Tag.t2value wordOf 0
  leaseTime : client.leaseTime = server.said Tag.ipAddrLeaseTime wordOf 0
  known : knowsServer client server.address

/-- Being told once more makes no difference. -/
theorem Server.said_again {Meaning : Type*} {tag : UInt8} {meaning : List UInt8 → Meaning}
    {value unset : Meaning} (other : Tag.messageType ≠ tag)
    (begun : value = unset ∨ value = server.said tag meaning unset) :
    (latest tag meaning (server.typed type)).getD value = server.said tag meaning unset := by
  rw [Server.typed, latest_cons_of_ne other, Server.said] at *
  rcases begun with rfl | rfl
  · rfl
  · cases latest tag meaning server.options with
    | none => rfl
    | some last => rfl

theorem Understood.granted {final : Parse} (begun : Blank client ∨ Granted server client)
    (understood : Understood client server.address server.grant (server.typed type) final) :
    Granted server final.client := by
  have known : knowsServer client server.address := by
    rcases begun with blank | granted
    · apply Or.inl
      rw [blank.dhcpServerIp]
      rfl
    · exact granted.known
  have honest : ∀ item ∈ server.typed type, item.tag = Tag.serverIdentifier →
      addressOf item.value = server.address := by
    rw [Server.typed, List.forall_mem_cons]
    constructor
    · intro impossible
      exact absurd impossible (by decide : Tag.messageType ≠ Tag.serverIdentifier)
    · exact server.honest
  constructor
  · exact understood.localIp
  · rw [understood.subnetMask]
    exact Server.said_again (by decide) (begun.imp Blank.subnetMask Granted.subnetMask)
  · rw [understood.gatewayIp]
    exact Server.said_again (by decide) (begun.imp Blank.gatewayIp Granted.gatewayIp)
  · rw [understood.dnsServerIp]
    exact Server.said_again (by decide) (begun.imp Blank.dnsServerIp Granted.dnsServerIp)
  · rw [understood.t1]
    exact Server.said_again (by decide) (begun.imp Blank.t1 Granted.t1)
  · rw [understood.t2]
    exact Server.said_again (by decide) (begun.imp Blank.t2 Granted.t2)
  · rw [understood.leaseTime]
    exact Server.said_again (by decide) (begun.imp Blank.leaseTime Granted.leaseTime)
  · unfold knowsServer
    rw [understood.server known honest]
    rcases latest_eq honest with none | own
    · rw [none]
      exact known
    · rw [own]
      exact .inr rfl

theorem Understood.typed {final : Parse} {address remoteIP : IPAddress}
    (understood : Understood client remoteIP address (server.typed type) final) :
    final.type = type := by
  have first : latest Tag.messageType (·.getD 0 0) (server.typed type) = some type :=
    latest_cons_of_absent rfl server.untyped
  rw [understood.type, first, Option.getD_some]

/-! ### The network -/

/-- What ends a turn: the server's answer to what was sent last, or anything else. -/
inductive Delivery
  | answer (turn : Turn)
  | other (turn : Turn)

def Delivery.isAnswer : Delivery → Bool
  | .answer _ => true
  | .other _ => false

def Server.arrival (server : Server) (request : Request) : Option Arrival :=
  match (datagrams request.calls).getLast? with
  | none => none
  | some datagram =>
      match server.reply datagram.payload with
      | none => none
      | some [] => none
      | some (first :: rest) =>
          some ⟨⟨server.address, 67, first :: rest⟩, [], List.cons_ne_nil first rest⟩

def Server.serve (server : Server) (request : Request) : Delivery → Request
  | .answer turn => request.turn { turn with arrival := server.arrival request }
  | .other turn => request.turn turn

/-- The time is not up, and what the server has not sent is not for this client. -/
def Calm (request : Request) : Delivery → Prop
  | .answer turn => turn.checkTime ≤ timeout
  | .other turn =>
      turn.checkTime ≤ timeout ∧
        ∃ arrival, turn.arrival = some arrival ∧
          ¬ Acceptable request.client arrival.datagram.port.toNat
            (writeBuffer turn.fixedMsg (arrival.input.readBuf fixedSize).1)

/-- The last message sent asks the server for what it will give. -/
def Pending (server : Server) (client : Client) (calls : List UdpCall) (messageType : MessageType) :
    Prop :=
  ∃ earlier record seconds, calls = earlier ++ sendMessage record messageType seconds ∧
    record.transactionId = client.transactionId ∧ record.macAddr = client.macAddr ∧
    (messageType = .request → record.localIp = server.grant)

structure Awaiting (server : Server) (client : Client) (calls : List UdpCall)
    (messageType : MessageType) : Prop where
  pending : Pending server client calls messageType
  window : InWindow client client.transactionId

/-- How far the client is with this server. -/
def Progress (server : Server) (client : Client) (calls : List UdpCall) : Prop :=
  match client.state with
  | .discover => Awaiting server client calls .discover ∧ Blank client
  | .request => Awaiting server client calls .request ∧ Granted server client
  | .leased => ∃ granted, Granted server granted ∧ client = { settle granted with state := .leased }
  | .start => False
  | .rerequest => False
  | .release => False

structure Served (server : Server) (request : Request) : Prop where
  fresh : request.Fresh
  inside : request.left = false
  progress : Progress server request.client request.calls

/-- How many answers are still missing. -/
def need : State → Nat
  | .discover => 2
  | .request => 1
  | _ => 0

variable {request : Request} {turn : Turn}

theorem giveUp_prompt (prompt : turn.checkTime ≤ timeout) (request : Request) :
    request.giveUp turn = request := by
  apply if_neg
  rintro ⟨_, late⟩
  exact UInt32.not_lt.mpr prompt late

theorem arrival_of_reply {calls : List UdpCall} {record : Client} {messageType : MessageType}
    {seconds : UInt16} {bytes : List UInt8}
    (sent : request.calls = calls ++ sendMessage record messageType seconds)
    (replies : server.reply (sentBytes record messageType seconds) = some bytes)
    (nonempty : bytes ≠ []) :
    server.arrival request = some ⟨⟨server.address, 67, bytes⟩, [], nonempty⟩ := by
  have last : (datagrams request.calls).getLast? =
      some ⟨⟨fun _ => 255⟩, serverPort, sentBytes record messageType seconds⟩ := by
    rw [sent, datagrams_append_sendMessage, List.getLast?_concat]
  cases bytes with
  | nil => exact absurd rfl nonempty
  | cons first rest => simp only [Server.arrival, last, replies]

/-- The server's answer to what is pending is read as the server means it. -/
theorem Awaiting.answered {messageType : MessageType}
    (awaiting : Awaiting server request.client request.calls messageType) (turn : Turn) :
    ∃ final, answerOf request.client { turn with arrival := server.arrival request } =
        ⟨final.type, some request.client.transactionId, final.client, ⟨[], []⟩⟩ ∧
      Understood request.client server.address server.grant
        (server.typed (if messageType = .discover then typeOffer else typeAck)) final := by
  obtain ⟨calls, record, seconds, sent, number, hardware, wanted⟩ := awaiting.pending
  have replies : server.reply (sentBytes record messageType seconds) =
      some (server.write (messageOf record messageType seconds)
        (if messageType = .discover then typeOffer else typeAck)) := by
    cases messageType with
    | discover => exact server.reply_discover record seconds
    | request => exact server.reply_request record seconds (wanted rfl)
  have carries := server.write_carries record messageType seconds
    (if messageType = .discover then typeOffer else typeAck)
  rw [number, hardware] at carries
  have nonempty := List.ne_nil_of_length_pos (Nat.zero_lt_of_lt carries.long)
  refine ⟨_, ?_, understood request.client server.address server.grant _⟩
  rw [answerOf_some (arrival_of_reply sent replies nonempty)]
  exact parseResponse_carries carries awaiting.window turn.fixedMsg server.address

theorem Served.stage (served : Served server request) :
    request.client.state = .discover ∨ request.client.state = .request ∨
      request.client.state = .leased := by
  have progress := served.progress
  unfold Progress at progress
  cases state : request.client.state with
  | discover => exact .inl rfl
  | request => exact .inr (.inl rfl)
  | leased => exact .inr (.inr rfl)
  | start =>
      rw [state] at progress
      exact progress.elim
  | rerequest =>
      rw [state] at progress
      exact progress.elim
  | release =>
      rw [state] at progress
      exact progress.elim

theorem Served.leased_of_need (served : Served server request)
    (none : need request.client.state = 0) : request.client.state = .leased := by
  rcases served.stage with state | state | state
  · rw [state] at none
    cases none
  · rw [state] at none
    cases none
  · exact state

theorem Served.lease (served : Served server request) (leased : request.client.state = .leased) :
    ∃ granted, Granted server granted ∧
      request.client = { settle granted with state := .leased } := by
  have progress := served.progress
  rw [Progress, leased] at progress
  exact progress

/-! ### One delivery -/

theorem Served.running (served : Served server request) (unbound : request.client.state ≠ .leased) :
    ¬ (request.left ∨ request.client.state = .leased) := by
  rintro (left | leased)
  · rw [served.inside] at left
    cases left
  · exact unbound leased

theorem Served.turn_fresh (served : Served server request) (turn : Turn) :
    (request.turn turn).Fresh :=
  (served.fresh.turns turn).fresh served.fresh

theorem serve_leased (leased : request.client.state = .leased) (delivery : Delivery) :
    server.serve request delivery = request := by
  cases delivery with
  | answer turn => exact turn_of_stopped (.inr leased) _
  | other turn => exact turn_of_stopped (.inr leased) _

theorem answerOf_foreign {arrival : Arrival} (arrived : turn.arrival = some arrival)
    (foreign : ¬ Acceptable client arrival.datagram.port.toNat
      (writeBuffer turn.fixedMsg (arrival.input.readBuf fixedSize).1)) :
    (answerOf client turn).client = client ∧ (answerOf client turn).type = 0 := by
  rw [answerOf_some arrived]
  exact (parseResponse_confined _ _ _ _ _).ignored foreign

/-- What is not for the client leaves it where it was. -/
theorem Served.other (served : Served server request) (unbound : request.client.state ≠ .leased)
    (calm : Calm request (.other turn)) :
    ∃ messageType, server.serve request (.other turn) = { request with messageType := messageType } := by
  obtain ⟨prompt, arrival, arrived, foreign⟩ := calm
  obtain ⟨same, silent⟩ := answerOf_foreign arrived foreign
  have inTime : (answerOf request.client turn).type ≠ noAnswer := by
    rw [silent]
    decide
  have waits : request.client.state = .discover ∧ (answerOf request.client turn).type ≠ typeOffer ∨
      request.client.state = .request ∧ (answerOf request.client turn).type ≠ typeAck ∧
        (answerOf request.client turn).type ≠ typeNak := by
    rw [silent]
    rcases served.stage with state | state | state
    · exact .inl ⟨state, by decide⟩
    · exact .inr ⟨state, by decide, by decide⟩
    · exact absurd state unbound
  refine ⟨(answerOf request.client turn).type, ?_⟩
  rw [Server.serve, turn_ignored (served.running unbound) waits rfl inTime, giveUp_prompt prompt,
    Request.hear, same]

theorem Served.offered (served : Served server request) (state : request.client.state = .discover)
    (calm : Calm request (.answer turn)) :
    Served server (server.serve request (.answer turn)) ∧
      (server.serve request (.answer turn)).client.state = .request := by
  have progress := served.progress
  rw [Progress, state] at progress
  obtain ⟨awaiting, blank⟩ := progress
  obtain ⟨final, answered, understood⟩ := awaiting.answered turn
  have running := served.running (state ▸ State.noConfusion)
  have prompt : ({ turn with arrival := server.arrival request } : Turn).checkTime ≤ timeout := calm
  have granted := understood.granted (.inl blank)
  have next : server.serve request (.answer turn) = _ :=
    (turn_offer running state answered understood.typed).trans (giveUp_prompt prompt _)
  rw [next]
  constructor
  · constructor
    · rw [← next]
      exact served.turn_fresh _
    · exact served.inside
    · constructor
      · constructor
        · exact ⟨_, ((request.hear _).number _).client, _, rfl, rfl, rfl, fun _ => granted.localIp⟩
        · constructor
          · exact understood.session.initial ▸ awaiting.window.1
          · exact UInt32.le_refl _
      · exact { granted with }
  · rfl

theorem Served.acknowledged (served : Served server request)
    (state : request.client.state = .request) (calm : Calm request (.answer turn)) :
    Served server (server.serve request (.answer turn)) ∧
      (server.serve request (.answer turn)).client.state = .leased := by
  have progress := served.progress
  rw [Progress, state] at progress
  obtain ⟨awaiting, granted⟩ := progress
  obtain ⟨final, answered, understood⟩ := awaiting.answered turn
  have running := served.running (state ▸ State.noConfusion)
  have prompt : ({ turn with arrival := server.arrival request } : Turn).checkTime ≤ timeout := calm
  have next : server.serve request (.answer turn) = _ :=
    (turn_ack running state answered understood.typed).trans (giveUp_prompt prompt _)
  rw [next]
  constructor
  · constructor
    · rw [← next]
      exact served.turn_fresh _
    · exact served.inside
    · exact ⟨final.client, understood.granted (.inr granted), rfl⟩
  · rfl

/-- One delivery of a calm network. -/
theorem Served.step (served : Served server request) {delivery : Delivery}
    (calm : Calm request delivery) :
    Served server (server.serve request delivery) ∧
      need (server.serve request delivery).client.state ≤
        need request.client.state - (if delivery.isAnswer then 1 else 0) := by
  by_cases leased : request.client.state = .leased
  · rw [serve_leased leased, leased]
    exact ⟨served, Nat.zero_le _⟩
  · cases delivery with
    | other turn =>
        obtain ⟨messageType, next⟩ := served.other leased calm
        have fresh := served.turn_fresh turn
        rw [show request.turn turn = server.serve request (.other turn) from rfl, next] at fresh
        rw [next]
        exact ⟨⟨fresh, served.inside, served.progress⟩, Nat.le_refl _⟩
    | answer turn =>
        rcases served.stage with state | state | state
        · obtain ⟨next, moved⟩ := served.offered state calm
          rw [moved, state]
          exact ⟨next, Nat.le_refl _⟩
        · obtain ⟨next, moved⟩ := served.acknowledged state calm
          rw [moved, state]
          exact ⟨next, Nat.le_refl _⟩
        · exact absurd state leased

theorem served_first (server : Server) (dhcp : Client) (mac : Fin 6 → UInt8) {first : Turn}
    (prompt : first.checkTime ≤ timeout) :
    Served server ((requestLease (beginWithDHCP dhcp mac)).turn first) ∧
      ((requestLease (beginWithDHCP dhcp mac)).turn first).client.state = .discover := by
  have fresh := fresh_requestLease dhcp mac
  have next : (requestLease (beginWithDHCP dhcp mac)).turn first = _ :=
    giveUp_prompt prompt (((requestLease (beginWithDHCP dhcp mac)).number 2).send .discover
      first |>.enter .discover)
  rw [next]
  constructor
  · constructor
    · rw [← next]
      exact (fresh.turns first).fresh fresh
    · rfl
    · constructor
      · constructor
        · exact ⟨[], ((requestLease (beginWithDHCP dhcp mac)).number 2).client, _, rfl, rfl, rfl,
            MessageType.noConfusion⟩
        · exact ⟨(by decide : firstTransactionId ≤ 2), UInt32.le_refl _⟩
      · exact ⟨rfl, rfl, rfl, rfl, rfl, rfl, rfl⟩
  · rfl

/-! ### The lease -/

/-- What Ethernet_begin_mac takes over. -/
def leaseOf (request : Request) : Option EthernetSettings.Lease :=
  if request.result = 1 then
    some ⟨request.client.localIp, request.client.gatewayIp, request.client.subnetMask⟩
  else none

/-- Whatever else is on the network, and however the server writes its options, a
discovery and two answers in time bring the client and the chip to what the server
gives. -/
theorem serve_leases (server : Server) (dhcp : Client) (mac : Fin 6 → UInt8) {first : Turn}
    (prompt : first.checkTime ≤ timeout) {deliveries : List Delivery}
    (calm : Meets server.serve Calm ((requestLease (beginWithDHCP dhcp mac)).turn first) deliveries)
    (twice : 2 ≤ deliveries.countP Delivery.isAnswer) (ethernet : EthernetSettings.Ethernet)
    (socket : SocketTable.EthernetUDP) :
    let final := run server.serve ((requestLease (beginWithDHCP dhcp mac)).turn first) deliveries
    let after := EthernetSettings.endMac ethernet socket (leaseOf final)
    final.result = 1 ∧ after.sipr = server.grant ∧
      after.gar = server.said Tag.routersOnSubnet addressOf noAddress ∧
      after.subr = server.said Tag.subnetMask addressOf noAddress ∧
      final.client.dnsServerIp = server.said Tag.dns addressOf noAddress ∧
      final.client.leaseTime =
        if server.said Tag.ipAddrLeaseTime wordOf 0 = 0 then defaultLease
        else server.said Tag.ipAddrLeaseTime wordOf 0 := by
  intro final after
  obtain ⟨served, discovering⟩ := served_first server dhcp mac prompt
  have preserved (request : Request) (delivery : Delivery) (served : Served server request)
      (calm : Calm request delivery) : Served server (server.serve request delivery) :=
    (served.step calm).1
  have falls := @Meets.potential_run_le _ _ _ _ _ (fun _ => Delivery.isAnswer)
    (fun request : Request => need request.client.state) preserved
    (fun request delivery served calm => (served.step calm).2) _ _ calm served
  rw [counted_event] at falls
  have reached := calm.invariant preserved served
  have leased : final.client.state = .leased := by
    have spent : need final.client.state ≤ need State.discover - deliveries.countP Delivery.isAnswer :=
      discovering ▸ falls
    have none : need final.client.state = 0 := by
      rw [need] at spent
      omega
    exact reached.leased_of_need none
  obtain ⟨granted, settings, final_eq⟩ := reached.lease leased
  have success : final.result = 1 := reached.fresh.exact.mpr leased
  have lease : leaseOf final = some ⟨server.grant,
      server.said Tag.routersOnSubnet addressOf noAddress,
      server.said Tag.subnetMask addressOf noAddress⟩ := by
    rw [leaseOf, if_pos success, final_eq, ← settings.localIp, ← settings.gatewayIp,
      ← settings.subnetMask]
    rfl
  refine ⟨success, ?_, ?_, ?_, ?_, ?_⟩
  · simp only [after, EthernetSettings.endMac, lease, Option.map_some, Option.getD_some]
  · simp only [after, EthernetSettings.endMac, lease, Option.map_some, Option.getD_some]
  · simp only [after, EthernetSettings.endMac, lease, Option.map_some, Option.getD_some]
  · rw [final_eq, ← settings.dnsServerIp]
    rfl
  · rw [final_eq, ← settings.leaseTime]
    rfl

/-- A server that says no more than the mask. -/
def plainServer : Server where
  address := ⟨fun _ => 1⟩
  grant := ⟨fun _ => 2⟩
  options := [⟨Tag.subnetMask, [255, 255, 0, 0]⟩]
  plain := List.forall_mem_singleton.mpr
    ⟨(by decide : Tag.subnetMask ≠ Tag.pad), (by decide : Tag.subnetMask ≠ Tag.finish), by decide⟩
  regular := List.forall_mem_singleton.mpr rfl
  untyped := List.forall_mem_singleton.mpr (by decide : Tag.subnetMask ≠ Tag.messageType)
  honest := List.forall_mem_singleton.mpr fun impossible =>
    absurd impossible (by decide : Tag.subnetMask ≠ Tag.serverIdentifier)

def promptTurn : Turn := ⟨0, 0, 0, fun _ => 0, none⟩

theorem plainServer_leases :
    let start := (requestLease (beginWithDHCP blankClient fun _ => 7)).turn promptTurn
    let final := run plainServer.serve start [.answer promptTurn, .answer promptTurn]
    let after := EthernetSettings.endMac EthernetSettings.powered ⟨0, 0⟩ (leaseOf final)
    final.result = 1 ∧ after.sipr = ⟨fun _ => 2⟩ ∧ after.gar = noAddress ∧
      after.subr = addressOf [255, 255, 0, 0] ∧ final.client.dnsServerIp = noAddress ∧
      final.client.leaseTime = 900 := by
  have prompt : promptTurn.checkTime ≤ timeout := UInt32.zero_le
  have calm : Meets plainServer.serve Calm
      ((requestLease (beginWithDHCP blankClient fun _ => 7)).turn promptTurn)
      [.answer promptTurn, .answer promptTurn] := ⟨prompt, prompt, trivial⟩
  exact serve_leases plainServer blankClient (fun _ => 7) prompt calm (Nat.le_refl 2)
    EthernetSettings.powered ⟨0, 0⟩

end MSniff.Concrete.Dhcp
