/-
DHCP_request_DHCP_lease of Dhcp.c. Each turn of its loop sends a message or waits for a
datagram; the clock, the network and the memory under its locals are not its own. Turn
by turn it is one party's side of a lease exchange.
-/

import MSniff.EventRun
import MSniff.LeaseExchange
import MSniff.Concrete.DhcpServer

namespace MSniff.Concrete.Dhcp

open ByteOrder EthernetTask EventRun LeaseExchange Receive TagLengthValue

def random : UInt32 := 0xdead
def timeout : UInt32 := 60000
def noAnswer : UInt8 := 255
def defaultLease : UInt32 := 900

/-- The number that DHCP_request_DHCP_lease picks to begin with. -/
def firstTransactionId : UInt32 := 1 + random * (2000 - 1) / 0x7FFFFFFF

/-- A datagram that ends the wait, and the failures of recv while it is read.
parsePacket takes one without payload for none. -/
structure Arrival where
  datagram : Inbound
  hiccups : List Bool
  nonempty : datagram.payload ≠ []

def Arrival.input (arrival : Arrival) : Input := ⟨arrival.datagram.payload, arrival.hiccups⟩

/-- What one turn meets: the time since the start, where it sends and where it looks
again, the locals' old contents, and what the wait ends with. -/
structure Turn where
  sendTime : UInt32
  checkTime : UInt32
  respId : UInt32
  fixedMsg : Nat → UInt8
  arrival : Option Arrival

structure Request where
  client : Client
  messageType : UInt8
  result : Int
  left : Bool
  calls : List UdpCall

/-- `dhcp` is the record as the caller's stack holds it. -/
def beginWithDHCP (dhcp : Client) (mac : Fin 6 → UInt8) : Client :=
  { dhcp with
    leaseTime := 0
    t1 := 0
    t2 := 0
    localIp := ⟨fun _ => 0⟩
    subnetMask := ⟨fun _ => 0⟩
    gatewayIp := ⟨fun _ => 0⟩
    dhcpServerIp := ⟨fun _ => 0⟩
    dnsServerIp := ⟨fun _ => 0⟩
    macAddr := mac
    state := .start }

def requestLease (client : Client) : Request where
  client :=
    { client with
      transactionId := firstTransactionId
      initialTransactionId := firstTransactionId }
  messageType := 0
  result := 0
  left := false
  calls := []

/-- DHCP_parseDHCPResponse; 255 is what it returns when the wait runs out. -/
def answerOf (client : Client) (turn : Turn) : Outcome :=
  match turn.arrival with
  | none => ⟨noAnswer, none, client, ⟨[], []⟩⟩
  | some arrival =>
      parseResponse turn.fixedMsg client arrival.datagram.source arrival.datagram.port.toNat
        arrival.input

def Request.send (request : Request) (messageType : MessageType) (turn : Turn) : Request :=
  { request with
    calls :=
      request.calls ++ sendMessage request.client messageType (turn.sendTime / 1000).toUInt16 }

def Request.enter (request : Request) (state : State) : Request :=
  { request with client := { request.client with state := state } }

def Request.number (request : Request) (transactionId : UInt32) : Request :=
  { request with client := { request.client with transactionId := transactionId } }

def Request.hear (request : Request) (answer : Outcome) : Request :=
  { request with client := answer.client, messageType := answer.type }

/-- What an acknowledgement leaves unsaid. -/
def settle (client : Client) : Client :=
  let leaseTime := if client.leaseTime = 0 then defaultLease else client.leaseTime
  let t1 := if client.t1 = 0 then leaseTime >>> 1 else client.t1
  let t2 := if client.t2 = 0 then t1 <<< 1 else client.t2
  { client with
    leaseTime := leaseTime
    t1 := t1
    t2 := t2
    renewInSec := t1.toInt32
    rebindInSec := t2.toInt32 }

def Request.branch (request : Request) (turn : Turn) : Request :=
  let answer := answerOf request.client turn
  match request.client.state with
  | .start =>
      ((request.number (request.client.transactionId + 1)).send .discover turn).enter .discover
  | .rerequest =>
      ((request.number (request.client.transactionId + 1)).send .request turn).enter .request
  | .discover =>
      if answer.type = typeOffer then
        (((request.hear answer).number (answer.transactionId.getD turn.respId)).send .request
          turn).enter .request
      else request.hear answer
  | .request =>
      if answer.type = typeAck then
        { request.hear answer with
          client := { settle answer.client with state := .leased }
          result := 1 }
      else if answer.type = typeNak then (request.hear answer).enter .start
      else request.hear answer
  | .leased => request
  | .release => request

def Request.restart (request : Request) : Request :=
  if request.messageType = noAnswer then { request.enter .start with messageType := 0 } else request

def Request.giveUp (request : Request) (turn : Turn) : Request :=
  if request.result ≠ 1 ∧ timeout < turn.checkTime then { request with left := true } else request

/-- The loop's condition and its body. -/
def Request.turn (request : Request) (turn : Turn) : Request :=
  if request.left ∨ request.client.state = .leased then request
  else (request.branch turn).restart.giveUp turn

/-- The record when the loop has been left. -/
def Request.close (request : Request) : Client :=
  { request.client with transactionId := request.client.transactionId + 1 }

/-! ### The exchange behind it -/

def phaseOf (client : Client) : Phase UInt32 IPAddress :=
  match client.state with
  | .start => .idle
  | .discover => .selecting client.transactionId
  | .request => .requesting client.transactionId
  | .leased => .bound client.localIp
  | .rerequest => .idle
  | .release => .idle

def waiting (accepted : Action UInt32 IPAddress) (type : UInt8) (answer : Outcome) :
    Action UInt32 IPAddress :=
  if answer.type = type then accepted
  else if answer.type = noAnswer then .restart
  else .ignore

def actionOf (request : Request) (turn : Turn) : Action UInt32 IPAddress :=
  let answer := answerOf request.client turn
  let xid := answer.transactionId.getD turn.respId
  if request.left ∨ request.client.state = .leased then .ignore
  else
    match request.client.state with
    | .start => .discover (request.client.transactionId + 1)
    | .discover => waiting (.request xid answer.client.localIp) typeOffer answer
    | .request =>
        if answer.type = typeNak then .restart
        else waiting (.bind xid answer.client.localIp) typeAck answer
    | .rerequest => .ignore
    | .leased => .ignore
    | .release => .ignore

def actions (request : Request) : List Turn → List (Action UInt32 IPAddress)
  | [] => []
  | turn :: rest => actionOf request turn :: actions (request.turn turn) rest

/-- Runs that begin with a discovery keep to its states. -/
structure Request.Fresh (request : Request) : Prop where
  initial : request.client.initialTransactionId = firstTransactionId
  renews : request.client.state ≠ .rerequest
  releases : request.client.state ≠ .release
  quiet : request.messageType ≠ noAnswer
  exact : request.result = 1 ↔ request.client.state = .leased

/-! ### What was heard -/

variable {client : Client} {request : Request} {turn : Turn} {xid : UInt32} {address : IPAddress}

/-- A message from a server to this client, in the window, with this number and address. -/
def Heard (client : Client) (turn : Turn) (xid : UInt32) (address : IPAddress) : Prop :=
  ∃ arrival, turn.arrival = some arrival ∧
    Acceptable client arrival.datagram.port.toNat
      (writeBuffer turn.fixedMsg (arrival.input.readBuf fixedSize).1) ∧
    transactionIdOf (writeBuffer turn.fixedMsg (arrival.input.readBuf fixedSize).1) = xid ∧
    yiaddrOf (writeBuffer turn.fixedMsg (arrival.input.readBuf fixedSize).1) = address

theorem answerOf_none (arrived : turn.arrival = none) :
    answerOf client turn = ⟨noAnswer, none, client, ⟨[], []⟩⟩ := by
  rw [answerOf, arrived]

theorem answerOf_some {arrival : Arrival} (arrived : turn.arrival = some arrival) :
    answerOf client turn =
      parseResponse turn.fixedMsg client arrival.datagram.source arrival.datagram.port.toNat
        arrival.input := by
  rw [answerOf, arrived]

theorem answerOf_session (client : Client) (turn : Turn) :
    SameSession client (answerOf client turn).client := by
  cases arrived : turn.arrival with
  | none =>
      rw [answerOf_none arrived]
      exact .refl client
  | some arrival =>
      rw [answerOf_some arrived]
      exact (parseResponse_confined _ _ _ _ _).session

theorem answerOf_heard (spoken : (answerOf client turn).type ≠ 0)
    (inTime : (answerOf client turn).type ≠ noAnswer) :
    Heard client turn ((answerOf client turn).transactionId.getD turn.respId)
      (answerOf client turn).client.localIp := by
  cases arrived : turn.arrival with
  | none =>
      rw [answerOf_none arrived] at inTime
      exact absurd rfl inTime
  | some arrival =>
      rw [answerOf_some arrived] at *
      have confined := parseResponse_confined turn.fixedMsg client arrival.datagram.source
        arrival.datagram.port.toNat arrival.input
      have acceptable := not_not.mp fun foreign => spoken (confined.ignored foreign).2
      obtain ⟨number, address⟩ := confined.accepted acceptable
      refine ⟨arrival, arrived, acceptable, ?_, address.symm⟩
      rw [number, Option.getD_some]

theorem Heard.window (heard : Heard client turn xid address) : InWindow client xid := by
  obtain ⟨arrival, _, acceptable, rfl, _⟩ := heard
  have mine := acceptable.2
  unfold foreign at mine
  simp only [not_or, UInt32.not_lt] at mine
  exact mine.2

/-! ### One turn -/

@[simp] theorem giveUp_client (request : Request) (turn : Turn) :
    (request.giveUp turn).client = request.client := by
  unfold Request.giveUp
  split
  · rfl
  · rfl

theorem restart_of_quiet (quiet : request.messageType ≠ noAnswer) : request.restart = request :=
  if_neg quiet

theorem turn_eq (running : ¬ (request.left ∨ request.client.state = .leased)) (turn : Turn) :
    request.turn turn = (request.branch turn).restart.giveUp turn := if_neg running

theorem turn_of_stopped (stopped : request.left ∨ request.client.state = .leased) (turn : Turn) :
    request.turn turn = request := if_pos stopped

/-- All that a turn can do, with its action in the exchange. -/
inductive Turns (request : Request) (turn : Turn) : Action UInt32 IPAddress → Request → Prop
  | stopped (stopped : request.left ∨ request.client.state = .leased) :
      Turns request turn .ignore request
  | discover (state : request.client.state = .start) :
      Turns request turn (.discover (request.client.transactionId + 1))
        ((((request.number (request.client.transactionId + 1)).send .discover turn).enter
          .discover).giveUp turn)
  | request {answer : Outcome} {xid : UInt32} (state : request.client.state = .discover)
      (answered : answerOf request.client turn = answer) (type : answer.type = typeOffer)
      (heard : Heard request.client turn xid answer.client.localIp) :
      Turns request turn (.request xid answer.client.localIp)
        (((((request.hear answer).number xid).send .request turn).enter .request).giveUp turn)
  | bind {answer : Outcome} {xid : UInt32} (state : request.client.state = .request)
      (answered : answerOf request.client turn = answer) (type : answer.type = typeAck)
      (heard : Heard request.client turn xid answer.client.localIp) :
      Turns request turn (.bind xid answer.client.localIp)
        ({ request.hear answer with
            client := { settle answer.client with state := .leased }
            result := 1 }.giveUp turn)
  | refused {answer : Outcome} (state : request.client.state = .request)
      (answered : answerOf request.client turn = answer) (type : answer.type = typeNak) :
      Turns request turn .restart (((request.hear answer).enter .start).giveUp turn)
  | unanswered {answer : Outcome}
      (state : request.client.state = .discover ∨ request.client.state = .request)
      (answered : answerOf request.client turn = answer) (type : answer.type = noAnswer) :
      Turns request turn .restart
        ({ (request.hear answer).enter .start with messageType := 0 }.giveUp turn)
  | ignored {answer : Outcome}
      (state : request.client.state = .discover ∨ request.client.state = .request)
      (answered : answerOf request.client turn = answer) (inTime : answer.type ≠ noAnswer)
      (offers : request.client.state = .discover → answer.type ≠ typeOffer) :
      Turns request turn .ignore ((request.hear answer).giveUp turn)

theorem answerOf_typed {type : UInt8} (typed : (answerOf client turn).type = type) (spoken : type ≠ 0)
    (inTime : type ≠ noAnswer) :
    Heard client turn ((answerOf client turn).transactionId.getD turn.respId)
      (answerOf client turn).client.localIp := by
  subst typed
  exact answerOf_heard spoken inTime

theorem turn_offer {answer : Outcome} (running : ¬ (request.left ∨ request.client.state = .leased))
    (state : request.client.state = .discover) (answered : answerOf request.client turn = answer)
    (offered : answer.type = typeOffer) :
    request.turn turn =
      ((((request.hear answer).number (answer.transactionId.getD turn.respId)).send .request
        turn).enter .request).giveUp turn := by
  have inTime : answer.type ≠ noAnswer := ne_of_eq_of_ne offered (by decide)
  rw [turn_eq running]
  simp only [Request.branch, state, answered]
  rw [if_pos offered, restart_of_quiet (by exact inTime)]

theorem turn_ack {answer : Outcome} (running : ¬ (request.left ∨ request.client.state = .leased))
    (state : request.client.state = .request) (answered : answerOf request.client turn = answer)
    (acknowledged : answer.type = typeAck) :
    request.turn turn =
      { request.hear answer with
        client := { settle answer.client with state := .leased }
        result := 1 }.giveUp turn := by
  have inTime : answer.type ≠ noAnswer := ne_of_eq_of_ne acknowledged (by decide)
  rw [turn_eq running]
  simp only [Request.branch, state, answered]
  rw [if_pos acknowledged, restart_of_quiet (by exact inTime)]

theorem turn_ignored {answer : Outcome} (running : ¬ (request.left ∨ request.client.state = .leased))
    (state : request.client.state = .discover ∧ answer.type ≠ typeOffer ∨
      request.client.state = .request ∧ answer.type ≠ typeAck ∧ answer.type ≠ typeNak)
    (answered : answerOf request.client turn = answer) (inTime : answer.type ≠ noAnswer) :
    request.turn turn = (request.hear answer).giveUp turn := by
  rw [turn_eq running]
  rcases state with ⟨state, notOffer⟩ | ⟨state, notAck, notNak⟩
  · simp only [Request.branch, state, answered]
    rw [if_neg notOffer, restart_of_quiet (by exact inTime)]
  · simp only [Request.branch, state, answered]
    rw [if_neg notAck, if_neg notNak, restart_of_quiet (by exact inTime)]

theorem turns_discover (running : ¬ (request.left ∨ request.client.state = .leased))
    (state : request.client.state = .discover) :
    Turns request turn (actionOf request turn) (request.turn turn) := by
  by_cases offered : (answerOf request.client turn).type = typeOffer
  · have heard := answerOf_typed offered (by decide) (by decide)
    rw [turn_offer running state rfl offered, actionOf, if_neg running]
    simp only [state, waiting]
    rw [if_pos offered]
    exact .request state rfl offered heard
  · by_cases late : (answerOf request.client turn).type = noAnswer
    · rw [turn_eq running, actionOf, if_neg running]
      simp only [Request.branch, state, waiting]
      rw [if_neg offered, if_neg offered, if_pos late, Request.restart, if_pos (by exact late)]
      exact .unanswered (.inl state) rfl late
    · rw [turn_ignored running (.inl ⟨state, offered⟩) rfl late, actionOf, if_neg running]
      simp only [state, waiting]
      rw [if_neg offered, if_neg late]
      exact .ignored (.inl state) rfl late fun _ => offered

theorem turns_request (running : ¬ (request.left ∨ request.client.state = .leased))
    (state : request.client.state = .request) :
    Turns request turn (actionOf request turn) (request.turn turn) := by
  by_cases acknowledged : (answerOf request.client turn).type = typeAck
  · have heard := answerOf_typed acknowledged (by decide) (by decide)
    have notNak : (answerOf request.client turn).type ≠ typeNak :=
      ne_of_eq_of_ne acknowledged (by decide)
    rw [turn_ack running state rfl acknowledged, actionOf, if_neg running]
    simp only [state, waiting]
    rw [if_neg notNak, if_pos acknowledged]
    exact .bind state rfl acknowledged heard
  · by_cases refused : (answerOf request.client turn).type = typeNak
    · have inTime : (answerOf request.client turn).type ≠ noAnswer :=
        ne_of_eq_of_ne refused (by decide)
      rw [turn_eq running, actionOf, if_neg running]
      simp only [Request.branch, state]
      rw [if_neg acknowledged, if_pos refused, if_pos refused, restart_of_quiet (by exact inTime)]
      exact .refused state rfl refused
    · by_cases late : (answerOf request.client turn).type = noAnswer
      · rw [turn_eq running, actionOf, if_neg running]
        simp only [Request.branch, state, waiting]
        rw [if_neg acknowledged, if_neg refused, if_neg refused, if_neg acknowledged, if_pos late,
          Request.restart, if_pos (by exact late)]
        exact .unanswered (.inr state) rfl late
      · have waits : request.client.state ≠ .discover := by
          rw [state]
          exact State.noConfusion
        rw [turn_ignored running (.inr ⟨state, acknowledged, refused⟩) rfl late, actionOf,
          if_neg running]
        simp only [state, waiting]
        rw [if_neg refused, if_neg acknowledged, if_neg late]
        exact .ignored (.inr state) rfl late fun discovers => absurd discovers waits

theorem Request.Fresh.turns (fresh : request.Fresh) (turn : Turn) :
    Turns request turn (actionOf request turn) (request.turn turn) := by
  by_cases stopped : request.left ∨ request.client.state = .leased
  · rw [turn_of_stopped stopped, actionOf, if_pos stopped]
    exact .stopped stopped
  · cases state : request.client.state with
    | rerequest => exact absurd state fresh.renews
    | release => exact absurd state fresh.releases
    | leased => exact absurd (.inr state) stopped
    | discover => exact turns_discover stopped state
    | request => exact turns_request stopped state
    | start =>
        rw [turn_eq stopped, actionOf, if_neg stopped]
        simp only [Request.branch, state]
        rw [restart_of_quiet (by exact fresh.quiet)]
        exact .discover state

theorem giveUp_messageType (request : Request) (turn : Turn) :
    (request.giveUp turn).messageType = request.messageType := by
  unfold Request.giveUp
  split
  · rfl
  · rfl

theorem giveUp_result (request : Request) (turn : Turn) :
    (request.giveUp turn).result = request.result := by
  unfold Request.giveUp
  split
  · rfl
  · rfl

theorem giveUp_calls (request : Request) (turn : Turn) :
    (request.giveUp turn).calls = request.calls := by
  unfold Request.giveUp
  split
  · rfl
  · rfl

theorem Request.Fresh.giveUp (fresh : request.Fresh) (turn : Turn) : (request.giveUp turn).Fresh := by
  constructor
  · rw [giveUp_client]
    exact fresh.initial
  · rw [giveUp_client]
    exact fresh.renews
  · rw [giveUp_client]
    exact fresh.releases
  · rw [giveUp_messageType]
    exact fresh.quiet
  · rw [giveUp_result, giveUp_client]
    exact fresh.exact

/-- The states between a lease that is asked for and one that is given. -/
def Asking (state : State) : Prop := state = .start ∨ state = .discover ∨ state = .request

theorem Asking.notLeased {state : State} (asking : Asking state) : state ≠ .leased := by
  rcases asking with rfl | rfl | rfl
  · exact State.noConfusion
  · exact State.noConfusion
  · exact State.noConfusion

theorem Request.Fresh.asks {after : Request} (fresh : request.Fresh)
    (running : request.client.state ≠ .leased)
    (initial : after.client.initialTransactionId = request.client.initialTransactionId)
    (result : after.result = request.result) (quiet : after.messageType ≠ noAnswer)
    (asking : Asking after.client.state) : after.Fresh := by
  constructor
  · exact initial.trans fresh.initial
  · rcases asking with state | state | state
    · simp only [state, ne_eq, reduceCtorEq, not_false_eq_true]
    · simp only [state, ne_eq, reduceCtorEq, not_false_eq_true]
    · simp only [state, ne_eq, reduceCtorEq, not_false_eq_true]
  · rcases asking with state | state | state
    · simp only [state, ne_eq, reduceCtorEq, not_false_eq_true]
    · simp only [state, ne_eq, reduceCtorEq, not_false_eq_true]
    · simp only [state, ne_eq, reduceCtorEq, not_false_eq_true]
  · exact quiet
  · rw [result, fresh.exact]
    exact iff_of_false running asking.notLeased

theorem Turns.fresh {action : Action UInt32 IPAddress} {next : Request}
    (turns : Turns request turn action next) (fresh : request.Fresh) : next.Fresh := by
  have session := answerOf_session request.client turn
  have waits (state : request.client.state = .discover ∨ request.client.state = .request) :
      Asking request.client.state := .inr state
  cases turns with
  | stopped stopped => exact fresh
  | discover state =>
      apply Request.Fresh.giveUp
      have asking : Asking request.client.state := .inl state
      exact fresh.asks asking.notLeased rfl rfl fresh.quiet (.inr (.inl rfl))
  | request state answered type heard =>
      apply Request.Fresh.giveUp
      rw [answered] at session
      refine fresh.asks (waits (.inl state)).notLeased session.initial rfl ?_ (.inr (.inr rfl))
      exact ne_of_eq_of_ne type (by decide : typeOffer ≠ noAnswer)
  | bind state answered type heard =>
      apply Request.Fresh.giveUp
      rw [answered] at session
      constructor
      · exact session.initial.trans fresh.initial
      · exact State.noConfusion
      · exact State.noConfusion
      · exact ne_of_eq_of_ne type (by decide : typeAck ≠ noAnswer)
      · exact iff_of_true rfl rfl
  | refused state answered type =>
      apply Request.Fresh.giveUp
      rw [answered] at session
      refine fresh.asks (waits (.inr state)).notLeased session.initial rfl ?_ (.inl rfl)
      exact ne_of_eq_of_ne type (by decide : typeNak ≠ noAnswer)
  | unanswered state answered type =>
      apply Request.Fresh.giveUp
      rw [answered] at session
      exact fresh.asks (waits state).notLeased session.initial rfl
        (by decide : (0 : UInt8) ≠ noAnswer) (.inl rfl)
  | @ignored answer state answered inTime offers =>
      apply Request.Fresh.giveUp
      rw [answered] at session
      have same : (request.hear answer).client.state = request.client.state := session.state
      refine fresh.asks (waits state).notLeased session.initial rfl inTime ?_
      rw [same]
      exact waits state

theorem SameSession.phase {before after : Client} (session : SameSession before after)
    (unbound : before.state ≠ .leased) : phaseOf after = phaseOf before := by
  unfold phaseOf
  rw [session.state, session.current]
  cases state : before.state with
  | leased => exact absurd state unbound
  | _ => rfl

/-- Each turn is a step of the exchange. -/
theorem Turns.step {action : Action UInt32 IPAddress} {next : Request}
    (turns : Turns request turn action next) (fresh : request.Fresh) :
    Step firstTransactionId (phaseOf request.client) action (phaseOf next.client) := by
  have session := answerOf_session request.client turn
  cases turns with
  | stopped stopped => exact .ignore _
  | discover state =>
      rw [giveUp_client, phaseOf, state]
      exact .discover _
  | request state answered type heard =>
      have window := heard.window
      rw [giveUp_client, phaseOf, state]
      apply Step.request
      · rw [← fresh.initial]
        exact window.1
      · exact window.2
  | bind state answered type heard =>
      have window := heard.window
      rw [giveUp_client, phaseOf, state]
      apply Step.bind
      · rw [← fresh.initial]
        exact window.1
      · exact window.2
  | refused state answered type =>
      rw [giveUp_client, phaseOf, state]
      exact .refused _
  | unanswered state answered type =>
      rw [giveUp_client]
      rcases state with state | state
      · rw [phaseOf, state]
        exact .unanswered _
      · rw [phaseOf, state]
        exact .refused _
  | @ignored answer state answered inTime offers =>
      have waits : Asking request.client.state := .inr state
      have after : phaseOf (request.hear answer).client = phaseOf request.client := by
        rw [← answered]
        exact session.phase waits.notLeased
      rw [giveUp_client, after]
      exact .ignore _

/-! ### The exchange in datagrams -/

/-- One broadcast that a server reads as a message of this type and number from this
client, with these options among others. -/
def Sends (before after : Request) (messageType : MessageType) (xid : UInt32) (said : List Item) :
    Prop :=
  ∃ calls datagram message, after.calls = before.calls ++ calls ∧ datagrams calls = [datagram] ∧
    datagram.address = ⟨fun _ => 255⟩ ∧ datagram.port = serverPort ∧
    decodeMessage datagram.payload = some message ∧ message.xid = bigEndian xid ∧
    message.chaddr = chaddr before.client ∧
    ∀ item ∈ ⟨Tag.messageType, [messageType.code]⟩ :: said, item ∈ message.options

/-- What each action of the exchange hands to the UDP layer. -/
def Explained (request : Request) (turn : Turn) (after : Request) : Action UInt32 IPAddress → Prop
  | .discover xid => Sends request after .discover xid []
  | .request xid address =>
      Heard request.client turn xid address ∧ (answerOf request.client turn).type = typeOffer ∧
        Sends request after .request xid
          [⟨Tag.requestedIPaddr, addressBytes address⟩,
            ⟨Tag.serverIdentifier, addressBytes after.client.dhcpServerIp⟩]
  | .bind xid address =>
      Heard request.client turn xid address ∧ (answerOf request.client turn).type = typeAck ∧
        after.calls = request.calls
  | .restart => after.calls = request.calls
  | .ignore => after.calls = request.calls

theorem sends_of_calls {before after : Request} (record : Client) {messageType : MessageType}
    {seconds : UInt16} {said : List Item} (same : record.macAddr = before.client.macAddr)
    (said_mem : ∀ item ∈ said, item ∈ requestItems record messageType)
    (calls : after.calls = before.calls ++ sendMessage record messageType seconds) :
    Sends before after messageType record.transactionId said := by
  refine ⟨_, _, messageOf record messageType seconds, calls,
    datagrams_sendMessage record messageType seconds, rfl, rfl,
    decodeMessage_sentBytes record messageType seconds, rfl, ?_, ?_⟩
  · rw [chaddr, ← same]
    rfl
  · rw [List.forall_mem_cons]
    constructor
    · exact List.mem_cons_self
    · intro item member
      have included := said_mem item member
      simp only [messageOf, items, List.mem_append]
      exact .inl (.inr included)

theorem Turns.explained {action : Action UInt32 IPAddress} {next : Request}
    (turns : Turns request turn action next) : Explained request turn next action := by
  have session := answerOf_session request.client turn
  cases turns with
  | stopped stopped => rfl
  | discover state =>
      have calls := giveUp_calls (((request.number (request.client.transactionId + 1)).send
        .discover turn).enter .discover) turn
      exact sends_of_calls (request.number (request.client.transactionId + 1)).client rfl
        (List.forall_mem_nil _) calls
  | @request answer xid state answered type heard =>
      rw [answered] at session
      have calls := giveUp_calls ((((request.hear answer).number xid).send .request turn).enter
        .request) turn
      refine ⟨heard, answered ▸ type, ?_⟩
      rw [giveUp_client]
      exact sends_of_calls ((request.hear answer).number xid).client session.hardware
        (fun _ member => member) calls
  | bind state answered type heard =>
      exact ⟨heard, answered ▸ type, giveUp_calls _ _⟩
  | refused state answered type => exact giveUp_calls _ _
  | unanswered state answered type => exact giveUp_calls _ _
  | ignored state answered inTime offers => exact giveUp_calls _ _

/-! ### Whole runs -/

theorem fresh_requestLease (dhcp : Client) (mac : Fin 6 → UInt8) :
    (requestLease (beginWithDHCP dhcp mac)).Fresh where
  initial := rfl
  renews := State.noConfusion
  releases := State.noConfusion
  quiet := (by decide : (0 : UInt8) ≠ noAnswer)
  exact := iff_of_false (by decide : ¬ (0 : Int) = 1) State.noConfusion

theorem trace_actions (fresh : request.Fresh) {earlier : List (Action UInt32 IPAddress)}
    (trace : Trace firstTransactionId earlier (phaseOf request.client)) (turns : List Turn) :
    Trace firstTransactionId (earlier ++ actions request turns)
      (phaseOf (run Request.turn request turns).client) := by
  induction turns generalizing request earlier with
  | nil =>
      rw [actions, List.append_nil]
      exact trace
  | cons turn rest ih =>
      have next := fresh.turns turn
      have longer := ih (next.fresh fresh) (trace.step (next.step fresh))
      rw [List.append_assoc] at longer
      exact longer

/-- In every run, whatever the clock, the network and other hosts do, each turn hands to
the UDP layer what it is in the exchange, what the client has come to was preceded by all
that must precede it, and a lease is reported exactly when it has come to one. -/
theorem run_exchange (dhcp : Client) (mac : Fin 6 → UInt8) (turns : List Turn) :
    let start := requestLease (beginWithDHCP dhcp mac)
    let final := run Request.turn start turns
    Meets Request.turn
        (fun request turn => Explained request turn (request.turn turn) (actionOf request turn))
        start turns ∧
      Preceded firstTransactionId (actions start turns) (phaseOf final.client) ∧
      (final.result = 1 ↔ final.client.state = .leased) := by
  intro start final
  have fresh : start.Fresh := fresh_requestLease dhcp mac
  have preserved (request : Request) (turn : Turn) (fresh : request.Fresh) (_ : True) :
      (request.turn turn).Fresh := (fresh.turns turn).fresh fresh
  have free : Meets Request.turn (fun _ _ => True) start turns :=
    (meets_forall_iff _ (fun _ => True) _ _).mpr fun _ _ => trivial
  constructor
  · exact free.safe preserved (fun request turn fresh _ => (fresh.turns turn).explained) fresh
  constructor
  · exact (trace_actions fresh .start turns).preceded
  · exact (free.invariant preserved fresh).exact

/-! ### The server that requests name -/

theorem answerOf_stranger
    (strange : ∀ arrival, turn.arrival = some arrival → ¬ knowsServer client arrival.datagram.source) :
    (answerOf client turn).client.dhcpServerIp = client.dhcpServerIp := by
  cases arrived : turn.arrival with
  | none => rw [answerOf_none arrived]
  | some arrival =>
      rw [answerOf_some arrived]
      exact parseResponse_stranger (strange arrival arrived)

theorem Turns.stranger {action : Action UInt32 IPAddress} {next : Request}
    (turns : Turns request turn action next)
    (strange : ∀ arrival, turn.arrival = some arrival →
      ¬ knowsServer request.client arrival.datagram.source) :
    next.client.dhcpServerIp = request.client.dhcpServerIp := by
  have kept := answerOf_stranger strange
  cases turns with
  | stopped stopped => rfl
  | discover state => rw [giveUp_client]; rfl
  | request state answered type heard =>
      rw [giveUp_client, ← kept, answered]
      rfl
  | bind state answered type heard =>
      rw [giveUp_client, ← kept, answered]
      rfl
  | refused state answered type =>
      rw [giveUp_client, ← kept, answered]
      rfl
  | unanswered state answered type =>
      rw [giveUp_client, ← kept, answered]
      rfl
  | ignored state answered inTime offers =>
      rw [giveUp_client, ← kept, answered]
      rfl

/-- Nothing in this turn comes from there. -/
def Silent (address : IPAddress) (turn : Turn) : Prop :=
  ∀ arrival, turn.arrival = some arrival → arrival.datagram.source.dword ≠ address.dword

theorem Turns.keeps_server {action : Action UInt32 IPAddress} {next : Request} {server : IPAddress}
    (turns : Turns request turn action next) (known : server.dword ≠ 0)
    (names : request.client.dhcpServerIp = server) (silent : Silent server turn) :
    next.client.dhcpServerIp = server := by
  rw [turns.stranger, names]
  rintro arrival arrived (none | same)
  · rw [names] at none
    exact known none
  · rw [names] at same
    exact silent arrival arrived same.symm

/-- Once a server is known, only that server can change whom requests name: where
nothing comes from it, every request names it, whoever made the offer. -/
theorem run_names_server {server : IPAddress} (fresh : request.Fresh)
    (names : request.client.dhcpServerIp = server) (known : server.dword ≠ 0) {turns : List Turn}
    (silent : ∀ turn ∈ turns, Silent server turn) :
    Meets Request.turn
      (fun before turn => ∀ xid address, actionOf before turn = .request xid address →
        Sends before (before.turn turn) .request xid
          [⟨Tag.requestedIPaddr, addressBytes address⟩,
            ⟨Tag.serverIdentifier, addressBytes server⟩])
      request turns := by
  have meets : Meets Request.turn (fun _ turn => Silent server turn) request turns :=
    (meets_forall_iff _ (Silent server) _ _).mpr silent
  apply @Meets.safe _ _ _ _ _ (fun request => request.Fresh ∧ request.client.dhcpServerIp = server)
    ?_ ?_ _ _ meets ⟨fresh, names⟩
  · rintro before turn ⟨fresh, names⟩ silent
    have turns := fresh.turns turn
    exact ⟨turns.fresh fresh, turns.keeps_server known names silent⟩
  · rintro before turn ⟨fresh, names⟩ silent xid address requests
    have turns := fresh.turns turn
    have explained := turns.explained
    rw [requests, Explained, turns.keeps_server known names silent] at explained
    exact explained.2.2

/-- An offer of the address 9.9.9.9, from another host than the known server. -/
def strangeOffer : Turn where
  sendTime := 0
  checkTime := 0
  respId := 0
  fixedMsg := fun _ => 0
  arrival := some
    ⟨⟨⟨fun _ => 2⟩, 67,
      answer 2 ⟨fun _ => 9⟩ blankClient.macAddr [⟨Tag.messageType, [typeOffer]⟩]⟩, [],
      List.cons_ne_nil _ _⟩

/-- Back at the start, with the server of an earlier exchange. -/
def restarted : Request :=
  ⟨{ blankClient with transactionId := 1, dhcpServerIp := ⟨fun _ => 1⟩, state := .start }, 0, 0,
    false, []⟩

theorem fresh_restarted : restarted.Fresh where
  initial := rfl
  renews := State.noConfusion
  releases := State.noConfusion
  quiet := (by decide : (0 : UInt8) ≠ noAnswer)
  exact := iff_of_false (by decide : ¬ (0 : Int) = 1) State.noConfusion

theorem answerOf_strangeOffer (request : Request)
    (hardware : request.client.macAddr = blankClient.macAddr) (window : InWindow request.client 2) :
    answerOf request.client strangeOffer =
      ⟨typeOffer, some 2, { request.client with localIp := ⟨fun _ => 9⟩ }, ⟨[], []⟩⟩ := by
  have plain : ∀ item ∈ [(⟨Tag.messageType, [typeOffer]⟩ : Item)], item.Plain Tag.pad Tag.finish :=
    List.forall_mem_singleton.mpr ⟨(by decide : Tag.messageType ≠ Tag.pad),
      (by decide : Tag.messageType ≠ Tag.finish), by decide⟩
  have regular : ∀ item ∈ [(⟨Tag.messageType, [typeOffer]⟩ : Item)], Regular item :=
    List.forall_mem_singleton.mpr rfl
  have carries : Carries
      (answer 2 ⟨fun _ => 9⟩ blankClient.macAddr [⟨Tag.messageType, [typeOffer]⟩]) 2
      ⟨fun _ => 9⟩ request.client.macAddr [⟨Tag.messageType, [typeOffer]⟩] := by
    rw [hardware]
    exact answer_carries plain regular
  exact parseResponse_carries carries window (fun _ => 0) ⟨fun _ => 2⟩

/-- The client requests what the stranger has offered, and names the server it knows. -/
theorem strangeOffer_names_server :
    actions restarted [{ strangeOffer with arrival := none }, strangeOffer] =
        [.discover 2, .request 2 ⟨fun _ => 9⟩] ∧
      Meets Request.turn
        (fun before turn => ∀ xid address, actionOf before turn = .request xid address →
          Sends before (before.turn turn) .request xid
            [⟨Tag.requestedIPaddr, addressBytes address⟩,
              ⟨Tag.serverIdentifier, addressBytes ⟨fun _ => 1⟩⟩])
        restarted [{ strangeOffer with arrival := none }, strangeOffer] := by
  constructor
  · have window : InWindow (restarted.turn { strangeOffer with arrival := none }).client 2 :=
      ⟨(by decide : (1 : UInt32) ≤ 2), (by decide : (2 : UInt32) ≤ 2)⟩
    have answered := answerOf_strangeOffer _ rfl window
    simp only [actions, actionOf, answered]
    rfl
  · apply run_names_server fresh_restarted rfl
    · decide
    · rw [List.forall_mem_cons, List.forall_mem_singleton]
      constructor
      · exact nofun
      · rintro arrival arrived
        cases arrived
        decide

end MSniff.Concrete.Dhcp
