/-
DHCP_parseDHCPResponse of Dhcp.c, from the moment parsePacket has opened a datagram.
It reads byte by byte, and any of its reads may come back with nothing; what it does
then is part of it.
-/

import MSniff.Concrete.DatagramReader
import MSniff.Concrete.DhcpMessage

namespace MSniff.Concrete.Dhcp

open ByteOrder EthernetTask Receive TagLengthValue

/-! ### Reading -/

/-- What is left of the datagram, and which of the next calls of recv find nothing;
those behind the end of the list succeed. -/
structure Input where
  rest : List UInt8
  hiccups : List Bool

/-- How many more times recv can be called to any effect. -/
def Input.size (input : Input) : Nat := input.rest.length + input.hiccups.length

/-- EthernetUDP_read; `none` is -1. -/
def Input.read (input : Input) : Option UInt8 × Input :=
  match input.rest with
  | [] => (none, input)
  | first :: rest =>
      match input.hiccups with
      | true :: hiccups => (none, { input with hiccups := hiccups })
      | _ => (some first, ⟨rest, input.hiccups.tail⟩)

/-- EthernetUDP_read_buf, with the bytes it stores. -/
def Input.readBuf (input : Input) (len : Nat) : List UInt8 × Input :=
  match input.rest with
  | [] => ([], input)
  | _ :: _ =>
      match input.hiccups with
      | true :: hiccups => ([], { input with hiccups := hiccups })
      | _ => (input.rest.take len, ⟨input.rest.drop len, input.hiccups.tail⟩)

/-- A byte read into a `uint8_t`. -/
def Input.readByte (input : Input) : UInt8 × Input :=
  let (byte, input) := input.read
  (byte.getD 255, input)

def Input.skip (input : Input) : Nat → Input
  | 0 => input
  | count + 1 => input.read.2.skip count

/-- The cells of an address after a call that stored these bytes there. -/
def overwrite (address : IPAddress) (bytes : List UInt8) : IPAddress :=
  ⟨fun place => bytes.getD place (address.bytes place)⟩

/-- A word of the memory after a call that stored these bytes there. -/
def overwriteWord (word : UInt32) (bytes : List UInt8) : UInt32 :=
  ofLittleEndian (bytes.getD 0 word.toUInt8) (bytes.getD 1 (word >>> 8).toUInt8)
    (bytes.getD 2 (word >>> 16).toUInt8) (bytes.getD 3 (word >>> 24).toUInt8)

def ntohl (x : UInt32) : UInt32 := htonl x

/-! ### The options -/

/-- The record and the message type as far as they have been read. -/
structure Parse where
  client : Client
  type : UInt8

/-- The labels of the switch. -/
inductive Label
  | endOption
  | padOption
  | messageType
  | subnetMask
  | routersOnSubnet
  | dns
  | serverIdentifier
  | t1value
  | t2value
  | ipAddrLeaseTime
  | default
  deriving DecidableEq, Repr

def labelOf (code : UInt8) : Label :=
  if code = Tag.finish then .endOption
  else if code = Tag.pad then .padOption
  else if code = Tag.messageType then .messageType
  else if code = Tag.subnetMask then .subnetMask
  else if code = Tag.routersOnSubnet then .routersOnSubnet
  else if code = Tag.dns then .dns
  else if code = Tag.serverIdentifier then .serverIdentifier
  else if code = Tag.t1value then .t1value
  else if code = Tag.t2value then .t2value
  else if code = Tag.ipAddrLeaseTime then .ipAddrLeaseTime
  else .default

/-- Where a switch on what EthernetUDP_read returned goes. -/
def switch (code : Option UInt8) : Label := (code.map labelOf).getD .default

/-- The record is taken to know the server: it has none yet, or the sender's address. -/
def knowsServer (client : Client) (remoteIP : IPAddress) : Prop :=
  client.dhcpServerIp.dword = 0 ∨ client.dhcpServerIp.dword = remoteIP.dword

instance (client : Client) (remoteIP : IPAddress) : Decidable (knowsServer client remoteIP) :=
  inferInstanceAs (Decidable (_ ∨ _))

/-- One turn of the loop behind the byte it switches on. -/
def option (remoteIP : IPAddress) (parse : Parse) (input : Input) : Label → Parse × Input
  | .endOption => (parse, input)
  | .padOption => (parse, input)
  | .messageType =>
      let type := input.readByte.2.readByte
      ({ parse with type := type.1 }, type.2)
  | .subnetMask =>
      let read := input.readByte.2.readBuf 4
      ({ parse with
          client := { parse.client with subnetMask := overwrite parse.client.subnetMask read.1 } },
        read.2)
  | .routersOnSubnet =>
      let read := input.readByte.2.readBuf 4
      ({ parse with
          client := { parse.client with gatewayIp := overwrite parse.client.gatewayIp read.1 } },
        read.2.skip (input.readByte.1.toNat - 4))
  | .dns =>
      let read := input.readByte.2.readBuf 4
      ({ parse with
          client := { parse.client with dnsServerIp := overwrite parse.client.dnsServerIp read.1 } },
        read.2.skip (input.readByte.1.toNat - 4))
  | .serverIdentifier =>
      if knowsServer parse.client remoteIP then
        let read := input.readByte.2.readBuf 4
        ({ parse with
            client :=
              { parse.client with dhcpServerIp := overwrite parse.client.dhcpServerIp read.1 } },
          read.2)
      else (parse, input.readByte.2.skip input.readByte.1.toNat)
  | .t1value =>
      let read := input.readByte.2.readBuf 4
      ({ parse with
          client := { parse.client with t1 := ntohl (overwriteWord parse.client.t1 read.1) } },
        read.2)
  | .t2value =>
      let read := input.readByte.2.readBuf 4
      ({ parse with
          client := { parse.client with t2 := ntohl (overwriteWord parse.client.t2 read.1) } },
        read.2)
  | .ipAddrLeaseTime =>
      let read := input.readByte.2.readBuf 4
      let leaseTime := ntohl (overwriteWord parse.client.leaseTime read.1)
      ({ parse with
          client :=
            { parse.client with leaseTime := leaseTime, renewInSec := leaseTime.toInt32 } },
        read.2)
  | .default => (parse, input.readByte.2.skip input.readByte.1.toNat)

/-- The loop over the options. Each turn takes a byte or uses up a failure, so `fuel`
from the size of the input on does not cut it short. -/
def optionsLoop (remoteIP : IPAddress) : Nat → Parse → Input → Parse × Input
  | 0, parse, input => (parse, input)
  | fuel + 1, parse, input =>
      if input.rest = [] then (parse, input)
      else
        let turn := option remoteIP parse input.read.2 (switch input.read.1)
        optionsLoop remoteIP fuel turn.1 turn.2

/-! ### The response -/

/-- `transactionId` is what is stored through the pointer, where anything is. -/
structure Outcome where
  type : UInt8
  transactionId : Option UInt32
  client : Client
  input : Input

def Input.flush (input : Input) : Input := { input with rest := [] }

def fixedSize : Nat := 36

def transactionIdOf (fixedMsg : Nat → UInt8) : UInt32 :=
  ntohl (ofLittleEndian (fixedMsg 4) (fixedMsg 5) (fixedMsg 6) (fixedMsg 7))

def chaddrOf (fixedMsg : Nat → UInt8) : List UInt8 := List.ofFn fun place : Fin 6 => fixedMsg (28 + place)

def yiaddrOf (fixedMsg : Nat → UInt8) : IPAddress := ⟨fun place => fixedMsg (16 + place)⟩

def foreign (client : Client) (fixedMsg : Nat → UInt8) : Prop :=
  chaddrOf fixedMsg ≠ List.ofFn client.macAddr ∨
    transactionIdOf fixedMsg < client.initialTransactionId ∨
    client.transactionId < transactionIdOf fixedMsg

instance (client : Client) (fixedMsg : Nat → UInt8) : Decidable (foreign client fixedMsg) :=
  inferInstanceAs (Decidable (_ ∨ _ ∨ _))

def begun (client : Client) (fixedMsg : Nat → UInt8) : Parse :=
  ⟨{ client with localIp := yiaddrOf fixedMsg }, 0⟩

/-- `stack` is what the local message held before it was read. -/
def parseResponse (stack : Nat → UInt8) (client : Client) (remoteIP : IPAddress) (remotePort : Nat)
    (input : Input) : Outcome :=
  let read := input.readBuf fixedSize
  let fixedMsg := writeBuffer stack read.1
  if fixedMsg 0 = bootReply ∧ remotePort = serverPort then
    if foreign client fixedMsg then ⟨0, some (transactionIdOf fixedMsg), client, read.2.flush⟩
    else
      let skipped := read.2.skip (240 - fixedSize)
      let final := optionsLoop remoteIP skipped.size (begun client fixedMsg) skipped
      ⟨final.1.type, some (transactionIdOf fixedMsg), final.1.client, final.2.flush⟩
  else ⟨0, none, client, read.2.flush⟩

/-! ### The reader behind the input -/

/-- Whatever a read may come back with is a way in which the next call of recv may go. -/
theorem read_answered {reader next : Reader} {reply : Reply}
    (answers : reader.Answers .read reply next) (hiccups : List Bool) :
    ∃ before, (⟨reader.rest, before ++ hiccups⟩ : Input).read =
      (if reply.value < 0 then none else some (UInt8.ofNat reply.value.toNat),
        ⟨next.rest, hiccups⟩) := by
  cases answers with
  | @byte first rest found =>
      refine ⟨[false], ?_⟩
      have back : UInt8.ofNat (Int.toNat first.toNat) = first := UInt8.ofNat_toNat
      have known : ¬ (first.toNat : Int) < 0 := by omega
      simp only [Reader.reply, Reader.consume, found, Input.read, known, if_false, back]
      rfl
  | noByte =>
      cases found : reader.rest with
      | nil =>
          refine ⟨[], ?_⟩
          simp only [Input.read, Reader.reply, found]
          rfl
      | cons first rest =>
          refine ⟨[true], ?_⟩
          simp only [Input.read, Reader.reply, found]
          rfl

theorem readBuf_answered {reader next : Reader} {reply : Reply} {len : Nat}
    (answers : reader.Answers (.readBuf len) reply next) (hiccups : List Bool) :
    ∃ before, (⟨reader.rest, before ++ hiccups⟩ : Input).readBuf len =
      (reply.stored, ⟨next.rest, hiccups⟩) := by
  cases answers with
  | @bytes _ count positive exact =>
      refine ⟨[false], ?_⟩
      have taken : reader.rest.take count = reader.rest.take len := by
        rw [exact, List.take_eq_take_iff]
        omega
      have dropped : reader.rest.drop count = reader.rest.drop len := by
        rcases Nat.le_total len reader.rest.length with short | long
        · rw [exact, Nat.min_eq_left short]
        · rw [exact, Nat.min_eq_right long, List.drop_length, List.drop_of_length_le long]
      cases found : reader.rest with
      | nil =>
          rw [found, List.length_nil, Nat.min_zero] at exact
          exact absurd exact (Nat.ne_of_gt positive)
      | cons first rest =>
          simp only [Reader.reply, Reader.consume, taken, dropped, Input.readBuf, ← found]
          rw [found]
          rfl
  | noBytes =>
      cases found : reader.rest with
      | nil =>
          refine ⟨[], ?_⟩
          simp only [Input.readBuf, Reader.reply, found]
          rfl
      | cons first rest =>
          refine ⟨[true], ?_⟩
          simp only [Input.readBuf, Reader.reply, found]
          rfl

/-! ### The end of the loop -/

variable {remoteIP : IPAddress} {parse : Parse} {input : Input} {label : Label}

theorem read_size (input : Input) : input.read.2.size ≤ input.size := by
  unfold Input.read
  split
  · exact Nat.le_refl _
  · split
    · rename_i first rest content _ hiccups failures
      simp only [Input.size, failures, List.length_cons]
      omega
    · rename_i first rest content _ _
      simp only [Input.size, content, List.length_cons, List.length_tail]
      omega

theorem read_size_lt (left : input.rest ≠ []) : input.read.2.size < input.size := by
  unfold Input.read
  split
  · exact absurd ‹_› left
  · split
    · rename_i first rest content _ hiccups failures
      simp only [Input.size, failures, List.length_cons]
      omega
    · rename_i first rest content _ _
      simp only [Input.size, content, List.length_cons, List.length_tail]
      omega

theorem readBuf_size (input : Input) (len : Nat) : (input.readBuf len).2.size ≤ input.size := by
  unfold Input.readBuf
  split
  · exact Nat.le_refl _
  · split
    · rename_i first rest content _ hiccups failures
      simp only [Input.size, failures, List.length_cons]
      omega
    · rename_i first rest content _ _
      simp only [Input.size, List.length_drop, List.length_tail]
      omega

theorem readByte_size (input : Input) : input.readByte.2.size ≤ input.size := read_size input

theorem skip_size (count : Nat) (input : Input) : (input.skip count).size ≤ input.size := by
  induction count generalizing input with
  | zero => exact Nat.le_refl _
  | succ count ih => exact Nat.le_trans (ih _) (read_size input)

theorem option_size : (option remoteIP parse input label).2.size ≤ input.size := by
  have byte := readByte_size input
  have address := Nat.le_trans (readBuf_size input.readByte.2 4) byte
  cases label with
  | endOption => exact Nat.le_refl _
  | padOption => exact Nat.le_refl _
  | messageType => exact Nat.le_trans (readByte_size input.readByte.2) byte
  | subnetMask => exact address
  | routersOnSubnet => exact Nat.le_trans (skip_size _ _) address
  | dns => exact Nat.le_trans (skip_size _ _) address
  | serverIdentifier =>
      by_cases known : knowsServer parse.client remoteIP
      · simp only [option, known, if_true]
        exact address
      · simp only [option, known, if_false]
        exact Nat.le_trans (skip_size _ _) byte
  | t1value => exact address
  | t2value => exact address
  | ipAddrLeaseTime => exact address
  | default => exact Nat.le_trans (skip_size _ _) byte

/-- However malformed the options are and whichever reads fail, the loop comes to the
end of the datagram. -/
theorem optionsLoop_rest {fuel : Nat} (enough : input.size ≤ fuel) :
    (optionsLoop remoteIP fuel parse input).2.rest = [] := by
  induction fuel generalizing parse input with
  | zero =>
      have empty : input.rest.length = 0 := by
        unfold Input.size at enough
        omega
      exact List.eq_nil_of_length_eq_zero empty
  | succ fuel ih =>
      unfold optionsLoop
      split
      · assumption
      · rename_i left
        apply ih
        have consumed := read_size_lt left
        have after := @option_size remoteIP parse input.read.2 (switch input.read.1)
        omega

/-! ### What no datagram changes -/

theorem option_stranger (stranger : ¬ knowsServer parse.client remoteIP) :
    (option remoteIP parse input label).1.client.dhcpServerIp = parse.client.dhcpServerIp := by
  cases label with
  | serverIdentifier => simp only [option, stranger, if_false]
  | _ => rfl

/-- A host that is not the known server does not replace it. -/
theorem optionsLoop_stranger (stranger : ¬ knowsServer parse.client remoteIP) (fuel : Nat) :
    (optionsLoop remoteIP fuel parse input).1.client.dhcpServerIp = parse.client.dhcpServerIp := by
  induction fuel generalizing parse input with
  | zero => rfl
  | succ fuel ih =>
      have turn := @option_stranger remoteIP parse input.read.2 (switch input.read.1) stranger
      unfold optionsLoop
      split
      · rfl
      · rw [ih, turn]
        unfold knowsServer at *
        rwa [turn]

/-- The fields that only the client's own progress sets. -/
structure SameSession (before after : Client) : Prop where
  initial : after.initialTransactionId = before.initialTransactionId
  current : after.transactionId = before.transactionId
  hardware : after.macAddr = before.macAddr
  rebind : after.rebindInSec = before.rebindInSec
  state : after.state = before.state

theorem SameSession.refl (client : Client) : SameSession client client := ⟨rfl, rfl, rfl, rfl, rfl⟩

theorem SameSession.trans {first second third : Client} (left : SameSession first second)
    (right : SameSession second third) : SameSession first third :=
  ⟨right.initial.trans left.initial, right.current.trans left.current,
    right.hardware.trans left.hardware, right.rebind.trans left.rebind, right.state.trans left.state⟩

theorem option_session : SameSession parse.client (option remoteIP parse input label).1.client := by
  cases label with
  | serverIdentifier =>
      by_cases known : knowsServer parse.client remoteIP
      · simp only [option, known, if_true]
        exact ⟨rfl, rfl, rfl, rfl, rfl⟩
      · simp only [option, known, if_false]
        exact .refl _
  | _ => exact ⟨rfl, rfl, rfl, rfl, rfl⟩

theorem optionsLoop_session (fuel : Nat) :
    SameSession parse.client (optionsLoop remoteIP fuel parse input).1.client := by
  induction fuel generalizing parse input with
  | zero => exact .refl _
  | succ fuel ih =>
      unfold optionsLoop
      split
      · exact .refl _
      · exact option_session.trans ih

/-- The loop has come to its end of its own accord. -/
theorem optionsLoop_more {fuel more : Nat} (enough : input.size ≤ fuel) :
    optionsLoop remoteIP (fuel + more) parse input = optionsLoop remoteIP fuel parse input := by
  induction fuel generalizing parse input with
  | zero =>
      have empty : input.rest = [] := by
        apply List.eq_nil_of_length_eq_zero
        unfold Input.size at enough
        omega
      cases more with
      | zero => rfl
      | succ more => simp only [optionsLoop, empty, if_true]
  | succ fuel ih =>
      rw [Nat.succ_add, optionsLoop, optionsLoop]
      by_cases done : input.rest = []
      · rw [if_pos done, if_pos done]
      · have consumed := read_size_lt done
        have after := @option_size remoteIP parse input.read.2 (switch input.read.1)
        rw [if_neg done, if_neg done]
        exact ih (by omega)

theorem option_localIp : (option remoteIP parse input label).1.client.localIp = parse.client.localIp := by
  cases label with
  | serverIdentifier =>
      by_cases known : knowsServer parse.client remoteIP
      · simp only [option, known, if_true]
      · simp only [option, known, if_false]
  | _ => rfl

theorem optionsLoop_localIp (fuel : Nat) :
    (optionsLoop remoteIP fuel parse input).1.client.localIp = parse.client.localIp := by
  induction fuel generalizing parse input with
  | zero => rfl
  | succ fuel ih =>
      unfold optionsLoop
      split
      · rfl
      · exact ih.trans option_localIp

def InWindow (client : Client) (xid : UInt32) : Prop :=
  client.initialTransactionId ≤ xid ∧ xid ≤ client.transactionId

/-- The header that the client takes for an answer of its own. -/
def Acceptable (client : Client) (remotePort : Nat) (fixedMsg : Nat → UInt8) : Prop :=
  (fixedMsg 0 = bootReply ∧ remotePort = serverPort) ∧ ¬ foreign client fixedMsg

/-- What a response has done to the client, whatever was in it. -/
structure Confined (client : Client) (remotePort : Nat) (fixedMsg : Nat → UInt8) (outcome : Outcome) :
    Prop where
  consumed : outcome.input.rest = []
  session : SameSession client outcome.client
  ignored : ¬ Acceptable client remotePort fixedMsg → outcome.client = client ∧ outcome.type = 0
  accepted : Acceptable client remotePort fixedMsg →
    outcome.transactionId = some (transactionIdOf fixedMsg) ∧
      outcome.client.localIp = yiaddrOf fixedMsg

theorem parseResponse_accepted {stack : Nat → UInt8} {client : Client} {remotePort : Nat}
    (acceptable : Acceptable client remotePort (writeBuffer stack (input.readBuf fixedSize).1)) :
    let fixedMsg := writeBuffer stack (input.readBuf fixedSize).1
    let skipped := (input.readBuf fixedSize).2.skip (240 - fixedSize)
    let final := optionsLoop remoteIP skipped.size (begun client fixedMsg) skipped
    parseResponse stack client remoteIP remotePort input =
      ⟨final.1.type, some (transactionIdOf fixedMsg), final.1.client, final.2.flush⟩ := by
  intro fixedMsg skipped final
  rw [parseResponse, if_pos acceptable.1, if_neg acceptable.2]

theorem parseResponse_rejected {stack : Nat → UInt8} {client : Client} {remotePort : Nat}
    (rejected : ¬ Acceptable client remotePort (writeBuffer stack (input.readBuf fixedSize).1)) :
    ∃ transactionId, parseResponse stack client remoteIP remotePort input =
      ⟨0, transactionId, client, (input.readBuf fixedSize).2.flush⟩ := by
  unfold parseResponse
  by_cases reply : writeBuffer stack (input.readBuf fixedSize).1 0 = bootReply ∧
      remotePort = serverPort
  · have other := Decidable.not_not.mp fun mine => rejected ⟨reply, mine⟩
    exact ⟨_, by rw [if_pos reply, if_pos other]⟩
  · exact ⟨_, by rw [if_neg reply]⟩

theorem parseResponse_confined (stack : Nat → UInt8) (client : Client) (remoteIP : IPAddress)
    (remotePort : Nat) (input : Input) :
    Confined client remotePort (writeBuffer stack (input.readBuf fixedSize).1)
      (parseResponse stack client remoteIP remotePort input) := by
  by_cases acceptable : Acceptable client remotePort (writeBuffer stack (input.readBuf fixedSize).1)
  · have started : SameSession client
        (begun client (writeBuffer stack (input.readBuf fixedSize).1)).client :=
      ⟨rfl, rfl, rfl, rfl, rfl⟩
    rw [parseResponse_accepted acceptable]
    generalize (input.readBuf fixedSize).2.skip (240 - fixedSize) = skipped
    constructor
    · rfl
    · exact started.trans (optionsLoop_session _)
    · exact fun rejected => absurd acceptable rejected
    · exact fun _ => ⟨rfl, optionsLoop_localIp _⟩
  · obtain ⟨transactionId, result⟩ := @parseResponse_rejected remoteIP input stack client remotePort acceptable
    rw [result]
    exact ⟨rfl, .refl _, fun _ => ⟨rfl, rfl⟩, fun accepted => absurd accepted acceptable⟩

theorem parseResponse_stranger {stack : Nat → UInt8} {client : Client} {remotePort : Nat}
    (stranger : ¬ knowsServer client remoteIP) :
    (parseResponse stack client remoteIP remotePort input).client.dhcpServerIp =
      client.dhcpServerIp := by
  by_cases acceptable : Acceptable client remotePort (writeBuffer stack (input.readBuf fixedSize).1)
  · rw [parseResponse_accepted acceptable]
    generalize (input.readBuf fixedSize).2.skip (240 - fixedSize) = skipped
    exact @optionsLoop_stranger remoteIP (begun client _) skipped stranger _
  · obtain ⟨transactionId, result⟩ := @parseResponse_rejected remoteIP input stack client remotePort acceptable
    rw [result]

/-- Whatever a datagram holds, and whichever reads of it fail: the loop over its options
comes to the end of it by itself, only an answer of the client's own touches the record,
and what the client's progress rests on no answer touches. -/
theorem parseResponse_safe (stack : Nat → UInt8) (client : Client) (remoteIP : IPAddress)
    (remotePort : Nat) (input : Input) :
    (∀ parse input fuel more, input.size ≤ fuel →
      (optionsLoop remoteIP fuel parse input).2.rest = [] ∧
        optionsLoop remoteIP (fuel + more) parse input = optionsLoop remoteIP fuel parse input) ∧
      Confined client remotePort (writeBuffer stack (input.readBuf fixedSize).1)
        (parseResponse stack client remoteIP remotePort input) ∧
      (¬ knowsServer client remoteIP →
        (parseResponse stack client remoteIP remotePort input).client.dhcpServerIp =
          client.dhcpServerIp) := by
  constructor
  · intro parse input fuel more enough
    exact ⟨optionsLoop_rest enough, optionsLoop_more enough⟩
  constructor
  · exact parseResponse_confined stack client remoteIP remotePort input
  · exact parseResponse_stranger

end MSniff.Concrete.Dhcp
