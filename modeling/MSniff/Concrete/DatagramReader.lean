/-
The reading side of EthernetUdp.c as its callers see it: the bytes left of the
datagram that parsePacket opened and the datagrams waiting behind it. A call may come
back with nothing although there is something to read, and callers have to live with
that.
-/

import Mathlib.Data.List.Forall2
import MSniff.Concrete.IPAddress

namespace MSniff.Concrete.Receive

/-- A datagram that has come in, with who sent it. -/
structure Inbound where
  source : IPAddress
  port : UInt16
  payload : List UInt8

structure Reader where
  rest : List UInt8
  remoteIP : IPAddress
  remotePort : Nat
  waiting : List Inbound

inductive Call
  | parsePacket
  | read
  | readBuf (len : Nat)
  | peek
  | flush
  deriving DecidableEq, Repr

/-- What a call returns and stores, and what the accessors give after it. -/
structure Reply where
  value : Int
  stored : List UInt8
  remoteIP : IPAddress
  remotePort : Nat
  available : Nat

inductive Transaction
  | arrived (datagram : Inbound)
  | answered (call : Call) (reply : Reply)

def Reader.reply (reader : Reader) (value : Int) (stored : List UInt8) : Reply :=
  ⟨value, stored, reader.remoteIP, reader.remotePort, reader.rest.length⟩

def Reader.skip (reader : Reader) : Reader := { reader with rest := [] }

def Reader.consume (reader : Reader) (count : Nat) : Reader :=
  { reader with rest := reader.rest.drop count }

def Inbound.opened (datagram : Inbound) (waiting : List Inbound) : Reader :=
  ⟨datagram.payload, datagram.source, datagram.port.toNat, waiting⟩

/-- How a call may be answered, and what it leaves. -/
inductive Reader.Answers (reader : Reader) : Call → Reply → Reader → Prop
  | opened {datagram : Inbound} {waiting : List Inbound}
      (next : reader.waiting = datagram :: waiting) :
      Answers reader .parsePacket
        ((datagram.opened waiting).reply datagram.payload.length []) (datagram.opened waiting)
  | noPacket {value : Int} (nothing : value ≤ 0) :
      Answers reader .parsePacket (reader.skip.reply value []) reader.skip
  | byte {first : UInt8} {rest : List UInt8} (next : reader.rest = first :: rest) :
      Answers reader .read ((reader.consume 1).reply first.toNat []) (reader.consume 1)
  | noByte : Answers reader .read (reader.reply (-1) []) reader
  | bytes {len count : Nat} (positive : 0 < count) (exact : count = min len reader.rest.length) :
      Answers reader (.readBuf len)
        ((reader.consume count).reply count (reader.rest.take count)) (reader.consume count)
  | noBytes {len : Nat} : Answers reader (.readBuf len) (reader.reply (-1) []) reader
  | peeked {first : UInt8} {rest : List UInt8} (next : reader.rest = first :: rest) :
      Answers reader .peek (reader.reply first.toNat []) reader
  | nothingToPeek (none : reader.rest = []) : Answers reader .peek (reader.reply (-1) []) reader
  | flushed : Answers reader .flush (reader.skip.reply 0 []) reader.skip

def Reader.arrive (reader : Reader) (datagram : Inbound) : Reader :=
  { reader with waiting := reader.waiting ++ [datagram] }

/-- A sequence of arrivals and answered calls. -/
inductive Reader.Trace (start : Reader) : List Transaction → Reader → Prop
  | start : Trace start [] start
  | arrived {log : List Transaction} {reader : Reader} (before : Trace start log reader)
      (datagram : Inbound) : Trace start (log ++ [.arrived datagram]) (reader.arrive datagram)
  | answered {log : List Transaction} {reader next : Reader} {call : Call} {reply : Reply}
      (before : Trace start log reader) (answers : reader.Answers call reply next) :
      Trace start (log ++ [.answered call reply]) next

def Reader.fresh (remoteIP : IPAddress) (remotePort : Nat) : Reader := ⟨[], remoteIP, remotePort, []⟩

/-! ### What callers learn -/

/-- A datagram as far as its reader has seen it. -/
structure Reception where
  source : IPAddress
  port : Nat
  length : Nat
  bytes : List UInt8
  left : Nat

def extend (receptions : List Reception) (bytes : List UInt8) (left : Nat) : List Reception :=
  match receptions.getLast? with
  | none => []
  | some last => receptions.dropLast ++ [{ last with bytes := last.bytes ++ bytes, left := left }]

/-- A datagram without payload is opened like any other, but its length is what
parsePacket returns when there is none: its reader does not see it. -/
def learn (receptions : List Reception) : Transaction → List Reception
  | .arrived _ => receptions
  | .answered .parsePacket reply =>
      if 0 < reply.value then
        receptions ++ [⟨reply.remoteIP, reply.remotePort, reply.value.toNat, [], reply.available⟩]
      else receptions
  | .answered .read reply =>
      if 0 ≤ reply.value then extend receptions [UInt8.ofNat reply.value.toNat] reply.available
      else receptions
  | .answered (.readBuf _) reply =>
      if 0 < reply.value then extend receptions reply.stored reply.available else receptions
  | .answered .peek _ => receptions
  | .answered .flush _ => receptions

def receptions (log : List Transaction) : List Reception := log.foldl learn []

def arrivals (log : List Transaction) : List Inbound :=
  log.filterMap fun transaction =>
    match transaction with
    | .arrived datagram => some datagram
    | .answered _ _ => none

def visible (datagrams : List Inbound) : List Inbound :=
  datagrams.filter fun datagram => 0 < datagram.payload.length

structure Delivered (reception : Reception) (datagram : Inbound) : Prop where
  source : reception.source = datagram.source
  port : reception.port = datagram.port.toNat
  length : reception.length = datagram.payload.length
  content : ∃ unread, datagram.payload = reception.bytes ++ unread ∧ unread.length = reception.left

/-- What is left of the current datagram is what the last reception lacks. -/
def Current (receptions : List Reception) (opened : List Inbound) (rest : List UInt8) : Prop :=
  ∃ before last datagrams datagram, receptions = before ++ [last] ∧
    visible opened = datagrams ++ [datagram] ∧ List.Forall₂ Delivered before datagrams ∧
    Delivered last datagram ∧ datagram.payload = last.bytes ++ rest

structure Accounted (log : List Transaction) (reader : Reader) (opened : List Inbound) : Prop where
  arrived : arrivals log = opened ++ reader.waiting
  delivered : List.Forall₂ Delivered (receptions log) (visible opened)
  current : reader.rest ≠ [] → Current (receptions log) opened reader.rest

variable {log : List Transaction} {reader next : Reader} {opened : List Inbound} {call : Call}
  {reply : Reply}

theorem receptions_append (transaction : Transaction) :
    receptions (log ++ [transaction]) = learn (receptions log) transaction := by
  rw [receptions, List.foldl_append]
  rfl

theorem arrivals_arrived (datagram : Inbound) :
    arrivals (log ++ [.arrived datagram]) = arrivals log ++ [datagram] := by
  rw [arrivals, List.filterMap_append]
  rfl

theorem arrivals_answered : arrivals (log ++ [.answered call reply]) = arrivals log := by
  rw [arrivals, List.filterMap_append]
  exact List.append_nil _

theorem extend_append (before : List Reception) (last : Reception) (bytes : List UInt8) (left : Nat) :
    extend (before ++ [last]) bytes left =
      before ++ [{ last with bytes := last.bytes ++ bytes, left := left }] := by
  simp only [extend, List.getLast?_append, List.getLast?_singleton, List.dropLast_concat,
    Option.some_or]

theorem visible_append (datagram : Inbound) : visible (opened ++ [datagram]) =
    visible opened ++ if 0 < datagram.payload.length then [datagram] else [] := by
  by_cases nonempty : 0 < datagram.payload.length
  · simp [visible, nonempty]
  · simp [visible, nonempty]

theorem Current.delivered {receptions : List Reception} {rest : List UInt8}
    (current : Current receptions opened rest) :
    List.Forall₂ Delivered receptions (visible opened) := by
  obtain ⟨before, last, datagrams, datagram, split, visibleSplit, others, lastDelivered, _⟩ := current
  rw [split, visibleSplit]
  exact List.rel_append others (.cons lastDelivered .nil)

/-- Bytes read off the front of what is left go to the last reception. -/
theorem Current.extend {receptions : List Reception} {bytes rest : List UInt8}
    (current : Current receptions opened (bytes ++ rest)) :
    Current (Receive.extend receptions bytes rest.length) opened rest := by
  obtain ⟨before, last, datagrams, datagram, split, visibleSplit, others, lastDelivered, payload⟩ :=
    current
  refine ⟨before, { last with bytes := last.bytes ++ bytes, left := rest.length }, datagrams,
    datagram, ?_, visibleSplit, others, ?_, ?_⟩
  · rw [split, extend_append]
  · constructor
    · exact lastDelivered.source
    · exact lastDelivered.port
    · exact lastDelivered.length
    · exact ⟨rest, by rw [payload, List.append_assoc], rfl⟩
  · rw [payload, List.append_assoc]

theorem Accounted.skip (accounted : Accounted log reader opened) {transaction : Transaction}
    (same : learn (receptions log) transaction = receptions log)
    (sameArrivals : arrivals (log ++ [transaction]) = arrivals log) :
    Accounted (log ++ [transaction]) reader.skip opened := by
  constructor
  · rw [sameArrivals]
    exact accounted.arrived
  · rw [receptions_append, same]
    exact accounted.delivered
  · intro left
    exact absurd rfl left

theorem Accounted.unchanged (accounted : Accounted log reader opened) {transaction : Transaction}
    (same : learn (receptions log) transaction = receptions log)
    (sameArrivals : arrivals (log ++ [transaction]) = arrivals log) :
    Accounted (log ++ [transaction]) reader opened := by
  constructor
  · rw [sameArrivals]
    exact accounted.arrived
  · rw [receptions_append, same]
    exact accounted.delivered
  · rw [receptions_append, same]
    exact accounted.current

theorem Accounted.consume (accounted : Accounted log reader opened) {count : Nat}
    (nonempty : reader.rest ≠ [])
    (learnt : learn (receptions log) (.answered call reply) =
      extend (receptions log) (reader.rest.take count) (reader.rest.drop count).length) :
    Accounted (log ++ [.answered call reply]) (reader.consume count) opened := by
  have current := accounted.current nonempty
  rw [← List.take_append_drop count reader.rest] at current
  have extended := current.extend
  rw [← learnt, ← receptions_append] at extended
  constructor
  · rw [arrivals_answered]
    exact accounted.arrived
  · exact extended.delivered
  · intro _
    exact extended

theorem Accounted.parsePacket {datagram : Inbound} {waiting : List Inbound}
    (accounted : Accounted log reader opened) (next : reader.waiting = datagram :: waiting) :
    Accounted
      (log ++ [.answered .parsePacket ((datagram.opened waiting).reply datagram.payload.length [])])
      (datagram.opened waiting) (opened ++ [datagram]) := by
  have arrived : arrivals log = opened ++ [datagram] ++ waiting := by
    rw [accounted.arrived, next, List.append_assoc]
    rfl
  by_cases nonempty : 0 < datagram.payload.length
  · have learnt : learn (receptions log) (.answered .parsePacket
        ((datagram.opened waiting).reply datagram.payload.length [])) = receptions log ++
          [⟨datagram.source, datagram.port.toNat, datagram.payload.length, [],
            datagram.payload.length⟩] := by
      simp only [learn, Reader.reply, Inbound.opened, Int.natCast_pos, nonempty, if_true,
        Int.toNat_natCast]
    have current : Current (receptions log ++
        [⟨datagram.source, datagram.port.toNat, datagram.payload.length, [],
          datagram.payload.length⟩]) (opened ++ [datagram]) datagram.payload := by
      refine ⟨_, _, _, datagram, rfl, ?_, accounted.delivered, ?_, rfl⟩
      · rw [visible_append, if_pos nonempty]
      · exact ⟨rfl, rfl, rfl, datagram.payload, rfl, rfl⟩
    constructor
    · rw [arrivals_answered]
      exact arrived
    · rw [receptions_append, learnt]
      exact current.delivered
    · rw [receptions_append, learnt]
      intro _
      exact current
  · have empty : datagram.payload = [] := List.eq_nil_of_length_eq_zero (by omega)
    have same : learn (receptions log) (.answered .parsePacket
        ((datagram.opened waiting).reply datagram.payload.length [])) = receptions log := by
      simp only [learn, Reader.reply, Int.natCast_pos, nonempty, if_false]
    constructor
    · rw [arrivals_answered]
      exact arrived
    · rw [receptions_append, same, visible_append, if_neg nonempty, List.append_nil]
      exact accounted.delivered
    · intro left
      exact absurd empty left

/-! ### The accounts of a trace -/

theorem Accounted.arrive (accounted : Accounted log reader opened) (datagram : Inbound) :
    Accounted (log ++ [.arrived datagram]) (reader.arrive datagram) opened := by
  constructor
  · rw [arrivals_arrived, accounted.arrived, List.append_assoc]
    rfl
  · rw [receptions_append]
    exact accounted.delivered
  · rw [receptions_append]
    exact accounted.current

theorem Accounted.answered (accounted : Accounted log reader opened)
    (answers : reader.Answers call reply next) :
    ∃ opened, Accounted (log ++ [.answered call reply]) next opened := by
  cases answers with
  | @opened datagram waiting next => exact ⟨_, accounted.parsePacket next⟩
  | noPacket nothing =>
      refine ⟨opened, accounted.skip ?_ arrivals_answered⟩
      exact if_neg (Int.not_lt.mpr nothing)
  | @byte first rest next =>
      refine ⟨opened, accounted.consume (by rw [next]; exact List.cons_ne_nil _ _) ?_⟩
      simp only [learn, Reader.reply, Reader.consume, Int.natCast_nonneg, if_true,
        Int.toNat_natCast, UInt8.ofNat_toNat, next, List.take_succ_cons, List.take_zero]
  | noByte => exact ⟨opened, accounted.unchanged rfl arrivals_answered⟩
  | @bytes len count positive exact =>
      refine ⟨opened, accounted.consume ?_ ?_⟩
      · intro empty
        rw [empty] at exact
        exact absurd exact (by rw [List.length_nil, Nat.min_zero]; exact positive.ne')
      · exact if_pos (Int.natCast_pos.mpr positive)
  | noBytes => exact ⟨opened, accounted.unchanged rfl arrivals_answered⟩
  | peeked next => exact ⟨opened, accounted.unchanged rfl arrivals_answered⟩
  | nothingToPeek none => exact ⟨opened, accounted.unchanged rfl arrivals_answered⟩
  | flushed => exact ⟨opened, accounted.skip rfl arrivals_answered⟩

theorem Reader.Trace.accounted {remoteIP : IPAddress} {remotePort : Nat}
    (trace : (Reader.fresh remoteIP remotePort).Trace log reader) :
    ∃ opened, Accounted log reader opened := by
  induction trace with
  | start => exact ⟨[], rfl, .nil, fun left => absurd rfl left⟩
  | arrived before datagram ih =>
      obtain ⟨opened, accounted⟩ := ih
      exact ⟨opened, accounted.arrive datagram⟩
  | answered before answers ih =>
      obtain ⟨opened, accounted⟩ := ih
      exact accounted.answered answers

end MSniff.Concrete.Receive
