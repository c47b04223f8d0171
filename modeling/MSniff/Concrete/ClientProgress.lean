/-
An answer is always finished once the peer takes what it is sent. A step of the task that
finds nothing in the buffer and no command in Sn_CR brings the answer nearer to its end, and
none takes it further away; so after enough of these the peer has the whole page, or the
connection is closed.
-/

import MSniff.Concrete.DashboardPage

namespace MSniff.Concrete.ClientStream

open CircularStore SocketTable Transmit DashboardPage

/-! ### What is left to do -/

/-- The peer has taken and acknowledged everything and the last SEND is finished, or there
is no connection left. -/
def Connection.settled (connection : Connection) : Bool :=
  !isUp connection.status ||
    (connection.unacknowledged == 0 && connection.unsent == 0 && !connection.sending)

def awaitsCommand : Point → Bool
  | .awaitSend _ _ => true
  | .awaitClose => true
  | _ => false

/-- W5500_execCmdSn finds its command still there. -/
def Session.polls (session : Session) : Bool :=
  awaitsCommand session.point && session.connection.snCr.isSome

/-- The steps that are the task's own: not those that wait for the peer or for the chip. -/
def counts (session : Session) : Event → Bool
  | .task => session.connection.settled && !session.polls
  | _ => false

/-- The steps that the loop and the rest of the call take while the free size stays as it
is, including those of reading the size once more. -/
def loopCost (free : Nat) : FreeSize → Nat
  | .firstHigh _ => 13
  | .firstLow _ high => if high = free / 256 then 12 else 17
  | .secondHigh val1 => if val1 = free then 11 else 16
  | .secondLow val1 high => if val1 = free ∧ high = free / 256 then 10 else 15

def pointCost (connection : Connection) : Point → Nat
  | .nextWrite => if isUp connection.status = true ∧ connection.unsent ≠ 0 then 1 else 0
  | .freeSize _ _ loop =>
      if connection.settled = true then loopCost connection.txFsr loop else 17
  | .checkStatus _ _ freesize =>
      if connection.settled = true then
        if isUp connection.status = true ∧ freesize < bufferSize then 14 else 9
      else 17
  | .transfer _ _ => 8
  | .sendCommand _ _ => 7
  | .awaitSend _ _ => 6
  | .readInterrupt _ _ => if connection.sendOk = true then 2 else 5
  | .readStatus _ _ => if isUp connection.status = true ∧ connection.sendOk = false then 5 else 4
  | .closeCommand => 3
  | .awaitClose => 2
  | .closeInterrupt => 1
  | .clearInterrupt _ _ => 1

def Session.potential (session : Session) : Nat :=
  pointCost session.connection session.point + 18 * session.writes.length

variable {writes : List (List UInt8)} {session : Session} {loop : FreeSize} {free : Nat}

theorem loopCost_le (free : Nat) (loop : FreeSize) : loopCost free loop ≤ 17 := by
  cases loop with
  | firstHigh val => exact Nat.le_add_left 13 4
  | firstLow val high =>
      simp only [loopCost]
      split <;> omega
  | secondHigh val1 =>
      simp only [loopCost]
      split <;> omega
  | secondLow val1 high =>
      simp only [loopCost]
      split <;> omega

theorem loopCost_pos (free : Nat) (loop : FreeSize) : 0 < loopCost free loop := by
  cases loop with
  | firstHigh val => exact Nat.succ_pos 12
  | firstLow val high =>
      simp only [loopCost]
      split <;> omega
  | secondHigh val1 =>
      simp only [loopCost]
      split <;> omega
  | secondLow val1 high =>
      simp only [loopCost]
      split <;> omega

theorem freeSizeCost_le (connection : Connection) (buf : List UInt8) (ret : Nat) (loop : FreeSize) :
    pointCost connection (.freeSize buf ret loop) ≤ 17 := by
  simp only [pointCost]
  split
  · exact loopCost_le connection.txFsr loop
  · exact Nat.le_refl 17

theorem checkStatusCost_le (connection : Connection) (buf : List UInt8) (ret freesize : Nat) :
    pointCost connection (.checkStatus buf ret freesize) ≤ 17 := by
  simp only [pointCost]
  split
  · split <;> omega
  · exact Nat.le_refl 17

theorem pointCost_le (connection : Connection) (point : Point) : pointCost connection point ≤ 17 := by
  cases point with
  | freeSize buf ret loop => exact freeSizeCost_le connection buf ret loop
  | checkStatus buf ret freesize => exact checkStatusCost_le connection buf ret freesize
  | nextWrite =>
      simp only [pointCost]
      split <;> omega
  | readInterrupt size ret =>
      simp only [pointCost]
      split <;> omega
  | readStatus size ret =>
      simp only [pointCost]
      split <;> omega
  | transfer buf ret => exact Nat.le_add_left 8 9
  | sendCommand size ret => exact Nat.le_add_left 7 10
  | awaitSend size ret => exact Nat.le_add_left 6 11
  | closeCommand => exact Nat.le_add_left 3 14
  | awaitClose => exact Nat.le_add_left 2 15
  | closeInterrupt => exact Nat.le_add_left 1 16
  | clearInterrupt size ret => exact Nat.le_add_left 1 16

theorem settled_of_down {connection : Connection} (down : isUp connection.status = false) :
    connection.settled = true := by
  rw [Connection.settled, down]
  rfl

theorem settled_iff {connection : Connection} (up : isUp connection.status = true) :
    connection.settled = true ↔
      connection.unacknowledged = 0 ∧ connection.unsent = 0 ∧ connection.sending = false := by
  rw [Connection.settled, up]
  simp only [Bool.not_true, Bool.false_or, Bool.and_eq_true, beq_iff_eq, Bool.not_eq_true',
    and_assoc]

theorem txFsr_congr {connection other : Connection}
    (unacknowledged : other.unacknowledged = connection.unacknowledged)
    (unsent : other.unsent = connection.unsent) : other.txFsr = connection.txFsr := by
  rw [Connection.txFsr, unacknowledged, unsent]
  rfl

theorem txFsr_of_settled {connection : Connection} (up : isUp connection.status = true)
    (settled : connection.settled = true) : connection.txFsr = bufferSize := by
  obtain ⟨unacknowledged, unsent, _⟩ := (settled_iff up).mp settled
  rw [Connection.txFsr, unacknowledged, unsent]
  rfl

/-- What is left after a look at the size: of the loop, or with the size that it gave. -/
def lookCost (free : Nat) : FreeSize ⊕ Nat → Nat
  | .inl later => loopCost free later
  | .inr freesize => if freesize = free then 9 else 14

/-- While the free size stays as it is, each look at it is one step nearer to the end of the
call. A register that reads zero after another size would hold the task for ever; what the
loop has read before excludes it. -/
theorem loopCost_next (below : Below free loop) :
    lookCost free (loop.next free) < loopCost free loop := by
  have split := Nat.div_add_mod free 256
  cases loop with
  | firstHigh val =>
      simp only [FreeSize.next, lookCost, loopCost, if_true]
      omega
  | firstLow val high =>
      have room := below.1
      simp only [FreeSize.next]
      by_cases fresh : high = free / 256
      · have whole : high * 256 + free % 256 = free := by omega
        rw [whole]
        by_cases none : free = 0
        · have same : val = free := by omega
          rw [if_neg (not_not.mpr none), if_neg (not_not.mpr same)]
          simp only [lookCost, loopCost, if_pos same, if_pos fresh]
          omega
        · rw [if_pos none]
          simp only [lookCost, loopCost, if_true, if_pos fresh]
          omega
      · split_ifs
        · simp only [lookCost, loopCost, if_neg fresh]
          split <;> omega
        · simp only [lookCost, loopCost, if_neg fresh]
          omega
        · simp only [lookCost, loopCost, if_neg fresh]
          split <;> omega
  | secondHigh val1 =>
      simp only [FreeSize.next, lookCost, loopCost]
      by_cases fresh : val1 = free
      · rw [if_pos fresh, if_pos ⟨fresh, trivial⟩]
        exact Nat.lt_succ_self 10
      · rw [if_neg fresh, if_neg (fun both => fresh both.1)]
        exact Nat.lt_succ_self 15
  | secondLow val1 high =>
      simp only [FreeSize.next]
      by_cases fresh : val1 = free ∧ high = free / 256
      · have whole : high * 256 + free % 256 = free := by omega
        rw [whole, if_neg (not_not.mpr fresh.1.symm)]
        simp only [lookCost, loopCost, if_pos fresh, if_true]
        omega
      · split_ifs
        · simp only [lookCost, loopCost, if_neg fresh]
          omega
        · simp only [lookCost, loopCost, if_neg fresh]
          split <;> omega

/-! ### The task -/

/-- What the task relies on, with a connection or without one. -/
structure Answering (writes : List (List UInt8)) (session : Session) : Prop where
  sound : Sound writes session
  closed : isUp session.connection.status = false → session.connection.status = .closed
  below : ∀ {buf : List UInt8} {ret : Nat} {loop : FreeSize},
    session.point = .freeSize buf ret loop → Below session.connection.txFsr loop

theorem Coherent.below {copied ret : Nat} {rest buf : List UInt8} {owed : List Nat}
    (coherent : Coherent writes session copied rest owed)
    (measures : session.point = .freeSize buf ret loop) : Below session.connection.txFsr loop := by
  have stage := coherent.stage
  rw [measures] at stage
  cases stage with
  | measuring quiet below => exact below

/-- A SEND that the task waits for has not been finished. -/
theorem unsettled_of_waiting {connection : Connection} (up : isUp connection.status = true)
    (given : connection.sending = !connection.sendOk) (unfinished : connection.sendOk = false) :
    connection.settled = false := by
  rw [unfinished] at given
  cases known : connection.settled with
  | false => rfl
  | true =>
      obtain ⟨_, _, idle⟩ := (settled_iff up).mp known
      rw [idle] at given
      cases given

theorem counts_of_unsettled (unsettled : session.connection.settled = false) :
    counts session .task = false := by
  simp only [counts, unsettled, Bool.false_and]

theorem counts_of_polls (polls : session.polls = true) : counts session .task = false := by
  simp only [counts, polls, Bool.not_true, Bool.and_false]

/-- A step goes nearer to the end, or it is none that counts and goes no further away. -/
def Falls (session next : Session) : Prop :=
  next.potential ≤ session.potential - (if counts session .task then 1 else 0)

theorem falls_of_lt {next : Session} (nearer : next.potential < session.potential) :
    Falls session next := by
  unfold Falls
  split <;> omega

theorem falls_of_le {next : Session} (uncounted : counts session .task = false)
    (notFurther : next.potential ≤ session.potential) : Falls session next := by
  rw [Falls, uncounted]
  exact notFurther

theorem nextWriteCost_le_one (connection : Connection) : pointCost connection .nextWrite ≤ 1 := by
  simp only [pointCost]
  split <;> omega

theorem nextWriteCost_of_settled {connection : Connection} (settled : connection.settled = true) :
    pointCost connection .nextWrite = 0 := by
  apply if_neg
  rintro ⟨up, unsent⟩
  exact unsent ((settled_iff up).mp settled).2.1

/-- With a call's last step the answer is over where the peer has everything. -/
theorem falls_nextWrite {connection : Connection} {point : Point} {pending : List (List UInt8)}
    {returned later : List Nat} (last : pointCost connection point = 1) :
    Falls ⟨connection, point, pending, returned⟩
      ⟨{ connection with sendOk := false }, .nextWrite, pending, later⟩ := by
  have cost : pointCost { connection with sendOk := false } .nextWrite =
      pointCost connection .nextWrite := rfl
  cases settled : connection.settled with
  | true =>
      apply falls_of_lt
      simp only [Session.potential, last, cost, nextWriteCost_of_settled settled]
      omega
  | false =>
      apply falls_of_le (counts_of_unsettled settled)
      have small := nextWriteCost_le_one connection
      simp only [Session.potential, last, cost]
      omega

theorem falls_advance_nextWrite {connection : Connection} {pending : List (List UInt8)}
    {returned : List Nat} :
    Falls ⟨connection, .nextWrite, pending, returned⟩
      (advance ⟨connection, .nextWrite, pending, returned⟩) := by
  cases pending with
  | nil =>
      cases settled : connection.settled with
      | true =>
          have nothing : Session.potential ⟨connection, .nextWrite, [], returned⟩ = 0 :=
            congrArg (· + 18 * 0) (nextWriteCost_of_settled settled)
          rw [Falls, advance, nothing]
          exact Nat.zero_le _
      | false => exact falls_of_le (counts_of_unsettled settled) (Nat.le_refl _)
  | cons buf later =>
      have bounded := freeSizeCost_le connection buf (sendLength buf.length) (.firstHigh 0)
      apply falls_of_lt
      simp only [advance, Session.potential, List.length_cons]
      omega

theorem falls_advance_freeSize {connection : Connection} {buf : List UInt8} {ret : Nat}
    {pending : List (List UInt8)} {returned : List Nat} (below : Below connection.txFsr loop) :
    Falls ⟨connection, .freeSize buf ret loop, pending, returned⟩
      (advance ⟨connection, .freeSize buf ret loop, pending, returned⟩) := by
  have nearer := loopCost_next below
  cases settled : connection.settled with
  | true =>
      apply falls_of_lt
      simp only [advance]
      cases result : loop.next connection.txFsr with
      | inl later =>
          rw [result, lookCost] at nearer
          simp only [Session.potential, pointCost, settled, if_true]
          omega
      | inr freesize =>
          have cost : pointCost connection (.checkStatus buf ret freesize) ≤
              lookCost connection.txFsr (.inr freesize) := by
            simp only [pointCost, settled, if_true, lookCost]
            by_cases small : isUp connection.status = true ∧ freesize < bufferSize
            · have whole := txFsr_of_settled small.1 settled
              rw [if_pos small, if_neg (by omega)]
            · rw [if_neg small]
              split <;> omega
          rw [result] at nearer
          have here : pointCost connection (.freeSize buf ret loop) =
              loopCost connection.txFsr loop := if_pos settled
          simp only [Session.potential, here]
          omega
  | false =>
      have here : pointCost connection (.freeSize buf ret loop) = 17 := by
        simp only [pointCost, settled, Bool.false_eq_true, if_false]
      apply falls_of_le (counts_of_unsettled settled)
      simp only [advance]
      cases result : loop.next connection.txFsr with
      | inl later =>
          have bounded := freeSizeCost_le connection buf ret later
          simp only [Session.potential, here]
          omega
      | inr freesize =>
          have bounded := checkStatusCost_le connection buf ret freesize
          simp only [Session.potential, here]
          omega

theorem falls_advance_checkStatus {connection : Connection} {buf : List UInt8}
    {ret freesize : Nat} {pending : List (List UInt8)} {returned : List Nat}
    (sound : Sound writes ⟨connection, .checkStatus buf ret freesize, pending, returned⟩) :
    Falls ⟨connection, .checkStatus buf ret freesize, pending, returned⟩
      (advance ⟨connection, .checkStatus buf ret freesize, pending, returned⟩) := by
  have costly : 9 ≤ pointCost connection (.checkStatus buf ret freesize) := by
    simp only [pointCost]
    split
    · split <;> omega
    · omega
  have copies (ret : Nat) : Falls ⟨connection, .checkStatus buf ret freesize, pending, returned⟩
      ⟨connection, .transfer buf ret, pending, returned⟩ := by
    apply falls_of_lt
    exact Nat.add_lt_add_right costly _
  simp only [advance]
  by_cases broken : connection.status ≠ .established ∧ connection.status ≠ .closeWait
  · rw [if_pos broken]
    exact copies 0
  · have up := isUp_iff.mpr broken
    rw [if_neg broken]
    by_cases small : freesize < ret
    · rw [if_pos small]
      obtain ⟨_, _, _, coherent⟩ := sound.2 up
      have stage := coherent.stage
      cases stage with
      | measured quiet below =>
          have short : freesize < bufferSize := small.trans_le (sendLength_le_bufferSize _)
          cases settled : connection.settled with
          | true =>
              apply falls_of_lt
              simp only [Session.potential, pointCost, settled, if_true, loopCost,
                if_pos (And.intro up short)]
              omega
          | false =>
              apply falls_of_le (counts_of_unsettled settled)
              simp only [Session.potential, pointCost, settled, Bool.false_eq_true, if_false,
                Nat.le_refl]
    · rw [if_neg small]
      exact copies ret

theorem falls_advance_awaitSend {connection : Connection} {size ret : Nat}
    {pending : List (List UInt8)} {returned : List Nat} :
    Falls ⟨connection, .awaitSend size ret, pending, returned⟩
      (advance ⟨connection, .awaitSend size ret, pending, returned⟩) := by
  simp only [advance]
  cases waits : connection.snCr.isSome with
  | true =>
      rw [if_pos rfl]
      exact falls_of_le (counts_of_polls waits) (Nat.le_refl _)
  | false =>
      have remaining : pointCost connection (.readInterrupt size ret) ≤ 5 := by
        simp only [pointCost]
        split <;> omega
      rw [if_neg Bool.false_ne_true]
      apply falls_of_lt
      exact Nat.add_lt_add_right (Nat.lt_succ_of_le remaining) _

theorem falls_advance_readInterrupt {connection : Connection} {size ret : Nat}
    {pending : List (List UInt8)} {returned : List Nat}
    (sound : Sound writes ⟨connection, .readInterrupt size ret, pending, returned⟩) :
    Falls ⟨connection, .readInterrupt size ret, pending, returned⟩
      (advance ⟨connection, .readInterrupt size ret, pending, returned⟩) := by
  simp only [advance]
  cases finished : connection.sendOk with
  | true =>
      rw [if_pos rfl]
      apply falls_of_lt
      simp only [Session.potential, pointCost, finished, if_true]
      omega
  | false =>
      rw [if_neg Bool.false_ne_true]
      cases up : isUp connection.status with
      | true =>
          obtain ⟨_, _, _, coherent⟩ := sound.2 up
          have stage := coherent.stage
          cases stage with
          | waiting given =>
              apply falls_of_le (counts_of_unsettled (unsettled_of_waiting up given finished))
              simp only [Session.potential, pointCost, up, finished, and_self, if_true,
                Bool.false_eq_true, if_false, Nat.le_refl]
      | false =>
          apply falls_of_lt
          simp only [Session.potential, pointCost, up, finished, Bool.false_eq_true, false_and,
            if_false]
          omega

theorem falls_advance_readStatus {connection : Connection} {size ret : Nat}
    {pending : List (List UInt8)} {returned : List Nat}
    (answering : Answering writes ⟨connection, .readStatus size ret, pending, returned⟩) :
    Falls ⟨connection, .readStatus size ret, pending, returned⟩
      (advance ⟨connection, .readStatus size ret, pending, returned⟩) := by
  have costly : 4 ≤ pointCost connection (.readStatus size ret) := by
    simp only [pointCost]
    split <;> omega
  simp only [advance]
  by_cases closed : connection.status = .closed
  · rw [if_pos closed]
    apply falls_of_lt
    exact Nat.add_lt_add_right costly _
  · have up : isUp connection.status = true := by
      cases known : isUp connection.status with
      | true => rfl
      | false => exact absurd (answering.closed known) closed
    rw [if_neg closed]
    cases finished : connection.sendOk with
    | true =>
        apply falls_of_lt
        simp only [Session.potential, pointCost, finished, Bool.true_eq_false, and_false, if_true,
          if_false]
        omega
    | false =>
        obtain ⟨_, _, _, coherent⟩ := answering.sound.2 up
        have stage := coherent.stage
        cases stage with
        | looking given =>
            apply falls_of_le (counts_of_unsettled (unsettled_of_waiting up given finished))
            simp only [Session.potential, pointCost, up, finished, and_self, if_true,
              Bool.false_eq_true, if_false, Nat.le_refl]

theorem falls_advance_awaitClose {connection : Connection} {pending : List (List UInt8)}
    {returned : List Nat} :
    Falls ⟨connection, .awaitClose, pending, returned⟩
      (advance ⟨connection, .awaitClose, pending, returned⟩) := by
  simp only [advance]
  cases waits : connection.snCr.isSome with
  | true =>
      rw [if_pos rfl]
      exact falls_of_le (counts_of_polls waits) (Nat.le_refl _)
  | false =>
      rw [if_neg Bool.false_ne_true]
      apply falls_of_lt
      exact Nat.add_lt_add_right (Nat.lt_succ_self 1) _

/-- A step of the task brings the answer nearer to its end, or it waits. -/
theorem Answering.falls_advance (answering : Answering writes session) :
    Falls session (advance session) := by
  obtain ⟨connection, point, pending, returned⟩ := session
  cases point with
  | nextWrite => exact falls_advance_nextWrite
  | freeSize buf ret loop => exact falls_advance_freeSize (answering.below rfl)
  | checkStatus buf ret freesize => exact falls_advance_checkStatus answering.sound
  | transfer buf ret =>
      apply falls_of_lt
      exact Nat.add_lt_add_right (Nat.lt_succ_self 7) _
  | sendCommand size ret =>
      apply falls_of_lt
      exact Nat.add_lt_add_right (Nat.lt_succ_self 6) _
  | awaitSend size ret => exact falls_advance_awaitSend
  | readInterrupt size ret => exact falls_advance_readInterrupt answering.sound
  | readStatus size ret => exact falls_advance_readStatus answering
  | closeCommand =>
      apply falls_of_lt
      exact Nat.add_lt_add_right (Nat.lt_succ_self 2) _
  | awaitClose => exact falls_advance_awaitClose
  | closeInterrupt => exact falls_nextWrite rfl
  | clearInterrupt size ret => exact falls_nextWrite rfl

/-! ### The chip and the peer -/

/-- What the chip and the peer do outside a SEND leaves the task no more to do. -/
structure Eases (connection other : Connection) : Prop where
  up : isUp other.status = true → isUp connection.status = true
  settled : connection.settled = true → other.settled = true ∧ other.txFsr = connection.txFsr
  unsent : other.unsent ≤ connection.unsent
  sendOk : connection.sendOk = true → other.sendOk = true

theorem Eases.refl (connection : Connection) : Eases connection connection :=
  ⟨id, fun settled => ⟨settled, rfl⟩, Nat.le_refl _, id⟩

theorem Eases.pointCost_le {connection other : Connection} (eases : Eases connection other)
    (point : Point) : pointCost other point ≤ pointCost connection point := by
  cases point with
  | nextWrite =>
      simp only [pointCost]
      by_cases more : isUp other.status = true ∧ other.unsent ≠ 0
      · have before : connection.unsent ≠ 0 := by
          have fewer := eases.unsent
          omega
        rw [if_pos more, if_pos ⟨eases.up more.1, before⟩]
      · rw [if_neg more]
        exact Nat.zero_le _
  | freeSize buf ret loop =>
      cases known : connection.settled with
      | true =>
          obtain ⟨settled, same⟩ := eases.settled known
          simp only [pointCost, known, settled, same, if_true, Nat.le_refl]
      | false =>
          have bounded := freeSizeCost_le other buf ret loop
          simp only [pointCost, known, Bool.false_eq_true, if_false] at bounded ⊢
          exact bounded
  | checkStatus buf ret freesize =>
      cases known : connection.settled with
      | true =>
          obtain ⟨settled, _⟩ := eases.settled known
          simp only [pointCost, known, settled, if_true]
          by_cases small : isUp other.status = true ∧ freesize < bufferSize
          · rw [if_pos small, if_pos ⟨eases.up small.1, small.2⟩]
          · rw [if_neg small]
            split <;> omega
      | false =>
          have bounded := checkStatusCost_le other buf ret freesize
          simp only [pointCost, known, Bool.false_eq_true, if_false] at bounded ⊢
          exact bounded
  | readInterrupt size ret =>
      simp only [pointCost]
      by_cases finished : connection.sendOk = true
      · rw [if_pos finished, if_pos (eases.sendOk finished)]
      · rw [if_neg finished]
        split <;> omega
  | readStatus size ret =>
      simp only [pointCost]
      by_cases waits : isUp other.status = true ∧ other.sendOk = false
      · have before : connection.sendOk = false := by
          cases finished : connection.sendOk with
          | false => rfl
          | true =>
              have impossible := eases.sendOk finished
              rw [waits.2] at impossible
              cases impossible
        rw [if_pos waits, if_pos ⟨eases.up waits.1, before⟩]
      · rw [if_neg waits]
        split <;> omega
  | transfer buf ret => exact Nat.le_refl _
  | sendCommand size ret => exact Nat.le_refl _
  | awaitSend size ret => exact Nat.le_refl _
  | closeCommand => exact Nat.le_refl _
  | awaitClose => exact Nat.le_refl _
  | closeInterrupt => exact Nat.le_refl _
  | clearInterrupt size ret => exact Nat.le_refl _

theorem Eases.potential_le {connection : Connection} (eases : Eases session.connection connection) :
    ({ session with connection := connection } : Session).potential ≤ session.potential :=
  Nat.add_le_add_right (eases.pointCost_le session.point) _

theorem deliver_eases (connection : Connection) (count : Nat) :
    Eases connection (connection.deliver count) := by
  unfold Connection.deliver
  by_cases up : isUp connection.status = true
  · rw [if_pos up]
    refine ⟨id, fun settled => ?_, Nat.sub_le _ _, id⟩
    obtain ⟨unacknowledged, unsent, idle⟩ := (settled_iff up).mp settled
    have nothing : min count connection.unsent = 0 := by omega
    simp only [nothing, Nat.sub_zero, Nat.add_zero]
    exact ⟨(settled_iff up).mpr ⟨unacknowledged, unsent, idle⟩, rfl⟩
  · rw [if_neg up]
    exact .refl connection

theorem acknowledge_eases (connection : Connection) (count : Nat) :
    Eases connection (connection.acknowledge count) := by
  unfold Connection.acknowledge
  by_cases up : isUp connection.status = true
  · rw [if_pos up]
    refine ⟨id, fun settled => ?_, Nat.le_refl _, id⟩
    obtain ⟨unacknowledged, unsent, idle⟩ := (settled_iff up).mp settled
    have nothing : min count connection.unacknowledged = 0 := by omega
    simp only [nothing, Nat.sub_zero, Nat.add_zero]
    exact ⟨(settled_iff up).mpr ⟨unacknowledged, unsent, idle⟩, rfl⟩
  · rw [if_neg up]
    exact .refl connection

theorem finishSend_eases (connection : Connection) : Eases connection connection.finishSend := by
  unfold Connection.finishSend
  split
  · refine ⟨id, fun settled => ⟨?_, rfl⟩, Nat.le_refl _, fun _ => rfl⟩
    cases up : isUp connection.status with
    | false => exact settled_of_down up
    | true =>
        obtain ⟨unacknowledged, unsent, _⟩ := (settled_iff up).mp settled
        exact (@settled_iff { connection with sending := false } up).mpr
          ⟨unacknowledged, unsent, rfl⟩
  · exact .refl connection

theorem peerCloses_eases (connection : Connection) : Eases connection connection.peerCloses := by
  unfold Connection.peerCloses
  by_cases established : connection.status = .established
  · have up : isUp connection.status = true := by
      rw [established]
      rfl
    rw [if_pos established]
    refine ⟨fun _ => up, fun settled => ⟨?_, rfl⟩, Nat.le_refl _, id⟩
    exact (settled_iff rfl).mpr ((settled_iff up).mp settled)
  · rw [if_neg established]
    exact .refl connection

theorem close_eases (connection : Connection) : Eases connection connection.close :=
  ⟨nofun, fun _ => ⟨rfl, rfl⟩, Nat.le_refl _, id⟩

theorem takeCommand_eases {connection : Connection} (down : isUp connection.status = false) :
    Eases connection connection.takeCommand := by
  rcases takeCommand_cases connection with same | sends | closes
  · rw [same]
    exact .refl connection
  · rw [sends]
    simp only [Connection.send, down, Bool.false_eq_true, if_false]
    exact ⟨id, fun settled => ⟨settled, rfl⟩, Nat.le_refl _, id⟩
  · rw [closes]
    exact ⟨(close_eases connection).up, fun _ => ⟨rfl, rfl⟩, Nat.le_refl _, id⟩

/-- With a connection, the only command is a SEND that the task stands behind. -/
theorem Coherent.potential_takeCommand {copied : Nat} {rest : List UInt8} {owed : List Nat}
    (coherent : Coherent writes session copied rest owed) :
    (step session .command).potential ≤ session.potential := by
  obtain ⟨connection, point, pending, returned⟩ := session
  have stage := coherent.stage
  simp only [step]
  cases stage with
  | commanded quiet untaken => exact Nat.le_refl _
  | taken given free => exact Nat.le_refl _
  | _ =>
      rw [takeCommand_of_none (coherent.command rfl)]

theorem Answering.falls (answering : Answering writes session) (event : Event) :
    (step session event).potential ≤ session.potential - (if counts session event then 1 else 0) := by
  cases event with
  | task => exact answering.falls_advance
  | command =>
      cases up : isUp session.connection.status with
      | true =>
          obtain ⟨_, _, _, coherent⟩ := answering.sound.2 up
          exact coherent.potential_takeCommand
      | false => exact (takeCommand_eases up).potential_le
  | deliver count => exact (deliver_eases session.connection count).potential_le
  | acknowledge count => exact (acknowledge_eases session.connection count).potential_le
  | finishSend => exact (finishSend_eases session.connection).potential_le
  | peerCloses => exact (peerCloses_eases session.connection).potential_le
  | disconnect => exact (close_eases session.connection).potential_le

/-! ### The invariant -/

/-- However the loop over the size came about, it has read no more than what is free. -/
theorem Answering.below_advance (answering : Answering writes session) {buf : List UInt8}
    {ret : Nat} (measures : (advance session).point = .freeSize buf ret loop) :
    Below session.connection.txFsr loop := by
  have below := @answering.below
  obtain ⟨connection, point, pending, returned⟩ := session
  cases point with
  | nextWrite =>
      cases pending with
      | nil => cases measures
      | cons text later =>
          cases measures
          exact Nat.zero_le _
  | freeSize text size earlier =>
      simp only [advance] at measures
      cases result : earlier.next connection.txFsr with
      | inl later =>
          rw [result] at measures
          cases measures
          exact (below rfl).next.1 _ result
      | inr freesize =>
          rw [result] at measures
          cases measures
  | checkStatus text size freesize =>
      simp only [advance] at measures
      split at measures
      · cases measures
      · split at measures
        · cases measures
          exact Nat.zero_le _
        · cases measures
  | transfer text size => cases measures
  | sendCommand size result => cases measures
  | awaitSend size result =>
      simp only [advance] at measures
      split at measures <;> cases measures
  | readInterrupt size result =>
      simp only [advance] at measures
      split at measures <;> cases measures
  | readStatus size result =>
      simp only [advance] at measures
      split at measures <;> cases measures
  | closeCommand => cases measures
  | awaitClose =>
      simp only [advance] at measures
      split at measures <;> cases measures
  | closeInterrupt => cases measures
  | clearInterrupt size result => cases measures

/-- A connection is lost with its socket closed and its buffer as it was. -/
theorem step_of_lost (up : isUp session.connection.status = true) {event : Event}
    (down : isUp (step session event).connection.status = false) :
    (step session event).connection.status = .closed ∧
      (step session event).connection.txFsr = session.connection.txFsr := by
  have stays : isUp session.connection.status ≠ false := by
    rw [up]
    exact nofun
  cases event with
  | task =>
      rw [step, (advance_keeps session).status] at down
      exact absurd down stays
  | command =>
      simp only [step, Connection.takeCommand] at down ⊢
      cases command : session.connection.snCr with
      | none =>
          rw [command] at down
          exact absurd down stays
      | some command' =>
          rw [command] at down
          cases command' with
          | send =>
              simp only [Connection.send, up, if_true] at down
              exact absurd down Bool.true_eq_false.mp
          | close => exact ⟨rfl, rfl⟩
  | deliver count =>
      simp only [step, Connection.deliver, up, if_true] at down
      cases down
  | acknowledge count =>
      simp only [step, Connection.acknowledge, up, if_true] at down
      cases down
  | finishSend =>
      simp only [step, Connection.finishSend] at down
      split at down
      · exact absurd down stays
      · exact absurd down stays
  | peerCloses =>
      simp only [step, Connection.peerCloses] at down
      split at down
      · cases down
      · exact absurd down stays
  | disconnect => exact ⟨rfl, rfl⟩

/-- Where there is no connection left the socket is closed, with the buffer as it was. -/
theorem Answering.step_of_down (answering : Answering writes session) {event : Event}
    (down : isUp (step session event).connection.status = false) :
    (step session event).connection.status = .closed ∧
      (step session event).connection.txFsr = session.connection.txFsr := by
  cases before : isUp session.connection.status with
  | true => exact step_of_lost before down
  | false =>
      have kept := ClientStream.step_of_down before event
      exact ⟨kept.closed (answering.closed before), txFsr_congr kept.unacknowledged kept.unsent⟩

theorem Answering.step (answering : Answering writes session) (event : Event) :
    Answering writes (ClientStream.step session event) := by
  have sound := answering.sound.step event
  refine ⟨sound, fun down => (answering.step_of_down down).1, ?_⟩
  intro buf ret loop measures
  cases up : isUp (ClientStream.step session event).connection.status with
  | true =>
      obtain ⟨_, _, _, coherent⟩ := sound.2 up
      exact coherent.below measures
  | false =>
      rw [(answering.step_of_down up).2]
      cases event with
      | task => exact answering.below_advance measures
      | command => exact answering.below measures
      | deliver count => exact answering.below measures
      | acknowledge count => exact answering.below measures
      | finishSend => exact answering.below measures
      | peerCloses => exact answering.below measures
      | disconnect => exact answering.below measures

def promptAnswer : List Event :=
  [.command, .finishSend, .deliver bufferSize, .acknowledge bufferSize]

def promptRounds (count : Nat) : List Event :=
  (List.replicate count (.task :: promptAnswer)).flatten

variable {copied : Nat} {rest : List UInt8} {owed : List Nat}

/-- A connection that waits for nothing. -/
structure Prompt (writes : List (List UInt8)) (session : Session) : Prop where
  sound : Sound writes session
  up : isUp session.connection.status = true
  settled : session.connection.settled = true
  free : session.connection.snCr = none

theorem snCr_takeCommand (connection : Connection) : connection.takeCommand.snCr = none := by
  unfold Connection.takeCommand
  split
  next free => exact free
  · rfl
  · rfl

theorem Coherent.up_takeCommand (coherent : Coherent writes session copied rest owed) :
    isUp session.connection.takeCommand.status = true := by
  have up := coherent.up
  have stage := coherent.stage
  obtain ⟨connection, point, pending, returned⟩ := session
  simp only at up ⊢
  cases stage with
  | commanded quiet untaken =>
      simp only [Connection.takeCommand, show connection.snCr = some .send from untaken,
        Connection.send, up, if_true]
  | taken given free => rwa [takeCommand_of_none free]
  | _ => rwa [takeCommand_of_none (coherent.command rfl)]

theorem finishSend_sending (connection : Connection) :
    connection.finishSend.sending = false ∧ connection.finishSend.snCr = connection.snCr := by
  unfold Connection.finishSend
  cases sending : connection.sending with
  | true => exact ⟨rfl, rfl⟩
  | false => exact ⟨sending, rfl⟩

theorem Connection.empties {connection : Connection} (up : isUp connection.status = true)
    (fits : connection.unacknowledged + connection.unsent ≤ bufferSize) :
    let emptied := (connection.deliver bufferSize).acknowledge bufferSize
    emptied.unacknowledged = 0 ∧ emptied.unsent = 0 ∧ emptied.sending = connection.sending ∧
      emptied.status = connection.status ∧ emptied.snCr = connection.snCr := by
  have whole : min bufferSize connection.unsent = connection.unsent :=
    Nat.min_eq_right ((Nat.le_add_left _ _).trans fits)
  have freed : min bufferSize (connection.unacknowledged + connection.unsent) =
      connection.unacknowledged + connection.unsent := Nat.min_eq_right fits
  simp only [Connection.deliver, Connection.acknowledge, up, if_true, whole, freed, Nat.sub_self,
    and_self]

/-- Whatever the task has done, the chip and such a peer leave it nothing to wait for. -/
theorem Sound.prompt (sound : Sound writes session)
    (up : isUp session.connection.status = true) :
    Prompt writes (EventRun.run ClientStream.step session promptAnswer) := by
  obtain ⟨_, _, _, coherent⟩ := sound.2 up
  have taken := sound.step .command
  obtain ⟨_, _, _, commanded⟩ := taken.2 coherent.up_takeCommand
  have finished := commanded.finishSend
  obtain ⟨sending, snCr⟩ := finishSend_sending session.connection.takeCommand
  have fits := (Nat.le_add_right _ _).trans finished.fits
  obtain ⟨unacknowledged, unsent, idle, status, command⟩ := Connection.empties finished.up fits
  constructor
  · exact ((finished.sound.step (.deliver bufferSize)).step (.acknowledge bufferSize))
  · exact (congrArg isUp status).trans finished.up
  · exact (settled_iff ((congrArg isUp status).trans finished.up)).mpr
      ⟨unacknowledged, unsent, idle.trans sending⟩
  · exact command.trans (snCr.trans (snCr_takeCommand _))

theorem Prompt.counts (prompt : Prompt writes session) :
    ClientStream.counts session .task = true := by
  simp only [ClientStream.counts, prompt.settled, Session.polls, prompt.free, Option.isSome_none,
    Bool.and_false, Bool.not_false, Bool.and_self]

theorem Prompt.counted (prompt : Prompt writes session) (count : Nat) :
    EventRun.counted ClientStream.step ClientStream.counts session (promptRounds count) =
      count := by
  induction count generalizing session with
  | zero => rfl
  | succ count ih =>
      have advanced := prompt.sound.step .task
      have up : isUp (ClientStream.step session .task).connection.status = true :=
        (congrArg isUp (advance_keeps session).status).trans prompt.up
      have later := ih (advanced.prompt up)
      have rounds : promptRounds (count + 1) = .task :: promptAnswer ++ promptRounds count := rfl
      rw [rounds, List.cons_append, EventRun.counted, EventRun.counted_append, later, prompt.counts]
      rfl

end MSniff.Concrete.ClientStream
