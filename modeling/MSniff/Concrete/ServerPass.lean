/-
EthernetServer_available and what it calls, as the loops they are, and one pass of the
dashboard's main loop through them. Where the network leaves the sockets alone the single
steps of the dashboard come to what the loops compute: the sockets of clients that are
gone are free again, and one listens if any is left.
-/

import MSniff.Concrete.SocketOwnership

namespace MSniff.Concrete.ServerPass

open EthernetSettings EventRun SocketOwnership SocketTable

/-! ### The loops -/

def stop (ethernet : Ethernet) (sock : Nat) : Ethernet :=
  { ethernet with
    chip := ethernet.chip.close sock
    serverPort := Function.update ethernet.serverPort sock 0 }

def listens (ethernet : Ethernet) (sock : Nat) : Ethernet :=
  { ethernet with
    chip := (ethernet.chip.openSocket sock .tcp serverListensOn .server).listen sock
    serverPort := Function.update ethernet.serverPort sock serverListensOn }

/-- EthernetServer_begin from this socket on, with the first argument left to look at. -/
def beginFrom : Nat → Nat → Ethernet → Ethernet
  | 0, _, ethernet => ethernet
  | left + 1, sock, ethernet =>
      if (ethernet.chip.socket sock).status = .closed then listens ethernet sock
      else beginFrom left (sock + 1) ethernet

/-- A client that has closed its side and left nothing to read. -/
def gone (ethernet : Ethernet) (sock : Nat) : Prop :=
  (ethernet.chip.socket sock).status = .closeWait ∧ (ethernet.chip.socket sock).received = false

instance decidableGone (ethernet : Ethernet) (sock : Nat) : Decidable (gone ethernet sock) :=
  inferInstanceAs (Decidable (_ ∧ _))

def release (ethernet : Ethernet) (sock : Nat) : Ethernet :=
  if gone ethernet sock then stop ethernet sock else ethernet

/-- EthernetServer_accept from this socket on. -/
def acceptFrom : Nat → Nat → Bool → Ethernet → Ethernet
  | 0, _, listening, ethernet => if listening then ethernet else beginFrom maxSockNum 0 ethernet
  | left + 1, sock, listening, ethernet =>
      if ethernet.serverPort sock = serverListensOn then
        if (ethernet.chip.socket sock).status = .listen then
          acceptFrom left (sock + 1) true ethernet
        else acceptFrom left (sock + 1) listening (release ethernet sock)
      else acceptFrom left (sock + 1) listening ethernet

/-- A client that is there and has sent something. -/
def waits (ethernet : Ethernet) (sock : Nat) : Prop :=
  ethernet.serverPort sock = serverListensOn ∧
    ((ethernet.chip.socket sock).status = .established ∨
      (ethernet.chip.socket sock).status = .closeWait) ∧
    (ethernet.chip.socket sock).received = true

instance decidableWaits (ethernet : Ethernet) (sock : Nat) : Decidable (waits ethernet sock) :=
  inferInstanceAs (Decidable (_ ∧ _ ∧ _))

def chooseFrom : Nat → Nat → Ethernet → Option Nat
  | 0, _, _ => none
  | left + 1, sock, ethernet =>
      if waits ethernet sock then some sock else chooseFrom left (sock + 1) ethernet

def conclude (ethernet : Ethernet) : Ethernet × Option Nat :=
  (ethernet, chooseFrom maxSockNum 0 ethernet)

/-- EthernetServer_available, and the number of the client it returns. -/
def serverAvailable (ethernet : Ethernet) : Ethernet × Option Nat :=
  conclude (acceptFrom maxSockNum 0 false ethernet)

/-! ### What a pass still has to do -/

/-- What is still to come of a pass, from each of its points. -/
def outcome (system : System) : Ethernet × Option Nat :=
  match system.dashboard with
  | .accept sock listening =>
      conclude (acceptFrom (maxSockNum - sock) sock listening system.ethernet)
  | .acceptClosed sock listening =>
      conclude (acceptFrom (maxSockNum - (sock + 1)) (sock + 1) listening
        (release system.ethernet sock))
  | .stopping sock (.accept next listening) =>
      conclude (acceptFrom (maxSockNum - next) next listening (stop system.ethernet sock))
  | .stopDelay sock (.accept next listening) =>
      conclude (acceptFrom (maxSockNum - next) next listening (stop system.ethernet sock))
  | .beginServer sock _ => conclude (beginFrom (maxSockNum - sock) sock system.ethernet)
  | .choose sock => (system.ethernet, chooseFrom (maxSockNum - sock) sock system.ethernet)
  | _ => (system.ethernet, none)

def inPass : Point → Bool
  | .accept _ _ => true
  | .acceptClosed _ _ => true
  | .stopping _ (.accept _ _) => true
  | .stopDelay _ (.accept _ _) => true
  | .beginServer _ starting => !starting
  | .choose _ => true
  | _ => false

/-- Where a pass ends. -/
def arrival : Option Nat → Point
  | some client => .connected client
  | none => .mainSleep

/-- How many steps are left at most before the last one, the wait of `EthernetClient_stop` as
one. -/
def remaining : Point → Nat
  | .accept sock _ => 3 * (maxSockNum - sock) + 18
  | .acceptClosed sock _ => 3 * (maxSockNum - (sock + 1)) + 20
  | .stopping _ (.accept next _) => 3 * (maxSockNum - next) + 19
  | .stopDelay _ (.accept next _) => 3 * (maxSockNum - next) + 19
  | .beginServer sock _ => maxSockNum - sock + 9
  | .choose sock => maxSockNum - sock
  | _ => 0

def stopped : Point → Option Nat
  | .stopping sock _ => some sock
  | .stopDelay sock _ => some sock
  | _ => none

/-- The network changes nothing but that it ends the connection which is being stopped. -/
def Quiet (system : System) : SocketOwnership.Event → Prop
  | .network s status received => stopped system.dashboard = some s ∧ status = .closed ∧
      received = (system.ethernet.chip.socket s).received
  | .dashboard .proceed => True
  | .dashboard .timeout => True
  | .dashboard _ => False
  | .ethernetTask _ _ _ => True

/-- Steps of the dashboard, of those in `EthernetClient_stop` only the one that ends it. -/
def advances (system : System) : SocketOwnership.Event → Bool
  | .dashboard .proceed => (stopped system.dashboard).isNone
  | .dashboard .timeout => match system.dashboard with
      | .stopping _ _ => true
      | _ => false
  | _ => false

/-! ### One step of a pass -/

variable {system : System} {target : Ethernet × Option Nat}

def Arrived (target : Ethernet × Option Nat) (system : System) : Prop :=
  system.ethernet = target.1 ∧ system.dashboard = arrival target.2

structure Passing (target : Ethernet × Option Nat) (system : System) : Prop where
  inside : inPass system.dashboard = true
  ahead : outcome system = target

/-- A step of a pass leaves what it comes to, and takes one step off where it counts. -/
def Advanced (target : Ethernet × Option Nat) (before : Nat) (counts : Bool) (system : System) :
    Prop :=
  Arrived target system ∨
    Passing target system ∧ remaining system.dashboard + (if counts then 1 else 0) ≤ before

theorem stop_of_closed {ethernet : Ethernet} {sock : Nat}
    (closed : (ethernet.chip.socket sock).status = .closed) :
    ethernet.chip.close sock = ethernet.chip := by
  have same : { ethernet.chip.socket sock with status := .closed } = ethernet.chip.socket sock := by
    rw [← closed]
  unfold Chip.close Chip.set
  rw [same]
  exact Function.update_eq_self _ _

theorem endStop_ethernet (system : System) (sock : Nat) (after : AfterStop) :
    (endStop system sock after).ethernet = stop system.ethernet sock := by
  unfold endStop stop
  by_cases closed : (system.ethernet.chip.socket sock).status = .closed
  · simp only [if_pos closed, stop_of_closed closed]
  · simp only [if_neg closed]

theorem left_succ {sock : Nat} (inTable : sock < maxSockNum) :
    maxSockNum - sock = (maxSockNum - (sock + 1)) + 1 := by omega

theorem advanced {before : Nat} {counts : Bool} (inside : inPass system.dashboard = true)
    (ahead : outcome system = target) (falls : remaining system.dashboard < before) :
    Advanced target before counts system := by
  refine .inr ⟨⟨inside, ahead⟩, ?_⟩
  cases counts with
  | true => exact falls
  | false => exact falls.le

theorem Passing.accept (passing : Passing target system) {sock : Nat} {listening counts : Bool}
    (here : system.dashboard = .accept sock listening) (tmpIp : IPAddress) :
    Advanced target (remaining system.dashboard) counts
      (dashboardStep tmpIp system .proceed) := by
  have result := passing.ahead
  obtain ⟨ethernet, dashboard, reset⟩ := system
  subst here
  have size : maxSockNum = 8 := rfl
  simp only [outcome] at result
  simp only [dashboardStep]
  by_cases inTable : sock < maxSockNum
  · have falls : 3 * (maxSockNum - (sock + 1)) + 20 < 3 * (maxSockNum - sock) + 18 := by omega
    rw [left_succ inTable, acceptFrom] at result
    rw [if_pos inTable]
    by_cases listed : ethernet.serverPort sock = serverListensOn
    · rw [if_pos listed] at result ⊢
      by_cases listen : (ethernet.chip.socket sock).status = .listen
      · rw [if_pos listen] at result ⊢
        exact advanced rfl result (Nat.lt_of_le_of_lt (Nat.add_le_add_left (by decide) _) falls)
      · rw [if_neg listen] at result ⊢
        exact advanced rfl result falls
    · rw [if_neg listed] at result ⊢
      exact advanced rfl result (Nat.lt_of_le_of_lt (Nat.add_le_add_left (by decide) _) falls)
  · have finished : maxSockNum - sock = 0 := Nat.sub_eq_zero_of_le (Nat.le_of_not_lt inTable)
    rw [finished, acceptFrom] at result
    rw [if_neg inTable]
    cases listening with
    | true =>
        have falls : maxSockNum < 3 * (maxSockNum - sock) + 18 := by omega
        exact advanced rfl result falls
    | false =>
        have falls : maxSockNum + 9 < 3 * (maxSockNum - sock) + 18 := by omega
        exact advanced rfl result falls

theorem Passing.acceptClosed (passing : Passing target system) {sock : Nat}
    {listening counts : Bool} (here : system.dashboard = .acceptClosed sock listening)
    (tmpIp : IPAddress) :
    Advanced target (remaining system.dashboard) counts
      (dashboardStep tmpIp system .proceed) := by
  have result := passing.ahead
  obtain ⟨ethernet, dashboard, reset⟩ := system
  subst here
  simp only [outcome, release] at result
  simp only [dashboardStep]
  have falls : 3 * (maxSockNum - (sock + 1)) + 19 < 3 * (maxSockNum - (sock + 1)) + 20 :=
    Nat.lt_succ_self _
  by_cases left : gone ethernet sock
  · rw [if_pos left] at result
    rw [if_pos (show _ ∧ _ from left)]
    exact advanced rfl result falls
  · rw [if_neg left] at result
    rw [if_neg (show ¬ (_ ∧ _) from left)]
    exact advanced rfl result (Nat.lt_of_succ_lt falls)

theorem Passing.beginServer (passing : Passing target system) {sock : Nat} {starting counts : Bool}
    (here : system.dashboard = .beginServer sock starting) (tmpIp : IPAddress) :
    Advanced target (remaining system.dashboard) counts
      (dashboardStep tmpIp system .proceed) := by
  have result := passing.ahead
  have inside := passing.inside
  obtain ⟨ethernet, dashboard, reset⟩ := system
  subst here
  cases starting with
  | true => cases inside
  | false =>
      have falls : maxSockNum < maxSockNum - sock + 9 := by
        have size : maxSockNum = 8 := rfl
        omega
      simp only [outcome] at result
      simp only [dashboardStep]
      by_cases inTable : sock < maxSockNum
      · rw [left_succ inTable, beginFrom] at result
        rw [if_pos inTable]
        by_cases closed : (ethernet.chip.socket sock).status = .closed
        · rw [if_pos closed] at result ⊢
          exact advanced rfl result falls
        · rw [if_neg closed] at result ⊢
          have less : maxSockNum - (sock + 1) + 9 < maxSockNum - sock + 9 := by omega
          exact advanced rfl result less
      · have finished : maxSockNum - sock = 0 := Nat.sub_eq_zero_of_le (Nat.le_of_not_lt inTable)
        rw [finished, beginFrom] at result
        rw [if_neg inTable]
        exact advanced rfl result falls

theorem Passing.choose (passing : Passing target system) {sock : Nat} {counts : Bool}
    (here : system.dashboard = .choose sock) (tmpIp : IPAddress) :
    Advanced target (remaining system.dashboard) counts
      (dashboardStep tmpIp system .proceed) := by
  have result := passing.ahead
  obtain ⟨ethernet, dashboard, reset⟩ := system
  subst here
  simp only [outcome] at result
  simp only [dashboardStep]
  by_cases inTable : sock < maxSockNum
  · rw [left_succ inTable, chooseFrom] at result
    rw [if_pos inTable]
    by_cases chosen : waits ethernet sock
    · rw [if_pos chosen] at result
      rw [if_pos (show _ ∧ _ ∧ _ from chosen), ← result]
      exact .inl ⟨rfl, rfl⟩
    · rw [if_neg chosen] at result
      rw [if_neg (show ¬ (_ ∧ _ ∧ _) from chosen)]
      have less : maxSockNum - (sock + 1) < maxSockNum - sock := by omega
      exact advanced rfl result less
  · have finished : maxSockNum - sock = 0 := Nat.sub_eq_zero_of_le (Nat.le_of_not_lt inTable)
    rw [finished, chooseFrom] at result
    rw [if_neg inTable, ← result]
    exact .inl ⟨rfl, rfl⟩

/-- The end of `EthernetClient_stop`, by itself or after its second. -/
theorem Passing.endStop (passing : Passing target system) {sock next : Nat}
    {listening counts : Bool}
    (here : system.dashboard = .stopping sock (.accept next listening)) :
    Advanced target (remaining system.dashboard) counts
      (endStop system sock (.accept next listening)) := by
  have result := passing.ahead
  have ended := endStop_ethernet system sock (.accept next listening)
  obtain ⟨ethernet, dashboard, reset⟩ := system
  subst here
  have falls : 3 * (maxSockNum - next) + 18 < 3 * (maxSockNum - next) + 19 := Nat.lt_succ_self _
  refine advanced rfl ?_ falls
  change conclude (acceptFrom (maxSockNum - next) next listening _) = target
  rw [ended]
  exact result

theorem Passing.stopping (passing : Passing target system) {sock : Nat} {after : AfterStop}
    (here : system.dashboard = .stopping sock after) (tmpIp : IPAddress) :
    Advanced target (remaining system.dashboard) false
      (dashboardStep tmpIp system .proceed) := by
  have inside := passing.inside
  rw [here] at inside
  cases after with
  | rest => cases inside
  | accept next listening =>
      have ended := @Passing.endStop system target passing sock next listening false here
      have result := passing.ahead
      obtain ⟨ethernet, dashboard, reset⟩ := system
      subst here
      simp only [dashboardStep]
      split
      · exact .inr ⟨⟨rfl, result⟩, Nat.le_refl _⟩
      · exact ended

theorem Passing.stopDelay (passing : Passing target system) {sock : Nat} {after : AfterStop}
    (here : system.dashboard = .stopDelay sock after) (tmpIp : IPAddress) :
    Advanced target (remaining system.dashboard) false
      (dashboardStep tmpIp system .proceed) := by
  have inside := passing.inside
  have result := passing.ahead
  obtain ⟨ethernet, dashboard, reset⟩ := system
  subst here
  cases after with
  | rest => cases inside
  | accept next listening => exact .inr ⟨⟨rfl, result⟩, Nat.le_refl _⟩

/-- The connection that is being stopped comes to its end. -/
theorem Passing.network (passing : Passing target system) {s : Nat}
    (stops : stopped system.dashboard = some s) :
    Advanced target (remaining system.dashboard) false
      (networkStep system s .closed (system.ethernet.chip.socket s).received) := by
  have inside := passing.inside
  have result := passing.ahead
  obtain ⟨ethernet, dashboard, reset⟩ := system
  have again : (ethernet.chip.close s).close s = ethernet.chip.close s := by
    apply @stop_of_closed { ethernet with chip := ethernet.chip.close s } s
    rw [Chip.socket_close_self]
  have closes : networkStep ⟨ethernet, dashboard, reset⟩ s .closed (ethernet.chip.socket s).received =
      ⟨ethernet, dashboard, reset⟩ ∨
      networkStep ⟨ethernet, dashboard, reset⟩ s .closed (ethernet.chip.socket s).received =
        ⟨{ ethernet with chip := ethernet.chip.close s }, dashboard, reset⟩ := by
    simp only [networkStep]
    split
    · exact .inr rfl
    · exact .inl rfl
  rcases closes with same | closed
  · rw [same]
    exact .inr ⟨passing, Nat.le_refl _⟩
  · rw [closed]
    refine .inr ⟨⟨inside, ?_⟩, Nat.le_refl _⟩
    have stopAgain : stop { ethernet with chip := ethernet.chip.close s } s = stop ethernet s := by
      unfold stop
      rw [again]
    cases dashboard with
    | stopping sock after =>
        cases stops
        cases after with
        | rest => cases inside
        | accept next listening =>
            simp only [outcome] at result ⊢
            rw [stopAgain]
            exact result
    | stopDelay sock after =>
        cases stops
        cases after with
        | rest => cases inside
        | accept next listening =>
            simp only [outcome] at result ⊢
            rw [stopAgain]
            exact result
    | _ => cases stops

theorem Passing.proceed (passing : Passing target system) (tmpIp : IPAddress) :
    Advanced target (remaining system.dashboard) (advances system (.dashboard .proceed))
      (dashboardStep tmpIp system .proceed) := by
  cases here : system.dashboard with
  | accept sock listening =>
      rw [← here]
      exact passing.accept here tmpIp
  | acceptClosed sock listening =>
      rw [← here]
      exact passing.acceptClosed here tmpIp
  | beginServer sock starting =>
      rw [← here]
      exact passing.beginServer here tmpIp
  | choose sock =>
      rw [← here]
      exact passing.choose here tmpIp
  | stopping sock after =>
      have waiting : advances system (.dashboard .proceed) = false := by
        simp only [advances, here, stopped, Option.isNone_some]
      rw [← here, waiting]
      exact passing.stopping here tmpIp
  | stopDelay sock after =>
      have waiting : advances system (.dashboard .proceed) = false := by
        simp only [advances, here, stopped, Option.isNone_some]
      rw [← here, waiting]
      exact passing.stopDelay here tmpIp
  | _ =>
      have inside := passing.inside
      rw [here] at inside
      cases inside

theorem Passing.timeout (passing : Passing target system) (tmpIp : IPAddress) :
    Advanced target (remaining system.dashboard) (advances system (.dashboard .timeout))
      (dashboardStep tmpIp system .timeout) := by
  have inside := passing.inside
  cases here : system.dashboard with
  | stopping sock after =>
      cases after with
      | rest =>
          rw [here] at inside
          cases inside
      | accept next listening =>
          have ended := @Passing.endStop system target passing sock next listening
            (advances system (.dashboard .timeout)) here
          simp only [dashboardStep, here]
          rw [here] at ended
          exact ended
  | _ =>
      have idle : dashboardStep tmpIp system .timeout = system := by
        simp only [dashboardStep, here]
      have uncounted : advances system (.dashboard .timeout) = false := by
        simp only [advances, here]
      rw [idle, uncounted, ← here]
      exact .inr ⟨passing, Nat.le_refl _⟩

theorem Passing.step (passing : Passing target system) (tmpIp : IPAddress)
    {event : SocketOwnership.Event} (quiet : Quiet system event) :
    Advanced target (remaining system.dashboard) (advances system event)
      (SocketOwnership.step tmpIp system event) := by
  cases event with
  | network s status received =>
      obtain ⟨stops, rfl, rfl⟩ := quiet
      exact passing.network stops
  | dashboard choice =>
      cases choice with
      | proceed => exact passing.proceed tmpIp
      | timeout => exact passing.timeout tmpIp
      | _ => cases quiet
  | ethernetTask queue currentProtocol stack => exact .inr ⟨passing, Nat.le_refl _⟩

/-- The single steps of a pass come to what the loops compute. -/
theorem pass_arrives (tmpIp : IPAddress) (ethernet : Ethernet) (reset : Bool)
    (events : List SocketOwnership.Event)
    (quiet : Meets (SocketOwnership.step tmpIp) Quiet ⟨ethernet, .accept 0 false, reset⟩ events)
    (enough : remaining (.accept 0 false) <
      counted (SocketOwnership.step tmpIp) advances ⟨ethernet, .accept 0 false, reset⟩ events) :
    ∃ first rest, events = first ++ rest ∧ Arrived (serverAvailable ethernet)
      (run (SocketOwnership.step tmpIp) ⟨ethernet, .accept 0 false, reset⟩ first) := by
  have start : Passing (serverAvailable ethernet) ⟨ethernet, .accept 0 false, reset⟩ :=
    ⟨rfl, rfl⟩
  have progress := fun system event (passing : Passing (serverAvailable ethernet) system)
    (calm : Quiet system event) => passing.step tmpIp calm
  exact @Meets.reaches _ _ _ Quiet (Passing (serverAvailable ethernet))
    (Arrived (serverAvailable ethernet)) advances (fun system => remaining system.dashboard)
    progress _ events quiet start enough

/-! ### What the loops compute -/

def status (ethernet : Ethernet) (sock : Nat) : SocketStatus := (ethernet.chip.socket sock).status

def Listening (ethernet : Ethernet) : Prop :=
  ∃ sock < maxSockNum, ethernet.serverPort sock = serverListensOn ∧ status ethernet sock = .listen

def InUse (ethernet : Ethernet) : Prop := ∀ sock < maxSockNum, status ethernet sock ≠ .closed

/-- Nothing has been done to this socket. -/
def Kept (before after : Ethernet) (sock : Nat) : Prop :=
  after.chip.socket sock = before.chip.socket sock ∧ after.serverPort sock = before.serverPort sock

def Free (ethernet : Ethernet) (sock : Nat) : Prop :=
  status ethernet sock = .closed ∨ status ethernet sock = .listen

theorem apart_mod {sock other : Nat} (inTable : sock < maxSockNum) (otherInTable : other < maxSockNum)
    (different : other ≠ sock) : other % maxSockNum ≠ sock % maxSockNum := by
  rw [Nat.mod_eq_of_lt inTable, Nat.mod_eq_of_lt otherInTable]
  exact different

variable {ethernet : Ethernet} {sock other : Nat}

theorem stop_kept (inTable : sock < maxSockNum) (otherInTable : other < maxSockNum)
    (different : other ≠ sock) : Kept ethernet (stop ethernet sock) other :=
  ⟨Chip.socket_close_of_ne (apart_mod inTable otherInTable different),
    Function.update_of_ne different _ _⟩

theorem listens_kept (inTable : sock < maxSockNum) (otherInTable : other < maxSockNum)
    (different : other ≠ sock) : Kept ethernet (listens ethernet sock) other := by
  have apart := apart_mod inTable otherInTable different
  refine ⟨?_, Function.update_of_ne different _ _⟩
  exact (Chip.socket_listen_of_ne apart).trans (Chip.socket_openSocket_of_ne apart _ _ _)

theorem status_listens : status (listens ethernet sock) sock = .listen := by
  have init : ((ethernet.chip.openSocket sock .tcp serverListensOn .server).socket sock).status =
      .init := by
    rw [Chip.openSocket, Chip.socket_set_self]
    rfl
  unfold status listens Chip.listen
  rw [if_pos init, Chip.socket_set_self]

/-- A closed socket among those still to be looked at is opened, or there is none. -/
theorem beginFrom_spec (left sock : Nat) (ethernet : Ethernet) :
    (∃ free, sock ≤ free ∧ free < sock + left ∧ status ethernet free = .closed ∧
      beginFrom left sock ethernet = listens ethernet free) ∨
    beginFrom left sock ethernet = ethernet ∧
      ∀ other, sock ≤ other → other < sock + left → status ethernet other ≠ .closed := by
  induction left generalizing sock with
  | zero => exact .inr ⟨rfl, fun other above below => absurd above (Nat.not_le.mpr below)⟩
  | succ left ih =>
      unfold beginFrom
      by_cases closed : (ethernet.chip.socket sock).status = .closed
      · rw [if_pos closed]
        exact .inl ⟨sock, Nat.le_refl _, Nat.lt_add_of_pos_right (Nat.succ_pos left), closed, rfl⟩
      · rw [if_neg closed]
        have same : sock + 1 + left = sock + (left + 1) := by omega
        rcases ih (sock + 1) with ⟨free, above, below, isClosed, result⟩ | ⟨result, none⟩
        · rw [same] at below
          exact .inl ⟨free, Nat.le_of_succ_le above, below, isClosed, result⟩
        · refine .inr ⟨result, fun other above below => ?_⟩
          rcases Nat.eq_or_lt_of_le above with here | further
          · rw [← here]
            exact closed
          · exact none other further (same ▸ below)

/-- What EthernetServer_accept makes of the sockets from this one on. -/
structure Accepts (sock : Nat) (listening : Bool) (before after : Ethernet) : Prop where
  offers : (listening = true → Listening before) → Listening after ∨ InUse after
  kept : ∀ other < maxSockNum, status before other ≠ .closed →
    ¬ (sock ≤ other ∧ before.serverPort other = serverListensOn ∧ gone before other) →
      Kept before after other
  closed : ∀ other < maxSockNum, status before other = .closed → Free after other
  freed : ∀ other < maxSockNum, sock ≤ other → before.serverPort other = serverListensOn →
    gone before other → Free after other

/-- The last part of EthernetServer_accept, where all sockets have been looked at. -/
theorem accepts_end (listening : Bool) (ethernet : Ethernet) :
    Accepts maxSockNum listening ethernet (acceptFrom 0 maxSockNum listening ethernet) := by
  have beyond : ∀ other < maxSockNum, ¬ maxSockNum ≤ other := fun _ below => Nat.not_le.mpr below
  cases listening with
  | true =>
      constructor
      · exact fun known => .inl (known rfl)
      · exact fun _ _ _ _ => ⟨rfl, rfl⟩
      · exact fun _ _ closed => .inl closed
      · exact fun other below above => absurd above (beyond other below)
  | false =>
      change Accepts maxSockNum false ethernet (beginFrom maxSockNum 0 ethernet)
      rcases beginFrom_spec maxSockNum 0 ethernet with
        ⟨free, _, below, closed, result⟩ | ⟨result, none⟩
      · rw [Nat.zero_add] at below
        rw [result]
        constructor
        · intro _
          exact .inl ⟨free, below, Function.update_self .., status_listens⟩
        · intro other inTable isOpen _
          apply listens_kept below inTable
          rintro rfl
          exact isOpen closed
        · intro other inTable isClosed
          by_cases same : other = free
          · rw [same]
            exact .inr status_listens
          · have kept := (@listens_kept ethernet free other below inTable same).1
            exact .inl ((congrArg ChipSocket.status kept).trans isClosed)
        · exact fun other inTable above => absurd above (beyond other inTable)
      · rw [Nat.zero_add] at none
        rw [result]
        constructor
        · exact fun _ => .inr fun other inTable => none other (Nat.zero_le other) inTable
        · exact fun _ _ _ _ => ⟨rfl, rfl⟩
        · exact fun _ _ closed => .inl closed
        · exact fun other inTable above => absurd above (beyond other inTable)

/-- A socket that is passed over. -/
theorem Accepts.skip {listening : Bool} {after : Ethernet}
    (accepts : Accepts (sock + 1) listening ethernet after)
    (notGone : ¬ (ethernet.serverPort sock = serverListensOn ∧ gone ethernet sock)) :
    Accepts sock listening ethernet after where
  offers := accepts.offers
  kept := by
    intro other inTable isOpen present
    apply accepts.kept other inTable isOpen
    rintro ⟨above, left⟩
    exact present ⟨Nat.le_of_succ_le above, left⟩
  closed := accepts.closed
  freed := by
    intro other inTable above listed left
    rcases Nat.eq_or_lt_of_le above with here | further
    · rw [← here] at listed left
      exact absurd ⟨listed, left⟩ notGone
    · exact accepts.freed other inTable further listed left

/-- A socket whose client is gone, and what comes after it. -/
theorem Accepts.release {listening : Bool} {after : Ethernet} (inTable : sock < maxSockNum)
    (listed : ethernet.serverPort sock = serverListensOn) (left : gone ethernet sock)
    (accepts : Accepts (sock + 1) listening (stop ethernet sock) after) :
    Accepts sock listening ethernet after := by
  have same : ∀ other < maxSockNum, other ≠ sock → Kept ethernet (stop ethernet sock) other :=
    fun _ otherInTable different => stop_kept inTable otherInTable different
  have sameStatus : ∀ other < maxSockNum, other ≠ sock →
      status (stop ethernet sock) other = status ethernet other :=
    fun other otherInTable different =>
      congrArg ChipSocket.status (same other otherInTable different).1
  have isClosed : status (stop ethernet sock) sock = .closed :=
    congrArg ChipSocket.status Chip.socket_close_self
  have notClosed : status ethernet sock ≠ .closed := by
    intro closed
    rw [status, left.1] at closed
    cases closed
  have goneAfter : ∀ other < maxSockNum, other ≠ sock →
      (gone (stop ethernet sock) other ↔ gone ethernet other) := by
    intro other otherInTable different
    unfold gone
    rw [(same other otherInTable different).1]
  constructor
  · intro known
    apply accepts.offers
    intro heard
    obtain ⟨listener, inRange, ours, listens⟩ := known heard
    have different : listener ≠ sock := by
      rintro rfl
      rw [status, left.1] at listens
      cases listens
    refine ⟨listener, inRange, ?_, (sameStatus listener inRange different).trans listens⟩
    exact (same listener inRange different).2.trans ours
  · intro other otherInTable isOpen present
    have different : other ≠ sock := by
      rintro rfl
      exact present ⟨Nat.le_refl _, listed, left⟩
    have kept := same other otherInTable different
    have later : Kept (stop ethernet sock) after other := by
      apply accepts.kept other otherInTable
      · rw [sameStatus other otherInTable different]
        exact isOpen
      · rintro ⟨above, ours, leftToo⟩
        rw [kept.2] at ours
        exact present ⟨Nat.le_of_succ_le above, ours,
          (goneAfter other otherInTable different).mp leftToo⟩
    exact ⟨later.1.trans kept.1, later.2.trans kept.2⟩
  · intro other otherInTable closed
    have different : other ≠ sock := by
      rintro rfl
      exact notClosed closed
    exact accepts.closed other otherInTable ((sameStatus other otherInTable different).trans closed)
  · intro other otherInTable above ours leftToo
    rcases Nat.eq_or_lt_of_le above with here | further
    · rw [← here]
      exact accepts.closed sock inTable isClosed
    · have different : other ≠ sock := (Nat.ne_of_lt further).symm
      apply accepts.freed other otherInTable further
      · rw [(same other otherInTable different).2]
        exact ours
      · exact (goneAfter other otherInTable different).mpr leftToo

theorem acceptFrom_accepts {left : Nat} (table : sock + left = maxSockNum) (listening : Bool)
    (ethernet : Ethernet) : Accepts sock listening ethernet (acceptFrom left sock listening ethernet) := by
  induction left generalizing sock listening ethernet with
  | zero =>
      have last : sock = maxSockNum := table
      rw [last]
      exact accepts_end listening ethernet
  | succ left ih =>
      have inTable : sock < maxSockNum := by omega
      have further : sock + 1 + left = maxSockNum := by omega
      unfold acceptFrom
      by_cases listed : ethernet.serverPort sock = serverListensOn
      · rw [if_pos listed]
        by_cases listen : (ethernet.chip.socket sock).status = .listen
        · rw [if_pos listen]
          have accepts := ih further true ethernet
          have passed : Accepts (sock + 1) listening ethernet
              (acceptFrom left (sock + 1) true ethernet) :=
            { accepts with
              offers := fun _ => accepts.offers fun _ => ⟨sock, inTable, listed, listen⟩ }
          apply passed.skip
          rintro ⟨_, left, _⟩
          rw [listen] at left
          cases left
        · rw [if_neg listen, ServerPass.release]
          by_cases left : gone ethernet sock
          · rw [if_pos left]
            exact (ih further listening (stop ethernet sock)).release inTable listed left
          · rw [if_neg left]
            exact (ih further listening ethernet).skip fun both => left both.2
      · rw [if_neg listed]
        exact (ih further listening ethernet).skip fun both => listed both.1

theorem chooseFrom_spec (left sock : Nat) (ethernet : Ethernet) :
    match chooseFrom left sock ethernet with
    | some client => sock ≤ client ∧ client < sock + left ∧ waits ethernet client ∧
        ∀ other, sock ≤ other → other < client → ¬ waits ethernet other
    | none => ∀ other, sock ≤ other → other < sock + left → ¬ waits ethernet other := by
  induction left generalizing sock with
  | zero => exact fun other above below => absurd above (Nat.not_le.mpr below)
  | succ left ih =>
      unfold chooseFrom
      by_cases waiting : waits ethernet sock
      · rw [if_pos waiting]
        refine ⟨Nat.le_refl _, Nat.lt_add_of_pos_right (Nat.succ_pos left), waiting, ?_⟩
        exact fun other above below => absurd above (Nat.not_le.mpr below)
      · rw [if_neg waiting]
        have same : sock + 1 + left = sock + (left + 1) := by omega
        have later := ih (sock + 1)
        cases found : chooseFrom left (sock + 1) ethernet with
        | none =>
            rw [found] at later
            intro other above below
            rcases Nat.eq_or_lt_of_le above with here | further
            · rw [← here]
              exact waiting
            · exact later other further (same ▸ below)
        | some client =>
            rw [found] at later
            obtain ⟨above, below, itWaits, first⟩ := later
            refine ⟨Nat.le_of_succ_le above, same ▸ below, itWaits, fun other from_ less => ?_⟩
            rcases Nat.eq_or_lt_of_le from_ with here | further
            · rw [← here]
              exact waiting
            · exact first other further less

/-! ### Passes -/

/-- Where a pass that began with these sockets has left the device. -/
structure Serves (before : Ethernet) (after : System) : Prop where
  offers : Listening after.ethernet ∨ InUse after.ethernet
  kept : ∀ sock < maxSockNum, status before sock ≠ .closed →
    ¬ (before.serverPort sock = serverListensOn ∧ gone before sock) →
      Kept before after.ethernet sock
  freed : ∀ sock < maxSockNum, before.serverPort sock = serverListensOn → gone before sock →
    Free after.ethernet sock
  client : match after.dashboard with
    | .connected client => client < maxSockNum ∧ waits after.ethernet client ∧
        ∀ other < client, ¬ waits after.ethernet other
    | .mainSleep => ∀ other < maxSockNum, ¬ waits after.ethernet other
    | _ => False

theorem arrived_serves {system : System} (arrived : Arrived (serverAvailable ethernet) system) :
    Serves ethernet system := by
  obtain ⟨sockets, point⟩ := arrived
  have accepts := acceptFrom_accepts (Nat.zero_add maxSockNum) false ethernet
  have chosen := chooseFrom_spec maxSockNum 0 (acceptFrom maxSockNum 0 false ethernet)
  change system.ethernet = acceptFrom maxSockNum 0 false ethernet at sockets
  rw [← sockets] at accepts chosen
  rw [Nat.zero_add] at chosen
  constructor
  · exact accepts.offers nofun
  · intro sock inTable isOpen present
    exact accepts.kept sock inTable isOpen fun left => present left.2
  · exact fun sock inTable => accepts.freed sock inTable (Nat.zero_le sock)
  · change system.dashboard = arrival (chooseFrom maxSockNum 0
      (acceptFrom maxSockNum 0 false ethernet)) at point
    rw [← sockets] at point
    rw [point]
    cases found : chooseFrom maxSockNum 0 system.ethernet with
    | none =>
        rw [found] at chosen
        exact fun other inTable => chosen other (Nat.zero_le other) inTable
    | some client =>
        rw [found] at chosen
        obtain ⟨_, inTable, itWaits, first⟩ := chosen
        exact ⟨inTable, itWaits, fun other less => first other (Nat.zero_le other) less⟩

/-- Whatever state the sockets are in, a pass of the dashboard's loop comes to its end where
the network leaves them alone: the sockets of clients that are gone are free again, no other
open one is touched, the server listens or all eight are in use, and the client taken next
is the first that has sent something. -/
theorem pass_serves (tmpIp : IPAddress) (ethernet : Ethernet) (reset : Bool)
    (events : List SocketOwnership.Event)
    (quiet : Meets (SocketOwnership.step tmpIp) Quiet ⟨ethernet, .accept 0 false, reset⟩ events)
    (enough : 43 ≤
      counted (SocketOwnership.step tmpIp) advances ⟨ethernet, .accept 0 false, reset⟩ events) :
    ∃ first rest, events = first ++ rest ∧
      Serves ethernet (run (SocketOwnership.step tmpIp) ⟨ethernet, .accept 0 false, reset⟩ first) := by
  obtain ⟨first, rest, split, arrived⟩ := pass_arrives tmpIp ethernet reset events quiet enough
  exact ⟨first, rest, split, arrived_serves arrived⟩

instance decidableQuiet (system : System) : ∀ event, Decidable (Quiet system event)
  | .network s status received => inferInstanceAs (Decidable (stopped system.dashboard = some s ∧
      status = .closed ∧ received = (system.ethernet.chip.socket s).received))
  | .dashboard .proceed => isTrue trivial
  | .dashboard .timeout => isTrue trivial
  | .dashboard .request => isFalse id
  | .dashboard (.setTargetIp _) => isFalse id
  | .dashboard .startDhcp => isFalse id
  | .dashboard (.setThisIp _) => isFalse id
  | .dashboard .startSniffing => isFalse id
  | .dashboard .stopSniffing => isFalse id
  | .dashboard .respond => isFalse id
  | .dashboard (.leased _) => isFalse id
  | .ethernetTask _ _ _ => isTrue trivial

/-- The second socket's client is gone, the first is the sniffer's. -/
def abandoned : Ethernet :=
  { (startup none).ethernet with
    chip := (startup none).ethernet.chip.set 1 ⟨.tcp, serverListensOn, .closeWait, false, .server⟩
    serverPort := Function.update (startup none).ethernet.serverPort 1 serverListensOn }

def passEvents : List SocketOwnership.Event :=
  List.replicate 4 (.dashboard .proceed) ++ [.network 1 .closed false] ++
    List.replicate 43 (.dashboard .proceed)

set_option maxRecDepth 4000 in
theorem abandoned_serves : ∃ first rest, passEvents = first ++ rest ∧
    Serves abandoned (run (SocketOwnership.step ⟨fun _ => 0⟩)
      ⟨abandoned, .accept 0 false, false⟩ first) :=
  pass_serves _ _ _ _ (by decide) (by decide)

end MSniff.Concrete.ServerPass
