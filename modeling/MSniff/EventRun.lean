/-
Runs of a deterministic machine that consumes a list of events. Nondeterminism
of an environment is a choice of the list. One step lemma about the machine is
lifted here to runs whose steps all meet a condition on the event and on the state
before it.
-/

import Mathlib.Logic.Function.Basic

namespace MSniff.EventRun

variable {State Event : Type*}

def run (step : State → Event → State) (state : State) (events : List Event) : State :=
  events.foldl step state

@[simp] theorem run_nil (step : State → Event → State) (state : State) :
    run step state [] = state := rfl

@[simp] theorem run_cons (step : State → Event → State) (state : State)
    (event : Event) (rest : List Event) :
    run step state (event :: rest) = run step (step state event) rest := rfl

theorem run_append (step : State → Event → State) (state : State)
    (first second : List Event) :
    run step state (first ++ second) = run step (run step state first) second :=
  List.foldl_append

/-- Each step of the run meets the condition in the state it is taken from. -/
def Meets (step : State → Event → State) (Condition : State → Event → Prop) :
    State → List Event → Prop
  | _, [] => True
  | state, event :: rest =>
      Condition state event ∧ Meets step Condition (step state event) rest

instance decidableMeets (step : State → Event → State) (Condition : State → Event → Prop)
    [∀ state event, Decidable (Condition state event)] :
    ∀ state events, Decidable (Meets step Condition state events)
  | _, [] => isTrue trivial
  | state, event :: rest =>
      @instDecidableAnd (Condition state event) (Meets step Condition (step state event) rest) _
        (decidableMeets step Condition (step state event) rest)

theorem meets_append {step : State → Event → State} {Condition : State → Event → Prop}
    (state : State) (first second : List Event) :
    Meets step Condition state (first ++ second) ↔
      Meets step Condition state first ∧
        Meets step Condition (run step state first) second := by
  induction first generalizing state with
  | nil => simp [Meets]
  | cons event rest ih =>
      simp only [List.cons_append, Meets, run_cons, ih, and_assoc]

/-- A condition on the events alone is met by a run where each event meets it. -/
theorem meets_forall_iff (step : State → Event → State) (Condition : Event → Prop)
    (state : State) (events : List Event) :
    Meets step (fun _ event => Condition event) state events ↔
      ∀ event ∈ events, Condition event := by
  induction events generalizing state with
  | nil => exact iff_of_true trivial (List.forall_mem_nil _)
  | cons event rest ih => rw [Meets, ih, List.forall_mem_cons]

/-- What every step meeting the condition preserves holds after every run whose
steps all meet it. -/
theorem Meets.invariant {step : State → Event → State} {Condition : State → Event → Prop}
    {Invariant : State → Prop}
    (preserved : ∀ state event, Invariant state → Condition state event →
      Invariant (step state event))
    {state : State} {events : List Event} (meets : Meets step Condition state events)
    (initially : Invariant state) : Invariant (run step state events) := by
  induction events generalizing state with
  | nil => exact initially
  | cons event rest ih => exact ih meets.2 (preserved state event initially meets.1)

/-- How many of a run's steps count, each judged in the state it is taken from. -/
def counted (step : State → Event → State) (counts : State → Event → Bool) :
    State → List Event → Nat
  | _, [] => 0
  | state, event :: rest =>
      counted step counts (step state event) rest + (if counts state event then 1 else 0)

theorem counted_event (step : State → Event → State) (counts : Event → Bool) (state : State)
    (events : List Event) :
    counted step (fun _ event => counts event) state events = events.countP counts := by
  induction events generalizing state with
  | nil => rfl
  | cons event rest ih => rw [counted, List.countP_cons, ih]

theorem counted_append (step : State → Event → State) (counts : State → Event → Bool)
    (state : State) (first second : List Event) :
    counted step counts state (first ++ second) =
      counted step counts (run step state first) second + counted step counts state first := by
  induction first generalizing state with
  | nil => rfl
  | cons event rest ih =>
      rw [List.cons_append, counted, counted, run_cons, ih]
      exact Nat.add_assoc _ _ _

/-- Where every step that counts brings a potential down and no step raises it, a permitted
run with enough of them brings it to nothing. -/
theorem Meets.potential_run_le {step : State → Event → State} {Condition : State → Event → Prop}
    {Invariant : State → Prop} {counts : State → Event → Bool} (potential : State → Nat)
    (preserved : ∀ state event, Invariant state → Condition state event →
      Invariant (step state event))
    (falls : ∀ state event, Invariant state → Condition state event →
      potential (step state event) ≤ potential state - (if counts state event then 1 else 0))
    {state : State} {events : List Event} (meets : Meets step Condition state events)
    (initially : Invariant state) :
    potential (run step state events) ≤ potential state - counted step counts state events := by
  induction events generalizing state with
  | nil => exact Nat.le_refl _
  | cons event rest ih =>
      have later := ih meets.2 (preserved state event initially meets.1)
      have fallen := falls state event initially meets.1
      rw [counted, run_cons]
      omega

/-- What a run's steps weigh together, each judged in the state it is taken from. -/
def total (step : State → Event → State) (weight : State → Event → Nat) :
    State → List Event → Nat
  | _, [] => 0
  | state, event :: rest => total step weight (step state event) rest + weight state event

/-- Where each step brings a potential down by its weight and only certain events raise it,
each by no more than its cost, these events bound the weight of a permitted run. -/
theorem Meets.total_le {step : State → Event → State} {Condition : State → Event → Prop}
    {Invariant : State → Prop} {weight : State → Event → Nat} {raises : Event → Bool}
    (potential : State → Nat) (cost : Nat)
    (preserved : ∀ state event, Invariant state → Condition state event →
      Invariant (step state event))
    (pays : ∀ state event, Invariant state → Condition state event →
      potential (step state event) + weight state event ≤
        potential state + (if raises event then cost else 0))
    {state : State} {events : List Event} (meets : Meets step Condition state events)
    (initially : Invariant state) :
    total step weight state events + potential (run step state events) ≤
      potential state + cost * events.countP raises := by
  induction events generalizing state with
  | nil => exact Nat.le_of_eq (Nat.zero_add _)
  | cons event rest ih =>
      have later := ih meets.2 (preserved state event initially meets.1)
      have paid := pays state event initially meets.1
      have charge : cost * (rest.countP raises + if raises event then 1 else 0) =
          cost * rest.countP raises + if raises event then cost else 0 := by
        split
        · exact Nat.mul_succ _ _
        · rfl
      rw [total, run_cons, List.countP_cons, charge]
      omega

/-- No run of the events allowed weighs more than the amount, and each that weighs as much
has come to the goal. -/
def Leads (step : State → Event → State) (weight : State → Event → Nat) (Allowed : Event → Prop)
    (state : State) (amount : Nat) (Goal : State → Prop) : Prop :=
  ∀ events, (∀ event ∈ events, Allowed event) →
    total step weight state events ≤ amount ∧
      (total step weight state events = amount → Goal (run step state events))

/-- Where nothing allowed moves the machine it is at its goal or never gets there. -/
theorem Leads.stay {step : State → Event → State} {weight : State → Event → Nat}
    {Allowed : Event → Prop} {state : State} {Goal : State → Prop}
    (still : ∀ event, Allowed event → step state event = state ∧ weight state event = 0)
    (reached : Goal state) : Leads step weight Allowed state 0 Goal := by
  intro events
  induction events with
  | nil => exact fun _ => ⟨Nat.le_refl 0, fun _ => reached⟩
  | cons event rest ih =>
      intro allowed
      obtain ⟨same, weightless⟩ := still event (allowed event List.mem_cons_self)
      rw [total, run_cons, same, weightless]
      exact ih fun later member => allowed later (List.mem_cons_of_mem _ member)

/-- Each event allowed leaves the machine where it is or leads on from there. -/
theorem Leads.step {step : State → Event → State} {weight : State → Event → Nat}
    {Allowed : Event → Prop} {state : State} {amount : Nat} {Goal : State → Prop}
    (positive : 0 < amount)
    (next : ∀ event, Allowed event →
      step state event = state ∧ weight state event = 0 ∨
        ∃ left, amount = left + weight state event ∧
          Leads step weight Allowed (step state event) left Goal) :
    Leads step weight Allowed state amount Goal := by
  intro events
  induction events with
  | nil => exact fun _ => ⟨Nat.zero_le _, fun reached => absurd reached (Nat.ne_of_lt positive)⟩
  | cons event rest ih =>
      intro allowed
      have restAllowed : ∀ later ∈ rest, Allowed later :=
        fun later member => allowed later (List.mem_cons_of_mem _ member)
      rcases next event (allowed event List.mem_cons_self) with ⟨same, weightless⟩ | ⟨left, split, leads⟩
      · rw [total, run_cons, same, weightless]
        exact ih restAllowed
      · obtain ⟨bounded, reaches⟩ := leads rest restAllowed
        rw [total, run_cons, split]
        exact ⟨Nat.add_le_add_right bounded _, fun exact => reaches (Nat.add_right_cancel exact)⟩

/-- Where each counted step on the way brings a potential down and no step raises it, a
permitted run with more counted steps than the potential allows comes to the goal. -/
theorem Meets.reaches {step : State → Event → State} {Condition : State → Event → Prop}
    {Invariant Goal : State → Prop} {counts : State → Event → Bool} (potential : State → Nat)
    (progress : ∀ state event, Invariant state → Condition state event →
      Goal (step state event) ∨ Invariant (step state event) ∧
        potential (step state event) + (if counts state event then 1 else 0) ≤ potential state)
    {state : State} {events : List Event} (meets : Meets step Condition state events)
    (initially : Invariant state) (enough : potential state < counted step counts state events) :
    ∃ first rest, events = first ++ rest ∧ Goal (run step state first) := by
  induction events generalizing state with
  | nil => exact absurd enough (Nat.not_lt_zero _)
  | cons event rest ih =>
      rcases progress state event initially meets.1 with reached | ⟨preserved, falls⟩
      · exact ⟨[event], rest, rfl, reached⟩
      · unfold counted at enough
        have remaining : potential (step state event) <
            counted step counts (step state event) rest := by omega
        obtain ⟨first, later, split, goal⟩ := ih meets.2 preserved remaining
        exact ⟨event :: first, later, congrArg (event :: ·) split, goal⟩

/-- Where an invariant turns each permitted step into a safe one, all steps of a
permitted run are safe. -/
theorem Meets.safe {step : State → Event → State} {Condition Safe : State → Event → Prop}
    {Invariant : State → Prop}
    (preserved : ∀ state event, Invariant state → Condition state event →
      Invariant (step state event))
    (safe : ∀ state event, Invariant state → Condition state event → Safe state event)
    {state : State} {events : List Event} (meets : Meets step Condition state events)
    (initially : Invariant state) : Meets step Safe state events := by
  induction events generalizing state with
  | nil => exact trivial
  | cons event rest ih =>
      constructor
      · exact safe state event initially meets.1
      · exact ih meets.2 (preserved state event initially meets.1)

/-- Where an invariant makes a condition on each step equivalent to its safety and
every permitted step keeps it, the runs of safe steps are the permitted runs. -/
theorem meets_iff {step : State → Event → State} {Condition Safe : State → Event → Prop}
    {Invariant : State → Prop}
    (preserved : ∀ state event, Invariant state → Condition state event →
      Invariant (step state event))
    (exact : ∀ state event, Invariant state → (Safe state event ↔ Condition state event))
    {state : State} (initially : Invariant state) (events : List Event) :
    Meets step Safe state events ↔ Meets step Condition state events := by
  induction events generalizing state with
  | nil => exact Iff.rfl
  | cons event rest ih =>
      unfold Meets
      rw [exact state event initially]
      constructor
      · intro safe
        exact ⟨safe.1, (ih (preserved state event initially safe.1)).mp safe.2⟩
      · intro permitted
        exact ⟨permitted.1, (ih (preserved state event initially permitted.1)).mpr permitted.2⟩

theorem meets_congr {step : State → Event → State} {Condition Safe : State → Event → Prop}
    (exact : ∀ state event, Safe state event ↔ Condition state event) (state : State)
    (events : List Event) : Meets step Safe state events ↔ Meets step Condition state events :=
  @meets_iff State Event step Condition Safe (fun _ => True) (fun _ _ _ _ => trivial)
    (fun state event _ => exact state event) state trivial events

end MSniff.EventRun
