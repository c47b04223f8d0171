/-
One party's side of an exchange that ends in a lease: it asks who is there, requests
what it is offered, and is bound by the acknowledgement. Answers echo a number that
the party sent; where an answer is late the whole exchange starts over.
-/

import Mathlib.Order.Basic

namespace MSniff.LeaseExchange

variable {Ident Address : Type*}

/-- What the party waits for, with the number of its last message. -/
inductive Phase (Ident Address : Type*)
  | idle
  | selecting (ident : Ident)
  | requesting (ident : Ident)
  | bound (address : Address)

inductive Action (Ident Address : Type*)
  | discover (ident : Ident)
  | request (ident : Ident) (address : Address)
  | bind (ident : Ident) (address : Address)
  | restart
  | ignore

section

variable [LE Ident] (first : Ident)

inductive Step : Phase Ident Address → Action Ident Address → Phase Ident Address → Prop
  | discover (ident : Ident) : Step .idle (.discover ident) (.selecting ident)
  | request {current ident : Ident} {address : Address} (after : first ≤ ident)
      (before : ident ≤ current) :
      Step (.selecting current) (.request ident address) (.requesting ident)
  | bind {current ident : Ident} {address : Address} (after : first ≤ ident)
      (before : ident ≤ current) :
      Step (.requesting current) (.bind ident address) (.bound address)
  | unanswered (current : Ident) : Step (.selecting current) .restart .idle
  | refused (current : Ident) : Step (.requesting current) .restart .idle
  | ignore (phase : Phase Ident Address) : Step phase .ignore phase

inductive Trace : List (Action Ident Address) → Phase Ident Address → Prop
  | start : Trace [] .idle
  | step {actions : List (Action Ident Address)} {action : Action Ident Address}
      {phase next : Phase Ident Address} (before : Trace actions phase)
      (step : Step first phase action next) : Trace (actions ++ [action]) next

end

def Quiet (actions : List (Action Ident Address)) : Prop := ∀ action ∈ actions, action = .ignore

theorem quiet_nil : Quiet ([] : List (Action Ident Address)) := List.forall_mem_nil _

theorem Quiet.concat {actions : List (Action Ident Address)} (quiet : Quiet actions) :
    Quiet (actions ++ [.ignore]) := by
  rw [Quiet, List.forall_mem_append]
  constructor
  · exact quiet
  · exact List.forall_mem_singleton.mpr rfl

/-- The numbers and addresses of one exchange. -/
structure Exchange (Ident Address : Type*) where
  discovered : Ident
  requested : Ident
  offered : Address
  acknowledged : Ident
  granted : Address

/-- No answer is older than the first number or newer than what it answers. -/
structure Exchange.Ordered [LE Ident] (first : Ident) (exchange : Exchange Ident Address) : Prop where
  offerNotOld : first ≤ exchange.requested
  offerNotNew : exchange.requested ≤ exchange.discovered
  grantNotOld : first ≤ exchange.acknowledged
  grantNotNew : exchange.acknowledged ≤ exchange.requested

/-- What the actions before a phase must have ended with. -/
def Preceded [LE Ident] (first : Ident) (actions : List (Action Ident Address)) :
    Phase Ident Address → Prop
  | .idle => True
  | .selecting ident =>
      ∃ before quiet, Quiet quiet ∧ actions = before ++ .discover ident :: quiet
  | .requesting ident =>
      ∃ before discovered waited address quiet, Quiet waited ∧ Quiet quiet ∧ first ≤ ident ∧
        ident ≤ discovered ∧
        actions = before ++ .discover discovered :: waited ++ .request ident address :: quiet
  | .bound address =>
      ∃ (exchange : Exchange Ident Address) (before waited delayed quiet : _),
        exchange.Ordered first ∧ Quiet waited ∧ Quiet delayed ∧ Quiet quiet ∧
        exchange.granted = address ∧
        actions = before ++ .discover exchange.discovered :: waited ++
          .request exchange.requested exchange.offered :: delayed ++
          .bind exchange.acknowledged address :: quiet

variable [LE Ident] {first : Ident} {actions : List (Action Ident Address)}
  {action : Action Ident Address} {phase next : Phase Ident Address}

theorem Preceded.ignore (preceded : Preceded first actions phase) :
    Preceded first (actions ++ [.ignore]) phase := by
  cases phase with
  | idle => exact trivial
  | selecting ident =>
      obtain ⟨before, quiet, silent, rfl⟩ := preceded
      exact ⟨before, quiet ++ [.ignore], silent.concat, by simp⟩
  | requesting ident =>
      obtain ⟨before, discovered, waited, address, quiet, still, silent, after, notNew, rfl⟩ :=
        preceded
      exact ⟨before, discovered, waited, address, quiet ++ [.ignore], still, silent.concat, after,
        notNew, by simp⟩
  | bound address =>
      obtain ⟨exchange, before, waited, delayed, quiet, ordered, still, later, silent, granted, rfl⟩ :=
        preceded
      exact ⟨exchange, before, waited, delayed, quiet ++ [.ignore], ordered, still, later,
        silent.concat, granted, by simp⟩

theorem Step.preceded (step : Step first phase action next)
    (preceded : Preceded first actions phase) : Preceded first (actions ++ [action]) next := by
  cases step with
  | discover ident => exact ⟨actions, [], quiet_nil, rfl⟩
  | @request current ident address after before =>
      obtain ⟨earlier, quiet, silent, rfl⟩ := preceded
      exact ⟨earlier, current, quiet, address, [], silent, quiet_nil, after, before, by simp⟩
  | @bind current ident address after before =>
      obtain ⟨earlier, discovered, waited, offered, quiet, still, silent, afterOffer, notNew, rfl⟩ :=
        preceded
      exact ⟨⟨discovered, current, offered, ident, address⟩, earlier, waited, quiet, [],
        ⟨afterOffer, notNew, after, before⟩, still, silent, quiet_nil, rfl, by simp⟩
  | unanswered current => exact trivial
  | refused current => exact trivial
  | ignore phase => exact preceded.ignore

theorem Trace.preceded (trace : Trace first actions phase) : Preceded first actions phase := by
  induction trace with
  | start => exact trivial
  | step before step ih => exact step.preceded ih

end MSniff.LeaseExchange
