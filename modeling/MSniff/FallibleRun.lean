/-
Runs whose steps may fail for good, and a step made of tests of one key against
the names of a table, one after the other. Where the names differ at most one of
the tests succeeds.
-/

import Mathlib.Data.List.Nodup

namespace MSniff.FallibleRun

variable {State Event Error Key : Type*}

def run (step : State → Event → Except Error State) : State → List Event → Except Error State
  | state, [] => .ok state
  | state, event :: rest =>
      match step state event with
      | .ok next => run step next rest
      | .error error => .error error

variable {step : State → Event → Except Error State} {state next : State} {event : Event}
  {rest : List Event} {error : Error}

theorem run_cons_ok (succeeds : step state event = .ok next) :
    run step state (event :: rest) = run step next rest := by
  rw [run, succeeds]

theorem run_cons_error (fails : step state event = .error error) :
    run step state (event :: rest) = .error error := by
  rw [run, fails]

/-- The tests of a key against a table, in order. -/
def keyed [DecidableEq Key] (table : List (Key × (State → Except Error State))) (key : Key)
    (state : State) : Except Error State :=
  run (fun state (name, branch) => if key = name then branch state else .ok state) state table

variable [DecidableEq Key] {table : List (Key × (State → Except Error State))} {key : Key}

theorem keyed_of_not_mem (unknown : key ∉ table.map Prod.fst) (state : State) :
    keyed table key state = .ok state := by
  unfold keyed
  induction table with
  | nil => rfl
  | cons entry rest ih =>
      rw [List.map_cons, List.mem_cons, not_or] at unknown
      rw [run_cons_ok (if_neg unknown.1)]
      exact ih unknown.2

theorem keyed_of_mem (distinct : (table.map Prod.fst).Nodup)
    {branch : State → Except Error State} (known : (key, branch) ∈ table) (state : State) :
    keyed table key state = branch state := by
  induction table with
  | nil => cases known
  | cons entry rest ih =>
      rw [List.map_cons, List.nodup_cons] at distinct
      cases known with
      | head =>
          cases result : branch state with
          | ok next =>
              rw [keyed, run_cons_ok ((if_pos rfl).trans result)]
              exact keyed_of_not_mem distinct.1 next
          | error error => exact run_cons_error ((if_pos rfl).trans result)
      | tail _ known =>
          have listed : key ∈ rest.map Prod.fst :=
            List.mem_map.mpr ⟨(key, branch), known, rfl⟩
          have different : key ≠ entry.1 := fun same => distinct.1 (same ▸ listed)
          rw [keyed, run_cons_ok (if_neg different)]
          exact ih distinct.2 known

end MSniff.FallibleRun
