/-
Tasks of fixed priorities on one processor, with binary semaphores between them. A task
runs until it asks the kernel for something; of several ready tasks only the one of the
highest priority may run, and among equals the one that has been ready for longest. So a
task that is under way is never interleaved with another of its priority.
-/

import MSniff.EventRun
import Mathlib.Data.List.Nodup

namespace MSniff.TaskSchedule

open EventRun

/-- A ready task holds the number under which it became ready. -/
inductive Status (Semaphore : Type*)
  | ready (since : Nat)
  | asleep
  | pending (semaphore : Semaphore)
  deriving DecidableEq

inductive Request (Semaphore : Type*)
  | none
  | sleep
  | pend (semaphore : Semaphore)
  | post (semaphore : Semaphore)
  deriving DecidableEq

/-- What a task does in one go: the shared state it leaves, where it stands then and what
it asks of the kernel. -/
structure Action (Semaphore Shared Place : Type*) where
  shared : Shared
  place : Place
  request : Request Semaphore

variable {Task Semaphore Shared Outside : Type*} {Place Choice : Task → Type*}

structure Program (Semaphore Shared Outside : Type*) (Place Choice : Task → Type*) where
  priority : Task → Nat
  act : ∀ task, Shared → Place task → Choice task → Action Semaphore Shared (Place task)
  outside : Outside → Shared → Shared

/-- A task is under way when it has run since it last became ready. -/
structure Kernel (Semaphore Shared : Type*) (Place : Task → Type*) where
  shared : Shared
  place : ∀ task, Place task
  status : Task → Status Semaphore
  waiting : Semaphore → List Task
  available : Semaphore → Bool
  clock : Nat
  underWay : Task → Bool

inductive Event (Outside : Type*) (Choice : Task → Type*)
  | run (task : Task) (choice : Choice task)
  | wake (task : Task)
  | outside (event : Outside)

/-- This task may run: no other ready task is of a higher priority, and none of its own
has been ready for longer. -/
def Dispatched (program : Program Semaphore Shared Outside Place Choice)
    (kernel : Kernel Semaphore Shared Place) (task : Task) : Prop :=
  ∃ since, kernel.status task = .ready since ∧ ∀ other, other ≠ task → ∀ later,
    kernel.status other = .ready later → program.priority other < program.priority task ∨
      program.priority other = program.priority task ∧ since < later

/-- The steps that the kernel allows. -/
def Allowed (program : Program Semaphore Shared Outside Place Choice)
    (kernel : Kernel Semaphore Shared Place) : Event Outside Choice → Prop
  | .run task _ => Dispatched program kernel task
  | _ => True

/-- A task under way has been ready for longer than each other of its priority. -/
structure Consistent (program : Program Semaphore Shared Outside Place Choice)
    (kernel : Kernel Semaphore Shared Place) : Prop where
  pending : ∀ semaphore, ∀ task ∈ kernel.waiting semaphore,
    kernel.status task = .pending semaphore
  distinct : ∀ semaphore, (kernel.waiting semaphore).Nodup
  clocked : ∀ task since, kernel.status task = .ready since → since < kernel.clock
  first : ∀ task, kernel.underWay task = true → ∃ since, kernel.status task = .ready since ∧
    ∀ other, other ≠ task → program.priority other = program.priority task → ∀ later,
      kernel.status other = .ready later → since < later

variable {program : Program Semaphore Shared Outside Place Choice}
  {kernel : Kernel Semaphore Shared Place} {task other : Task}

/-- Where a task may run, no other of its priority is under way. -/
theorem Consistent.alone (consistent : Consistent program kernel)
    (dispatched : Dispatched program kernel task)
    (equal : program.priority other = program.priority task)
    (underWay : kernel.underWay other = true) : other = task := by
  by_contra different
  obtain ⟨since, ready, longest⟩ := dispatched
  obtain ⟨before, otherReady, earlier⟩ := consistent.first other underWay
  have younger := earlier task (Ne.symm different) equal.symm since ready
  rcases longest other different before otherReady with lower | ⟨_, older⟩
  · exact Nat.ne_of_lt lower equal
  · exact Nat.lt_asymm younger older

/-- What the kernel keeps does not depend on the tasks' own data. -/
theorem Consistent.data (consistent : Consistent program kernel) (shared : Shared)
    (place : ∀ task, Place task) (available : Semaphore → Bool) :
    Consistent program
      { kernel with
        shared := shared
        place := place
        available := available } where
  pending := consistent.pending
  distinct := consistent.distinct
  clocked := consistent.clocked
  first := consistent.first

/-- A task waits where its status says so, and nowhere else. -/
theorem Consistent.not_waiting (consistent : Consistent program kernel)
    (idle : ∀ semaphore, kernel.status task ≠ .pending semaphore) (semaphore : Semaphore) :
    task ∉ kernel.waiting semaphore :=
  fun waits => idle semaphore (consistent.pending semaphore task waits)

theorem Dispatched.not_waiting (dispatched : Dispatched program kernel task)
    (consistent : Consistent program kernel) (semaphore : Semaphore) :
    task ∉ kernel.waiting semaphore := by
  obtain ⟨since, ready, _⟩ := dispatched
  apply consistent.not_waiting
  intro other pends
  rw [ready] at pends
  cases pends

theorem Consistent.relist (consistent : Consistent program kernel)
    {waiting : Semaphore → List Task}
    (pending : ∀ semaphore, ∀ task ∈ waiting semaphore, kernel.status task = .pending semaphore)
    (distinct : ∀ semaphore, (waiting semaphore).Nodup) :
    Consistent program { kernel with waiting := waiting } where
  pending := pending
  distinct := distinct
  clocked := consistent.clocked
  first := consistent.first

/-! ### Deciding who may run -/

section Deciding

variable [DecidableEq Task]

def yields (program : Program Semaphore Shared Outside Place Choice)
    (kernel : Kernel Semaphore Shared Place) (task : Task) (since : Nat) (other : Task) : Bool :=
  match kernel.status other with
  | .ready later =>
      other = task ∨ program.priority other < program.priority task ∨
        program.priority other = program.priority task ∧ since < later
  | _ => true

def mayRun (program : Program Semaphore Shared Outside Place Choice) (tasks : List Task)
    (kernel : Kernel Semaphore Shared Place) (task : Task) : Bool :=
  match kernel.status task with
  | .ready since => tasks.all (yields program kernel task since)
  | _ => false

theorem yields_iff {since : Nat} : yields program kernel task since other = true ↔
    (other ≠ task → ∀ later, kernel.status other = .ready later →
      program.priority other < program.priority task ∨
        program.priority other = program.priority task ∧ since < later) := by
  unfold yields
  cases kernel.status other with
  | ready later =>
      simp only [decide_eq_true_eq, Status.ready.injEq, forall_eq']
      exact or_iff_not_imp_left
  | asleep => exact ⟨fun _ _ _ => nofun, fun _ => rfl⟩
  | pending semaphore => exact ⟨fun _ _ _ => nofun, fun _ => rfl⟩

theorem mayRun_iff {tasks : List Task} (complete : ∀ task, task ∈ tasks) :
    mayRun program tasks kernel task = true ↔ Dispatched program kernel task := by
  unfold mayRun Dispatched
  cases kernel.status task with
  | ready since =>
      simp only [Status.ready.injEq, exists_eq_left', List.all_eq_true, yields_iff]
      exact ⟨fun yield other => yield other (complete other), fun longest other _ => longest other⟩
  | asleep => exact ⟨nofun, fun ⟨_, ready, _⟩ => nomatch ready⟩
  | pending semaphore => exact ⟨nofun, fun ⟨_, ready, _⟩ => nomatch ready⟩

end Deciding

/-! ### What a task can ask for -/

section Operations

variable [DecidableEq Task]

def Kernel.makeReady (kernel : Kernel Semaphore Shared Place) (task : Task) :
    Kernel Semaphore Shared Place :=
  { kernel with
    status := Function.update kernel.status task (.ready kernel.clock)
    clock := kernel.clock + 1 }

def Kernel.goOn (kernel : Kernel Semaphore Shared Place) (task : Task) :
    Kernel Semaphore Shared Place :=
  { kernel with underWay := Function.update kernel.underWay task true }

def Kernel.block (kernel : Kernel Semaphore Shared Place) (task : Task)
    (status : Status Semaphore) : Kernel Semaphore Shared Place :=
  { kernel with
    status := Function.update kernel.status task status
    underWay := Function.update kernel.underWay task false }

theorem Kernel.status_makeReady_self :
    (kernel.makeReady task).status task = .ready kernel.clock :=
  Function.update_self ..

theorem Kernel.status_makeReady_of_ne (different : other ≠ task) :
    (kernel.makeReady task).status other = kernel.status other :=
  Function.update_of_ne different _ _

theorem Kernel.underWay_goOn_of_ne (different : other ≠ task) :
    (kernel.goOn task).underWay other = kernel.underWay other :=
  Function.update_of_ne different _ _

theorem Kernel.underWay_goOn_self : (kernel.goOn task).underWay task = true :=
  Function.update_self ..

theorem Kernel.status_block_self (status : Status Semaphore) :
    (kernel.block task status).status task = status :=
  Function.update_self ..

theorem Kernel.status_block_of_ne (different : other ≠ task) (status : Status Semaphore) :
    (kernel.block task status).status other = kernel.status other :=
  Function.update_of_ne different _ _

theorem Kernel.underWay_block_self (status : Status Semaphore) :
    (kernel.block task status).underWay task = false :=
  Function.update_self ..

theorem Kernel.underWay_block_of_ne (different : other ≠ task) (status : Status Semaphore) :
    (kernel.block task status).underWay other = kernel.underWay other :=
  Function.update_of_ne different _ _

theorem Consistent.makeReady (consistent : Consistent program kernel)
    (idle : ∀ since, kernel.status task ≠ .ready since)
    (free : ∀ semaphore, task ∉ kernel.waiting semaphore) :
    Consistent program (kernel.makeReady task) := by
  constructor
  · intro semaphore waiter waits
    have different : waiter ≠ task := by
      rintro rfl
      exact free semaphore waits
    rw [Kernel.status_makeReady_of_ne different]
    exact consistent.pending semaphore waiter waits
  · exact consistent.distinct
  · intro other since ready
    by_cases same : other = task
    · rw [same, Kernel.status_makeReady_self] at ready
      cases ready
      exact Nat.lt_succ_self _
    · rw [Kernel.status_makeReady_of_ne same] at ready
      exact Nat.lt_succ_of_lt (consistent.clocked other since ready)
  · intro other underWay
    obtain ⟨since, ready, earlier⟩ := consistent.first other underWay
    have different : other ≠ task := by
      rintro rfl
      exact idle since ready
    refine ⟨since, (Kernel.status_makeReady_of_ne different).trans ready, ?_⟩
    intro third apart equal later readyLater
    by_cases same : third = task
    · rw [same, Kernel.status_makeReady_self] at readyLater
      cases readyLater
      exact consistent.clocked other since ready
    · rw [Kernel.status_makeReady_of_ne same] at readyLater
      exact earlier third apart equal later readyLater

theorem Consistent.goOn (consistent : Consistent program kernel)
    (dispatched : Dispatched program kernel task) : Consistent program (kernel.goOn task) := by
  constructor
  · exact consistent.pending
  · exact consistent.distinct
  · exact consistent.clocked
  · intro other underWay
    by_cases same : other = task
    · subst same
      obtain ⟨since, ready, longest⟩ := dispatched
      refine ⟨since, ready, fun third apart equal later readyLater => ?_⟩
      rcases longest third apart later readyLater with lower | ⟨_, older⟩
      · exact absurd equal (Nat.ne_of_lt lower)
      · exact older
    · rw [Kernel.underWay_goOn_of_ne same] at underWay
      exact consistent.first other underWay

theorem Consistent.block (consistent : Consistent program kernel) {status : Status Semaphore}
    (idle : ∀ since, status ≠ .ready since)
    (waits : ∀ semaphore, task ∉ kernel.waiting semaphore) :
    Consistent program (kernel.block task status) := by
  have readyBefore : ∀ other since, (kernel.block task status).status other = .ready since →
      kernel.status other = .ready since := by
    intro other since ready
    by_cases same : other = task
    · rw [same, Kernel.status_block_self] at ready
      exact absurd ready (idle since)
    · rw [Kernel.status_block_of_ne same] at ready
      exact ready
  constructor
  · intro semaphore waiter listed
    have different : waiter ≠ task := by
      rintro rfl
      exact waits semaphore listed
    rw [Kernel.status_block_of_ne different]
    exact consistent.pending semaphore waiter listed
  · exact consistent.distinct
  · exact fun other since ready => consistent.clocked other since (readyBefore other since ready)
  · intro other underWay
    have different : other ≠ task := by
      rintro rfl
      rw [Kernel.underWay_block_self] at underWay
      cases underWay
    rw [Kernel.underWay_block_of_ne different] at underWay
    obtain ⟨since, ready, earlier⟩ := consistent.first other underWay
    refine ⟨since, (Kernel.status_block_of_ne different status).trans ready, ?_⟩
    intro third apart equal later readyLater
    exact earlier third apart equal later (readyBefore third later readyLater)

/-! ### Steps and runs -/

variable [DecidableEq Semaphore]

def Kernel.pend (kernel : Kernel Semaphore Shared Place) (task : Task) (semaphore : Semaphore) :
    Kernel Semaphore Shared Place :=
  if kernel.available semaphore then
    { kernel with available := Function.update kernel.available semaphore false }.goOn task
  else
    { kernel.block task (.pending semaphore) with
      waiting := Function.update kernel.waiting semaphore (kernel.waiting semaphore ++ [task]) }

def Kernel.post (kernel : Kernel Semaphore Shared Place) (semaphore : Semaphore) :
    Kernel Semaphore Shared Place :=
  match kernel.waiting semaphore with
  | [] => { kernel with available := Function.update kernel.available semaphore true }
  | first :: rest =>
      { kernel with waiting := Function.update kernel.waiting semaphore rest }.makeReady first

def Kernel.serve (kernel : Kernel Semaphore Shared Place) (task : Task) :
    Request Semaphore → Kernel Semaphore Shared Place
  | .none => kernel.goOn task
  | .sleep => kernel.block task .asleep
  | .pend semaphore => kernel.pend task semaphore
  | .post semaphore => (kernel.goOn task).post semaphore

def step (program : Program Semaphore Shared Outside Place Choice)
    (kernel : Kernel Semaphore Shared Place) : Event Outside Choice → Kernel Semaphore Shared Place
  | .run task choice =>
      let action := program.act task kernel.shared (kernel.place task) choice
      { kernel with
        shared := action.shared
        place := Function.update kernel.place task action.place }.serve task action.request
  | .wake task => if kernel.status task = .asleep then kernel.makeReady task else kernel
  | .outside event => { kernel with shared := program.outside event kernel.shared }

theorem Consistent.post (consistent : Consistent program kernel) (semaphore : Semaphore) :
    Consistent program (kernel.post semaphore) := by
  unfold Kernel.post
  cases listed : kernel.waiting semaphore with
  | nil => exact consistent.data _ _ _
  | cons first rest =>
      have pending := consistent.pending semaphore
      have distinct := consistent.distinct semaphore
      rw [listed] at pending distinct
      have pends := pending first List.mem_cons_self
      have shorter : Consistent program
          { kernel with waiting := Function.update kernel.waiting semaphore rest } := by
        apply consistent.relist
        · apply (Function.forall_update_iff kernel.waiting fun semaphore waiters =>
            ∀ task ∈ waiters, kernel.status task = .pending semaphore).mpr
          constructor
          · exact fun task waits => pending task (List.mem_cons_of_mem _ waits)
          · exact fun other _ => consistent.pending other
        · apply (Function.forall_update_iff kernel.waiting fun _ waiters => waiters.Nodup).mpr
          exact ⟨distinct.of_cons, fun other _ => consistent.distinct other⟩
      apply shorter.makeReady
      · intro since ready
        rw [pends] at ready
        cases ready
      · intro other waits
        have same : Status.pending semaphore = .pending other :=
          pends.symm.trans (shorter.pending other first waits)
        cases same
        have again : first ∈ rest := (Function.update_self semaphore rest kernel.waiting) ▸ waits
        exact distinct.notMem again

theorem Consistent.pend (consistent : Consistent program kernel)
    (dispatched : Dispatched program kernel task) (semaphore : Semaphore) :
    Consistent program (kernel.pend task semaphore) := by
  have free := dispatched.not_waiting consistent
  unfold Kernel.pend
  split
  · exact (consistent.data _ _ _).goOn dispatched
  · have blocked : Consistent program (kernel.block task (.pending semaphore)) :=
      consistent.block (fun _ => nofun) free
    apply blocked.relist
    · apply (Function.forall_update_iff kernel.waiting fun semaphore' waiters =>
        ∀ waiter ∈ waiters,
          (kernel.block task (.pending semaphore)).status waiter = .pending semaphore').mpr
      constructor
      · intro waiter waits
        rcases List.mem_append.mp waits with before | now
        · exact blocked.pending semaphore waiter before
        · rw [List.mem_singleton.mp now]
          exact Kernel.status_block_self _
      · exact fun other _ => blocked.pending other
    · apply (Function.forall_update_iff kernel.waiting fun _ waiters => waiters.Nodup).mpr
      constructor
      · rw [← List.concat_eq_append]
        exact (consistent.distinct semaphore).concat (free semaphore)
      · exact fun other _ => consistent.distinct other

theorem Consistent.step (consistent : Consistent program kernel)
    {event : Event Outside Choice} (allowed : Allowed program kernel event) :
    Consistent program (step program kernel event) := by
  cases event with
  | run task choice =>
      let action := program.act task kernel.shared (kernel.place task) choice
      have acted := consistent.data action.shared
        (Function.update kernel.place task action.place) kernel.available
      have dispatched : Dispatched program kernel task := allowed
      change Consistent program (Kernel.serve _ task action.request)
      cases action.request with
      | none => exact acted.goOn dispatched
      | sleep =>
          exact acted.block (fun _ => nofun) (dispatched.not_waiting consistent)
      | pend semaphore => exact acted.pend dispatched semaphore
      | post semaphore => exact (acted.goOn dispatched).post semaphore
  | wake task =>
      change Consistent program (if kernel.status task = .asleep then _ else kernel)
      split
      · next asleep =>
          apply consistent.makeReady
          · intro since ready
            rw [asleep] at ready
            cases ready
          · apply consistent.not_waiting
            intro other pends
            rw [asleep] at pends
            cases pends
      · exact consistent
  | outside event => exact consistent.data _ _ _

/-! ### What a step leaves of the others -/

variable {semaphore : Semaphore} {request : Request Semaphore}

theorem Kernel.post_data (kernel : Kernel Semaphore Shared Place) (semaphore : Semaphore) :
    (kernel.post semaphore).shared = kernel.shared ∧ (kernel.post semaphore).place = kernel.place ∧
      (kernel.post semaphore).underWay = kernel.underWay := by
  unfold Kernel.post
  cases kernel.waiting semaphore with
  | nil => exact ⟨rfl, rfl, rfl⟩
  | cons first rest => exact ⟨rfl, rfl, rfl⟩

theorem Kernel.serve_data (kernel : Kernel Semaphore Shared Place) (task : Task)
    (request : Request Semaphore) :
    (kernel.serve task request).shared = kernel.shared ∧
      (kernel.serve task request).place = kernel.place := by
  cases request with
  | none => exact ⟨rfl, rfl⟩
  | sleep => exact ⟨rfl, rfl⟩
  | pend semaphore =>
      rw [Kernel.serve, Kernel.pend]
      split
      · exact ⟨rfl, rfl⟩
      · exact ⟨rfl, rfl⟩
  | post semaphore =>
      obtain ⟨shared, place, _⟩ := (kernel.goOn task).post_data semaphore
      exact ⟨shared, place⟩

theorem Kernel.underWay_serve_of_ne (different : other ≠ task) (request : Request Semaphore) :
    (kernel.serve task request).underWay other = kernel.underWay other := by
  cases request with
  | none => exact Kernel.underWay_goOn_of_ne different
  | sleep => exact Kernel.underWay_block_of_ne different _
  | pend semaphore =>
      rw [Kernel.serve, Kernel.pend]
      split
      · exact Kernel.underWay_goOn_of_ne different
      · exact Kernel.underWay_block_of_ne different (.pending semaphore)
  | post semaphore =>
      obtain ⟨_, _, underWay⟩ := (kernel.goOn task).post_data semaphore
      exact (congrFun underWay other).trans (Kernel.underWay_goOn_of_ne different)

/-- A task that did not block is under way. -/
theorem Kernel.underWay_serve_self (goes : request = .none ∨ ∃ semaphore, request = .post semaphore) :
    (kernel.serve task request).underWay task = true := by
  rcases goes with rfl | ⟨semaphore, rfl⟩
  · exact Kernel.underWay_goOn_self
  · obtain ⟨_, _, underWay⟩ := (kernel.goOn task).post_data semaphore
    exact (congrFun underWay task).trans Kernel.underWay_goOn_self

theorem Kernel.available_post_of_ne {posted : Semaphore} (different : semaphore ≠ posted) :
    (kernel.post posted).available semaphore = kernel.available semaphore := by
  unfold Kernel.post
  cases kernel.waiting posted with
  | nil => exact Function.update_of_ne different _ _
  | cons first rest => rfl

theorem Kernel.available_serve (notPended : request ≠ .pend semaphore)
    (notPosted : request ≠ .post semaphore) :
    (kernel.serve task request).available semaphore = kernel.available semaphore := by
  cases request with
  | none => rfl
  | sleep => rfl
  | pend pended =>
      have different : semaphore ≠ pended := fun same => notPended (congrArg Request.pend same.symm)
      rw [Kernel.serve, Kernel.pend]
      split
      · exact Function.update_of_ne different _ _
      · rfl
  | post posted =>
      exact Kernel.available_post_of_ne fun same => notPosted (congrArg Request.post same.symm)

/-- A task waits on until its semaphore is posted. -/
theorem Consistent.pending_serve (consistent : Consistent program kernel)
    (different : other ≠ task) (pends : kernel.status other = .pending semaphore)
    (notPosted : request ≠ .post semaphore) :
    (kernel.serve task request).status other = .pending semaphore := by
  cases request with
  | none => exact pends
  | sleep => exact (Kernel.status_block_of_ne different _).trans pends
  | pend pended =>
      rw [Kernel.serve, Kernel.pend]
      split
      · exact pends
      · exact (Kernel.status_block_of_ne different _).trans pends
  | post posted =>
      change ((kernel.goOn task).post posted).status other = .pending semaphore
      unfold Kernel.post
      cases listed : (kernel.goOn task).waiting posted with
      | nil => exact pends
      | cons first rest =>
          have waits : first ∈ kernel.waiting posted := by
            change kernel.waiting posted = first :: rest at listed
            rw [listed]
            exact List.mem_cons_self
          have apart : other ≠ first := by
            rintro rfl
            have same := pends.symm.trans (consistent.pending posted other waits)
            cases same
            exact notPosted rfl
          exact (Kernel.status_makeReady_of_ne apart).trans pends

theorem Kernel.status_pend_self (taken : kernel.available semaphore = false) :
    (kernel.pend task semaphore).status task = .pending semaphore ∧
      (kernel.pend task semaphore).available = kernel.available := by
  unfold Kernel.pend
  rw [if_neg (Bool.eq_false_iff.mp taken)]
  exact ⟨Kernel.status_block_self _, rfl⟩

theorem pending_wake (pends : kernel.status other = .pending semaphore) :
    (step program kernel (.wake task)).status other = .pending semaphore := by
  change (if kernel.status task = .asleep then kernel.makeReady task else kernel).status other = _
  split
  · next asleep =>
      have different : other ≠ task := by
        rintro rfl
        rw [pends] at asleep
        cases asleep
      exact (Kernel.status_makeReady_of_ne different).trans pends
  · exact pends

theorem wake_data (task : Task) :
    let after := step program kernel (.wake task)
    after.shared = kernel.shared ∧ after.place = kernel.place ∧
      after.available = kernel.available ∧ after.underWay = kernel.underWay := by
  intro after
  by_cases asleep : kernel.status task = .asleep
  · have readied : after = kernel.makeReady task := if_pos asleep
    rw [readied]
    exact ⟨rfl, rfl, rfl, rfl⟩
  · have same : after = kernel := if_neg asleep
    rw [same]
    exact ⟨rfl, rfl, rfl, rfl⟩

variable {choice : Choice task}

theorem shared_run : (step program kernel (.run task choice)).shared =
    (program.act task kernel.shared (kernel.place task) choice).shared :=
  (Kernel.serve_data _ task _).1

theorem place_run_self : (step program kernel (.run task choice)).place task =
    (program.act task kernel.shared (kernel.place task) choice).place :=
  (congrFun (Kernel.serve_data _ task _).2 task).trans (Function.update_self _ _ _)

theorem place_run_of_ne (different : other ≠ task) :
    (step program kernel (.run task choice)).place other = kernel.place other :=
  (congrFun (Kernel.serve_data _ task _).2 other).trans (Function.update_of_ne different _ _)

theorem underWay_run_of_ne (different : other ≠ task) :
    (step program kernel (.run task choice)).underWay other = kernel.underWay other :=
  Kernel.underWay_serve_of_ne different _

theorem underWay_run_self
    (goes : (program.act task kernel.shared (kernel.place task) choice).request = .none ∨
      ∃ semaphore,
        (program.act task kernel.shared (kernel.place task) choice).request = .post semaphore) :
    (step program kernel (.run task choice)).underWay task = true :=
  Kernel.underWay_serve_self goes

theorem available_run
    (notPended : (program.act task kernel.shared (kernel.place task) choice).request ≠
      .pend semaphore)
    (notPosted : (program.act task kernel.shared (kernel.place task) choice).request ≠
      .post semaphore) :
    (step program kernel (.run task choice)).available semaphore = kernel.available semaphore :=
  Kernel.available_serve notPended notPosted

/-- A task that asks for a semaphore which is not available waits for it. -/
theorem run_pend
    (pends : (program.act task kernel.shared (kernel.place task) choice).request =
      .pend semaphore)
    (taken : kernel.available semaphore = false) :
    (step program kernel (.run task choice)).status task = .pending semaphore ∧
      (step program kernel (.run task choice)).available = kernel.available := by
  change (Kernel.serve _ task _).status task = _ ∧ (Kernel.serve _ task _).available = _
  rw [pends]
  exact Kernel.status_pend_self taken

theorem Consistent.pending_run (consistent : Consistent program kernel) (different : other ≠ task)
    (pends : kernel.status other = .pending semaphore)
    (notPosted : (program.act task kernel.shared (kernel.place task) choice).request ≠
      .post semaphore) :
    (TaskSchedule.step program kernel (.run task choice)).status other = .pending semaphore := by
  let action := program.act task kernel.shared (kernel.place task) choice
  have acted := consistent.data action.shared (Function.update kernel.place task action.place)
    kernel.available
  exact acted.pending_serve different pends notPosted

end Operations

end MSniff.TaskSchedule
