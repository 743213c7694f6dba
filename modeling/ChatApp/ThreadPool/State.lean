/-
  `ThreadPoolV2`. A step is a critical section of `mutex_`, or an access to an atomic or a
  notification outside of it. Waiting on a condition variable with a predicate is a loop of a test
  under the mutex and a sleep; the threads that wait on `cv_done_` hold the mutex between the two,
  because a worker changes `active_workers_` and notifies without it. Calls are numbered, and a
  task has the number of the call that submits it.

  `tasks_.top()` is one of the waiting tasks with the highest priority. A standard library leaves a
  moved-from `std::function` empty, so that calling it throws.
-/
import Mathlib.Data.List.Basic
import Mathlib.Logic.Function.Basic
import ChatApp.Lib.Run

namespace ChatApp.ThreadPool

open ChatApp.Lib

inductive Priority
  | low
  | normal
  | high
  | critical
  deriving DecidableEq, Repr

def Priority.code : Priority → Nat
  | .low => 0
  | .normal => 1
  | .high => 2
  | .critical => 3

inductive RejectionPolicy
  | block
  | discard
  | discardOldest
  | callerRuns
  deriving DecidableEq, Repr

structure Config where
  minThreads : Nat
  maxThreads : Nat
  maxQueueSize : Nat
  rejectionPolicy : RejectionPolicy

structure Task where
  id : Nat
  priority : Priority
  deriving DecidableEq, Repr

/-- Where a worker is in its loop. -/
inductive Worker
  /-- about to lock the mutex and test whether there is work -/
  | ready
  /-- asleep on `cv_task_` -/
  | waiting
  | running (task : Task)
  /-- the task has ended -/
  | ran
  /-- `--active_workers_` is done -/
  | uncounted
  /-- `++completed_tasks_` is done -/
  | unnotified
  | gone
  deriving DecidableEq, Repr

/-- The members of the pool. -/
structure Core where
  tasks : List Task
  workers : List Worker
  stopped : Bool
  activeWorkers : Int
  totalTasks : Nat
  completedTasks : Nat
  rejectedTasks : Nat
  /-- the tasks pushed so far -/
  submitted : List Nat
  /-- the tasks that have ended -/
  finished : List Nat
  /-- the tasks removed from the queue by a caller -/
  dropped : List Nat
  deriving DecidableEq

/-- The constructor -/
def Core.start (cfg : Config) : Core :=
  ⟨[], List.replicate cfg.minThreads .ready, false, 0, 0, 0, 0, [], [], []⟩

namespace Core

variable (cfg : Config) (c : Core)

/-- `tasks_.push`, `++total_tasks_` -/
def push (t : Task) : Core :=
  { c with
    tasks := c.tasks ++ [t]
    totalTasks := c.totalTasks + 1
    submitted := c.submitted ++ [t.id] }

def tryAddThread : Core :=
  if c.workers.length < cfg.maxThreads then { c with workers := c.workers ++ [.ready] } else c

/-- More threads, if none is idle. -/
def grow : Core :=
  if c.workers.length ≤ c.activeWorkers then c.tryAddThread cfg else c

/-- `cv_task_.notify_one()` wakes a waiting worker `j`, if there is one. -/
def notifyOne (j : Nat) : Option Core :=
  if .waiting ∈ c.workers then
    if c.workers[j]? = some .waiting then some { c with workers := c.workers.set j .ready }
    else none
  else some c

def wake : Worker → Worker
  | .waiting => .ready
  | w => w

/-- `cv_task_.notify_all()` -/
def notifyAll : Core := { c with workers := c.workers.map wake }

/-- `tasks_.top()` at the place `k` -/
def top (k : Nat) : Option Task :=
  c.tasks[k]?.filter fun t => c.tasks.all fun u => u.priority.code ≤ t.priority.code

/-- The policy DISCARD_OLDEST -/
def dropTop (k : Nat) : Option Core :=
  if c.tasks = [] then some c
  else (c.top k).map fun t =>
    { c with tasks := c.tasks.eraseIdx k, dropped := c.dropped ++ [t.id] }

def clearQueue : Core := { c with tasks := [], dropped := c.dropped ++ c.tasks.map Task.id }

/-- A worker that has locked the mutex: it takes the task `k`, or sleeps, or ends. -/
def takeTask (i k : Nat) : Option Core :=
  if c.tasks = [] then
    some { c with workers := c.workers.set i (if c.stopped then .gone else .waiting) }
  else (c.top k).map fun t =>
    { c with
      tasks := c.tasks.eraseIdx k
      workers := c.workers.set i (.running t)
      activeWorkers := c.activeWorkers + 1 }

end Core

/-! ## Calls -/

inductive Op
  | enqueue (callable : Bool) (priority : Priority)
  | tryEnqueue (callable : Bool)
  | enqueueAndWait (callable : Bool)
  | waitAll
  | clearQueue
  | stop
  deriving DecidableEq, Repr

/-- Where a call is. -/
inductive Pc
  | begun
  /-- `enqueue_and_wait` calls `enqueue` -/
  | entered
  /-- `stopped_` was false -/
  | submitting
  /-- the predicate was false, and the mutex is held -/
  | holding
  /-- asleep on `cv_done_` -/
  | asleep
  /-- about to lock the mutex and test the predicate again -/
  | woken
  /-- `future.wait()` -/
  | future
  | flagged
  | notifiedTasks
  | notified
  /-- `i` of the `m` workers are joined -/
  | joining (i m : Nat)
  | returned (result : Bool)
  | threw
  /-- a joinable thread was destroyed -/
  | terminated
  deriving DecidableEq, Repr

structure Call where
  op : Op
  pc : Pc
  deriving DecidableEq

def Call.wake (call : Call) : Call := if call.pc = .asleep then { call with pc := .woken } else call

structure State where
  core : Core
  /-- the call that holds the mutex -/
  lock : Option Nat
  calls : Nat → Option Call

def State.start (cfg : Config) : State := ⟨.start cfg, none, fun _ => none⟩

namespace State

variable (s : State)

def goto (n : Nat) (op : Op) (pc : Pc) : State :=
  { s with calls := Function.update s.calls n (some ⟨op, pc⟩) }

/-- `cv_done_.notify_all()` -/
def notifyDone : State := { s with calls := fun n => (s.calls n).map Call.wake }

/-- A critical section. -/
def locked (t : Option State) : Option State := if s.lock = none then t else none

end State

/-- What `enqueue` and `try_enqueue` do under the mutex. -/
inductive Decision
  | push
  | dropAndPush
  /-- sleep until there is room -/
  | wait
  | reject
  /-- the pool was stopped in the meantime -/
  | abandon
  | callerRuns
  deriving DecidableEq

section
variable (cfg : Config)

def admission (c : Core) : Decision :=
  if c.tasks.length < cfg.maxQueueSize then .push
  else match cfg.rejectionPolicy with
    | .block => if c.stopped then .abandon else .wait
    | .discard => .reject
    | .discardOldest => .dropAndPush
    | .callerRuns => .callerRuns

/-- After the wait for room -/
def readmission (c : Core) : Decision :=
  if c.stopped then .abandon
  else if c.tasks.length < cfg.maxQueueSize then .push
  else .wait

/-- `answer` is where the call goes on with the result. -/
def conduct (s : State) (n : Nat) (op : Op) (priority : Priority) (answer : Bool → Pc) (j k : Nat) :
    Decision → Option State
  | .push => (((s.core.push ⟨n, priority⟩).grow cfg).notifyOne j).map fun c =>
      { s with core := c }.goto n op (answer true)
  | .dropAndPush => (s.core.dropTop k).bind fun c =>
      (((c.push ⟨n, priority⟩).grow cfg).notifyOne j).map fun c =>
        { s with core := c }.goto n op (answer true)
  | .wait => some ({ s with lock := some n }.goto n op .holding)
  | .reject =>
    some ({ s with core := { s.core with rejectedTasks := s.core.rejectedTasks + 1 } }.goto n op
      (answer false))
  | .abandon => some (s.goto n op (answer false))
  | .callerRuns => some (s.goto n op .threw)

/-- `enqueue`, also inside of `enqueue_and_wait` -/
def enqueueStep (s : State) (n : Nat) (op : Op) (callable : Bool) (priority : Priority)
    (answer : Bool → Pc) (j k : Nat) : Pc → Option State
  | .begun =>
    some (s.goto n op (if !callable || s.core.stopped then answer false else .submitting))
  | .submitting => s.locked (conduct cfg s n op priority answer j k (admission cfg s.core))
  | .holding => some ({ s with lock := none }.goto n op .asleep)
  | .woken => s.locked (conduct cfg s n op priority answer j k (readmission cfg s.core))
  | _ => none

def tryEnqueueStep (s : State) (n : Nat) (callable : Bool) (j : Nat) : Pc → Option State
  | .begun => some (s.goto n (.tryEnqueue callable)
      (if !callable || s.core.stopped then .returned false else .submitting))
  | .submitting => s.locked
      (if cfg.maxQueueSize ≤ s.core.tasks.length then
        some ({ s with core := { s.core with rejectedTasks := s.core.rejectedTasks + 1 } }.goto n
          (.tryEnqueue callable) (.returned false))
      else ((s.core.push ⟨n, .normal⟩).notifyOne j).map fun c =>
        { s with core := c }.goto n (.tryEnqueue callable) (.returned true))
  | _ => none

/-- The task of the wrapper is done when the wrapper is. -/
def enqueueAndWaitStep (s : State) (n : Nat) (callable : Bool) (j k : Nat) : Pc → Option State
  | .begun => some (s.goto n (.enqueueAndWait callable)
      (if !callable || s.core.stopped then .returned false else .entered))
  | .entered =>
    enqueueStep cfg s n (.enqueueAndWait callable) true .normal (fun _ => .future) j k .begun
  | .future =>
    if n ∈ s.core.finished then some (s.goto n (.enqueueAndWait callable) (.returned true))
    else none
  | pc => enqueueStep cfg s n (.enqueueAndWait callable) true .normal (fun _ => .future) j k pc

def waitAllTest (s : State) (n : Nat) : Option State :=
  s.locked (some
    (if s.core.tasks = [] ∧ s.core.activeWorkers = 0 then s.goto n .waitAll (.returned true)
    else { s with lock := some n }.goto n .waitAll .holding))

def waitAllStep (s : State) (n : Nat) : Pc → Option State
  | .begun => waitAllTest s n
  | .woken => waitAllTest s n
  | .holding => some ({ s with lock := none }.goto n .waitAll .asleep)
  | _ => none

def clearQueueStep (s : State) (n : Nat) : Pc → Option State
  | .begun => s.locked
      (some ({ s with core := s.core.clearQueue }.goto n .clearQueue (.returned true)))
  | _ => none

/-- The loop over `workers_` takes the end of the vector before it begins. -/
def stopStep (s : State) (n : Nat) : Pc → Option State
  | .begun => s.locked (some
      (if s.core.stopped then s.goto n .stop (.returned false)
      else { s with core := { s.core with stopped := true } }.goto n .stop .flagged))
  | .flagged => some ({ s with core := s.core.notifyAll }.goto n .stop .notifiedTasks)
  | .notifiedTasks => some (s.notifyDone.goto n .stop .notified)
  | .notified => some (s.goto n .stop (.joining 0 s.core.workers.length))
  | .joining i m =>
    if i < m then
      if s.core.workers[i]? = some .gone then some (s.goto n .stop (.joining (i + 1) m)) else none
    else if s.core.workers.length = m then
      some ({ s with core := { s.core with workers := [] } }.goto n .stop (.returned true))
    else some (s.goto n .stop .terminated)
  | _ => none

def callStep (s : State) (n j k : Nat) (call : Call) : Option State :=
  match call.op with
  | .enqueue callable priority =>
    enqueueStep cfg s n call.op callable priority .returned j k call.pc
  | .tryEnqueue callable => tryEnqueueStep cfg s n callable j call.pc
  | .enqueueAndWait callable => enqueueAndWaitStep cfg s n callable j k call.pc
  | .waitAll => waitAllStep s n call.pc
  | .clearQueue => clearQueueStep s n call.pc
  | .stop => stopStep s n call.pc

/-! ## Workers -/

def setWorker (s : State) (i : Nat) (w : Worker) : State :=
  { s with core := { s.core with workers := s.core.workers.set i w } }

def workerStep (s : State) (i k : Nat) : Worker → Option State
  | .ready => s.locked ((s.core.takeTask i k).map fun c => { s with core := c })
  | .waiting => none
  | .running t =>
    some (setWorker { s with core := { s.core with finished := s.core.finished ++ [t.id] } } i .ran)
  | .ran =>
    some (setWorker { s with core := { s.core with activeWorkers := s.core.activeWorkers - 1 } } i
      .uncounted)
  | .uncounted =>
    some (setWorker { s with core := { s.core with completedTasks := s.core.completedTasks + 1 } } i
      .unnotified)
  | .unnotified => some (setWorker s.notifyDone i .ready)
  | .gone => none

/-! ## Steps -/

inductive Label
  | invoke (n : Nat) (op : Op)
  /-- a step of a call; `notify_one` wakes the worker `j`, and the task `k` is dropped -/
  | call (n j k : Nat)
  /-- a step of a worker, which takes the task `k` -/
  | worker (i k : Nat)
  /-- a worker wakes without a notification -/
  | wakeWorker (i : Nat)
  /-- a call wakes without a notification -/
  | wakeCall (n : Nat)
  deriving DecidableEq

def step (s : State) : Label → Option State
  | .invoke n op => if s.calls n = none then some (s.goto n op .begun) else none
  | .call n j k => (s.calls n).bind (callStep cfg s n j k)
  | .worker i k => s.core.workers[i]?.bind (workerStep s i k)
  | .wakeWorker i =>
    if s.core.workers[i]? = some .waiting then some (setWorker s i .ready) else none
  | .wakeCall n =>
    (s.calls n).bind fun call =>
      if call.pc = .asleep then some (s.goto n call.op .woken) else none

end

end ChatApp.ThreadPool
