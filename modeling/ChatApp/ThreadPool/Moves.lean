/-
  What a step of the pool can do. `Turn` lists the steps of a call that change nothing but the
  place where it is, `Waits` the failed tests that send it to sleep, and `Move` all steps with their
  effects; `step_move` is the inversion of `step` that the invariants use.
-/
import Mathlib.Data.List.Perm.Basic
import ChatApp.ThreadPool.State

namespace ChatApp.ThreadPool

/-! ## Operations -/

namespace Op

/-- The operation goes through `enqueue`. -/
def enqueues : Op → Bool
  | .enqueue .. => true
  | .enqueueAndWait _ => true
  | _ => false

def submits : Op → Bool
  | .tryEnqueue _ => true
  | op => op.enqueues

def priority : Op → Priority
  | .enqueue _ p => p
  | _ => .normal

def answer : Op → Bool → Pc
  | .enqueueAndWait _ => fun _ => .future
  | _ => .returned

end Op

inductive Turn (cfg : Config) (c : Core) (n : Nat) : Op → Pc → Pc → Prop
  | refuse {callable p} : Turn cfg c n (.enqueue callable p) .begun (.returned false)
  | refuseTry {callable} : Turn cfg c n (.tryEnqueue callable) .begun (.returned false)
  | refuseAndWait {callable} : Turn cfg c n (.enqueueAndWait callable) .begun (.returned false)
  | refuseInner {callable} (h : c.stopped = true) :
      Turn cfg c n (.enqueueAndWait callable) .entered .future
  | pass {callable p} : Turn cfg c n (.enqueue callable p) .begun .submitting
  | passTry {callable} : Turn cfg c n (.tryEnqueue callable) .begun .submitting
  | enter {callable} : Turn cfg c n (.enqueueAndWait callable) .begun .entered
  | passInner {callable} : Turn cfg c n (.enqueueAndWait callable) .entered .submitting
  | abandon {op pc} (hop : op.enqueues)
      (hpc : pc = .submitting ∧ cfg.maxQueueSize ≤ c.tasks.length ∨ pc = .woken)
      (h : c.stopped = true) : Turn cfg c n op pc (op.answer false)
  | throw {op} (hop : op.enqueues) (hpolicy : cfg.rejectionPolicy = .callerRuns)
      (hfull : cfg.maxQueueSize ≤ c.tasks.length) : Turn cfg c n op .submitting .threw
  | future {callable} (h : n ∈ c.finished) :
      Turn cfg c n (.enqueueAndWait callable) .future (.returned true)
  | allDone {pc} (hpc : pc = .begun ∨ pc = .woken) (htasks : c.tasks = [])
      (hactive : c.activeWorkers = 0) : Turn cfg c n .waitAll pc (.returned true)
  | stopAgain (h : c.stopped = true) : Turn cfg c n .stop .begun (.returned false)
  | startJoining : Turn cfg c n .stop .notified (.joining 0 c.workers.length)
  | join {i m} (hi : i < m) (h : c.workers[i]? = some .gone) :
      Turn cfg c n .stop (.joining i m) (.joining (i + 1) m)
  | terminate {i m} (h : c.workers.length ≠ m) : Turn cfg c n .stop (.joining i m) .terminated

inductive Waits (cfg : Config) (c : Core) : Op → Pc → Prop
  | room {op pc} (hop : op.enqueues) (hpc : pc = .submitting ∨ pc = .woken)
      (hstopped : c.stopped = false) (hfull : cfg.maxQueueSize ≤ c.tasks.length) : Waits cfg c op pc
  | done {pc} (hpc : pc = .begun ∨ pc = .woken)
      (h : ¬ (c.tasks = [] ∧ c.activeWorkers = 0)) : Waits cfg c .waitAll pc

/-- `enqueue` adds a thread. -/
def Grows (cfg : Config) (c : Core) : Prop :=
  c.workers.length ≤ c.activeWorkers ∧ c.workers.length < cfg.maxThreads

/-- The workers after `try_add_thread`, if it is called. -/
inductive Hires (cfg : Config) (c : Core) (op : Op) : List Worker → Prop
  | keep (h : op.enqueues → ¬ Grows cfg c) : Hires cfg c op c.workers
  | add (hop : op.enqueues) (h : Grows cfg c) : Hires cfg c op (c.workers ++ [.ready])

/-- The workers after `cv_task_.notify_one()` -/
inductive Wakes (ws : List Worker) : List Worker → Prop
  | none (h : .waiting ∉ ws) : Wakes ws ws
  | one {j} (h : ws[j]? = some .waiting) : Wakes ws (ws.set j .ready)

/-- The queue after DISCARD_OLDEST. -/
inductive Drops (c : Core) : List Task → List Nat → Prop
  | none (h : c.tasks = []) : Drops c c.tasks c.dropped
  | one {k t} (h : c.top k = some t) : Drops c (c.tasks.eraseIdx k) (c.dropped ++ [t.id])

inductive Move (cfg : Config) (s : State) : Label → State → Prop
  | invoke {n op} (hn : s.calls n = none) : Move cfg s (.invoke n op) (s.goto n op .begun)
  | turn {n j k op pc pc'} (hn : s.calls n = some ⟨op, pc⟩) (h : Turn cfg s.core n op pc pc') :
      Move cfg s (.call n j k) (s.goto n op pc')
  | hold {n j k op pc} (hn : s.calls n = some ⟨op, pc⟩) (hfree : s.lock = none)
      (h : Waits cfg s.core op pc) :
      Move cfg s (.call n j k) ({ s with lock := some n }.goto n op .holding)
  | sleep {n j k op} (hn : s.calls n = some ⟨op, .holding⟩) :
      Move cfg s (.call n j k) ({ s with lock := none }.goto n op .asleep)
  | reject {n j k op} (hn : s.calls n = some ⟨op, .submitting⟩) (hop : op.submits)
      (hpolicy : op.enqueues → cfg.rejectionPolicy = .discard) :
      Move cfg s (.call n j k)
        ({ s with core := { s.core with rejectedTasks := s.core.rejectedTasks + 1 } }.goto n op
          (op.answer false))
  | push {n j k op pc us ws} (hn : s.calls n = some ⟨op, pc⟩) (hop : op.submits)
      (hpc : pc = .submitting ∨ pc = .woken ∧ s.core.stopped = false) (hfree : s.lock = none)
      (hroom : s.core.tasks.length < cfg.maxQueueSize) (hhires : Hires cfg s.core op us)
      (hwakes : Wakes us ws) :
      Move cfg s (.call n j k)
        ({ s with core := { s.core.push ⟨n, op.priority⟩ with workers := ws } }.goto n op
          (op.answer true))
  | dropPush {n j k op us ws} {tasks : List Task} {dropped : List Nat}
      (hn : s.calls n = some ⟨op, .submitting⟩) (hop : op.enqueues) (hfree : s.lock = none)
      (hpolicy : cfg.rejectionPolicy = .discardOldest)
      (hfull : cfg.maxQueueSize ≤ s.core.tasks.length) (hdrops : Drops s.core tasks dropped)
      (hhires : Hires cfg s.core op us) (hwakes : Wakes us ws) :
      Move cfg s (.call n j k)
        ({ s with core := { s.core with
            tasks := tasks ++ [Task.mk n op.priority]
            totalTasks := s.core.totalTasks + 1
            submitted := s.core.submitted ++ [n]
            dropped := dropped
            workers := ws } }.goto n op (op.answer true))
  | clear {n j k} (hn : s.calls n = some ⟨.clearQueue, .begun⟩) (hfree : s.lock = none) :
      Move cfg s (.call n j k)
        ({ s with core := s.core.clearQueue }.goto n .clearQueue (.returned true))
  | flag {n j k} (hn : s.calls n = some ⟨.stop, .begun⟩) (hfree : s.lock = none)
      (hstopped : s.core.stopped = false) :
      Move cfg s (.call n j k)
        ({ s with core := { s.core with stopped := true } }.goto n .stop .flagged)
  | notifyTasks {n j k} (hn : s.calls n = some ⟨.stop, .flagged⟩) :
      Move cfg s (.call n j k) ({ s with core := s.core.notifyAll }.goto n .stop .notifiedTasks)
  | notifyDone {n j k} (hn : s.calls n = some ⟨.stop, .notifiedTasks⟩) :
      Move cfg s (.call n j k) (s.notifyDone.goto n .stop .notified)
  | clearWorkers {n j k i m} (hn : s.calls n = some ⟨.stop, .joining i m⟩) (hi : ¬ i < m)
      (hm : s.core.workers.length = m) :
      Move cfg s (.call n j k)
        ({ s with core := { s.core with workers := [] } }.goto n .stop (.returned true))
  | idle {i k} (hi : s.core.workers[i]? = some .ready) (hfree : s.lock = none)
      (htasks : s.core.tasks = []) :
      Move cfg s (.worker i k) (setWorker s i (if s.core.stopped then .gone else .waiting))
  | take {i k t} (hi : s.core.workers[i]? = some .ready) (hfree : s.lock = none)
      (htop : s.core.top k = some t) :
      Move cfg s (.worker i k) { s with
        core := { s.core with
          tasks := s.core.tasks.eraseIdx k
          workers := s.core.workers.set i (.running t)
          activeWorkers := s.core.activeWorkers + 1 } }
  | finish {i k t} (hi : s.core.workers[i]? = some (.running t)) :
      Move cfg s (.worker i k)
        (setWorker { s with core := { s.core with finished := s.core.finished ++ [t.id] } } i .ran)
  | uncount {i k} (hi : s.core.workers[i]? = some .ran) :
      Move cfg s (.worker i k)
        (setWorker { s with core := { s.core with activeWorkers := s.core.activeWorkers - 1 } } i
          .uncounted)
  | count {i k} (hi : s.core.workers[i]? = some .uncounted) :
      Move cfg s (.worker i k)
        (setWorker { s with core := { s.core with completedTasks := s.core.completedTasks + 1 } } i
          .unnotified)
  | notify {i k} (hi : s.core.workers[i]? = some .unnotified) :
      Move cfg s (.worker i k) (setWorker s.notifyDone i .ready)
  | wakeWorker {i} (hi : s.core.workers[i]? = some .waiting) :
      Move cfg s (.wakeWorker i) (setWorker s i .ready)
  | wakeCall {n op} (hn : s.calls n = some ⟨op, .asleep⟩) :
      Move cfg s (.wakeCall n) (s.goto n op .woken)

variable {cfg : Config} {s t : State} {n i j k : Nat} {op : Op} {pc : Pc}

theorem locked_eq_some {u : Option State} :
    s.locked u = some t ↔ s.lock = none ∧ u = some t := by
  simp [State.locked]

theorem calls_inj {op' : Op} {pc' : Pc} (hn : s.calls n = some ⟨op, pc⟩)
    (hn' : s.calls n = some ⟨op', pc'⟩) : op = op' ∧ pc = pc' :=
  Call.mk.inj (Option.some.inj (hn.symm.trans hn'))

theorem Op.answer_ne {r : Bool} (hfuture : pc ≠ .future) (hreturned : pc ≠ .returned r) :
    op.answer r ≠ pc := by
  cases op with
  | enqueueAndWait => exact hfuture.symm
  | _ => exact hreturned.symm

/-- `tasks_.top()` is in the queue, and no task has a higher priority. -/
theorem top_perm {c : Core} {u : Task} (h : c.top k = some u) :
    (u :: c.tasks.eraseIdx k).Perm c.tasks ∧
      ∀ v ∈ c.tasks, v.priority.code ≤ u.priority.code := by
  obtain ⟨hk, hmax⟩ := Option.filter_eq_some_iff.1 h
  obtain ⟨hlt, rfl⟩ := List.getElem?_eq_some_iff.1 hk
  exact ⟨List.getElem_cons_eraseIdx_perm hlt, by simpa using hmax⟩

theorem submits_of_enqueues (h : op.enqueues) : op.submits := by
  cases op with
  | enqueue => rfl
  | enqueueAndWait => rfl
  | _ => exact absurd h Bool.false_ne_true

theorem grow_hires (hop : op.enqueues) (c : Core) :
    ∃ us, Hires cfg c op us ∧ c.grow cfg = { c with workers := us } := by
  unfold Core.grow Core.tryAddThread
  split
  next hbusy =>
    split
    next hmax => exact ⟨_, .add hop ⟨hbusy, hmax⟩, rfl⟩
    next hmax => exact ⟨_, .keep fun _ hgrows => hmax hgrows.2, rfl⟩
  next hbusy => exact ⟨_, .keep fun _ hgrows => hbusy hgrows.1, rfl⟩

theorem notifyOne_wakes {c c' : Core} (h : c.notifyOne j = some c') :
    ∃ ws, Wakes c.workers ws ∧ c' = { c with workers := ws } := by
  unfold Core.notifyOne at h
  split at h
  next =>
    obtain ⟨hj, h⟩ := Option.ite_none_right_eq_some.1 h
    exact ⟨_, .one hj, (Option.some.inj h).symm⟩
  next hnone => exact ⟨_, .none hnone, (Option.some.inj h).symm⟩

/-- Hiring looks at the workers and the counter only. -/
theorem Hires.congr {c c' : Core} {us : List Worker} (h : Hires cfg c op us)
    (hw : c.workers = c'.workers) (ha : c.activeWorkers = c'.activeWorkers) :
    Hires cfg c' op us := by
  have hiff : Grows cfg c ↔ Grows cfg c' := by rw [Grows, Grows, hw, ha]
  cases h with
  | keep h => exact hw ▸ .keep fun hop hgrows => h hop (hiff.2 hgrows)
  | add hop h => exact hw ▸ .add hop (hiff.1 h)

/-- The workers after the rest of `enqueue`. -/
theorem grow_notifyOne (hop : op.enqueues) {c c' : Core} (h : (c.grow cfg).notifyOne j = some c') :
    ∃ us ws, Hires cfg c op us ∧ Wakes us ws ∧ c' = { c with workers := ws } := by
  obtain ⟨us, hhires, hgrow⟩ : ∃ us, Hires cfg c op us ∧ c.grow cfg = { c with workers := us } :=
    grow_hires hop c
  rw [hgrow] at h
  obtain ⟨ws, hwakes, rfl⟩ := notifyOne_wakes h
  exact ⟨us, ws, hhires, hwakes, rfl⟩

theorem dropTop_drops {c c' : Core} (h : c.dropTop k = some c') :
    ∃ tasks dropped, Drops c tasks dropped ∧
      c' = { c with tasks := tasks, dropped := dropped } := by
  unfold Core.dropTop at h
  split at h
  next hnone => exact ⟨_, _, .none hnone, (Option.some.inj h).symm⟩
  next =>
    obtain ⟨t, htop, rfl⟩ := Option.map_eq_some_iff.1 h
    exact ⟨_, _, .one htop, rfl⟩

theorem Turn.ne_returned {c : Core} {pc' : Pc} (h : Turn cfg c n op pc pc') (r : Bool) :
    pc ≠ .returned r := by
  rintro rfl
  cases h with
  | abandon _ hpc => simp at hpc
  | allDone hpc => simp at hpc

/-! ## Inversion -/

theorem conduct_admission (hn : s.calls n = some ⟨op, .submitting⟩) (hop : op.enqueues)
    (hfree : s.lock = none)
    (h : conduct cfg s n op op.priority op.answer j k (admission cfg s.core) = some t) :
    Move cfg s (.call n j k) t := by
  unfold admission at h
  split at h
  next hroom =>
    obtain ⟨c, hc, rfl⟩ := Option.map_eq_some_iff.1 h
    obtain ⟨us, ws, hhires, hwakes, rfl⟩ := grow_notifyOne hop hc
    exact .push hn (submits_of_enqueues hop) (.inl rfl) hfree hroom (hhires.congr rfl rfl) hwakes
  next hfull =>
    split at h
    next hpolicy =>
      split at h
      next hstopped =>
        exact Option.some.inj h ▸
          .turn hn (.abandon hop (.inl ⟨rfl, Nat.not_lt.1 hfull⟩) hstopped)
      next hstopped =>
        exact Option.some.inj h ▸ .hold hn hfree
          (.room hop (.inl rfl) (Bool.not_eq_true _ ▸ hstopped) (Nat.not_lt.1 hfull))
    next hpolicy => exact Option.some.inj h ▸ .reject hn (submits_of_enqueues hop) fun _ => hpolicy
    next hpolicy =>
      obtain ⟨c₀, hdrop, h⟩ := Option.bind_eq_some_iff.1 h
      obtain ⟨c, hc, rfl⟩ := Option.map_eq_some_iff.1 h
      obtain ⟨us, ws, hhires, hwakes, rfl⟩ := grow_notifyOne hop hc
      obtain ⟨tasks, dropped, hdrops, rfl⟩ := dropTop_drops hdrop
      exact .dropPush hn hop hfree hpolicy (Nat.not_lt.1 hfull) hdrops (hhires.congr rfl rfl) hwakes
    next hpolicy =>
      exact Option.some.inj h ▸ .turn hn (.throw hop hpolicy (Nat.not_lt.1 hfull))

theorem conduct_readmission (hn : s.calls n = some ⟨op, .woken⟩) (hop : op.enqueues)
    (hfree : s.lock = none)
    (h : conduct cfg s n op op.priority op.answer j k (readmission cfg s.core) = some t) :
    Move cfg s (.call n j k) t := by
  unfold readmission at h
  split at h
  next hstopped => exact Option.some.inj h ▸ .turn hn (.abandon hop (.inr rfl) hstopped)
  next hstopped =>
    split at h
    next hroom =>
      obtain ⟨c, hc, rfl⟩ := Option.map_eq_some_iff.1 h
      obtain ⟨us, ws, hhires, hwakes, rfl⟩ := grow_notifyOne hop hc
      exact .push hn (submits_of_enqueues hop) (.inr ⟨rfl, Bool.not_eq_true _ ▸ hstopped⟩) hfree
        hroom (hhires.congr rfl rfl) hwakes
    next hfull =>
      exact Option.some.inj h ▸ .hold hn hfree
        (.room hop (.inr rfl) (Bool.not_eq_true _ ▸ hstopped) (Nat.not_lt.1 hfull))

/-- The steps of `enqueue` after its first test. -/
theorem enqueueStep_move (callable : Bool) (hn : s.calls n = some ⟨op, pc⟩) (hop : op.enqueues)
    (hpc : pc ≠ .begun)
    (h : enqueueStep cfg s n op callable op.priority op.answer j k pc = some t) :
    Move cfg s (.call n j k) t := by
  cases pc with
  | begun => exact absurd rfl hpc
  | submitting =>
    obtain ⟨hfree, h⟩ := locked_eq_some.1 h
    exact conduct_admission hn hop hfree h
  | holding => exact Option.some.inj h ▸ .sleep hn
  | woken =>
    obtain ⟨hfree, h⟩ := locked_eq_some.1 h
    exact conduct_readmission hn hop hfree h
  | _ => exact absurd h.symm (Option.some_ne_none t)

theorem tryEnqueueStep_move {callable : Bool} (hn : s.calls n = some ⟨.tryEnqueue callable, pc⟩)
    (h : tryEnqueueStep cfg s n callable j pc = some t) : Move cfg s (.call n j k) t := by
  cases pc with
  | begun =>
    obtain rfl := Option.some.inj h
    refine .turn hn ?_
    split
    · exact .refuseTry
    · exact .passTry
  | submitting =>
    obtain ⟨hfree, h⟩ := locked_eq_some.1 h
    split at h
    next => exact Option.some.inj h ▸ .reject hn rfl fun hop => absurd hop Bool.false_ne_true
    next hroom =>
      obtain ⟨c, hc, rfl⟩ := Option.map_eq_some_iff.1 h
      obtain ⟨ws, hwakes, rfl⟩ := notifyOne_wakes hc
      exact .push hn rfl (.inl rfl) hfree (Nat.not_le.1 hroom)
        (.keep fun hop => absurd hop Bool.false_ne_true) hwakes
  | _ => exact absurd h.symm (Option.some_ne_none t)

theorem enqueueAndWaitStep_move {callable : Bool}
    (hn : s.calls n = some ⟨.enqueueAndWait callable, pc⟩)
    (h : enqueueAndWaitStep cfg s n callable j k pc = some t) : Move cfg s (.call n j k) t := by
  cases pc with
  | begun =>
    obtain rfl := Option.some.inj h
    refine .turn hn ?_
    split
    · exact .refuseAndWait
    · exact .enter
  | entered =>
    obtain rfl := Option.some.inj h
    refine .turn hn ?_
    split
    next hstopped => exact .refuseInner (by simpa using hstopped)
    next => exact .passInner
  | future =>
    simp only [enqueueAndWaitStep, Option.ite_none_right_eq_some] at h
    exact Option.some.inj h.2 ▸ .turn hn (.future h.1)
  | _ => exact enqueueStep_move true hn rfl (by simp) h

theorem waitAllStep_move (hn : s.calls n = some ⟨.waitAll, pc⟩)
    (h : waitAllStep s n pc = some t) : Move cfg s (.call n j k) t := by
  have htest (hpc : pc = .begun ∨ pc = .woken) (h : waitAllTest s n = some t) :
      Move cfg s (.call n j k) t := by
    obtain ⟨hfree, h⟩ := locked_eq_some.1 h
    obtain rfl := Option.some.inj h
    split
    next hdone => exact .turn hn (.allDone hpc hdone.1 hdone.2)
    next hdone => exact .hold hn hfree (.done hpc hdone)
  cases pc with
  | begun => exact htest (.inl rfl) h
  | woken => exact htest (.inr rfl) h
  | holding => exact Option.some.inj h ▸ .sleep hn
  | _ => exact absurd h.symm (Option.some_ne_none t)

theorem stopStep_move (hn : s.calls n = some ⟨.stop, pc⟩) (h : stopStep s n pc = some t) :
    Move cfg s (.call n j k) t := by
  cases pc with
  | begun =>
    obtain ⟨hfree, h⟩ := locked_eq_some.1 h
    obtain rfl := Option.some.inj h
    split
    next hstopped => exact .turn hn (.stopAgain hstopped)
    next hstopped => exact .flag hn hfree (Bool.not_eq_true _ ▸ hstopped)
  | flagged => exact Option.some.inj h ▸ .notifyTasks hn
  | notifiedTasks => exact Option.some.inj h ▸ .notifyDone hn
  | notified => exact Option.some.inj h ▸ .turn hn .startJoining
  | joining i m =>
    simp only [stopStep] at h
    split at h
    next hi =>
      rw [Option.ite_none_right_eq_some] at h
      exact Option.some.inj h.2 ▸ .turn hn (.join hi h.1)
    next hi =>
      split at h
      next hm => exact Option.some.inj h ▸ .clearWorkers hn hi hm
      next hm => exact Option.some.inj h ▸ .turn hn (.terminate hm)
  | _ => exact absurd h.symm (Option.some_ne_none t)

theorem callStep_move {call : Call} (hn : s.calls n = some call)
    (h : callStep cfg s n j k call = some t) : Move cfg s (.call n j k) t := by
  obtain ⟨op, pc⟩ := call
  cases op with
  | enqueue callable p =>
    cases pc with
    | begun =>
      obtain rfl := Option.some.inj h
      refine .turn hn ?_
      split
      · exact .refuse
      · exact .pass
    | _ => exact enqueueStep_move callable hn rfl (by simp) h
  | tryEnqueue callable => exact tryEnqueueStep_move hn h
  | enqueueAndWait callable => exact enqueueAndWaitStep_move hn h
  | waitAll => exact waitAllStep_move hn h
  | clearQueue =>
    cases pc with
    | begun =>
      obtain ⟨hfree, h⟩ := locked_eq_some.1 h
      exact Option.some.inj h ▸ .clear hn hfree
    | _ => exact absurd h.symm (Option.some_ne_none t)
  | stop => exact stopStep_move hn h

theorem workerStep_move {w : Worker} (hi : s.core.workers[i]? = some w)
    (h : workerStep s i k w = some t) : Move cfg s (.worker i k) t := by
  cases w with
  | ready =>
    obtain ⟨hfree, h⟩ := locked_eq_some.1 h
    obtain ⟨c, hc, rfl⟩ := Option.map_eq_some_iff.1 h
    unfold Core.takeTask at hc
    split at hc
    next htasks => exact Option.some.inj hc ▸ .idle hi hfree htasks
    next =>
      obtain ⟨task, htop, rfl⟩ := Option.map_eq_some_iff.1 hc
      exact .take hi hfree htop
  | running task => exact Option.some.inj h ▸ .finish hi
  | ran => exact Option.some.inj h ▸ .uncount hi
  | uncounted => exact Option.some.inj h ▸ .count hi
  | unnotified => exact Option.some.inj h ▸ .notify hi
  | _ => exact absurd h.symm (Option.some_ne_none t)

theorem step_move {l : Label} (h : step cfg s l = some t) : Move cfg s l t := by
  cases l with
  | invoke n op =>
    obtain ⟨hn, h⟩ := Option.ite_none_right_eq_some.1 h
    exact Option.some.inj h ▸ .invoke hn
  | call n j k =>
    obtain ⟨call, hn, h⟩ := Option.bind_eq_some_iff.1 h
    exact callStep_move hn h
  | worker i k =>
    obtain ⟨w, hi, h⟩ := Option.bind_eq_some_iff.1 h
    exact workerStep_move hi h
  | wakeWorker i =>
    obtain ⟨hi, h⟩ := Option.ite_none_right_eq_some.1 h
    exact Option.some.inj h ▸ .wakeWorker hi
  | wakeCall n =>
    obtain ⟨⟨op, pc⟩, hn, h⟩ := Option.bind_eq_some_iff.1 h
    obtain ⟨hpc, h⟩ := Option.ite_none_right_eq_some.1 h
    obtain rfl : pc = .asleep := hpc
    exact Option.some.inj h ▸ .wakeCall hn

end ChatApp.ThreadPool
