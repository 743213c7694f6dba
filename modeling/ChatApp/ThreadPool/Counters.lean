/-
  The counters of the pool. Each task that was pushed is waiting, in execution, finished or dropped,
  and no other is; `active_workers_` counts the workers in execution.
-/
import ChatApp.ThreadPool.Stop

namespace ChatApp.ThreadPool

open ChatApp.Lib

/-! ## Workers at work -/

/-- Between `++active_workers_` and `--active_workers_` -/
def Worker.busy : Worker → Bool
  | .running _ => true
  | .ran => true
  | _ => false

/-- The task has ended and `++completed_tasks_` is not done. -/
def Worker.unreported : Worker → Bool
  | .ran => true
  | .uncounted => true
  | _ => false

def Worker.task? : Worker → Option Nat
  | .running t => some t.id
  | _ => none

/-- The tasks in execution. -/
def executing (ws : List Worker) : List Nat := ws.filterMap Worker.task?

theorem task_wake (w : Worker) : (Core.wake w).task? = w.task? := by cases w <;> rfl

section
variable {cfg : Config} {ws us : List Worker} {i : Nat} {v w : Worker}

theorem perm_set (hi : ws[i]? = some v) (w : Worker) :
    ∃ rest, ws.Perm (v :: rest) ∧ (ws.set i w).Perm (w :: rest) := by
  obtain ⟨hlt, rfl⟩ := List.getElem?_eq_some_iff.1 hi
  exact ⟨ws.eraseIdx i, (List.getElem_cons_eraseIdx_perm hlt).symm,
    List.set_perm_cons_eraseIdx hlt w⟩

theorem idle_workers
    (h : ∀ w ∈ ws, w.busy = false ∧ w.unreported = false ∧ w.task? = none) :
    ws.countP Worker.busy = 0 ∧ ws.countP Worker.unreported = 0 ∧ executing ws = [] := by
  refine ⟨List.countP_eq_zero.2 fun w hw => ?_, List.countP_eq_zero.2 fun w hw => ?_,
    List.filterMap_eq_nil_iff.2 fun w hw => (h w hw).2.2⟩
  · rw [(h w hw).1]
    exact Bool.false_ne_true
  · rw [(h w hw).2.1]
    exact Bool.false_ne_true

/-- The same work is in execution. -/
structure SameWork (ws us : List Worker) : Prop where
  busy : us.countP Worker.busy = ws.countP Worker.busy
  unreported : us.countP Worker.unreported = ws.countP Worker.unreported
  tasks : ∀ x, (executing us).count x = (executing ws).count x

namespace SameWork

theorem refl : SameWork ws ws := ⟨rfl, rfl, fun _ => rfl⟩

theorem trans {vs : List Worker} (h : SameWork ws us) (h' : SameWork us vs) : SameWork ws vs :=
  ⟨h'.busy.trans h.busy, h'.unreported.trans h.unreported, fun x => (h'.tasks x).trans (h.tasks x)⟩

theorem of_hires {c : Core} {op : Op} (h : Hires cfg c op us) : SameWork c.workers us := by
  cases h with
  | keep => exact refl
  | add =>
    refine ⟨by simp [List.countP_append, Worker.busy],
      by simp [List.countP_append, Worker.unreported], fun x => ?_⟩
    rw [executing, List.filterMap_append]
    exact congrArg (List.count x) (List.append_nil _)

theorem notifyAll : SameWork ws (ws.map Core.wake) := by
  have hbusy : Worker.busy ∘ Core.wake = Worker.busy := by
    funext w
    cases w <;> rfl
  have hunreported : Worker.unreported ∘ Core.wake = Worker.unreported := by
    funext w
    cases w <;> rfl
  have htask : Worker.task? ∘ Core.wake = Worker.task? := funext task_wake
  exact ⟨by rw [List.countP_map, hbusy], by rw [List.countP_map, hunreported],
    fun x => by rw [executing, executing, List.filterMap_map, htask]⟩

theorem cleared (h : ∀ w ∈ ws, w = .gone) : SameWork ws [] := by
  obtain ⟨hbusy, hunreported, htask⟩ := idle_workers fun w hw => by
    rw [h w hw]
    exact ⟨rfl, rfl, rfl⟩
  exact ⟨hbusy.symm, hunreported.symm, fun x => by rw [htask]; rfl⟩

end SameWork

/-- A worker goes on: what was in execution is, but for what this worker did and does. -/
theorem work_set (hi : ws[i]? = some v) (w : Worker) :
    (ws.set i w).countP Worker.busy + v.busy.toNat = ws.countP Worker.busy + w.busy.toNat ∧
    (ws.set i w).countP Worker.unreported + v.unreported.toNat =
      ws.countP Worker.unreported + w.unreported.toNat ∧
    ∀ x, (executing (ws.set i w)).count x + v.task?.toList.count x =
      (executing ws).count x + w.task?.toList.count x := by
  obtain ⟨rest, hold, hnew⟩ := perm_set hi w
  have hcount : ∀ p : Worker → Bool,
      (ws.set i w).countP p + (p v).toNat = ws.countP p + (p w).toNat := by
    intro p
    rw [hnew.countP_eq, hold.countP_eq, List.countP_cons, List.countP_cons]
    cases p v <;> cases p w <;> simp
  have hexecuting : ∀ u : Worker, executing (u :: rest) = u.task?.toList ++ executing rest := by
    intro u
    cases u <;> rfl
  refine ⟨hcount _, hcount _, fun x => ?_⟩
  have hset : (executing (ws.set i w)).count x = (executing (w :: rest)).count x :=
    (hnew.filterMap _).count_eq x
  have hws : (executing ws).count x = (executing (v :: rest)).count x :=
    (hold.filterMap _).count_eq x
  rw [hset, hws, hexecuting, hexecuting, List.count_append, List.count_append]
  omega

theorem SameWork.set (hi : ws[i]? = some v) (hbusy : w.busy = v.busy)
    (hunreported : w.unreported = v.unreported) (htask : w.task? = v.task?) :
    SameWork ws (ws.set i w) := by
  obtain ⟨h1, h2, h3⟩ := work_set hi w
  rw [hbusy] at h1
  rw [hunreported] at h2
  simp only [htask] at h3
  exact ⟨by omega, by omega, fun x => by have := h3 x; omega⟩

theorem SameWork.of_wakes (h : Wakes ws us) : SameWork ws us := by
  cases h with
  | none => exact .refl
  | one hj => exact .set hj rfl rfl rfl

end

/-! ## Every task in one place -/

structure Counted (c : Core) : Prop where
  active : c.activeWorkers = c.workers.countP Worker.busy
  total : c.totalTasks = c.submitted.length
  completed : c.finished.length = c.completedTasks + c.workers.countP Worker.unreported
  tasks : ∀ x, (c.tasks.map Task.id).count x + (executing c.workers).count x +
    c.finished.count x + c.dropped.count x = c.submitted.count x

section
variable {cfg : Config} {s t : State} {c : Core} {l : Label} {ws : List Worker}

theorem counted_start : Counted (.start cfg) := by
  obtain ⟨hbusy, hunreported, htask⟩ := @idle_workers (Core.start cfg).workers fun w hw => by
    rw [List.eq_of_mem_replicate hw]
    exact ⟨rfl, rfl, rfl⟩
  refine ⟨by rw [hbusy]; rfl, rfl, by rw [hunreported]; rfl, fun x => ?_⟩
  rw [htask]
  rfl

/-- What is taken out of the queue. -/
theorem count_top {k : Nat} {u : Task} (h : c.top k = some u) (x : Nat) :
    (c.tasks.map Task.id).count x =
      ((c.tasks.eraseIdx k).map Task.id).count x + [u.id].count x := by
  have hperm := (top_perm h).1.map Task.id
  rw [← hperm.count_eq, List.map_cons, List.count_cons, List.count_singleton]

theorem Counted.staff (h : Counted c) (hws : SameWork c.workers ws) :
    Counted { c with workers := ws } :=
  ⟨h.active.trans (congrArg _ hws.busy.symm), h.total,
    h.completed.trans (congrArg _ hws.unreported.symm), fun x => by rw [← h.tasks x, ← hws.tasks x]⟩

theorem Counted.push {n : Nat} {p : Priority} (h : Counted c) (hws : SameWork c.workers ws) :
    Counted { c.push ⟨n, p⟩ with workers := ws } := by
  refine ⟨h.active.trans (congrArg _ hws.busy.symm), ?_,
    h.completed.trans (congrArg _ hws.unreported.symm), fun x => ?_⟩
  · simp [Core.push, h.total]
  · have hx := h.tasks x
    have hw := hws.tasks x
    simp only [Core.push, List.map_append, List.map_cons, List.map_nil, List.count_append]
    omega

theorem Counted.drop {tasks : List Task} {dropped : List Nat} (h : Counted c)
    (hd : Drops c tasks dropped) : Counted { c with tasks := tasks, dropped := dropped } := by
  refine ⟨h.active, h.total, h.completed, fun x => ?_⟩
  have hx := h.tasks x
  cases hd with
  | none => exact hx
  | one htop =>
    have htask := count_top htop x
    simp only [List.count_append]
    omega

theorem Counted.clearQueue (h : Counted c) : Counted c.clearQueue := by
  refine ⟨h.active, h.total, h.completed, fun x => ?_⟩
  have hx := h.tasks x
  simp only [Core.clearQueue, List.map_nil, List.count_nil, List.count_append]
  omega

/-- A worker goes on, and the counters change with what it did and does. -/
theorem Counted.work {c' : Core} {i : Nat} {v w : Worker} (h : Counted c)
    (hi : c.workers[i]? = some v) (hworkers : c'.workers = c.workers.set i w)
    (hactive : c'.activeWorkers + v.busy.toNat = c.activeWorkers + w.busy.toNat)
    (hsubmitted : c'.submitted = c.submitted) (htotal : c'.totalTasks = c.totalTasks)
    (hcompleted : c'.finished.length + (c.completedTasks + v.unreported.toNat) =
      c.finished.length + (c'.completedTasks + w.unreported.toNat))
    (htasks : ∀ x, (c'.tasks.map Task.id).count x + w.task?.toList.count x + c'.finished.count x +
      c'.dropped.count x = (c.tasks.map Task.id).count x + v.task?.toList.count x +
        c.finished.count x + c.dropped.count x) : Counted c' := by
  obtain ⟨hbusy, hunreported, hexecuting⟩ := work_set hi w
  have hc := h.active
  have hd := h.completed
  refine ⟨?_, ?_, ?_, fun x => ?_⟩
  · rw [hworkers]
    omega
  · rw [hsubmitted, htotal, h.total]
  · rw [hworkers]
    omega
  · have hx := h.tasks x
    have hold := hexecuting x
    have hnew := htasks x
    rw [hworkers, hsubmitted]
    omega

/-- A worker takes a task. -/
theorem Counted.take {i k : Nat} {u : Task} (h : Counted c) (hi : c.workers[i]? = some .ready)
    (htop : c.top k = some u) :
    Counted { c with
      tasks := c.tasks.eraseIdx k
      workers := c.workers.set i (.running u)
      activeWorkers := c.activeWorkers + 1 } := by
  refine h.work hi rfl ?_ rfl rfl rfl fun x => ?_
  · simp only [Worker.busy, Bool.toNat_true, Bool.toNat_false]
    omega
  · have hpop := count_top htop x
    simp only [Worker.task?, Option.toList, List.count_nil]
    omega

theorem Counted.finish {i : Nat} {u : Task} (h : Counted c)
    (hi : c.workers[i]? = some (.running u)) :
    Counted { c with finished := c.finished ++ [u.id], workers := c.workers.set i .ran } := by
  refine h.work hi rfl rfl rfl rfl ?_ fun x => ?_
  · simp only [Worker.unreported, List.length_append, List.length_singleton, Bool.toNat_true,
      Bool.toNat_false]
    omega
  · simp only [Worker.task?, Option.toList, List.count_nil, List.count_append]
    omega

theorem Counted.uncount {i : Nat} (h : Counted c) (hi : c.workers[i]? = some .ran) :
    Counted { c with
      activeWorkers := c.activeWorkers - 1
      workers := c.workers.set i .uncounted } := by
  refine h.work hi rfl ?_ rfl rfl rfl fun _ => rfl
  simp only [Worker.busy, Bool.toNat_true, Bool.toNat_false]
  omega

theorem Counted.count {i : Nat} (h : Counted c) (hi : c.workers[i]? = some .uncounted) :
    Counted { c with
      completedTasks := c.completedTasks + 1
      workers := c.workers.set i .unnotified } :=
  h.work hi rfl rfl rfl rfl rfl fun _ => rfl

theorem Counted.move (hs : Stopping s) (hc : Counted s.core) (h : Move cfg s l t) :
    Counted t.core := by
  cases h with
  | reject => exact ⟨hc.active, hc.total, hc.completed, hc.tasks⟩
  | push _ _ _ _ _ hhires hwakes =>
    exact hc.push ((SameWork.of_hires hhires).trans (.of_wakes hwakes))
  | dropPush _ _ _ _ _ hdrops hhires hwakes =>
    exact (hc.drop hdrops).push ((SameWork.of_hires hhires).trans (.of_wakes hwakes))
  | clear => exact hc.clearQueue
  | flag => exact ⟨hc.active, hc.total, hc.completed, hc.tasks⟩
  | notifyTasks => exact hc.staff .notifyAll
  | clearWorkers hn hi hm => exact hc.staff (.cleared (hs.all_gone hn hi hm))
  | idle hi =>
    refine hc.staff (.set hi ?_ ?_ ?_) <;> split <;> rfl
  | take hi _ htop => exact hc.take hi htop
  | finish hi => exact hc.finish hi
  | uncount hi => exact hc.uncount hi
  | count hi => exact hc.count hi
  | notify hi => exact hc.staff (.set hi rfl rfl rfl)
  | wakeWorker hi => exact hc.staff (.set hi rfl rfl rfl)
  | _ => exact hc

/-! ## Bounds -/

structure Bounded (cfg : Config) (c : Core) : Prop where
  queue : c.tasks.length ≤ cfg.maxQueueSize
  threads : c.workers.length ≤ cfg.maxThreads

theorem bounded_start (hthreads : cfg.minThreads ≤ cfg.maxThreads) : Bounded cfg (.start cfg) :=
  ⟨Nat.zero_le _, by simpa [Core.start] using hthreads⟩

theorem Hires.length_le {op : Op} {us : List Worker} (h : Hires cfg c op us)
    (hc : c.workers.length ≤ cfg.maxThreads) : us.length ≤ cfg.maxThreads := by
  cases h with
  | keep => exact hc
  | add _ h =>
    rw [List.length_append, List.length_singleton]
    exact h.2

theorem Wakes.length_eq {us : List Worker} (h : Wakes us ws) : ws.length = us.length := by
  cases h with
  | none => rfl
  | one => exact List.length_set

/-- A queue that is not empty loses a task. -/
theorem Drops.length_lt {tasks : List Task} {dropped : List Nat} (h : Drops c tasks dropped)
    (hne : c.tasks ≠ []) : tasks.length < c.tasks.length := by
  cases h with
  | none hnone => exact absurd hnone hne
  | @one k u htop =>
    have hk := (List.getElem?_eq_some_iff.1 (Option.filter_eq_some_iff.1 htop).1).1
    rw [List.length_eraseIdx_of_lt hk]
    omega

theorem Bounded.move (hqueue : 1 ≤ cfg.maxQueueSize) (hb : Bounded cfg s.core)
    (h : Move cfg s l t) : Bounded cfg t.core := by
  have hset : ∀ (i : Nat) (w : Worker), (s.core.workers.set i w).length ≤ cfg.maxThreads :=
    fun i w => le_of_eq_of_le List.length_set hb.threads
  have hstaff : ∀ {op : Op} {us ws : List Worker}, Hires cfg s.core op us → Wakes us ws →
      ws.length ≤ cfg.maxThreads := fun hhires hwakes =>
    le_of_eq_of_le hwakes.length_eq (hhires.length_le hb.threads)
  have hsize := hb.queue
  cases h with
  | push _ _ _ _ hroom hhires hwakes =>
    refine ⟨?_, hstaff hhires hwakes⟩
    show (_ ++ [_]).length ≤ _
    rw [List.length_append, List.length_singleton]
    exact hroom
  | dropPush _ _ _ _ hfull hdrops hhires hwakes =>
    refine ⟨?_, hstaff hhires hwakes⟩
    have hne : s.core.tasks ≠ [] := by
      intro hnil
      rw [hnil, List.length_nil] at hfull
      omega
    have hlt := hdrops.length_lt hne
    show (_ ++ [_]).length ≤ _
    rw [List.length_append, List.length_singleton]
    omega
  | clear => exact ⟨Nat.zero_le _, hb.threads⟩
  | notifyTasks => exact ⟨hsize, by simpa [State.goto, Core.notifyAll] using hb.threads⟩
  | clearWorkers => exact ⟨hsize, Nat.zero_le _⟩
  | take _ _ htop =>
    exact ⟨Nat.le_trans (List.length_eraseIdx_le _ _) hsize, hset _ _⟩
  | idle => exact ⟨hsize, hset _ _⟩
  | finish => exact ⟨hsize, hset _ _⟩
  | uncount => exact ⟨hsize, hset _ _⟩
  | count => exact ⟨hsize, hset _ _⟩
  | notify => exact ⟨hsize, hset _ _⟩
  | wakeWorker => exact ⟨hsize, hset _ _⟩
  | reject => exact ⟨hsize, hb.threads⟩
  | flag => exact ⟨hsize, hb.threads⟩
  | _ => exact hb

variable {ls : List Label}

theorem counted_run {ok : State → Label → Prop} (h : Run (step cfg) ok (.start cfg) ls s) :
    Counted s.core := by
  have hboth : Stopping s ∧ Counted s.core :=
    h.invariant (I := fun s => Stopping s ∧ Counted s.core) ⟨stopping_start, counted_start⟩
      fun _ _ _ hI _ hstep => ⟨hI.1.move (step_move hstep), hI.2.move hI.1 (step_move hstep)⟩
  exact hboth.2

/-- A task is in one place. -/
theorem Counted.length_eq (hc : Counted c) :
    c.totalTasks = c.tasks.length + (executing c.workers).length + c.finished.length +
      c.dropped.length := by
  have hperm : (c.tasks.map Task.id ++ executing c.workers ++ c.finished ++ c.dropped).Perm
      c.submitted := by
    refine List.perm_iff_count.2 fun x => ?_
    rw [List.count_append, List.count_append, List.count_append]
    exact hc.tasks x
  rw [hc.total, ← hperm.length_eq, List.length_append, List.length_append, List.length_append,
    List.length_map]

/-- The bounds and the counters in every state. While nothing was dropped, the tasks submitted are
    those that wait, are in execution and have ended. -/
theorem counters_hold (hthreads : 1 ≤ cfg.minThreads ∧ cfg.minThreads ≤ cfg.maxThreads)
    (hqueue : 1 ≤ cfg.maxQueueSize) (h : Run (step cfg) anyStep (.start cfg) ls s) :
    s.core.tasks.length ≤ cfg.maxQueueSize ∧ s.core.workers.length ≤ cfg.maxThreads ∧
    0 ≤ s.core.activeWorkers ∧ s.core.activeWorkers ≤ s.core.workers.length ∧
    (s.core.dropped = [] → s.core.totalTasks = s.core.tasks.length +
      (executing s.core.workers).length + s.core.finished.length) := by
  have hb : Bounded cfg s.core := h.invariant (I := fun s => Bounded cfg s.core)
    (bounded_start hthreads.2) fun _ _ _ hb _ hstep => hb.move hqueue (step_move hstep)
  have hc := counted_run h
  have hbusy : s.core.workers.countP Worker.busy ≤ s.core.workers.length := List.countP_le_length
  have hactive := hc.active
  refine ⟨hb.queue, hb.threads, by omega, by omega, fun hdropped => ?_⟩
  have htotal := hc.length_eq
  rw [hdropped] at htotal
  exact htotal

end

/-- A pool with one worker, which may become two. -/
def smallConfig : Config := ⟨1, 2, 1, .block⟩

theorem counters_hold_small :
    ∃ s, Run (step smallConfig) anyStep (.start smallConfig)
        [.invoke 7 (.enqueue true .high), .call 7 0 0, .call 7 0 0, .worker 0 0,
          .invoke 8 (.tryEnqueue true), .call 8 0 0, .call 8 0 0] s ∧
      s.core.tasks = [⟨8, .normal⟩] ∧
      s.core.tasks.length ≤ smallConfig.maxQueueSize ∧
      s.core.workers.length ≤ smallConfig.maxThreads ∧
      0 ≤ s.core.activeWorkers ∧ s.core.activeWorkers ≤ s.core.workers.length ∧
      (s.core.dropped = [] → s.core.totalTasks = s.core.tasks.length +
        (executing s.core.workers).length + s.core.finished.length) := by
  have hrun : Run (step smallConfig) anyStep (.start smallConfig)
      [.invoke 7 (.enqueue true .high), .call 7 0 0, .call 7 0 0, .worker 0 0,
        .invoke 8 (.tryEnqueue true), .call 8 0 0, .call 8 0 0] _ := exec_run rfl
  exact ⟨_, hrun, rfl, counters_hold (by decide) (by decide) hrun⟩

end ChatApp.ThreadPool
