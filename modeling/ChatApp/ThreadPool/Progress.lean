/-
  A pool that blocks its callers has no stuck state, unless a step is taken after which nobody wakes
  a sleeper.
-/
import ChatApp.ThreadPool.Sleepers

namespace ChatApp.ThreadPool

open ChatApp.Lib

variable {cfg : Config} {s t : State} {l : Label} {ls : List Label}

/-- A caller sleeps although what it waits for holds, or waits for a task that nobody runs. -/
inductive Forgotten (cfg : Config) (s : State) : Prop
  | waitAll {n : Nat} (hn : s.calls n = some ⟨.waitAll, .asleep⟩) (htasks : s.core.tasks = [])
      (hactive : s.core.activeWorkers = 0) : Forgotten cfg s
  | enqueue {n : Nat} {op : Op} (hop : op.enqueues) (hn : s.calls n = some ⟨op, .asleep⟩)
      (h : s.core.tasks.length < cfg.maxQueueSize ∨ s.core.stopped = true) : Forgotten cfg s
  | future {n : Nat} {callable : Bool}
      (hn : s.calls n = some ⟨.enqueueAndWait callable, .future⟩)
      (h : n ∉ s.core.finished) : Forgotten cfg s

/-- All workers are idle or gone, no call can go on, and a caller is forgotten. -/
structure Stuck (cfg : Config) (s : State) : Prop where
  idle : ∀ w ∈ s.core.workers, w = .waiting ∨ w = .gone
  blocked : ∀ n j k, step cfg s (.call n j k) = none
  forgotten : Forgotten cfg s

/-- What keeps sleepers from being forgotten. -/
structure Attended (cfg : Config) (s : State) : Prop where
  stopping : Stopping s
  guarded : Guarded cfg s
  watched : Watched cfg s
  rested : Rested s
  promised : Promised s

theorem attended_start : Attended cfg (.start cfg) :=
  ⟨stopping_start, guarded_start, watched_start, rested_start, promised_start⟩

theorem Attended.move (ha : Attended cfg s) (hpolicy : cfg.rejectionPolicy = .block)
    (hok : Heedful cfg s l) (h : Move cfg s l t) : Attended cfg t :=
  ⟨ha.stopping.move h, ha.guarded.move h,
    ha.watched.move ha.stopping ha.guarded hpolicy hok h, ha.rested.move h,
    ha.promised.move ha.stopping hpolicy hok h⟩

theorem Stuck.not_owes (h : Stuck cfg s) : ¬ Owes s.core.workers := by
  rintro ⟨w, hw, howes⟩
  rcases h.idle w hw with rfl | rfl <;> exact Bool.false_ne_true howes

theorem Stuck.not_awake (h : Stuck cfg s) : ¬ Awake s.core.workers := by
  rintro ⟨w, hw, hawake⟩
  rcases h.idle w hw with rfl | rfl <;> exact Bool.false_ne_true hawake

/-- A `stop` that has not notified yet can go on. -/
theorem Stuck.not_pending (h : Stuck cfg s) : ¬ Pending s := by
  rintro ⟨m, hm | hm⟩ <;>
  · have hblocked := h.blocked m 0 0
    simp only [step, hm, Option.bind_some] at hblocked
    exact Option.some_ne_none _ hblocked

theorem Attended.not_stuck (ha : Attended cfg s) : ¬ Stuck cfg s := by
  intro h
  cases h.forgotten with
  | waitAll hn htasks =>
    rcases ha.watched.all _ hn with hlength | howes
    · rw [htasks] at hlength
      exact Nat.not_succ_le_zero 0 hlength
    · exact h.not_owes howes
  | enqueue hop hn hroom =>
    rcases ha.watched.room _ _ hop hn with hpending | ⟨hopen, hfull | howes⟩
    · exact h.not_pending hpending
    · rcases hroom with hroom | hstopped
      · exact Nat.not_lt.2 hfull hroom
      · exact Bool.false_ne_true (hopen.symm.trans hstopped)
    · exact h.not_owes howes
  | @future n callable hn hunfinished =>
    rcases ha.promised n callable hn with ⟨hmem, w, hw, hne⟩ | hexec | hfinished
    · -- a worker that has not ended is asleep, beside a task
      obtain rfl := (h.idle w hw).resolve_right hne
      rcases ha.rested hw with ⟨m, hm⟩ | ⟨-, htasks | hawake⟩
      · exact h.not_pending ⟨m, .inl hm⟩
      · rw [htasks] at hmem
        exact List.not_mem_nil hmem
      · exact h.not_awake hawake
    · obtain ⟨w, hw, htask⟩ := mem_executing.1 hexec
      rcases h.idle w hw with rfl | rfl <;> exact Option.some_ne_none n htask.symm
    · exact hunfinished hfinished

theorem never_stuck (hpolicy : cfg.rejectionPolicy = .block)
    (h : Run (step cfg) (Heedful cfg) (.start cfg) ls s) : ¬ Stuck cfg s := by
  have hattended : Attended cfg s := by
    refine h.invariant attended_start fun s l t ha hok hstep => ?_
    exact ha.move hpolicy hok (step_move hstep)
  exact hattended.not_stuck

/-! ## Runs of a pool with one worker -/

/-- A caller sleeps only beside a worker that will notify; the queue is cleared when it is empty. -/
def heeds (s : State) : Label → Bool
  | .call n _ _ => (s.calls n).all fun call => match call.op, call.pc with
    | .waitAll, .holding => s.core.tasks ≠ [] || s.core.workers.any Worker.owes
    | .clearQueue, .begun => s.core.tasks = []
    | .enqueueAndWait _, _ => !s.core.stopped && s.core.workers.any (· ≠ .gone)
    | _, _ => true
  | _ => true

theorem heedful_of_heeds (h : heeds s l = true) : Heedful cfg s l := by
  have hcall : ∀ {n j k : Nat} {call : Call}, l = .call n j k → s.calls n = some call →
      (match call.op, call.pc with
        | .waitAll, .holding => s.core.tasks ≠ [] || s.core.workers.any Worker.owes
        | .clearQueue, .begun => s.core.tasks = []
        | .enqueueAndWait _, _ => !s.core.stopped && s.core.workers.any (· ≠ .gone)
        | _, _ => true) = true := by
    rintro n j k call rfl hn
    rw [heeds, hn] at h
    exact h
  refine ⟨fun n j k hl hn => ?_, fun n j k hl hn => ?_,
    fun n j k callable pc hl hn hstopped => ?_, fun n j k callable pc hl hn _ _ => ?_⟩
  · have hlevel := hcall hl hn
    simp only [Bool.or_eq_true, decide_eq_true_eq, List.any_eq_true] at hlevel
    exact hlevel.imp_left List.length_pos_of_ne_nil
  · exact .inl (of_decide_eq_true (hcall hl hn))
  · have hopen := hcall hl hn
    simp [hstopped] at hopen
  · have halive := hcall hl hn
    simp only [Bool.and_eq_true, List.any_eq_true, decide_eq_true_eq] at halive
    exact .inl halive.2

/-- `wait_all` sleeps while a task runs, and is woken. -/
def wokenRun : List Label := [
  .invoke 0 (.enqueueAndWait true), .call 0 0 0, .call 0 0 0, .call 0 0 0, .worker 0 0,
  .invoke 1 .waitAll, .call 1 0 0, .call 1 0 0, .worker 0 0, .worker 0 0, .worker 0 0,
  .worker 0 0, .worker 0 0, .call 1 0 0, .call 0 0 0]

theorem never_stuck_woken :
    ∃ s, Run (step blockConfig) (Heedful blockConfig) (.start blockConfig) wokenRun s ∧
      s.calls 0 = some ⟨.enqueueAndWait true, .returned true⟩ ∧
      s.calls 1 = some ⟨.waitAll, .returned true⟩ ∧ ¬ Stuck blockConfig s := by
  have hheeds : Run (step blockConfig) (fun s l => heeds s l = true) (.start blockConfig)
      wokenRun _ := run_iff_exec.2 rfl
  have hheedful : ∀ s l, heeds s l = true → Heedful blockConfig s l := fun _ _ =>
    heedful_of_heeds
  have hrun := hheeds.mono hheedful
  exact ⟨_, hrun, rfl, rfl, never_stuck rfl hrun⟩

/-- The worker decrements the counter and notifies between the test of `wait_all` and its sleep. -/
theorem last_notification_lost :
    ∃ s, Run (step blockConfig) anyStep (.start blockConfig)
        [.invoke 0 (.enqueue true .normal), .call 0 0 0, .call 0 0 0, .worker 0 0,
          .invoke 1 .waitAll, .call 1 0 0, .worker 0 0, .worker 0 0, .worker 0 0, .worker 0 0,
          .call 1 0 0, .worker 0 0] s ∧ Stuck blockConfig s := by
  refine ⟨_, exec_run rfl, by decide, fun n j k => ?_, .waitAll (n := 1) rfl rfl rfl⟩
  match n with
  | 0 => rfl
  | 1 => rfl
  | n + 2 => rfl

end ChatApp.ThreadPool
