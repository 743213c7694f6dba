/-
  Callers that sleep, and who wakes them. A worker owes a notification of `cv_done_` from the time
  it takes a task until it notifies; a caller may sleep while its predicate is false, while a worker
  owes a notification, or while `stop` is about to notify. `Heedful` leaves out the steps after
  which nobody does: a `wait_all` that goes to sleep after the last notification, a `clear_queue`
  that makes a predicate true without one, and an `enqueue_and_wait` whose task is refused or
  dropped or left without a worker.
-/
import ChatApp.ThreadPool.Executions

namespace ChatApp.ThreadPool

open ChatApp.Lib

variable {cfg : Config} {s t : State} {l : Label} {ls : List Label} {n : Nat} {op : Op} {pc : Pc}

/-! ## The mutex -/

/-- Only a call between its test and its sleep holds the mutex across steps, and what it has tested
    stays as it is, but for `active_workers_`. -/
structure Guarded (cfg : Config) (s : State) : Prop where
  held : ∀ n, s.lock = some n → ∃ op, s.calls n = some ⟨op, .holding⟩
  holding : ∀ n op, s.calls n = some ⟨op, .holding⟩ → s.lock = some n
  tested : ∀ n op, s.calls n = some ⟨op, .holding⟩ → op.enqueues →
    s.core.stopped = false ∧ cfg.maxQueueSize ≤ s.core.tasks.length

theorem guarded_start : Guarded cfg (.start cfg) :=
  ⟨fun _ h => absurd h.symm (Option.some_ne_none _),
    fun _ _ h => absurd h.symm (Option.some_ne_none _),
    fun _ _ h => absurd h.symm (Option.some_ne_none _)⟩

theorem Guarded.not_holding (hg : Guarded cfg s) (hfree : s.lock = none) (n : Nat) (op : Op) :
    s.calls n ≠ some ⟨op, .holding⟩ := fun hn =>
  Option.some_ne_none n ((hg.holding n op hn).symm.trans hfree)

/-- A step of a call that neither takes nor gives back the mutex. -/
theorem Guarded.goto {u : State} (hg : Guarded cfg s) (hcalls : u.calls = s.calls)
    (hlock : u.lock = s.lock) (hold : ∀ op, s.calls n ≠ some ⟨op, .holding⟩) (hpc : pc ≠ .holding)
    (hcore : s.lock = none ∨
      u.core.stopped = s.core.stopped ∧ u.core.tasks = s.core.tasks) :
    Guarded cfg (u.goto n op pc) := by
  have hother : ∀ m op', (u.goto n op pc).calls m = some ⟨op', .holding⟩ →
      s.calls m = some ⟨op', .holding⟩ := by
    intro m op' hm
    rcases calls_goto_cases hm with ⟨-, -, heq⟩ | ⟨-, hm⟩
    · exact absurd heq hpc
    · exact hcalls ▸ hm
  refine ⟨fun m hm => ?_, fun m op' hm => hlock.trans (hg.holding m op' (hother m op' hm)),
    fun m op' hm hop => ?_⟩
  · obtain ⟨op', hm'⟩ := hg.held m (hlock.symm.trans hm)
    refine ⟨op', ?_⟩
    rw [calls_goto, hcalls, if_neg]
    · exact hm'
    · rintro rfl
      exact hold op' hm'
  · rcases hcore with hfree | ⟨hstopped, htasks⟩
    · exact absurd (hother m op' hm) (hg.not_holding hfree m op')
    · obtain ⟨hopen, hfull⟩ := hg.tested m op' (hother m op' hm) hop
      exact ⟨hstopped.trans hopen, htasks.symm ▸ hfull⟩

/-- A step of no call. -/
theorem Guarded.wake (hg : Guarded cfg s)
    (hcalls : t.calls = s.calls ∨ t.calls = s.notifyDone.calls) (hlock : t.lock = s.lock)
    (hcore : s.lock = none ∨
      t.core.stopped = s.core.stopped ∧ t.core.tasks = s.core.tasks) : Guarded cfg t := by
  have hiff : ∀ m op, t.calls m = some ⟨op, .holding⟩ ↔ s.calls m = some ⟨op, .holding⟩ := by
    intro m op
    rcases hcalls with hcalls | hcalls
    · rw [hcalls]
    · rw [hcalls]
      refine ⟨calls_of_notifyDone (by simp), fun hm => ?_⟩
      rw [calls_notifyDone, hm]
      rfl
  refine ⟨fun m hm => ?_, fun m op hm => hlock.trans (hg.holding m op ((hiff m op).1 hm)),
    fun m op hm hop => ?_⟩
  · obtain ⟨op, hm'⟩ := hg.held m (hlock.symm.trans hm)
    exact ⟨op, (hiff m op).2 hm'⟩
  · rcases hcore with hfree | ⟨hstopped, htasks⟩
    · exact absurd ((hiff m op).1 hm) (hg.not_holding hfree m op)
    · obtain ⟨hopen, hfull⟩ := hg.tested m op ((hiff m op).1 hm) hop
      exact ⟨hstopped.trans hopen, htasks.symm ▸ hfull⟩

theorem Turn.ne_holding {c : Core} {pc' : Pc} (h : Turn cfg c n op pc pc') :
    pc ≠ .holding ∧ pc' ≠ .holding := by
  cases h with
  | abandon _ hpc => exact ⟨by rintro rfl; simp at hpc, Op.answer_ne (by simp) (by simp)⟩
  | allDone hpc => exact ⟨by rintro rfl; simp at hpc, by simp⟩
  | _ => exact ⟨by simp, by simp⟩

theorem Guarded.move (hg : Guarded cfg s) (h : Move cfg s l t) : Guarded cfg t := by
  have hat : ∀ {n : Nat} {op : Op} {pc : Pc}, s.calls n = some ⟨op, pc⟩ → pc ≠ .holding →
      ∀ op', s.calls n ≠ some ⟨op', .holding⟩ := by
    intro n op pc hn hpc op' hn'
    exact hpc (calls_inj hn hn').2
  have hanswer : ∀ {op : Op} {r : Bool}, op.answer r ≠ .holding :=
    Op.answer_ne (by simp) (by simp)
  cases h with
  | invoke hn => exact hg.goto rfl rfl (by simp [hn]) (by simp) (.inr ⟨rfl, rfl⟩)
  | turn hn h =>
    exact hg.goto rfl rfl (hat hn h.ne_holding.1) h.ne_holding.2 (.inr ⟨rfl, rfl⟩)
  | @hold n _ _ op pc hn hfree h =>
    have hpc : pc ≠ .holding := by
      rintro rfl
      cases h with
      | room _ hpc => simp at hpc
      | done hpc => simp at hpc
    have honly : ∀ m op', ({ s with lock := some n }.goto n op .holding).calls m =
        some ⟨op', .holding⟩ → m = n ∧ op' = op := by
      intro m op' hm
      rcases calls_goto_cases hm with ⟨heq, hop, -⟩ | ⟨-, hm⟩
      · exact ⟨heq, hop.symm⟩
      · exact absurd hm (hg.not_holding hfree m op')
    refine ⟨fun m hm => ?_, fun m op' hm => congrArg some (honly m op' hm).1.symm,
      fun m op' hm hop => ?_⟩
    · obtain rfl : n = m := Option.some.inj hm
      exact ⟨op, calls_goto_self _ _ _ _⟩
    · obtain ⟨rfl, rfl⟩ := honly m op' hm
      cases h with
      | room _ _ hstopped hfull => exact ⟨hstopped, hfull⟩
      | done => exact absurd hop Bool.false_ne_true
  | @sleep n _ _ op hn =>
    have hlock := hg.holding n op hn
    have hnone : ∀ m op', ({ s with lock := none }.goto n op .asleep).calls m ≠
        some ⟨op', .holding⟩ := by
      intro m op' hm
      rcases calls_goto_cases hm with ⟨-, -, hpc⟩ | ⟨hne, hm⟩
      · cases hpc
      · exact hne (Option.some.inj ((hg.holding m op' hm).symm.trans hlock))
    exact ⟨fun m hm => absurd hm.symm (Option.some_ne_none m),
      fun m op' hm => absurd hm (hnone m op'),
      fun m op' hm => absurd hm (hnone m op')⟩
  | reject hn => exact hg.goto rfl rfl (hat hn (by simp)) hanswer (.inr ⟨rfl, rfl⟩)
  | push hn _ hpc hfree =>
    exact hg.goto rfl rfl (hat hn (by rintro rfl; simp at hpc)) hanswer (.inl hfree)
  | dropPush hn _ hfree => exact hg.goto rfl rfl (hat hn (by simp)) hanswer (.inl hfree)
  | clear hn hfree => exact hg.goto rfl rfl (hat hn (by simp)) (by simp) (.inl hfree)
  | flag hn hfree => exact hg.goto rfl rfl (hat hn (by simp)) (by simp) (.inl hfree)
  | notifyTasks hn => exact hg.goto rfl rfl (hat hn (by simp)) (by simp) (.inr ⟨rfl, rfl⟩)
  | notifyDone hn =>
    have hsleepers : Guarded cfg s.notifyDone := hg.wake (.inr rfl) rfl (.inr ⟨rfl, rfl⟩)
    refine hsleepers.goto rfl rfl (fun op' => ?_) (by simp) (.inr ⟨rfl, rfl⟩)
    rw [calls_notifyDone, hn]
    simp [Call.wake]
  | clearWorkers hn => exact hg.goto rfl rfl (hat hn (by simp)) (by simp) (.inr ⟨rfl, rfl⟩)
  | idle _ hfree => exact hg.wake (.inl rfl) rfl (.inl hfree)
  | take _ hfree => exact hg.wake (.inl rfl) rfl (.inl hfree)
  | notify => exact hg.wake (.inr rfl) rfl (.inr ⟨rfl, rfl⟩)
  | wakeCall hn => exact hg.goto rfl rfl (hat hn (by simp)) (by simp) (.inr ⟨rfl, rfl⟩)
  | _ => exact hg.wake (.inl rfl) rfl (.inr ⟨rfl, rfl⟩)

/-! ## Notifications that are owed -/

/-- The worker has taken a task and not yet notified `cv_done_`. -/
def Worker.owes : Worker → Bool
  | .running _ => true
  | .ran => true
  | .uncounted => true
  | .unnotified => true
  | _ => false

def Owes (ws : List Worker) : Prop := ∃ w ∈ ws, w.owes = true

/-- `k` tasks wait, or a worker owes a notification. -/
def Level (k : Nat) (c : Core) : Prop := k ≤ c.tasks.length ∨ Owes c.workers

/-- `stop` is about to notify `cv_done_`. -/
def Pending (s : State) : Prop :=
  ∃ m, s.calls m = some ⟨.stop, .flagged⟩ ∨ s.calls m = some ⟨.stop, .notifiedTasks⟩

/-- `stop` is about to notify `cv_task_`. -/
def PendingTasks (s : State) : Prop := ∃ m, s.calls m = some ⟨.stop, .flagged⟩

section
variable {ws us : List Worker} {c : Core} {i : Nat} {v w : Worker}

/-- What holds of another worker still does. -/
theorem exists_set {p : Worker → Prop} (hi : ws[i]? = some v) (hv : ¬ p v) (h : ∃ w ∈ ws, p w) :
    ∃ u ∈ ws.set i w, p u := by
  obtain ⟨u, hu, hp⟩ := h
  obtain ⟨m, hm, rfl⟩ := List.getElem_of_mem hu
  have hne : i ≠ m := by
    rintro rfl
    exact hv (Option.some.inj (hi.symm.trans (List.getElem?_eq_getElem hm)) ▸ hp)
  refine ⟨ws[m], ?_, hp⟩
  have hset : (ws.set i w)[m]? = some ws[m] :=
    (List.getElem?_set_ne hne).trans (List.getElem?_eq_getElem hm)
  exact List.mem_of_getElem? hset

theorem exists_set_self {p : Worker → Prop} (hi : ws[i]? = some v) (hw : p w) :
    ∃ u ∈ ws.set i w, p u :=
  ⟨w, List.mem_set (List.getElem?_eq_some_iff.1 hi).1 w, hw⟩

theorem Hires.exists {p : Worker → Prop} (h : Hires cfg c op us) (hc : ∃ w ∈ c.workers, p w) :
    ∃ w ∈ us, p w := by
  obtain ⟨w, hw, hp⟩ := hc
  cases h with
  | keep => exact ⟨w, hw, hp⟩
  | add => exact ⟨w, List.mem_append_left _ hw, hp⟩

theorem Wakes.exists {p : Worker → Prop} (h : Wakes ws us) (hwaiting : ¬ p .waiting)
    (hws : ∃ w ∈ ws, p w) : ∃ w ∈ us, p w := by
  cases h with
  | none => exact hws
  | one hj => exact exists_set hj hwaiting hws

theorem Owes.notifyAll (h : Owes ws) : Owes (ws.map Core.wake) := by
  obtain ⟨w, hw, hp⟩ := h
  refine ⟨Core.wake w, List.mem_map_of_mem hw, ?_⟩
  cases w <;> exact hp

end

/-- No call is asleep. -/
def Woken (s : State) : Prop := ∀ n op, s.calls n ≠ some ⟨op, .asleep⟩

theorem woken_notifyDone : Woken s.notifyDone := by
  intro n op hn
  rw [calls_notifyDone] at hn
  obtain ⟨⟨op', pc⟩, -, heq⟩ := Option.map_eq_some_iff.1 hn
  cases pc <;> cases heq

/-- A level is kept, or all sleepers are woken; only `clear_queue` empties the queue. -/
theorem Move.level {k : Nat} (hs : Stopping s) (hpolicy : cfg.rejectionPolicy = .block)
    (hclear : ∀ n j k, l = .call n j k → s.calls n ≠ some ⟨.clearQueue, .begun⟩)
    (h : Move cfg s l t) (hk : Level k s.core) : Woken t ∨ Level k t.core := by
  have hset : ∀ {c : Core} {i : Nat} {v w : Worker}, s.core.workers[i]? = some v → v.owes = false →
      c.workers = s.core.workers.set i w → c.tasks = s.core.tasks → Level k c := by
    intro c i v w hi hv hworkers htasks
    refine hk.imp (fun h => htasks ▸ h) fun howes => ?_
    rw [hworkers]
    exact exists_set hi (by simp [hv]) howes
  have howner : ∀ {c : Core} {i : Nat} {v w : Worker}, s.core.workers[i]? = some v →
      w.owes = true → c.workers = s.core.workers.set i w → Level k c := by
    intro c i v w hi hw hworkers
    refine .inr ?_
    rw [hworkers]
    exact exists_set_self hi hw
  cases h with
  | push _ _ _ _ _ hhires hwakes =>
    right
    refine hk.imp (fun hk => ?_) fun howes => hwakes.exists (by decide) (hhires.exists howes)
    show k ≤ (s.core.tasks ++ [_]).length
    rw [List.length_append]
    exact Nat.le_trans hk (Nat.le_add_right _ _)
  | dropPush _ _ _ hp => exact absurd (hpolicy.symm.trans hp) (by decide)
  | clear hn => exact absurd hn (hclear _ _ _ rfl)
  | notifyTasks => exact .inr (hk.imp_right Owes.notifyAll)
  | clearWorkers hn hi hm =>
    refine .inr (hk.imp_right fun howes => ?_)
    obtain ⟨w, hw, howes⟩ := howes
    rw [hs.all_gone hn hi hm w hw] at howes
    exact absurd howes Bool.false_ne_true
  | idle hi => exact .inr (hset hi rfl rfl rfl)
  | take hi => exact .inr (howner hi rfl rfl)
  | finish hi => exact .inr (howner hi rfl rfl)
  | uncount hi => exact .inr (howner hi rfl rfl)
  | count hi => exact .inr (howner hi rfl rfl)
  | notify => exact .inl woken_notifyDone
  | wakeWorker hi => exact .inr (hset hi rfl rfl rfl)
  | _ => exact .inr hk

/-- A call that is asleep was so before, or held the mutex. -/
theorem Move.asleep (h : Move cfg s l t) (hn : t.calls n = some ⟨op, .asleep⟩) :
    s.calls n = some ⟨op, .asleep⟩ ∨
      s.calls n = some ⟨op, .holding⟩ ∧ t.core = s.core ∧ ∃ j k, l = .call n j k := by
  have hgoto : ∀ {u : State} {m : Nat} {op' : Op} {pc : Pc}, u.calls = s.calls → pc ≠ .asleep →
      (u.goto m op' pc).calls n = some ⟨op, .asleep⟩ → s.calls n = some ⟨op, .asleep⟩ := by
    intro u m op' pc hcalls hpc hn
    rcases calls_goto_cases hn with ⟨-, -, heq⟩ | ⟨-, hn⟩
    · exact absurd heq hpc
    · exact hcalls ▸ hn
  have hanswer : ∀ {op : Op} {r : Bool}, op.answer r ≠ .asleep :=
    Op.answer_ne (by simp) (by simp)
  cases h with
  | invoke => exact .inl (hgoto rfl (by simp) hn)
  | turn _ h =>
    refine .inl (hgoto rfl ?_ hn)
    rintro rfl
    generalize hpc : Pc.asleep = pc' at h
    cases h with
    | abandon => exact hanswer hpc.symm
    | _ => cases hpc
  | hold => exact .inl (hgoto rfl (by simp) hn)
  | @sleep m j k op' hm =>
    rcases calls_goto_cases hn with ⟨rfl, rfl, -⟩ | ⟨-, hn⟩
    · exact .inr ⟨hm, rfl, j, k, rfl⟩
    · exact .inl hn
  | reject => exact .inl (hgoto rfl hanswer hn)
  | push => exact .inl (hgoto rfl hanswer hn)
  | dropPush => exact .inl (hgoto rfl hanswer hn)
  | clear => exact .inl (hgoto rfl (by simp) hn)
  | flag => exact .inl (hgoto rfl (by simp) hn)
  | notifyTasks => exact .inl (hgoto rfl (by simp) hn)
  | notifyDone =>
    rcases calls_goto_cases hn with ⟨-, -, hpc⟩ | ⟨-, hn⟩
    · cases hpc
    · exact absurd hn (woken_notifyDone n op)
  | clearWorkers => exact .inl (hgoto rfl (by simp) hn)
  | notify => exact absurd hn (woken_notifyDone n op)
  | wakeCall => exact .inl (hgoto rfl (by simp) hn)
  | _ => exact .inl hn

/-- A call that is not asleep stays where it is while others go on. -/
theorem Move.others {m : Nat} {call : Call} (h : Move cfg s l t) (hl : ∀ j k, l ≠ .call m j k)
    (hm : s.calls m = some call) (hpc : call.pc ≠ .asleep) : t.calls m = some call := by
  have hgoto : ∀ {u : State} {n : Nat} {op : Op} {pc : Pc}, u.calls = s.calls → m ≠ n →
      (u.goto n op pc).calls m = some call := by
    intro u n op pc hcalls hne
    rw [calls_goto, if_neg hne, hcalls]
    exact hm
  have hne : ∀ {n j k : Nat}, l = .call n j k → m ≠ n := by
    rintro n j k hl' rfl
    exact hl j k hl'
  have hwake : call.wake = call := if_neg hpc
  cases h with
  | invoke hn =>
    refine hgoto rfl ?_
    rintro rfl
    exact Option.some_ne_none _ (hm.symm.trans hn)
  | notifyDone =>
    rw [calls_goto, if_neg (hne rfl), calls_notifyDone, hm, Option.map_some, hwake]
  | notify =>
    show s.notifyDone.calls m = _
    rw [calls_notifyDone, hm, Option.map_some, hwake]
  | wakeCall hn =>
    refine hgoto rfl ?_
    rintro rfl
    obtain rfl := Option.some.inj (hm.symm.trans hn)
    exact hpc rfl
  | turn => exact hgoto rfl (hne rfl)
  | hold => exact hgoto rfl (hne rfl)
  | sleep => exact hgoto rfl (hne rfl)
  | reject => exact hgoto rfl (hne rfl)
  | push => exact hgoto rfl (hne rfl)
  | dropPush => exact hgoto rfl (hne rfl)
  | clear => exact hgoto rfl (hne rfl)
  | flag => exact hgoto rfl (hne rfl)
  | notifyTasks => exact hgoto rfl (hne rfl)
  | clearWorkers => exact hgoto rfl (hne rfl)
  | _ => exact hm

/-- The steps of `stop` that notify, and that of `clear_queue`, are the only ones from where they
    begin. -/
theorem Move.acts {j k : Nat} (h : Move cfg s (.call n j k) t) (hn : s.calls n = some ⟨op, pc⟩) :
    (op = .stop → pc = .flagged →
      t = { s with core := s.core.notifyAll }.goto n .stop .notifiedTasks) ∧
    (op = .stop → pc = .notifiedTasks → t = s.notifyDone.goto n .stop .notified) ∧
    (op = .clearQueue → pc = .begun →
      t = { s with core := s.core.clearQueue }.goto n .clearQueue (.returned true)) := by
  have hsame : ∀ {op' pc'}, s.calls n = some ⟨op', pc'⟩ → op = op' ∧ pc = pc' := calls_inj hn
  cases h with
  | turn hn' h =>
    obtain ⟨rfl, rfl⟩ := hsame hn'
    cases h with
    | abandon hop => refine ⟨?_, ?_, ?_⟩ <;> rintro rfl <;> exact absurd hop Bool.false_ne_true
    | throw hop => refine ⟨?_, ?_, ?_⟩ <;> rintro rfl <;> exact absurd hop Bool.false_ne_true
    | _ => simp
  | hold hn' _ h =>
    obtain ⟨rfl, rfl⟩ := hsame hn'
    cases h with
    | room hop => refine ⟨?_, ?_, ?_⟩ <;> rintro rfl <;> exact absurd hop Bool.false_ne_true
    | done => simp
  | sleep hn' =>
    obtain ⟨rfl, rfl⟩ := hsame hn'
    simp
  | reject hn' =>
    obtain ⟨rfl, rfl⟩ := hsame hn'
    simp
  | push hn' hop =>
    obtain ⟨rfl, rfl⟩ := hsame hn'
    refine ⟨?_, ?_, ?_⟩ <;> rintro rfl <;> exact absurd hop Bool.false_ne_true
  | dropPush hn' =>
    obtain ⟨rfl, rfl⟩ := hsame hn'
    simp
  | clear hn' =>
    obtain ⟨rfl, rfl⟩ := hsame hn'
    simp
  | flag hn' =>
    obtain ⟨rfl, rfl⟩ := hsame hn'
    simp
  | notifyTasks hn' =>
    obtain ⟨rfl, rfl⟩ := hsame hn'
    simp
  | notifyDone hn' =>
    obtain ⟨rfl, rfl⟩ := hsame hn'
    simp
  | clearWorkers hn' =>
    obtain ⟨rfl, rfl⟩ := hsame hn'
    simp

/-- The notification of `stop` comes, or is still to come. -/
theorem Move.pending (h : Move cfg s l t) (hp : Pending s) : Woken t ∨ Pending t := by
  obtain ⟨m, hm⟩ := hp
  by_cases hl : ∀ j k, l ≠ .call m j k
  · exact .inr ⟨m, hm.imp (fun hm => h.others hl hm (by simp)) fun hm => h.others hl hm (by simp)⟩
  · simp only [not_forall, not_not] at hl
    obtain ⟨j, k, rfl⟩ := hl
    rcases hm with hm | hm
    · obtain rfl := (h.acts hm).1 rfl rfl
      exact .inr ⟨m, .inr (calls_goto_self _ _ _ _)⟩
    · obtain rfl := (h.acts hm).2.1 rfl rfl
      refine .inl fun n op hn => ?_
      rcases calls_goto_cases hn with ⟨-, -, hpc⟩ | ⟨-, hn⟩
      · cases hpc
      · exact woken_notifyDone n op hn

/-- No worker waits after the notification of `cv_task_`. -/
theorem Move.pendingTasks (h : Move cfg s l t) (hp : PendingTasks s) :
    .waiting ∉ t.core.workers ∨ PendingTasks t := by
  obtain ⟨m, hm⟩ := hp
  by_cases hl : ∀ j k, l ≠ .call m j k
  · exact .inr ⟨m, h.others hl hm (by simp)⟩
  · simp only [not_forall, not_not] at hl
    obtain ⟨j, k, rfl⟩ := hl
    obtain rfl := (h.acts hm).1 rfl rfl
    refine .inl fun hmem => ?_
    obtain ⟨w, -, hw⟩ := List.mem_map.1 hmem
    cases w <;> cases hw

/-! ## Steps that leave nobody to wake a sleeper -/

structure Heedful (cfg : Config) (s : State) (l : Label) : Prop where
  /-- `wait_all` goes to sleep before the last notification -/
  sleeps : ∀ n j k, l = .call n j k → s.calls n = some ⟨.waitAll, .holding⟩ → Level 1 s.core
  /-- the queue is cleared when a worker owes a notification or nobody sleeps, and no task in it is
      waited for -/
  clears : ∀ n j k, l = .call n j k → s.calls n = some ⟨.clearQueue, .begun⟩ →
    s.core.tasks = [] ∨ (Owes s.core.workers ∨ Woken s) ∧
      ∀ u ∈ s.core.tasks, ∀ callable, s.calls u.id ≠ some ⟨.enqueueAndWait callable, .future⟩
  /-- the `enqueue` inside of `enqueue_and_wait` does not find the pool stopped -/
  refuses : ∀ n j k callable pc, l = .call n j k →
    s.calls n = some ⟨.enqueueAndWait callable, pc⟩ → s.core.stopped = true →
    pc ≠ .entered ∧ pc ≠ .woken ∧ (pc = .submitting → s.core.tasks.length < cfg.maxQueueSize)
  /-- and leaves its task to a worker -/
  staffs : ∀ n j k callable pc, l = .call n j k →
    s.calls n = some ⟨.enqueueAndWait callable, pc⟩ → pc = .submitting ∨ pc = .woken →
    s.core.tasks.length < cfg.maxQueueSize → Alive s.core.workers ∨ Grows cfg s.core

/-- The levels that the sleepers wait for. -/
structure Watched (cfg : Config) (s : State) : Prop where
  all : ∀ n, s.calls n = some ⟨.waitAll, .asleep⟩ → Level 1 s.core
  room : ∀ n op, op.enqueues → s.calls n = some ⟨op, .asleep⟩ →
    Pending s ∨ s.core.stopped = false ∧ Level cfg.maxQueueSize s.core

theorem watched_start : Watched cfg (.start cfg) :=
  ⟨fun _ h => absurd h.symm (Option.some_ne_none _),
    fun _ _ _ h => absurd h.symm (Option.some_ne_none _)⟩

/-- The flag is set by a call that will notify. -/
theorem Move.opened (h : Move cfg s l t) (hs : s.core.stopped = false) :
    t.core.stopped = false ∨ PendingTasks t := by
  cases h with
  | @flag n => exact .inr ⟨n, calls_goto_self _ _ _ _⟩
  | _ => exact .inl hs

theorem Watched.move (hw : Watched cfg s) (hs : Stopping s) (hg : Guarded cfg s)
    (hpolicy : cfg.rejectionPolicy = .block) (hok : Heedful cfg s l) (h : Move cfg s l t) :
    Watched cfg t := by
  -- a level is lost only if nobody sleeps any more
  have hlevel : ∀ k, Level k s.core → Woken t ∨ Level k t.core := by
    intro k hk
    by_cases hclear : ∀ n j k, l = .call n j k → s.calls n ≠ some ⟨.clearQueue, .begun⟩
    · exact h.level hs hpolicy hclear hk
    · simp only [not_forall, not_not] at hclear
      obtain ⟨n, j, i, rfl, hn⟩ := hclear
      obtain rfl := (h.acts hn).2.2 rfl rfl
      rcases hok.clears n j i rfl hn with hnil | ⟨howes | hwoken, -⟩
      · refine .inr (hk.imp_left fun hk => ?_)
        rw [hnil] at hk
        exact hk
      · exact .inr (.inr howes)
      · refine .inl fun m op hm => ?_
        rcases calls_goto_cases hm with ⟨-, -, hpc⟩ | ⟨-, hm⟩
        · cases hpc
        · exact hwoken m op hm
  constructor
  · intro n hn
    rcases h.asleep hn with hold | ⟨hold, hcore, j, k, rfl⟩
    · exact (hlevel 1 (hw.all n hold)).resolve_left fun hwoken => hwoken n _ hn
    · exact hcore ▸ hok.sleeps n j k rfl hold
  · intro n op hop hn
    have hcases : Pending s ∨ s.core.stopped = false ∧ Level cfg.maxQueueSize s.core := by
      rcases h.asleep hn with hold | ⟨hold, -, -⟩
      · exact hw.room n op hop hold
      · obtain ⟨hopen, hfull⟩ := hg.tested n op hold hop
        exact .inr ⟨hopen, .inl hfull⟩
    rcases hcases with hpending | ⟨hopen, hroom⟩
    · exact .inl ((h.pending hpending).resolve_left fun hwoken => hwoken n _ hn)
    · rcases h.opened hopen with hopen' | ⟨m, hm⟩
      · exact .inr ⟨hopen', (hlevel _ hroom).resolve_left fun hwoken => hwoken n _ hn⟩
      · exact .inl ⟨m, .inl hm⟩

/-! ## Workers that wait -/

/-- The worker will look for a task again. -/
def Worker.awake : Worker → Bool
  | .waiting => false
  | .gone => false
  | _ => true

def Awake (ws : List Worker) : Prop := ∃ w ∈ ws, w.awake = true

/-- If a worker sleeps, no task is left to nobody. -/
def Rested (s : State) : Prop :=
  .waiting ∈ s.core.workers → PendingTasks s ∨
    s.core.stopped = false ∧ (s.core.tasks = [] ∨ Awake s.core.workers)

theorem rested_start : Rested (.start cfg) := fun h =>
  Worker.noConfusion (List.eq_of_mem_replicate h)

theorem waiting_of_set {ws : List Worker} {i : Nat} {w : Worker} (hw : w ≠ .waiting)
    (h : .waiting ∈ ws.set i w) : .waiting ∈ ws :=
  (List.mem_or_eq_of_mem_set h).resolve_right fun heq => hw heq.symm

theorem Rested.move (hr : Rested s) (h : Move cfg s l t) : Rested t := by
  intro hwaiting
  -- the flag, and the notification that follows it
  have hflag : .waiting ∈ s.core.workers → t.core.tasks = [] ∨ Awake t.core.workers →
      PendingTasks t ∨ t.core.stopped = false ∧ (t.core.tasks = [] ∨ Awake t.core.workers) := by
    intro hold hwork
    rcases hr hold with hpending | ⟨hopen, -⟩
    · exact .inl ((h.pendingTasks hpending).resolve_left fun hnone => hnone hwaiting)
    · rcases h.opened hopen with hopen' | hpending
      · exact .inr ⟨hopen', hwork⟩
      · exact .inl hpending
  have hkeep : t.core.workers = s.core.workers → t.core.tasks = s.core.tasks →
      PendingTasks t ∨ t.core.stopped = false ∧ (t.core.tasks = [] ∨ Awake t.core.workers) := by
    intro hworkers htasks
    have hold : .waiting ∈ s.core.workers := hworkers ▸ hwaiting
    rcases hr hold with hpending | ⟨-, hwork⟩
    · exact .inl ((h.pendingTasks hpending).resolve_left fun hnone => hnone hwaiting)
    · exact hflag hold (htasks ▸ hworkers ▸ hwork)
  have hset : ∀ {i : Nat} {v w : Worker}, s.core.workers[i]? = some v → w.awake = true →
      t.core.workers = s.core.workers.set i w →
      PendingTasks t ∨ t.core.stopped = false ∧ (t.core.tasks = [] ∨ Awake t.core.workers) := by
    intro i v w hi hw hworkers
    refine hflag (waiting_of_set (i := i) (w := w) ?_ (hworkers ▸ hwaiting)) (.inr ?_)
    · rintro rfl
      exact Bool.false_ne_true hw
    · rw [hworkers]
      exact exists_set_self hi hw
  have hpush : ∀ {op : Op} {us ws : List Worker}, Hires cfg s.core op us → Wakes us ws →
      t.core.workers = ws →
      PendingTasks t ∨ t.core.stopped = false ∧ (t.core.tasks = [] ∨ Awake t.core.workers) := by
    intro op us ws hhires hwakes hworkers
    rw [hworkers] at hwaiting
    cases hwakes with
    | none hnone => exact absurd hwaiting hnone
    | one hj =>
      have hus := waiting_of_set (by decide) hwaiting
      have hold : .waiting ∈ s.core.workers := by
        cases hhires with
        | keep => exact hus
        | add => simpa using hus
      exact hflag hold (.inr (hworkers ▸ exists_set_self hj rfl))
  cases h with
  | push _ _ _ _ _ hhires hwakes => exact hpush hhires hwakes rfl
  | dropPush _ _ _ _ _ _ hhires hwakes => exact hpush hhires hwakes rfl
  | clear => exact hflag hwaiting (.inl rfl)
  | notifyTasks =>
    obtain ⟨w, -, hw⟩ := List.mem_map.1 hwaiting
    cases w <;> cases hw
  | clearWorkers => exact absurd hwaiting List.not_mem_nil
  | @idle i k hi _ htasks =>
    by_cases hstopped : s.core.stopped = true
    · have hworkers : (setWorker s i (if s.core.stopped then .gone else .waiting)).core.workers =
          s.core.workers.set i .gone := by simp [setWorker, hstopped]
      have hold := waiting_of_set (by decide) (hworkers ▸ hwaiting)
      exact hflag hold (.inl htasks)
    · exact .inr ⟨Bool.not_eq_true _ ▸ hstopped, .inl htasks⟩
  | take hi => exact hset hi rfl rfl
  | finish hi => exact hset hi rfl rfl
  | uncount hi => exact hset hi rfl rfl
  | count hi => exact hset hi rfl rfl
  | notify hi => exact hset hi rfl rfl
  | wakeWorker hi => exact hset hi rfl rfl
  | _ => exact hkeep rfl rfl

/-! ## Futures -/

/-- A task that a caller waits for is in the queue of a pool with a worker, in execution, or has
    ended. -/
def Expected (c : Core) (n : Nat) : Prop :=
  n ∈ c.tasks.map Task.id ∧ Alive c.workers ∨ n ∈ executing c.workers ∨ n ∈ c.finished

def Promised (s : State) : Prop :=
  ∀ n callable, s.calls n = some ⟨.enqueueAndWait callable, .future⟩ → Expected s.core n

theorem mem_executing {ws : List Worker} {n : Nat} :
    n ∈ executing ws ↔ ∃ w ∈ ws, w.task? = some n := List.mem_filterMap

theorem Move.expected (h : Move cfg s l t) (hs : Stopping s)
    (hpolicy : cfg.rejectionPolicy = .block)
    (hclear : ∀ m j k, l = .call m j k → s.calls m = some ⟨.clearQueue, .begun⟩ →
      n ∉ s.core.tasks.map Task.id) (hn : Expected s.core n) : Expected t.core n := by
  -- a worker that executes nothing goes on, and does not end
  have hset : ∀ {c : Core} {i : Nat} {v w : Worker}, s.core.workers[i]? = some v →
      v.task? = none → w ≠ .gone → c.workers = s.core.workers.set i w → c.tasks = s.core.tasks →
      c.finished = s.core.finished → Expected c n := by
    intro c i v w hi hv hw hworkers htasks hfinished
    rw [Expected, hworkers, htasks, hfinished]
    refine hn.imp (fun h => ⟨h.1, alive_set hw hi⟩) (Or.imp_left fun h => ?_)
    rw [mem_executing] at h ⊢
    exact exists_set hi (by simp [hv]) h
  cases h with
  | push _ _ _ _ _ hhires hwakes =>
    refine hn.imp (fun h => ⟨?_, hwakes.alive (hhires.alive h.2)⟩) (Or.imp_left fun h => ?_)
    · show n ∈ (s.core.tasks ++ [_]).map Task.id
      rw [List.map_append]
      exact List.mem_append_left _ h.1
    · rw [mem_executing] at h ⊢
      exact hwakes.exists (by simp [Worker.task?]) (hhires.exists h)
  | dropPush _ _ _ hp => exact absurd (hpolicy.symm.trans hp) (by decide)
  | clear hm => exact .inr (hn.resolve_left fun h => hclear _ _ _ rfl hm h.1)
  | notifyTasks =>
    refine hn.imp (fun h => ⟨h.1, h.2.notifyAll⟩) (Or.imp_left fun h => ?_)
    rw [mem_executing] at h ⊢
    obtain ⟨w, hw, htask⟩ := h
    exact ⟨Core.wake w, List.mem_map_of_mem hw, (task_wake w).trans htask⟩
  | clearWorkers hm hi hlen =>
    have hgone := hs.all_gone hm hi hlen
    refine .inr (.inr ?_)
    rcases hn with ⟨-, w, hw, hne⟩ | hexec | hfinished
    · exact absurd (hgone w hw) hne
    · obtain ⟨w, hw, htask⟩ := mem_executing.1 hexec
      rw [hgone w hw] at htask
      exact absurd htask.symm (Option.some_ne_none n)
    · exact hfinished
  | @idle i k hi _ htasks =>
    have hleft := hn.resolve_left fun h => by
      rw [htasks] at h
      exact List.not_mem_nil h.1
    refine .inr (hleft.imp_left fun h => ?_)
    rw [mem_executing] at h ⊢
    exact exists_set hi (by simp [Worker.task?]) h
  | @take i k u hi _ htop =>
    rcases hn with ⟨hmem, -⟩ | hexec | hfinished
    · by_cases hu : u.id = n
      · exact .inr (.inl (mem_executing.2 (exists_set_self hi (congrArg some hu))))
      · refine .inl ⟨?_, alive_set (by simp) hi⟩
        have hcount := count_top htop n
        rw [List.count_singleton, if_neg (by simpa using hu), Nat.add_zero] at hcount
        exact List.count_pos_iff.1 (hcount ▸ List.count_pos_iff.2 hmem)
    · refine .inr (.inl ?_)
      rw [mem_executing] at hexec ⊢
      exact exists_set hi (by simp [Worker.task?]) hexec
    · exact .inr (.inr hfinished)
  | @finish i k u hi =>
    rcases hn with ⟨hmem, -⟩ | hexec | hfinished
    · exact .inl ⟨hmem, alive_set (by simp) hi⟩
    · by_cases hu : u.id = n
      · exact .inr (.inr (List.mem_append_right _ (by simp [hu])))
      · refine .inr (.inl ?_)
        rw [mem_executing] at hexec ⊢
        exact exists_set hi (by simpa [Worker.task?] using hu) hexec
    · exact .inr (.inr (List.mem_append_left _ hfinished))
  | uncount hi => exact hset hi rfl (by simp) rfl rfl rfl
  | count hi => exact hset hi rfl (by simp) rfl rfl rfl
  | notify hi => exact hset hi rfl (by simp) rfl rfl rfl
  | wakeWorker hi => exact hset hi rfl (by simp) rfl rfl rfl
  | _ => exact hn

/-- A call of `enqueue_and_wait` that comes to wait was refused by `enqueue`, or has pushed its
    task. -/
theorem Move.future (h : Move cfg s l t) (hpolicy : cfg.rejectionPolicy = .block) {callable : Bool}
    (hn : t.calls n = some ⟨.enqueueAndWait callable, .future⟩) :
    s.calls n = some ⟨.enqueueAndWait callable, .future⟩ ∨
    ∃ j k pc, l = .call n j k ∧ s.calls n = some ⟨.enqueueAndWait callable, pc⟩ ∧
      (s.core.stopped = true ∧ (pc = .entered ∨ pc = .woken ∨
          pc = .submitting ∧ cfg.maxQueueSize ≤ s.core.tasks.length) ∨
        (pc = .submitting ∨ pc = .woken) ∧ s.core.tasks.length < cfg.maxQueueSize ∧
          n ∈ t.core.tasks.map Task.id ∧
          ∃ us, Hires cfg s.core (.enqueueAndWait callable) us ∧ Wakes us t.core.workers) := by
  have hgoto : ∀ {u : State} {m : Nat} {op : Op} {pc : Pc}, u.calls = s.calls →
      (u.goto m op pc).calls n = some ⟨.enqueueAndWait callable, .future⟩ →
      s.calls n = some ⟨.enqueueAndWait callable, .future⟩ ∨
        m = n ∧ op = .enqueueAndWait callable ∧ pc = .future := by
    intro u m op pc hcalls hn
    rcases calls_goto_cases hn with ⟨heq, hcall⟩ | ⟨-, hn⟩
    · exact .inr ⟨heq.symm, hcall⟩
    · exact .inl (hcalls ▸ hn)
  have hother : ∀ {u : State} {m : Nat} {op : Op} {pc : Pc}, u.calls = s.calls →
      op ≠ .enqueueAndWait callable ∨ pc ≠ .future →
      (u.goto m op pc).calls n = some ⟨.enqueueAndWait callable, .future⟩ →
      s.calls n = some ⟨.enqueueAndWait callable, .future⟩ := by
    intro u m op pc hcalls hne hn
    refine (hgoto hcalls hn).resolve_right fun h => ?_
    exact hne.elim (fun hop => hop h.2.1) fun hpc => hpc h.2.2
  have hwoken : s.notifyDone.calls n = some ⟨.enqueueAndWait callable, .future⟩ →
      s.calls n = some ⟨.enqueueAndWait callable, .future⟩ := calls_of_notifyDone (by simp)
  cases h with
  | invoke => exact .inl (hother rfl (.inr (by simp)) hn)
  | @turn m j k op pc pc' hm h =>
    rcases hgoto rfl hn with hold | ⟨rfl, rfl, rfl⟩
    · exact .inl hold
    · refine .inr ⟨j, k, pc, rfl, hm, .inl ?_⟩
      generalize hpc' : Pc.future = pc' at h
      cases h with
      | refuseInner hstopped => exact ⟨hstopped, .inl rfl⟩
      | abandon _ hpc hstopped => exact ⟨hstopped, .inr hpc.symm⟩
      | _ => cases hpc'
  | hold => exact .inl (hother rfl (.inr (by simp)) hn)
  | sleep => exact .inl (hother rfl (.inr (by simp)) hn)
  | reject hm hop hp =>
    rcases hgoto rfl hn with hold | ⟨rfl, rfl, -⟩
    · exact .inl hold
    · exact absurd (hpolicy.symm.trans (hp rfl)) (by decide)
  | @push m j k op pc us ws hm hop hpc _ hroom hhires hwakes =>
    rcases hgoto rfl hn with hold | ⟨rfl, rfl, -⟩
    · exact .inl hold
    · refine .inr ⟨j, k, pc, rfl, hm, .inr ⟨hpc.imp_right And.left, hroom, ?_, us, hhires, hwakes⟩⟩
      show m ∈ (s.core.tasks ++ [_]).map Task.id
      simp
  | dropPush _ _ _ hp => exact absurd (hpolicy.symm.trans hp) (by decide)
  | clear => exact .inl (hother rfl (.inr (by simp)) hn)
  | flag => exact .inl (hother rfl (.inr (by simp)) hn)
  | notifyTasks => exact .inl (hother rfl (.inr (by simp)) hn)
  | notifyDone =>
    rcases calls_goto_cases hn with ⟨-, -, hpc⟩ | ⟨-, hn⟩
    · cases hpc
    · exact .inl (hwoken hn)
  | clearWorkers => exact .inl (hother rfl (.inr (by simp)) hn)
  | notify => exact .inl (hwoken hn)
  | wakeCall => exact .inl (hother rfl (.inr (by simp)) hn)
  | _ => exact .inl hn

theorem promised_start : Promised (.start cfg) := fun _ _ h =>
  absurd h.symm (Option.some_ne_none _)

theorem Promised.move (hp : Promised s) (hs : Stopping s) (hpolicy : cfg.rejectionPolicy = .block)
    (hok : Heedful cfg s l) (h : Move cfg s l t) : Promised t := by
  intro n callable hn
  rcases h.future hpolicy hn with hold | ⟨j, k, pc, rfl, hold, ⟨hstopped, hpc⟩ | hpush⟩
  · refine h.expected hs hpolicy (fun m j k hl hm hmem => ?_) (hp n callable hold)
    rcases hok.clears m j k hl hm with hnil | ⟨-, hfree⟩
    · rw [hnil] at hmem
      exact List.not_mem_nil hmem
    · obtain ⟨u, hu, rfl⟩ := List.mem_map.1 hmem
      exact hfree u hu callable hold
  · obtain ⟨hentered, hwoken, hroom⟩ := hok.refuses n j k callable pc rfl hold hstopped
    rcases hpc with hpc | hpc | ⟨hpc, hfull⟩
    · exact absurd hpc hentered
    · exact absurd hpc hwoken
    · exact absurd (hroom hpc) (Nat.not_lt.2 hfull)
  · obtain ⟨hpc, hroom, hmem, us, hhires, hwakes⟩ := hpush
    refine .inl ⟨hmem, hwakes.alive ?_⟩
    rcases hok.staffs n j k callable pc rfl hold hpc hroom with halive | hgrows
    · exact hhires.alive halive
    · cases hhires with
      | keep hkeep => exact absurd hgrows (hkeep rfl)
      | add => exact ⟨.ready, List.mem_append_right _ (List.mem_singleton_self _), by decide⟩

end ChatApp.ThreadPool
