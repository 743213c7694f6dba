/-
  Each task is executed exactly once, if the pool accepts it. The flag is tested before the mutex is
  locked, so a task can be pushed after all workers have ended, and a thread can be added while
  `stop` joins the others; and CALLER_RUNS calls a function that was moved away. `Orderly` leaves
  out these steps, and a second `stop` that returns while the first one still joins.
-/
import Mathlib.Data.List.Nodup
import ChatApp.ThreadPool.Counters

namespace ChatApp.ThreadPool

open ChatApp.Lib

variable {cfg : Config} {s t : State} {l : Label} {ls : List Label} {n : Nat} {op : Op} {pc : Pc}

/-! ## What was pushed -/

/-- `enqueue` and `try_enqueue` -/
def Op.plain : Op → Bool
  | .enqueue .. => true
  | .tryEnqueue _ => true
  | _ => false

/-- The call has pushed its task. -/
def Pushed : Op → Pc → Prop
  | .enqueueAndWait _, pc => pc = .future ∨ pc = .returned true
  | op, pc => op.submits ∧ pc = .returned true

/-- Tasks of different calls, pushed once, by calls that say so. -/
structure Traced (s : State) : Prop where
  nodup : s.core.submitted.Nodup
  pushed : ∀ n ∈ s.core.submitted, ∃ op pc, s.calls n = some ⟨op, pc⟩ ∧ Pushed op pc
  accepted : ∀ n op, op.plain → s.calls n = some ⟨op, .returned true⟩ → n ∈ s.core.submitted

theorem traced_start : Traced (.start cfg) :=
  ⟨List.nodup_nil, fun _ h => absurd h List.not_mem_nil,
    fun _ _ _ h => absurd h.symm (Option.some_ne_none _)⟩

/-- A call that is on its way has pushed nothing. -/
theorem Traced.not_pushed (ht : Traced s) (hn : s.calls n = some ⟨op, pc⟩) (h : ¬ Pushed op pc) :
    n ∉ s.core.submitted := by
  intro hmem
  obtain ⟨op', pc', hn', hpushed⟩ := ht.pushed n hmem
  obtain ⟨rfl, rfl⟩ := calls_inj hn hn'
  exact h hpushed

/-- A step of a call that pushes nothing. -/
theorem Traced.goto {u : State} {pc' : Pc} (ht : Traced s) (hcalls : u.calls = s.calls)
    (hsubmitted : u.core.submitted = s.core.submitted)
    (hold : ∀ op' pc, s.calls n = some ⟨op', pc⟩ → Pushed op' pc → op' = op ∧ Pushed op pc')
    (hnew : op.plain → pc' = .returned true → n ∈ s.core.submitted) :
    Traced (u.goto n op pc') := by
  refine ⟨hsubmitted.symm ▸ ht.nodup, fun m hm => ?_, fun m op' hplain hm => ?_⟩
  · rw [calls_goto, hcalls]
    obtain ⟨op', pc, hm', hpushed⟩ := ht.pushed m (hsubmitted ▸ hm)
    split
    next heq =>
      subst heq
      obtain ⟨rfl, hpc⟩ := hold op' pc hm' hpushed
      exact ⟨_, pc', rfl, hpc⟩
    next => exact ⟨op', pc, hm', hpushed⟩
  · show m ∈ u.core.submitted
    rw [hsubmitted]
    rcases calls_goto_cases hm with ⟨rfl, rfl, rfl⟩ | ⟨-, hm⟩
    · exact hnew hplain rfl
    · exact ht.accepted m op' hplain (hcalls ▸ hm)

/-- A step of a call that goes on to push, or to return without a task. -/
theorem Traced.onward {u : State} {pc' : Pc} (ht : Traced s) (hcalls : u.calls = s.calls)
    (hsubmitted : u.core.submitted = s.core.submitted) (hn : s.calls n = some ⟨op, pc⟩)
    (hpc : ¬ Pushed op pc) (hpc' : op.plain → pc' ≠ .returned true) : Traced (u.goto n op pc') := by
  refine ht.goto hcalls hsubmitted (fun op' pc'' hn' hpushed => ?_) fun hplain heq =>
    absurd heq (hpc' hplain)
  obtain ⟨rfl, rfl⟩ := calls_inj hn hn'
  exact absurd hpushed hpc

/-- A push -/
theorem Traced.push {u : State} (ht : Traced s) (hcalls : u.calls = s.calls)
    (hsubmitted : u.core.submitted = s.core.submitted ++ [n]) (hop : op.submits)
    (hn : s.calls n = some ⟨op, pc⟩) (hpc : ¬ Pushed op pc) :
    Traced (u.goto n op (op.answer true)) := by
  have hfresh := ht.not_pushed hn hpc
  refine ⟨?_, fun m hm => ?_, fun m op' hplain hm => ?_⟩
  · show u.core.submitted.Nodup
    rw [hsubmitted, ← List.concat_eq_append]
    exact List.Nodup.concat hfresh ht.nodup
  · rw [calls_goto, hcalls]
    have hm' : m ∈ s.core.submitted ++ [n] := hsubmitted ▸ hm
    split
    next =>
      refine ⟨op, _, rfl, ?_⟩
      cases op with
      | enqueueAndWait => exact .inl rfl
      | _ => exact ⟨hop, rfl⟩
    next hne =>
      rcases List.mem_append.1 hm' with hm' | hm'
      · exact ht.pushed m hm'
      · exact absurd (List.mem_singleton.1 hm') hne
  · show m ∈ u.core.submitted
    rw [hsubmitted, List.mem_append, List.mem_singleton]
    rcases calls_goto_cases hm with ⟨heq, -⟩ | ⟨-, hm⟩
    · exact .inr heq
    · exact .inl (ht.accepted m op' hplain (hcalls ▸ hm))

theorem not_pushed_of_ne (h : pc ≠ .returned true) (hf : pc ≠ .future) : ¬ Pushed op pc := by
  cases op with
  | enqueueAndWait => exact fun hp => hp.elim hf h
  | _ => exact fun hp => h hp.2

theorem Traced.turn {pc' : Pc} (ht : Traced s) (hn : s.calls n = some ⟨op, pc⟩)
    (h : Turn cfg s.core n op pc pc') : Traced (s.goto n op pc') := by
  cases h with
  | future hfinished =>
    refine ht.goto rfl rfl (fun op' pc'' hn' _ => ?_) fun hplain => absurd hplain Bool.false_ne_true
    obtain ⟨rfl, -⟩ := calls_inj hn hn'
    exact ⟨rfl, .inr rfl⟩
  | abandon hop hpc =>
    refine ht.onward rfl rfl hn (not_pushed_of_ne ?_ ?_) fun _ => ?_
    · rintro rfl
      exact absurd hpc (by simp)
    · rintro rfl
      exact absurd hpc (by simp)
    · exact Op.answer_ne (by simp) (by simp)
  | allDone hpc =>
    refine ht.onward rfl rfl hn (fun hp => absurd hp.1 Bool.false_ne_true) fun hplain =>
      absurd hplain Bool.false_ne_true
  | _ => exact ht.onward rfl rfl hn (not_pushed_of_ne (by simp) (by simp)) (by simp)

/-- A step of no call. -/
theorem Traced.wake (ht : Traced s) (hsubmitted : t.core.submitted = s.core.submitted)
    (hcalls : t.calls = s.calls ∨ t.calls = s.notifyDone.calls) : Traced t := by
  have hwake : ∀ call : Call, Pushed call.op call.pc → call.wake = call := by
    intro call hp
    obtain ⟨op, pc⟩ := call
    cases pc with
    | asleep => exact absurd hp (not_pushed_of_ne (by simp) (by simp))
    | _ => rfl
  have hreturned : ∀ (call : Call) op, call.wake = ⟨op, .returned true⟩ →
      call = ⟨op, .returned true⟩ := by
    intro call op h
    obtain ⟨op', pc⟩ := call
    cases pc with
    | asleep => cases h
    | _ => exact h
  rcases hcalls with hcalls | hcalls
  · refine ⟨hsubmitted.symm ▸ ht.nodup, fun n hn => ?_, fun n op hplain hn => ?_⟩
    · rw [hcalls]
      exact ht.pushed n (hsubmitted ▸ hn)
    · rw [hcalls] at hn
      exact hsubmitted.symm ▸ ht.accepted n op hplain hn
  · refine ⟨hsubmitted.symm ▸ ht.nodup, fun n hn => ?_, fun n op hplain hn => ?_⟩
    · obtain ⟨op, pc, hn', hp⟩ := ht.pushed n (hsubmitted ▸ hn)
      refine ⟨op, pc, ?_, hp⟩
      rw [hcalls, calls_notifyDone, hn']
      exact congrArg some (hwake ⟨op, pc⟩ hp)
    · rw [hcalls] at hn
      obtain ⟨call, hcall, heq⟩ := Option.map_eq_some_iff.1 hn
      exact hsubmitted.symm ▸ ht.accepted n op hplain (hreturned call op heq ▸ hcall)

theorem Traced.move (ht : Traced s) (h : Move cfg s l t) : Traced t := by
  cases h with
  | @invoke n op hn =>
    refine ht.goto rfl rfl (fun op' pc hn' _ => ?_) fun _ heq => Pc.noConfusion heq
    exact absurd (hn.symm.trans hn').symm (Option.some_ne_none _)
  | turn hn h => exact ht.turn hn h
  | hold hn _ h =>
    refine ht.onward rfl rfl hn ?_ (by simp)
    cases h with
    | room _ hpc => exact not_pushed_of_ne (by rintro rfl; simp at hpc) (by rintro rfl; simp at hpc)
    | done => exact fun hp => absurd hp.1 Bool.false_ne_true
  | sleep hn => exact ht.onward rfl rfl hn (not_pushed_of_ne (by simp) (by simp)) (by simp)
  | reject hn hop =>
    exact ht.onward rfl rfl hn (not_pushed_of_ne (by simp) (by simp)) fun _ =>
      Op.answer_ne (by simp) (by simp)
  | push hn hop hpc =>
    exact ht.push rfl rfl hop hn
      (not_pushed_of_ne (by rintro rfl; simp at hpc) (by rintro rfl; simp at hpc))
  | dropPush hn hop =>
    exact ht.push rfl rfl (submits_of_enqueues hop) hn (not_pushed_of_ne (by simp) (by simp))
  | clear hn =>
    exact ht.onward rfl rfl hn (fun hp => absurd hp.1 Bool.false_ne_true) (by simp [Op.plain])
  | flag hn => exact ht.onward rfl rfl hn (fun hp => absurd hp.1 Bool.false_ne_true) (by simp)
  | notifyTasks hn =>
    exact ht.onward rfl rfl hn (fun hp => absurd hp.1 Bool.false_ne_true) (by simp)
  | notifyDone hn =>
    have hsleepers : Traced s.notifyDone := ht.wake rfl (.inr rfl)
    exact hsleepers.onward rfl rfl (by rw [calls_notifyDone, hn]; rfl)
      (fun hp => absurd hp.1 Bool.false_ne_true) (by simp)
  | clearWorkers hn =>
    exact ht.onward rfl rfl hn (fun hp => absurd hp.1 Bool.false_ne_true) (by simp [Op.plain])
  | notify => exact ht.wake rfl (.inr rfl)
  | wakeCall hn => exact ht.onward rfl rfl hn (not_pushed_of_ne (by simp) (by simp)) (by simp)
  | _ => exact ht.wake rfl (.inl rfl)

/-! ## What is left when the workers have ended -/

/-- A worker has not ended. -/
def Alive (ws : List Worker) : Prop := ∃ w ∈ ws, w ≠ .gone

instance (ws : List Worker) : Decidable (Alive ws) := inferInstanceAs (Decidable (∃ w ∈ ws, _))

instance (c : Core) : Decidable (Grows cfg c) := inferInstanceAs (Decidable (_ ∧ _))

/-- No CALLER_RUNS with a full queue; after the flag is set, no push when all workers have ended,
    and no new thread while the others are joined; no second `stop` before the first returns. -/
structure Orderly (cfg : Config) (s : State) (l : Label) : Prop where
  callerRuns : ∀ n j k op, l = .call n j k → s.calls n = some ⟨op, .submitting⟩ → op.enqueues →
    cfg.rejectionPolicy = .callerRuns → s.core.tasks.length < cfg.maxQueueSize
  late : ∀ n j k op, l = .call n j k → s.calls n = some ⟨op, .submitting⟩ → op.submits →
    s.core.stopped = true → s.core.tasks.length < cfg.maxQueueSize → Alive s.core.workers ∧
      ∀ m i k, s.calls m = some ⟨.stop, .joining i k⟩ → op.enqueues → ¬ Grows cfg s.core
  again : ∀ n j k, l = .call n j k → s.calls n = some ⟨.stop, .begun⟩ → s.core.stopped = true →
    ∃ m, s.calls m = some ⟨.stop, .returned true⟩

/-- Workers end when the flag is set and no task waits. -/
structure Served (c : Core) : Prop where
  opened : c.stopped = false → c.workers ≠ [] ∧ .gone ∉ c.workers
  served : ¬ Alive c.workers → c.tasks = []

/-- The workers that `stop` joins are all, and it returns when they have ended. -/
structure Closing (s : State) : Prop where
  cleared : ∀ n, s.calls n = some ⟨.stop, .returned true⟩ → s.core.workers = []
  again : ∀ n, s.calls n = some ⟨.stop, .returned false⟩ →
    ∃ m, s.calls m = some ⟨.stop, .returned true⟩
  joined : ∀ n i m, s.calls n = some ⟨.stop, .joining i m⟩ → m = s.core.workers.length
  lasting : ∀ n, s.calls n ≠ some ⟨.stop, .terminated⟩

section
variable {ws us : List Worker} {c : Core} {i : Nat} {v w : Worker}

theorem alive_of_ne (hne : ws ≠ []) (hgone : .gone ∉ ws) : Alive ws := by
  obtain ⟨w, hw⟩ := List.exists_mem_of_ne_nil ws hne
  exact ⟨w, hw, fun h => hgone (h ▸ hw)⟩

theorem alive_set (hw : w ≠ .gone) (hi : ws[i]? = some v) : Alive (ws.set i w) :=
  ⟨w, List.mem_set (List.getElem?_eq_some_iff.1 hi).1 w, hw⟩

theorem gone_set (hw : w ≠ .gone) (h : .gone ∉ ws) : .gone ∉ ws.set i w := by
  intro hmem
  rcases List.mem_or_eq_of_mem_set hmem with hmem | heq
  · exact h hmem
  · exact hw heq.symm

theorem Hires.alive (h : Hires cfg c op us) (hc : Alive c.workers) : Alive us := by
  obtain ⟨w, hw, hne⟩ := hc
  cases h with
  | keep => exact ⟨w, hw, hne⟩
  | add => exact ⟨w, List.mem_append_left _ hw, hne⟩

theorem Wakes.alive (h : Wakes ws us) (hws : Alive ws) : Alive us := by
  cases h with
  | none => exact hws
  | one hj => exact alive_set (by decide) hj

theorem Alive.notifyAll (h : Alive ws) : Alive (ws.map Core.wake) := by
  obtain ⟨w, hw, hne⟩ := h
  refine ⟨Core.wake w, List.mem_map_of_mem hw, ?_⟩
  cases w <;> first | exact hne | exact fun h => Worker.noConfusion h

theorem Hires.gone (h : Hires cfg c op us) (hc : .gone ∉ c.workers) : .gone ∉ us := by
  cases h with
  | keep => exact hc
  | add => simpa using hc

theorem Wakes.gone (h : Wakes ws us) (hws : .gone ∉ ws) : .gone ∉ us := by
  cases h with
  | none => exact hws
  | one hj => exact gone_set (by decide) hws

end

theorem served_start (hmin : 1 ≤ cfg.minThreads) : Served (.start cfg) := by
  refine ⟨fun _ => ⟨?_, fun h => ?_⟩, fun _ => rfl⟩
  · intro h
    have hlength := congrArg List.length h
    simp only [Core.start, List.length_replicate, List.length_nil] at hlength
    omega
  · exact Worker.noConfusion (List.eq_of_mem_replicate h)

theorem Served.move (hs : Stopping s) (hv : Served s.core) (hok : Orderly cfg s l)
    (hpolicy : cfg.rejectionPolicy ≠ .discardOldest) (h : Move cfg s l t) : Served t.core := by
  -- a worker that goes on is alive
  have hset : ∀ {c : Core} {i : Nat} {v w : Worker}, s.core.workers[i]? = some v → w ≠ .gone →
      c.workers = s.core.workers.set i w → c.stopped = s.core.stopped → Served c := by
    intro c i v w hi hw hworkers hstopped
    refine ⟨fun h => ?_, fun h => absurd (hworkers ▸ alive_set hw hi) h⟩
    rw [hworkers]
    refine ⟨?_, gone_set hw (hv.opened (hstopped ▸ h)).2⟩
    exact List.ne_nil_of_mem (List.mem_set (List.getElem?_eq_some_iff.1 hi).1 w)
  cases h with
  | reject => exact ⟨hv.opened, hv.served⟩
  | push hn hop hpc _ hroom hhires hwakes =>
    have halive : Alive s.core.workers := by
      by_cases hstopped : s.core.stopped = true
      · rcases hpc with rfl | ⟨-, hopen⟩
        · exact (hok.late _ _ _ _ rfl hn hop hstopped hroom).1
        · exact absurd hopen (by simp [hstopped])
      · obtain ⟨hne, hgone⟩ := hv.opened (Bool.not_eq_true _ ▸ hstopped)
        exact alive_of_ne hne hgone
    have halive' := hwakes.alive (hhires.alive halive)
    refine ⟨fun h => ⟨?_, hwakes.gone (hhires.gone (hv.opened h).2)⟩, fun h => absurd halive' h⟩
    obtain ⟨w, hw, -⟩ := halive'
    exact List.ne_nil_of_mem hw
  | dropPush _ _ _ hp => exact absurd hp hpolicy
  | clear => exact ⟨hv.opened, fun _ => rfl⟩
  | flag _ _ hopen =>
    refine ⟨fun h => Bool.noConfusion h, fun h => ?_⟩
    obtain ⟨hne, hgone⟩ := hv.opened hopen
    exact absurd (alive_of_ne hne hgone) h
  | notifyTasks hn =>
    have hstopped := hs.stopped _ _ hn rfl
    exact ⟨fun h => absurd (hstopped.symm.trans h) (by simp),
      fun h => hv.served fun halive => h halive.notifyAll⟩
  | clearWorkers hn hi hm =>
    have hstopped := hs.stopped _ _ hn rfl
    refine ⟨fun h => absurd (hstopped.symm.trans h) (by simp), fun _ => hv.served ?_⟩
    rintro ⟨w, hw, hne⟩
    exact hne (hs.all_gone hn hi hm w hw)
  | @idle i k hi _ htasks =>
    refine ⟨fun h => ?_, fun _ => htasks⟩
    have hopen : s.core.stopped = false := h
    obtain ⟨-, hgone⟩ := hv.opened hopen
    simp only [setWorker, hopen, Bool.false_eq_true, if_false]
    refine ⟨?_, gone_set (by decide) hgone⟩
    exact List.ne_nil_of_mem (List.mem_set (List.getElem?_eq_some_iff.1 hi).1 _)
  | take hi => exact hset hi (by simp) rfl rfl
  | finish hi => exact hset hi (by simp) rfl rfl
  | uncount hi => exact hset hi (by simp) rfl rfl
  | count hi => exact hset hi (by simp) rfl rfl
  | notify hi => exact hset hi (by simp) rfl rfl
  | wakeWorker hi => exact hset hi (by simp) rfl rfl
  | _ => exact hv

theorem closing_start : Closing (.start cfg) :=
  ⟨fun _ h => absurd h.symm (Option.some_ne_none _),
    fun _ h => absurd h.symm (Option.some_ne_none _),
    fun _ _ _ h => absurd h.symm (Option.some_ne_none _),
    fun _ h => absurd h.symm (Option.some_ne_none _)⟩

/-- A step of a call that does not end a `stop`. -/
theorem Closing.goto {u : State} (hc : Closing s)
    (hn : s.calls n ≠ some ⟨.stop, .returned true⟩) (hcalls : u.calls = s.calls)
    (hcleared : ∀ m, s.calls m = some ⟨.stop, .returned true⟩ → u.core.workers = [])
    (hlength : ∀ m i k, s.calls m = some ⟨.stop, .joining i k⟩ →
      u.core.workers.length = s.core.workers.length)
    (hpc : op = .stop → pc ≠ .terminated ∧ pc ≠ .returned true)
    (hagain : op = .stop → pc = .returned false → ∃ m, s.calls m = some ⟨.stop, .returned true⟩)
    (hjoined : ∀ i m, op = .stop → pc = .joining i m → m = u.core.workers.length) :
    Closing (u.goto n op pc) := by
  have hkeep : ∀ m, s.calls m = some ⟨.stop, .returned true⟩ →
      (u.goto n op pc).calls m = some ⟨.stop, .returned true⟩ := by
    intro m hm
    rw [calls_goto, hcalls, if_neg]
    · exact hm
    · rintro rfl
      exact hn hm
  refine ⟨fun m hm => ?_, fun m hm => ?_, fun m i k hm => ?_, fun m hm => ?_⟩ <;>
    rcases calls_goto_cases hm with ⟨-, rfl, rfl⟩ | ⟨-, hm⟩ <;> try rw [hcalls] at hm
  · exact absurd rfl (hpc rfl).2
  · exact hcleared m hm
  · obtain ⟨k, hk⟩ := hagain rfl rfl
    exact ⟨k, hkeep k hk⟩
  · obtain ⟨k, hk⟩ := hc.again m hm
    exact ⟨k, hkeep k hk⟩
  · exact hjoined i k rfl rfl
  · exact (hc.joined m i k hm).trans (hlength m i k hm).symm
  · exact absurd rfl (hpc rfl).1
  · exact hc.lasting m hm

/-- A step of another call. -/
theorem Closing.other {u : State} (hc : Closing s) (hop : op ≠ .stop)
    (hn : s.calls n ≠ some ⟨.stop, .returned true⟩) (hcalls : u.calls = s.calls)
    (hcleared : ∀ m, s.calls m = some ⟨.stop, .returned true⟩ → u.core.workers = [])
    (hlength : ∀ m i k, s.calls m = some ⟨.stop, .joining i k⟩ →
      u.core.workers.length = s.core.workers.length) : Closing (u.goto n op pc) :=
  hc.goto hn hcalls hcleared hlength (fun h => absurd h hop) (fun h => absurd h hop)
    fun _ _ h => absurd h hop

/-- A step of no call. -/
theorem Closing.wake (hc : Closing s) (hcalls : t.calls = s.calls ∨ t.calls = s.notifyDone.calls)
    (hworkers : t.core.workers.length = s.core.workers.length) : Closing t := by
  have hold : ∀ n pc, pc ≠ .woken → t.calls n = some ⟨.stop, pc⟩ →
      s.calls n = some ⟨.stop, pc⟩ := by
    intro n pc hpc hn
    rcases hcalls with hcalls | hcalls
    · exact hcalls ▸ hn
    · exact calls_of_notifyDone hpc (hcalls ▸ hn)
  have hnew : ∀ n, s.calls n = some ⟨.stop, .returned true⟩ →
      t.calls n = some ⟨.stop, .returned true⟩ := by
    intro n hn
    rcases hcalls with hcalls | hcalls
    · exact hcalls ▸ hn
    · rw [hcalls, calls_notifyDone, hn]
      rfl
  refine ⟨fun n hn => ?_, fun n hn => ?_, fun n i m hn => ?_, fun n hn => ?_⟩
  · have hnil := hc.cleared n (hold n _ (by simp) hn)
    exact List.eq_nil_of_length_eq_zero (hworkers.trans (congrArg List.length hnil))
  · obtain ⟨m, hm⟩ := hc.again n (hold n _ (by simp) hn)
    exact ⟨m, hnew m hm⟩
  · exact (hc.joined n i m (hold n _ (by simp) hn)).trans hworkers.symm
  · exact hc.lasting n (hold n _ (by simp) hn)

theorem Closing.turn {pc' : Pc} {j k : Nat} (hc : Closing s) (hok : Orderly cfg s (.call n j k))
    (hn : s.calls n = some ⟨op, pc⟩) (h : Turn cfg s.core n op pc pc') :
    Closing (s.goto n op pc') := by
  have hat : s.calls n ≠ some ⟨.stop, .returned true⟩ := by
    intro heq
    exact h.ne_returned true (calls_inj hn heq).2
  by_cases hop : op = .stop
  · subst hop
    cases h with
    | abandon hop => exact absurd hop Bool.false_ne_true
    | throw hop => exact absurd hop Bool.false_ne_true
    | stopAgain hstopped =>
      exact hc.goto hat rfl hc.cleared (fun _ _ _ _ => rfl) (by simp)
        (fun _ _ => hok.again n j k rfl hn hstopped) (by simp)
    | startJoining =>
      exact hc.goto hat rfl hc.cleared (fun _ _ _ _ => rfl) (by simp) (by simp)
        fun i m _ heq => (Pc.joining.inj heq).2.symm
    | join =>
      exact hc.goto hat rfl hc.cleared (fun _ _ _ _ => rfl) (by simp) (by simp)
        fun i m _ heq => (Pc.joining.inj heq).2 ▸ hc.joined n _ _ hn
    | terminate hm => exact absurd (hc.joined n _ _ hn).symm hm
  · exact hc.other hop hat rfl hc.cleared fun _ _ _ _ => rfl

theorem Closing.move (hs : Stopping s) (hc : Closing s) (hok : Orderly cfg s l)
    (hpolicy : cfg.rejectionPolicy ≠ .discardOldest) (h : Move cfg s l t) : Closing t := by
  have hat : ∀ {n : Nat} {op : Op} {pc : Pc}, s.calls n = some ⟨op, pc⟩ →
      pc ≠ .returned true → s.calls n ≠ some ⟨.stop, .returned true⟩ := by
    intro n op pc hn hpc heq
    exact hpc (calls_inj hn heq).2
  cases h with
  | invoke hn =>
    exact hc.goto (by rw [hn]; simp) rfl hc.cleared (fun _ _ _ _ => rfl) (fun _ => by simp)
      (by simp) (by simp)
  | turn hn h => exact hc.turn hok hn h
  | hold hn _ h =>
    refine hc.other ?_ (hat hn ?_) rfl hc.cleared fun _ _ _ _ => rfl
    · rintro rfl
      cases h with
      | room hop => exact Bool.false_ne_true hop
    · rintro rfl
      cases h with
      | room _ hpc => simp at hpc
      | done hpc => simp at hpc
  | sleep hn =>
    exact hc.goto (hat hn (by simp)) rfl hc.cleared (fun _ _ _ _ => rfl) (fun _ => by simp)
      (by simp) (by simp)
  | reject hn hop =>
    exact hc.other (ne_stop_of_submits hop) (hat hn (by simp)) rfl hc.cleared fun _ _ _ _ => rfl
  | @push n j k op pc us ws hn hop hpc _ hroom hhires hwakes =>
    -- once the flag is set, only a call that was about to push can still do so
    have hlate : ∀ m pc, s.calls m = some ⟨.stop, pc⟩ → Call.stopping ⟨.stop, pc⟩ →
        Alive s.core.workers ∧ ∀ m i k, s.calls m = some ⟨.stop, .joining i k⟩ →
          op.enqueues → ¬ Grows cfg s.core := by
      intro m pc hm hstop
      have hstopped := hs.stopped m _ hm hstop
      rcases hpc with rfl | ⟨-, hopen⟩
      · exact hok.late _ _ _ _ rfl hn hop hstopped hroom
      · exact absurd (hopen.symm.trans hstopped) (by simp)
    refine hc.other (ne_stop_of_submits hop) (hat hn ?_) rfl (fun m hm => ?_) fun m i k hm => ?_
    · rintro rfl
      simp at hpc
    · obtain ⟨w, hw, -⟩ := (hlate m _ hm rfl).1
      rw [hc.cleared m hm] at hw
      exact absurd hw List.not_mem_nil
    · have hgrow := (hlate m _ hm rfl).2 m i k hm
      cases hhires with
      | keep => exact hwakes.length_eq
      | add henqueues h => exact absurd h (hgrow henqueues)
  | dropPush _ _ _ hp => exact absurd hp hpolicy
  | clear hn => exact hc.other (by simp) (hat hn (by simp)) rfl hc.cleared fun _ _ _ _ => rfl
  | flag hn =>
    exact hc.goto (hat hn (by simp)) rfl hc.cleared (fun _ _ _ _ => rfl) (fun _ => by simp)
      (by simp) (by simp)
  | notifyTasks hn =>
    refine hc.goto (hat hn (by simp)) rfl (fun m hm => ?_) (fun _ _ _ _ => List.length_map _)
      (fun _ => by simp) (by simp) (by simp)
    exact List.map_eq_nil_iff.2 (hc.cleared m hm)
  | notifyDone hn =>
    have hsleepers : Closing s.notifyDone := hc.wake (.inr rfl) rfl
    refine hsleepers.goto ?_ rfl hsleepers.cleared (fun _ _ _ _ => rfl) (fun _ => by simp)
      (by simp) (by simp)
    rw [calls_notifyDone, hn]
    simp [Call.wake]
  | @clearWorkers n _ _ i m hn hi hm =>
    have hothers : ∀ k pc, ({ s with core := { s.core with workers := [] } }.goto n .stop
        (.returned true)).calls k = some ⟨.stop, pc⟩ → pc = .returned true ∨
        k ≠ n ∧ s.calls k = some ⟨.stop, pc⟩ := by
      intro k pc hk
      rcases calls_goto_cases hk with ⟨-, -, hpc⟩ | hk
      · exact .inl hpc.symm
      · exact .inr hk
    refine ⟨fun _ _ => rfl, fun _ _ => ⟨n, calls_goto_self _ _ _ _⟩, fun k i' m' hk => ?_,
      fun k hk => ?_⟩
    · rcases hothers k _ hk with heq | ⟨hne, hk⟩
      · simp at heq
      · exact absurd (hs.unique k n _ _ hk hn rfl rfl) hne
    · rcases hothers k _ hk with heq | ⟨-, hk⟩
      · simp at heq
      · exact hc.lasting k hk
  | wakeCall hn =>
    exact hc.goto (hat hn (by simp)) rfl hc.cleared (fun _ _ _ _ => rfl) (fun _ => by simp)
      (by simp) (by simp)
  | notify => exact hc.wake (.inr rfl) List.length_set
  | _ => exact hc.wake (.inl rfl) List.length_set

/-! ## Runs -/

/-- No call clears the queue, and nothing is dropped. -/
structure Uncleared (s : State) : Prop where
  calls : ∀ n pc, s.calls n ≠ some ⟨.clearQueue, pc⟩
  dropped : s.core.dropped = []

/-- A call after a step: as it was, or woken, or begun, or one step further; it throws only by
    CALLER_RUNS. -/
theorem Move.call_cases (h : Move cfg s l t) {m : Nat} {call : Call} (hm : t.calls m = some call) :
    (∃ old, s.calls m = some old ∧ (call = old ∨ call = old.wake)) ∨
    (∃ op, l = .invoke m op ∧ call = ⟨op, .begun⟩) ∨
    ∃ op pc, s.calls m = some ⟨op, pc⟩ ∧ call.op = op ∧ (call.pc = .threw → pc = .submitting ∧
      op.enqueues ∧ cfg.rejectionPolicy = .callerRuns ∧
      cfg.maxQueueSize ≤ s.core.tasks.length ∧ ∃ j k, l = .call m j k) := by
  have hstep : ∀ {u : State} {n : Nat} {op : Op} {pc pc' : Pc}, s.calls n = some ⟨op, pc⟩ →
      u.calls = s.calls → (u.goto n op pc').calls m = some call →
      (∃ old, s.calls m = some old ∧ (call = old ∨ call = old.wake)) ∨
      n = m ∧ s.calls m = some ⟨op, pc⟩ ∧ call = ⟨op, pc'⟩ := by
    intro u n op pc pc' hn hcalls hm
    rw [calls_goto, hcalls] at hm
    split at hm
    next heq => exact .inr ⟨heq.symm, heq ▸ hn, (Option.some.inj hm).symm⟩
    next => exact .inl ⟨call, hm, .inl rfl⟩
  have hplain : ∀ {u : State} {n : Nat} {op : Op} {pc pc' : Pc}, s.calls n = some ⟨op, pc⟩ →
      u.calls = s.calls → pc' ≠ .threw → (u.goto n op pc').calls m = some call →
      (∃ old, s.calls m = some old ∧ (call = old ∨ call = old.wake)) ∨
      ∃ op pc, s.calls m = some ⟨op, pc⟩ ∧ call.op = op ∧ (call.pc = .threw → pc = .submitting ∧
        op.enqueues ∧ cfg.rejectionPolicy = .callerRuns ∧
        cfg.maxQueueSize ≤ s.core.tasks.length ∧ ∃ j k, l = .call m j k) := by
    intro u n op pc pc' hn hcalls hpc hm
    rcases hstep hn hcalls hm with hold | ⟨-, hcall, rfl⟩
    · exact .inl hold
    · exact .inr ⟨op, pc, hcall, rfl, fun h => absurd h hpc⟩
  have hanswer : ∀ {op : Op} {r : Bool}, op.answer r ≠ .threw := Op.answer_ne (by simp) (by simp)
  cases h with
  | @invoke n op hn =>
    rw [calls_goto] at hm
    split at hm
    next heq => exact .inr (.inl ⟨op, heq ▸ rfl, (Option.some.inj hm).symm⟩)
    next => exact .inl ⟨call, hm, .inl rfl⟩
  | @turn n j k op pc pc' hn h =>
    rcases hstep hn rfl hm with hold | ⟨rfl, hcall, rfl⟩
    · exact .inl hold
    · refine .inr (.inr ⟨op, pc, hcall, rfl, fun hthrew => ?_⟩)
      obtain rfl : pc' = .threw := hthrew
      generalize hpc : Pc.threw = pc' at h
      cases h with
      | throw hop hpolicy hfull => exact ⟨rfl, hop, hpolicy, hfull, j, k, rfl⟩
      | abandon => exact absurd hpc.symm hanswer
      | _ => cases hpc
  | hold hn => exact (hplain hn rfl (by simp) hm).imp_right .inr
  | sleep hn => exact (hplain hn rfl (by simp) hm).imp_right .inr
  | reject hn => exact (hplain hn rfl hanswer hm).imp_right .inr
  | push hn => exact (hplain hn rfl hanswer hm).imp_right .inr
  | dropPush hn => exact (hplain hn rfl hanswer hm).imp_right .inr
  | clear hn => exact (hplain hn rfl (by simp) hm).imp_right .inr
  | flag hn => exact (hplain hn rfl (by simp) hm).imp_right .inr
  | notifyTasks hn => exact (hplain hn rfl (by simp) hm).imp_right .inr
  | @notifyDone n _ _ hn =>
    rw [calls_goto, calls_notifyDone] at hm
    split at hm
    next heq =>
      obtain rfl := Option.some.inj hm
      exact .inr (.inr ⟨.stop, .notifiedTasks, heq ▸ hn, rfl, fun h => Pc.noConfusion h⟩)
    next =>
      obtain ⟨old, hold, rfl⟩ := Option.map_eq_some_iff.1 hm
      exact .inl ⟨old, hold, .inr rfl⟩
  | clearWorkers hn => exact (hplain hn rfl (by simp) hm).imp_right .inr
  | notify =>
    obtain ⟨old, hold, rfl⟩ := Option.map_eq_some_iff.1 hm
    exact .inl ⟨old, hold, .inr rfl⟩
  | wakeCall hn => exact (hplain hn rfl (by simp) hm).imp_right .inr
  | _ => exact .inl ⟨call, hm, .inl rfl⟩

theorem op_wake (call : Call) : call.wake.op = call.op := by
  obtain ⟨op, pc⟩ := call
  cases pc <;> rfl

theorem Uncleared.move (hu : Uncleared s) (hpolicy : cfg.rejectionPolicy ≠ .discardOldest)
    (hl : ∀ n, l ≠ .invoke n .clearQueue) (h : Move cfg s l t) : Uncleared t := by
  refine ⟨fun n pc hn => ?_, ?_⟩
  · rcases h.call_cases hn with ⟨⟨op, pc'⟩, hold, heq⟩ | ⟨op, hinvoke, heq⟩
      | ⟨op, pc', hold, hop, -⟩
    · obtain rfl : op = .clearQueue := by
        rcases heq with heq | heq
        · exact (Call.mk.inj heq).1.symm
        · exact ((congrArg Call.op heq).trans (op_wake ⟨op, pc'⟩)).symm
      exact hu.calls n pc' hold
    · obtain rfl := (Call.mk.inj heq).1
      exact hl n hinvoke
    · obtain rfl : Op.clearQueue = op := hop
      exact hu.calls n pc' hold
  · cases h with
    | dropPush _ _ _ hp => exact absurd hp hpolicy
    | clear hn => exact absurd hn (hu.calls _ _)
    | _ => exact hu.dropped

/-- `enqueue` throws only by CALLER_RUNS with a full queue. -/
theorem unthrown_move (ht : ∀ n op, s.calls n ≠ some ⟨op, .threw⟩) (hok : Orderly cfg s l)
    (h : Move cfg s l t) : ∀ n op, t.calls n ≠ some ⟨op, .threw⟩ := by
  intro n op hn
  rcases h.call_cases hn with ⟨⟨op', pc⟩, hold, heq⟩ | ⟨op', -, heq⟩ | ⟨op', pc, hold, -, hthrew⟩
  · obtain rfl : pc = .threw := by
      rcases heq with heq | heq
      · exact (Call.mk.inj heq).2.symm
      · cases pc <;> first | rfl | exact absurd (congrArg Call.pc heq) (by simp [Call.wake])
    exact ht n op' hold
  · exact Pc.noConfusion (Call.mk.inj heq).2
  · obtain ⟨rfl, henqueues, hpolicy, hfull, j, k, rfl⟩ := hthrew rfl
    exact absurd (hok.callerRuns n j k op' rfl hold henqueues hpolicy) (Nat.not_lt.2 hfull)

/-- Executions of the task of the call `n`, also the one that has begun. -/
def executions (s : State) (n : Nat) : Nat :=
  (executing s.core.workers).count n + s.core.finished.count n

structure Exact (s : State) : Prop where
  counted : Counted s.core
  traced : Traced s
  stopping : Stopping s
  served : Served s.core
  closing : Closing s
  uncleared : Uncleared s
  unthrown : ∀ n op, s.calls n ≠ some ⟨op, .threw⟩

theorem exact_start (hmin : 1 ≤ cfg.minThreads) : Exact (.start cfg) :=
  ⟨counted_start, traced_start, stopping_start, served_start hmin, closing_start,
    ⟨fun _ _ h => absurd h.symm (Option.some_ne_none _), rfl⟩,
    fun _ _ h => absurd h.symm (Option.some_ne_none _)⟩

theorem Exact.move (hI : Exact s) (hpolicy : cfg.rejectionPolicy ≠ .discardOldest)
    (hok : Orderly cfg s l) (hl : ∀ n, l ≠ .invoke n .clearQueue) (h : Move cfg s l t) : Exact t :=
  ⟨hI.counted.move hI.stopping h, hI.traced.move h, hI.stopping.move h,
    hI.served.move hI.stopping hok hpolicy h, hI.closing.move hI.stopping hok hpolicy h,
    hI.uncleared.move hpolicy hl h, unthrown_move hI.unthrown hok h⟩

/-- In orderly runs without `clear_queue`: an accepted task is executed at most once, and exactly
    once when a `stop` has returned; a refused one is never executed; no call throws, and `stop`
    destroys no running thread. -/
theorem executed_exactly_once (hmin : 1 ≤ cfg.minThreads)
    (hpolicy : cfg.rejectionPolicy ≠ .discardOldest) (hclear : ∀ n, .invoke n .clearQueue ∉ ls)
    (h : Run (step cfg) (Orderly cfg) (.start cfg) ls s) :
    (∀ n op, op.plain → s.calls n = some ⟨op, .returned true⟩ → executions s n ≤ 1 ∧
      ((∃ m r, s.calls m = some ⟨.stop, .returned r⟩) → s.core.finished.count n = 1)) ∧
    (∀ n op, op.plain → s.calls n = some ⟨op, .returned false⟩ → executions s n = 0) ∧
    (∀ n op, s.calls n ≠ some ⟨op, .threw⟩) ∧ ∀ n, s.calls n ≠ some ⟨.stop, .terminated⟩ := by
  have hrun : Run (step cfg) (fun s l => Orderly cfg s l ∧ ∀ n, l ≠ .invoke n .clearQueue)
      (.start cfg) ls s := h.also fun l hl _ n heq => hclear n (heq ▸ hl)
  have hexact : Exact s := by
    refine hrun.invariant (exact_start hmin) fun s l t hI hok hstep => ?_
    exact hI.move hpolicy hok.1 hok.2 (step_move hstep)
  have hcount : ∀ n, (s.core.tasks.map Task.id).count n + executions s n =
      s.core.submitted.count n := by
    intro n
    have hn := hexact.counted.tasks n
    rw [hexact.uncleared.dropped, List.count_nil] at hn
    rw [executions]
    omega
  refine ⟨fun n op hplain hn => ⟨?_, ?_⟩, fun n op hplain hn => ?_, hexact.unthrown,
    hexact.closing.lasting⟩
  · have honce := List.nodup_iff_count_le_one.1 hexact.traced.nodup n
    have hn' := hcount n
    omega
  · rintro ⟨m, r, hm⟩
    have hnil : s.core.workers = [] := by
      cases r with
      | true => exact hexact.closing.cleared m hm
      | false =>
        obtain ⟨m', hm'⟩ := hexact.closing.again m hm
        exact hexact.closing.cleared m' hm'
    have htasks : s.core.tasks = [] := by
      refine hexact.served.served ?_
      rintro ⟨w, hw, -⟩
      rw [hnil] at hw
      exact List.not_mem_nil hw
    have hn' := hcount n
    rw [executions, hnil, htasks] at hn'
    have hmem := hexact.traced.accepted n op hplain hn
    have hone := List.count_eq_one_of_mem hexact.traced.nodup hmem
    rw [hone] at hn'
    simpa [executing] using hn'
  · have hmem := hexact.traced.not_pushed hn (by cases op <;> simp_all [Pushed])
    have hn' := hcount n
    rw [List.count_eq_zero_of_not_mem hmem] at hn'
    omega

/-! ## A stop -/

/-- Once the flag is set, only the call that set it goes on. -/
def calm (s : State) : Label → Bool
  | .call n _ _ => !s.core.stopped || (s.calls n).all fun call =>
      call.op = .stop && call.pc ≠ .begun
  | _ => true

theorem orderly_of_calm (hpolicy : cfg.rejectionPolicy ≠ .callerRuns) (h : calm s l = true) :
    Orderly cfg s l := by
  have hquiet : ∀ {n j k : Nat} {op : Op} {pc : Pc}, l = .call n j k → s.calls n = some ⟨op, pc⟩ →
      s.core.stopped = true → op = .stop ∧ pc ≠ .begun := by
    rintro n j k op pc rfl hn hstopped
    simpa [calm, hstopped, hn] using h
  refine ⟨fun n j k op _ _ _ hp => absurd hp hpolicy, fun n j k op hl hn hop hstopped _ => ?_,
    fun n j k hl hn hstopped => absurd rfl (hquiet hl hn hstopped).2⟩
  obtain ⟨rfl, -⟩ := hquiet hl hn hstopped
  exact absurd hop Bool.false_ne_true

def blockConfig : Config := ⟨1, 1, 1, .block⟩

/-- A task is executed and the pool stopped. -/
def stopRun : List Label := [
  .invoke 0 (.enqueue true .normal), .call 0 0 0, .call 0 0 0, .invoke 1 .stop, .call 1 0 0,
  .worker 0 0, .worker 0 0, .worker 0 0, .worker 0 0, .worker 0 0, .call 1 0 0, .call 1 0 0,
  .call 1 0 0, .worker 0 0, .call 1 0 0, .call 1 0 0]

theorem executed_exactly_once_stop :
    ∃ s, Run (step blockConfig) (Orderly blockConfig) (.start blockConfig) stopRun s ∧
      s.calls 0 = some ⟨.enqueue true .normal, .returned true⟩ ∧
      s.calls 1 = some ⟨.stop, .returned true⟩ ∧
      (∀ n op, op.plain → s.calls n = some ⟨op, .returned true⟩ → executions s n ≤ 1 ∧
        ((∃ m r, s.calls m = some ⟨.stop, .returned r⟩) → s.core.finished.count n = 1)) ∧
      (∀ n op, op.plain → s.calls n = some ⟨op, .returned false⟩ → executions s n = 0) ∧
      (∀ n op, s.calls n ≠ some ⟨op, .threw⟩) ∧ ∀ n, s.calls n ≠ some ⟨.stop, .terminated⟩ := by
  have hcalm : Run (step blockConfig) (fun s l => calm s l = true) (.start blockConfig)
      stopRun _ := run_iff_exec.2 rfl
  have horderly : ∀ s l, calm s l = true → Orderly blockConfig s l := fun _ _ =>
    orderly_of_calm (by decide)
  have hrun := hcalm.mono horderly
  exact ⟨_, hrun, rfl, rfl, executed_exactly_once (by decide) (by decide) (by simp [stopRun]) hrun⟩

/-- The flag is tested, the worker ends, and the task is pushed before `stop` returns. -/
theorem late_task_lost :
    ∃ s, Run (step blockConfig) anyStep (.start blockConfig)
        [.invoke 0 (.tryEnqueue true), .call 0 0 0, .invoke 1 .stop, .call 1 0 0, .call 1 0 0,
          .call 1 0 0, .call 1 0 0, .worker 0 0, .call 0 0 0, .call 1 0 0, .call 1 0 0] s ∧
      s.calls 0 = some ⟨.tryEnqueue true, .returned true⟩ ∧
      s.calls 1 = some ⟨.stop, .returned true⟩ ∧ executions s 0 = 0 ∧ s.core.workers = [] :=
  ⟨_, exec_run rfl, rfl, rfl, rfl, rfl⟩

/-- CALLER_RUNS with a full queue calls an empty function. -/
example : ∃ s, Run (step ⟨1, 1, 1, .callerRuns⟩) anyStep (.start ⟨1, 1, 1, .callerRuns⟩)
    [.invoke 0 (.enqueue true .normal), .call 0 0 0, .call 0 0 0,
      .invoke 1 (.enqueue true .normal), .call 1 0 0, .call 1 0 0] s ∧
    s.calls 1 = some ⟨.enqueue true .normal, .threw⟩ :=
  ⟨_, exec_run rfl, rfl⟩

end ChatApp.ThreadPool
