/-
  The container behind `tasks_`, a `std::priority_queue` over `Task::operator<`, which compares
  nothing but the priorities. In `Core` the waiting tasks are listed in the order of submission and
  `tasks_.top()` may be any of the highest priority; here the heap decides. `Pool` is the pool with
  its heap, and each of its runs is a run of the pool (`run_state`).

  A worker always gets a task of the highest priority that is waiting. Which of several equals it
  gets is up to the heap: with up to three tasks of one priority the oldest (`InTurn`), with four
  no longer. DISCARD_OLDEST drops what `top()` shows, which is at the wrong end.
-/
import ChatApp.Lib.Heap
import ChatApp.ThreadPool.Moves

namespace ChatApp.ThreadPool

open ChatApp.Lib

/-- What `Task::operator<` compares. -/
def Task.rank (t : Task) : Nat := t.priority.code

/-- What happens to `tasks_`. -/
inductive QueueOp
  | push (t : Task)
  | pop
  /-- `pop` until it is empty -/
  | clear
  deriving DecidableEq

namespace QueueOp

def onHeap (h : List Task) : QueueOp → List Task
  | push t => Heap.push Task.rank h t
  | pop => Heap.pop Task.rank h
  | clear => []

/-- The same in the order of submission, where `top()` is at the place `k`. -/
def onTasks (k : Nat) (ts : List Task) : QueueOp → List Task
  | push t => ts ++ [t]
  | pop => ts.eraseIdx k
  | clear => []

/-- The waiting tasks when they come and go one after the other. -/
def InTurn (ts : List Task) : QueueOp → Prop
  | push t => ∀ u ∈ ts, u.priority = t.priority
  | pop => ts.length ≤ 3
  | clear => True

instance (ts : List Task) : DecidablePred (InTurn ts)
  | push t => inferInstanceAs (Decidable (∀ u ∈ ts, u.priority = t.priority))
  | pop => inferInstanceAs (Decidable (ts.length ≤ 3))
  | clear => inferInstanceAs (Decidable True)

end QueueOp

/-- What `enqueue` does with the queue after its decision. -/
def Decision.queueOps (t : Task) : Decision → List QueueOp
  | .push => [.push t]
  | .dropAndPush => [.pop, .push t]
  | .wait | .reject | .abandon | .callerRuns => []

section
variable (cfg : Config)

/-- What a step of a call does to the queue. -/
def Op.queueOps (c : Core) (n : Nat) : Op → Pc → List QueueOp
  | .clearQueue, .begun => [.clear]
  | .tryEnqueue _, .submitting =>
    if cfg.maxQueueSize ≤ c.tasks.length then [] else [.push ⟨n, .normal⟩]
  | .enqueue _ priority, .submitting => (admission cfg c).queueOps ⟨n, priority⟩
  | .enqueue _ priority, .woken => (readmission cfg c).queueOps ⟨n, priority⟩
  | .enqueueAndWait _, .submitting => (admission cfg c).queueOps ⟨n, .normal⟩
  | .enqueueAndWait _, .woken => (readmission cfg c).queueOps ⟨n, .normal⟩
  | _, _ => []

def queueOps (s : State) : Label → List QueueOp
  | .call n _ _ => match s.calls n with
    | some call => call.op.queueOps cfg s.core n call.pc
    | none => []
  | .worker i _ => if s.core.workers[i]? = some .ready ∧ s.core.tasks ≠ [] then [.pop] else []
  | _ => []

/-- The place that the label names. -/
def Label.place : Label → Nat
  | .call _ _ k => k
  | .worker _ k => k
  | _ => 0

def Label.at (k : Nat) : Label → Label
  | .call n j _ => .call n j k
  | .worker i _ => .worker i k
  | l => l

/-- The pool with the container of its queue. -/
structure Pool where
  state : State
  heap : List Task

namespace Pool

def start : Pool := ⟨.start cfg, []⟩

/-- The place of `tasks_.top()` among the waiting tasks. -/
def place (p : Pool) : Nat :=
  match p.heap with
  | t :: _ => p.state.core.tasks.idxOf t
  | [] => 0

def step (p : Pool) (l : Label) : Option Pool :=
  (ThreadPool.step cfg p.state (l.at p.place)).map fun s =>
    ⟨s, (queueOps cfg p.state l).foldl QueueOp.onHeap p.heap⟩

end Pool

end

/-! ## The queue of a step -/

variable {cfg : Config} {s t : State} {n i j k : Nat} {op : Op} {pc : Pc} {l : Label}

/-- The queue of `t` is what the operations make of the queue of `s`. -/
def Requeues (s t : State) (k : Nat) (ops : List QueueOp) : Prop :=
  t.core.tasks = ops.foldl (QueueOp.onTasks k) s.core.tasks

theorem notifyOne_tasks {c c' : Core} (h : c.notifyOne j = some c') : c'.tasks = c.tasks := by
  obtain ⟨ws, -, rfl⟩ := notifyOne_wakes h
  rfl

theorem grow_tasks (c : Core) : (c.grow cfg).tasks = c.tasks := by
  unfold Core.grow Core.tryAddThread
  split
  · split <;> rfl
  · rfl

theorem dropTop_tasks {c c' : Core} (h : c.dropTop k = some c') :
    c'.tasks = c.tasks.eraseIdx k := by
  unfold Core.dropTop at h
  split at h
  next hnil =>
    cases h
    rw [hnil]
    rfl
  next =>
    obtain ⟨u, -, rfl⟩ := Option.map_eq_some_iff.1 h
    rfl

theorem requeues_conduct {priority : Priority} {answer : Bool → Pc} {d : Decision}
    (h : conduct cfg s n op priority answer j k d = some t) :
    Requeues s t k (d.queueOps ⟨n, priority⟩) := by
  cases d with
  | push =>
    obtain ⟨c, hc, rfl⟩ := Option.map_eq_some_iff.1 h
    exact (notifyOne_tasks hc).trans (grow_tasks _)
  | dropAndPush =>
    obtain ⟨c₀, hdrop, h⟩ := Option.bind_eq_some_iff.1 h
    obtain ⟨c, hc, rfl⟩ := Option.map_eq_some_iff.1 h
    refine ((notifyOne_tasks hc).trans (grow_tasks _)).trans ?_
    exact congrArg (· ++ [Task.mk n priority]) (dropTop_tasks hdrop)
  | wait => cases h; rfl
  | reject => cases h; rfl
  | abandon => cases h; rfl
  | callerRuns => cases h; rfl

theorem requeues_enqueue (callable : Bool) (j : Nat) (hop : op.enqueues = true) (hpc : pc ≠ .begun)
    (h : enqueueStep cfg s n op callable op.priority op.answer j k pc = some t) :
    Requeues s t k (op.queueOps cfg s.core n pc) := by
  have hsubmitting : op.queueOps cfg s.core n .submitting =
      (admission cfg s.core).queueOps ⟨n, op.priority⟩ := by
    cases op with
    | enqueue => rfl
    | enqueueAndWait => rfl
    | _ => cases hop
  have hwoken : op.queueOps cfg s.core n .woken =
      (readmission cfg s.core).queueOps ⟨n, op.priority⟩ := by
    cases op with
    | enqueue => rfl
    | enqueueAndWait => rfl
    | _ => cases hop
  cases pc with
  | begun => exact absurd rfl hpc
  | submitting => exact hsubmitting ▸ requeues_conduct (locked_eq_some.1 h).2
  | holding =>
    cases h
    cases op with
    | enqueue => rfl
    | enqueueAndWait => rfl
    | _ => cases hop
  | woken => exact hwoken ▸ requeues_conduct (locked_eq_some.1 h).2
  | _ => cases h

theorem requeues_tryEnqueue {callable : Bool}
    (h : tryEnqueueStep cfg s n callable j pc = some t) :
    Requeues s t k ((Op.tryEnqueue callable).queueOps cfg s.core n pc) := by
  cases pc with
  | begun => cases h; rfl
  | submitting =>
    obtain ⟨-, h⟩ := locked_eq_some.1 h
    simp only [Op.queueOps]
    split at h
    next hfull =>
      cases h
      rw [if_pos hfull]
      rfl
    next hroom =>
      obtain ⟨c, hc, rfl⟩ := Option.map_eq_some_iff.1 h
      rw [if_neg hroom]
      exact notifyOne_tasks hc
  | _ => cases h

/-- A call that submits nothing leaves the queue alone, unless it clears it. -/
theorem tasks_of_other (hop : op.submits = false) (hclear : op ≠ .clearQueue)
    (hn : s.calls n = some ⟨op, pc⟩) (h : Move cfg s (.call n j k) t) :
    t.core.tasks = s.core.tasks := by
  have hat : ∀ {op' pc'}, s.calls n = some ⟨op', pc'⟩ → op' = op := fun hn' =>
    (calls_inj hn' hn).1
  cases h with
  | push hn' hop' => exact absurd (hat hn' ▸ hop') (by simp [hop])
  | dropPush hn' hop' => exact absurd (submits_of_enqueues (hat hn' ▸ hop')) (by simp [hop])
  | clear hn' => exact absurd (hat hn').symm hclear
  | _ => rfl

theorem requeues_call {call : Call} (hn : s.calls n = some call)
    (h : callStep cfg s n j k call = some t) :
    Requeues s t k (call.op.queueOps cfg s.core n call.pc) := by
  obtain ⟨op, pc⟩ := call
  have hmove := callStep_move hn h
  cases op with
  | enqueue callable p =>
    cases pc with
    | begun => cases h; rfl
    | _ => exact requeues_enqueue callable j rfl (by simp) h
  | tryEnqueue callable => exact requeues_tryEnqueue h
  | enqueueAndWait callable =>
    cases pc with
    | begun => cases h; rfl
    | entered => cases h; rfl
    | future =>
      simp only [callStep, enqueueAndWaitStep, Option.ite_none_right_eq_some] at h
      cases h.2
      rfl
    | _ => exact requeues_enqueue true j rfl (by simp) h
  | waitAll => exact tasks_of_other rfl (by simp) hn hmove
  | clearQueue =>
    cases pc with
    | begun =>
      cases (locked_eq_some.1 h).2
      rfl
    | _ => cases h
  | stop => exact tasks_of_other rfl (by simp) hn hmove

theorem requeues_worker {w : Worker} (hi : s.core.workers[i]? = some w)
    (h : workerStep s i k w = some t) : Requeues s t k (queueOps cfg s (.worker i k)) := by
  simp only [queueOps, hi]
  cases w with
  | ready =>
    obtain ⟨-, h⟩ := locked_eq_some.1 h
    obtain ⟨c, hc, rfl⟩ := Option.map_eq_some_iff.1 h
    unfold Core.takeTask at hc
    split at hc
    next htasks =>
      cases hc
      have hempty : ¬ (some Worker.ready = some Worker.ready ∧ s.core.tasks ≠ []) :=
        fun h => h.2 htasks
      rw [if_neg hempty]
      rfl
    next htasks =>
      obtain ⟨u, -, rfl⟩ := Option.map_eq_some_iff.1 hc
      rw [if_pos ⟨rfl, htasks⟩]
      rfl
  | running u => cases h; rfl
  | ran => cases h; rfl
  | uncounted => cases h; rfl
  | unnotified => cases h; rfl
  | _ => cases h

/-- The queue after a step is what the operations of the step make of it. -/
theorem requeues_step (h : step cfg s l = some t) : Requeues s t l.place (queueOps cfg s l) := by
  cases l with
  | invoke n op =>
    obtain ⟨-, h⟩ := Option.ite_none_right_eq_some.1 h
    cases h
    rfl
  | call n j k =>
    obtain ⟨call, hn, h⟩ := Option.bind_eq_some_iff.1 h
    simp only [queueOps, hn]
    exact requeues_call hn h
  | worker i k =>
    obtain ⟨w, hi, h⟩ := Option.bind_eq_some_iff.1 h
    exact requeues_worker hi h
  | wakeWorker i =>
    obtain ⟨-, h⟩ := Option.ite_none_right_eq_some.1 h
    cases h
    rfl
  | wakeCall n =>
    obtain ⟨call, hn, h⟩ := Option.bind_eq_some_iff.1 h
    obtain ⟨-, h⟩ := Option.ite_none_right_eq_some.1 h
    cases h
    rfl

/-! ## The heap and the queue -/

namespace Pool

variable {p q : Pool} {ls : List Label}

/-- A heap with the waiting tasks. -/
def Holds (h ts : List Task) : Prop := h.Perm ts ∧ Heap.IsHeap Task.rank h

theorem holds_nil : Holds [] [] := ⟨.nil, fun _ _ _ _ h => by cases h⟩

theorem Holds.push {h ts : List Task} (hh : Holds h ts) (k : Nat) (u : Task) :
    Holds ((QueueOp.push u).onHeap h) ((QueueOp.push u).onTasks k ts) :=
  ⟨(Heap.push_perm.trans (hh.1.cons u)).trans (List.perm_append_singleton u ts).symm,
    Heap.isHeap_push hh.2⟩

theorem Holds.pop {h ts : List Task} (hh : Holds h ts) {k : Nat}
    (hk : ∀ u rest, h = u :: rest → k = ts.idxOf u) :
    Holds (QueueOp.pop.onHeap h) (QueueOp.pop.onTasks k ts) := by
  obtain ⟨hperm, hheap⟩ := hh
  cases h with
  | nil =>
    obtain rfl := hperm.nil_eq
    exact holds_nil
  | cons u rest =>
    refine ⟨Heap.pop_perm.trans ?_, Heap.isHeap_pop hheap⟩
    show rest.Perm (ts.eraseIdx k)
    rw [hk u rest rfl, ← List.erase_eq_eraseIdx_of_idxOf rfl]
    exact (List.cons_perm_iff_perm_erase.1 hperm).2

/-- What a step does to the queue. -/
theorem queueOps_cases (cfg : Config) (s : State) (l : Label) :
    queueOps cfg s l = [] ∨ (∃ u, queueOps cfg s l = [.push u]) ∨ queueOps cfg s l = [.pop] ∨
      (∃ u, queueOps cfg s l = [.pop, .push u]) ∨ queueOps cfg s l = [.clear] := by
  have hdecision : ∀ (d : Decision) (u : Task), d.queueOps u = [] ∨
      (∃ v, d.queueOps u = [.push v]) ∨ d.queueOps u = [.pop] ∨
      (∃ v, d.queueOps u = [.pop, .push v]) ∨ d.queueOps u = [.clear] := by
    intro d u
    cases d <;> simp [Decision.queueOps]
  cases l with
  | call n j k =>
    simp only [queueOps]
    split
    case h_1 call _ =>
      obtain ⟨op, pc⟩ := call
      unfold Op.queueOps
      split
      case h_2 => split <;> simp
      case h_3 => exact hdecision _ _
      case h_4 => exact hdecision _ _
      case h_5 => exact hdecision _ _
      case h_6 => exact hdecision _ _
      all_goals simp
    case h_2 => simp
  | worker i k =>
    simp only [queueOps]
    split <;> simp
  | _ => simp [queueOps]

/-- The container holds the waiting tasks, in the order of a heap. -/
def Ordered (p : Pool) : Prop := Holds p.heap p.state.core.tasks

theorem place_eq {u : Task} {rest : List Task} (h : p.heap = u :: rest) :
    p.place = p.state.core.tasks.idxOf u := by
  rw [place, h]

theorem queueOps_at (s : State) (l : Label) (k : Nat) :
    queueOps cfg s (l.at k) = queueOps cfg s l := by
  cases l <;> rfl

theorem step_eq_some {l : Label} : p.step cfg l = some q ↔
    ThreadPool.step cfg p.state (l.at p.place) = some q.state ∧
      q.heap = (queueOps cfg p.state l).foldl QueueOp.onHeap p.heap := by
  unfold step
  rw [Option.map_eq_some_iff]
  constructor
  · rintro ⟨s, hs, rfl⟩
    exact ⟨hs, rfl⟩
  · rintro ⟨hs, hheap⟩
    exact ⟨q.state, hs, by rw [← hheap]⟩

/-- The queue after a step. -/
theorem tasks_step {l : Label} (h : p.step cfg l = some q) : q.state.core.tasks =
    (queueOps cfg p.state l).foldl (QueueOp.onTasks p.place) p.state.core.tasks := by
  have hqueue := requeues_step (step_eq_some.1 h).1
  rw [Requeues, queueOps_at] at hqueue
  cases l <;> exact hqueue

theorem Ordered.step {l : Label} (hp : p.Ordered) (h : p.step cfg l = some q) : q.Ordered := by
  have htasks := tasks_step h
  have hheap := (step_eq_some.1 h).2
  have hplace : ∀ u rest, p.heap = u :: rest → p.place = p.state.core.tasks.idxOf u :=
    fun u rest hu => place_eq hu
  have hholds : Holds p.heap p.state.core.tasks := hp
  rw [Ordered, htasks, hheap]
  rcases queueOps_cases cfg p.state l with hops | ⟨u, hops⟩ | hops | ⟨u, hops⟩ | hops <;> rw [hops]
  · exact hholds
  · exact hholds.push p.place u
  · exact hholds.pop hplace
  · exact (hholds.pop hplace).push p.place u
  · exact holds_nil

theorem ordered_run {ok : Pool → Label → Prop} (h : Run (step cfg) ok (start cfg) ls p) :
    p.Ordered := by
  have hstart : (start cfg).Ordered := holds_nil
  exact h.invariant hstart fun _ _ _ hp _ hstep => hp.step hstep

/-- The heap chooses among the steps of the pool. -/
theorem run_state {ok : Pool → Label → Prop} (h : Run (step cfg) ok (start cfg) ls p) :
    ∃ ms, Run (ThreadPool.step cfg) anyStep (.start cfg) ms p.state := by
  induction h with
  | nil => exact ⟨[], .nil⟩
  | @snoc ls p q l _ _ hstep ih =>
    obtain ⟨ms, hms⟩ := ih
    exact ⟨ms ++ [l.at p.place], .snoc hms trivial (step_eq_some.1 hstep).1⟩

/-- `tasks_.top()` has the highest priority of the waiting tasks. -/
theorem Ordered.top (hp : p.Ordered) {u : Task} {rest : List Task} (h : p.heap = u :: rest) :
    p.state.core.top p.place = some u := by
  have hmem : u ∈ p.state.core.tasks := hp.1.subset (h ▸ List.mem_cons_self)
  have hmax : ∀ v ∈ p.state.core.tasks, v.priority.code ≤ u.priority.code := by
    intro v hv
    have hheap := hp.2
    rw [h] at hheap
    have hle : v.rank ≤ u.rank := Heap.le_front hheap (h ▸ hp.1.symm.subset hv)
    exact hle
  have hat : p.state.core.tasks[p.state.core.tasks.idxOf u]? = some u := by
    rw [List.getElem?_eq_getElem (List.idxOf_lt_length_iff.2 hmem), List.getElem_idxOf]
  rw [Core.top, place_eq h, hat, Option.filter_some, if_pos]
  simpa using hmax

/-- A worker that finds the mutex free gets what `tasks_.top()` shows. -/
theorem Ordered.take (cfg : Config) (hp : p.Ordered) {u : Task} {rest : List Task}
    (h : p.heap = u :: rest)
    {i : Nat} (hi : p.state.core.workers[i]? = some .ready) (hfree : p.state.lock = none)
    (k : Nat) : ∃ q, p.step cfg (.worker i k) = some q ∧
      q.state.core.workers[i]? = some (.running u) := by
  have hne : p.state.core.tasks ≠ [] := fun hnil => by
    have hperm := hp.1
    rw [h, hnil] at hperm
    exact List.cons_ne_nil u rest hperm.eq_nil
  have hstep : ThreadPool.step cfg p.state (.worker i p.place) = some { p.state with
      core := { p.state.core with
        tasks := p.state.core.tasks.eraseIdx p.place
        workers := p.state.core.workers.set i (.running u)
        activeWorkers := p.state.core.activeWorkers + 1 } } := by
    simp only [ThreadPool.step, hi, Option.bind_some, workerStep, State.locked, if_pos hfree,
      Core.takeTask, if_neg hne, hp.top h, Option.map_some]
  refine ⟨⟨_, (queueOps cfg p.state (.worker i k)).foldl QueueOp.onHeap p.heap⟩,
    step_eq_some.2 ⟨hstep, rfl⟩, ?_⟩
  exact List.getElem?_set_self (List.getElem?_eq_some_iff.1 hi).1

/-! ## Tasks of one priority -/

/-- A task that is submitted finds only tasks of its own priority waiting, and at most three tasks
    wait when one is taken away. -/
def InTurn (cfg : Config) (p : Pool) (l : Label) : Prop :=
  ∀ op ∈ queueOps cfg p.state l, op.InTurn p.state.core.tasks

instance (cfg : Config) (p : Pool) (l : Label) : Decidable (InTurn cfg p l) :=
  inferInstanceAs (Decidable (∀ op ∈ queueOps cfg p.state l, op.InTurn p.state.core.tasks))

/-- The waiting tasks in the order of submission, all of one priority. -/
def Lined (h ts : List Task) : Prop :=
  h = ts ∧ ∀ u ∈ ts, ∀ v ∈ ts, u.priority = v.priority

theorem lined_nil : Lined [] [] := ⟨rfl, fun _ h => by cases h⟩

theorem Lined.push {h ts : List Task} (hh : Lined h ts) (k : Nat) {u : Task}
    (hu : ∀ v ∈ ts, v.priority = u.priority) :
    Lined ((QueueOp.push u).onHeap h) ((QueueOp.push u).onTasks k ts) := by
  obtain ⟨rfl, hone⟩ := hh
  refine ⟨Heap.push_of_le fun v hv => le_of_eq (congrArg Priority.code (hu v hv).symm), ?_⟩
  have hlast : ∀ v ∈ h ++ [u], v.priority = u.priority := by
    intro v hv
    rcases List.mem_append.1 hv with hv | hv
    · exact hu v hv
    · rw [List.mem_singleton.1 hv]
  exact fun v hv w hw => (hlast v hv).trans (hlast w hw).symm

/-- Up to three tasks of one priority stay in their order. -/
theorem pop_of_one {ts : List Task} (hone : ∀ u ∈ ts, ∀ v ∈ ts, u.priority = v.priority)
    (hlen : ts.length ≤ 3) : Heap.pop Task.rank ts = ts.tail := by
  match ts, hlen with
  | [], _ => rfl
  | [_], _ => rfl
  | [_, _], _ => rfl
  | [_, b, c], _ =>
    exact Heap.pop_three (le_of_eq (congrArg Priority.code (hone c (by simp) b (by simp))))

theorem Lined.pop {h ts : List Task} (hh : Lined h ts) (hlen : ts.length ≤ 3) {k : Nat}
    (hk : ∀ u rest, h = u :: rest → k = ts.idxOf u) :
    Lined (QueueOp.pop.onHeap h) (QueueOp.pop.onTasks k ts) := by
  obtain ⟨rfl, hone⟩ := hh
  have htail : QueueOp.pop.onTasks k h = h.tail := by
    cases h with
    | nil => rfl
    | cons u rest =>
      rw [QueueOp.onTasks, hk u rest rfl, List.idxOf_cons_self]
      rfl
  rw [htail]
  exact ⟨pop_of_one hone hlen, fun u hu v hv =>
    hone u (List.mem_of_mem_tail hu) v (List.mem_of_mem_tail hv)⟩

theorem lined_step {l : Label} (hp : Lined p.heap p.state.core.tasks) (hturn : InTurn cfg p l)
    (h : p.step cfg l = some q) : Lined q.heap q.state.core.tasks := by
  have hplace : ∀ u rest, p.heap = u :: rest → p.place = p.state.core.tasks.idxOf u :=
    fun u rest hu => place_eq hu
  rw [tasks_step h, (step_eq_some.1 h).2]
  rcases queueOps_cases cfg p.state l with hops | ⟨u, hops⟩ | hops | ⟨u, hops⟩ | hops <;>
    rw [InTurn, hops] at hturn <;> rw [hops]
  · exact hp
  · exact hp.push p.place (hturn (.push u) (by simp))
  · exact hp.pop (hturn .pop (by simp)) hplace
  · have hpush : (QueueOp.push u).InTurn p.state.core.tasks := hturn (.push u) (by simp)
    have hrest : ∀ v ∈ QueueOp.pop.onTasks p.place p.state.core.tasks, v.priority = u.priority :=
      fun v hv => hpush v (List.mem_of_mem_eraseIdx hv)
    exact (hp.pop (hturn .pop (by simp)) hplace).push p.place hrest
  · exact lined_nil

end Pool

/-! ## The order in which tasks are handed out -/

/-- A worker that finds a task waiting is handed one of the highest priority; it is the oldest of
    all in a run whose tasks come and go in turn. -/
theorem handed_out {p : Pool} {ls : List Label}
    (hrun : Run (Pool.step cfg) anyStep (Pool.start cfg) ls p)
    (hi : p.state.core.workers[i]? = some .ready) (hfree : p.state.lock = none)
    (htasks : p.state.core.tasks ≠ []) :
    ∃ u q, p.step cfg (.worker i k) = some q ∧ q.state.core.workers[i]? = some (.running u) ∧
      u ∈ p.state.core.tasks ∧ (∀ v ∈ p.state.core.tasks, v.priority.code ≤ u.priority.code) ∧
      (Run (Pool.step cfg) (Pool.InTurn cfg) (Pool.start cfg) ls p →
        p.state.core.tasks.head? = some u) := by
  have hordered := Pool.ordered_run hrun
  cases hheap : p.heap with
  | nil =>
    have hperm := hordered.1
    rw [hheap] at hperm
    exact absurd hperm.nil_eq.symm htasks
  | cons u rest =>
    obtain ⟨q, hstep, hrunning⟩ := hordered.take cfg hheap hi hfree k
    have htop := hordered.top hheap
    rw [Core.top, Option.filter_eq_some_iff] at htop
    refine ⟨u, q, hstep, hrunning, List.mem_of_getElem? htop.1, ?_, fun hturn => ?_⟩
    · simpa using htop.2
    · have hlined : Pool.Lined p.heap p.state.core.tasks :=
        hturn.invariant (I := fun p => Pool.Lined p.heap p.state.core.tasks) Pool.lined_nil
          fun _ _ _ hp hok hstep => Pool.lined_step hp hok hstep
      rw [← hlined.1, hheap]
      rfl

def queueConfig : Config := ⟨1, 1, 10, .block⟩

/-- Submitted tasks, all at NORMAL -/
def submissions (m : Nat) : List Label :=
  (List.range m).flatMap fun n =>
    [.invoke n (.enqueue true .normal), .call n 0 0, .call n 0 0]

theorem handed_out_two : ∃ p u q,
    Run (Pool.step queueConfig) (Pool.InTurn queueConfig) (Pool.start queueConfig)
      (submissions 2) p ∧
    p.step queueConfig (.worker 0 0) = some q ∧
    q.state.core.workers[0]? = some (.running u) ∧ p.state.core.tasks.head? = some u := by
  let p := (exec (Pool.step queueConfig) (Pool.start queueConfig) (submissions 2)).getD
    (Pool.start queueConfig)
  have hturn : Run (Pool.step queueConfig) (Pool.InTurn queueConfig) (Pool.start queueConfig)
      (submissions 2) p := run_iff_exec.2 rfl
  obtain ⟨u, q, hstep, hrunning, -, -, hhead⟩ := handed_out (i := 0) (k := 0)
    (hturn.mono fun _ _ _ => trivial) rfl rfl (by decide)
  exact ⟨p, u, q, hturn, hstep, hrunning, hhead hturn⟩

/-- Four tasks at NORMAL: the first to be taken is the oldest, the second is not. -/
theorem equals_out_of_turn : ¬ ∀ (cfg : Config) (ls : List Label) (p q : Pool) (i k : Nat)
    (u : Task), Run (Pool.step cfg) anyStep (Pool.start cfg) ls p →
      p.state.core.workers[i]? = some .ready → p.step cfg (.worker i k) = some q →
      q.state.core.workers[i]? = some (.running u) →
      (∀ v ∈ p.state.core.tasks, v.priority.code ≤ u.priority.code) ∧
        p.state.core.tasks.find? (·.priority = u.priority) = some u := by
  intro h
  let ls := submissions 4 ++ List.replicate 5 (.worker 0 0)
  let p := (exec (Pool.step queueConfig) (Pool.start queueConfig) ls).getD (Pool.start queueConfig)
  let q := (p.step queueConfig (.worker 0 0)).getD p
  have hturn := (h queueConfig ls p q 0 0 ⟨2, .normal⟩ (exec_run rfl) rfl rfl rfl).2
  exact absurd hturn (by decide)

/-! ## DISCARD_OLDEST -/

/-- The call `n` finds the queue full, and the policy is to drop a task. -/
def Discards (cfg : Config) (s : State) (n : Nat) (op : Op) : Prop :=
  s.calls n = some ⟨op, .submitting⟩ ∧ op.enqueues ∧ cfg.rejectionPolicy = .discardOldest ∧
    cfg.maxQueueSize ≤ s.core.tasks.length

/-- One waiting task has made room for `new`, and none of a lower priority waits. -/
def DropsLowest (s t : State) (new : Task) : Prop :=
  ∃ u ∈ s.core.tasks, (∀ v ∈ s.core.tasks, u.priority.code ≤ v.priority.code) ∧
    t.core.dropped = s.core.dropped ++ [u.id] ∧
    t.core.tasks.Perm (s.core.tasks.erase u ++ [new])

theorem Discards.admission (h : Discards cfg s n op) : admission cfg s.core = .dropAndPush := by
  obtain ⟨-, -, hpolicy, hfull⟩ := h
  rw [ThreadPool.admission, if_neg (Nat.not_lt.2 hfull), hpolicy]

/-- Such a call drops `tasks_.top()`. -/
theorem Discards.drops (h : Discards cfg s n op) (hstep : step cfg s (.call n j k) = some t) :
    ∃ tasks, Drops s.core tasks t.core.dropped ∧ t.core.tasks = tasks ++ [⟨n, op.priority⟩] := by
  have hconduct : step cfg s (.call n j k) =
      s.locked (conduct cfg s n op op.priority op.answer j k .dropAndPush) := by
    simp only [step, h.1, Option.bind_some, ← h.admission]
    cases op with
    | enqueue => rfl
    | enqueueAndWait => rfl
    | _ => exact absurd h.2.1 (by simp [Op.enqueues])
  obtain ⟨-, hstep⟩ := locked_eq_some.1 (hconduct ▸ hstep)
  obtain ⟨c₀, hdrop, hstep⟩ := Option.bind_eq_some_iff.1 hstep
  obtain ⟨c, hc, rfl⟩ := Option.map_eq_some_iff.1 hstep
  obtain ⟨us, ws, -, -, rfl⟩ := grow_notifyOne h.2.1 hc
  obtain ⟨tasks, dropped, hdrops, rfl⟩ := dropTop_drops hdrop
  exact ⟨tasks, hdrops, rfl⟩

theorem code_injective : Function.Injective Priority.code := by
  intro p q h
  cases p <;> cases q <;> first | rfl | cases h

theorem head_eq_of_perm {u w : Task} {us ws : List Task} (h : (w :: ws).Perm (u :: us))
    (hrest : ws.Perm us) : w = u := by
  by_contra hne
  have hcount := h.count_eq u
  rw [List.count_cons_of_ne hne, List.count_cons_self, hrest.count_eq] at hcount
  omega

/-- The dropped task has the highest priority of all: it has the lowest as well exactly if there is
    no other. -/
theorem dropsLowest_iff (h : Discards cfg s n op) (hstep : step cfg s (.call n j k) = some t) :
    DropsLowest s t ⟨n, op.priority⟩ ↔
      s.core.tasks ≠ [] ∧ ∀ u ∈ s.core.tasks, ∀ v ∈ s.core.tasks, u.priority = v.priority := by
  obtain ⟨tasks, hdrops, htasks⟩ := h.drops hstep
  unfold DropsLowest
  generalize t.core.dropped = dropped at hdrops
  cases hdrops with
  | none hnil =>
    rw [hnil]
    exact ⟨fun ⟨u, hu, _⟩ => absurd hu List.not_mem_nil, fun hne => absurd rfl hne.1⟩
  | @one k w htop =>
    obtain ⟨hperm, hmax⟩ := top_perm htop
    have hw : w ∈ s.core.tasks := hperm.subset List.mem_cons_self
    rw [htasks]
    constructor
    · rintro ⟨u, hu, hmin, -, hrest⟩
      have hsame : w = u := head_eq_of_perm (hperm.trans (List.perm_cons_erase hu))
        ((List.perm_append_right_iff _).1 hrest)
      have hall : ∀ v ∈ s.core.tasks, v.priority = w.priority := fun v hv =>
        code_injective (le_antisymm (hmax v hv) (hsame ▸ hmin v hv))
      exact ⟨List.ne_nil_of_mem hu, fun v hv v' hv' => (hall v hv).trans (hall v' hv').symm⟩
    · rintro ⟨-, hone⟩
      refine ⟨w, hw, fun v hv => le_of_eq (congrArg Priority.code (hone w hw v hv)), rfl, ?_⟩
      exact ((hperm.trans (List.perm_cons_erase hw)).cons_inv).append_right _

/-- A step that makes room by dropping a task drops one of the lowest priority. -/
def RoomAtBottom (cfg : Config) (p : Pool) (l : Label) : Prop :=
  ∀ n j k op q, l = .call n j k → Discards cfg p.state n op → p.step cfg l = some q →
    DropsLowest p.state q.state ⟨n, op.priority⟩

/-- A step that has to make room finds tasks waiting, and they are of one priority. -/
def OnePriority (cfg : Config) (p : Pool) (l : Label) : Prop :=
  ∀ n j k op, l = .call n j k → Discards cfg p.state n op → p.state.core.tasks ≠ [] ∧
    ∀ u ∈ p.state.core.tasks, ∀ v ∈ p.state.core.tasks, u.priority = v.priority

/-- The runs in which DISCARD_OLDEST drops what it says. -/
theorem discards_lowest_iff {p : Pool} {ls : List Label} :
    Run (Pool.step cfg) (RoomAtBottom cfg) (Pool.start cfg) ls p ↔
      Run (Pool.step cfg) (OnePriority cfg) (Pool.start cfg) ls p := by
  constructor <;> intro h
  · induction h with
    | nil => exact .nil
    | @snoc ls p q l _ hok hstep ih =>
      refine .snoc ih ?_ hstep
      rintro n j k op rfl hdiscards
      exact (dropsLowest_iff hdiscards (Pool.step_eq_some.1 hstep).1).1
        (hok n j k op q rfl hdiscards hstep)
  · refine h.mono ?_
    rintro p l hok n j k op q rfl hdiscards hstep
    exact (dropsLowest_iff hdiscards (Pool.step_eq_some.1 hstep).1).2 (hok n j k op rfl hdiscards)

def discardConfig : Config := ⟨1, 1, 2, .discardOldest⟩

/-- The queue is full with a LOW and a CRITICAL task when a third task is submitted. -/
def fullOfBoth : List Label :=
  [.invoke 0 (.enqueue true .low), .call 0 0 0, .call 0 0 0,
    .invoke 1 (.enqueue true .critical), .call 1 0 0, .call 1 0 0,
    .invoke 2 (.enqueue true .normal), .call 2 0 0]

/-- The CRITICAL task is dropped. -/
theorem critical_dropped : ¬ ∀ (cfg : Config) (ls : List Label) (p q : Pool) (n j k : Nat)
    (op : Op), Run (Pool.step cfg) anyStep (Pool.start cfg) ls p → Discards cfg p.state n op →
      p.step cfg (.call n j k) = some q → DropsLowest p.state q.state ⟨n, op.priority⟩ := by
  intro h
  let p := (exec (Pool.step discardConfig) (Pool.start discardConfig) fullOfBoth).getD
    (Pool.start discardConfig)
  let q := (p.step discardConfig (.call 2 0 0)).getD p
  obtain ⟨u, hu, hmin, hdropped, -⟩ := h discardConfig fullOfBoth p q 2 0 0
    (.enqueue true .normal) (exec_run rfl) ⟨rfl, rfl, rfl, by decide⟩ rfl
  have hcritical : ∀ u ∈ p.state.core.tasks, q.state.core.dropped = [u.id] →
      ¬ ∀ v ∈ p.state.core.tasks, u.priority.code ≤ v.priority.code := by decide
  exact hcritical u hu hdropped hmin

end ChatApp.ThreadPool
