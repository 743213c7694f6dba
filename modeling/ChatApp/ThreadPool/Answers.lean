/-
  The queue and the calls that fill it. A call pushes its task before it is answered and never
  afterwards, so a task that has left the queue does not come back, and none is in it twice.
-/
import ChatApp.ThreadPool.Executions

namespace ChatApp.ThreadPool

/-- `enqueue` or `try_enqueue` has returned, perhaps to `enqueue_and_wait`. -/
def Pc.answered : Pc → Bool
  | .future | .returned _ => true
  | _ => false

def State.Answered (s : State) (n : Nat) : Prop :=
  ∃ call, s.calls n = some call ∧ call.pc.answered = true

variable {cfg : Config} {s t : State} {l : Label} {n : Nat} {op : Op} {pc pc' : Pc} {u : Task}

theorem Turn.answered {c : Core} (h : Turn cfg c n op pc pc') (hpc : pc.answered = true) :
    pc'.answered = true := by
  cases h with
  | future => rfl
  | abandon hop =>
    cases op with
    | enqueue => rfl
    | enqueueAndWait => rfl
    | _ => exact absurd hop Bool.false_ne_true
  | allDone => rfl
  | _ => exact absurd hpc Bool.false_ne_true

theorem answered_answer (op : Op) (r : Bool) : (op.answer r).answered = true := by
  cases op <;> rfl

/-- A call stays answered. -/
theorem Move.answered (h : Move cfg s l t) (hn : s.Answered n) : t.Answered n := by
  obtain ⟨call, hcall, hpc⟩ := hn
  have hgoto : ∀ {v : State} {m : Nat} {op : Op} {pc pc' : Pc}, s.calls m = some ⟨op, pc⟩ →
      v.calls = s.calls → (pc.answered = true → pc'.answered = true) →
      (v.goto m op pc').Answered n := by
    intro v m op pc pc' hm hcalls hkeep
    unfold State.Answered
    rw [calls_goto, hcalls]
    split
    next heq =>
      subst heq
      obtain rfl := Option.some.inj (hcall.symm.trans hm)
      exact ⟨_, rfl, hkeep hpc⟩
    next => exact ⟨call, hcall, hpc⟩
  have hwake : call.wake = call := by
    obtain ⟨op, pc⟩ := call
    cases pc with
    | asleep => exact absurd hpc Bool.false_ne_true
    | _ => rfl
  have hwoken : s.notifyDone.Answered n :=
    ⟨call, by rw [calls_notifyDone, hcall, Option.map_some, hwake], hpc⟩
  cases h with
  | @invoke m op hm =>
    refine ⟨call, ?_, hpc⟩
    rw [calls_goto, if_neg]
    · exact hcall
    · rintro rfl
      exact Option.some_ne_none _ (hcall.symm.trans hm)
  | turn hm h => exact hgoto hm rfl h.answered
  | hold hm _ h =>
    refine hgoto hm rfl fun hpc => ?_
    cases h with
    | room _ hpc' => rcases hpc' with rfl | rfl <;> exact hpc
    | done hpc' => rcases hpc' with rfl | rfl <;> exact hpc
  | sleep hm => exact hgoto hm rfl id
  | reject hm => exact hgoto hm rfl fun _ => answered_answer _ _
  | push hm => exact hgoto hm rfl fun _ => answered_answer _ _
  | dropPush hm => exact hgoto hm rfl fun _ => answered_answer _ _
  | clear hm => exact hgoto hm rfl fun _ => rfl
  | flag hm => exact hgoto hm rfl id
  | notifyTasks hm => exact hgoto hm rfl id
  | @notifyDone m _ _ hm =>
    obtain ⟨call', hcall', hpc'⟩ := hwoken
    refine ⟨call', ?_, hpc'⟩
    rw [calls_goto, if_neg]
    · exact hcall'
    · rintro rfl
      rw [calls_notifyDone, hm] at hcall'
      obtain rfl := Option.some.inj hcall'
      exact Bool.false_ne_true hpc'
  | clearWorkers hm => exact hgoto hm rfl fun _ => rfl
  | notify => exact hwoken
  | wakeCall hm => exact hgoto hm rfl id
  | _ => exact ⟨call, hcall, hpc⟩

/-- Only a call that is not answered puts a task into the queue. -/
theorem Move.queued (h : Move cfg s l t) (hu : u ∈ t.core.tasks) :
    u ∈ s.core.tasks ∨ ∃ call, s.calls u.id = some call ∧ call.pc.answered = false := by
  have hpush : ∀ {m : Nat} {op : Op} {pc : Pc} {p : Priority} {tasks : List Task},
      s.calls m = some ⟨op, pc⟩ → pc = .submitting ∨ pc = .woken ∧ s.core.stopped = false →
      (∀ v ∈ tasks, v ∈ s.core.tasks) → u ∈ tasks ++ [⟨m, p⟩] →
      u ∈ s.core.tasks ∨ ∃ call, s.calls u.id = some call ∧ call.pc.answered = false := by
    intro m op pc p tasks hm hpc hold hu
    rcases List.mem_append.1 hu with hu | hu
    · exact .inl (hold u hu)
    · obtain rfl := List.mem_singleton.1 hu
      refine .inr ⟨_, hm, ?_⟩
      rcases hpc with rfl | ⟨rfl, -⟩ <;> rfl
  cases h with
  | push hm _ hpc => exact hpush hm hpc (fun _ => id) hu
  | dropPush hm _ _ _ _ hdrops =>
    refine hpush hm (.inl rfl) (fun v hv => ?_) hu
    cases hdrops with
    | none => exact hv
    | one => exact List.mem_of_mem_eraseIdx hv
  | clear => exact absurd hu List.not_mem_nil
  | take => exact .inl (List.mem_of_mem_eraseIdx hu)
  | _ => exact .inl hu

/-- A task whose call is answered does not come into the queue. -/
theorem Move.unqueued (h : Move cfg s l t) (hn : s.Answered n) (hq : ∀ u ∈ s.core.tasks, u.id ≠ n) :
    ∀ u ∈ t.core.tasks, u.id ≠ n := by
  rintro u hu rfl
  rcases h.queued hu with hu | ⟨call, hcall, hpc⟩
  · exact hq u hu rfl
  · obtain ⟨call', hcall', hpc'⟩ := hn
    obtain rfl := Option.some.inj (hcall.symm.trans hcall')
    exact Bool.false_ne_true (hpc.symm.trans hpc')

/-! ## Tasks in the queue -/

/-- The invariants of the pool that tell the places of a task. -/
structure Placed (s : State) : Prop where
  counted : Counted s.core
  traced : Traced s
  stopping : Stopping s

theorem placed_start : Placed (.start cfg) := ⟨counted_start, traced_start, stopping_start⟩

theorem Placed.move (hp : Placed s) (h : Move cfg s l t) : Placed t :=
  ⟨hp.counted.move hp.stopping h, hp.traced.move h, hp.stopping.move h⟩

theorem Placed.answered (hp : Placed s) (hu : u ∈ s.core.tasks) : s.Answered u.id := by
  have hqueued : 0 < (s.core.tasks.map Task.id).count u.id :=
    List.count_pos_iff.2 (List.mem_map_of_mem hu)
  have htasks := hp.counted.tasks u.id
  obtain ⟨op, pc, hcall, hpushed⟩ := hp.traced.pushed u.id (List.count_pos_iff.1 (by omega))
  refine ⟨_, hcall, ?_⟩
  cases op with
  | enqueueAndWait => rcases hpushed with rfl | rfl <;> rfl
  | _ => exact hpushed.2 ▸ rfl

/-- The task that a worker takes is not in the queue any more. -/
theorem Placed.taken (hp : Placed s) {k : Nat} (htop : s.core.top k = some u) :
    ∀ v ∈ s.core.tasks.eraseIdx k, v.id ≠ u.id := by
  rintro v hv hid
  have hrest : 0 < ((s.core.tasks.eraseIdx k).map Task.id).count u.id :=
    List.count_pos_iff.2 (hid ▸ List.mem_map_of_mem hv)
  have hcount := count_top htop u.id
  have htasks := hp.counted.tasks u.id
  have hnodup := List.nodup_iff_count_le_one.1 hp.traced.nodup u.id
  rw [List.count_singleton_self] at hcount
  omega

theorem mem_of_top {c : Core} {k : Nat} (h : c.top k = some u) : u ∈ c.tasks :=
  (top_perm h).1.subset List.mem_cons_self

end ChatApp.ThreadPool
