/-
  One call of `stop` at most sets the flag and joins the workers, and a worker that has ended stays
  so until the vector is cleared.
-/
import ChatApp.ThreadPool.Moves

namespace ChatApp.ThreadPool

open ChatApp.Lib

variable {cfg : Config} {s t : State} {l : Label} {ws us : List Worker}

/-! ## Workers that have ended -/

/-- The vector grows, and what has ended in it stays. -/
structure Extends (ws us : List Worker) : Prop where
  length : ws.length ≤ us.length
  gone : ∀ i : Nat, ws[i]? = some Worker.gone → us[i]? = some Worker.gone

theorem Extends.refl : Extends ws ws := ⟨Nat.le_refl _, fun _ h => h⟩

theorem extends_set {i : Nat} {v w : Worker} (hi : ws[i]? = some v) (hv : v ≠ .gone) :
    Extends ws (ws.set i w) := by
  refine ⟨Nat.le_of_eq List.length_set.symm, fun m hm => ?_⟩
  rw [List.getElem?_set_ne]
  · exact hm
  · rintro rfl
    exact hv (Option.some.inj (hi.symm.trans hm))

theorem Hires.extends {c : Core} {op : Op} (h : Hires cfg c op us) : Extends c.workers us := by
  cases h with
  | keep => exact .refl
  | add =>
    refine ⟨by simp, fun i hi => ?_⟩
    rw [List.getElem?_append_left (List.getElem?_eq_some_iff.1 hi).1]
    exact hi

theorem Wakes.extends (h : Wakes ws us) : Extends ws us := by
  cases h with
  | none => exact .refl
  | one h => exact extends_set h (by decide)

theorem Hires.wakes_extends {c : Core} {op : Op} (h : Hires cfg c op us) (h' : Wakes us ws) :
    Extends c.workers ws :=
  ⟨Nat.le_trans h.extends.length h'.extends.length,
    fun i hi => h'.extends.gone i (h.extends.gone i hi)⟩

/-- The last step of `stop` -/
def Clears (s t : State) : Prop :=
  ∃ n i m, s.calls n = some ⟨.stop, .joining i m⟩ ∧ ¬ i < m ∧ s.core.workers.length = m ∧
    t = { s with core := { s.core with workers := [] } }.goto n .stop (.returned true)

theorem Move.extends (h : Move cfg s l t) :
    Clears s t ∨ Extends s.core.workers t.core.workers := by
  cases h with
  | push _ _ _ _ _ hhires hwakes => exact .inr (hhires.wakes_extends hwakes)
  | dropPush _ _ _ _ _ _ hhires hwakes => exact .inr (hhires.wakes_extends hwakes)
  | notifyTasks =>
    refine .inr ⟨by simp [State.goto, Core.notifyAll], fun i hi => ?_⟩
    simp [State.goto, Core.notifyAll, hi, Core.wake]
  | clearWorkers hn hi hm => exact .inl ⟨_, _, _, hn, hi, hm, rfl⟩
  | idle hi => exact .inr (extends_set hi (by decide))
  | take hi => exact .inr (extends_set hi (by decide))
  | finish hi => exact .inr (extends_set hi (by simp))
  | uncount hi => exact .inr (extends_set hi (by decide))
  | count hi => exact .inr (extends_set hi (by decide))
  | notify hi => exact .inr (extends_set hi (by decide))
  | wakeWorker hi => exact .inr (extends_set hi (by decide))
  | _ => exact .inr .refl

theorem Move.stopped (h : Move cfg s l t) (hs : s.core.stopped = true) :
    t.core.stopped = true := by
  cases h with
  | flag => rfl
  | _ => exact hs

/-! ## The call that stops the pool -/

/-- The call has set the flag. -/
def Call.stopping (call : Call) : Bool :=
  call.op = .stop && match call.pc with
    | .begun => false
    | .returned false => false
    | _ => true

structure Stopping (s : State) : Prop where
  stopped : ∀ n call, s.calls n = some call → call.stopping → s.core.stopped = true
  unique : ∀ n m call call', s.calls n = some call → s.calls m = some call' → call.stopping →
    call'.stopping → n = m
  joined : ∀ n i m, s.calls n = some ⟨.stop, .joining i m⟩ →
    i ≤ m ∧ ∀ k < i, s.core.workers[k]? = some .gone

theorem stopping_start : Stopping (.start cfg) :=
  ⟨fun _ _ h => absurd h.symm (Option.some_ne_none _),
    fun _ _ _ _ h => absurd h.symm (Option.some_ne_none _),
    fun _ _ _ h => absurd h.symm (Option.some_ne_none _)⟩

theorem calls_goto (s : State) (n m : Nat) (op : Op) (pc : Pc) :
    (s.goto n op pc).calls m = if m = n then some ⟨op, pc⟩ else s.calls m := by
  simp [State.goto, Function.update_apply]

theorem calls_goto_self (s : State) (n : Nat) (op : Op) (pc : Pc) :
    (s.goto n op pc).calls n = some ⟨op, pc⟩ := by
  rw [calls_goto, if_pos rfl]

/-- A call has gone there, or is where it was. -/
theorem calls_goto_cases {m n : Nat} {op op' : Op} {pc pc' : Pc}
    (h : (s.goto n op pc).calls m = some ⟨op', pc'⟩) :
    m = n ∧ op = op' ∧ pc = pc' ∨ m ≠ n ∧ s.calls m = some ⟨op', pc'⟩ := by
  rw [calls_goto] at h
  split at h
  next heq => exact .inl ⟨heq, Call.mk.inj (Option.some.inj h)⟩
  next hne => exact .inr ⟨hne, h⟩

theorem calls_notifyDone (s : State) (n : Nat) :
    s.notifyDone.calls n = (s.calls n).map Call.wake := rfl

/-- A call that was not woken is where it was. -/
theorem calls_of_notifyDone {n : Nat} {op : Op} {pc : Pc} (hpc : pc ≠ .woken)
    (h : s.notifyDone.calls n = some ⟨op, pc⟩) : s.calls n = some ⟨op, pc⟩ := by
  obtain ⟨⟨op', pc'⟩, hcall, heq⟩ := Option.map_eq_some_iff.1 h
  cases pc' with
  | asleep => exact absurd (Call.mk.inj heq).2.symm hpc
  | _ => exact hcall.trans (congrArg some heq)

theorem wake_stopping (call : Call) : call.wake.stopping = call.stopping := by
  obtain ⟨op, pc⟩ := call
  cases pc <;> rfl

theorem wake_eq_joining {call : Call} {op : Op} {i m : Nat}
    (h : call.wake = ⟨op, .joining i m⟩) : call = ⟨op, .joining i m⟩ := by
  obtain ⟨op', pc⟩ := call
  cases pc with
  | asleep => cases h
  | _ => exact h

/-- What has set the flag had set it before. -/
theorem Stopping.of_calls (hs : Stopping s)
    (hcalls : ∀ n call, t.calls n = some call → call.stopping →
      ∃ old, s.calls n = some old ∧ old.stopping)
    (hstopped : s.core.stopped = true → t.core.stopped = true)
    (hjoin : ∀ n i m, t.calls n = some ⟨.stop, .joining i m⟩ →
      i ≤ m ∧ ∀ k < i, t.core.workers[k]? = some .gone) : Stopping t where
  stopped n call hn hcall := by
    obtain ⟨old, hold, hstop⟩ := hcalls n call hn hcall
    exact hstopped (hs.stopped n old hold hstop)
  unique n m call call' hn hm hcall hcall' := by
    obtain ⟨old, hold, hstop⟩ := hcalls n call hn hcall
    obtain ⟨old', hold', hstop'⟩ := hcalls m call' hm hcall'
    exact hs.unique n m old old' hold hold' hstop hstop'
  joined := hjoin

/-- A step of a call that has set the flag before, if it has after. -/
theorem Stopping.goto {u : State} {n : Nat} {op : Op} {pc : Pc} (hs : Stopping s)
    (hcalls : u.calls = s.calls) (hstopped : s.core.stopped = true → u.core.stopped = true)
    (hworkers : Extends s.core.workers u.core.workers)
    (hpc : Call.stopping ⟨op, pc⟩ → ∃ old, s.calls n = some old ∧ old.stopping)
    (hjoin : ∀ i m, (⟨op, pc⟩ : Call) = ⟨.stop, .joining i m⟩ →
      i ≤ m ∧ ∀ k < i, u.core.workers[k]? = some .gone) :
    Stopping (u.goto n op pc) := by
  refine hs.of_calls (fun m call hm hcall => ?_) hstopped fun m i k hm => ?_
  · rw [calls_goto, hcalls] at hm
    split at hm
    next heq =>
      subst heq
      exact hpc (Option.some.inj hm ▸ hcall)
    next => exact ⟨call, hm, hcall⟩
  · rw [calls_goto, hcalls] at hm
    split at hm
    next => exact hjoin i k (Option.some.inj hm)
    next =>
      obtain ⟨hik, hgone⟩ := hs.joined m i k hm
      exact ⟨hik, fun j hj => hworkers.gone j (hgone j hj)⟩

/-- A step of no call. -/
theorem Stopping.wake (hs : Stopping s)
    (hcalls : ∀ n call, t.calls n = some call →
      ∃ old, s.calls n = some old ∧ (call = old ∨ call = old.wake))
    (hstopped : s.core.stopped = true → t.core.stopped = true)
    (hworkers : Extends s.core.workers t.core.workers) : Stopping t := by
  refine hs.of_calls (fun n call hn hcall => ?_) hstopped fun m i k hm => ?_
  · obtain ⟨old, hold, rfl | rfl⟩ := hcalls n call hn
    · exact ⟨_, hold, hcall⟩
    · exact ⟨old, hold, wake_stopping old ▸ hcall⟩
  · obtain ⟨old, hold, heq⟩ := hcalls m _ hm
    obtain rfl : old = ⟨.stop, .joining i k⟩ :=
      heq.elim Eq.symm fun h => wake_eq_joining h.symm
    obtain ⟨hik, hgone⟩ := hs.joined m i k hold
    exact ⟨hik, fun j hj => hworkers.gone j (hgone j hj)⟩

theorem stopping_of_ne {op : Op} {pc : Pc} (h : op ≠ .stop) : ¬ Call.stopping ⟨op, pc⟩ := by
  simp [Call.stopping, h]

theorem ne_stop_of_submits {op : Op} (h : op.submits) : op ≠ .stop := by
  rintro rfl
  exact Bool.false_ne_true h

/-- Only a call of `stop` joins. -/
theorem Stopping.other {u : State} {n : Nat} {op : Op} {pc : Pc} (hs : Stopping s)
    (hop : op ≠ .stop) (hcalls : u.calls = s.calls)
    (hstopped : s.core.stopped = true → u.core.stopped = true)
    (hworkers : Extends s.core.workers u.core.workers) : Stopping (u.goto n op pc) :=
  hs.goto hcalls hstopped hworkers (fun h => absurd h (stopping_of_ne hop))
    fun _ _ h => absurd (Call.mk.inj h).1 hop

/-- The turns of `stop` -/
theorem Stopping.turn {n : Nat} {op : Op} {pc pc' : Pc} (hs : Stopping s)
    (hn : s.calls n = some ⟨op, pc⟩) (h : Turn cfg s.core n op pc pc') :
    Stopping (s.goto n op pc') := by
  by_cases hop : op = .stop
  · subst hop
    cases h with
    | abandon hop => exact absurd hop Bool.false_ne_true
    | throw hop => exact absurd hop Bool.false_ne_true
    | stopAgain => exact hs.goto rfl id .refl nofun nofun
    | startJoining =>
      refine hs.goto rfl id .refl (fun _ => ⟨_, hn, rfl⟩) fun i m heq => ?_
      obtain ⟨rfl, rfl⟩ := Pc.joining.inj (Call.mk.inj heq).2
      exact ⟨Nat.zero_le _, fun k hk => absurd hk (Nat.not_lt_zero k)⟩
    | @join i m hi hgone =>
      refine hs.goto rfl id .refl (fun _ => ⟨_, hn, rfl⟩) fun i' m' heq => ?_
      obtain ⟨rfl, rfl⟩ := Pc.joining.inj (Call.mk.inj heq).2
      refine ⟨hi, fun k hk => ?_⟩
      rcases Nat.lt_succ_iff_lt_or_eq.1 hk with hk | rfl
      · exact (hs.joined n i m hn).2 k hk
      · exact hgone
    | terminate => exact hs.goto rfl id .refl (fun _ => ⟨_, hn, rfl⟩) nofun
  · exact hs.other hop rfl id .refl

theorem Stopping.move (hs : Stopping s) (h : Move cfg s l t) : Stopping t := by
  rcases h.extends with ⟨n, i, m, hn, -, -, rfl⟩ | hworkers
  · refine hs.of_calls (fun k call hk hcall => ?_) id fun k i' m' hk => ?_
    · rw [calls_goto] at hk
      split at hk
      next heq => exact ⟨_, heq ▸ hn, rfl⟩
      next => exact ⟨call, hk, hcall⟩
    · rcases calls_goto_cases hk with ⟨-, -, hpc⟩ | ⟨hne, hk⟩
      · exact absurd hpc (by simp)
      · exact absurd (hs.unique k n _ _ hk hn rfl rfl) hne
  have hstopped := h.stopped
  have hsame : ∀ n call, s.calls n = some call →
      ∃ old, s.calls n = some old ∧ (call = old ∨ call = old.wake) :=
    fun _ call hn => ⟨call, hn, .inl rfl⟩
  have hwoken : ∀ n call, s.notifyDone.calls n = some call →
      ∃ old, s.calls n = some old ∧ (call = old ∨ call = old.wake) := by
    intro n call hn
    obtain ⟨old, hold, rfl⟩ := Option.map_eq_some_iff.1 hn
    exact ⟨old, hold, .inr rfl⟩
  cases h with
  | invoke hn =>
    refine hs.goto rfl id .refl (fun h => absurd h ?_) nofun
    simp [Call.stopping]
  | turn hn h => exact hs.turn hn h
  | hold hn _ h =>
    refine hs.other ?_ rfl id .refl
    rintro rfl
    cases h with
    | room hop => exact Bool.false_ne_true hop
  | sleep hn => exact hs.goto rfl id .refl (fun h => ⟨_, hn, h⟩) nofun
  | reject hn hop => exact hs.other (ne_stop_of_submits hop) rfl id .refl
  | push hn hop => exact hs.other (ne_stop_of_submits hop) rfl id hworkers
  | dropPush hn hop =>
    exact hs.other (ne_stop_of_submits (submits_of_enqueues hop)) rfl id hworkers
  | clear hn => exact hs.other (by simp) rfl id .refl
  | @flag n _ _ hn hfree hnew =>
    -- no call had set the flag before
    have hfirst : ∀ m call, s.calls m = some call → ¬ call.stopping := fun m call hm hcall =>
      Bool.false_ne_true (hnew.symm.trans (hs.stopped m call hm hcall))
    have honly : ∀ m call, (s.goto n .stop .flagged).calls m = some call → call.stopping →
        m = n := by
      intro m call hm hcall
      rw [calls_goto] at hm
      split at hm
      next heq => exact heq
      next => exact absurd hcall (hfirst m call hm)
    refine ⟨fun _ _ _ _ => rfl, fun k m _ _ hk hm hcall hcall' =>
      (honly k _ hk hcall).trans (honly m _ hm hcall').symm, fun m i k hm => ?_⟩
    obtain rfl := honly m _ hm rfl
    exact absurd (calls_inj (calls_goto_self s m .stop .flagged) hm).2 (by simp)
  | notifyTasks hn => exact hs.goto rfl id hworkers (fun _ => ⟨_, hn, rfl⟩) nofun
  | @notifyDone n _ _ hn =>
    have hsleepers : Stopping s.notifyDone := hs.wake hwoken id .refl
    have hcall : s.notifyDone.calls n = some ⟨.stop, .notifiedTasks⟩ := by
      simp [State.notifyDone, hn, Call.wake]
    exact hsleepers.goto rfl id .refl (fun _ => ⟨_, hcall, rfl⟩) nofun
  | clearWorkers hn => exact hs.goto rfl id hworkers (fun _ => ⟨_, hn, rfl⟩) nofun
  | notify hi => exact hs.wake hwoken id hworkers
  | wakeCall hn => exact hs.goto rfl id .refl (fun h => ⟨_, hn, h⟩) nofun
  | _ => exact hs.wake hsame id hworkers

theorem stopping_run {ls : List Label} {ok : State → Label → Prop}
    (h : Run (step cfg) ok (.start cfg) ls s) : Stopping s :=
  h.invariant stopping_start fun _ _ _ hs _ hstep => hs.move (step_move hstep)

/-- All workers have ended when the vector is cleared. -/
theorem Stopping.all_gone {n i m : Nat} (hs : Stopping s)
    (hn : s.calls n = some ⟨.stop, .joining i m⟩) (hi : ¬ i < m)
    (hm : s.core.workers.length = m) : ∀ w ∈ s.core.workers, w = .gone := by
  intro w hw
  obtain ⟨k, hk, rfl⟩ := List.getElem_of_mem hw
  obtain ⟨him, hgone⟩ := hs.joined n i m hn
  have hki : k < i := by omega
  exact Option.some.inj ((List.getElem?_eq_getElem hk).symm.trans (hgone k hki))

end ChatApp.ThreadPool
