/-
  The shutdown of a `DatabasePool` among the calls that use it and the thread that checks it. The
  first call of `shutdown` sets the flag, wakes all calls that wait, waits for the thread and clears
  the pool, in this order; other calls return at once. The thread tests the flag between its rounds,
  and the cleanup tests it again under the mutex.

  Once the flag is set no call gets a connection any more (`Closed`), and the call of `shutdown` comes
  to its end by its own steps and at most three of the thread (`Completes`). `init` does not look at
  the flag: it fills a pool again that has been cleared, and nobody gets what it makes.
-/
import ChatApp.DatabasePool.Waiting

namespace ChatApp.DatabasePool

open ChatApp.Lib

/-! ## Steps -/

/-- The call of `shutdown` that set the flag -/
inductive Stage
  /-- There is none. -/
  | running
  | flagged
  | notified
  | joined
  /-- It has returned; so many connections had been made. -/
  | cleared (made : Nat)

/-- `health_check_thread_`, in `health_check_loop` -/
inductive Health
  /-- It has not been started, or has been joined. -/
  | absent
  /-- at the head of the loop -/
  | testing
  | sleeping
  | woken
  /-- before `cleanup_idle_connections` -/
  | cleaning
  /-- before `get_stats` -/
  | reporting
  | ended

/-- `shutdown` does not wait for it. -/
def Health.Over : Health → Prop
  | .absent | .ended => True
  | _ => False

instance : (h : Health) → Decidable h.Over
  | .absent | .ended => inferInstanceAs (Decidable True)
  | .testing | .sleeping | .woken | .cleaning | .reporting => inferInstanceAs (Decidable False)

structure Lifetime where
  waits : Waits
  stage : Stage
  health : Health

/-- It belongs to a call of the pool's users. -/
def Move.byUser : Move → Bool
  | .act (.cleanup _) _ | .act .shutdown _ | .act .clear _ | .notifyAll => false
  | _ => true

inductive LifeStep
  | use (m : Move)
  /-- the next step of the thread -/
  | health (a : Answers)
  /-- the first critical section of any call of `shutdown` -/
  | shutdown
  | notifyAll
  | join
  | clear

namespace Lifetime

def start : Lifetime := ⟨.start, .running, .absent⟩

def isShutdown (s : Lifetime) : Bool := s.waits.pool.isShutdown

/-- A round of the thread -/
def stepHealth (cfg : PoolConfig) (s : Lifetime) (a : Answers) : Option Lifetime :=
  match s.health with
  | .absent | .ended => none
  | .testing => some { s with health := if s.isShutdown then .ended else .sleeping }
  | .sleeping => some { s with health := .woken }
  | .woken => some { s with health := if s.isShutdown then .ended else .cleaning }
  | .cleaning => (s.waits.step cfg (.act (.cleanup a) none)).map fun w =>
    { s with waits := w, health := .reporting }
  | .reporting => some { s with health := .testing }

/-- A critical section of a call. `init` starts the thread when it succeeds; the program ends where
    a thread takes the place of one that has not been joined. -/
def stepUse (cfg : PoolConfig) (s : Lifetime) (m : Move) : Option Lifetime :=
  (s.waits.step cfg m).bind fun w =>
    if s.waits.pool.initialized || !w.pool.initialized then some { s with waits := w }
    else match s.health with
      | .absent => some { s with waits := w, health := .testing }
      | _ => none

def step (cfg : PoolConfig) (s : Lifetime) : LifeStep → Option Lifetime
  | .use m => if m.byUser then s.stepUse cfg m else none
  | .health a => s.stepHealth cfg a
  | .shutdown =>
    if s.isShutdown then some s
    else (s.waits.step cfg (.act .shutdown none)).map fun w =>
      { s with waits := w, stage := .flagged }
  | .notifyAll =>
    match s.stage with
    | .flagged => (s.waits.step cfg .notifyAll).map fun w =>
      { s with waits := w, stage := .notified }
    | _ => none
  | .join =>
    match s.stage with
    | .notified =>
      if s.health.Over then some { s with stage := .joined, health := .absent } else none
    | _ => none
  | .clear =>
    match s.stage with
    | .joined => (s.waits.step cfg (.act .clear none)).map fun w =>
      { s with waits := w, stage := .cleared s.waits.pool.made }
    | _ => none

end Lifetime

/-! ## A pool that is shut down -/

/-- No connection is handed out and no call begins to wait, and what comes into the pool is new. -/
structure Closed (s t : Pool) : Prop where
  isShutdown : t.isShutdown = true
  held : t.held.Sublist s.held
  waiting : ∀ n ∈ t.waiting, n ∈ s.waiting
  made : s.made ≤ t.made
  idle : ∀ c ∈ t.idle, c ∈ s.idle ∨ s.made ≤ c
  all : ∀ c ∈ t.all, c ∈ s.all ∨ s.made ≤ c

section
variable {cfg : PoolConfig} {s t : Pool} {l : Label}

theorem Closed.refl (h : s.isShutdown = true) : Closed s s :=
  ⟨h, .refl _, fun _ => id, Nat.le_refl _, fun _ => .inl, fun _ => .inl⟩

theorem Closed.trans {u : Pool} (h : Closed s t) (h' : Closed t u) : Closed s u where
  isShutdown := h'.isShutdown
  held := h'.held.trans h.held
  waiting n hn := h.waiting n (h'.waiting n hn)
  made := Nat.le_trans h.made h'.made
  idle c hc := (h'.idle c hc).elim (h.idle c) fun hnew => .inr (Nat.le_trans h.made hnew)
  all c hc := (h'.all c hc).elim (h.all c) fun hnew => .inr (Nat.le_trans h.made hnew)

theorem createInitial_all {a : Answers} {k : Nat} :
    ∀ c ∈ (Pool.createInitial a k s).all, c ∈ s.all ∨ s.made ≤ c := by
  induction k generalizing s with
  | zero => exact fun _ => .inl
  | succ k ih =>
    rw [Pool.createInitial]
    intro c hc
    rcases hcreate : s.createConnection a with ⟨o, t⟩
    obtain ⟨hall, hmade, -⟩ := Pool.createConnection_eqs hcreate
    rw [hcreate] at hc
    cases o with
    | none =>
      rcases ih c hc with hold | hnew
      · exact .inl (hall ▸ hold)
      · exact .inr (by omega)
    | some d =>
      have hd : s.made ≤ d := by
        unfold Pool.createConnection at hcreate
        split at hcreate
        · obtain rfl := Option.some.inj (congrArg Prod.fst hcreate)
          exact Nat.le_refl _
        · exact absurd (congrArg Prod.fst hcreate).symm (Option.some_ne_none d)
      rcases ih c hc with hold | hnew
      · rcases List.mem_append.1 hold with hold | hlast
        · exact .inl (hall ▸ hold)
        · exact .inr (List.mem_singleton.1 hlast ▸ hd)
      · have hadd : (t.add d).made = t.made := rfl
        exact .inr (by omega)

theorem closed_init {a : Answers} (hs : s.isShutdown = true) : Closed s (s.init cfg a).2 := by
  have hkept : Pool.Upkept s (s.init cfg a).2 := Pool.init_upkept
  refine ⟨hkept.isShutdown.trans hs, hkept.held ▸ .refl _, fun n hn => hkept.waiting ▸ hn,
    hkept.made, fun c hc => (hkept.idle c hc).imp_right And.left, ?_⟩
  unfold Pool.init
  split
  · exact fun _ => .inl
  split
  · exact fun _ => .inl
  dsimp only
  split
  · exact createInitial_all
  · exact createInitial_all

/-- What a critical section does to a pool that is shut down. -/
theorem closed_step (h : step cfg s l = some t) (hs : s.isShutdown = true) : Closed s t := by
  cases l with
  | init a =>
    obtain rfl := Option.some.inj h
    exact closed_init hs
  | acquire n a =>
    obtain rfl := Option.some.inj h
    rw [Pool.acquire, if_pos hs]
    exact .refl hs
  | resume n a =>
    obtain ⟨-, h⟩ := Option.ite_none_right_eq_some.1 h
    obtain rfl := Option.some.inj h
    unfold Pool.resume
    dsimp only
    rw [if_pos hs]
    exact { Closed.refl hs with waiting := fun m hm => List.mem_of_mem_erase hm }
  | timeOut n =>
    obtain ⟨-, h⟩ := Option.ite_none_right_eq_some.1 h
    obtain rfl := Option.some.inj h
    exact { Closed.refl hs with waiting := fun m hm => List.mem_of_mem_erase hm }
  | tryAcquire n a =>
    obtain rfl := Option.some.inj h
    rw [Pool.tryAcquire, if_pos hs]
    exact .refl hs
  | release n c a =>
    obtain ⟨-, h⟩ := Option.ite_none_right_eq_some.1 h
    obtain rfl := Option.some.inj h
    unfold Pool.release
    dsimp only
    rw [if_pos hs]
    exact { Closed.refl hs with held := List.erase_sublist }
  | cleanup a =>
    obtain rfl := Option.some.inj h
    rw [Pool.cleanupIdleConnections, if_pos hs]
    exact .refl hs
  | shutdown =>
    obtain rfl := Option.some.inj h
    exact { Closed.refl hs with isShutdown := rfl }
  | clear =>
    obtain ⟨-, h⟩ := Option.ite_none_right_eq_some.1 h
    obtain rfl := Option.some.inj h
    exact { Closed.refl hs with
      idle := fun c hc => absurd hc List.not_mem_nil
      all := fun c hc => absurd hc List.not_mem_nil }

end

/-! ## Steps of a lifetime -/

section
variable {cfg : PoolConfig} {s t : Lifetime} {w : Waits} {m : Move} {l : LifeStep}
  {ls ms : List LifeStep}

theorem closed_move (hs : s.waits.pool.isShutdown = true) (h : s.waits.step cfg m = some w) :
    Closed s.waits.pool w.pool := by
  cases m with
  | act l woken => exact closed_step (act_step h).2.1 hs
  | notifyAll =>
    obtain ⟨-, h⟩ := Option.ite_none_right_eq_some.1 h
    obtain rfl := Option.some.inj h
    exact .refl hs

/-- What a step can do. -/
inductive Effect (cfg : PoolConfig) (s : Lifetime) : Lifetime → Prop
  | use {m : Move} {w : Waits} {health : Health} : m.byUser = true →
      s.waits.step cfg m = some w → health = s.health ∨ health = .testing →
      Effect cfg s ⟨w, s.stage, health⟩
  /-- The thread tests the flag, sleeps, or goes on. -/
  | thread {health : Health} : ¬ s.health.Over →
      (s.isShutdown = true → s.health = .testing → health = .ended) →
      Effect cfg s ⟨s.waits, s.stage, health⟩
  | cleanup {a : Answers} {w : Waits} : s.health = .cleaning →
      s.waits.step cfg (.act (.cleanup a) none) = some w →
      Effect cfg s ⟨w, s.stage, .reporting⟩
  | none : Effect cfg s s
  | flag {w : Waits} : s.isShutdown = false →
      s.waits.step cfg (.act .shutdown none) = some w → Effect cfg s ⟨w, .flagged, s.health⟩
  | notifyAll {w : Waits} : s.stage = .flagged → s.waits.step cfg .notifyAll = some w →
      Effect cfg s ⟨w, .notified, s.health⟩
  | join : s.stage = .notified → Effect cfg s ⟨s.waits, .joined, .absent⟩
  | clear {w : Waits} : s.stage = .joined → s.waits.step cfg (.act .clear none) = some w →
      Effect cfg s ⟨w, .cleared s.waits.pool.made, s.health⟩

theorem stepHealth_effect {a : Answers} (h : s.stepHealth cfg a = some t) : Effect cfg s t := by
  obtain ⟨waits, stage, health⟩ := s
  cases health with
  | absent => exact absurd h.symm (Option.some_ne_none t)
  | ended => exact absurd h.symm (Option.some_ne_none t)
  | testing =>
    obtain rfl := Option.some.inj h
    exact .thread id fun hs _ => if_pos hs
  | sleeping =>
    obtain rfl := Option.some.inj h
    exact .thread id fun _ heq => Health.noConfusion heq
  | woken =>
    obtain rfl := Option.some.inj h
    exact .thread id fun _ heq => Health.noConfusion heq
  | cleaning =>
    unfold Lifetime.stepHealth at h
    dsimp only at h
    obtain ⟨w, hw, rfl⟩ := Option.map_eq_some_iff.1 h
    exact .cleanup rfl hw
  | reporting =>
    obtain rfl := Option.some.inj h
    exact .thread id fun _ heq => Health.noConfusion heq

theorem lifeStep_effect (h : s.step cfg l = some t) : Effect cfg s t := by
  cases l with
  | use m =>
    obtain ⟨hm, h⟩ := Option.ite_none_right_eq_some.1 h
    unfold Lifetime.stepUse at h
    obtain ⟨w, hw, h⟩ := Option.bind_eq_some_iff.1 h
    split at h
    · exact Option.some.inj h ▸ .use hm hw (.inl rfl)
    · split at h
      · exact Option.some.inj h ▸ .use hm hw (.inr rfl)
      · exact absurd h.symm (Option.some_ne_none t)
  | health a => exact stepHealth_effect h
  | shutdown =>
    rw [Lifetime.step] at h
    split at h
    · exact Option.some.inj h ▸ .none
    next hopen =>
      obtain ⟨w, hw, rfl⟩ := Option.map_eq_some_iff.1 h
      exact .flag (Bool.eq_false_iff.2 hopen) hw
  | notifyAll =>
    simp only [Lifetime.step] at h
    split at h
    next hstage =>
      obtain ⟨w, hw, rfl⟩ := Option.map_eq_some_iff.1 h
      exact .notifyAll hstage hw
    next => exact absurd h.symm (Option.some_ne_none t)
  | join =>
    simp only [Lifetime.step] at h
    split at h
    next hstage =>
      obtain ⟨-, h⟩ := Option.ite_none_right_eq_some.1 h
      exact Option.some.inj h ▸ .join hstage
    next => exact absurd h.symm (Option.some_ne_none t)
  | clear =>
    simp only [Lifetime.step] at h
    split at h
    next hstage =>
      obtain ⟨w, hw, rfl⟩ := Option.map_eq_some_iff.1 h
      exact .clear hstage hw
    next => exact absurd h.symm (Option.some_ne_none t)

/-- Once the flag is set, every step finds it. -/
theorem Effect.closed (h : Effect cfg s t) (hs : s.isShutdown = true) :
    Closed s.waits.pool t.waits.pool := by
  cases h with
  | use hm hw hhealth => exact closed_move hs hw
  | thread hover hhealth => exact .refl hs
  | cleanup hhealth hw => exact closed_move hs hw
  | none => exact .refl hs
  | flag hopen hw => exact absurd (hs.symm.trans hopen) (by decide)
  | notifyAll hstage hw => exact closed_move hs hw
  | join hstage => exact .refl hs
  | clear hstage hw => exact closed_move hs hw

theorem closed_run (hs : s.isShutdown = true) (h : Run (Lifetime.step cfg) anyStep s ms t) :
    Closed s.waits.pool t.waits.pool :=
  h.invariant (I := fun t => Closed s.waits.pool t.waits.pool) (.refl hs)
    fun _ _ _ hclosed _ hstep =>
      hclosed.trans ((lifeStep_effect hstep).closed hclosed.isShutdown)

/-! ## What holds in every state -/

/-- After the join the thread does no more than find the flag, and after the end of the shutdown the
    pool has only what `init` has made since. -/
def Stage.Ok (s : Lifetime) : Stage → Prop
  | .running => s.isShutdown = false
  | .flagged => s.isShutdown = true
  | .notified => s.isShutdown = true ∧ s.waits.AllNotified
  | .joined => s.isShutdown = true ∧ s.waits.AllNotified ∧
      (s.health.Over ∨ s.health = .testing)
  | .cleared made => s.isShutdown = true ∧ s.waits.AllNotified ∧
      (s.health.Over ∨ s.health = .testing) ∧ made ≤ s.waits.pool.made ∧
      (∀ c ∈ s.waits.pool.idle, made ≤ c) ∧ ∀ c ∈ s.waits.pool.all, made ≤ c

/-- A look at the pool adds its call to those that wait, or none. -/
theorem queue_acquireLoop {p : Pool} {a : Answers} {n : Nat} (h : p.waiting.Nodup)
    (hn : n ∉ p.waiting) : (p.acquireLoop cfg a n).waiting.Nodup ∧
      (p.acquireLoop cfg a n).isShutdown = p.isShutdown := by
  have hlooked : Pool.Looked cfg p (p.acquireLoop cfg a n) n := Pool.looked_acquireLoop
  refine ⟨?_, hlooked.isShutdown⟩
  rcases hlooked.outcome with ⟨-, hwaiting, -⟩ | ⟨c, -, hwaiting, -⟩
  · exact hwaiting ▸ Pool.nodup_snoc h hn
  · exact hwaiting ▸ h

/-- A call waits in one place, and only `shutdown` sets the flag. -/
theorem queue_move (hnodup : s.waits.pool.waiting.Nodup) (h : s.waits.step cfg m = some w) :
    w.pool.waiting.Nodup ∧
      (w.pool.isShutdown = s.waits.pool.isShutdown ∨ ∃ woken, m = .act .shutdown woken) := by
  cases m with
  | notifyAll =>
    obtain ⟨-, h⟩ := Option.ite_none_right_eq_some.1 h
    obtain rfl := Option.some.inj h
    exact ⟨hnodup, .inl rfl⟩
  | act l woken =>
    obtain ⟨henabled, hp, -⟩ := act_step h
    cases l with
    | init a =>
      have hkept : Pool.Upkept s.waits.pool (s.waits.pool.init cfg a).2 := Pool.init_upkept
      rw [← Option.some.inj hp, hkept.waiting]
      exact ⟨hnodup, .inl hkept.isShutdown⟩
    | acquire n a =>
      rw [← Option.some.inj hp, Pool.acquire]
      split
      · exact ⟨hnodup, .inl rfl⟩
      · exact (queue_acquireLoop hnodup henabled).imp_right .inl
    | resume n a =>
      obtain ⟨-, hp⟩ := Option.ite_none_right_eq_some.1 hp
      rw [← Option.some.inj hp]
      unfold Pool.resume
      dsimp only
      split
      · exact ⟨hnodup.erase n, .inl rfl⟩
      · exact (queue_acquireLoop (hnodup.erase n) hnodup.not_mem_erase).imp_right .inl
    | timeOut n =>
      obtain ⟨-, hp⟩ := Option.ite_none_right_eq_some.1 hp
      rw [← Option.some.inj hp]
      exact ⟨hnodup.erase n, .inl rfl⟩
    | tryAcquire n a =>
      rw [← Option.some.inj hp, (tryAcquire_spec cfg a n _).1]
      refine ⟨hnodup, .inl ?_⟩
      unfold Pool.tryAcquire
      split
      · rfl
      · split
        · rfl
        · split <;> rfl
    | release n c a =>
      obtain ⟨-, hp⟩ := Option.ite_none_right_eq_some.1 hp
      rw [← Option.some.inj hp]
      unfold Pool.release
      dsimp only
      split
      · exact ⟨hnodup, .inl rfl⟩
      · split <;> exact ⟨hnodup, .inl rfl⟩
    | cleanup a =>
      have hkept : Pool.Upkept s.waits.pool (s.waits.pool.cleanupIdleConnections cfg a) :=
        Pool.cleanup_upkept
      rw [← Option.some.inj hp, hkept.waiting]
      exact ⟨hnodup, .inl hkept.isShutdown⟩
    | shutdown =>
      rw [← Option.some.inj hp]
      exact ⟨hnodup, .inr ⟨woken, rfl⟩⟩
    | clear =>
      obtain ⟨-, hp⟩ := Option.ite_none_right_eq_some.1 hp
      rw [← Option.some.inj hp]
      exact ⟨hnodup, .inl rfl⟩

/-- In a pool that is shut down, a call that waits and is notified stays so until it returns. -/
theorem allNotified_move (hnodup : s.waits.pool.waiting.Nodup)
    (hs : s.waits.pool.isShutdown = true) (hall : s.waits.AllNotified)
    (h : s.waits.step cfg m = some w) : w.AllNotified := by
  cases m with
  | notifyAll =>
    obtain ⟨-, h⟩ := Option.ite_none_right_eq_some.1 h
    obtain rfl := Option.some.inj h
    exact fun n hn => hn
  | act l woken =>
    obtain ⟨-, hp, hns⟩ := act_step h
    have hclosed := closed_step hp hs
    -- what returns leaves both lists
    have hreturns : ∀ k, w.pool.waiting = s.waits.pool.waiting.erase k →
        w.notified = s.waits.notified.erase k → w.AllNotified := by
      intro k hwaiting hnotified n hn
      rw [hwaiting, hnodup.mem_erase_iff] at hn
      rw [hnotified]
      exact (List.mem_erase_of_ne hn.1).2 (hall n hn.2)
    have hother : w.notified = s.waits.notified → w.AllNotified := fun hnotified n hn =>
      hnotified ▸ hall n (hclosed.waiting n hn)
    cases l with
    | resume k a =>
      refine hreturns k ?_ (Option.some.inj hns).symm
      obtain ⟨-, hp⟩ := Option.ite_none_right_eq_some.1 hp
      rw [← Option.some.inj hp]
      unfold Pool.resume
      dsimp only
      rw [if_pos hs]
    | timeOut k =>
      refine hreturns k ?_ (Option.some.inj hns).symm
      obtain ⟨-, hp⟩ := Option.ite_none_right_eq_some.1 hp
      rw [← Option.some.inj hp]
      rfl
    | release k c a =>
      have hns : (if s.waits.pool.isShutdown = false ∧ a.valid c = true then
          if s.waits.Chooses woken then some (s.waits.notified ++ woken.toList) else none
          else some s.waits.notified) = some w.notified := hns
      rw [if_neg fun hopen => Bool.false_ne_true (hopen.1.symm.trans hs)] at hns
      exact hother (Option.some.inj hns).symm
    | _ => exact hother (Option.some.inj hns).symm

structure Orderly (s : Lifetime) : Prop where
  waiting : s.waits.pool.waiting.Nodup
  stage : s.stage.Ok s

theorem orderly_start : Orderly .start := ⟨List.nodup_nil, rfl⟩

/-- A critical section of the users or of the thread, in each stage -/
theorem ok_move {health : Health} (h : Orderly s)
    (hm : m.byUser = true ∨ ∃ a, m = .act (.cleanup a) none) (hw : s.waits.step cfg m = some w)
    (hhealth : s.health.Over ∨ s.health = .testing → health.Over ∨ health = .testing) :
    s.stage.Ok ⟨w, s.stage, health⟩ := by
  have hstage := h.stage
  cases heq : s.stage with
  | running =>
    rw [heq] at hstage
    rcases (queue_move h.waiting hw).2 with hflag | ⟨woken, rfl⟩
    · exact hflag.trans hstage
    · rcases hm with hm | ⟨a, hm⟩
      · exact absurd hm Bool.false_ne_true
      · exact absurd hm fun heq => by cases heq
  | flagged =>
    rw [heq] at hstage
    exact (closed_move hstage hw).isShutdown
  | notified =>
    rw [heq] at hstage
    obtain ⟨hs, hall⟩ := hstage
    exact ⟨(closed_move hs hw).isShutdown, allNotified_move h.waiting hs hall hw⟩
  | joined =>
    rw [heq] at hstage
    obtain ⟨hs, hall, hover⟩ := hstage
    exact ⟨(closed_move hs hw).isShutdown, allNotified_move h.waiting hs hall hw, hhealth hover⟩
  | cleared made =>
    rw [heq] at hstage
    obtain ⟨hs, hall, hover, hmade, hidle, hvector⟩ := hstage
    have hclosed := closed_move hs hw
    refine ⟨hclosed.isShutdown, allNotified_move h.waiting hs hall hw, hhealth hover,
      Nat.le_trans hmade hclosed.made, fun c hc => ?_, fun c hc => ?_⟩
    · exact (hclosed.idle c hc).elim (hidle c) (Nat.le_trans hmade)
    · exact (hclosed.all c hc).elim (hvector c) (Nat.le_trans hmade)

/-- A step of the thread alone -/
theorem ok_thread {health : Health} (h : s.stage.Ok s) (hover : ¬ s.health.Over)
    (hhealth : s.isShutdown = true → s.health = .testing → health = .ended) :
    s.stage.Ok ⟨s.waits, s.stage, health⟩ := by
  -- after the join only the test of the flag is left
  have hended : s.isShutdown = true → s.health.Over ∨ s.health = .testing →
      health.Over ∨ health = .testing := by
    intro hs htesting
    rw [hhealth hs (htesting.resolve_left hover)]
    exact .inl trivial
  cases heq : s.stage with
  | running =>
    rw [heq] at h
    exact h
  | flagged =>
    rw [heq] at h
    exact h
  | notified =>
    rw [heq] at h
    exact h
  | joined =>
    rw [heq] at h
    exact ⟨h.1, h.2.1, hended h.1 h.2.2⟩
  | cleared made =>
    rw [heq] at h
    exact ⟨h.1, h.2.1, hended h.1 h.2.2.1, h.2.2.2⟩

theorem Effect.orderly (he : Effect cfg s t) (h : Orderly s) : Orderly t := by
  cases he with
  | use hm hw hhealth =>
    refine ⟨(queue_move h.waiting hw).1, ok_move h (.inl hm) hw fun hover => ?_⟩
    rcases hhealth with rfl | rfl
    · exact hover
    · exact .inr rfl
  | thread hover hhealth => exact ⟨h.waiting, ok_thread h.stage hover hhealth⟩
  | cleanup hhealth hw =>
    refine ⟨(queue_move h.waiting hw).1, ok_move h (.inr ⟨_, rfl⟩) hw fun hover => ?_⟩
    rw [hhealth] at hover
    rcases hover with hover | hover
    · exact absurd hover id
    · exact Health.noConfusion hover
  | none => exact h
  | @flag w hopen hw =>
    have hflag : w.pool.isShutdown = true := by
      rw [← Option.some.inj (act_step hw).2.1]
    exact ⟨(queue_move h.waiting hw).1, hflag⟩
  | notifyAll hstage hw =>
    have hnodup := (queue_move h.waiting hw).1
    obtain ⟨hs, hw⟩ := Option.ite_none_right_eq_some.1 hw
    obtain rfl := Option.some.inj hw
    exact ⟨hnodup, hs, fun n hn => hn⟩
  | join hstage =>
    have hok := h.stage
    rw [hstage] at hok
    exact ⟨h.waiting, hok.1, hok.2, .inl trivial⟩
  | clear hstage hw =>
    have hok := h.stage
    rw [hstage] at hok
    obtain ⟨hs, hall, hover⟩ := hok
    have hmove := allNotified_move h.waiting hs hall hw
    refine ⟨(queue_move h.waiting hw).1, (closed_move hs hw).isShutdown, hmove, hover, ?_⟩
    obtain ⟨-, hp⟩ := Option.ite_none_right_eq_some.1 (act_step hw).2.1
    rw [← Option.some.inj hp]
    exact ⟨Nat.le_refl _, fun c hc => absurd hc List.not_mem_nil,
      fun c hc => absurd hc List.not_mem_nil⟩

theorem orderly_run (h : Run (Lifetime.step cfg) anyStep .start ls s) : Orderly s :=
  h.invariant orderly_start fun _ _ _ ho _ hs => (lifeStep_effect hs).orderly ho

/-! ## The end of the shutdown -/

/-- It belongs to the call of `shutdown` that set the flag, or to the thread. -/
def LifeStep.byShutdown : LifeStep → Prop
  | .health _ | .notifyAll | .join | .clear => True
  | _ => False

/-- A critical section that is enabled is a step. -/
theorem act_done {v : Waits} {k : Label} {woken : Option Nat} {p : Pool} {ns : List Nat}
    (hk : v.Enabled k) (hp : step cfg v.pool k = some p) (hns : v.notify woken k = some ns) :
    v.step cfg (.act k woken) = some ⟨p, ns⟩ := by
  simp only [Waits.step, if_pos hk, hp, Option.bind_some, hns, Option.map_some]

/-- The thread finds the flag after three steps at most, which leave the pool as it is. -/
theorem thread_ends (a : Answers) (hs : s.isShutdown = true) :
    ∃ n ≤ 3, ∃ health : Health, health.Over ∧
      exec (Lifetime.step cfg) s (List.replicate n (.health a)) =
        some ⟨s.waits, s.stage, health⟩ := by
  obtain ⟨waits, stage, health⟩ := s
  have hs : waits.pool.isShutdown = true := hs
  have hcleanup : waits.step cfg (.act (.cleanup a) none) = some waits := by
    have hsame : waits.pool.cleanupIdleConnections cfg a = waits.pool := by
      rw [Pool.cleanupIdleConnections, if_pos hs]
    refine act_done trivial ?_ rfl
    exact congrArg some hsame
  have htesting : (Lifetime.mk waits stage .testing).stepHealth cfg a =
      some ⟨waits, stage, .ended⟩ := by
    unfold Lifetime.stepHealth
    exact congrArg some (congrArg (Lifetime.mk waits stage) (if_pos hs))
  have hwoken : (Lifetime.mk waits stage .woken).stepHealth cfg a =
      some ⟨waits, stage, .ended⟩ := by
    unfold Lifetime.stepHealth
    exact congrArg some (congrArg (Lifetime.mk waits stage) (if_pos hs))
  have hcleaning : (Lifetime.mk waits stage .cleaning).stepHealth cfg a =
      some ⟨waits, stage, .reporting⟩ := by
    unfold Lifetime.stepHealth
    dsimp only
    rw [hcleanup]
    rfl
  cases health with
  | absent => exact ⟨0, by omega, .absent, trivial, rfl⟩
  | ended => exact ⟨0, by omega, .ended, trivial, rfl⟩
  | testing =>
    refine ⟨1, by omega, .ended, trivial, ?_⟩
    show ((Lifetime.mk waits stage .testing).stepHealth cfg a).bind _ = _
    rw [htesting]
    rfl
  | woken =>
    refine ⟨1, by omega, .ended, trivial, ?_⟩
    show ((Lifetime.mk waits stage .woken).stepHealth cfg a).bind _ = _
    rw [hwoken]
    rfl
  | sleeping =>
    refine ⟨2, by omega, .ended, trivial, ?_⟩
    show ((Lifetime.mk waits stage .woken).stepHealth cfg a).bind _ = _
    rw [hwoken]
    rfl
  | reporting =>
    refine ⟨2, by omega, .ended, trivial, ?_⟩
    show ((Lifetime.mk waits stage .testing).stepHealth cfg a).bind _ = _
    rw [htesting]
    rfl
  | cleaning =>
    refine ⟨3, by omega, .ended, trivial, ?_⟩
    show ((Lifetime.mk waits stage .cleaning).stepHealth cfg a).bind _ = _
    rw [hcleaning]
    show ((Lifetime.mk waits stage .testing).stepHealth cfg a).bind _ = _
    rw [htesting]
    rfl

/-- In at most `k` such steps the call of `shutdown` returns. -/
def Completes (cfg : PoolConfig) (s : Lifetime) (k : Nat) : Prop :=
  ∃ ms : List LifeStep, ms.length ≤ k ∧ (∀ m ∈ ms, m.byShutdown) ∧
    ∃ t made, exec (Lifetime.step cfg) s ms = some t ∧ t.stage = .cleared made

theorem Completes.after {k : Nat} (ht : Completes cfg t k)
    (h : exec (Lifetime.step cfg) s ls = some t) (hls : ∀ l ∈ ls, l.byShutdown) :
    Completes cfg s (ls.length + k) := by
  obtain ⟨ms, hlength, hms, u, made, hu, hmade⟩ := ht
  refine ⟨ls ++ ms, ?_, fun m hm => (List.mem_append.1 hm).elim (hls m) (hms m), u, made, ?_, hmade⟩
  · rw [List.length_append]
    omega
  · rw [exec_append, h]
    exact hu

theorem Completes.next {k : Nat} (ht : Completes cfg t k) (h : s.step cfg l = some t)
    (hl : l.byShutdown) : Completes cfg s (k + 1) := by
  have hexec : exec (Lifetime.step cfg) s [l] = some t := by
    rw [exec_cons, h]
    rfl
  have hdone := ht.after hexec fun m hm => List.mem_singleton.1 hm ▸ hl
  rw [List.length_singleton, Nat.add_comm] at hdone
  exact hdone

theorem Completes.mono {k k' : Nat} (h : Completes cfg s k) (hk : k ≤ k') : Completes cfg s k' := by
  obtain ⟨ms, hlength, hrest⟩ := h
  exact ⟨ms, Nat.le_trans hlength hk, hrest⟩

theorem completes_joined (hs : s.isShutdown = true) (hstage : s.stage = .joined) :
    Completes cfg s 1 := by
  obtain ⟨waits, stage, health⟩ := s
  have hs : waits.pool.isShutdown = true := hs
  obtain rfl : stage = .joined := hstage
  refine ⟨[.clear], Nat.le_refl _, fun m hm => List.mem_singleton.1 hm ▸ trivial,
    ⟨⟨{ waits.pool with idle := [], all := [], initialized := false }, waits.notified⟩,
      .cleared waits.pool.made, health⟩, waits.pool.made, ?_, rfl⟩
  have hclear : waits.step cfg (.act .clear none) =
      some ⟨{ waits.pool with idle := [], all := [], initialized := false }, waits.notified⟩ :=
    act_done trivial (if_pos hs) rfl
  rw [exec_cons, Lifetime.step]
  dsimp only
  rw [hclear]
  rfl

theorem completes_notified (a : Answers) (hs : s.isShutdown = true) (hstage : s.stage = .notified) :
    Completes cfg s 5 := by
  obtain ⟨n, hn, health, hover, hends⟩ : ∃ n ≤ 3, ∃ health : Health, health.Over ∧
      exec (Lifetime.step cfg) s (List.replicate n (.health a)) =
        some ⟨s.waits, s.stage, health⟩ := thread_ends a hs
  have hjoin : (Lifetime.mk s.waits s.stage health).step cfg .join =
      some ⟨s.waits, .joined, .absent⟩ := by
    rw [hstage]
    exact if_pos hover
  have hjoined : Completes cfg ⟨s.waits, .joined, .absent⟩ 1 := completes_joined hs rfl
  have hended : Completes cfg ⟨s.waits, s.stage, health⟩ 2 := hjoined.next hjoin trivial
  have hdone := hended.after hends fun l hl => List.eq_of_mem_replicate hl ▸ trivial
  refine hdone.mono ?_
  rw [List.length_replicate]
  omega

theorem completes_flagged (a : Answers) (hs : s.isShutdown = true) (hstage : s.stage = .flagged) :
    Completes cfg s 6 := by
  have hnotify : s.step cfg .notifyAll =
      some ⟨⟨s.waits.pool, s.waits.pool.waiting⟩, .notified, s.health⟩ := by
    have hwaits : s.waits.step cfg .notifyAll = some ⟨s.waits.pool, s.waits.pool.waiting⟩ :=
      if_pos hs
    rw [Lifetime.step]
    simp only [hstage, hwaits, Option.map_some]
  have hnotified : Completes cfg ⟨⟨s.waits.pool, s.waits.pool.waiting⟩, .notified, s.health⟩ 5 :=
    completes_notified a hs rfl
  exact hnotified.next hnotify trivial

/-- From every state in which the flag is set: the stages of the shutdown keep their order among all
    other steps, nobody gets a connection any more, and the call of `shutdown` returns. -/
theorem shutdown_final (a : Answers) (h : Run (Lifetime.step cfg) anyStep .start ls s)
    (hs : s.isShutdown = true) :
    s.stage.Ok s ∧
    (∀ ms t, Run (Lifetime.step cfg) anyStep s ms t → Closed s.waits.pool t.waits.pool) ∧
    Completes cfg s 6 := by
  have hstage := (orderly_run h).stage
  refine ⟨hstage, fun ms t => closed_run hs, ?_⟩
  cases heq : s.stage with
  | running =>
    rw [heq] at hstage
    exact absurd (hs.symm.trans hstage) (by decide)
  | flagged => exact completes_flagged a hs heq
  | notified => exact (completes_notified a hs heq).mono (by omega)
  | joined => exact (completes_joined hs heq).mono (by omega)
  | cleared made =>
    exact ⟨[], Nat.zero_le _, fun m hm => absurd hm List.not_mem_nil, s, made, rfl, heq⟩

end

/-- The pool is shut down while one call has its connection and another waits for it. -/
def shutInUse : List LifeStep :=
  [.use (.act (.init reachable) none), .use (.act (.acquire 0 reachable) none),
    .use (.act (.acquire 1 reachable) none), .health reachable, .health reachable, .shutdown]

theorem shutdown_final_inUse :
    ∃ s, Run (Lifetime.step oneConnection) anyStep .start shutInUse s ∧
      s.waits.pool.waiting = [1] ∧ Completes oneConnection s 6 := by
  have hrun : Run (Lifetime.step oneConnection) anyStep .start shutInUse _ := exec_run rfl
  exact ⟨_, hrun, rfl, (shutdown_final reachable hrun rfl).2.2⟩

end ChatApp.DatabasePool
