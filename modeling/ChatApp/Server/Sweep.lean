/-
  What the heartbeat sweep does in every run of the server. As long as `remove_session` is never
  called for an authenticated session, no method faults, the sweep is never stuck and each of its
  steps takes it nearer to the end, and it removes what it collected. The first call that breaks
  the condition locks `sessions_mutex_` twice, and the sweep never ends.
-/
import ChatApp.Server.Heartbeat

namespace ChatApp.Server

open ChatApp.Lib

namespace World

variable {cfg : Config} {w w' t : World} {l : Step} {α : Type}

/-! ## No fault -/

/-- No method has faulted, and the mutex is free between the steps. -/
structure Free (w : World) : Prop where
  no_fault : w.fault = none
  unlocked : w.server.locked = false

theorem free_init (cfg : Config) : Free (init cfg) := ⟨rfl, rfl⟩

theorem after_ok {r : EStateM.Result Fault ServerState α} {k : World → α → World} {a : α}
    {s : ServerState} (h : r = .ok a s) : w.after r k = k { w with server := s } a := by
  rw [h]
  rfl

theorem after_error {r : EStateM.Result Fault ServerState α} {k : World → α → World} {f : Fault}
    {s : ServerState} (h : r = .error f s) :
    w.after r k = { w with server := s, fault := some f } := by
  rw [h]
  rfl

/-- A handler's step does not fault where it is enabled, and leaves the lock as it is. -/
theorem quiet_task {held : Bool} {k : Task} (h : (k.locks && held) = false) :
    Quiet held k.run := by
  cases k with
  | addSession x =>
    obtain rfl : held = false := h
    exact quiet_addSession x
  | doAccept => exact quiet_doAccept
  | loginUserId x userId => exact quiet_modify fun _ => rfl
  | loginAuthenticated x userId => exact quiet_modify fun _ => rfl
  | loginOnline x userId =>
    obtain rfl : held = false := h
    exact quiet_setUserOnline userId x
  | logoutAuthenticated x => exact quiet_modify fun _ => rfl
  | logoutClose x => exact quiet_closeSession x

theorem quiet_looksUp {m : Method} (h : m.looksUp = true) : Quiet false (m.run cfg) := by
  refine quiet_run cfg fun x hx => ?_
  rw [hx] at h
  cases h

theorem handleMessage_server (w : World) (x : SessionId) (m : Message) :
    (w.handleMessage x m).server =
      w.server.modifySession x fun d => { d with lastHeartbeat := w.server.now } := by
  cases m with
  | login userId => rfl
  | logout =>
    simp only [handleMessage]
    split <;> rfl
  | other => rfl

theorem handleMessage_frame (w : World) (x : SessionId) (m : Message) :
    (w.handleMessage x m).fault = w.fault ∧ (w.handleMessage x m).sweep = w.sweep := by
  cases m with
  | login userId => exact ⟨rfl, rfl⟩
  | logout =>
    simp only [handleMessage]
    split <;> exact ⟨rfl, rfl⟩
  | other => exact ⟨rfl, rfl⟩

/-- What the steps outside the sweep leave as it is. -/
structure Aside (w t : World) : Prop where
  fault : t.fault = w.fault
  locked : t.server.locked = w.server.locked
  sweep : t.sweep = w.sweep

/-- A quiet method after which only the running handlers change. -/
theorem aside_after {m : ServerM α} {k : World → α → World} (hm : Quiet w.server.locked m)
    (hk : ∀ w a, (k w a).fault = w.fault ∧ (k w a).server = w.server ∧ (k w a).sweep = w.sweep) :
    Aside w (w.after (m w.server) k) := by
  obtain ⟨a, s, hs, hl⟩ := hm w.server rfl
  rw [after_ok hs]
  obtain ⟨hf, hv, hw⟩ := hk { w with server := s } a
  exact ⟨hf, by rw [hv]; exact hl, hw⟩

theorem aside_step (hl : l ≠ .sweep) (ht : l ≠ .tick) (hs : step cfg w l = some t) :
    Aside w t := by
  cases l with
  | advance d =>
    cases hs
    exact ⟨rfl, rfl, rfl⟩
  | accept =>
    obtain ⟨x, -, rfl⟩ := Option.map_eq_some_iff.1 hs
    exact ⟨rfl, rfl, rfl⟩
  | acceptFailed =>
    obtain ⟨x, -, rfl⟩ := Option.map_eq_some_iff.1 hs
    exact ⟨rfl, rfl, rfl⟩
  | message x m =>
    simp only [step, Option.ite_none_right_eq_some, Option.some.injEq] at hs
    obtain ⟨-, rfl⟩ := hs
    obtain ⟨hf, hw⟩ := handleMessage_frame w x m
    exact ⟨hf, by rw [handleMessage_server]; rfl, hw⟩
  | task i =>
    obtain ⟨k, -, hs⟩ := Option.bind_eq_some_iff.1 hs
    simp only [Option.ite_none_left_eq_some, Option.some.injEq, Bool.not_eq_true] at hs
    obtain ⟨hk, rfl⟩ := hs
    exact aside_after (quiet_task hk) fun _ _ => ⟨rfl, rfl, rfl⟩
  | call m =>
    simp only [step, Option.ite_none_right_eq_some, Option.some.injEq, Bool.and_eq_true,
      Bool.not_eq_true'] at hs
    obtain ⟨⟨hm, hlock⟩, rfl⟩ := hs
    exact aside_after (hlock ▸ quiet_looksUp hm) fun _ _ => ⟨rfl, rfl, rfl⟩
  | close x =>
    cases hs
    exact aside_after (quiet_closeSession x) fun _ _ => ⟨rfl, rfl, rfl⟩
  | tick => exact absurd rfl ht
  | sweep => exact absurd rfl hl

theorem step_tick (hs : step cfg w .tick = some t) :
    w.sweep = .waiting ∧ w.timer ≤ w.server.now ∧
      t = { w with sweep := .collecting w.server.now } := by
  simp only [step, Option.ite_none_right_eq_some, Option.some.injEq] at hs
  exact ⟨hs.1.1, hs.1.2, hs.2.symm⟩

/-! ## The steps of the sweep -/

/-- The sessions of the table whose last heartbeat is more than two timeouts old at `now`. -/
def timedOutAt (cfg : Config) (w : World) (now : Int) : List SessionId :=
  w.server.sessions.values.filter fun x =>
    decide (elapsed now (w.server.session x) > cfg.heartbeatTimeout * 2)

theorem step_collecting {now : Int} (h : Free w) (hs : w.sweep = .collecting now) :
    step cfg w .sweep = some { w with sweep := .closing (timedOutAt cfg w now) } := by
  have hr : collectTimedOut cfg now w.server = .ok (timedOutAt cfg w now) w.server := by
    rw [collectTimedOut, lockGuard_free h.unlocked]
    obtain ⟨server, timer, tasks, sweep, fault⟩ := w
    obtain ⟨sessions, tempId, locked, rest⟩ := server
    obtain rfl : locked = false := h.unlocked
    rfl
  simp only [step, hs, h.unlocked, Bool.false_eq_true, if_false, after_ok hr]

/-- `session->close()` -/
theorem step_closing {x : SessionId} {todo : List SessionId} (hs : w.sweep = .closing (x :: todo)) :
    step cfg w .sweep = some { w with
      server := w.server.modifySession x fun d => { d with isOpen := false }
      sweep := .removing x todo } := by
  simp only [step, hs]
  rfl

/-- The end of the handler, which arms the timer again. -/
theorem step_closing_nil (hs : w.sweep = .closing []) :
    step cfg w .sweep = some { w with sweep := .waiting, timer := nextTick cfg w.server.now } := by
  simp only [step, hs]

/-- `remove_session(session)` -/
theorem step_removing {x : SessionId} {todo : List SessionId} (h : Free w)
    (hs : w.sweep = .removing x todo) :
    step cfg w .sweep = some (w.after (removeSession x w.server)
      fun w _ => { w with sweep := .closing todo }) := by
  simp [step, hs, h.unlocked]

/-- How many steps the sweep still takes; not known before it has collected. -/
def left : Sweep → WithTop Nat
  | .waiting => WithTop.some 0
  | .collecting _ => ⊤
  | .closing todo => WithTop.some (2 * todo.length + 1)
  | .removing _ todo => WithTop.some (2 * todo.length + 2)

/-- The table after the next step of the sweep: `remove_session(x)` erases one entry of `x`, if
    there is one. -/
def swept (w : World) : List (Nat × SessionId) :=
  match w.sweep with
  | .removing x _ => w.table.eraseP (·.2 = x)
  | _ => w.table

/-- The stage of the sweep after its next step. -/
def nextSweep (cfg : Config) (w : World) : Sweep :=
  match w.sweep with
  | .waiting => .waiting
  | .collecting now => .closing (timedOutAt cfg w now)
  | .closing [] => .waiting
  | .closing (x :: todo) => .removing x todo
  | .removing _ todo => .closing todo

/-- The heartbeats and logins of all sessions are the same. -/
def SameSessions (w t : World) : Prop :=
  ∀ x, (t.server.session x).authenticated = (w.server.session x).authenticated ∧
    (t.server.session x).lastHeartbeat = (w.server.session x).lastHeartbeat

/-- What a step of the sweep does when it does not fault. -/
structure Swept (cfg : Config) (w t : World) : Prop where
  free : Free t
  sweep : t.sweep = nextSweep cfg w
  table : t.table = w.swept
  sessions : SameSessions w t

/-- A running sweep can take its next step, and it does not fault. -/
theorem swept_step (cfg : Config) (h : Free w) (hok : RemovesAnonymous w .sweep)
    (hs : w.sweep ≠ .waiting) :
    ∃ t, step cfg w .sweep = some t ∧ Swept cfg w t := by
  cases hsw : w.sweep with
  | waiting => exact absurd hsw hs
  | collecting now =>
    exact ⟨_, step_collecting h hsw, ⟨h.no_fault, h.unlocked⟩, by rw [nextSweep, hsw],
      by rw [swept, hsw]; rfl, fun _ => ⟨rfl, rfl⟩⟩
  | closing todo =>
    cases todo with
    | nil =>
      exact ⟨_, step_closing_nil hsw, ⟨h.no_fault, h.unlocked⟩, by rw [nextSweep, hsw],
        by rw [swept, hsw]; rfl, fun _ => ⟨rfl, rfl⟩⟩
    | cons x todo =>
      refine ⟨_, step_closing hsw, ⟨h.no_fault, h.unlocked⟩, by rw [nextSweep, hsw],
        by rw [swept, hsw]; rfl, fun y => ?_⟩
      by_cases hy : y = x
      · subst hy
        simp [ServerState.modifySession]
      · simp [ServerState.modifySession, hy]
  | removing x todo =>
    obtain ⟨s, hr, hl, hsess, -, hent⟩ := removeSession_anonymous h.unlocked (hok x todo hsw)
    refine ⟨_, step_removing h hsw, ?_⟩
    rw [after_ok hr]
    exact ⟨⟨h.no_fault, hl⟩, by rw [nextSweep, hsw], by rw [swept, hsw]; exact hent,
      fun y => by simp only [hsess, and_self]⟩

/-- Every step of a running sweep takes it nearer to its end. -/
theorem left_nextSweep (hs : w.sweep ≠ .waiting) : left (nextSweep cfg w) < left w.sweep := by
  cases hsw : w.sweep with
  | waiting => exact absurd hsw hs
  | collecting now =>
    rw [nextSweep, hsw]
    exact WithTop.coe_lt_top _
  | closing todo =>
    cases todo with
    | nil =>
      rw [nextSweep, hsw]
      exact WithTop.coe_lt_coe.2 (by simp)
    | cons x todo =>
      rw [nextSweep, hsw]
      exact WithTop.coe_lt_coe.2 (by simp only [List.length_cons]; omega)
  | removing x todo =>
    rw [nextSweep, hsw]
    exact WithTop.coe_lt_coe.2 (by omega)

theorem sweep_not_waiting (hs : step cfg w .sweep = some t) : w.sweep ≠ .waiting := by
  intro hw
  simp [step, hw] at hs

theorem closing_running {todo : List SessionId} : Sweep.closing todo ≠ .waiting :=
  fun h => by cases h

theorem removing_running {x : SessionId} {todo : List SessionId} :
    Sweep.removing x todo ≠ .waiting :=
  fun h => by cases h

theorem ok_closing {todo : List SessionId} (hs : w.sweep = .closing todo) :
    RemovesAnonymous w .sweep := by
  intro x ys h
  rw [hs] at h
  cases h

theorem ok_removing {x : SessionId} {todo : List SessionId} (hs : w.sweep = .removing x todo)
    (h : ¬ OnlineIn w.server x) : RemovesAnonymous w .sweep := by
  intro y ys hy
  rw [hs] at hy
  cases hy
  exact h

/-! ## Runs that meet the condition -/

theorem free_step (h : Free w) (hok : RemovesAnonymous w l) (hs : step cfg w l = some t) :
    Free t := by
  by_cases hl : l = .sweep
  · subst hl
    obtain ⟨u, hu, hsw⟩ := swept_step cfg h hok (sweep_not_waiting hs)
    obtain rfl : u = t := Option.some.inj (hu.symm.trans hs)
    exact hsw.free
  by_cases ht : l = .tick
  · subst ht
    obtain ⟨-, -, rfl⟩ := step_tick hs
    exact ⟨h.no_fault, h.unlocked⟩
  have := aside_step hl ht hs
  exact ⟨this.fault.trans h.no_fault, this.locked.trans h.unlocked⟩

theorem free_run {ls : List Step} (h : Run (step cfg) RemovesAnonymous (init cfg) ls w) :
    Free w :=
  h.invariant (free_init cfg) fun _ _ _ => free_step

/-! ## The first step that breaks the condition -/

/-- The thread of the sweep waits for the mutex it holds. -/
structure Stuck (w : World) : Prop where
  fault : w.fault = some .selfDeadlock
  locked : w.server.locked = true
  removing : ∃ x todo, w.sweep = .removing x todo

/-- `remove_session` of an authenticated session gets the sweep stuck. -/
theorem stuck_of_online (cfg : Config) {x : SessionId} {todo : List SessionId} (h : Free w)
    (hs : w.sweep = .removing x todo) (ho : OnlineIn w.server x) :
    ∃ t, step cfg w .sweep = some t ∧ Stuck t := by
  refine ⟨_, step_removing h hs, ?_⟩
  rw [after_error (removeSession_online h.unlocked ho)]
  exact ⟨rfl, rfl, x, todo, hs⟩

theorem stuck_of_not_ok (h : Free w) (hok : ¬ RemovesAnonymous w l)
    (hs : step cfg w l = some t) : Stuck t := by
  cases l with
  | sweep =>
    simp only [RemovesAnonymous, not_forall, not_not] at hok
    obtain ⟨x, todo, hsw, ho⟩ := hok
    obtain ⟨u, hu, hst⟩ := stuck_of_online cfg h hsw ho
    obtain rfl : u = t := Option.some.inj (hu.symm.trans hs)
    exact hst
  | _ => exact absurd trivial hok

theorem stuck_step (h : Stuck w) (hs : step cfg w l = some t) : Stuck t ∧ t.sweep = w.sweep := by
  obtain ⟨x, todo, hr⟩ := h.removing
  by_cases hl : l = .sweep
  · subst hl
    simp [step, hr, h.locked] at hs
  by_cases ht : l = .tick
  · subst ht
    obtain ⟨hw, -⟩ := step_tick hs
    rw [hr] at hw
    cases hw
  have := aside_step hl ht hs
  exact ⟨⟨this.fault.trans h.fault, this.locked.trans h.locked, x, todo, this.sweep.trans hr⟩,
    this.sweep⟩

/-- A stuck sweep never takes another step. -/
theorem stuck_run {ls : List Step} (h : Stuck w) (hr : Run (step cfg) anyStep w ls t) :
    Stuck t ∧ t.sweep = w.sweep :=
  hr.invariant (I := fun t => Stuck t ∧ t.sweep = w.sweep) ⟨h, rfl⟩ fun _ _ _ hI _ hs =>
    ⟨(stuck_step hI.1 hs).1, (stuck_step hI.1 hs).2.trans hI.2⟩

/-! ## A whole check -/

/-- Erasing the first entry that satisfies `q`, when the first entry that satisfies the weaker
    `p` does. -/
theorem eraseP_of_head {ε : Type} {p q : ε → Bool} (hqp : ∀ e, q e = true → p e = true)
    {es rest : List ε} {e : ε} (hp : es.filter p = e :: rest) (he : q e = true) :
    (es.eraseP q).filter p = rest ∧
      (es.eraseP q).filter (fun e => !p e) = es.filter fun e => !p e := by
  induction es with
  | nil => cases hp
  | cons d es ih =>
    by_cases hd : p d = true
    · rw [List.filter_cons_of_pos hd] at hp
      obtain ⟨rfl, rfl⟩ := List.cons.inj hp
      rw [List.eraseP_cons_of_pos he, List.filter_cons_of_neg (by simpa using hd)]
      exact ⟨rfl, rfl⟩
    · have hq : ¬ q d = true := fun h => hd (hqp d h)
      rw [List.filter_cons_of_neg hd] at hp
      rw [List.eraseP_cons_of_neg hq, List.filter_cons_of_neg hd,
        List.filter_cons_of_pos (by simpa using hd), List.filter_cons_of_pos (by simpa using hd)]
      exact ⟨(ih hp).1, by rw [(ih hp).2]⟩

/-- The table after `remove_session` was called for each of `todo`. -/
def eraseAll (todo : List SessionId) (es : List (Nat × SessionId)) : List (Nat × SessionId) :=
  todo.foldl (fun es x => es.eraseP (·.2 = x)) es

/-- Removing the sessions of a kind, one entry for each, leaves the entries of the others. -/
theorem eraseAll_filter (p : SessionId → Bool) {todo : List SessionId}
    {es : List (Nat × SessionId)} (h : (es.filter fun e => p e.2).map (·.2) = todo) :
    eraseAll todo es = es.filter fun e => !p e.2 := by
  induction todo generalizing es with
  | nil =>
    have : ∀ e ∈ es, ¬ p e.2 = true := List.filter_eq_nil_iff.1 (List.map_eq_nil_iff.1 h)
    exact (List.filter_eq_self.2 fun e he => by simpa using this e he).symm
  | cons x todo ih =>
    obtain ⟨e, rest, hf, rfl, hrest⟩ := List.map_eq_cons_iff.1 h
    have hpe : p e.2 = true :=
      (List.mem_filter.1 (hf ▸ List.mem_cons_self : e ∈ es.filter fun e => p e.2)).2
    have hq : ∀ d : Nat × SessionId, decide (d.2 = e.2) = true → p d.2 = true := by
      intro d hd
      rw [of_decide_eq_true hd]
      exact hpe
    obtain ⟨h1, h2⟩ := eraseP_of_head hq hf (by simp)
    exact (ih (by rw [h1]; exact hrest)).trans h2

/-- No session of `todo` is authenticated: the sweep runs to its end. -/
theorem sweep_finishes (cfg : Config) {todo : List SessionId} (h : Free w)
    (hs : w.sweep = .closing todo)
    (hauth : ∀ x ∈ todo, (w.server.session x).authenticated = false) :
    ∃ t, exec (step cfg) w (List.replicate (2 * todo.length + 1) .sweep) = some t ∧
      t.sweep = .waiting ∧ Free t ∧ t.table = eraseAll todo w.table := by
  induction todo generalizing w with
  | nil =>
    refine ⟨{ w with sweep := .waiting, timer := nextTick cfg w.server.now }, ?_, rfl,
      ⟨h.no_fault, h.unlocked⟩, rfl⟩
    show exec (step cfg) w [.sweep] = _
    rw [exec_cons, step_closing_nil hs, Option.bind_some, exec_nil]
  | cons x todo ih =>
    obtain ⟨u, hu, hU⟩ := swept_step cfg h (ok_closing hs) (by rw [hs]; exact closing_running)
    have hus : u.sweep = .removing x todo := by rw [hU.sweep, nextSweep, hs]
    have hux : (u.server.session x).authenticated = false :=
      (hU.sessions x).1.trans (hauth x List.mem_cons_self)
    obtain ⟨v, hv, hV⟩ := swept_step cfg hU.free
      (ok_removing hus fun ho => Bool.false_ne_true (hux.symm.trans ho.2))
      (by rw [hus]; exact removing_running)
    have hvs : v.sweep = .closing todo := by rw [hV.sweep, nextSweep, hus]
    have hvt : v.table = w.table.eraseP (·.2 = x) := by
      rw [hV.table, swept, hus, hU.table, swept, hs]
    obtain ⟨t, ht, htw, htf, htt⟩ := ih hV.free hvs fun y hy =>
      ((hV.sessions y).1.trans (hU.sessions y).1).trans (hauth y (List.mem_cons_of_mem _ hy))
    refine ⟨t, ?_, htw, htf, by rw [htt, hvt]; rfl⟩
    rw [show 2 * (x :: todo).length + 1 = (2 * todo.length + 1) + 1 + 1 by
      rw [List.length_cons]; omega, List.replicate_succ, List.replicate_succ, exec_cons, hu,
      Option.bind_some, exec_cons, hv, Option.bind_some, ht]

/-- The sweep still has to remove an authenticated session of the table, or is stuck. -/
inductive Doomed (w : World) : Prop
  | stuck (h : Stuck w)
  | closing {todo : List SessionId} {x : SessionId} (h : Free w) (hs : w.sweep = .closing todo)
      (hx : x ∈ todo) (ho : OnlineIn w.server x)
  | removing {todo : List SessionId} {x y : SessionId} (h : Free w)
      (hs : w.sweep = .removing y todo) (hx : x ∈ y :: todo) (ho : OnlineIn w.server x)

theorem Doomed.not_waiting (h : Doomed w) : w.sweep ≠ .waiting := by
  intro hw
  cases h with
  | stuck h =>
    obtain ⟨x, todo, hr⟩ := h.removing
    cases hw.symm.trans hr
  | closing h hs => cases hw.symm.trans hs
  | removing h hs => cases hw.symm.trans hs

theorem onlineIn_of_swept {x : SessionId} (h : Swept cfg w t) (ho : OnlineIn w.server x)
    (hx : ∀ todo, w.sweep ≠ .removing x todo) : OnlineIn t.server x := by
  refine ⟨?_, (h.sessions x).1.trans ho.2⟩
  have hm : x ∈ w.table.map (·.2) := ho.1
  show x ∈ t.table.map (·.2)
  rw [h.table, swept]
  split
  case h_2 => exact hm
  case h_1 y todo hs =>
    obtain ⟨e, he, rfl⟩ := List.mem_map.1 hm
    refine List.mem_map.2 ⟨e, (List.mem_eraseP_of_neg ?_).2 he, rfl⟩
    intro hy
    rw [of_decide_eq_true hy] at hx
    exact hx todo hs

theorem doomed_step (h : Doomed w) (hs : step cfg w .sweep = some t) : Doomed t := by
  cases h with
  | stuck h => exact .stuck (stuck_step h hs).1
  | closing h hsw hx ho =>
    obtain ⟨u, hu, hU⟩ := swept_step cfg h (ok_closing hsw) (by rw [hsw]; exact closing_running)
    obtain rfl : u = t := Option.some.inj (hu.symm.trans hs)
    rename_i todo x
    cases todo with
    | nil => cases hx
    | cons y todo =>
      exact .removing hU.free (by rw [hU.sweep, nextSweep, hsw]) hx
        (onlineIn_of_swept hU ho fun ys hy => by rw [hsw] at hy; cases hy)
  | removing h hsw hx ho =>
    rename_i todo x y
    by_cases hy : OnlineIn w.server y
    · obtain ⟨u, hu, hst⟩ := stuck_of_online cfg h hsw hy
      obtain rfl : u = t := Option.some.inj (hu.symm.trans hs)
      exact .stuck hst
    · obtain ⟨u, hu, hU⟩ := swept_step cfg h (ok_removing hsw hy)
        (by rw [hsw]; exact removing_running)
      obtain rfl : u = t := Option.some.inj (hu.symm.trans hs)
      have hne : x ≠ y := fun he => hy (he ▸ ho)
      refine .closing hU.free (by rw [hU.sweep, nextSweep, hsw])
        ((List.mem_cons.1 hx).resolve_left hne) (onlineIn_of_swept hU ho fun ys hz => ?_)
      rw [hsw] at hz
      cases hz
      exact hne rfl

theorem doomed_exec {n : Nat} (h : Doomed w)
    (hs : exec (step cfg) w (List.replicate n .sweep) = some t) : Doomed t := by
  induction n generalizing w with
  | zero => exact Option.some.inj hs ▸ h
  | succ n ih =>
    rw [List.replicate_succ, exec_cons] at hs
    obtain ⟨u, hu, hs⟩ := Option.bind_eq_some_iff.1 hs
    exact ih (doomed_step h hu) hs

/-- Undisturbed by other threads, the check ends and leaves the table with the entries that were
    not timed out. -/
def TickClears (cfg : Config) (w : World) : Prop :=
  ∃ n t, exec (step cfg) w (.tick :: List.replicate n .sweep) = some t ∧ t.sweep = .waiting ∧
    t.fault = none ∧ t.table = w.table.filter fun e => decide (¬ TimedOut cfg w e.2)

theorem mem_timedOutAt {now : Int} {x : SessionId} :
    x ∈ timedOutAt cfg w now ↔ x ∈ w.server.sessions.values ∧
      elapsed now (w.server.session x) > cfg.heartbeatTimeout * 2 := by
  simp [timedOutAt]

/-- The first two steps of a check. -/
theorem exec_tick (h : Free w) (hw : w.sweep = .waiting) (hn : w.timer ≤ w.server.now) {n : Nat} :
    exec (step cfg) w (.tick :: List.replicate (n + 1) .sweep) =
      exec (step cfg) { w with sweep := .closing (timedOutAt cfg w w.server.now) }
        (List.replicate n .sweep) := by
  have hcol : Free { w with sweep := .collecting w.server.now } := ⟨h.no_fault, h.unlocked⟩
  rw [exec_cons, step, if_pos ⟨hw, hn⟩, Option.bind_some, List.replicate_succ, exec_cons,
    step_collecting hcol rfl, Option.bind_some]
  rfl

theorem tickClears_iff (h : Free w) (hw : w.sweep = .waiting) (hn : w.timer ≤ w.server.now) :
    TickClears cfg w ↔ ∀ x ∈ w.server.sessions.values, TimedOut cfg w x →
      (w.server.session x).authenticated = false := by
  constructor
  · rintro ⟨n, t, ht, htw, -⟩ x hx hto
    by_contra hauth
    cases n with
    | zero =>
      rw [exec_cons, step, if_pos ⟨hw, hn⟩] at ht
      obtain rfl := Option.some.inj ht
      cases htw
    | succ n =>
      rw [exec_tick h hw hn] at ht
      have hd : Doomed { w with sweep := .closing (timedOutAt cfg w w.server.now) } :=
        .closing ⟨h.no_fault, h.unlocked⟩ rfl (mem_timedOutAt.2 ⟨hx, hto⟩)
          ⟨hx, by simpa using hauth⟩
      exact (doomed_exec hd ht).not_waiting htw
  · intro hauth
    obtain ⟨t, ht, htw, htf, htt⟩ := sweep_finishes cfg
      (w := { w with sweep := .closing (timedOutAt cfg w w.server.now) })
      ⟨h.no_fault, h.unlocked⟩ rfl fun x hx =>
        hauth x (mem_timedOutAt.1 hx).1 (mem_timedOutAt.1 hx).2
    refine ⟨_, t, (exec_tick h hw hn).trans ht, htw, htf.no_fault, htt.trans ?_⟩
    refine (eraseAll_filter (fun x => decide (TimedOut cfg w x)) ?_).trans ?_
    · rw [timedOutAt, SortedMap.values, List.filter_map]
      rfl
    · simp only [decide_not]
      rfl

/-! ## The result -/

/-- No method has faulted and the mutex is free. A running sweep can go on; its next step, if it
    meets the condition, takes it nearer to its end and removes from the table one entry of the
    session it is at, and nothing else. Steps of other threads leave the sweep where it is. -/
structure Sound (cfg : Config) (w : World) : Prop where
  free : Free w
  goes_on : w.sweep ≠ .waiting → RemovesAnonymous w .sweep →
    ∃ t, step cfg w .sweep = some t ∧ left t.sweep < left w.sweep ∧ t.table = w.swept
  undisturbed : ∀ l t, l ≠ .sweep → l ≠ .tick → step cfg w l = some t → t.sweep = w.sweep

theorem Free.sound (h : Free w) : Sound cfg w := by
  refine ⟨h, fun hs hok => ?_, fun l t hl ht hs => (aside_step hl ht hs).sweep⟩
  obtain ⟨t, ht, hS⟩ := swept_step cfg h hok hs
  exact ⟨t, ht, hS.sweep ▸ left_nextSweep hs, hS.table⟩

end World

end ChatApp.Server
