/-
  Whether an active user can be reached. `is_user_active(u)` looks the session of `u` up and
  compares its last heartbeat with the clock; it looks neither at `authenticated_` nor at the
  socket. A session enters the table at a login and leaves it only through the heartbeat check,
  so a logout, a closed socket or a lost peer leaves an entry that counts as active until the
  heartbeat is too old.

  `users` are the ids of the users table. The condition on a run (`KeepsLive`) says of every
  step that touches a session registered for a user, or that registers one, that the session is
  then inactive or logged in as that user on an open socket. It is exact: a step against it leads
  to a state in which an active user's session is not.
-/
import ChatApp.Server.Registry

namespace ChatApp.Server

open ChatApp.Lib

variable {cfg : Config} {users : Nat → Prop} {s s' : ServerState} {x : SessionId} {u : Nat}

/-- The session is logged in as `u` on an open socket. -/
def SessionData.LiveAs (d : SessionData) (u : Nat) : Prop :=
  d.authenticated = true ∧ d.userId = u ∧ d.isOpen = true

instance (d : SessionData) : Decidable (d.LiveAs u) := inferInstanceAs (Decidable (_ ∧ _ ∧ _))

/-- The last heartbeat of `x` is not older than the timeout. -/
def ServerState.Active (cfg : Config) (s : ServerState) (x : SessionId) : Prop :=
  elapsed s.now (s.session x) ≤ cfg.heartbeatTimeout

instance : Decidable (s.Active cfg x) := inferInstanceAs (Decidable (_ ≤ _))

/-- The routing of a message to one receiver in `handle_group_message`; the result says that it
    goes to the push path. `handle_private_message` routes alike, and pushes in both cases. -/
def routeMessage (cfg : Config) (userId : Nat) : ServerM Bool := do
  if ← isUserActive cfg userId then
    sendToUser userId
    return false
  else return true

/-- What the condition asks of an event. An entry counts if its key is the id of a user. -/
def Event.KeepsLive (cfg : Config) (users : Nat → Prop) (s : ServerState) : Event → Prop
  | .heartbeat x => 0 ≤ cfg.heartbeatTimeout →
    ∀ e ∈ s.sessions.entries, users e.1 → e.2 = x → (s.session x).LiveAs e.1
  | .setUserId x u => s.Active cfg x →
    ∀ e ∈ s.sessions.entries, users e.1 → e.2 = x → e.1 = u
  | .setAuthenticated x false | .close x =>
    ∀ e ∈ s.sessions.entries, users e.1 → e.2 = x → ¬ s.Active cfg x
  | .addSession x => users s.nextTempId → s.Active cfg x → (s.session x).LiveAs s.nextTempId
  | .setUserOnline x u => users u → s.Active cfg x → (s.session x).LiveAs u
  | _ => True

instance [DecidablePred users] : DecidablePred (Event.KeepsLive cfg users s)
  | .heartbeat _ | .setUserId .. | .addSession _ | .setUserOnline .. =>
    inferInstanceAs (Decidable (_ → _))
  | .setAuthenticated x false | .close x =>
    inferInstanceAs (Decidable (∀ e ∈ s.sessions.entries, users e.1 → e.2 = x → ¬ s.Active cfg x))
  | .quiet | .advance _ | .construct | .start _ | .setAuthenticated _ true | .removeSession _ =>
    .isTrue trivial

/-- Every active session registered for a user is logged in as that user on an open socket. -/
def LiveTable (cfg : Config) (users : Nat → Prop) (s : ServerState) : Prop :=
  ∀ u x, users u → s.sessions.get? u = some x → s.Active cfg x → (s.session x).LiveAs u

/-! ## The events -/

theorem elapsed_mono {now : Int} {d : SessionData} (n : Nat) :
    elapsed now d ≤ elapsed (now + n) d := by
  unfold elapsed
  exact Int.tdiv_le_tdiv (by decide) (by omega)

/-- An event that changes only the session `x`. -/
theorem liveTable_session (h : LiveTable cfg users s) (htab : s'.sessions = s.sessions)
    (hnow : s'.now = s.now) (hne : ∀ y, y ≠ x → s'.session y = s.session y) :
    LiveTable cfg users s' ↔ ∀ e ∈ s.sessions.entries, users e.1 → e.2 = x →
      s'.Active cfg x → (s'.session x).LiveAs e.1 := by
  constructor
  · rintro hs ⟨u, y⟩ he hu rfl ha
    exact hs u y hu (by rw [htab]; exact SortedMap.get?_eq_some.2 he) ha
  · intro hx u y hu hy ha
    rw [htab] at hy
    by_cases hyx : y = x
    · subst hyx
      exact hx (u, y) (SortedMap.get?_eq_some.1 hy) hu rfl ha
    · rw [hne y hyx]
      rw [ServerState.Active, hnow, hne y hyx] at ha
      exact h u y hu hy ha

/-- An event that registers the session `x` under `n`. -/
theorem liveTable_insert {m : SortedMap Nat SessionId} {n : Nat} (h : LiveTable cfg users s)
    (hm : ∀ u y, m.get? u = some y → s.sessions.get? u = some y)
    (htab : s'.sessions = m.insert n x) (hnow : s'.now = s.now)
    (hses : ∀ y, s'.session y = s.session y) :
    LiveTable cfg users s' ↔ (users n → s.Active cfg x → (s.session x).LiveAs n) := by
  have hact : ∀ y, s'.Active cfg y ↔ s.Active cfg y := fun y => by
    rw [ServerState.Active, hnow, hses, ServerState.Active]
  constructor
  · intro hs hu ha
    rw [← hses]
    exact hs n x hu (by rw [htab]; exact SortedMap.get?_insert_eq_some.2 (.inl ⟨rfl, rfl⟩))
      ((hact x).2 ha)
  · intro hx u y hu hy ha
    rw [hses]
    rw [hact] at ha
    rw [htab] at hy
    rcases SortedMap.get?_insert_eq_some.1 hy with ⟨rfl, rfl⟩ | ⟨-, hy⟩
    · exact hx hu ha
    · exact h u y hu (hm u y hy) ha

/-- What is registered stays as it is. -/
theorem liveTable_kept (h : LiveTable cfg users s)
    (htab : ∀ u y, s'.sessions.get? u = some y → s.sessions.get? u = some y)
    (hses : ∀ u y, s.sessions.get? u = some y → s'.Active cfg y → s.Active cfg y ∧
      ∀ u, (s.session y).LiveAs u → (s'.session y).LiveAs u) : LiveTable cfg users s' := by
  intro u y hu hy ha
  obtain ⟨hact, hlive⟩ := hses u y (htab u y hy) ha
  exact hlive u (h u y hu (htab u y hy) hact)

theorem liveTable_event {e : Event} (h : LiveTable cfg users s)
    (hfresh : ∀ y ∈ s.sessions.values, y < s.created) (he : After s e s') :
    LiveTable cfg users s' ↔ e.KeepsLive cfg users s := by
  obtain ⟨-, htab, hses, hnow, -⟩ := he
  -- the session an event changes, and the others
  have hown : ∀ {x : SessionId} {d : SessionId → SessionData},
      (∀ y, e.session s y = if y = x then d y else s.session y) →
      s'.session x = d x ∧ ∀ y, y ≠ x → s'.session y = s.session y := fun hd =>
    ⟨(hses _).trans ((hd _).trans (if_pos rfl)), fun y hy =>
      (hses y).trans ((hd y).trans (if_neg hy))⟩
  cases e with
  | quiet =>
    refine iff_of_true (liveTable_kept h (by simp [htab, Event.sessions]) fun u y _ ha => ?_)
      trivial
    rw [ServerState.Active, hnow, hses] at ha
    exact ⟨ha, fun _ hl => by rwa [hses]⟩
  | advance d =>
    refine iff_of_true (liveTable_kept h (by simp [htab, Event.sessions]) fun u y _ ha => ?_)
      trivial
    rw [ServerState.Active, hnow, hses] at ha
    exact ⟨le_trans (elapsed_mono d) ha, fun _ hl => by rwa [hses]⟩
  | construct =>
    obtain ⟨-, hne⟩ := hown (fun _ => rfl)
    refine iff_of_true (liveTable_kept h (by simp [htab, Event.sessions]) fun u y hy ha => ?_)
      trivial
    have hlt := hne y (ne_of_lt (hfresh y (SortedMap.mem_values.2 ⟨u, hy⟩)))
    rw [ServerState.Active, hnow, hlt] at ha
    exact ⟨ha, fun _ hl => by rwa [hlt]⟩
  | start x =>
    obtain ⟨hx, hne⟩ := hown (fun _ => rfl)
    refine iff_of_true (liveTable_kept h (by simp [htab, Event.sessions]) fun u y _ ha => ?_)
      trivial
    rw [ServerState.Active, hnow] at ha
    by_cases hyx : y = x
    · subst hyx
      rw [hx] at ha ⊢
      exact ⟨ha, fun _ hl => hl⟩
    · rw [hne y hyx] at ha ⊢
      exact ⟨ha, fun _ hl => hl⟩
  | heartbeat x =>
    obtain ⟨hx, hne⟩ := hown (fun _ => rfl)
    rw [liveTable_session h htab hnow hne]
    have hact : s'.Active cfg x ↔ 0 ≤ cfg.heartbeatTimeout := by
      rw [ServerState.Active, hnow, hx]
      simp [elapsed, Event.now]
    rw [hact, hx]
    exact ⟨fun hs h0 e he hu hex => hs e he hu hex h0, fun hs e he hu hex h0 => hs h0 e he hu hex⟩
  | setUserId x v =>
    obtain ⟨hx, hne⟩ := hown (fun _ => rfl)
    rw [liveTable_session h htab hnow hne]
    have hact : s'.Active cfg x ↔ s.Active cfg x := by rw [ServerState.Active, hnow, hx]; rfl
    rw [hact, hx]
    constructor
    · exact fun hs ha e he hu hex => (hs e he hu hex ha).2.1.symm
    · intro hs e he hu hex ha
      have hl := h e.1 x hu (SortedMap.get?_eq_some.2 (hex ▸ he)) ha
      exact ⟨hl.1, (hs ha e he hu hex).symm, hl.2.2⟩
  | setAuthenticated x b =>
    obtain ⟨hx, hne⟩ := hown (fun _ => rfl)
    rw [liveTable_session h htab hnow hne]
    have hact : s'.Active cfg x ↔ s.Active cfg x := by rw [ServerState.Active, hnow, hx]; rfl
    rw [hact, hx]
    cases b with
    | true =>
      refine iff_of_true (fun e he hu hex ha => ?_) trivial
      have hl := h e.1 x hu (SortedMap.get?_eq_some.2 (hex ▸ he)) ha
      exact ⟨rfl, hl.2⟩
    | false =>
      exact ⟨fun hs e he hu hex ha => Bool.false_ne_true (hs e he hu hex ha).1,
        fun hs e he hu hex ha => absurd ha (hs e he hu hex)⟩
  | close x =>
    obtain ⟨hx, hne⟩ := hown (fun _ => rfl)
    rw [liveTable_session h htab hnow hne]
    have hact : s'.Active cfg x ↔ s.Active cfg x := by rw [ServerState.Active, hnow, hx]; rfl
    rw [hact, hx]
    exact ⟨fun hs e he hu hex ha => Bool.false_ne_true (hs e he hu hex ha).2.2,
      fun hs e he hu hex ha => absurd ha (hs e he hu hex)⟩
  | addSession x => exact liveTable_insert h (fun _ _ hy => hy) htab hnow hses
  | setUserOnline x v =>
    exact liveTable_insert h (fun _ _ hy => (SortedMap.get?_filter_eq_some.1 hy).2) htab hnow hses
  | removeSession x =>
    refine iff_of_true (liveTable_kept h (fun u y hy => get?_of_removeSession (htab ▸ hy))
      fun u y _ ha => ?_) trivial
    rw [ServerState.Active, hnow, hses] at ha
    exact ⟨ha, fun _ hl => by rwa [hses]⟩

/-! ## Every run -/

/-- The session a handler's step is about. -/
def Task.session? : Task → Option SessionId
  | .addSession x | .loginUserId x _ | .loginAuthenticated x _ | .loginOnline x _
  | .logoutAuthenticated x | .logoutClose x => some x
  | .doAccept => none

/-- The session an event registers or starts. -/
def Event.entrant : Event → Option SessionId
  | .addSession x | .setUserOnline x _ | .start x => some x
  | _ => none

theorem after_values {e : Event} (he : After s e s') {y : SessionId}
    (hy : y ∈ s'.sessions.values) : y ∈ s.sessions.values ∨ e.entrant = some y := by
  rw [he.sessions] at hy
  obtain ⟨k, hk⟩ := SortedMap.mem_values.1 hy
  cases e with
  | addSession x =>
    rcases SortedMap.get?_insert_eq_some.1 hk with ⟨-, rfl⟩ | ⟨-, hk⟩
    · exact .inr rfl
    · exact .inl (SortedMap.mem_values.2 ⟨k, hk⟩)
  | setUserOnline x v =>
    rcases SortedMap.get?_insert_eq_some.1 hk with ⟨-, rfl⟩ | ⟨-, hk⟩
    · exact .inr rfl
    · exact .inl (SortedMap.mem_values.2 ⟨k, (SortedMap.get?_filter_eq_some.1 hk).2⟩)
  | removeSession x => exact .inl (SortedMap.mem_values.2 ⟨k, get?_of_removeSession hk⟩)
  | _ => exact .inl (SortedMap.mem_values.2 ⟨k, hk⟩)

theorem after_started {e : Event} (he : After s e s') {y : SessionId}
    (hy : (s'.session y).started = true) :
    (s.session y).started = true ∨ e.entrant = some y := by
  rw [he.session] at hy
  cases e with
  | start x =>
    by_cases hyx : y = x
    · exact .inr (by rw [hyx]; rfl)
    · rw [Event.session, if_neg hyx] at hy
      exact .inl hy
  | construct =>
    simp only [Event.session] at hy
    split at hy
    · cases hy
    · exact .inl hy
  | heartbeat | setUserId | setAuthenticated | close =>
    simp only [Event.session] at hy
    split at hy <;> exact .inl hy
  | _ => exact .inl hy

theorem Event.created_le (s : ServerState) (e : Event) : s.created ≤ e.created s := by
  cases e with
  | construct => exact Nat.le_succ _
  | _ => exact le_refl _

namespace World

variable {w w' t : World} {l : Step} {ls : List Step}

/-- If `is_user_active(u)` returns true, `get_session(u)` is logged in as `u` on an open socket. -/
def ActiveLive (cfg : Config) (users : Nat → Prop) (w : World) : Prop :=
  ∀ u s, users u → isUserActive cfg u w.server = .ok true s →
    ∃ x, w.server.sessions.get? u = some x ∧ (w.server.session x).LiveAs u

/-- What an active user's entry is good for: `is_user_active` tells the truth, and a message that
    is not pushed is handed to a session on which the user is there. -/
structure ActiveReached (cfg : Config) (users : Nat → Prop) (w : World) : Prop where
  active : ActiveLive cfg users w
  routed : ∀ u s, users u → routeMessage cfg u w.server = .ok false s →
    ∃ x, s.sent = w.server.sent ++ [x] ∧ (w.server.session x).LiveAs u

def KeepsLive (cfg : Config) (users : Nat → Prop) (w : World) (l : Step) : Prop :=
  w.server.locked = false → (w.event l).KeepsLive cfg users w.server

instance [DecidablePred users] (w : World) : DecidablePred (KeepsLive cfg users w) :=
  fun _ => inferInstanceAs (Decidable (_ → _))

/-- Every session that anything refers to has been constructed. -/
structure Numbered (w : World) : Prop where
  table : ∀ x ∈ w.server.sessions.values, x < w.server.created
  started : ∀ x, (w.server.session x).started = true → x < w.server.created
  accepting : ∀ x, w.server.accepting = some x → x < w.server.created
  tasks : ∀ k ∈ w.tasks, ∀ x, k.session? = some x → x < w.server.created

theorem numbered_init (cfg : Config) : Numbered (init cfg) where
  table _ hx := by cases hx
  started _ hx := by cases hx
  accepting _ hx := by
    cases hx
    exact Nat.one_pos
  tasks _ hk := by cases hk

theorem session?_next {k k' : Task} (h : k.next = some k') {x : SessionId}
    (hx : k'.session? = some x) : k.session? = some x := by
  cases k with
  | doAccept | loginOnline | logoutClose => cases h
  | addSession =>
    cases h
    cases hx
  | loginUserId | loginAuthenticated | logoutAuthenticated =>
    cases h
    exact hx

theorem mem_stepped {k j : Task} {i : Nat} (hk : w.tasks[i]? = some k)
    (hj : j ∈ k.stepped i w.tasks) :
    ∃ k' ∈ w.tasks, ∀ x, j.session? = some x → k'.session? = some x := by
  unfold Task.stepped at hj
  split at hj
  case h_1 k' hk' =>
    rcases List.mem_or_eq_of_mem_set hj with hj | rfl
    · exact ⟨j, hj, fun _ h => h⟩
    · exact ⟨k, List.mem_of_getElem? hk, fun _ h => session?_next hk' h⟩
  case h_2 => exact ⟨j, List.mem_of_mem_eraseIdx hj, fun _ h => h⟩

theorem activeLive_iff (hl : w.server.locked = false) :
    ActiveLive cfg users w ↔ LiveTable cfg users w.server := by
  constructor
  · intro h u x hu hx ha
    have hact : isUserActive cfg u w.server = .ok true w.server := by
      have ha' : elapsed w.server.now (w.server.session x) ≤ cfg.heartbeatTimeout := ha
      rw [isUserActive_free _ _ hl, hx, Option.any_some, decide_eq_true ha']
    obtain ⟨y, hy, hlive⟩ := h u _ hu hact
    rw [hx] at hy
    cases hy
    exact hlive
  · intro h u s hu hs
    rw [isUserActive_free _ _ hl] at hs
    cases hx : w.server.sessions.get? u with
    | none =>
      rw [hx] at hs
      cases hs
    | some x =>
      rw [hx, Option.any_some] at hs
      have ha : decide (elapsed w.server.now (w.server.session x) ≤ cfg.heartbeatTimeout)
          = true := by
        injection hs
      exact ⟨x, rfl, h u x hu hx (of_decide_eq_true ha)⟩

/-- While the mutex is locked for good, `is_user_active` does not return. -/
theorem activeLive_of_locked (hl : w.server.locked = true) : ActiveLive cfg users w := by
  intro u s _ hs
  have hget : getSession u w.server = .error .selfDeadlock w.server := lockGuard_held _ hl
  rw [isUserActive, bind_error hget] at hs
  cases hs

theorem activeLive_step (h : ActiveLive cfg users w) (hn : w.server.locked = true ∨ Numbered w)
    (hs : step cfg w l = some t) : ActiveLive cfg users t ↔ KeepsLive cfg users w l := by
  cases hl : w.server.locked with
  | true =>
    refine iff_of_true (activeLive_of_locked (step_frozen hl hs).locked) fun hf => ?_
    rw [hl] at hf
    cases hf
  | false =>
    have hn := hn.resolve_left (by simp [hl])
    rcases step_event hl hs with ⟨ht, x, hx⟩ | ht
    · refine iff_of_true (activeLive_of_locked ht.locked) fun _ => ?_
      rw [hx]
      trivial
    · rw [activeLive_iff ht.locked, liveTable_event ((activeLive_iff hl).1 h) hn.table ht]
      exact ⟨fun hk _ => hk, fun hk => hk hl⟩

/-- The sessions a step registers or starts have been constructed. -/
theorem entrant_lt (hn : Numbered w) {x : SessionId} (hx : (w.event l).entrant = some x) :
    x < w.server.created := by
  cases l with
  | accept =>
    simp only [event] at hx
    split at hx
    case h_1 y hy =>
      cases hx
      exact hn.accepting x hy
    case h_2 => cases hx
  | task i =>
    simp only [event] at hx
    split at hx
    case h_1 k hk =>
      refine hn.tasks k (List.mem_of_getElem? hk) x ?_
      cases k with
      | addSession | loginOnline => exact hx
      | _ => cases hx
    case h_2 => cases hx
  | sweep =>
    simp only [event] at hx
    split at hx <;> cases hx
  | _ => cases hx

theorem task_accepting {k : Task} {s s' : ServerState} (hl : s.locked = false)
    (hr : k.run s = .ok () s') {x : SessionId} (hx : s'.accepting = some x) :
    s.accepting = some x ∨ x < s'.created := by
  cases k with
  | addSession y =>
    rw [Task.run, addSession_free hl] at hr
    cases hr
    exact .inl hx
  | loginOnline y userId =>
    rw [Task.run, setUserOnline_free hl] at hr
    cases hr
    exact .inl hx
  | doAccept =>
    cases hr
    cases hx
    exact .inr (Nat.lt_succ_self _)
  | _ =>
    cases hr
    exact .inl hx

/-- The handlers that run after a step, and the session that waits to be accepted. -/
theorem pending_step (hl : w.server.locked = false) (hn : Numbered w)
    (hs : step cfg w l = some t) (hc : w.server.created ≤ t.server.created) :
    (∀ x, t.server.accepting = some x → x < t.server.created) ∧
      ∀ k ∈ t.tasks, ∀ x, k.session? = some x → x < t.server.created := by
  have hacc : ∀ x, w.server.accepting = some x → x < t.server.created := fun x hx =>
    lt_of_lt_of_le (hn.accepting x hx) hc
  have htasks : ∀ k ∈ w.tasks, ∀ x, k.session? = some x → x < t.server.created := fun k hk x hx =>
    lt_of_lt_of_le (hn.tasks k hk x hx) hc
  -- a handler that a step starts
  have hstarted : ∀ k', (∀ x, k'.session? = some x → x < t.server.created) →
      ∀ k ∈ w.tasks ++ [k'], ∀ x, k.session? = some x → x < t.server.created := by
    intro k' hk' k hk
    rcases List.mem_append.1 hk with hk | hk
    · exact htasks k hk
    · rw [List.mem_singleton.1 hk]
      exact hk'
  cases l with
  | advance d | close x =>
    cases hs
    exact ⟨hacc, htasks⟩
  | accept =>
    obtain ⟨x, hx, rfl⟩ := Option.map_eq_some_iff.1 hs
    refine ⟨fun y hy => (by cases hy), hstarted _ fun y hy => ?_⟩
    cases hy
    exact hacc x hx
  | acceptFailed =>
    obtain ⟨x, hx, rfl⟩ := Option.map_eq_some_iff.1 hs
    exact ⟨fun y hy => (by cases hy), hstarted _ fun y hy => (by cases hy)⟩
  | message x m =>
    simp only [step, Option.ite_none_right_eq_some, Option.some.injEq] at hs
    obtain ⟨hx, rfl⟩ := hs
    have hlt := lt_of_lt_of_le (hn.started x hx) hc
    refine ⟨by rw [handleMessage_server] at hacc ⊢; exact hacc, ?_⟩
    cases m with
    | login userId =>
      refine hstarted _ fun y hy => ?_
      cases hy
      exact hlt
    | logout =>
      simp only [handleMessage] at htasks hstarted hlt ⊢
      split
      · rw [if_pos (by assumption)] at hlt htasks hstarted
        refine hstarted _ fun y hy => ?_
        cases hy
        exact hlt
      · rw [if_neg (by assumption)] at htasks
        exact htasks
    | other => exact htasks
  | task i =>
    obtain ⟨k, hk, hs⟩ := Option.bind_eq_some_iff.1 hs
    simp only [Option.ite_none_left_eq_some, Option.some.injEq] at hs
    obtain ⟨s', hr, -⟩ := task_event (k := k) hl
    obtain ⟨-, rfl⟩ := hs
    rw [after_ok hr] at hacc htasks ⊢
    constructor
    · intro x hx
      rcases task_accepting hl hr hx with hx | hx
      · exact hacc x hx
      · exact hx
    · intro j hj x hx
      obtain ⟨k', hk', hjx⟩ := mem_stepped hk hj
      exact htasks k' hk' x (hjx x hx)
  | call m =>
    simp only [step, Option.ite_none_right_eq_some, Option.some.injEq, Bool.and_eq_true] at hs
    obtain ⟨⟨hm, -⟩, rfl⟩ := hs
    obtain ⟨a, xs, hr⟩ := reads_looksUp cfg hm w.server hl
    rw [after_ok hr] at hacc htasks ⊢
    exact ⟨hacc, htasks⟩
  | tick =>
    obtain ⟨-, -, rfl⟩ := step_tick hs
    exact ⟨hacc, htasks⟩
  | sweep =>
    cases hsw : w.sweep with
    | waiting => simp [step, hsw] at hs
    | collecting now =>
      simp only [step, hsw, hl, Bool.false_eq_true, if_false, Option.some.injEq] at hs
      subst hs
      rw [collectTimedOut, lockGuard_free hl] at hacc htasks ⊢
      exact ⟨hacc, htasks⟩
    | closing todo =>
      cases todo with
      | nil =>
        rw [step_closing_nil hsw] at hs
        cases hs
        exact ⟨hacc, htasks⟩
      | cons x todo =>
        rw [step_closing hsw] at hs
        cases hs
        exact ⟨hacc, htasks⟩
    | removing x todo =>
      simp only [step, hsw, hl, Bool.false_eq_true, if_false, Option.some.injEq] at hs
      subst hs
      rcases removeSession_free (x := x) hl with ⟨f, hr⟩ | hr
      · rw [after_error hr] at hacc htasks ⊢
        exact ⟨hacc, htasks⟩
      · rw [after_ok hr] at hacc htasks ⊢
        exact ⟨hacc, htasks⟩

theorem numbered_step (hl : w.server.locked = false) (hn : Numbered w)
    (hs : step cfg w l = some t) : t.server.locked = true ∨ Numbered t := by
  rcases step_event hl hs with ⟨ht, -⟩ | ht
  · exact .inl ht.locked
  · have hc : w.server.created ≤ t.server.created := ht.created ▸ Event.created_le _ _
    have hentrant : ∀ x, (w.event l).entrant = some x → x < t.server.created := fun x hx =>
      lt_of_lt_of_le (entrant_lt hn hx) hc
    obtain ⟨hacc, htasks⟩ := pending_step hl hn hs hc
    refine .inr ⟨fun x hx => ?_, fun x hx => ?_, hacc, htasks⟩
    · exact (after_values ht hx).elim (fun h => lt_of_lt_of_le (hn.table x h) hc) (hentrant x)
    · exact (after_started ht hx).elim (fun h => lt_of_lt_of_le (hn.started x h) hc) (hentrant x)

/-- What every state of a run that meets the condition satisfies. -/
structure Reachable (cfg : Config) (users : Nat → Prop) (w : World) : Prop where
  live : ActiveLive cfg users w
  numbered : w.server.locked = true ∨ Numbered w

theorem reachable_step (h : Reachable cfg users w) (hok : KeepsLive cfg users w l)
    (hs : step cfg w l = some t) : Reachable cfg users t := by
  cases hl : w.server.locked with
  | true =>
    have ht := (step_frozen hl hs).locked
    exact ⟨activeLive_of_locked ht, .inl ht⟩
  | false =>
    have hn := h.numbered.resolve_left (by simp [hl])
    exact ⟨(activeLive_step h.live h.numbered hs).2 hok, numbered_step hl hn hs⟩

theorem reachable_run (h : Run (step cfg) (KeepsLive cfg users) (init cfg) ls w) :
    Reachable cfg users w :=
  h.invariant ⟨fun u s _ hs => (by cases hs), .inr (numbered_init cfg)⟩
    fun _ _ _ hI hok hs => reachable_step hI hok hs

theorem routed_live (h : ActiveLive cfg users w) (hu : users u)
    (hr : routeMessage cfg u w.server = .ok false s) :
    ∃ x, s.sent = w.server.sent ++ [x] ∧ (w.server.session x).LiveAs u := by
  cases hl : w.server.locked with
  | true =>
    have hget : getSession u w.server = .error .selfDeadlock w.server := lockGuard_held _ hl
    have hact : isUserActive cfg u w.server = .error .selfDeadlock w.server := by
      rw [isUserActive, bind_error hget]
    rw [routeMessage, bind_error hact] at hr
    cases hr
  | false =>
    have hfree := isUserActive_free cfg u hl
    rw [routeMessage, bind_ok hfree] at hr
    split at hr
    case isTrue ha =>
      rw [ha] at hfree
      obtain ⟨x, hx, hlive⟩ := h u _ hu hfree
      have hsend := sendToUser_free u hl
      rw [bind_ok hsend, hx] at hr
      cases hr
      exact ⟨x, rfl, hlive⟩
    case isFalse => cases hr

end World

end ChatApp.Server
