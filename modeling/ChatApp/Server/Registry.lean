/-
  What a step does to the session table and to the sessions: `event` reads it off the label and
  the world, `Event.apply` says what it does. While the mutex is free, every step either does
  that or locks the mutex twice (`step_event`).
-/
import ChatApp.Server.Sweep

namespace ChatApp.Server

open ChatApp.Lib

variable {cfg : Config} {s s' : ServerState} {α β γ : Type}

inductive Event
  | quiet
  | advance (d : Nat)
  /-- `do_accept` constructs the next session -/
  | construct
  | start (x : SessionId)
  /-- `handle_message` writes `last_heartbeat_` -/
  | heartbeat (x : SessionId)
  | setUserId (x : SessionId) (userId : Nat)
  | setAuthenticated (x : SessionId) (auth : Bool)
  | close (x : SessionId)
  | addSession (x : SessionId)
  | setUserOnline (x : SessionId) (userId : Nat)
  | removeSession (x : SessionId)
  deriving DecidableEq, Repr

/-- The id `add_session` hands out next. -/
def ServerState.nextTempId (s : ServerState) : Nat := (s.tempId + 2 ^ 64 - 1) % 2 ^ 64

namespace Event

/-- The table after the event. -/
def sessions (s : ServerState) : Event → SortedMap Nat SessionId
  | .addSession x => s.sessions.insert s.nextTempId x
  | .setUserOnline x userId => (s.sessions.filter fun e => decide (e.2 ≠ x)).insert userId x
  | .removeSession x =>
    match s.sessions.findKey? x with
    | some k => s.sessions.erase k
    | none => s.sessions
  | _ => s.sessions

/-- The session `x` after the event. -/
def session (s : ServerState) (x : SessionId) : Event → SessionData
  | .construct => if x = s.created then SessionData.fresh s.now else s.session x
  | .start y => if x = y then { s.session x with started := true } else s.session x
  | .heartbeat y => if x = y then { s.session x with lastHeartbeat := s.now } else s.session x
  | .setUserId y u => if x = y then { s.session x with userId := u } else s.session x
  | .setAuthenticated y b => if x = y then { s.session x with authenticated := b } else s.session x
  | .close y => if x = y then { s.session x with isOpen := false } else s.session x
  | _ => s.session x

def now (s : ServerState) : Event → Int
  | .advance d => s.now + d
  | _ => s.now

def created (s : ServerState) : Event → Nat
  | .construct => s.created + 1
  | _ => s.created

end Event

/-- `s'` is `s` after the event, as far as the table and the sessions go. -/
structure After (s : ServerState) (e : Event) (s' : ServerState) : Prop where
  locked : s'.locked = false
  sessions : s'.sessions = e.sessions s
  session : ∀ x, s'.session x = e.session s x
  now : s'.now = e.now s
  created : s'.created = e.created s

def Task.event : Task → Event
  | .addSession x => .addSession x
  | .doAccept => .construct
  | .loginUserId x userId => .setUserId x userId
  | .loginAuthenticated x _ => .setAuthenticated x true
  | .loginOnline x userId => .setUserOnline x userId
  | .logoutAuthenticated x => .setAuthenticated x false
  | .logoutClose x => .close x

/-! ## The methods -/

theorem session_modifySession {x y : SessionId} {f : SessionData → SessionData} :
    (s.modifySession x f).session y = if y = x then f (s.session y) else s.session y := by
  by_cases h : y = x
  · subst h
    simp [ServerState.modifySession]
  · simp [ServerState.modifySession, h]

theorem addSession_free {x : SessionId} (hl : s.locked = false) : addSession x s = .ok ()
    { s with tempId := s.nextTempId, sessions := s.sessions.insert s.nextTempId x } := by
  rw [addSession, lockGuard_free hl]
  obtain ⟨sessions, tempId, locked, rest⟩ := s
  obtain rfl : locked = false := hl
  rfl

theorem setUserOnline_free {x : SessionId} {userId : Nat} (hl : s.locked = false) :
    setUserOnline userId x s = .ok () { s with
      sessions := (s.sessions.filter fun e => decide (e.2 ≠ x)).insert userId x } := by
  rw [setUserOnline, lockGuard_free hl]
  obtain ⟨sessions, tempId, locked, rest⟩ := s
  obtain rfl : locked = false := hl
  rfl

theorem getSession_free {userId : Nat} (hl : s.locked = false) :
    getSession userId s = .ok (s.sessions.get? userId) s := by
  rw [getSession, lockGuard_free hl]
  obtain ⟨sessions, tempId, locked, rest⟩ := s
  obtain rfl : locked = false := hl
  rfl

/-- A method that only looks sessions up and sends to them. -/
def Reads (m : ServerM α) : Prop :=
  ∀ s, s.locked = false → ∃ a xs, m s = .ok a { s with sent := s.sent ++ xs }

theorem reads_bind {m : ServerM α} {k : α → ServerM β} (hm : Reads m) (hk : ∀ a, Reads (k a)) :
    Reads (m >>= k) := by
  intro s hl
  obtain ⟨a, xs, hs⟩ := hm s hl
  obtain ⟨b, ys, ht⟩ := hk a { s with sent := s.sent ++ xs } hl
  rw [List.append_assoc] at ht
  exact ⟨b, xs ++ ys, (bind_ok hs).trans ht⟩

theorem reads_pure (a : α) : Reads (pure a) := fun s _ => ⟨a, [], by rw [List.append_nil]; rfl⟩

theorem reads_get : Reads (get : ServerM ServerState) :=
  fun s _ => ⟨s, [], by rw [List.append_nil]; rfl⟩

theorem reads_getSession (userId : Nat) : Reads (getSession userId) :=
  fun s hl => ⟨_, [], by rw [getSession_free hl, List.append_nil]⟩

/-- Sending to a list of sessions. -/
theorem forM_send (xs : List SessionId) (s : ServerState) :
    xs.forM send s = .ok () { s with sent := s.sent ++ xs } := by
  induction xs generalizing s with
  | nil =>
    rw [List.append_nil]
    rfl
  | cons x xs ih =>
    have hrest := ih { s with sent := s.sent ++ [x] }
    rw [List.append_assoc] at hrest
    exact hrest

theorem broadcast_free (hl : s.locked = false) : broadcast s = .ok () { s with
    sent := s.sent ++ s.sessions.values.filter fun x => (s.session x).authenticated } := by
  rw [broadcast, lockGuard_free hl, get_bind, forM_send]
  obtain ⟨sessions, tempId, locked, rest⟩ := s
  obtain rfl : locked = false := hl
  rfl

theorem sendToUser_free (userId : Nat) (hl : s.locked = false) : sendToUser userId s = .ok ()
    { s with sent := s.sent ++ (s.sessions.get? userId).toList } := by
  rw [sendToUser, bind_ok (getSession_free hl)]
  cases s.sessions.get? userId with
  | none =>
    rw [Option.toList_none, List.append_nil]
    rfl
  | some x => rfl

theorem isUserActive_free (cfg : Config) (userId : Nat) (hl : s.locked = false) :
    isUserActive cfg userId s = .ok
    ((s.sessions.get? userId).any fun x =>
      decide (elapsed s.now (s.session x) ≤ cfg.heartbeatTimeout)) s := by
  rw [isUserActive, bind_ok (getSession_free hl)]
  cases s.sessions.get? userId <;> rfl

theorem reads_discard {m : ServerM α} (h : Reads m) : Reads (discard m) := by
  intro s hl
  obtain ⟨a, xs, hm⟩ := h s hl
  refine ⟨(), xs, ?_⟩
  show EStateM.map _ m s = _
  rw [EStateM.map, hm]

theorem reads_looksUp (cfg : Config) {m : Method} (h : m.looksUp = true) : Reads (m.run cfg) := by
  cases m with
  | getSession userId => exact reads_discard (reads_getSession userId)
  | broadcast => exact fun s hl => ⟨(), _, broadcast_free hl⟩
  | sendToUser userId => exact fun s hl => ⟨(), _, sendToUser_free userId hl⟩
  | isUserActive userId =>
    refine reads_discard (reads_bind (reads_getSession userId) fun r => ?_)
    cases r with
    | none => exact reads_pure false
    | some x => exact reads_bind reads_get fun _ => reads_pure _
  | _ => cases h

/-- `remove_session` of an authenticated session of the table leaves the mutex locked; otherwise
    the first entry of the session goes. -/
theorem removeSession_free {x : SessionId} (hl : s.locked = false) :
    (∃ f, removeSession x s = .error f { s with locked := true }) ∨
      removeSession x s = .ok () { s with sessions := (Event.removeSession x).sessions s } := by
  by_cases ho : OnlineIn s x
  · exact .inl ⟨_, removeSession_online hl ho⟩
  · refine .inr ?_
    unfold removeSession
    rw [lockGuard_free hl, get_bind]
    cases hk : s.sessions.findKey? x with
    | none =>
      obtain ⟨sessions, tempId, locked, rest⟩ := s
      obtain rfl : locked = false := hl
      simp only [Event.sessions, hk]
      rfl
    | some it =>
      have hauth : (s.session x).authenticated = false := by
        by_contra hne
        refine ho ⟨?_, by simpa using hne⟩
        by_contra hx
        rw [SortedMap.findKey?_eq_none.2 hx] at hk
        cases hk
      have hit := SortedMap.contains_of_findKey? hk
      simp only [get_bind, hauth, eraseIterator, hit, if_true, Bool.false_eq_true, if_false,
        Event.sessions, hk]
      obtain ⟨sessions, tempId, locked, rest⟩ := s
      obtain rfl : locked = false := hl
      rfl

theorem get?_of_removeSession {k : Nat} {x y : SessionId}
    (h : ((Event.removeSession x).sessions s).get? k = some y) : s.sessions.get? k = some y := by
  simp only [Event.sessions] at h
  split at h
  · exact (SortedMap.get?_erase_eq_some.1 h).2
  · exact h

/-! ## The steps -/

namespace World

variable {w w' t : World} {l : Step} {ls : List Step}

def event (w : World) : Step → Event
  | .advance d => .advance d
  | .accept =>
    match w.server.accepting with
    | some x => .start x
    | none => .quiet
  | .message x _ => .heartbeat x
  | .task i =>
    match w.tasks[i]? with
    | some k => k.event
    | none => .quiet
  | .close x => .close x
  | .sweep =>
    match w.sweep with
    | .closing (x :: _) => .close x
    | .removing x _ => .removeSession x
    | _ => .quiet
  | .acceptFailed | .call _ | .tick => .quiet

theorem after_quiet (hl : s.locked = false) : After s .quiet s := ⟨hl, rfl, fun _ => rfl, rfl, rfl⟩

/-- A handler's step that does not fault. -/
theorem task_event {k : Task} (hl : s.locked = false) :
    ∃ s', k.run s = .ok () s' ∧ After s k.event s' := by
  cases k with
  | addSession x => exact ⟨_, addSession_free hl, hl, rfl, fun _ => rfl, rfl, rfl⟩
  | doAccept => exact ⟨_, rfl, hl, rfl, fun _ => Function.update_apply .., rfl, rfl⟩
  | loginOnline x userId => exact ⟨_, setUserOnline_free hl, hl, rfl, fun _ => rfl, rfl, rfl⟩
  | loginUserId | loginAuthenticated | logoutAuthenticated | logoutClose =>
    exact ⟨_, rfl, hl, rfl, fun _ => session_modifySession, rfl, rfl⟩

/-- The mutex is locked for good, and the table stays as it is. -/
structure Frozen (w t : World) : Prop where
  locked : t.server.locked = true
  sessions : t.server.sessions = w.server.sessions

/-- While the mutex is free, a step does what its event says, or leaves the mutex locked. -/
theorem step_event (hl : w.server.locked = false) (hs : step cfg w l = some t) :
    (Frozen w t ∧ ∃ x, w.event l = .removeSession x) ∨
      After w.server (w.event l) t.server := by
  cases l with
  | advance d =>
    cases hs
    exact .inr ⟨hl, rfl, fun _ => rfl, rfl, rfl⟩
  | accept =>
    obtain ⟨x, hx, rfl⟩ := Option.map_eq_some_iff.1 hs
    refine .inr ?_
    simp only [event, hx]
    have hstart := @session_modifySession w.server x (f := fun d => { d with started := true })
    exact ⟨hl, rfl, hstart, rfl, rfl⟩
  | acceptFailed =>
    obtain ⟨x, -, rfl⟩ := Option.map_eq_some_iff.1 hs
    exact .inr ⟨hl, rfl, fun _ => rfl, rfl, rfl⟩
  | message x m =>
    simp only [step, Option.ite_none_right_eq_some, Option.some.injEq] at hs
    obtain ⟨-, rfl⟩ := hs
    rw [handleMessage_server]
    exact .inr ⟨hl, rfl, fun _ => session_modifySession, rfl, rfl⟩
  | task i =>
    obtain ⟨k, hk, hs⟩ := Option.bind_eq_some_iff.1 hs
    simp only [Option.ite_none_left_eq_some, Option.some.injEq, Bool.not_eq_true] at hs
    obtain ⟨s', hr, hev⟩ := task_event (k := k) hl
    obtain ⟨-, rfl⟩ := hs
    rw [after_ok hr]
    simp only [event, hk]
    exact .inr hev
  | call m =>
    simp only [step, Option.ite_none_right_eq_some, Option.some.injEq, Bool.and_eq_true] at hs
    obtain ⟨⟨hm, -⟩, rfl⟩ := hs
    obtain ⟨a, xs, hr⟩ := reads_looksUp cfg hm w.server hl
    rw [after_ok hr]
    exact .inr ⟨hl, rfl, fun _ => rfl, rfl, rfl⟩
  | close x =>
    cases hs
    have hclose := @session_modifySession w.server x (f := fun d => { d with isOpen := false })
    exact .inr ⟨hl, rfl, hclose, rfl, rfl⟩
  | tick =>
    obtain ⟨-, -, rfl⟩ := step_tick hs
    exact .inr (after_quiet hl)
  | sweep =>
    cases hsw : w.sweep with
    | waiting => simp [step, hsw] at hs
    | collecting now =>
      simp only [step, hsw, hl, Bool.false_eq_true, if_false, Option.some.injEq] at hs
      subst hs
      rw [collectTimedOut, lockGuard_free hl]
      simp only [event, hsw]
      exact .inr ⟨rfl, rfl, fun _ => rfl, rfl, rfl⟩
    | closing todo =>
      cases todo with
      | nil =>
        rw [step_closing_nil hsw] at hs
        cases hs
        simp only [event, hsw]
        exact .inr (after_quiet hl)
      | cons x todo =>
        rw [step_closing hsw] at hs
        cases hs
        simp only [event, hsw]
        exact .inr ⟨hl, rfl, fun _ => session_modifySession, rfl, rfl⟩
    | removing x todo =>
      simp only [step, hsw, hl, Bool.false_eq_true, if_false, Option.some.injEq] at hs
      subst hs
      rcases removeSession_free (x := x) hl with ⟨f, hr⟩ | hr
      · rw [after_error hr]
        exact .inl ⟨⟨rfl, rfl⟩, x, by simp only [event, hsw]⟩
      · rw [after_ok hr]
        simp only [event, hsw]
        exact .inr ⟨hl, rfl, fun _ => rfl, rfl, rfl⟩

/-- Once the mutex is locked for good, the steps that remain leave the table as it is. -/
theorem step_frozen (hl : w.server.locked = true) (hs : step cfg w l = some t) : Frozen w t := by
  cases l with
  | advance d =>
    cases hs
    exact ⟨hl, rfl⟩
  | accept | acceptFailed =>
    obtain ⟨x, -, rfl⟩ := Option.map_eq_some_iff.1 hs
    exact ⟨hl, rfl⟩
  | message x m =>
    simp only [step, Option.ite_none_right_eq_some, Option.some.injEq] at hs
    obtain ⟨-, rfl⟩ := hs
    constructor
    · rw [handleMessage_server]
      exact hl
    · rw [handleMessage_server]
      rfl
  | task i =>
    obtain ⟨k, -, hs⟩ := Option.bind_eq_some_iff.1 hs
    simp only [hl, Bool.and_true, Option.ite_none_left_eq_some, Option.some.injEq,
      Bool.not_eq_true] at hs
    obtain ⟨hk, rfl⟩ := hs
    cases k with
    | addSession | loginOnline => cases hk
    | _ => exact ⟨hl, rfl⟩
  | call m => simp [step, hl] at hs
  | close x =>
    cases hs
    exact ⟨hl, rfl⟩
  | tick =>
    obtain ⟨-, -, rfl⟩ := step_tick hs
    exact ⟨hl, rfl⟩
  | sweep =>
    cases hsw : w.sweep with
    | waiting | collecting | removing => simp [step, hsw, hl] at hs
    | closing todo =>
      cases todo with
      | nil =>
        rw [step_closing_nil hsw] at hs
        cases hs
        exact ⟨hl, rfl⟩
      | cons x todo =>
        rw [step_closing hsw] at hs
        cases hs
        exact ⟨hl, rfl⟩

end World

end ChatApp.Server
