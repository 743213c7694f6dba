/-
  The reconnects of `WebSocketService` over its whole life. `disconnect` clears `_autoReconnect`,
  and nothing sets it again. `held` says whether `connect` has succeeded since `disconnect` was
  called last; a connection is lost when it is held and the service is not connected.

  `reconnects_run`: as long as no `connect` succeeds after a `disconnect`, a lost connection has
  a reconnect timer or a call of `connect` that waits. After any such `connect` there may be
  neither.
-/
import ChatApp.Client.Connections

namespace ChatApp.Client

open ChatApp.Lib

structure Watched (Address : Type) where
  connections : Connections Address
  held : Bool

namespace Watched

variable {Address : Type}

def init (address : Address) : Watched Address := ⟨.init address, false⟩

/-- A call of `connect` that goes on succeeds if the service is then connected. -/
def holds (held : Bool) (t : Connections Address) : ConnectionLabel Address → Bool
  | .ready _ => held || t.service.isConnected
  | .disconnect => false
  | _ => held

def step (opens : Address → Bool) (s : Watched Address) (l : ConnectionLabel Address) :
    Option (Watched Address) :=
  (s.connections.step opens l).map fun t => ⟨t, holds s.held t l⟩

/-- A lost connection will be made again. -/
def Recovers (s : Watched Address) : Prop :=
  s.held = true → s.connections.service.isConnected = false →
    s.connections.service.reconnectTimer = true ∨ s.connections.attempts ≠ []

/-- A call of `connect` that goes on finds `_autoReconnect` as it was at first, or it fails, since
    there is no channel or it is listened to. -/
def Rearmed (s : Watched Address) : ConnectionLabel Address → Prop
  | .ready _ => s.connections.service.autoReconnect = true ∨
      ∀ c, s.connections.service.channel = some c → (s.connections.channels c).stream ≠ .unheard
  | _ => True

/-- What every step keeps, if `connect` finds the flag as it was at first. -/
structure Steady (held : Bool) (x : Connections Address) : Prop where
  flag : held = true → x.service.autoReconnect = true
  disarmed : x.service.autoReconnect = false → x.service.reconnectTimer = false
  connecting : x.service.isConnecting = true → x.attempts ≠ []

structure Armed (held : Bool) (x : Connections Address) : Prop extends Steady held x where
  armed : held = true → x.service.isConnected = false →
    x.service.reconnectTimer = true ∨ x.service.isConnecting = true

variable {opens : Address → Bool} {s t : Watched Address} {l : ConnectionLabel Address}
variable {address : Address} {x y : Connections Address} {held fromTimer : Bool}
variable {ls : List (ConnectionLabel Address)}

theorem recovers_of_armed (h : Armed s.held s.connections) : s.Recovers := by
  intro hheld hlost
  exact (h.armed hheld hlost).imp_right h.connecting

theorem init_armed : Armed false (.init address : Connections Address) :=
  ⟨⟨nofun, fun _ => rfl, nofun⟩, nofun⟩

/-! ## Steps -/

/-- A step that touches none of the fields. -/
theorem Armed.keep (h : Armed held x) (hflag : y.service.autoReconnect = x.service.autoReconnect)
    (htimer : y.service.reconnectTimer = x.service.reconnectTimer)
    (hconnected : y.service.isConnected = x.service.isConnected)
    (hconnecting : y.service.isConnecting = x.service.isConnecting)
    (hattempts : y.attempts = x.attempts) : Armed held y where
  flag := hflag ▸ h.flag
  disarmed := hflag ▸ htimer ▸ h.disarmed
  connecting := hconnecting ▸ hattempts ▸ h.connecting
  armed := hconnected ▸ htimer ▸ hconnecting ▸ h.armed

/-- `if (_autoReconnect) _scheduleReconnect()` -/
theorem Steady.schedule (h : Steady held x)
    (hflag : y.service.autoReconnect = x.service.autoReconnect)
    (htimer : y.service.reconnectTimer = (x.service.reconnectTimer || x.service.autoReconnect))
    (hconnecting : y.service.isConnecting = true → y.attempts ≠ []) : Armed held y where
  flag := hflag ▸ h.flag
  disarmed hoff := by
    have hoff : x.service.autoReconnect = false := hflag ▸ hoff
    rw [htimer, hoff, h.disarmed hoff]
    rfl
  connecting := hconnecting
  armed hheld _ := by
    rw [htimer, h.flag hheld, Bool.or_true]
    exact .inl rfl

theorem connect_armed (h : Steady held x) : Armed held (x.connect opens address fromTimer) := by
  unfold Connections.connect
  by_cases hconnecting : x.service.isConnecting = true
  · rw [if_pos hconnecting]
    exact ⟨⟨h.flag, h.disarmed, h.connecting⟩, fun _ _ => .inr hconnecting⟩
  rw [if_neg hconnecting]
  by_cases hopens : opens address = true
  · rw [if_pos hopens]
    refine ⟨⟨h.flag, h.disarmed, fun _ => ?_⟩, fun _ _ => .inr rfl⟩
    exact List.append_ne_nil_of_right_ne_nil _ (List.cons_ne_nil _ _)
  · rw [if_neg hopens]
    exact h.schedule rfl rfl nofun

/-- A call of `connect` that goes on listens to the channel, or fails. -/
theorem ready_cases (x : Connections Address) (a : Attempt) :
    (x.ready a).service.autoReconnect = x.service.autoReconnect ∧
    (x.ready a).service.isConnecting = false ∧ (x.ready a).attempts = x.attempts ∧
    ((∃ c, x.service.channel = some c ∧ (x.channels c).stream = .unheard ∧
        (x.ready a).service.isConnected = true ∧
        (x.ready a).service.reconnectTimer = x.service.reconnectTimer ∧
        ((x.ready a).channels c).stream = .live) ∨
      (∀ c, x.service.channel = some c → (x.channels c).stream ≠ .unheard) ∧
        (x.ready a).service.isConnected = false ∧
        (x.ready a).service.reconnectTimer =
          (x.service.reconnectTimer || x.service.autoReconnect)) := by
  have hstream : ∀ c, ((x.update a.channel Channel.becomeReady).channels c).stream =
      (x.channels c).stream := by
    intro c
    by_cases hc : c = a.channel
    · rw [hc, Connections.update_self]
      rfl
    · rw [Connections.update_of_ne hc]
  unfold Connections.ready
  cases hchannel : x.service.channel with
  | none =>
    rw [Connections.listen_none (by exact hchannel)]
    exact ⟨rfl, rfl, rfl, .inr ⟨nofun, rfl, rfl⟩⟩
  | some c =>
    by_cases hunheard : (x.channels c).stream = .unheard
    · rw [Connections.listen_unheard (by exact hchannel) (by exact (hstream c).trans hunheard)]
      refine ⟨rfl, rfl, rfl, .inl ⟨c, rfl, hunheard, rfl, rfl, ?_⟩⟩
      dsimp only
      rw [Connections.update_self]
      rfl
    · rw [Connections.listen_heard (by exact hchannel) (by rwa [hstream])]
      refine ⟨rfl, rfl, rfl, .inr ⟨?_, rfl, rfl⟩⟩
      intro d hd
      obtain rfl := Option.some.inj hd
      exact hunheard

theorem ready_armed {as : List Attempt} {a : Attempt} (h : Steady held x)
    (hok : x.service.autoReconnect = true ∨
      ∀ c, x.service.channel = some c → (x.channels c).stream ≠ .unheard) :
    Armed (held || ({ x with attempts := as }.ready a).service.isConnected)
      ({ x with attempts := as }.ready a) := by
  have hcases := ready_cases { x with attempts := as } a
  generalize { x with attempts := as }.ready a = y at hcases ⊢
  obtain ⟨hflag, hconnecting, -, ⟨c, hc, hunheard, hconnected, htimer, -⟩ |
    ⟨-, hconnected, htimer⟩⟩ := hcases
  · have hon : x.service.autoReconnect = true := by
      rcases hok with hon | hnone
      · exact hon
      · exact absurd hunheard (hnone c hc)
    have hon' : y.service.autoReconnect = true := hflag.trans hon
    refine ⟨⟨fun _ => hon', fun hoff => ?_, fun h => ?_⟩, fun _ hlost => ?_⟩
    · rw [hon'] at hoff
      cases hoff
    · rw [hconnecting] at h
      cases h
    · rw [hconnected] at hlost
      cases hlost
  · rw [hconnected, Bool.or_false]
    refine h.schedule hflag htimer fun h => ?_
    rw [hconnecting] at h
    cases h

theorem disconnect_armed : Armed false x.disconnect := ⟨⟨nofun, fun _ => rfl, nofun⟩, nofun⟩

theorem event_armed {c : Nat} {e : ChannelEvent} (h : Armed held x) : Armed held (x.event c e) := by
  unfold Connections.event
  by_cases hlive : (x.channels c).stream = .live
  · rw [if_pos hlive]
    cases e with
    | data isHeartbeatResponse => cases isHeartbeatResponse <;> exact h.keep rfl rfl rfl rfl rfl
    | error => exact h.schedule rfl rfl h.connecting
    | done => exact h.schedule rfl rfl h.connecting
  · rw [if_neg hlive]
    exact h.keep rfl rfl rfl rfl rfl

theorem heartbeatTimeout_armed (h : Armed held x) : Armed held x.heartbeatTimeout := by
  have hattempts : (x.heartbeatTimeout).attempts = x.attempts := by
    unfold Connections.heartbeatTimeout
    dsimp only
    split
    · exact Connections.updateAt_attempts
    · rfl
  by_cases hgivenUp : x.service.toLink.heartbeatTimeout.2 = true
  · obtain ⟨hflag, htimer⟩ := Link.heartbeatTimeout_schedules hgivenUp
    exact h.schedule hflag htimer fun hconnecting => hattempts ▸ h.connecting hconnecting
  · obtain ⟨hflag, htimer⟩ := Link.heartbeatTimeout_idle hgivenUp
    exact h.keep hflag htimer (Link.heartbeatTimeout_kept hgivenUp) rfl hattempts

theorem step_armed (h : Armed s.held s.connections) (hok : s.Rearmed l)
    (hstep : s.step opens l = some t) : Armed t.held t.connections := by
  obtain ⟨y, hy, rfl⟩ := Option.map_eq_some_iff.1 hstep
  cases l with
  | connect address =>
    obtain rfl := Option.some.inj hy
    exact connect_armed h.toSteady
  | disconnect =>
    obtain rfl := Option.some.inj hy
    exact disconnect_armed
  | ready n =>
    obtain ⟨a, ha, rfl⟩ := Option.map_eq_some_iff.1 hy
    exact ready_armed h.toSteady hok
  | failed n =>
    obtain ⟨a, ha, rfl⟩ := Option.map_eq_some_iff.1 hy
    exact h.toSteady.schedule rfl rfl nofun
  | event c e =>
    obtain ⟨-, hy⟩ := Option.ite_none_right_eq_some.1 hy
    obtain rfl := Option.some.inj hy
    exact event_armed h
  | heartbeat =>
    obtain ⟨-, hy⟩ := Option.ite_none_right_eq_some.1 hy
    obtain rfl := Option.some.inj hy
    exact h.keep rfl rfl rfl rfl rfl
  | heartbeatTimeout =>
    obtain ⟨-, hy⟩ := Option.ite_none_right_eq_some.1 hy
    obtain rfl := Option.some.inj hy
    exact heartbeatTimeout_armed h
  | reconnect =>
    obtain ⟨-, hy⟩ := Option.ite_none_right_eq_some.1 hy
    obtain rfl := Option.some.inj hy
    exact connect_armed ⟨h.flag, fun _ => rfl, h.connecting⟩

/-! ## Runs -/

theorem run_armed (h : Run (step opens) Rearmed (init address) ls s) :
    Armed s.held s.connections :=
  h.invariant (I := fun s => Armed s.held s.connections) init_armed
    fun _ _ _ hs hok hstep => step_armed hs hok hstep

/-- Only `disconnect` changes the flag. -/
theorem autoReconnect_step (hstep : x.step opens l = some y) :
    y.service.autoReconnect = true ↔ x.service.autoReconnect = true ∧ l ≠ .disconnect := by
  have hconnect : ∀ (z : Connections Address) (address : Address) (fromTimer : Bool),
      (z.connect opens address fromTimer).service.autoReconnect = z.service.autoReconnect := by
    intro z address fromTimer
    unfold Connections.connect
    repeat' split
    all_goals rfl
  cases l with
  | connect address =>
    obtain rfl := Option.some.inj hstep
    simp [hconnect]
  | disconnect =>
    obtain rfl := Option.some.inj hstep
    simp [Connections.disconnect, Link.disconnect]
  | ready n =>
    obtain ⟨a, ha, rfl⟩ := Option.map_eq_some_iff.1 hstep
    simp [(ready_cases { x with attempts := x.attempts.eraseIdx n } a).1]
  | failed n =>
    obtain ⟨a, ha, rfl⟩ := Option.map_eq_some_iff.1 hstep
    simp [Connections.failed, WebSocketService.connectFailed, Link.connectFailed, Link.backOff,
      Link.scheduleReconnect]
  | event c e =>
    obtain ⟨-, hstep⟩ := Option.ite_none_right_eq_some.1 hstep
    obtain rfl := Option.some.inj hstep
    have hkept : (x.event c e).service.autoReconnect = x.service.autoReconnect := by
      unfold Connections.event
      dsimp only
      split
      · rcases e with (_ | _) | _ | _ <;> rfl
      · rfl
    simp [hkept]
  | heartbeat =>
    obtain ⟨-, hstep⟩ := Option.ite_none_right_eq_some.1 hstep
    obtain rfl := Option.some.inj hstep
    simp [Link.sendHeartbeat]
  | heartbeatTimeout =>
    obtain ⟨-, hstep⟩ := Option.ite_none_right_eq_some.1 hstep
    obtain rfl := Option.some.inj hstep
    have hkept : x.heartbeatTimeout.service.autoReconnect = x.service.autoReconnect := by
      by_cases hgivenUp : x.service.toLink.heartbeatTimeout.2 = true
      · exact (Link.heartbeatTimeout_schedules hgivenUp).1
      · exact (Link.heartbeatTimeout_idle hgivenUp).1
    simp [hkept]
  | reconnect =>
    obtain ⟨-, hstep⟩ := Option.ite_none_right_eq_some.1 hstep
    obtain rfl := Option.some.inj hstep
    simp [hconnect]

/-- The flag is as it was at first exactly if `disconnect` has never been called. -/
theorem autoReconnect_run {ok : Watched Address → ConnectionLabel Address → Prop}
    (h : Run (step opens) ok (init address) ls s) :
    s.connections.service.autoReconnect = true ↔ .disconnect ∉ ls := by
  induction h with
  | nil => exact iff_of_true rfl List.not_mem_nil
  | snoc _ _ hstep ih =>
    obtain ⟨y, hy, rfl⟩ := Option.map_eq_some_iff.1 hstep
    rw [autoReconnect_step hy, ih, List.mem_append, List.mem_singleton, not_or]
    exact and_congr_right fun _ => ne_comm

variable (opens held) in
/-- With nothing scheduled, the calls that wait can fail one after another. -/
theorem stranded (hflag : x.service.autoReconnect = false)
    (htimer : x.service.reconnectTimer = false) (hlost : x.service.isConnected = false) :
    ∃ ls u, exec (step opens) ⟨x, held⟩ ls = some u ∧ u.held = held ∧
      u.connections.service.isConnected = false ∧
      u.connections.service.reconnectTimer = false ∧ u.connections.attempts = [] := by
  induction hattempts : x.attempts generalizing x with
  | nil => exact ⟨[], _, rfl, rfl, hlost, htimer, hattempts⟩
  | cons a as ih =>
    have herase : x.attempts.eraseIdx 0 = as := by rw [hattempts]; rfl
    have hstep : step opens ⟨x, held⟩ (.failed 0) =
        some ⟨{ x with attempts := as }.failed a, held⟩ := by
      unfold step Connections.step
      dsimp only
      rw [herase, hattempts]
      rfl
    have htimer' : ({ x with attempts := as }.failed a).service.reconnectTimer = false := by
      show (x.service.reconnectTimer || x.service.autoReconnect) = false
      rw [htimer, hflag]
      rfl
    obtain ⟨ls, u, hexec, hu⟩ := ih (x := { x with attempts := as }.failed a) hflag htimer' rfl rfl
    exact ⟨.failed 0 :: ls, u, by rw [exec_cons, hstep]; exact hexec, hu⟩

/-- After a `connect` that succeeds with the flag cleared, the connection can be lost for good. -/
theorem stranded_of_ready (h : Armed s.held s.connections) (hnot : ¬ s.Rearmed l)
    (hstep : s.step opens l = some t) :
    ∃ ls u, exec (step opens) t ls = some u ∧ ¬ u.Recovers := by
  cases l with
  | ready n =>
    simp only [Rearmed, not_or, Bool.not_eq_true, not_forall, not_not] at hnot
    obtain ⟨hoff, c, hchannel, hunheard⟩ := hnot
    obtain ⟨y, hy, rfl⟩ := Option.map_eq_some_iff.1 hstep
    obtain ⟨a, ha, rfl⟩ := Option.map_eq_some_iff.1 hy
    have hcases := ready_cases
      { s.connections with attempts := s.connections.attempts.eraseIdx n } a
    generalize { s.connections with attempts := s.connections.attempts.eraseIdx n }.ready a = y
      at hcases
    obtain ⟨hflag, -, -, ⟨d, hd, -, hconnected, htimer, hlive⟩ | ⟨hnone, -⟩⟩ := hcases
    · have hdone : step opens ⟨y, holds s.held y (.ready n)⟩ (.event d .done) =
          some ⟨y.event d .done, true⟩ := by
        have hdelivers : y.delivers d = true := Connections.delivers_iff.2 (.inl hlive)
        have hheld : holds s.held y (.ready n) = true := by
          show (s.held || y.service.isConnected) = true
          rw [hconnected, Bool.or_true]
        rw [hheld, step, Connections.step, if_pos hdelivers]
        rfl
      have hafter : y.event d .done = { y.update d (·.after .done) with
          service := y.service.onEvent .done } := by
        unfold Connections.event
        rw [if_pos hlive]
      have htimer' : (y.event d .done).service.reconnectTimer = false := by
        rw [hafter]
        show (y.service.reconnectTimer || y.service.autoReconnect) = false
        rw [htimer, hflag, h.disarmed hoff]
        exact hoff
      obtain ⟨ls, u, hexec, hheld, hlost, hnotimer, hnoattempts⟩ :=
        stranded opens true (x := y.event d .done) (by rw [hafter]; exact hflag.trans hoff)
          htimer' (by rw [hafter]; rfl)
      refine ⟨.event d .done :: ls, u, by rw [exec_cons, hdone]; exact hexec, fun hrecovers => ?_⟩
      rcases hrecovers hheld hlost with htimer | hattempts
      · rw [hnotimer] at htimer
        cases htimer
      · exact hattempts hnoattempts
    · exact absurd hunheard (hnone c hchannel)
  | _ => exact absurd trivial hnot

/-- In every run in which `connect` succeeds only while `_autoReconnect` is as it was at first, a
    lost connection will be made again: a reconnect timer is pending, or a call of `connect`
    waits. After any other success this can fail. -/
theorem reconnects_run (h : Run (step opens) Rearmed (init address) ls s) :
    s.Recovers ∧ ∀ l t, s.step opens l = some t → ¬ s.Rearmed l →
      ∃ ls u, exec (step opens) t ls = some u ∧ ¬ u.Recovers :=
  ⟨recovers_of_armed (run_armed h), fun _ _ hstep hnot =>
    stranded_of_ready (run_armed h) hnot hstep⟩

/-- The server closes the first connection. -/
theorem reconnects_run_closed : ∃ s : Watched String, s.held = true ∧
    s.connections.service.isConnected = false ∧ s.Recovers := by
  have hrun : Run (step fun _ => true) Rearmed (init "ws://127.0.0.1:8888/ws")
      [.connect "ws://127.0.0.1:8888/ws", .ready 0, .event 0 .done] _ :=
    .snoc (.snoc (.snoc .nil trivial rfl) (.inl rfl) rfl) trivial rfl
  exact ⟨_, rfl, rfl, (reconnects_run hrun).1⟩

/-- The user logs out and in again, and the server closes the second connection. -/
theorem login_again : ¬ ∀ (ls : List (ConnectionLabel String)) (s : Watched String),
    Run (step fun _ => true) anyStep (init "ws://127.0.0.1:8888/ws") ls s → s.Recovers := by
  intro h
  have hrun : Run (step fun _ => true) anyStep (init "ws://127.0.0.1:8888/ws")
      [.connect "ws://127.0.0.1:8888/ws", .ready 0, .disconnect,
        .connect "ws://127.0.0.1:8888/ws", .ready 0, .event 1 .done] _ := exec_run rfl
  rcases h _ _ hrun rfl rfl with htimer | hattempts
  · exact absurd htimer (by decide)
  · exact hattempts rfl

end Watched

end ChatApp.Client
