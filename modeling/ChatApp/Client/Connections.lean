/-
  The connections of `WebSocketService`. The service is in one of three phases (`Phase`): nothing
  is open, or one call of `connect` waits, or one stream is listened to. Every step keeps this
  (`step_tidy`) if `connect` is called only in the first phase, and after any other `connect` an
  unsound state is at most one step away (`unsound_of_connect`).
-/
import ChatApp.Client.WebSocketService

namespace ChatApp.Client

open ChatApp.Lib

namespace Connections

variable {Address : Type}

/-! ## Where the service can be -/

/-- Nothing is open and no call waits, or one call waits, or one stream is listened to. -/
inductive Phase (s : Connections Address) : Prop
  | idle (hlive : ∀ c, (s.channels c).stream ≠ .live) (hattempts : s.attempts = [])
      (hconnected : s.service.isConnected = false)
      (hcurrent : ∀ c, s.service.channel = some c →
        (s.channels c).stream ≠ .cancelled ∧ ¬ s.Open c)
  | waiting (a : Attempt) (hlive : ∀ c, (s.channels c).stream ≠ .live)
      (hattempts : s.attempts = [a]) (hconnected : s.service.isConnected = false)
      (hunheard : (s.channels a.channel).stream = .unheard)
      (hcurrent : ∀ c, s.service.channel = some c → c = a.channel ∧ s.channels c = .opened)
  | listening (c : Nat) (hattempts : s.attempts = []) (hchannel : s.service.channel = some c)
      (hsubscription : s.service.subscription = some c) (hlive : (s.channels c).stream = .live)
      (hothers : ∀ d, d ≠ c → (s.channels d).stream ≠ .live)
      (hconnected : s.service.isConnected = true ↔ s.Open c)

structure Tidy (s : Connections Address) : Prop where
  phase : s.Phase
  /-- channels are opened in the order of their numbers -/
  fresh : ∀ c, s.opened ≤ c → s.channels c = .opened
  current : ∀ c, s.service.channel = some c → c < s.opened
  waits : ∀ a ∈ s.attempts, a.channel < s.opened

variable {opens : Address → Bool} {s t : Connections Address} {l : ConnectionLabel Address}
variable {service : WebSocketService Address} {address : Address} {a : Attempt} {c d : Nat}
variable {as : List Attempt}
variable {e : ChannelEvent} {f : Channel → Channel} {fromTimer : Bool}
variable {ls : List (ConnectionLabel Address)}

/-! ## Channels -/

theorem update_self : (s.update c f).channels c = f (s.channels c) := Function.update_self ..

theorem update_of_ne (h : d ≠ c) : (s.update c f).channels d = s.channels d :=
  Function.update_of_ne h ..

theorem not_live_update (hlive : ∀ d, (s.channels d).stream ≠ .live)
    (hc : (f (s.channels c)).stream ≠ .live) (d : Nat) :
    ((s.update c f).channels d).stream ≠ .live := by
  by_cases h : d = c
  · rwa [h, update_self]
  · rw [update_of_ne h]
    exact hlive d

theorem fresh_update (hfresh : ∀ d, s.opened ≤ d → s.channels d = .opened) (hc : c < s.opened)
    (d : Nat) (hd : s.opened ≤ d) : (s.update c f).channels d = .opened := by
  have hne : d ≠ c := by omega
  rw [update_of_ne hne]
  exact hfresh d hd

theorem delivers_iff : s.delivers c = true ↔
    (s.channels c).stream = .live ∨ (s.channels c).stream = .cancelled := by
  simp [delivers]

/-- A stream that was cancelled is not listened to again. -/
theorem after_not_live (h : (s.channels c).stream = .cancelled) :
    ((s.channels c).after e).stream ≠ .live := by
  cases e <;> simp [Channel.after, h]

/-! ## Steps that change the service only -/

theorem Phase.same (hs : s.Phase) (hchannel : service.channel = s.service.channel)
    (hsubscription : service.subscription = s.service.subscription)
    (hconnected : service.isConnected = s.service.isConnected) :
    ({ s with service := service } : Connections Address).Phase := by
  cases hs with
  | idle hlive hattempts hlost hcurrent =>
    exact .idle hlive hattempts (hconnected.trans hlost) fun c hc =>
      hcurrent c (hchannel.symm.trans hc)
  | waiting a hlive hattempts hlost hunheard hcurrent =>
    exact .waiting a hlive hattempts (hconnected.trans hlost) hunheard fun c hc =>
      hcurrent c (hchannel.symm.trans hc)
  | listening c hattempts hc hsub hlive hothers hopen =>
    refine .listening c hattempts (hchannel.trans hc) (hsubscription.trans hsub) hlive hothers ?_
    exact (Eq.congr_left hconnected).trans hopen

theorem Tidy.same (hs : s.Tidy) (hchannel : service.channel = s.service.channel)
    (hsubscription : service.subscription = s.service.subscription)
    (hconnected : service.isConnected = s.service.isConnected) :
    ({ s with service := service } : Connections Address).Tidy where
  phase := hs.phase.same hchannel hsubscription hconnected
  fresh := hs.fresh
  current c hc := hs.current c (hchannel.symm.trans hc)
  waits := hs.waits

theorem init_tidy : (init address : Connections Address).Tidy where
  phase := .idle (by simp [init, Channel.opened]) rfl rfl (by simp [init])
  fresh _ _ := rfl
  current c hc := absurd hc.symm (Option.some_ne_none c)
  waits a ha := absurd ha List.not_mem_nil

/-! ## `connect` and `disconnect` -/

/-- Before a channel is opened. -/
theorem idle_of_alone (hs : s.Tidy) (halone : s.Alone) :
    (∀ c, (s.channels c).stream ≠ .live) ∧ s.service.isConnected = false ∧
      ∀ c, s.service.channel = some c → (s.channels c).stream ≠ .cancelled ∧ ¬ s.Open c := by
  cases hs.phase with
  | idle hlive hattempts hlost hcurrent => exact ⟨hlive, hlost, hcurrent⟩
  | waiting a hlive hattempts hlost hunheard hcurrent =>
    exact absurd (halone.2.symm.trans hattempts) (List.cons_ne_nil a []).symm
  | listening c hattempts hc hsub hlive hothers hopen =>
    exact absurd hlive (halone.1 c (hs.current c hc))

theorem connect_tidy (hs : s.Tidy) (hok : s.MayConnect opens address) :
    (s.connect opens address fromTimer).Tidy := by
  unfold connect
  by_cases hconnecting : s.service.isConnecting = true
  · rw [if_pos hconnecting]
    exact hs.same rfl rfl rfl
  rw [if_neg hconnecting]
  have halone := hok (by simpa using hconnecting)
  split
  next hopens =>
    have halone := halone (.inl hopens)
    obtain ⟨hlive, hlost, hcurrent⟩ := idle_of_alone hs halone
    have hnew : s.channels s.opened = .opened := hs.fresh s.opened (Nat.le_refl _)
    refine ⟨.waiting ⟨s.opened, fromTimer⟩ hlive (by simp [halone.2]) hlost ?_ ?_, ?_, ?_, ?_⟩
    · exact congrArg Channel.stream hnew
    · intro c hc
      obtain rfl := Option.some.inj hc
      exact ⟨rfl, hnew⟩
    · exact fun c hc => hs.fresh c (Nat.le_of_succ_le hc)
    · intro c hc
      obtain rfl := Option.some.inj hc
      exact Nat.lt_succ_self _
    · simp [halone.2]
  next =>
    have hlost : s.service.isConnected = false := by
      by_contra hconnected
      have hconnected := Bool.not_eq_false _ ▸ hconnected
      exact absurd hconnected (by simp [(idle_of_alone hs (halone (.inr hconnected))).2.1])
    exact hs.same rfl rfl hlost.symm

theorem updateAt_channels {o : Option Nat} :
    (s.updateAt o f).channels d = if o = some d then f (s.channels d) else s.channels d := by
  cases o with
  | none => simp [updateAt]
  | some c =>
    by_cases h : d = c
    · subst h
      simp [updateAt, update_self]
    · simp [updateAt, update_of_ne h, Ne.symm h]

theorem updateAt_opened {o : Option Nat} : (s.updateAt o f).opened = s.opened := by
  cases o <;> rfl

theorem updateAt_attempts {o : Option Nat} : (s.updateAt o f).attempts = s.attempts := by
  cases o <;> rfl

theorem disconnect_stream : (s.disconnect.channels d).stream =
    if s.service.subscription = some d ∧ (s.channels d).stream = .live then .cancelled
    else (s.channels d).stream := by
  have hchannels : s.disconnect.channels d = _ := updateAt_channels
  rw [hchannels, updateAt_channels]
  by_cases hsub : s.service.subscription = some d <;>
    by_cases hlive : (s.channels d).stream = .live <;>
    by_cases hchannel : s.service.channel = some d <;>
    simp [Channel.giveUp, Channel.cancel, hsub, hlive, hchannel]

theorem disconnect_fresh (hs : s.Tidy) (hd : s.opened ≤ d) : s.disconnect.channels d = .opened := by
  have hchannels : s.disconnect.channels d = _ := updateAt_channels
  have hcurrent : s.service.channel ≠ some d := fun h => by
    have hlt := hs.current d h
    omega
  have hservice : ∀ o : Option Nat, (s.updateAt o Channel.cancel).service = s.service := by
    rintro (_ | _) <;> rfl
  rw [hchannels, if_neg hcurrent, updateAt_channels, hs.fresh d hd]
  split <;> rfl

/-- `disconnect` cancels the subscription, which is the only one. -/
theorem disconnect_tidy (hs : s.Tidy) : s.disconnect.Tidy := by
  have hattempts : s.disconnect.attempts = s.attempts := updateAt_attempts.trans updateAt_attempts
  have hopened : s.disconnect.opened = s.opened := updateAt_opened.trans updateAt_opened
  have hnone : ∀ c, s.disconnect.service.channel ≠ some c := fun c => nofun
  have hlive : ∀ d, (s.disconnect.channels d).stream = .live →
      (s.channels d).stream = .live ∧ s.service.subscription ≠ some d := by
    intro d hd
    rw [disconnect_stream] at hd
    split at hd
    next => exact absurd hd (by decide)
    next hne => exact ⟨hd, fun h => hne ⟨h, hd⟩⟩
  refine ⟨?_, fun d hd => disconnect_fresh hs (hopened ▸ hd), fun c hc => absurd hc (hnone c), ?_⟩
  · cases hs.phase with
    | idle hquiet hidle hlost hcurrent =>
      exact .idle (fun d hd => hquiet d (hlive d hd).1) (hattempts.trans hidle) rfl
        fun c hc => absurd hc (hnone c)
    | waiting a hquiet hwaits hlost hunheard hcurrent =>
      refine .waiting a (fun d hd => hquiet d (hlive d hd).1) (hattempts.trans hwaits) rfl ?_
        fun c hc => absurd hc (hnone c)
      rw [disconnect_stream, hunheard]
      exact if_neg (by simp)
    | listening c hidle hc hsub hheard hothers hopen =>
      refine .idle (fun d hd => ?_) (hattempts.trans hidle) rfl fun c hc => absurd hc (hnone c)
      obtain ⟨hd, hne⟩ := hlive d hd
      exact hothers d (fun h => hne (h ▸ hsub)) hd
  · intro a ha
    rw [hopened]
    exact hs.waits a (hattempts ▸ ha)

/-! ## A waiting call goes on -/

/-- The only waiting call. -/
theorem waiting_of_attempt {n : Nat} (hs : s.Tidy) (ha : s.attempts[n]? = some a) :
    s.attempts.eraseIdx n = [] ∧ (∀ c, (s.channels c).stream ≠ .live) ∧
      (s.channels a.channel).stream = .unheard ∧
      ∀ c, s.service.channel = some c → c = a.channel ∧ s.channels c = .opened := by
  have hmem := List.mem_of_getElem? ha
  cases hs.phase with
  | idle hlive hattempts hlost hcurrent => exact absurd (hattempts ▸ hmem) List.not_mem_nil
  | waiting a' hlive hattempts hlost hunheard hcurrent =>
    obtain rfl := List.mem_singleton.1 (hattempts ▸ hmem)
    have hn : n = 0 := by
      have hlt := (List.getElem?_eq_some_iff.1 ha).1
      rw [hattempts, List.length_singleton] at hlt
      omega
    exact ⟨by rw [hattempts, hn, List.eraseIdx_cons_zero], hlive, hunheard, hcurrent⟩
  | listening c hattempts hc hsub hlive hothers hopen =>
    exact absurd (hattempts ▸ hmem) List.not_mem_nil

theorem failed_tidy {n : Nat} (hs : s.Tidy) (ha : s.attempts[n]? = some a) :
    ({ s with attempts := s.attempts.eraseIdx n }.failed a).Tidy := by
  obtain ⟨hattempts, hlive, hunheard, hcurrent⟩ := waiting_of_attempt hs ha
  have hopened := hs.waits a (List.mem_of_getElem? ha)
  refine ⟨.idle (not_live_update hlive ?_) hattempts rfl ?_, fresh_update hs.fresh hopened,
    hs.current, fun b hb => absurd (hattempts ▸ hb) List.not_mem_nil⟩
  · simp [Channel.giveUp, hunheard]
  · intro c hc
    obtain ⟨rfl, -⟩ := hcurrent c hc
    simp [failed, Open, update_self, Channel.giveUp, hunheard]

theorem listen_none (h : s.service.channel = none) :
    s.listen fromTimer = { s with service := s.service.connectFailed fromTimer } := by
  simp only [listen, h]

theorem listen_unheard (h : s.service.channel = some c)
    (hunheard : (s.channels c).stream = .unheard) :
    s.listen fromTimer = { s.update c Channel.listen with
      service := { s.service with
        subscription := some c, toLink := s.service.toLink.startHeartbeat } } := by
  simp only [listen, h, if_pos hunheard]

theorem listen_heard (h : s.service.channel = some c)
    (hheard : (s.channels c).stream ≠ .unheard) :
    s.listen fromTimer = { s with service := s.service.connectFailed fromTimer } := by
  simp only [listen, h, if_neg hheard]

theorem ready_tidy {n : Nat} (hs : s.Tidy) (ha : s.attempts[n]? = some a) :
    ({ s with attempts := s.attempts.eraseIdx n }.ready a).Tidy := by
  obtain ⟨hattempts, hlive, hunheard, hcurrent⟩ := waiting_of_attempt hs ha
  have hopened := hs.waits a (List.mem_of_getElem? ha)
  have hwaits : ∀ b ∈ s.attempts.eraseIdx n, b.channel < s.opened :=
    fun b hb => absurd (hattempts ▸ hb) List.not_mem_nil
  unfold ready
  cases hchannel : s.service.channel with
  | none =>
    -- `disconnect` was called in the meantime
    have hnone : ∀ c, s.service.channel ≠ some c := fun c hc => by simp [hchannel] at hc
    rw [listen_none (by exact hchannel)]
    refine ⟨.idle (not_live_update hlive ?_) hattempts rfl ?_, fresh_update hs.fresh hopened,
      ?_, hwaits⟩
    · simp [Channel.becomeReady, hunheard]
    · exact fun c hc => absurd hc (hnone c)
    · exact fun c hc => absurd hc (hnone c)
  | some c =>
    obtain ⟨rfl, hfresh⟩ := hcurrent c hchannel
    have hready : (s.update a.channel Channel.becomeReady).channels a.channel =
        ⟨true, false, .unheard⟩ := by rw [update_self, hfresh]; rfl
    rw [listen_unheard (by exact hchannel) (by exact congrArg Channel.stream hready)]
    refine ⟨.listening a.channel hattempts hchannel rfl ?_ ?_ ?_, ?_, hs.current, hwaits⟩
    all_goals dsimp only
    · rw [update_self]
      rfl
    · intro d hd
      rw [update_of_ne hd]
      exact (update_of_ne hd).symm ▸ hlive d
    · refine iff_of_true rfl ?_
      simp [Open, update_self, Channel.listen, Channel.becomeReady, hfresh, Channel.opened]
    · exact fresh_update (s := s.update a.channel Channel.becomeReady)
        (fresh_update hs.fresh hopened) hopened

/-! ## Events and timers -/

theorem event_of_cancelled (h : (s.channels c).stream ≠ .live) :
    s.event c e = s.update c (·.after e) := by
  unfold event
  rw [if_neg h]
  rfl

/-- Only the current channel can be listened to. -/
theorem live_current (hs : s.Tidy) (h : (s.channels c).stream = .live) :
    s.attempts = [] ∧ s.service.channel = some c ∧ s.service.subscription = some c ∧
      (∀ d, d ≠ c → (s.channels d).stream ≠ .live) ∧
      (s.service.isConnected = true ↔ s.Open c) := by
  cases hs.phase with
  | idle hlive hattempts hlost hcurrent => exact absurd h (hlive c)
  | waiting a hlive hattempts hlost hunheard hcurrent => exact absurd h (hlive c)
  | listening d hattempts hchannel hsub hlive hothers hopen =>
    have hcd : c = d := by
      by_contra hne
      exact hothers c hne h
    exact hcd ▸ ⟨hattempts, hchannel, hsub, hothers, hopen⟩

/-- The events of a stream whose subscription was cancelled. -/
theorem cancelled_phase (hs : s.Tidy) (h : (s.channels c).stream = .cancelled) :
    (s.update c (·.after e)).Phase := by
  have hafter := after_not_live (e := e) h
  cases hs.phase with
  | idle hlive hattempts hlost hcurrent =>
    refine .idle (not_live_update hlive hafter) hattempts hlost fun d hd => ?_
    have hne : d ≠ c := fun heq => (hcurrent d hd).1 (heq ▸ h)
    unfold Open
    rw [update_of_ne hne]
    exact hcurrent d hd
  | waiting a hlive hattempts hlost hunheard hcurrent =>
    have hne : a.channel ≠ c := fun heq => by simp [heq, h] at hunheard
    refine .waiting a (not_live_update hlive hafter) hattempts hlost ?_ fun d hd => ?_
    · rwa [update_of_ne hne]
    · obtain ⟨rfl, hfresh⟩ := hcurrent d hd
      exact ⟨rfl, (update_of_ne hne).trans hfresh⟩
  | listening d hattempts hchannel hsub hlive hothers hopen =>
    have hne : d ≠ c := fun heq => by simp [heq, h] at hlive
    refine .listening d hattempts hchannel hsub ?_ (fun x hx => ?_) ?_
    · rwa [update_of_ne hne]
    · by_cases hxc : x = c
      · rwa [hxc, update_self]
      · rw [update_of_ne hxc]
        exact hothers x hx
    · unfold Open
      rw [update_of_ne hne]
      exact hopen

/-- The events of the stream that is listened to. -/
theorem live_phase (hs : s.Tidy) (h : (s.channels c).stream = .live) : (s.event c e).Phase := by
  obtain ⟨hattempts, hchannel, hsub, hothers, hopen⟩ := live_current hs h
  have hkept : ∀ d, d ≠ c → ((s.update c (·.after e)).channels d).stream ≠ .live := fun d hd => by
    rw [update_of_ne hd]
    exact hothers d hd
  unfold event
  rw [if_pos h]
  cases e with
  | data isHeartbeatResponse =>
    have hsame : s.update c (·.after (.data isHeartbeatResponse)) = s := by
      simp [update, Channel.after]
    rw [hsame]
    cases isHeartbeatResponse <;> exact hs.phase.same rfl rfl rfl
  | error =>
    refine .listening c hattempts hchannel hsub ?_ hkept ?_
    · simpa [update_self, Channel.after] using h
    · refine iff_of_false Bool.false_ne_true ?_
      simp [Open, update_self, Channel.after]
  | done =>
    refine .idle (fun d => ?_) hattempts rfl fun d hd => ?_
    · by_cases hd : d = c
      · simp [hd, update_self, Channel.after]
      · exact hkept d hd
    · obtain rfl := Option.some.inj (hchannel.symm.trans hd)
      simp [Open, update_self, Channel.after]

theorem event_channel : (s.event c e).service.channel = s.service.channel := by
  unfold event
  dsimp only
  split
  · rcases e with (_ | _) | _ | _ <;> rfl
  · rfl

theorem event_tidy (hs : s.Tidy) (hdelivers : s.delivers c = true) : (s.event c e).Tidy := by
  have hc : c < s.opened := by
    by_contra hlt
    have hfresh := hs.fresh c (Nat.le_of_not_lt hlt)
    simp [delivers, hfresh, Channel.opened] at hdelivers
  refine ⟨?_, fresh_update (f := (·.after e)) hs.fresh hc, fun d hd => ?_, hs.waits⟩
  · rcases delivers_iff.1 hdelivers with hlive | hcancelled
    · exact live_phase hs hlive
    · rw [event_of_cancelled (by simp [hcancelled])]
      exact cancelled_phase hs hcancelled
  · exact hs.current d (event_channel.symm.trans hd)

theorem heartbeatTimeout_tidy (hs : s.Tidy) : s.heartbeatTimeout.Tidy := by
  unfold heartbeatTimeout
  dsimp only
  split
  next hgivenUp =>
    obtain ⟨hconnected, hnow⟩ := Link.heartbeatTimeout_given_up hgivenUp
    cases hs.phase with
    | idle hlive hattempts hlost hcurrent => simp [hlost] at hconnected
    | waiting a hlive hattempts hlost hunheard hcurrent => simp [hlost] at hconnected
    | listening c hattempts hchannel hsub hlive hothers hopen =>
      have hat : s.updateAt s.service.channel Channel.giveUp = s.update c Channel.giveUp := by
        rw [hchannel]
        rfl
      rw [hat]
      refine ⟨.listening c hattempts hchannel hsub ?_ (fun d hd => ?_) ?_,
        fresh_update hs.fresh (hs.current c hchannel), hs.current, hs.waits⟩
      · simpa [update_self, Channel.giveUp] using hlive
      · rw [update_of_ne hd]
        exact hothers d hd
      · refine iff_of_false (by simp [hnow]) ?_
        simp [Open, update_self, Channel.giveUp]
  next hkept => exact hs.same rfl rfl (Link.heartbeatTimeout_kept hkept)

theorem step_tidy (hs : s.Tidy) (hok : s.StartsAlone opens l) (h : s.step opens l = some t) :
    t.Tidy := by
  cases l with
  | connect address =>
    obtain rfl := Option.some.inj h
    exact connect_tidy hs hok
  | disconnect =>
    obtain rfl := Option.some.inj h
    exact disconnect_tidy hs
  | ready n =>
    obtain ⟨a, ha, rfl⟩ := Option.map_eq_some_iff.1 h
    exact ready_tidy hs ha
  | failed n =>
    obtain ⟨a, ha, rfl⟩ := Option.map_eq_some_iff.1 h
    exact failed_tidy hs ha
  | event c e =>
    obtain ⟨hdelivers, h⟩ := Option.ite_none_right_eq_some.1 h
    obtain rfl := Option.some.inj h
    exact event_tidy hs hdelivers
  | heartbeat =>
    obtain ⟨-, h⟩ := Option.ite_none_right_eq_some.1 h
    obtain rfl := Option.some.inj h
    exact hs.same rfl rfl rfl
  | heartbeatTimeout =>
    obtain ⟨-, h⟩ := Option.ite_none_right_eq_some.1 h
    obtain rfl := Option.some.inj h
    exact heartbeatTimeout_tidy hs
  | reconnect =>
    obtain ⟨-, h⟩ := Option.ite_none_right_eq_some.1 h
    obtain rfl := Option.some.inj h
    exact connect_tidy (hs.same rfl rfl rfl) hok

/-! ## Runs -/

theorem run_tidy (h : Run (step opens) (StartsAlone opens) (init address) ls s) : s.Tidy :=
  h.invariant init_tidy fun _ _ _ hs => step_tidy hs

theorem sound_of_tidy (hs : s.Tidy) : s.Sound opens where
  oneListener c d hc hd := by
    have hcurrent := (live_current hs hc).2.1
    exact Option.some.inj (hcurrent.symm.trans (live_current hs hd).2.1)
  earlier c e t hne h := by
    obtain ⟨-, h⟩ := Option.ite_none_right_eq_some.1 h
    obtain rfl := Option.some.inj h
    exact event_of_cancelled fun hlive => hne (live_current hs hlive).2.1
  connected := by
    cases hs.phase with
    | idle hlive hattempts hlost hcurrent =>
      refine iff_of_false (by simp [hlost]) ?_
      rintro ⟨c, hc, hopen⟩
      exact (hcurrent c hc).2 hopen
    | waiting a hlive hattempts hlost hunheard hcurrent =>
      refine iff_of_false (by simp [hlost]) ?_
      rintro ⟨c, hc, hopen⟩
      simp [Open, (hcurrent c hc).2, Channel.opened] at hopen
    | listening c hattempts hchannel hsub hlive hothers hopen =>
      rw [hopen, hchannel]
      exact ⟨fun h => ⟨c, rfl, h⟩, fun ⟨d, hd, h⟩ => Option.some.inj hd ▸ h⟩

variable (opens s) in
/-- The `await` of the first waiting call ends, and it finds a new channel in `_channel`. -/
theorem ready_listens (ha : s.attempts = a :: as) (hchannel : s.service.channel = some c)
    (hne : c ≠ a.channel) (hfresh : s.channels c = .opened) :
    ∃ t, s.step opens (.ready 0) = some t ∧ t.service.channel = some c ∧
      t.service.isConnected = true ∧ (t.channels c).ready = false := by
  have hunheard : ((s.update a.channel Channel.becomeReady).channels c) = .opened :=
    (update_of_ne hne).trans hfresh
  refine ⟨_, by rw [step, ha]; rfl, ?_⟩
  unfold ready
  rw [listen_unheard (by exact hchannel) (by exact congrArg Channel.stream hunheard)]
  refine ⟨hchannel, rfl, ?_⟩
  dsimp only
  rw [update_self]
  exact congrArg Channel.ready hunheard

variable (opens s) in
/-- A second stream is listened to. -/
theorem ready_second (ha : s.attempts = [a]) (hchannel : s.service.channel = some a.channel)
    (hfresh : s.channels a.channel = .opened) (hne : c ≠ a.channel)
    (hlive : (s.channels c).stream = .live) :
    ∃ t, s.step opens (.ready 0) = some t ∧ (t.channels c).stream = .live ∧
      (t.channels a.channel).stream = .live := by
  have hready : (s.update a.channel Channel.becomeReady).channels a.channel =
      ⟨true, false, .unheard⟩ := by rw [update_self, hfresh]; rfl
  refine ⟨_, by rw [step, ha]; rfl, ?_⟩
  unfold ready
  rw [listen_unheard (by exact hchannel) (by exact congrArg Channel.stream hready)]
  dsimp only
  refine ⟨?_, ?_⟩
  · rw [update_of_ne hne]
    exact (update_of_ne hne).symm ▸ hlive
  · rw [update_self]
    rfl

/-- After a `connect` that is not alone, an unsound state is at most one step away. -/
theorem unsound_of_connect (hs : s.Tidy) (hnot : ¬ s.MayConnect opens address) :
    ∃ ls t, exec (step opens) (s.connect opens address fromTimer) ls = some t ∧
      ¬ t.Sound opens := by
  simp only [MayConnect, Classical.not_imp] at hnot
  obtain ⟨hconnecting, hopens, halone⟩ := hnot
  have hnew : s.channels s.opened = .opened := hs.fresh s.opened (Nat.le_refl _)
  unfold connect
  rw [if_neg (by simp [hconnecting])]
  cases hs.phase with
  | idle hlive hattempts hlost hcurrent =>
    exact absurd ⟨fun c _ => hlive c, hattempts⟩ halone
  | waiting a hlive hattempts hlost hunheard hcurrent =>
    rw [if_pos (hopens.resolve_right (by simp [hlost]))]
    have hold := hs.waits a (by simp [hattempts])
    obtain ⟨t, hstep, hchannel, hconnected, hready⟩ := ready_listens opens
      { s with
        service := { s.service with
          address := address, isConnecting := true, channel := some s.opened }
        opened := s.opened + 1
        attempts := s.attempts ++ [⟨s.opened, fromTimer⟩] }
      (by rw [hattempts]; rfl) rfl (by omega) hnew
    refine ⟨[.ready 0], t, by rw [exec_cons, hstep]; rfl, fun hsound => ?_⟩
    obtain ⟨c, hc, hopen⟩ := hsound.connected.1 hconnected
    obtain rfl := Option.some.inj (hchannel.symm.trans hc)
    simp [Open, hready] at hopen
  | listening c hattempts hchannel hsub hlive hothers hopen =>
    have hold := hs.current c hchannel
    split
    next =>
      obtain ⟨t, hstep, hc, hnewer⟩ := ready_second opens
        { s with
          service := { s.service with
            address := address, isConnecting := true, channel := some s.opened }
          opened := s.opened + 1
          attempts := s.attempts ++ [⟨s.opened, fromTimer⟩] }
        (by rw [hattempts]; rfl) rfl hnew (by dsimp only; omega) hlive
      refine ⟨[.ready 0], t, by rw [exec_cons, hstep]; rfl, fun hsound => ?_⟩
      have hsame := hsound.oneListener c s.opened hc hnewer
      omega
    next hcloses =>
      refine ⟨[], _, rfl, fun hsound => ?_⟩
      have hconnected := hopen.1 (hopens.resolve_left hcloses)
      exact absurd (hsound.connected.2 ⟨c, hchannel, hconnected⟩) Bool.false_ne_true

theorem unsound_of_step (hs : s.Tidy) (hnot : ¬ s.StartsAlone opens l)
    (h : s.step opens l = some t) :
    ∃ ls u, exec (step opens) t ls = some u ∧ ¬ u.Sound opens := by
  cases l with
  | connect address =>
    obtain rfl := Option.some.inj h
    exact unsound_of_connect hs hnot
  | reconnect =>
    obtain ⟨-, h⟩ := Option.ite_none_right_eq_some.1 h
    obtain rfl := Option.some.inj h
    exact unsound_of_connect (hs.same rfl rfl rfl) hnot
  | _ => exact absurd trivial hnot

/-- In every run that opens a channel only when no stream is listened to and no call waits, one
    stream at most is listened to, an event of an earlier channel changes nothing else, and
    `isConnected` tells whether the current channel is open. After any other step this can fail. -/
theorem connections_sound (h : Run (step opens) (StartsAlone opens) (init address) ls s) :
    s.Sound opens ∧ ∀ l t, s.step opens l = some t → ¬ s.StartsAlone opens l →
      ∃ ls u, exec (step opens) t ls = some u ∧ ¬ u.Sound opens :=
  ⟨sound_of_tidy (run_tidy h), fun _ _ hstep hnot => unsound_of_step (run_tidy h) hnot hstep⟩

/-- The server closes the first connection, and the reconnect timer makes the second one. -/
theorem connections_sound_reconnect :
    ∃ s : Connections String, s.service.channel = some 1 ∧ s.Sound fun _ => true := by
  have hrun : Run (step fun _ => true) (StartsAlone fun _ => true) (init "ws://127.0.0.1:8888/ws")
      [.connect "ws://127.0.0.1:8888/ws", .ready 0, .heartbeat, .event 0 (.data true),
        .event 0 .done, .reconnect, .ready 0] _ := run_iff_exec.2 rfl
  exact ⟨_, rfl, (connections_sound hrun).1⟩

/-- Three heartbeats are missed and the service reconnects; then the old channel reports its end. -/
theorem late_done_disconnects :
    ¬ ∀ (ls : List (ConnectionLabel String)) (s : Connections String),
      Run (step fun _ => true) anyStep (init "ws://127.0.0.1:8888/ws") ls s →
      s.Sound fun _ => true := by
  intro h
  have hrun : Run (step fun _ => true) anyStep (init "ws://127.0.0.1:8888/ws")
      [.connect "ws://127.0.0.1:8888/ws", .ready 0, .heartbeat, .heartbeatTimeout, .heartbeat,
        .heartbeatTimeout, .heartbeat, .heartbeatTimeout, .reconnect, .ready 0, .event 0 .done] _ :=
    exec_run rfl
  have hconnected := (h _ _ hrun).connected.2 ⟨1, rfl, rfl, rfl⟩
  exact absurd hconnected (by decide)

end Connections

end ChatApp.Client
