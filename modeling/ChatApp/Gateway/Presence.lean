/-
  `users.online_status`. A login writes ONLINE as its last step, `on_disconnect` writes OFFLINE
  for the user the connection has then. Neither looks at `user_connections_`, so a connection that
  a second login kicked writes OFFLINE over the ONLINE of the second.

  A connection backs the status of the user it is logged in as while its `on_disconnect` is still
  ahead and it is the user's entry or on its way there (`Backs`). The condition on a run
  (`KeepsStatus`): OFFLINE is written only when no other open connection is the user's entry,
  ONLINE only when some connection backs it, and none stops to back an ONLINE status without
  writing OFFLINE. Then between handlers the status is ONLINE for every user with an open entry,
  and OFFLINE for every other user none of whose closed connections still has `on_disconnect`
  ahead (`Presence`).
-/
import ChatApp.Gateway.Logins

namespace ChatApp.Gateway

open ChatApp.Lib

/-- From the end of the message loop to `on_disconnect`. -/
def Stage.Disconnecting (s : Stage) : Prop := s = .remove ∨ s = .disconnect

instance : DecidablePred Stage.Disconnecting := fun _ => inferInstanceAs (Decidable (_ ∨ _))

namespace World

variable {w w' : World} {t t' : Thread} {i : Input} {e : Effect} {k : Control} {c d : ConnId}
  {n : Fd} {l : Step} {ls : List Step} {s : Stage} {u v : Nat}

instance : DecidablePred Live := fun _ => inferInstanceAs (Decidable (_ ∧ _))

/-- `c` is closed or its thread has left the message loop. -/
def Leaving (w : World) (c : ConnId) : Prop :=
  (w.conn c).closed = true ∨ (w.control (.conn c)).stage.Disconnecting

/-- `on_disconnect` of `c` is ahead and will write OFFLINE for `u`; `c` is the entry of `u` or
    leaving. -/
def Backs (w : World) (c : ConnId) (u : Nat) : Prop :=
  (w.conn c).loggedIn = some u ∧ Live (w.control (.conn c)).stage ∧
    (w.userConnections.get? u = some c ∨ w.Leaving c)

instance : Decidable (w.Leaving c) := inferInstanceAs (Decidable (_ ∨ _))
instance : Decidable (w.Backs c u) := inferInstanceAs (Decidable (_ ∧ _ ∧ _))

def backers (w : World) (u : Nat) : List ConnId :=
  (List.range w.created).filter fun c => w.Backs c u

/-- What the condition asks of the thread of `c` at `on_disconnect` and at the two writes of a
    login that matter. -/
def KeepsAt (w : World) (c : ConnId) (i : Input) : Stage → Prop
  | .disconnect => ∀ u ∈ (w.conn c).loggedIn,
    (i = .ok → ∀ d ∈ w.userConnections.get? u, (w.conn d).closed = false →
      (w.control (.conn d)).stage = .loginOnline u) ∧
    (i = .fail → w.online u = true → ∃ d ∈ w.backers u, d ≠ c)
  | .loginUserId v => ∀ u ∈ (w.conn c).loggedIn,
    u ≠ v → w.online u = true → ∃ d ∈ w.backers u, d ≠ c
  | .loginOnline u =>
    (i = .ok → w.backers u ≠ []) ∧
    (i = .fail → w.userConnections.get? u = some c → (w.conn c).closed = false →
      w.online u = true)
  | _ => True

instance : DecidablePred (w.KeepsAt c i)
  | .disconnect => inferInstanceAs (Decidable (∀ u ∈ _, _))
  | .loginUserId _ => inferInstanceAs (Decidable (∀ u ∈ _, _))
  | .loginOnline _ => inferInstanceAs (Decidable (_ ∧ _))
  | .handshake | .register | .loopHead | .poll | .recv | .receive | .handling | .loginLookup _
  | .loginKick .. | .loginClose .. | .loginAuthenticated _ | .loginAdd _ | .lookup _ | .notify ..
  | .remove | .done | .sleeping | .closeTimedOut _ | .removeTimedOut .. => .isTrue trivial

def KeepsStatus (w : World) : Step → Prop
  | .thread (.conn c) i =>
    (w.control (.conn c)).closing = none → w.KeepsAt c i (w.control (.conn c)).stage
  | _ => True

instance : DecidablePred w.KeepsStatus
  | .thread (.conn _) _ => inferInstanceAs (Decidable (_ → _))
  | .thread .heartbeat _ | .accept _ | .openOther _ | .closeOther _ | .destroy _ => .isTrue trivial

/-- No login and no disconnect handler is running. -/
def Quiet (w : World) : Prop :=
  ∀ c, (w.control (.conn c)).stage.login? = none ∧ ¬ (w.control (.conn c)).stage.Disconnecting

/-- `user_connections_` holds an open connection for `u`. -/
def HoldsOpen (w : World) (u : Nat) : Prop :=
  ∃ c, w.userConnections.get? u = some c ∧ (w.conn c).closed = false

/-- A closed connection logged in as `u` still has `on_disconnect` ahead. -/
def Awaited (w : World) (u : Nat) : Prop :=
  ∃ c, (w.conn c).closed = true ∧ (w.conn c).loggedIn = some u ∧
    Live (w.control (.conn c)).stage

structure Presence (w : World) : Prop where
  on : ∀ u c, w.userConnections.get? u = some c → (w.conn c).closed = false →
    w.online u = true ∨ (w.control (.conn c)).stage = .loginOnline u
  off : ∀ u, w.online u = true → ∃ c, w.Backs c u
  timedOut : ∀ d todo, (w.control .heartbeat).stage = .removeTimedOut d todo →
    (w.conn d).closed = true ∨ (w.control .heartbeat).closing = some (d, .exchange)

theorem presence_init : Presence init where
  on _ _ h := by cases h
  off _ h := by cases h
  timedOut _ _ h := by cases h

/-- What the condition says at a stage. -/
theorem keepsAt_of_status (h : KeepsStatus w (.thread (.conn c) i))
    (hc : w.control (.conn c) = { stage := s }) : w.KeepsAt c i s := by
  have hat := h (by rw [hc])
  rwa [hc] at hat

/-! ## The writes of the status -/

/-- ONLINE is written at the end of a login, OFFLINE in `on_disconnect`. -/
theorem move_setOnline {b : Bool} (hm : Move w i t (.setOnline u b) k) : ∃ c, t = .conn c ∧
    i = .ok ∧ (b = true ∧ w.control (.conn c) = { stage := .loginOnline u } ∨
      b = false ∧ w.control (.conn c) = { stage := .disconnect } ∧
        (w.conn c).loggedIn = some u) := by
  cases hm with
  | closing hc hm => cases hm
  | @conn c _ _ _ hc hm =>
    cases hm with
    | online _ hi => exact ⟨c, rfl, hi, .inl ⟨rfl, hc⟩⟩
    | offline h _ hi => exact ⟨c, rfl, hi, .inr ⟨rfl, hc, h⟩⟩
  | heartbeat hc hm => cases hm

theorem online_apply (h : ∀ b, e ≠ .setOnline u b) : (w.apply e).online u = w.online u := by
  cases e with
  | setOnline v b =>
    have hne : u ≠ v := fun huv => h b (huv ▸ rfl)
    exact Function.update_of_ne hne ..
  | addConnection c =>
    simp only [apply, addConnection]
    split <;> rfl
  | _ => rfl

theorem online_set {b : Bool} : (w.apply (.setOnline u b)).online u = b := Function.update_self ..

/-! ## Who backs the status -/

/-- A thread does not end before `on_disconnect`, and gets there from `remove`. -/
theorem connMove_live (h : ConnMove w c i s e k) (hs : Live s) (hd : s ≠ .disconnect) :
    Live k.stage ∧ (s.Disconnecting → k.stage.Disconnecting) := by
  cases h with
  | construct | refuse => exact absurd rfl hs.1
  | offline | anonymous | offlineFails => exact absurd rfl hd
  | remove => exact ⟨⟨nofun, nofun⟩, fun _ => .inr rfl⟩
  | leave h => exact ⟨⟨nofun, nofun⟩, fun _ => .inl rfl⟩
  | closeOwn h =>
    refine ⟨?_, fun hr => by rcases hr with hr | hr <;> cases hr⟩
    rcases h with rfl | rfl <;> exact ⟨nofun, nofun⟩
  | unsent h | sent h | sendFails h =>
    cases h <;> exact ⟨⟨nofun, nofun⟩, fun hr => by rcases hr with hr | hr <;> cases hr⟩
  | _ => exact ⟨⟨nofun, nofun⟩, fun hr => by rcases hr with hr | hr <;> cases hr⟩

/-- The thread of `c` keeps running, and leaving, unless it executes `on_disconnect`. -/
theorem live_thread (hm : Move w i t e k) (hs : Live (w.control (.conn c)).stage)
    (hd : t = .conn c → w.control (.conn c) ≠ { stage := .disconnect }) :
    Live (((w.apply e).setControl t k).control (.conn c)).stage ∧
      (w.Leaving c → ((w.apply e).setControl t k).Leaving c) := by
  by_cases ht : .conn c = t
  · subst ht
    have hk : Live k.stage ∧ ((w.control (.conn c)).stage.Disconnecting →
        k.stage.Disconnecting) := by
      cases hm with
      | closing hc hm =>
        have hst : k.stage = (w.control (.conn c)).stage := by rw [closeMove_stage hm, hc]
        rw [hst]
        exact ⟨hs, id⟩
      | conn hc hm =>
        rw [hc] at hs ⊢
        refine connMove_live hm hs ?_
        rintro rfl
        exact hd rfl hc
    simp only [Leaving, control_own]
    exact ⟨hk.1, Or.imp closed_apply hk.2⟩
  · simp only [Leaving, control_other ht]
    exact ⟨hs, Or.imp_left closed_apply⟩

/-- The entry of `u` changes when another login of `u` enters its connection, and when
    `remove_connection` is called for the connection it is. -/
theorem entry_apply (h : w.userConnections.get? u = some c) :
    (w.apply e).userConnections.get? u = some c ∨ e = .removeConnection c ∨
      ∃ d, e = .addConnection d ∧ (w.conn d).userId = u ∧
        (w.apply e).userConnections.get? u = some d := by
  cases e with
  | addConnection d =>
    by_cases hu : (w.conn d).userId = u
    · by_cases hpos : 0 < (w.conn d).userId
      · refine .inr (.inr ⟨d, rfl, hu, ?_⟩)
        simp only [apply, addConnection, if_pos hpos]
        exact SortedMap.get?_insert_eq_some.2 (.inl ⟨hu.symm, rfl⟩)
      · refine .inl ?_
        simp only [apply, addConnection, if_neg hpos]
        exact h
    · refine .inl ?_
      simp only [apply, addConnection]
      split
      · exact SortedMap.get?_insert_eq_some.2 (.inr ⟨fun he => hu he.symm, h⟩)
      · exact h
  | removeConnection d =>
    by_cases hd : d = c
    · exact .inr (.inl (hd ▸ rfl))
    · refine .inl ?_
      simp only [apply, removeConnection]
      split
      case isTrue hx =>
        refine SortedMap.get?_erase_eq_some.2 ⟨?_, h⟩
        rintro rfl
        rw [hx.2] at h
        exact hd (Option.some.inj h)
      case isFalse => exact h
  | _ => exact .inl h

/-- A connection that is removed is leaving, also after the step. -/
theorem leaving_removed (hP : Presence w) (hm : Move w i t (.removeConnection c) k) :
    ((w.apply (.removeConnection c)).setControl t k).Leaving c := by
  cases hm with
  | closing hc hm => cases hm
  | conn hc hm =>
    cases hm with
    | remove =>
      refine .inr ?_
      rw [control_own]
      exact .inr rfl
  | heartbeat hc hm =>
    cases hm with
    | remove d todo =>
      have hx := hP.timedOut c todo (by rw [hc])
      rw [hc] at hx
      exact .inl (closed_apply (e := .removeConnection c) (hx.resolve_right nofun))

/-- A connection backs the status until it logs in as another user or executes `on_disconnect`,
    or until another login of the user takes over. -/
theorem backs_thread (hL : Logins w) (hP : Presence w) (hm : Move w i t e k) (h : w.Backs c u)
    (hd : t = .conn c → w.control (.conn c) ≠ { stage := .disconnect })
    (hu : ∀ v, v ≠ u → e ≠ .setUserId c v) : ∃ d, ((w.apply e).setControl t k).Backs d u := by
  obtain ⟨hlog, hlive, hin⟩ := h
  obtain ⟨hlive', hleave⟩ := live_thread hm hlive hd
  have hlog' : ((w.apply e).conn c).loggedIn = some u :=
    (loggedIn_apply hlog).resolve_right fun ⟨v, hv, he⟩ => hu v hv he
  rcases hin with hin | hin
  · rcases entry_apply (e := e) hin with hin | rfl | ⟨d, rfl, hdu, hin⟩
    · exact ⟨c, hlog', hlive', .inl hin⟩
    · exact ⟨c, hlog', hlive', .inr (leaving_removed hP hm)⟩
    · obtain ⟨rfl, v, hs, rfl⟩ := move_add hm
      have hlogd : (w.conn d).loggedIn = some u :=
        loggedIn_eq_some.2 ⟨hL.added d v (.inl (by rw [hs])), hdu⟩
      refine ⟨d, ?_, ?_, .inl hin⟩
      · show ((w.apply _).conn d).loggedIn = some u
        rw [addConnection_conn, hlogd]
      · rw [control_own]
        exact ⟨nofun, nofun⟩
  · exact ⟨c, hlog', hlive', .inr (hleave hin)⟩

theorem mem_backers (h : c ∈ w.backers u) : w.Backs c u :=
  of_decide_eq_true (List.mem_filter.1 h).2

/-! ## The steps -/

theorem presence_off (hL : Logins w) (hP : Presence w) (hok : KeepsStatus w (.thread t i))
    (hm : Move w i t e k) (hon : (w.apply e).online u = true) :
    ∃ c, ((w.apply e).setControl t k).Backs c u := by
  by_cases he : e = .setOnline u true
  · -- the end of a login: some connection backs it
    subst he
    obtain ⟨c, rfl, hi, ⟨-, hc⟩ | ⟨hb, -⟩⟩ := move_setOnline hm
    · obtain ⟨d, hd⟩ := List.exists_mem_of_ne_nil _ ((keepsAt_of_status hok hc).1 hi)
      refine backs_thread hL hP hm (mem_backers hd) (fun hdc => ?_) fun _ _ => nofun
      rw [← hdc, hc]
      exact nofun
    · cases hb
  have hw : w.online u = true := by
    by_cases he' : e = .setOnline u false
    · subst he'
      rw [online_set] at hon
      cases hon
    · rwa [online_apply fun b => by cases b <;> assumption] at hon
  obtain ⟨c, hc⟩ := hP.off u hw
  by_cases hd : t = .conn c ∧ w.control (.conn c) = { stage := .disconnect }
  · -- `on_disconnect` that does not write: another connection backs the status
    obtain ⟨rfl, hs⟩ := hd
    have hfail : i = .fail := by
      cases hm with
      | closing hs' => rw [hs] at hs'; cases hs'
      | conn hs' hm =>
        rw [hs] at hs'
        cases hs'
        cases hm with
        | offline h =>
          rw [hc.1] at h
          cases h
          rw [online_set] at hon
          cases hon
        | anonymous h =>
          have hpos := hL.user c (loggedIn_eq_some.1 hc.1).1
          rw [(loggedIn_eq_some.1 hc.1).2, h u hc.1] at hpos
          exact absurd hpos (lt_irrefl 0)
        | offlineFails hi => exact hi
        | leave h => exact h.elim
        | unsent h | sent h | sendFails h => cases h
    obtain ⟨d, hd, hne⟩ := (keepsAt_of_status hok hs u hc.1).2 hfail hw
    refine backs_thread hL hP hm (mem_backers hd) (fun h => absurd (Thread.conn.inj h).symm hne)
      fun v hv he => ?_
    subst he
    exact hne (Thread.conn.inj (move_setUserId hm).1).symm
  by_cases hv : ∃ v, v ≠ u ∧ e = .setUserId c v
  · -- a login as another user
    obtain ⟨v, hv, rfl⟩ := hv
    obtain ⟨rfl, hs, -⟩ := move_setUserId hm
    obtain ⟨d, hd', hne⟩ := keepsAt_of_status hok hs u hc.1 hv.symm hw
    refine backs_thread hL hP hm (mem_backers hd') (fun h => absurd (Thread.conn.inj h).symm hne)
      fun x _ he => ?_
    cases he
    exact hne rfl
  · exact backs_thread hL hP hm hc (fun ht hs => hd ⟨ht, hs⟩) fun v hv' he => hv ⟨v, hv', he⟩

/-- The last step of a login. -/
theorem connMove_online (h : ConnMove w c i (.loginOnline u) e k) :
    e = .setOnline u true ∨ i = .fail ∧ e = .skip := by
  cases h with
  | online => exact .inl rfl
  | onlineFails _ hi => exact .inr ⟨hi, rfl⟩
  | leave h => exact h.elim
  | unsent h | sent h | sendFails h => cases h

theorem presence_on (hL : Logins w) (hP : Presence w) (hok : KeepsStatus w (.thread t i))
    (hm : Move w i t e k) (hc : (w.apply e).userConnections.get? u = some c)
    (ho : ((w.apply e).conn c).closed = false) :
    (w.apply e).online u = true ∨
      (((w.apply e).setControl t k).control (.conn c)).stage = .loginOnline u := by
  have ho' : (w.conn c).closed = false := by
    rw [Bool.eq_false_iff] at ho ⊢
    exact fun h => ho (closed_apply h)
  rcases userConnection_of_apply hc with hc | ⟨rfl, hu⟩
  · rcases hP.on u c hc ho' with hon | hs
    · by_cases he : e = .setOnline u false
      · subst he
        obtain ⟨d, rfl, hi, ⟨hb, -⟩ | ⟨-, hd, hl⟩⟩ := move_setOnline hm
        · cases hb
        · have hs := (keepsAt_of_status hok hd u hl).1 hi c hc ho'
          have hne : Thread.conn c ≠ .conn d := by
            intro hcd
            cases hcd
            rw [hd] at hs
            cases hs
          rw [control_other hne]
          exact .inr hs
      · refine .inl ?_
        by_cases he' : e = .setOnline u true
        · rw [he', online_set]
        · rw [online_apply fun b => by cases b <;> assumption, hon]
    · by_cases ht : .conn c = t
      · subst ht
        rw [control_own]
        cases hm with
        | closing hc' hm => exact .inr (by rw [closeMove_stage hm]; rw [hc'] at hs; exact hs)
        | conn hc' hm =>
          rw [hc'] at hs
          cases hs
          rcases connMove_online hm with rfl | ⟨hi, rfl⟩
          · exact .inl online_set
          · exact .inl ((keepsAt_of_status hok hc').2 hi hc ho')
      · rw [control_other ht]
        exact .inr hs
  · obtain ⟨rfl, v, hs, rfl⟩ := move_add hm
    rw [control_own, ← hu, hL.named c v (.inr (.inl (by rw [hs])))]
    exact .inr rfl

theorem presence_timedOut (hP : Presence w) (hm : Move w i t e k) {todo : List ConnId}
    (hs : (((w.apply e).setControl t k).control .heartbeat).stage = .removeTimedOut d todo) :
    ((w.apply e).conn d).closed = true ∨
      (((w.apply e).setControl t k).control .heartbeat).closing = some (d, .exchange) := by
  by_cases ht : .heartbeat = t
  · subst ht
    rw [control_own] at hs ⊢
    cases hm with
    | closing hc hm =>
      rw [closeMove_stage hm] at hs
      have hx := hP.timedOut d todo (by rw [hc]; exact hs)
      rw [hc] at hx
      rcases hx with hx | hx
      · exact .inl (closed_apply hx)
      · cases hx
        refine .inl ?_
        cases hm with
        | lost h => exact closed_apply h
        | won => exact (congrArg Conn.closed conn_apply).trans (by simp [connAfter])
        | noSocket hp => rcases hp with hp | hp <;> cases hp
    | heartbeat hc hm =>
      cases hm with
      | close d todo =>
        cases hs
        exact .inr rfl
      | _ => cases hs
  · rw [control_other ht] at hs ⊢
    exact (hP.timedOut d todo hs).imp_left closed_apply

theorem presence_thread (hL : Logins w) (hP : Presence w) (hok : KeepsStatus w (.thread t i))
    (hm : Move w i t e k) : Presence ((w.apply e).setControl t k) :=
  ⟨fun _ _ hc ho => presence_on hL hP hok hm hc ho, fun _ hon => presence_off hL hP hok hm hon,
    fun _ _ hs => presence_timedOut hP hm hs⟩

/-! ## Every run -/

theorem presence_congr (h : Presence w) (hon : w'.online = w.online)
    (htab : w'.userConnections = w.userConnections)
    (hctl : ∀ c, Live (w.control (.conn c)).stage → w'.control (.conn c) = w.control (.conn c))
    (hbeat : w'.control .heartbeat = w.control .heartbeat)
    (huser : ∀ c, (w'.conn c).userId = (w.conn c).userId ∧
      (w'.conn c).authenticated = (w.conn c).authenticated ∧
      ((w.conn c).closed = true → (w'.conn c).closed = true)) : Presence w' := by
  refine ⟨fun u c hc ho => ?_, fun u hu => ?_, fun d todo hs => ?_⟩
  · have ho' : (w.conn c).closed = false := by
      rw [Bool.eq_false_iff] at ho ⊢
      exact fun hx => ho ((huser c).2.2 hx)
    rw [hon]
    refine (h.on u c (htab ▸ hc) ho').imp_right fun hs => ?_
    rw [hctl c (by rw [hs]; exact ⟨nofun, nofun⟩), hs]
  · obtain ⟨c, hlog, hlive, hin⟩ := h.off u (hon ▸ hu)
    refine ⟨c, ?_, ?_, ?_⟩
    · rw [loggedIn_congr ⟨(huser c).1, (huser c).2.1⟩, hlog]
    · rwa [hctl c hlive]
    · rw [htab]
      refine hin.imp_right fun hin => hin.imp (huser c).2.2 fun hs => ?_
      rwa [hctl c hlive]
  · rw [hbeat] at hs ⊢
    exact (h.timedOut d todo hs).imp_left (huser d).2.2

theorem presence_step (hK : Kernel w) (hL : Logins w) (hP : Presence w) (hok : KeepsStatus w l)
    (hs : w.step l = some w') : Presence w' := by
  cases l with
  | accept n =>
    simp only [step, Option.ite_none_right_eq_some, Option.some.injEq] at hs
    refine hs.2 ▸ presence_congr hP rfl rfl (fun c hc => ?_) (control_accepted fun h => by cases h)
      fun _ => ⟨user_accepted.1, user_accepted.2.1, fun hx => user_accepted.2.2.trans hx⟩
    refine control_accepted fun hcr => hc.2 ?_
    rw [(hK.fresh c (le_of_eq (Thread.conn.inj hcr).symm)).2]
  | openOther n | closeOther n =>
    simp only [step, Option.ite_none_right_eq_some, Option.some.injEq] at hs
    exact hs.2 ▸ presence_congr hP rfl rfl (fun _ _ => rfl) rfl fun _ => ⟨rfl, rfl, id⟩
  | destroy c =>
    obtain ⟨n, -, -, -, rfl⟩ := step_destroy hs
    exact presence_congr hP rfl rfl (fun _ _ => rfl) rfl fun _ => user_destroyed
  | thread t i =>
    obtain ⟨e, k, hm, rfl⟩ := step_move hs
    cases t with
    | conn c => exact presence_thread hL hP hok hm
    | heartbeat => exact presence_thread hL hP hok hm

theorem presence_run (h : Run step KeepsStatus init ls w) : (Kernel w ∧ Logins w) ∧ Presence w :=
  h.invariant (I := fun w => (Kernel w ∧ Logins w) ∧ Presence w)
    ⟨⟨kernel_init, logins_init⟩, presence_init⟩ fun _ _ _ hI hok hs =>
    ⟨⟨kernel_step hI.1.1 hs, logins_step hI.1.2 hs⟩, presence_step hI.1.1 hI.1.2 hI.2 hok hs⟩

/-- The threads of connections that were not accepted yet run no handler. -/
theorem quiet_of_created (hK : Kernel w) (h : ∀ c < w.created,
    (w.control (.conn c)).stage.login? = none ∧ ¬ (w.control (.conn c)).stage.Disconnecting) :
    Quiet w := by
  intro c
  by_cases hc : c < w.created
  · exact h c hc
  · rw [(hK.fresh c (Nat.le_of_not_lt hc)).2]
    exact ⟨rfl, fun hs => by rcases hs with hs | hs <;> cases hs⟩

/-- Between handlers, the users with an open entry are ONLINE. -/
theorem online_of_holdsOpen (h : Presence w) (hq : Quiet w) (hu : HoldsOpen w u) :
    w.online u = true := by
  obtain ⟨c, hc, ho⟩ := hu
  refine (h.on u c hc ho).resolve_right fun hs => ?_
  have := (hq c).1
  rw [hs] at this
  cases this

/-- And the others OFFLINE, unless `on_disconnect` of a closed connection is ahead. -/
theorem offline_of_not_holdsOpen (h : Presence w) (hq : Quiet w) (hu : ¬ HoldsOpen w u)
    (ha : ¬ Awaited w u) : w.online u = false := by
  rw [Bool.eq_false_iff]
  intro hon
  obtain ⟨c, hlog, hlive, hin⟩ := h.off u hon
  have hx : (w.conn c).closed = true := by
    rcases hin with hin | hin | hin
    · by_contra hx
      exact hu ⟨c, hin, Bool.eq_false_iff.2 hx⟩
    · exact hin
    · exact absurd hin (hq c).2
  exact ha ⟨c, hx, hlog, hlive⟩

/-- `on_disconnect` while another connection of the user is open and past its own write. -/
theorem offline_over_online (hs : w.control (.conn c) = { stage := .disconnect })
    (hl : (w.conn c).loggedIn = some u) (hu : 0 < u) (hh : HoldsOpen w u)
    (ht : w.step (.thread (.conn c) .ok) = some w') : HoldsOpen w' u ∧ w'.online u = false := by
  have hp : w.connPlan c .disconnect .ok = some (.setOnline u false, { stage := .done }) := by
    simp only [connPlan, hl, if_pos hu]
  obtain rfl := Option.some.inj (ht.symm.trans (step_conn hs hp))
  exact ⟨hh, online_set⟩

end World

end ChatApp.Gateway
