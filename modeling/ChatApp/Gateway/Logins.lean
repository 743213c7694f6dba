/-
  Who a connection is logged in as. `handle_login` writes `user_id_`, then `authenticated_`, then
  enters the connection under its user, so between these steps the connection has the id but not
  yet the flag or the entry (`Logins`). Only the own thread of a connection writes the two, and a
  connection that is logged in changes its user only by another login.
-/
import ChatApp.Gateway.Reads

namespace ChatApp.Gateway

open ChatApp.Lib

/-- The user a thread inside `handle_login` is logging in, from the lookup of an existing
    connection on. -/
def Stage.login? : Stage → Option Nat
  | .loginLookup u | .loginKick u _ | .loginClose u _ | .loginUserId u | .loginAuthenticated u
  | .loginAdd u | .loginOnline u => some u
  | _ => none

/-- The connection `get_connection(u)` returned, with `u`, while the send to it is ahead. -/
def Stage.fetched : Stage → Option (Nat × ConnId)
  | .loginKick u d | .notify u d => some (u, d)
  | _ => none

/-- `user_id_` is written. -/
def Stage.Named (u : Nat) (s : Stage) : Prop :=
  s = .loginAuthenticated u ∨ s = .loginAdd u ∨ s = .loginOnline u

namespace World

variable {w w' : World} {t t' : Thread} {i : Input} {e : Effect} {k : Control} {c d : ConnId}
  {n : Fd} {l : Step} {ls : List Step} {s : Stage} {u v : Nat}

structure Logins (w : World) : Prop where
  positive : ∀ c u, (w.control (.conn c)).stage.login? = some u → 0 < u
  named : ∀ c u, (w.control (.conn c)).stage.Named u → (w.conn c).userId = u
  added : ∀ c u, (w.control (.conn c)).stage = .loginAdd u ∨
    (w.control (.conn c)).stage = .loginOnline u → (w.conn c).authenticated = true
  user : ∀ c, (w.conn c).authenticated = true → 0 < (w.conn c).userId
  outside : ∀ c p, (w.control (.conn c)).stage.fetched = some p →
    (w.control (.conn c)).closing = none

theorem logins_init : Logins init where
  positive _ _ h := by cases h
  named _ _ h := by rcases h with h | h | h <;> cases h
  added _ _ h := by rcases h with h | h <;> cases h
  user _ h := by cases h
  outside _ _ h := by cases h

/-! ## The steps of a login -/

theorem connMove_positive (h : ConnMove w c i s e k) (hk : k.stage.login? = some u) :
    0 < u ∨ s.login? = some u := by
  cases h with
  | login h =>
    cases hk
    exact .inl h
  | existing | noExisting | kicked | setUserId | setAuthenticated | add => exact .inr hk
  | closeOwn h => rcases h with rfl | rfl <;> cases hk
  | unsent h | sent h | sendFails h =>
    cases h with
    | kick => exact .inr hk
    | _ => cases hk
  | _ => cases hk

theorem connMove_named (h : ConnMove w c i s e k) (hk : k.stage.Named u) :
    e = .setUserId c u ∧ k.stage = .loginAuthenticated u ∨
      e = .setAuthenticated c ∧ s = .loginAuthenticated u ∧ k.stage = .loginAdd u ∨
      e = .addConnection c ∧ s = .loginAdd u ∧ k.stage = .loginOnline u := by
  cases h with
  | setUserId => rcases hk with hk | hk | hk <;> cases hk; exact .inl ⟨rfl, rfl⟩
  | setAuthenticated =>
    rcases hk with hk | hk | hk <;> cases hk
    exact .inr (.inl ⟨rfl, rfl, rfl⟩)
  | add =>
    rcases hk with hk | hk | hk <;> cases hk
    exact .inr (.inr ⟨rfl, rfl, rfl⟩)
  | closeOwn h => rcases h with rfl | rfl <;> rcases hk with hk | hk | hk <;> cases hk
  | unsent h | sent h | sendFails h => cases h <;> rcases hk with hk | hk | hk <;> cases hk
  | _ => rcases hk with hk | hk | hk <;> cases hk

/-- A thread fetches a connection from `user_connections_`. -/
theorem connMove_fetched (h : ConnMove w c i s e k) (hk : k.stage.fetched = some (u, d)) :
    e = .skip ∧ k.closing = none ∧ w.userConnections.get? u = some d := by
  cases h with
  | existing h | found h =>
    cases hk
    exact ⟨rfl, rfl, h⟩
  | closeOwn h => rcases h with rfl | rfl <;> cases hk
  | unsent h | sent h | sendFails h => cases h <;> cases hk
  | _ => cases hk

theorem move_setUserId (hm : Move w i t (.setUserId c u) k) :
    t = .conn c ∧ w.control (.conn c) = { stage := .loginUserId u } ∧
      k = { stage := .loginAuthenticated u } := by
  cases hm with
  | closing hc hm => cases hm
  | conn hc hm =>
    cases hm with
    | setUserId => exact ⟨rfl, hc, rfl⟩
  | heartbeat hc hm => cases hm

theorem move_setAuthenticated (hm : Move w i t (.setAuthenticated c) k) :
    t = .conn c ∧ ∃ u, w.control (.conn c) = { stage := .loginAuthenticated u } ∧
      k = { stage := .loginAdd u } := by
  cases hm with
  | closing hc hm => cases hm
  | conn hc hm =>
    cases hm with
    | setAuthenticated u => exact ⟨rfl, u, hc, rfl⟩
  | heartbeat hc hm => cases hm

theorem move_add (hm : Move w i t (.addConnection c) k) :
    t = .conn c ∧ ∃ u, w.control (.conn c) = { stage := .loginAdd u } ∧
      k = { stage := .loginOnline u } := by
  cases hm with
  | closing hc hm => cases hm
  | conn hc hm =>
    cases hm with
    | add u => exact ⟨rfl, u, hc, rfl⟩
  | heartbeat hc hm => cases hm

/-! ## Whose login a connection has -/

theorem user_apply (hu : ∀ u, e ≠ .setUserId c u) (ha : e ≠ .setAuthenticated c) :
    ((w.apply e).conn c).userId = (w.conn c).userId ∧
      ((w.apply e).conn c).authenticated = (w.conn c).authenticated := by
  rw [conn_apply]
  cases e with
  | setUserId d u =>
    have hne : c ≠ d := fun h => hu u (h ▸ rfl)
    simp only [connAfter, hne, if_false, and_self]
  | setAuthenticated d =>
    have hne : c ≠ d := fun h => ha (h ▸ rfl)
    simp only [connAfter, hne, if_false, and_self]
  | construct | setClosed | resetSocket =>
    simp only [connAfter]
    split <;> exact ⟨rfl, rfl⟩
  | _ => exact ⟨rfl, rfl⟩

theorem setUserId_conn : ((w.apply (.setUserId c u)).conn c) = { w.conn c with userId := u } := by
  rw [conn_apply]
  exact if_pos rfl

theorem setAuthenticated_conn :
    ((w.apply (.setAuthenticated c)).conn c) = { w.conn c with authenticated := true } := by
  rw [conn_apply]
  exact if_pos rfl

theorem addConnection_conn : (w.apply (.addConnection c)).conn d = w.conn d := conn_apply

theorem loggedIn_eq_some {x : Conn} :
    x.loggedIn = some u ↔ x.authenticated = true ∧ x.userId = u := by
  simp [Conn.loggedIn]

theorem loggedIn_congr {x y : Conn} (h : y.userId = x.userId ∧ y.authenticated = x.authenticated) :
    y.loggedIn = x.loggedIn := by
  simp only [Conn.loggedIn, h.1, h.2]

/-- A connection stays logged in, unless it logs in again. -/
theorem loggedIn_apply (h : (w.conn d).loggedIn = some u) :
    ((w.apply e).conn d).loggedIn = some u ∨ ∃ v, v ≠ u ∧ e = .setUserId d v := by
  obtain ⟨ha, hu⟩ := loggedIn_eq_some.1 h
  by_cases he : ∃ v, e = .setUserId d v
  · obtain ⟨v, rfl⟩ := he
    by_cases hv : v = u
    · exact .inl (loggedIn_eq_some.2 (by rw [setUserId_conn]; exact ⟨ha, hv⟩))
    · exact .inr ⟨v, hv, rfl⟩
  · refine .inl ?_
    by_cases he' : e = .setAuthenticated d
    · exact loggedIn_eq_some.2 (by rw [he', setAuthenticated_conn]; exact ⟨rfl, hu⟩)
    · rw [loggedIn_congr (user_apply (fun v h => he ⟨v, h⟩) he'), h]

theorem closed_apply (h : (w.conn d).closed = true) : ((w.apply e).conn d).closed = true := by
  rw [conn_apply]
  cases e with
  | construct | setClosed | resetSocket | setUserId | setAuthenticated =>
    simp only [connAfter]
    split <;> first | exact h | rfl
  | _ => exact h

theorem userConnection_of_apply (h : (w.apply e).userConnections.get? u = some d) :
    w.userConnections.get? u = some d ∨ e = .addConnection d ∧ (w.conn d).userId = u := by
  cases e with
  | addConnection c =>
    simp only [apply, addConnection] at h
    split at h
    · rcases SortedMap.get?_insert_eq_some.1 h with ⟨hu, rfl⟩ | ⟨-, h⟩
      · exact .inr ⟨rfl, hu.symm⟩
      · exact .inl h
    · exact .inl h
  | removeConnection c =>
    simp only [apply, removeConnection] at h
    split at h
    · exact .inl (SortedMap.get?_erase_eq_some.1 h).2
    · exact .inl h
  | _ => exact .inl h

/-! ## Every run -/

/-- A step of another thread leaves the login of `c` as it is. -/
theorem user_other (hm : Move w i t e k) (ht : .conn c ≠ t) :
    ((w.apply e).conn c).userId = (w.conn c).userId ∧
      ((w.apply e).conn c).authenticated = (w.conn c).authenticated := by
  refine user_apply ?_ ?_
  · rintro u rfl
    exact ht (move_setUserId hm).1.symm
  · rintro rfl
    exact ht (move_setAuthenticated hm).1.symm

/-- So does `close()`. -/
theorem user_close {p : ClosePhase} (hm : CloseMove w d s p e k) :
    ((w.apply e).conn c).userId = (w.conn c).userId ∧
      ((w.apply e).conn c).authenticated = (w.conn c).authenticated := by
  refine user_apply ?_ ?_
  · rintro u rfl
    cases hm
  · rintro rfl
    cases hm

/-- The stage after a step of the own thread, and what it says about the login. -/
theorem logins_own (h : Logins w) (hm : Move w i (.conn c) e k) :
    (∀ u, k.stage.login? = some u → 0 < u) ∧
    (∀ u, k.stage.Named u → ((w.apply e).conn c).userId = u) ∧
    (∀ u, k.stage = .loginAdd u ∨ k.stage = .loginOnline u →
      ((w.apply e).conn c).authenticated = true) ∧
    (∀ p, k.stage.fetched = some p → k.closing = none) := by
  cases hm with
  | closing hc hm =>
    obtain ⟨hu, ha⟩ := user_close (c := c) hm
    have hs : k.stage = (w.control (.conn c)).stage := by rw [closeMove_stage hm, hc]
    rw [hs, hu, ha]
    refine ⟨h.positive c, h.named c, h.added c, fun p hp => ?_⟩
    have hx := h.outside c p hp
    rw [hc] at hx
    cases hx
  | conn hc hm =>
    refine ⟨fun u hu => ?_, fun u hu => ?_, fun u hu => ?_,
      fun p hp => (connMove_fetched hm hp).2.1⟩
    · rcases connMove_positive hm hu with hpos | hs
      · exact hpos
      · exact h.positive c u (by rwa [hc])
    · rcases connMove_named hm hu with ⟨rfl, -⟩ | ⟨rfl, rfl, -⟩ | ⟨rfl, rfl, -⟩
      · rw [setUserId_conn]
      · rw [setAuthenticated_conn]
        exact h.named c u (.inl (by rw [hc]))
      · rw [addConnection_conn]
        exact h.named c u (.inr (.inl (by rw [hc])))
    · rcases connMove_named hm (.inr hu) with ⟨-, hk⟩ | ⟨rfl, -, -⟩ | ⟨rfl, rfl, -⟩
      · rw [hk] at hu
        rcases hu with hu | hu <;> cases hu
      · rw [setAuthenticated_conn]
      · rw [addConnection_conn]
        exact h.added c u (.inl (by rw [hc]))

/-- A connection that is authenticated has a user. -/
theorem user_positive (h : Logins w) (hm : Move w i t e k)
    (ha : ((w.apply e).conn c).authenticated = true) : 0 < ((w.apply e).conn c).userId := by
  by_cases hu : ∃ u, e = .setUserId c u
  · obtain ⟨u, rfl⟩ := hu
    obtain ⟨rfl, hc, -⟩ := move_setUserId hm
    rw [setUserId_conn]
    exact h.positive c u (by rw [hc]; rfl)
  by_cases ha' : e = .setAuthenticated c
  · subst ha'
    obtain ⟨rfl, u, hc, -⟩ := move_setAuthenticated hm
    rw [setAuthenticated_conn]
    show 0 < (w.conn c).userId
    rw [h.named c u (.inl (by rw [hc]))]
    exact h.positive c u (by rw [hc]; rfl)
  · obtain ⟨h1, h2⟩ := user_apply (w := w) (fun u he => hu ⟨u, he⟩) ha'
    rw [h1]
    exact h.user c (h2 ▸ ha)

theorem logins_thread (h : Logins w) (hm : Move w i t e k) :
    Logins ((w.apply e).setControl t k) := by
  have hown := fun {c} (ht : .conn c = t) => logins_own (c := c) h (ht ▸ hm)
  refine ⟨fun c u hs => ?_, fun c u hs => ?_, fun c u hs => ?_, fun c ha => user_positive h hm ha,
    fun c p hs => ?_⟩
  all_goals by_cases ht : .conn c = t
  · rw [ht, control_own] at hs
    exact (hown ht).1 u hs
  · rw [control_other ht] at hs
    exact h.positive c u hs
  · rw [ht, control_own] at hs
    exact (hown ht).2.1 u hs
  · rw [control_other ht] at hs
    exact (user_other hm ht).1.trans (h.named c u hs)
  · rw [ht, control_own] at hs
    exact (hown ht).2.2.1 u hs
  · rw [control_other ht] at hs
    exact (user_other hm ht).2.trans (h.added c u hs)
  · rw [ht, control_own] at hs ⊢
    exact (hown ht).2.2.2 p hs
  · rw [control_other ht] at hs ⊢
    exact h.outside c p hs

/-- The logins read only these parts of the world. -/
theorem logins_congr (h : Logins w)
    (hctl : ∀ c, w'.control (.conn c) = w.control (.conn c) ∨
      w'.control (.conn c) = { stage := .handshake })
    (huser : ∀ c, (w'.conn c).userId = (w.conn c).userId ∧
      (w'.conn c).authenticated = (w.conn c).authenticated) : Logins w' := by
  refine ⟨fun c u hs => ?_, fun c u hs => ?_, fun c u hs => ?_, fun c ha => ?_, fun c p hs => ?_⟩
  · rcases hctl c with hc | hc
    · exact h.positive c u (hc ▸ hs)
    · rw [hc] at hs
      cases hs
  · rcases hctl c with hc | hc
    · exact (huser c).1.trans (h.named c u (hc ▸ hs))
    · rw [hc] at hs
      rcases hs with hs | hs | hs <;> cases hs
  · rcases hctl c with hc | hc
    · exact (huser c).2.trans (h.added c u (hc ▸ hs))
    · rw [hc] at hs
      rcases hs with hs | hs <;> cases hs
  · rw [(huser c).1]
    exact h.user c ((huser c).2 ▸ ha)
  · rcases hctl c with hc | hc
    · rw [hc] at hs ⊢
      exact h.outside c p hs
    · rw [hc] at hs
      cases hs

theorem user_accepted : ((w.accepted n).conn c).userId = (w.conn c).userId ∧
    ((w.accepted n).conn c).authenticated = (w.conn c).authenticated ∧
    ((w.accepted n).conn c).closed = (w.conn c).closed := by
  by_cases h : c = w.created
  · subst h
    simp [accepted]
  · rw [conn_accepted h]
    exact ⟨rfl, rfl, rfl⟩

theorem control_accepted_or : (w.accepted n).control (.conn c) = w.control (.conn c) ∨
    (w.accepted n).control (.conn c) = { stage := .handshake } := by
  by_cases h : c = w.created
  · subst h
    exact .inr (Function.update_self ..)
  · exact .inl (control_accepted fun he => h (Thread.conn.inj he))

theorem user_destroyed : ((w.destroyed c n).conn d).userId = (w.conn d).userId ∧
    ((w.destroyed c n).conn d).authenticated = (w.conn d).authenticated ∧
    ((w.conn d).closed = true → ((w.destroyed c n).conn d).closed = true) := by
  rw [conn_destroyed]
  split
  · exact ⟨rfl, rfl, fun _ => rfl⟩
  · exact ⟨rfl, rfl, id⟩

theorem logins_step (h : Logins w) (hs : w.step l = some w') : Logins w' := by
  cases l with
  | accept n =>
    simp only [step, Option.ite_none_right_eq_some, Option.some.injEq] at hs
    exact hs.2 ▸ logins_congr h (fun _ => control_accepted_or)
      fun _ => ⟨user_accepted.1, user_accepted.2.1⟩
  | openOther n | closeOther n =>
    simp only [step, Option.ite_none_right_eq_some, Option.some.injEq] at hs
    exact hs.2 ▸ logins_congr h (fun _ => .inl rfl) fun _ => ⟨rfl, rfl⟩
  | destroy c =>
    obtain ⟨n, -, -, -, rfl⟩ := step_destroy hs
    exact logins_congr h (fun _ => .inl rfl) fun _ => ⟨user_destroyed.1, user_destroyed.2.1⟩
  | thread t i =>
    obtain ⟨e, k, hm, rfl⟩ := step_move hs
    exact logins_thread h hm

end World

end ChatApp.Gateway
