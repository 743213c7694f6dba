/-
  Who gets a message. A handler addresses a user, finds the connection in `user_connections_` and
  sends on it. Entries are made under the id the connection has; but `handle_login` may write
  another id over it, and neither the entry nor a pointer some handler fetched before goes away.

  The condition on a run (`KeepsUser`): no login gives a connection another user than one whose
  messages still go out on it. Then every entry is a connection of its user, and every addressed
  message was sent on a connection logged in as the addressee. The first login against the
  condition leads to a state where one of the two fails.
-/
import ChatApp.Gateway.Logins

namespace ChatApp.Gateway

open ChatApp.Lib

namespace World

variable {w w' : World} {t t' : Thread} {i : Input} {e : Effect} {k : Control} {c d : ConnId}
  {n : Fd} {l : Step} {ls : List Step} {s : Stage} {u v : Nat}

/-- The users whose messages can go out on `c`: it is their entry, or it is not closed and some
    handler has fetched it for them. -/
def addressees (w : World) (c : ConnId) : List Nat :=
  (w.userConnections.entries.filter (·.2 = c)).map (·.1) ++
    if (w.conn c).closed then []
    else ((List.range w.created).filterMap fun d => (w.control (.conn d)).stage.fetched).filterMap
      fun p => if p.2 = c then some p.1 else none

/-- The step writes the user `v` to the connection `c`. -/
def naming (w : World) : Step → Option (ConnId × Nat)
  | .thread (.conn c) _ =>
    match w.control (.conn c) with
    | { stage := .loginUserId v, closing := none } => some (c, v)
    | _ => none
  | _ => none

/-- The step does not take a connection away from another user. -/
def KeepsUser (w : World) (l : Step) : Prop :=
  ∀ p ∈ w.naming l, ∀ u ∈ w.addressees p.1, u = p.2

instance (w : World) : DecidablePred w.KeepsUser :=
  fun _ => inferInstanceAs (Decidable (∀ p ∈ _, _))

/-- Entries are connections of their user, and addressed messages were sent to the addressee. -/
def Addressed (w : World) : Prop :=
  (∀ u c, w.userConnections.get? u = some c → (w.conn c).userId = u) ∧
    ∀ m ∈ w.sent, m.loggedIn = some m.addressee

structure Recipients (w : World) : Prop where
  entry : ∀ u c, w.userConnections.get? u = some c → (w.conn c).loggedIn = some u
  held : ∀ c u d, (w.control (.conn c)).stage.fetched = some (u, d) →
    (w.conn d).closed = true ∨ (w.conn d).loggedIn = some u
  sent : ∀ m ∈ w.sent, m.loggedIn = some m.addressee

theorem recipients_init : Recipients init where
  entry _ _ h := by cases h
  held _ _ _ h := by cases h
  sent _ h := by cases h

theorem mem_addressees : u ∈ w.addressees c ↔ w.userConnections.get? u = some c ∨
    (w.conn c).closed = false ∧
      ∃ d < w.created, (w.control (.conn d)).stage.fetched = some (u, c) := by
  rw [addressees, List.mem_append, SortedMap.get?_eq_some]
  refine or_congr (by simp) ?_
  cases (w.conn c).closed with
  | true => simp
  | false =>
    rw [if_neg Bool.false_ne_true, List.mem_filterMap]
    constructor
    · rintro ⟨⟨a, b⟩, hp, hu⟩
      obtain ⟨d, hd, hf⟩ := List.mem_filterMap.1 hp
      obtain ⟨rfl, rfl⟩ : b = c ∧ a = u := by simpa using hu
      exact ⟨rfl, d, List.mem_range.1 hd, hf⟩
    · rintro ⟨-, d, hd, hf⟩
      exact ⟨(u, c), List.mem_filterMap.2 ⟨d, List.mem_range.2 hd, hf⟩, if_pos rfl⟩

theorem naming_eq_some : w.naming (.thread t i) = some (c, v) ↔
    t = .conn c ∧ w.control (.conn c) = { stage := .loginUserId v } := by
  cases t with
  | heartbeat => simp [naming]
  | conn d =>
    simp only [naming]
    constructor
    · intro h
      split at h
      case h_1 v hc =>
        cases h
        exact ⟨rfl, hc⟩
      case h_2 => cases h
    · rintro ⟨hd, hc⟩
      cases hd
      rw [hc]

/-! ## The steps -/

theorem sent_of_apply {m : Sent} (h : m ∈ (w.apply e).sent) :
    m ∈ w.sent ∨ ∃ u d, e = .send u d ∧ m = ⟨u, d, (w.conn d).loggedIn⟩ := by
  cases e with
  | send u d =>
    rcases List.mem_cons.1 h with rfl | h
    · exact .inr ⟨u, d, rfl, rfl⟩
    · exact .inl h
  | addConnection c =>
    simp only [apply, addConnection] at h
    split at h <;> exact .inl h
  | _ => exact .inl h

/-- The connection a message goes out on is the addressee's entry, or was fetched as such. -/
theorem move_send (hm : Move w i t (.send u d) k) : (w.conn d).closed = false ∧
    (w.userConnections.get? u = some d ∨
      ∃ c, (w.control (.conn c)).stage.fetched = some (u, d)) := by
  cases hm with
  | closing hc hm => cases hm
  | @conn c _ _ _ hc hm =>
    cases hm with
    | sent h hd | sendFails h hd =>
      refine ⟨hd, ?_⟩
      cases h with
      | broadcast h => exact .inl h
      | kick | notify => exact .inr ⟨c, by rw [hc]; rfl⟩
  | heartbeat hc hm => cases hm

/-- A login that keeps users leaves the connections messages go out on as they are. -/
theorem loggedIn_kept (hok : KeepsUser w (.thread t i)) (hm : Move w i t e k)
    (hu : u ∈ w.addressees d) (h : (w.conn d).loggedIn = some u) :
    ((w.apply e).conn d).loggedIn = some u := by
  rcases loggedIn_apply (e := e) h with h | ⟨v, hne, rfl⟩
  · exact h
  · obtain ⟨rfl, hc, -⟩ := move_setUserId hm
    exact absurd (hok (d, v) (naming_eq_some.2 ⟨rfl, hc⟩) u hu) hne.symm

theorem recipients_entry (hL : Logins w) (h : Recipients w) (hok : KeepsUser w (.thread t i))
    (hm : Move w i t e k) (hc : (w.apply e).userConnections.get? u = some c) :
    ((w.apply e).conn c).loggedIn = some u := by
  rcases userConnection_of_apply hc with hc | ⟨rfl, hu⟩
  · exact loggedIn_kept hok hm (mem_addressees.2 (.inl hc)) (h.entry u c hc)
  · obtain ⟨rfl, v, hs, -⟩ := move_add hm
    rw [addConnection_conn, loggedIn_eq_some]
    exact ⟨hL.added c v (.inl (by rw [hs])), hu⟩

/-- What a thread holds after its step. -/
theorem recipients_held (h : Recipients w) (hm : Move w i (.conn c) e k)
    (hs : k.stage.fetched = some (u, d)) :
    (w.conn d).closed = true ∨ (w.conn d).loggedIn = some u := by
  cases hm with
  | closing hc hm =>
    rw [closeMove_stage hm] at hs
    exact h.held c u d (by rwa [hc])
  | conn hc hm => exact .inr (h.entry u d (connMove_fetched hm hs).2.2)

/-- The thread that fetches a connection does not write to it in the same step. -/
theorem fetched_not_named (hm : Move w i (.conn c) e k) (hs : k.stage.fetched = some (u, d)) :
    e ≠ .setUserId c v := by
  rintro rfl
  rw [(move_setUserId hm).2.2] at hs
  cases hs

theorem recipients_thread (hK : Kernel w) (hL : Logins w) (h : Recipients w)
    (hok : KeepsUser w (.thread t i)) (hm : Move w i t e k) :
    Recipients ((w.apply e).setControl t k) := by
  refine ⟨fun u c hc => recipients_entry hL h hok hm hc, fun c u d hs => ?_, fun m hs => ?_⟩
  · by_cases ht : .conn c = t
    · subst ht
      rw [control_own] at hs
      refine (recipients_held h hm hs).imp closed_apply fun hl => ?_
      rcases loggedIn_apply (e := e) hl with hl | ⟨v, -, rfl⟩
      · exact hl
      · obtain ⟨hd, -, -⟩ := move_setUserId hm
        cases hd
        exact absurd rfl (fetched_not_named hm hs)
    · rw [control_other ht] at hs
      cases hx : (w.conn d).closed with
      | true => exact .inl (closed_apply hx)
      | false =>
        have hlt : c < w.created := by
          by_contra hge
          rw [(hK.fresh c (Nat.le_of_not_lt hge)).2] at hs
          cases hs
        have hl := (h.held c u d hs).resolve_left (by simp [hx])
        exact .inr (loggedIn_kept hok hm (mem_addressees.2 (.inr ⟨hx, c, hlt, hs⟩)) hl)
  · rcases sent_of_apply hs with hs | ⟨u, d, rfl, rfl⟩
    · exact h.sent m hs
    · obtain ⟨hd, hu | ⟨c, hc⟩⟩ := move_send hm
      · exact h.entry u d hu
      · exact (h.held c u d hc).resolve_left (by simp [hd])

/-! ## Every run -/

theorem recipients_congr (h : Recipients w) (htab : w'.userConnections = w.userConnections)
    (hsent : w'.sent = w.sent)
    (hctl : ∀ c, w'.control (.conn c) = w.control (.conn c) ∨
      w'.control (.conn c) = { stage := .handshake })
    (huser : ∀ c, (w'.conn c).userId = (w.conn c).userId ∧
      (w'.conn c).authenticated = (w.conn c).authenticated ∧
      ((w.conn c).closed = true → (w'.conn c).closed = true)) : Recipients w' := by
  have hlog : ∀ c, (w'.conn c).loggedIn = (w.conn c).loggedIn := fun c =>
    loggedIn_congr ⟨(huser c).1, (huser c).2.1⟩
  refine ⟨fun u c hc => ?_, fun c u d hs => ?_, fun m hm => h.sent m (hsent ▸ hm)⟩
  · rw [hlog]
    exact h.entry u c (htab ▸ hc)
  · rcases hctl c with hc | hc
    · rw [hlog]
      exact (h.held c u d (hc ▸ hs)).imp_left (huser d).2.2
    · rw [hc] at hs
      cases hs

theorem recipients_step (hK : Kernel w) (hL : Logins w) (h : Recipients w) (hok : KeepsUser w l)
    (hs : w.step l = some w') : Recipients w' := by
  cases l with
  | accept n =>
    simp only [step, Option.ite_none_right_eq_some, Option.some.injEq] at hs
    exact hs.2 ▸ recipients_congr h rfl rfl (fun _ => control_accepted_or)
      fun _ => ⟨user_accepted.1, user_accepted.2.1, fun hx => user_accepted.2.2.trans hx⟩
  | openOther n | closeOther n =>
    simp only [step, Option.ite_none_right_eq_some, Option.some.injEq] at hs
    exact hs.2 ▸ recipients_congr h rfl rfl (fun _ => .inl rfl) fun _ => ⟨rfl, rfl, id⟩
  | destroy c =>
    obtain ⟨n, -, -, -, rfl⟩ := step_destroy hs
    exact recipients_congr h rfl rfl (fun _ => .inl rfl) fun _ => user_destroyed
  | thread t i =>
    obtain ⟨e, k, hm, rfl⟩ := step_move hs
    exact recipients_thread hK hL h hok hm

theorem recipients_run (h : Run step KeepsUser init ls w) :
    (Kernel w ∧ Logins w) ∧ Recipients w :=
  h.invariant (I := fun w => (Kernel w ∧ Logins w) ∧ Recipients w)
    ⟨⟨kernel_init, logins_init⟩, recipients_init⟩ fun _ _ _ hI hok hs =>
    ⟨⟨kernel_step hI.1.1 hs, logins_step hI.1.2 hs⟩,
      recipients_step hI.1.1 hI.1.2 hI.2 hok hs⟩

theorem addressed_of_recipients (h : Recipients w) : Addressed w :=
  ⟨fun u c hc => (loggedIn_eq_some.1 (h.entry u c hc)).2, h.sent⟩

/-! ## A login that takes the connection away -/

/-- A thread that has fetched `c` for `u` sends to it, whoever it is logged in as. -/
theorem send_fetched (hs : (w.control (.conn d)).stage.fetched = some (u, c))
    (hx : (w.control (.conn d)).closing = none) (hc : (w.conn c).closed = false) :
    ∃ t, w.step (.thread (.conn d) .ok) = some t ∧ ⟨u, c, (w.conn c).loggedIn⟩ ∈ t.sent := by
  have hsend : ∀ s s', w.control (.conn d) = { stage := s } →
      w.connPlan d s .ok = some (w.sendPlan u c s' true) →
      ∃ t, w.step (.thread (.conn d) .ok) = some t ∧ ⟨u, c, (w.conn c).loggedIn⟩ ∈ t.sent := by
    intro s s' hd hp
    rw [sendPlan, hc] at hp
    exact ⟨_, step_conn hd hp, List.mem_cons_self⟩
  have hd := control_eq rfl hx
  cases hst : (w.control (.conn d)).stage with
  | loginKick | notify =>
    rw [hst] at hs hd
    cases hs
    exact hsend _ _ hd rfl
  | _ =>
    rw [hst] at hs
    cases hs

/-- The step that writes `user_id_`. -/
theorem step_naming (hp : w.naming l = some (c, v)) (hs : w.step l = some w') :
    w'.conn c = { w.conn c with userId := v } ∧ w'.userConnections = w.userConnections ∧
      ∀ d, d ≠ c → w'.control (.conn d) = w.control (.conn d) := by
  cases l with
  | accept | openOther | closeOther | destroy => cases hp
  | thread t i =>
    obtain ⟨rfl, hc⟩ := naming_eq_some.1 hp
    obtain ⟨e, k, hm, rfl⟩ := step_move hs
    cases hm with
    | closing hc' =>
      rw [hc] at hc'
      cases hc'
    | conn hc' hm =>
      rw [hc] at hc'
      cases hc'
      cases hm with
      | setUserId =>
        exact ⟨setUserId_conn, rfl, fun d hd => control_other fun he => hd (Thread.conn.inj he)⟩
      | leave h => exact h.elim
      | unsent h | sent h | sendFails h => cases h

theorem naming_stage (hp : w.naming l = some (c, v)) :
    (w.control (.conn c)).stage = .loginUserId v := by
  cases l with
  | accept | openOther | closeOther | destroy => cases hp
  | thread t i => rw [(naming_eq_some.1 hp).2]

/-- After a login that does not keep users, an entry is wrong, or a message can be sent to the
    wrong user. -/
theorem stray_login (hL : Logins w) (h : Recipients w) (hok : ¬ KeepsUser w l)
    (hs : w.step l = some w') : ∃ ms t, exec step w' ms = some t ∧ ¬ Addressed t := by
  simp only [KeepsUser, not_forall] at hok
  obtain ⟨⟨c, v⟩, hp, u, hu, hne⟩ := hok
  obtain ⟨hconn, htab, hctl⟩ := step_naming hp hs
  rcases mem_addressees.1 hu with hu | ⟨hx, d, -, hd⟩
  · refine ⟨[], w', rfl, fun hA => hne ?_⟩
    have hv := hA.1 u c (htab ▸ hu)
    rw [hconn] at hv
    exact hv.symm
  · have ha := (loggedIn_eq_some.1 ((h.held d u c hd).resolve_left (by simp [hx]))).1
    have hdc : d ≠ c := by
      rintro rfl
      rw [naming_stage hp] at hd
      cases hd
    obtain ⟨t, ht, hmem⟩ := send_fetched (w := w') (d := d) (u := u) (c := c)
      (by rw [hctl d hdc]; exact hd) (by rw [hctl d hdc]; exact hL.outside d _ hd)
      (by rw [hconn]; exact hx)
    refine ⟨[_], t, by rw [exec_cons, ht]; rfl, fun hA => hne ?_⟩
    have hv := hA.2 _ hmem
    rw [hconn] at hv
    exact (loggedIn_eq_some.1 hv).2.symm

end World

end ChatApp.Gateway
