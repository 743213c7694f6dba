/-
  Frames after a LOGIN. A handler reads `authenticated_` when it starts. If the frames of the
  session take effect in order, it reads what the earlier frames have made of it: true after a
  LOGIN that succeeded, unless a LOGOUT came in between.
-/
import ChatApp.Pipeline.Order
import ChatApp.Session.Refusals

namespace ChatApp.Pipeline

open ChatApp.Lib ChatApp.Lib.Prog ChatApp.Protocol ChatApp.Session

variable {ρ : Type} {cfg : ThreadPool.Config} {o : Outside ρ} {s t : State ρ} {l : Label}
  {x : SessionId} {m n : Nat}

/-- The call sets `authenticated_`. -/
def logsIn : Call → Bool
  | .setAuthenticated auth => auth
  | _ => false

theorem logsIn_eq_true {c : Call} : logsIn c = true ↔ c = .setAuthenticated true := by
  cases c <;> simp [logsIn]

namespace State

variable (s : State ρ)

def type? (n : Nat) : Option MessageType := (s.request? n).bind fun r => MessageType.ofCode r.type

/-- The handler of the frame has set `authenticated_`. -/
def LoggedInBy (n : Nat) : Prop := ∃ a ∈ s.acts, a.frame = n ∧ logsIn a.step.call = true

/-- The frame was answered with 401. -/
def Refuses (n : Nat) : Prop := ∃ a ∈ s.acts, a.frame = n ∧ refuses a.step.call = true

/-- The frame comes after a LOGIN of the session that succeeded, with no LOGOUT in between. -/
def Covered (x : SessionId) (n : Nat) : Prop :=
  ∃ m < n, s.session? m = some x ∧ s.LoggedInBy m ∧
    ∀ k < n, m < k → s.session? k = some x → s.type? k ≠ some .logout

instance : Decidable (s.LoggedInBy n) := inferInstanceAs (Decidable (∃ a ∈ s.acts, _))

instance : Decidable (s.Refuses n) := inferInstanceAs (Decidable (∃ a ∈ s.acts, _))

instance : Decidable (s.Covered x n) := inferInstanceAs (Decidable (∃ m < n, _))

end State

theorem session_of_request {r : Request} (h : s.request? n = some r) :
    s.session? n = some r.session := congrArg _ h

theorem type_of_request {r : Request} (h : s.request? n = some r) :
    s.type? n = MessageType.ofCode r.type := congrArg (Option.bind · _) h

theorem sound_request (r : Request) (login : Nat × Bool) :
    CallsOnly (Sound login.2 (MessageType.ofCode r.type)) (r.task login) :=
  sound_task ⟨r.session, login.1, login.2⟩ r.sequence r.body r.type

/-- A frame that has started was covered before. -/
theorem covered_of_move {p : Prog interface Unit} (hs : Sequenced x s) (h : Move cfg o s l t)
    (hn : s.handlers n = some p) (hx : s.session? n = some x) (hc : t.Covered x n) :
    s.Covered x n := by
  obtain ⟨m, hm, hmx, ⟨a, ha, rfl, hcall⟩, hbetween⟩ := hc
  have hlt : n < s.frames.length := lt_of_session hx
  have hgrow {f : Option Request} (hframes : t.frames = s.frames ++ [f]) (hacts : t.acts = s.acts) :
      s.Covered x n := by
    have hold {k : Nat} (hk : k < n) : t.request? k = s.request? k :=
      request_append hframes (by omega)
    refine ⟨a.frame, hm, ?_, ⟨a, hacts ▸ ha, rfl, hcall⟩, fun k hkn hk hkx htype => ?_⟩
    · exact (congrArg _ (hold hm)).symm.trans hmx
    · refine hbetween k hkn hk ((congrArg _ (hold hkn)).trans hkx) ?_
      exact (congrArg (Option.bind · _) (hold hkn)).trans htype
  cases h with
  | arrive => exact hgrow rfl rfl
  | stop => exact hgrow rfl rfl
  | @act n' r c k hr hn' =>
    rcases List.mem_append.1 ha with ha | ha
    · exact ⟨a.frame, hm, hmx, ⟨a, ha, rfl, hcall⟩, hbetween⟩
    · -- the handler of an earlier frame would still be at work
      obtain rfl := List.mem_singleton.1 ha
      have hended := (hs.settled n p hn hx n' hm hmx).2
      rw [hn'] at hended
      exact absurd hended Bool.false_ne_true
  | _ => exact ⟨a.frame, hm, hmx, ⟨a, ha, rfl, hcall⟩, hbetween⟩

/-! ## The invariant -/

/-- What is known of the call of a frame: the handler has started with `authenticated_` equal to
    `auth`. -/
def Judged (x : SessionId) (s : State ρ) (n : Nat) (auth : Bool) : Prop :=
  s.session? n = some x → s.Covered x n → auth = true

structure Guarded (x : SessionId) (s : State ρ) : Prop where
  rest : ∀ n p, s.handlers n = some p → ∃ r auth, s.request? n = some r ∧
    CallsOnly (Sound auth (MessageType.ofCode r.type)) p ∧ Judged x s n auth
  made : ∀ a ∈ s.acts, ∃ r auth, s.request? a.frame = some r ∧
    Sound auth (MessageType.ofCode r.type) a.step.call ∧ Judged x s a.frame auth
  flag : ∀ a ∈ s.acts, s.session? a.frame = some x → a.step.call = .setAuthenticated true →
    (s.logins x).2 = true ∨ ∃ b ∈ s.acts, s.session? b.frame = some x ∧ a.frame ≤ b.frame ∧
      b.step.call = .setAuthenticated false

theorem guarded_start {world : ρ × Connected} : Guarded x (.start cfg world) :=
  ⟨fun _ p h => absurd h (Option.some_ne_none p).symm, fun _ ha => absurd ha List.not_mem_nil,
    fun _ ha => absurd ha List.not_mem_nil⟩

/-- The flag that the handler of a covered frame reads. -/
theorem Guarded.authenticated (hg : Guarded x s)
    (hlate : ∀ b ∈ s.acts, s.session? b.frame = some x → b.frame < n) (hc : s.Covered x n) :
    (s.logins x).2 = true := by
  obtain ⟨m, hm, hmx, ⟨a, ha, rfl, hlogin⟩, hbetween⟩ := hc
  have hcall := logsIn_eq_true.1 hlogin
  rcases hg.flag a ha hmx hcall with hflag | ⟨b, hb, hbx, hab, hlogout⟩
  · exact hflag
  obtain ⟨r, auth, hr, hsound, -⟩ := hg.made b hb
  obtain ⟨r', auth', hr', hsound', -⟩ := hg.made a ha
  have hne : a.frame ≠ b.frame := by
    intro heq
    rw [heq, hr] at hr'
    obtain rfl := Option.some.inj hr'
    have htypes := (hsound.logout hlogout).symm.trans (hsound'.login hcall)
    exact absurd htypes (by decide)
  have hlt : a.frame < b.frame := by omega
  exact absurd ((type_of_request hr).trans (hsound.logout hlogout))
    (hbetween b.frame (hlate b hb hbx) hlt hbx)

section
variable {p : Prog interface Unit} (hs : Sequenced x s) (h : Move cfg o s l t)
include hs h

theorem request_of_move (hn : s.handlers n = some p) : t.request? n = s.request? n := by
  cases h with
  | arrive _ hnew => exact request_append rfl (hs.ne_new hnew hn)
  | stop hnew => exact request_append rfl (hs.ne_new hnew hn)
  | _ => rfl

theorem Judged.move {auth : Bool} (hj : Judged x s n auth) (hn : s.handlers n = some p) :
    Judged x t n auth := by
  intro hx hc
  have hx' : s.session? n = some x := (congrArg _ (request_of_move hs h hn)).symm.trans hx
  exact hj hx' (covered_of_move hs h hn hx' hc)

/-- A step of no handler. -/
theorem Guarded.quiet (hg : Guarded x s) (hhandlers : t.handlers = s.handlers)
    (hacts : t.acts = s.acts) (hlogins : t.logins = s.logins) : Guarded x t := by
  refine ⟨fun n p hn => ?_, fun a ha => ?_, fun a ha hx hcall => ?_⟩
  · rw [hhandlers] at hn
    obtain ⟨r, auth, hr, hcalls, hj⟩ := hg.rest n p hn
    exact ⟨r, auth, (request_of_move hs h hn).trans hr, hcalls, hj.move hs h hn⟩
  · rw [hacts] at ha
    obtain ⟨p, hp⟩ := hs.started a ha
    obtain ⟨r, auth, hr, hsound, hj⟩ := hg.made a ha
    exact ⟨r, auth, (request_of_move hs h hp).trans hr, hsound, hj.move hs h hp⟩
  · rw [hacts] at ha ⊢
    rw [hlogins]
    have hsame {b : Act ρ} (hb : b ∈ s.acts) : t.session? b.frame = s.session? b.frame := by
      obtain ⟨p, hp⟩ := hs.started b hb
      exact congrArg _ (request_of_move hs h hp)
    refine (hg.flag a ha (hsame ha ▸ hx) hcall).imp_right ?_
    rintro ⟨b, hb, hbx, hab, hlogout⟩
    exact ⟨b, hb, (hsame hb).trans hbx, hab, hlogout⟩

end

/-- A worker starts the handler of a frame. -/
theorem Guarded.begin {k : Nat} {u : ThreadPool.Task} {r : Request} (hg : Guarded x s)
    (hs : Sequenced x s) (htop : s.pool.core.top k = some u) (hr : s.request? u.id = some r)
    (h : Move cfg o s l t) (hframes : t.frames = s.frames) (hlogins : t.logins = s.logins)
    (hhandlers : t.handlers =
      Function.update s.handlers u.id (some (r.task (s.logins r.session))))
    (hacts : t.acts = s.acts) : Guarded x t := by
  have hmem := ThreadPool.mem_of_top htop
  have hrequest : t.request? = s.request? := request_same hframes
  have hsession : t.session? = s.session? := session_same hframes
  have hlate : ∀ b ∈ s.acts, s.session? b.frame = some x → s.session? u.id = some x →
      b.frame < u.id := by
    intro b hb hbx hux
    obtain ⟨q, hq⟩ := hs.started b hb
    by_contra hle
    rcases Nat.eq_or_lt_of_not_lt hle with heq | hlt
    · exact (hs.known _ q hq).2 u hmem heq.symm
    · exact (hs.settled _ q hq hbx u.id hlt hux).1 u hmem rfl
  refine ⟨fun n q hn => ?_, fun a ha => ?_, ?_⟩
  · rw [hrequest]
    rw [hhandlers] at hn
    rcases eq_or_ne n u.id with rfl | hne
    · rw [Function.update_self] at hn
      obtain rfl := Option.some.inj hn
      refine ⟨r, (s.logins r.session).2, hr, sound_request r _, fun hx hc => ?_⟩
      rw [hsession] at hx
      obtain rfl : r.session = x := Option.some.inj ((session_of_request hr).symm.trans hx)
      refine hg.authenticated (fun b hb hbx => hlate b hb hbx hx) ?_
      unfold State.Covered State.LoggedInBy State.type? at hc ⊢
      rwa [hsession, hacts, hrequest] at hc
    · rw [Function.update_of_ne hne] at hn
      obtain ⟨r', auth, hr', hcalls, hj⟩ := hg.rest n q hn
      exact ⟨r', auth, hr', hcalls, hj.move hs h hn⟩
  · rw [hrequest]
    obtain ⟨q, hq⟩ := hs.started a (hacts ▸ ha)
    obtain ⟨r', auth, hr', hsound, hj⟩ := hg.made a (hacts ▸ ha)
    exact ⟨r', auth, hr', hsound, hj.move hs h hq⟩
  · rw [hacts, hsession, hlogins]
    exact hg.flag

/-- `authenticated_` after a call. -/
theorem setLogin_cases (logins : SessionId → Nat × Bool) (y : SessionId) (c : Call) :
    (setLogin logins y c x).2 = (logins x).2 ∨
      y = x ∧ ∃ auth, c = .setAuthenticated auth ∧ (setLogin logins y c x).2 = auth := by
  rcases eq_or_ne y x with rfl | hne
  · cases c with
    | setUserId => exact .inl (by simp [setLogin])
    | setAuthenticated auth => exact .inr ⟨rfl, auth, rfl, by simp [setLogin]⟩
    | _ => exact .inl rfl
  · refine .inl ?_
    cases c with
    | setUserId => exact congrArg _ (Function.update_of_ne hne.symm _ _)
    | setAuthenticated => exact congrArg _ (Function.update_of_ne hne.symm _ _)
    | _ => rfl

/-- A handler makes a call. -/
theorem Guarded.act {step : Step interface (ρ × Connected)}
    {k : step.call.Answer → Prog interface Unit} {r : Request} (hg : Guarded x s)
    (hs : Sequenced x s) (hr : s.request? n = some r)
    (hn : s.handlers n = some (.call step.call k)) (h : Move cfg o s l t) (ht : Sequenced x t)
    (hframes : t.frames = s.frames) (hlogins : t.logins = setLogin s.logins r.session step.call)
    (hhandlers : t.handlers = Function.update s.handlers n (some (k step.answer)))
    (hacts : t.acts = s.acts ++ [⟨n, step⟩]) : Guarded x t := by
  obtain ⟨r', auth, hr', hcalls, hj⟩ := hg.rest n _ hn
  obtain rfl := Option.some.inj (hr.symm.trans hr')
  have hrequest : t.request? = s.request? := request_same hframes
  have hsession : t.session? = s.session? := session_same hframes
  have hmem (b : Act ρ) : b ∈ t.acts ↔ b ∈ s.acts ∨ b = ⟨n, step⟩ := by
    rw [hacts, List.mem_append, List.mem_singleton]
  refine ⟨fun n' q hn' => ?_, fun b hb => ?_, fun b hb hbx hcall => ?_⟩
  · rw [hrequest]
    rw [hhandlers] at hn'
    rcases eq_or_ne n' n with rfl | hne
    · rw [Function.update_self] at hn'
      obtain rfl := Option.some.inj hn'
      exact ⟨r, auth, hr, hcalls.2 _, hj.move hs h hn⟩
    · rw [Function.update_of_ne hne] at hn'
      obtain ⟨r', auth', hr', hcalls', hj'⟩ := hg.rest n' q hn'
      exact ⟨r', auth', hr', hcalls', hj'.move hs h hn'⟩
  · rw [hrequest]
    rcases (hmem b).1 hb with hb | rfl
    · obtain ⟨q, hq⟩ := hs.started b hb
      obtain ⟨r', auth', hr', hsound, hj'⟩ := hg.made b hb
      exact ⟨r', auth', hr', hsound, hj'.move hs h hq⟩
    · exact ⟨r, auth, hr, hcalls.1, hj.move hs h hn⟩
  · rw [hsession] at hbx ⊢
    rw [hlogins]
    rcases setLogin_cases s.logins r.session step.call (x := x) with
      hsame | ⟨rfl, value, hvalue, hlogin⟩
    · rw [hsame]
      rcases (hmem b).1 hb with hb | rfl
      · refine (hg.flag b hb hbx hcall).imp_right ?_
        rintro ⟨b', hb', hrest⟩
        exact ⟨b', (hmem b').2 (.inl hb'), hrest⟩
      · -- the call itself sets it
        obtain rfl : r.session = x := Option.some.inj ((session_of_request hr).symm.trans hbx)
        have hcall' : step.call = .setAuthenticated true := hcall
        rw [hcall'] at hsame
        exact .inl (hsame.symm.trans (by simp [setLogin]))
    · rw [hlogin]
      cases value with
      | true => exact .inl rfl
      | false =>
        refine .inr ⟨⟨n, step⟩, (hmem _).2 (.inr rfl), session_of_request hr, ?_, hvalue⟩
        rcases (hmem b).1 hb with hb | rfl
        · have hordered := hacts ▸ ht.ordered
          rw [hsession] at hordered
          exact (List.pairwise_append.1 hordered).2.2 b hb _ List.mem_cons_self hbx
            (session_of_request hr)
        · exact Nat.le_refl _

theorem Guarded.move (hg : Guarded x s) (hs : Sequenced x s) (hok : InOrder x s l)
    (h : Move cfg o s l t) : Guarded x t := by
  have ht := hs.move hok h
  have hmove := h
  cases h with
  | begin hi htop hp htasks hr => exact hg.begin hs htop hr hmove rfl rfl rfl rfl
  | act hr hn hfree => exact hg.act hs hr hn hmove ht rfl rfl rfl rfl
  | _ => exact hg.quiet hs hmove rfl rfl rfl

theorem guarded_run {world : ρ × Connected} {ls : List Label}
    (h : Run (step cfg o) (InOrder x) (.start cfg world) ls s) : Guarded x s := by
  have hboth : Sequenced x s ∧ Guarded x s :=
    h.invariant (I := fun s => Sequenced x s ∧ Guarded x s) ⟨sequenced_start, guarded_start⟩
      fun _ _ _ hI hok hstep =>
        ⟨hI.1.move hok (step_move hstep), hI.2.move hI.1 hok (step_move hstep)⟩
  exact hboth.2

/-- A covered frame that is no LOGIN is not refused. -/
theorem Guarded.admits (hg : Guarded x s) (hx : s.session? n = some x) (hc : s.Covered x n)
    (htype : s.type? n ≠ some .login) : ¬ s.Refuses n := by
  rintro ⟨a, ha, rfl, hrefuses⟩
  obtain ⟨r, auth, hr, hsound, hj⟩ := hg.made a ha
  have hfalse := hsound.admits (hj hx hc) (type_of_request hr ▸ htype)
  exact Bool.false_ne_true (hfalse.symm.trans hrefuses)

end ChatApp.Pipeline
