/-
  Descriptor numbers. A connection's `socket_` is the number its thread got from `accept`, and
  from the upgrade to the `::close` in `close()` that number is the connection's in the kernel;
  only the thread that won the exchange of `closed_` gets there. So `shutdown` and `::close`
  always hit the own descriptor, in every run (`Kernel`).

  Reads are different. The message loop tests `closed_`, then polls and reads the raw number. If
  another thread closes the connection in between and the kernel hands the number out again, the
  thread reads what the new owner's peer sent. The condition on a run (`NotReused`): the kernel
  does not hand out a number while a thread whose connection had it is between that test and
  its `recv`.
-/
import ChatApp.Gateway.Threads

namespace ChatApp.Gateway

open ChatApp.Lib

namespace World

variable {w w' : World} {t t' : Thread} {i : Input} {e : Effect} {k : Control} {c d : ConnId}
  {n : Fd} {l : Step} {ls : List Step} {s : Stage}

/-- The upgrade is behind, the thread still runs. -/
def Live (s : Stage) : Prop := s ≠ .handshake ∧ s ≠ .done

/-- Thread `t` won the exchange of `closed_` of `c` and is still in `close()`. -/
def Closes (w : World) (t : Thread) (c : ConnId) (p : ClosePhase) : Prop :=
  (w.control t).closing = some (c, p) ∧ p ≠ .exchange

structure Kernel (w : World) : Prop where
  fresh : ∀ c, w.created ≤ c → (w.conn c).socket = none ∧ w.control (.conn c) = { stage := .done }
  handshake : ∀ c, (w.control (.conn c)).stage = .handshake →
    (w.conn c).socket = none ∧ w.fds (w.conn c).clientSocket = some (.conn c)
  inside : ∀ t, (w.control t).closing ≠ none → Live (w.control t).stage
  closed : ∀ t c p, w.Closes t c p → (w.conn c).closed = true
  one : ∀ t t' c p p', w.Closes t c p → w.Closes t' c p' → t = t'
  number : ∀ c n, (w.conn c).socket = some n → n = (w.conn c).clientSocket
  owner : ∀ c n, (w.conn c).socket = some n → (∀ t, ¬ w.Closes t c .reset) →
    w.fds n = some (.conn c)
  opened : ∀ c, Live (w.control (.conn c)).stage → (w.conn c).closed = false →
    (w.conn c).socket = some (w.conn c).clientSocket
  hangups : ∀ c o, (c, o) ∈ w.hangups → o = some (.conn c)

theorem kernel_init : Kernel init where
  fresh _ _ := ⟨rfl, rfl⟩
  handshake _ h := by cases h
  inside t h := by cases t <;> exact absurd rfl h
  closed t _ _ h := by cases t <;> cases h.1
  one t _ _ _ _ h := by cases t <;> cases h.1
  number _ _ h := by cases h
  owner _ _ h := by cases h
  opened _ h := absurd rfl h.2
  hangups _ _ h := by cases h

/-! ## Steps that do not touch the descriptors -/

/-- Effects on something else than descriptors, `socket_` and `closed_`. -/
def Plain : Effect → Prop
  | .construct _ | .refuse _ | .setClosed _ | .shutdown .. | .close .. | .resetSocket _ => False
  | _ => True

theorem plain_conn (h : Plain e) : ((w.apply e).conn c).socket = (w.conn c).socket ∧
    ((w.apply e).conn c).clientSocket = (w.conn c).clientSocket ∧
    ((w.apply e).conn c).closed = (w.conn c).closed := by
  rw [conn_apply]
  cases e with
  | construct | refuse | setClosed | shutdown | close | resetSocket => exact h.elim
  | setUserId | setAuthenticated =>
    simp only [connAfter]
    split <;> exact ⟨rfl, rfl, rfl⟩
  | _ => exact ⟨rfl, rfl, rfl⟩

theorem plain_kernel (h : Plain e) :
    (w.apply e).fds = w.fds ∧ (w.apply e).hangups = w.hangups := by
  cases e with
  | construct | refuse | setClosed | shutdown | close | resetSocket => exact h.elim
  | addConnection c =>
    simp only [apply, addConnection]
    split <;> exact ⟨rfl, rfl⟩
  | _ => exact ⟨rfl, rfl⟩

/-- A thread goes on without a step past the exchange in `close()`. -/
structure Calm (k k' : Control) : Prop where
  live : Live k.stage
  stage : k'.stage ≠ .handshake
  inside : k'.closing ≠ none → Live k'.stage
  exchange : ∀ d p, k'.closing = some (d, p) → p = .exchange
  reset : ∀ d, k.closing ≠ some (d, .reset)

/-- The control of another thread is untouched. -/
theorem control_other {k : Control} (h : t' ≠ t) :
    ((w.apply e).setControl t k).control t' = w.control t' :=
  control_step.trans (if_neg h)

theorem control_own {k : Control} : ((w.apply e).setControl t k).control t = k :=
  control_step.trans (if_pos rfl)

theorem fresh_other (h : Kernel w) (ht : (w.control t).stage ≠ .done) (hc : w.created ≤ c) :
    Thread.conn c ≠ t := by
  rintro rfl
  rw [(h.fresh c hc).2] at ht
  exact ht rfl

theorem kernel_plain (h : Kernel w) (he : Plain e) (hk : Calm (w.control t) k) :
    Kernel ((w.apply e).setControl t k) := by
  obtain ⟨hfds, hhang⟩ := plain_kernel (w := w) he
  have hsock : ∀ c, ((w.apply e).conn c).socket = (w.conn c).socket := fun c => (plain_conn he).1
  have hnum : ∀ c, ((w.apply e).conn c).clientSocket = (w.conn c).clientSocket :=
    fun c => (plain_conn he).2.1
  have hclosed : ∀ c, ((w.apply e).conn c).closed = (w.conn c).closed :=
    fun c => (plain_conn he).2.2
  have hcl : ∀ {t' c p}, ((w.apply e).setControl t k).Closes t' c p → w.Closes t' c p := by
    rintro t' c p ⟨hc, hp⟩
    rw [control_step] at hc
    split at hc
    case isTrue => exact absurd (hk.exchange c p hc) hp
    case isFalse => exact ⟨hc, hp⟩
  constructor
  · intro c hc
    rw [show ((w.apply e).setControl t k).created = w.created from created_apply] at hc
    rw [control_other (fresh_other h hk.live.2 hc)]
    exact ⟨(hsock c).trans (h.fresh c hc).1, (h.fresh c hc).2⟩
  · intro c hs
    rw [control_step] at hs
    split at hs
    case isTrue => exact absurd hs hk.stage
    case isFalse =>
      obtain ⟨h1, h2⟩ := h.handshake c hs
      refine ⟨(hsock c).trans h1, ?_⟩
      show (w.apply e).fds ((w.apply e).conn c).clientSocket = _
      rw [hfds, hnum, h2]
  · intro t' hx
    rw [control_step] at hx ⊢
    split at hx
    case isTrue ht => exact if_pos ht ▸ hk.inside hx
    case isFalse ht => exact if_neg ht ▸ h.inside t' hx
  · exact fun t' c p hc => (hclosed c).trans (h.closed t' c p (hcl hc))
  · exact fun t₁ t₂ c p p' h1 h2 => h.one t₁ t₂ c p p' (hcl h1) (hcl h2)
  · intro c n hs
    rw [show (((w.apply e).setControl t k).conn c).socket = _ from hsock c] at hs
    exact (h.number c n hs).trans (hnum c).symm
  · intro c n hs hno
    rw [show (((w.apply e).setControl t k).conn c).socket = _ from hsock c] at hs
    show (w.apply e).fds n = _
    rw [hfds]
    refine h.owner c n hs fun t' hc => ?_
    by_cases ht : t' = t
    · subst ht
      exact hk.reset c hc.1
    · exact hno t' ⟨by rw [control_other ht]; exact hc.1, hc.2⟩
  · intro c hl hc
    rw [show (((w.apply e).setControl t k).conn c).closed = _ from hclosed c] at hc
    show ((w.apply e).conn c).socket = some ((w.apply e).conn c).clientSocket
    rw [hsock, hnum]
    refine h.opened c ?_ hc
    rw [control_step] at hl
    split at hl
    case isTrue ht => exact ht ▸ hk.live
    case isFalse => exact hl
  · intro c o hm
    rw [show ((w.apply e).setControl t k).hangups = _ from hhang] at hm
    exact h.hangups c o hm

/-! ## Steps that do -/

theorem kernel_setClosed (h : Kernel w)
    (hc : w.control t = { stage := s, closing := some (d, .exchange) })
    (hd : (w.conn d).closed = false)
    (hw : After w (.setClosed d) t { stage := s, closing := some (d, .shutdown) } w')
    (hf : w'.fds = w.fds) (hh : w'.hangups = w.hangups) : Kernel w' := by
  obtain ⟨fresh, handshake, inside, closed, one, number, owner, opened, hangups⟩ := h
  obtain ⟨hctl, hconn, hcr⟩ := hw
  simp only [connAfter, Closes, Live] at *
  have hs := inside t
  constructor <;> try simp only [Closes, Live]
  all_goals grind

theorem kernel_shutdown (h : Kernel w)
    (hc : w.control t = { stage := s, closing := some (d, .shutdown) })
    (hd : (w.conn d).socket = some n)
    (hw : After w (.shutdown d n) t { stage := s, closing := some (d, .close) } w')
    (hf : w'.fds = w.fds) (hh : w'.hangups = (d, w.fds n) :: w.hangups) : Kernel w' := by
  obtain ⟨fresh, handshake, inside, closed, one, number, owner, opened, hangups⟩ := h
  obtain ⟨hctl, hconn, hcr⟩ := hw
  simp only [connAfter, Closes, Live] at *
  have hs := inside t
  constructor <;> try simp only [Closes, Live]
  all_goals grind

theorem kernel_close (h : Kernel w)
    (hc : w.control t = { stage := s, closing := some (d, .close) })
    (hd : (w.conn d).socket = some n)
    (hw : After w (.close d n) t { stage := s, closing := some (d, .reset) } w')
    (hf : w'.fds = Function.update w.fds n none) (hh : w'.hangups = (d, w.fds n) :: w.hangups) :
    Kernel w' := by
  obtain ⟨fresh, handshake, inside, closed, one, number, owner, opened, hangups⟩ := h
  obtain ⟨hctl, hconn, hcr⟩ := hw
  simp only [connAfter, Closes, Live] at *
  have hs := inside t
  have hf' := fun m => congrFun hf m
  simp only [Function.update_apply] at hf'
  constructor <;> try simp only [Closes, Live]
  all_goals grind

theorem kernel_reset (h : Kernel w)
    (hc : w.control t = { stage := s, closing := some (d, .reset) })
    (hw : After w (.resetSocket d) t { stage := s } w')
    (hf : w'.fds = w.fds) (hh : w'.hangups = w.hangups) : Kernel w' := by
  obtain ⟨fresh, handshake, inside, closed, one, number, owner, opened, hangups⟩ := h
  obtain ⟨hctl, hconn, hcr⟩ := hw
  simp only [connAfter, Closes, Live] at *
  have hs := inside t
  constructor <;> try simp only [Closes, Live]
  all_goals grind

theorem kernel_construct (h : Kernel w)
    (hc : w.control (.conn c) = { stage := .handshake })
    (hw : After w (.construct c) (.conn c) { stage := .register } w')
    (hf : w'.fds = w.fds) (hh : w'.hangups = w.hangups) : Kernel w' := by
  obtain ⟨fresh, handshake, inside, closed, one, number, owner, opened, hangups⟩ := h
  obtain ⟨hctl, hconn, hcr⟩ := hw
  simp only [connAfter, Closes, Live] at *
  constructor <;> try simp only [Closes, Live]
  all_goals grind

theorem kernel_refuse (h : Kernel w)
    (hc : w.control (.conn c) = { stage := .handshake })
    (hw : After w (.refuse c) (.conn c) { stage := .done } w')
    (hf : w'.fds = Function.update w.fds (w.conn c).clientSocket none)
    (hh : w'.hangups = (c, w.fds (w.conn c).clientSocket) :: w.hangups) : Kernel w' := by
  obtain ⟨fresh, handshake, inside, closed, one, number, owner, opened, hangups⟩ := h
  obtain ⟨hctl, hconn, hcr⟩ := hw
  simp only [connAfter, Closes, Live] at *
  have hf' := fun m => congrFun hf m
  simp only [Function.update_apply] at hf'
  constructor <;> try simp only [Closes, Live]
  all_goals grind

theorem kernel_accept (h : Kernel w) (hn : w.fds n = none) : Kernel (w.accepted n) := by
  obtain ⟨fresh, handshake, inside, closed, one, number, owner, opened, hangups⟩ := h
  have hctl : ∀ t, (w.accepted n).control t =
      if t = .conn w.created then { stage := .handshake } else w.control t :=
    fun _ => Function.update_apply ..
  have hconn : ∀ c, (w.accepted n).conn c =
      if c = w.created then { w.conn w.created with clientSocket := n } else w.conn c :=
    fun _ => Function.update_apply ..
  have hfds : ∀ m, (w.accepted n).fds m =
      if m = n then some (.conn w.created) else w.fds m :=
    fun _ => Function.update_apply ..
  have hcr : (w.accepted n).created = w.created + 1 := rfl
  have hh : (w.accepted n).hangups = w.hangups := rfl
  simp only [Closes, Live] at *
  constructor <;> try simp only [Closes, Live]
  all_goals grind

theorem conn_destroyed : (w.destroyed c n).conn d =
    if d = c then { w.conn d with closed := true, socket := none } else w.conn d := by
  simp only [destroyed, conn_apply, connAfter]
  by_cases h : d = c
  · simp only [h, if_true]
  · simp only [h, if_false]

/-- A connection that is not closed has its number in the kernel. -/
theorem owner_of_open (h : Kernel w) (hn : (w.conn c).socket = some n)
    (hc : (w.conn c).closed = false) : w.fds n = some (.conn c) :=
  h.owner c n hn fun t ht => Bool.false_ne_true (hc.symm.trans (h.closed t c _ ht))

theorem kernel_destroy (h : Kernel w) (hn : (w.conn c).socket = some n)
    (hc : (w.conn c).closed = false) (hu : w.Unreferenced c) : Kernel (w.destroyed c n) := by
  have hown := owner_of_open h hn hc
  obtain ⟨fresh, handshake, inside, closed, one, number, owner, opened, hangups⟩ := h
  have hctl : ∀ t, (w.destroyed c n).control t = w.control t := fun _ => rfl
  have hconn := fun d => conn_destroyed (w := w) (c := c) (d := d) (n := n)
  have hfds : ∀ m, (w.destroyed c n).fds m = if m = n then none else w.fds m :=
    fun _ => Function.update_apply ..
  have hcr : (w.destroyed c n).created = w.created := rfl
  have hh : (w.destroyed c n).hangups = (c, w.fds n) :: (c, w.fds n) :: w.hangups := rfl
  have hdone := hu.1
  simp only [Closes, Live] at *
  constructor <;> try simp only [Closes, Live]
  all_goals grind

theorem kernel_openOther (h : Kernel w) (hn : w.fds n = none) :
    Kernel { w with fds := Function.update w.fds n (some .other) } := by
  obtain ⟨fresh, handshake, inside, closed, one, number, owner, opened, hangups⟩ := h
  have hne : ∀ c m, w.fds m = some (.conn c) → m ≠ n := fun c m hm he => by
    rw [he, hn] at hm
    cases hm
  refine ⟨fresh, fun c hc => ⟨(handshake c hc).1, ?_⟩, inside, closed, one, number,
    fun c m hm ho => ?_, opened, hangups⟩
  · exact (Function.update_of_ne (hne c _ (handshake c hc).2) ..).trans (handshake c hc).2
  · exact (Function.update_of_ne (hne c _ (owner c m hm ho)) ..).trans (owner c m hm ho)

theorem kernel_closeOther (h : Kernel w) (hn : w.fds n = some .other) :
    Kernel { w with fds := Function.update w.fds n none } := by
  obtain ⟨fresh, handshake, inside, closed, one, number, owner, opened, hangups⟩ := h
  have hne : ∀ c m, w.fds m = some (.conn c) → m ≠ n := fun c m hm he => by
    rw [he, hn] at hm
    cases hm
  refine ⟨fresh, fun c hc => ⟨(handshake c hc).1, ?_⟩, inside, closed, one, number,
    fun c m hm ho => ?_, opened, hangups⟩
  · exact (Function.update_of_ne (hne c _ (handshake c hc).2) ..).trans (handshake c hc).2
  · exact (Function.update_of_ne (hne c _ (owner c m hm ho)) ..).trans (owner c m hm ho)

/-! ## Every run -/

/-- The steps of a connection thread other than the two ends of the handshake. -/
theorem connMove_calm (h : ConnMove w c i s e k) (hs : s ≠ .handshake) :
    Plain e ∧ Calm { stage := s } k := by
  have hexch : ∀ {d s'} d' p, (callClose d s').closing = some (d', p) → p = .exchange := by
    rintro d s' d' p h
    cases h
    rfl
  cases h with
  | construct | refuse => exact absurd rfl hs
  | leave h =>
    refine ⟨trivial, ?_, nofun, nofun, nofun, nofun⟩
    cases s <;> first | exact h.elim | exact ⟨nofun, nofun⟩
  | closeOwn h =>
    refine ⟨trivial, ⟨nofun, nofun⟩, ?_, fun _ => ?_, hexch, nofun⟩
    · rcases h with rfl | rfl <;> nofun
    · rcases h with rfl | rfl <;> exact ⟨nofun, nofun⟩
  | unsent h | sent h =>
    cases h <;> exact ⟨trivial, ⟨nofun, nofun⟩, nofun, nofun, nofun, nofun⟩
  | sendFails h =>
    cases h <;> exact ⟨trivial, ⟨nofun, nofun⟩, nofun, fun _ => ⟨nofun, nofun⟩, hexch, nofun⟩
  | kicked => exact ⟨trivial, ⟨nofun, nofun⟩, nofun, fun _ => ⟨nofun, nofun⟩, hexch, nofun⟩
  | _ => exact ⟨trivial, ⟨nofun, nofun⟩, nofun, nofun, nofun, nofun⟩

theorem heartbeatMove_calm (h : HeartbeatMove w s e k) : Plain e ∧ Calm { stage := s } k := by
  have hexch : ∀ {d s'} d' p, (callClose d s').closing = some (d', p) → p = .exchange := by
    rintro d s' d' p h
    cases h
    rfl
  cases h with
  | pingFails | close =>
    exact ⟨trivial, ⟨nofun, nofun⟩, nofun, fun _ => ⟨nofun, nofun⟩, hexch, nofun⟩
  | _ => exact ⟨trivial, ⟨nofun, nofun⟩, nofun, nofun, nofun, nofun⟩

theorem kernel_thread (h : Kernel w) (hm : Move w i t e k) :
    Kernel ((w.apply e).setControl t k) := by
  have hw : After w e t k ((w.apply e).setControl t k) := after_step
  cases hm with
  | @closing _ s d p _ _ hc hm =>
    have hlive : Live s := by
      have := h.inside t (by rw [hc]; exact nofun)
      rwa [hc] at this
    have hcalm : p ≠ .reset → Calm (w.control t) { stage := s } := fun hp =>
      ⟨by rwa [hc], hlive.1, nofun, nofun, fun d' hd => by rw [hc] at hd; cases hd; exact hp rfl⟩
    cases hm with
    | lost => exact kernel_plain h trivial (hcalm nofun)
    | won hd => exact kernel_setClosed h hc hd hw rfl rfl
    | shutdown hd => exact kernel_shutdown h hc hd hw rfl rfl
    | close hd => exact kernel_close h hc hd hw rfl rfl
    | noSocket hp =>
      exact kernel_plain h trivial (hcalm (by rcases hp with rfl | rfl <;> exact nofun))
    | reset => exact kernel_reset h hc hw rfl rfl
  | @conn c s _ _ hc hm =>
    by_cases hs : s = .handshake
    · subst hs
      cases hm with
      | construct => exact kernel_construct h hc hw rfl rfl
      | refuse => exact kernel_refuse h hc hw rfl rfl
      | leave h => exact h.elim
      | unsent h | sent h | sendFails h => cases h
    · obtain ⟨he, hk⟩ := connMove_calm hm hs
      exact kernel_plain h he (hc ▸ hk)
  | heartbeat hc hm =>
    obtain ⟨he, hk⟩ := heartbeatMove_calm hm
    exact kernel_plain h he (hc ▸ hk)

theorem kernel_step (h : Kernel w) (hs : w.step l = some w') : Kernel w' := by
  cases l with
  | accept n =>
    simp only [step, Option.ite_none_right_eq_some, Option.some.injEq] at hs
    exact hs.2 ▸ kernel_accept h hs.1
  | openOther n =>
    simp only [step, Option.ite_none_right_eq_some, Option.some.injEq] at hs
    exact hs.2 ▸ kernel_openOther h hs.1
  | closeOther n =>
    simp only [step, Option.ite_none_right_eq_some, Option.some.injEq] at hs
    exact hs.2 ▸ kernel_closeOther h hs.1
  | destroy c =>
    obtain ⟨n, hn, hc, hu, rfl⟩ := step_destroy hs
    exact kernel_destroy h hn hc hu
  | thread t i =>
    obtain ⟨e, k, hm, rfl⟩ := step_move hs
    exact kernel_thread h hm

theorem kernel_run {ok : World → Step → Prop} (h : Run step ok init ls w) : Kernel w :=
  h.invariant kernel_init fun _ _ _ hI _ hs => kernel_step hI hs

end World

end ChatApp.Gateway
