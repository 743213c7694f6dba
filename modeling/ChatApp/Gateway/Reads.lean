/-
  Whose bytes a connection thread reads. The message loop tests `closed_`, polls and reads; from
  the test on it relies on a number that another thread may have closed. As long as the kernel
  does not hand out such a number (`NotReused`), every read is from the own descriptor. A number
  handed out in that window can be read at once.
-/
import ChatApp.Gateway.Descriptors

namespace ChatApp.Gateway

open ChatApp.Lib

namespace World

variable {w w' : World} {t t' : Thread} {i : Input} {e : Effect} {k : Control} {c d : ConnId}
  {n : Fd} {l : Step} {ls : List Step} {s : Stage}

/-- The thread of `c` is between its test of `closed_` and the end of `recv`. -/
def Watching (w : World) (c : ConnId) : Prop :=
  (w.control (.conn c)).stage = .poll ∨ (w.control (.conn c)).stage = .recv

/-- The kernel hands out no number that a thread is about to poll or to read. -/
def NotReused (w : World) : Step → Prop
  | .accept n | .openOther n => ∀ c, w.Watching c → (w.conn c).clientSocket ≠ n
  | _ => True

/-- Every read of a connection thread was from a descriptor of its own connection. -/
def OwnBytes (w : World) : Prop := ∀ c o, (c, o) ∈ w.received → o = .conn c

/-- Every `shutdown` and `::close` hit a descriptor of the connection it was meant for. -/
def OwnHangups (w : World) : Prop := ∀ c o, (c, o) ∈ w.hangups → o = some (.conn c)

/-- A number that is about to be read is the reader's or not open. -/
structure OwnReads (w : World) : Prop where
  outside : ∀ c, w.Watching c → (w.control (.conn c)).closing = none
  watch : ∀ c, w.Watching c →
    w.fds (w.conn c).clientSocket = none ∨ w.fds (w.conn c).clientSocket = some (.conn c)
  own : OwnBytes w

theorem ownReads_init : OwnReads init where
  outside _ _ := rfl
  watch _ h := by rcases h with h | h <;> cases h
  own _ _ h := by cases h

theorem clientSocket_apply : ((w.apply e).conn c).clientSocket = (w.conn c).clientSocket := by
  rw [conn_apply]
  cases e with
  | construct | setClosed | resetSocket | setUserId | setAuthenticated =>
    simp only [connAfter]
    split <;> rfl
  | _ => rfl

/-- A thread only takes numbers away. -/
theorem fds_apply : (w.apply e).fds n = w.fds n ∨ (w.apply e).fds n = none := by
  cases e with
  | refuse | close =>
    simp only [apply, closeFd, Function.update_apply]
    split
    · exact .inr rfl
    · exact .inl rfl
  | addConnection c =>
    simp only [apply, addConnection]
    split <;> exact .inl rfl
  | _ => exact .inl rfl

theorem received_apply (he : ∀ c o, e ≠ .receive c o) : (w.apply e).received = w.received := by
  cases e with
  | receive c o => exact absurd rfl (he c o)
  | addConnection c =>
    simp only [apply, addConnection]
    split <;> rfl
  | _ => rfl

/-- A step of `close()` leaves the stage as it is. -/
theorem closeMove_stage {p : ClosePhase} (h : CloseMove w d s p e k) : k.stage = s := by
  cases h <;> rfl

/-- A thread gets to `poll` only while its connection is not closed, and from there to `recv`. -/
theorem connMove_watch (h : ConnMove w c i s e k) (hk : k.stage = .poll ∨ k.stage = .recv) :
    k.closing = none ∧ (s = .loopHead ∧ (w.conn c).closed = false ∨ s = .poll) := by
  cases h with
  | enter h => exact ⟨rfl, .inl ⟨rfl, h⟩⟩
  | readable => exact ⟨rfl, .inr rfl⟩
  | closeOwn h => rcases h with rfl | rfl <;> rcases hk with hk | hk <;> cases hk
  | unsent h | sent h | sendFails h => cases h <;> rcases hk with hk | hk <;> cases hk
  | _ => rcases hk with hk | hk <;> cases hk

theorem watch_own (h : Kernel w) (hr : OwnReads w) (hm : Move w i (.conn c) e k)
    (hk : k.stage = .poll ∨ k.stage = .recv) : k.closing = none ∧
    (w.fds (w.conn c).clientSocket = none ∨ w.fds (w.conn c).clientSocket = some (.conn c)) := by
  cases hm with
  | closing hc hm =>
    rw [closeMove_stage hm] at hk
    have hx := hr.outside c (by rwa [Watching, hc])
    rw [hc] at hx
    cases hx
  | conn hc hm =>
    obtain ⟨hx, hs⟩ := connMove_watch hm hk
    refine ⟨hx, ?_⟩
    rcases hs with ⟨rfl, hcl⟩ | rfl
    · have hlive : Live (w.control (.conn c)).stage := by
        rw [hc]
        exact ⟨nofun, nofun⟩
      exact .inr (owner_of_open h (h.opened c hlive hcl) hcl)
    · exact hr.watch c (.inl (by rw [hc]))

/-- The source of a read. -/
theorem move_receive {o : Owner} (hm : Move w i t (.receive c o) k) :
    t = .conn c ∧ w.Watching c ∧ w.fds (w.conn c).clientSocket = some o := by
  cases hm with
  | closing hc hm => cases hm
  | conn hc hm =>
    cases hm with
    | receive ho => exact ⟨rfl, .inr (by rw [hc]), ho⟩
  | heartbeat hc hm => cases hm

theorem ownBytes_apply (hr : OwnReads w) (hm : Move w i t e k) : OwnBytes (w.apply e) := by
  by_cases he : ∃ c o, e = .receive c o
  · obtain ⟨c, o, rfl⟩ := he
    obtain ⟨rfl, hw, ho⟩ := move_receive hm
    intro d p hp
    rcases List.mem_cons.1 hp with hp | hp
    · cases hp
      rcases hr.watch c hw with hn | hn
      · rw [hn] at ho
        cases ho
      · rw [hn] at ho
        cases ho
        rfl
    · exact hr.own d p hp
  · intro d p hp
    rw [received_apply fun c o h => he ⟨c, o, h⟩] at hp
    exact hr.own d p hp

theorem ownReads_thread (h : Kernel w) (hr : OwnReads w) (hm : Move w i t e k) :
    OwnReads ((w.apply e).setControl t k) := by
  have hown : ∀ c, ((w.apply e).setControl t k).Watching c → .conn c = t →
      k.closing = none ∧ (w.fds (w.conn c).clientSocket = none ∨
        w.fds (w.conn c).clientSocket = some (.conn c)) := by
    rintro c hc rfl
    rw [Watching, control_own] at hc
    exact watch_own h hr hm hc
  have hother : ∀ c, ((w.apply e).setControl t k).Watching c → .conn c ≠ t → w.Watching c := by
    intro c hc ht
    rwa [Watching, control_other ht] at hc
  refine ⟨fun c hc => ?_, fun c hc => ?_, ownBytes_apply hr hm⟩
  · by_cases ht : .conn c = t
    · rw [ht, control_own]
      exact (hown c hc ht).1
    · rw [control_other ht]
      exact hr.outside c (hother c hc ht)
  show (w.apply e).fds ((w.apply e).conn c).clientSocket = none ∨
    (w.apply e).fds ((w.apply e).conn c).clientSocket = some (.conn c)
  rw [clientSocket_apply]
  have hbefore : w.fds (w.conn c).clientSocket = none ∨
      w.fds (w.conn c).clientSocket = some (.conn c) := by
    by_cases ht : .conn c = t
    · exact (hown c hc ht).2
    · exact hr.watch c (hother c hc ht)
  rcases fds_apply (w := w) (e := e) (n := (w.conn c).clientSocket) with hf | hf
  · rwa [hf]
  · exact .inl hf

/-- Closing a number, or handing out another one. -/
theorem watch_update {f : Fd → Option Owner} {m : Fd} {x : Option Owner}
    (h : f m = none ∨ f m = some (.conn c)) (hx : x = none ∨ m ≠ n) :
    Function.update f n x m = none ∨ Function.update f n x m = some (.conn c) := by
  rw [Function.update_apply]
  split
  case isTrue hm => exact hx.elim .inl fun hne => absurd hm hne
  case isFalse => exact h

theorem ownReads_accept (hr : OwnReads w) (hok : NotReused w (.accept n)) :
    OwnReads (w.accepted n) := by
  have hold : ∀ c, (w.accepted n).Watching c → c ≠ w.created ∧ w.Watching c := by
    intro c hc
    have hne : c ≠ w.created := by
      rintro rfl
      simp [Watching, accepted] at hc
    exact ⟨hne, by simpa [Watching, accepted, hne] using hc⟩
  refine ⟨fun c hc => ?_, fun c hc => ?_, hr.own⟩
  · obtain ⟨hne, hc'⟩ := hold c hc
    have hctl : (w.accepted n).control (.conn c) = w.control (.conn c) :=
      control_accepted fun h => hne (Thread.conn.inj h)
    rw [hctl]
    exact hr.outside c hc'
  · obtain ⟨hne, hc'⟩ := hold c hc
    have hconn : (w.accepted n).conn c = w.conn c := conn_accepted hne
    rw [hconn]
    exact watch_update (hr.watch c hc') (.inr (hok c hc'))

theorem ownReads_destroy (hr : OwnReads w) : OwnReads (w.destroyed c n) := by
  refine ⟨hr.outside, fun d hd => ?_, hr.own⟩
  have hnum : ((w.destroyed c n).conn d).clientSocket = (w.conn d).clientSocket := by
    rw [conn_destroyed]
    split <;> rfl
  rw [hnum]
  exact watch_update (hr.watch d hd) (.inl rfl)

theorem ownReads_step (h : Kernel w) (hr : OwnReads w) (hok : NotReused w l)
    (hs : w.step l = some w') : OwnReads w' := by
  cases l with
  | accept n =>
    simp only [step, Option.ite_none_right_eq_some, Option.some.injEq] at hs
    exact hs.2 ▸ ownReads_accept hr hok
  | openOther n =>
    simp only [step, Option.ite_none_right_eq_some, Option.some.injEq] at hs
    exact hs.2 ▸ ⟨hr.outside, fun c hc => watch_update (hr.watch c hc) (.inr (hok c hc)), hr.own⟩
  | closeOther n =>
    simp only [step, Option.ite_none_right_eq_some, Option.some.injEq] at hs
    exact hs.2 ▸ ⟨hr.outside, fun c hc => watch_update (hr.watch c hc) (.inl rfl), hr.own⟩
  | destroy c =>
    obtain ⟨n, -, -, -, rfl⟩ := step_destroy hs
    exact ownReads_destroy hr
  | thread t i =>
    obtain ⟨e, k, hm, rfl⟩ := step_move hs
    exact ownReads_thread h hr hm

theorem ownReads_run (h : Run step NotReused init ls w) : OwnReads w :=
  (h.invariant (I := fun w => Kernel w ∧ OwnReads w) ⟨kernel_init, ownReads_init⟩
    fun _ _ _ hI hok hs => ⟨kernel_step hI.1 hs, ownReads_step hI.1 hI.2 hok hs⟩).2

/-- The read of a thread that is about to call `recv`. -/
theorem foreign_recv {o : Owner} (hc : w.control (.conn c) = { stage := .recv })
    (hn : w.fds (w.conn c).clientSocket = some o) (ho : o ≠ .conn c) :
    ∃ w', w.step (.thread (.conn c) .ok) = some w' ∧ ¬ OwnBytes w' := by
  have hp : w.connPlan c .recv .ok = some (.receive c o, { stage := .receive }) := by
    simp only [connPlan, hn, Option.map_some]
  exact ⟨_, step_conn hc hp, fun hown => ho (hown c o List.mem_cons_self)⟩

/-- A thread whose number was handed out to another owner can read that owner's bytes. -/
theorem foreign_read {o : Owner} (hw : w.Watching c)
    (hx : (w.control (.conn c)).closing = none)
    (hn : w.fds (w.conn c).clientSocket = some o) (ho : o ≠ .conn c) :
    ∃ ms w', exec step w ms = some w' ∧ ¬ OwnBytes w' := by
  rcases hw with hs | hs
  · have hp : w.connPlan c .poll .ok = some (.skip, { stage := .recv }) := by
      simp only [connPlan, hn, Option.isSome_some, if_true]
    have h1 := step_conn (control_eq hs hx) hp
    obtain ⟨w', h2, hw'⟩ := foreign_recv (w := (w.apply .skip).setControl (.conn c)
      { stage := .recv })
      control_own hn ho
    exact ⟨[_, _], w', by rw [exec_cons, h1, Option.bind_some, exec_cons, h2]; rfl, hw'⟩
  · obtain ⟨w', h, hw'⟩ := foreign_recv (control_eq hs hx) hn ho
    exact ⟨[_], w', by rw [exec_cons, h]; rfl, hw'⟩

end World

end ChatApp.Gateway
