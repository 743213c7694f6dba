/-
  What the threads of the gateway can do. `ConnMove` and `HeartbeatMove` list the steps of a
  thread outside `close()`: where it is, what it does to the shared state, and where it goes.
  `Move` is a step of any thread; `step_move` says that there are no others, and `After` what a
  step leaves as it is.
-/
import ChatApp.Gateway.State

namespace ChatApp.Gateway

open ChatApp.Lib

namespace World

variable {w w' : World} {t : Thread} {i : Input} {e : Effect} {k : Control} {c d : ConnId}
  {n : Fd} {u v : Nat} {s s' : Stage}

/-- The next step at stage `s` sends a message addressed to `u` on `d`, before `s'`. -/
inductive Sends (w : World) : Stage → Nat → ConnId → Stage → Prop
  | kick (u : Nat) (d : ConnId) : Sends w (.loginKick u d) u d (.loginClose u d)
  | notify (u : Nat) (d : ConnId) : Sends w (.notify u d) u d .handling
  | broadcast {u : Nat} {d : ConnId} (h : w.userConnections.get? u = some d) :
      Sends w .handling u d .handling

/-- The stages from which the message loop can be left. -/
def InLoop : Stage → Prop
  | .loopHead | .poll | .recv | .receive | .handling => True
  | _ => False

/-- The steps of the thread of connection `c`. -/
inductive ConnMove (w : World) (c : ConnId) (i : Input) : Stage → Effect → Control → Prop
  | construct : ConnMove w c i .handshake (.construct c) { stage := .register }
  | refuse : ConnMove w c i .handshake (.refuse c) { stage := .done }
  | register : ConnMove w c i .register (.register c) { stage := .loopHead }
  | enter (h : (w.conn c).closed = false) : ConnMove w c i .loopHead .skip { stage := .poll }
  | readable : ConnMove w c i .poll .skip { stage := .recv }
  | receive {o : Owner} (h : w.fds (w.conn c).clientSocket = some o) :
      ConnMove w c i .recv (.receive c o) { stage := .receive }
  | handle : ConnMove w c i .receive .skip { stage := .handling }
  | again : ConnMove w c i .poll .skip { stage := .loopHead }
  | handled : ConnMove w c i .handling .skip { stage := .loopHead }
  | leave {s : Stage} (h : InLoop s) : ConnMove w c i s .skip { stage := .remove }
  | nothing : ConnMove w c i .handling .skip { stage := .handling }
  | closeOwn {s : Stage} (h : s = .handling ∨ s = .remove) :
      ConnMove w c i .handling .skip (callClose c s)
  | login {u : Nat} (h : 0 < u) : ConnMove w c i .handling .skip { stage := .loginLookup u }
  | mention (u : Nat) : ConnMove w c i .handling .skip { stage := .lookup u }
  | existing {u : Nat} {d : ConnId} (h : w.userConnections.get? u = some d) :
      ConnMove w c i (.loginLookup u) .skip { stage := .loginKick u d }
  | noExisting (u : Nat) : ConnMove w c i (.loginLookup u) .skip { stage := .loginUserId u }
  | found {u : Nat} {d : ConnId} (h : w.userConnections.get? u = some d) :
      ConnMove w c i (.lookup u) .skip { stage := .notify u d }
  | notFound (u : Nat) : ConnMove w c i (.lookup u) .skip { stage := .handling }
  | unsent {s s' : Stage} {u : Nat} {d : ConnId} (h : Sends w s u d s')
      (hd : (w.conn d).closed = true) : ConnMove w c i s .skip { stage := s' }
  | sent {s s' : Stage} {u : Nat} {d : ConnId} (h : Sends w s u d s')
      (hd : (w.conn d).closed = false) : ConnMove w c i s (.send u d) { stage := s' }
  | sendFails {s s' : Stage} {u : Nat} {d : ConnId} (h : Sends w s u d s')
      (hd : (w.conn d).closed = false) : ConnMove w c i s (.send u d) (callClose d s')
  | kicked (u : Nat) (d : ConnId) :
      ConnMove w c i (.loginClose u d) .skip (callClose d (.loginUserId u))
  | setUserId (u : Nat) :
      ConnMove w c i (.loginUserId u) (.setUserId c u) { stage := .loginAuthenticated u }
  | setAuthenticated (u : Nat) :
      ConnMove w c i (.loginAuthenticated u) (.setAuthenticated c) { stage := .loginAdd u }
  | add (u : Nat) : ConnMove w c i (.loginAdd u) (.addConnection c) { stage := .loginOnline u }
  | online (u : Nat) (hi : i = .ok) :
      ConnMove w c i (.loginOnline u) (.setOnline u true) { stage := .handling }
  | onlineFails (u : Nat) (hi : i = .fail) :
      ConnMove w c i (.loginOnline u) .skip { stage := .handling }
  | remove : ConnMove w c i .remove (.removeConnection c) { stage := .disconnect }
  | offline {u : Nat} (h : (w.conn c).loggedIn = some u) (hu : 0 < u) (hi : i = .ok) :
      ConnMove w c i .disconnect (.setOnline u false) { stage := .done }
  | anonymous (h : ∀ u, (w.conn c).loggedIn = some u → u = 0) :
      ConnMove w c i .disconnect .skip { stage := .done }
  | offlineFails (hi : i = .fail) : ConnMove w c i .disconnect .skip { stage := .done }

inductive HeartbeatMove (w : World) : Stage → Effect → Control → Prop
  | collect {todo : List ConnId} (h : ∀ d ∈ todo, d ∈ w.connections.values) :
      HeartbeatMove w .sleeping .skip { stage := .closeTimedOut todo }
  | pinged : HeartbeatMove w .sleeping .skip { stage := .sleeping }
  | pingFails (d : ConnId) : HeartbeatMove w .sleeping .skip (callClose d .sleeping)
  | finished : HeartbeatMove w (.closeTimedOut []) .skip { stage := .sleeping }
  | close (d : ConnId) (todo : List ConnId) :
      HeartbeatMove w (.closeTimedOut (d :: todo)) .skip (callClose d (.removeTimedOut d todo))
  | remove (d : ConnId) (todo : List ConnId) :
      HeartbeatMove w (.removeTimedOut d todo) (.removeConnection d)
        { stage := .closeTimedOut todo }

theorem connMove_sendPlan {ok : Bool} (hs : Sends w s u d s')
    (h : w.sendPlan u d s' ok = (e, k)) : ConnMove w c i s e k := by
  unfold sendPlan at h
  split at h
  case isTrue hd =>
    cases h
    exact .unsent hs hd
  case isFalse hd =>
    rw [Bool.not_eq_true] at hd
    cases ok <;> cases h
    · exact .sendFails hs hd
    · exact .sent hs hd

theorem connPlan_move (h : w.connPlan c s i = some (e, k)) : ConnMove w c i s e k := by
  cases s with
  | handshake =>
    cases i <;> simp only [connPlan, reduceCtorEq, Option.some.injEq, Prod.mk.injEq] at h
    all_goals obtain ⟨rfl, rfl⟩ := h
    · exact .construct
    · exact .refuse
  | register =>
    cases i <;> simp only [connPlan, reduceCtorEq, Option.some.injEq, Prod.mk.injEq] at h
    obtain ⟨rfl, rfl⟩ := h
    exact .register
  | loopHead =>
    cases i <;> simp only [connPlan, reduceCtorEq, Option.some.injEq, Prod.mk.injEq] at h
    obtain ⟨rfl, rfl⟩ := h
    split
    case isTrue => exact .leave trivial
    case isFalse hc => exact .enter (Bool.eq_false_iff.2 hc)
  | poll =>
    cases i <;> simp only [connPlan, reduceCtorEq, Option.some.injEq, Prod.mk.injEq] at h
    all_goals obtain ⟨rfl, rfl⟩ := h
    · split
      · exact .readable
      · exact .again
    · exact .leave trivial
    · exact .again
  | recv =>
    cases i <;> simp only [connPlan, reduceCtorEq, Option.some.injEq, Option.map_eq_some_iff,
      Prod.mk.injEq] at h
    · obtain ⟨o, ho, rfl, rfl⟩ := h
      exact .receive ho
    · obtain ⟨rfl, rfl⟩ := h
      exact .leave trivial
  | receive =>
    cases i <;> simp only [connPlan, reduceCtorEq, Option.some.injEq, Prod.mk.injEq] at h
    obtain ⟨rfl, rfl⟩ := h
    split
    · exact .leave trivial
    · exact .handle
  | handling =>
    cases i <;> simp only [connPlan, reduceCtorEq, Option.some.injEq, Option.ite_none_right_eq_some,
      Prod.mk.injEq] at h
    case ok =>
      obtain ⟨rfl, rfl⟩ := h
      exact .handled
    case fail =>
      obtain ⟨rfl, rfl⟩ := h
      exact .leave trivial
    case login u =>
      obtain ⟨hu, rfl, rfl⟩ := h
      exact .login hu
    case notify u =>
      obtain ⟨-, rfl, rfl⟩ := h
      exact .mention u
    case broadcastToUser u ok =>
      split at h
      case h_1 d hd => exact connMove_sendPlan (.broadcast hd) h
      case h_2 =>
        cases h
        exact .nothing
    case replyFails =>
      obtain ⟨rfl, rfl⟩ := h
      split
      · exact .nothing
      · exact .closeOwn (.inl rfl)
    case closeFrame =>
      obtain ⟨rfl, rfl⟩ := h
      split
      · exact .leave trivial
      · exact .closeOwn (.inr rfl)
  | loginLookup u =>
    cases i <;> simp only [connPlan, reduceCtorEq, Option.some.injEq, Prod.mk.injEq] at h
    obtain ⟨rfl, rfl⟩ := h
    split
    case h_1 d hd => exact .existing hd
    case h_2 => exact .noExisting u
  | loginKick u d =>
    cases i <;> simp only [connPlan, reduceCtorEq, Option.some.injEq] at h
    · exact connMove_sendPlan (.kick u d) h
    · exact connMove_sendPlan (.kick u d) h
  | loginClose u d =>
    cases i <;> simp only [connPlan, reduceCtorEq, Option.some.injEq, Prod.mk.injEq] at h
    obtain ⟨rfl, rfl⟩ := h
    exact .kicked u d
  | loginUserId u =>
    cases i <;> simp only [connPlan, reduceCtorEq, Option.some.injEq, Prod.mk.injEq] at h
    obtain ⟨rfl, rfl⟩ := h
    exact .setUserId u
  | loginAuthenticated u =>
    cases i <;> simp only [connPlan, reduceCtorEq, Option.some.injEq, Prod.mk.injEq] at h
    obtain ⟨rfl, rfl⟩ := h
    exact .setAuthenticated u
  | loginAdd u =>
    cases i <;> simp only [connPlan, reduceCtorEq, Option.some.injEq, Prod.mk.injEq] at h
    obtain ⟨rfl, rfl⟩ := h
    exact .add u
  | loginOnline u =>
    cases i <;> simp only [connPlan, reduceCtorEq, Option.some.injEq, Prod.mk.injEq] at h
    all_goals obtain ⟨rfl, rfl⟩ := h
    · exact .online u rfl
    · exact .onlineFails u rfl
  | lookup u =>
    cases i <;> simp only [connPlan, reduceCtorEq, Option.some.injEq, Prod.mk.injEq] at h
    obtain ⟨rfl, rfl⟩ := h
    split
    case h_1 d hd => exact .found hd
    case h_2 => exact .notFound u
  | notify u d =>
    cases i <;> simp only [connPlan, reduceCtorEq, Option.some.injEq] at h
    · exact connMove_sendPlan (.notify u d) h
    · exact connMove_sendPlan (.notify u d) h
  | remove =>
    cases i <;> simp only [connPlan, reduceCtorEq, Option.some.injEq, Prod.mk.injEq] at h
    obtain ⟨rfl, rfl⟩ := h
    exact .remove
  | disconnect =>
    cases i <;> simp only [connPlan, reduceCtorEq, Option.some.injEq, Prod.mk.injEq] at h
    all_goals obtain ⟨rfl, rfl⟩ := h
    · cases hl : (w.conn c).loggedIn with
      | none => exact .anonymous fun u hu => by rw [hl] at hu; cases hu
      | some u =>
        dsimp only
        split
        case isTrue hu => exact .offline hl hu rfl
        case isFalse hu =>
          exact .anonymous fun v hv => by
            rw [hl] at hv
            cases hv
            exact Nat.eq_zero_of_not_pos hu
    · exact .offlineFails rfl
  | done | sleeping | closeTimedOut | removeTimedOut =>
    cases i <;> simp only [connPlan, reduceCtorEq] at h

theorem heartbeatPlan_move (h : w.heartbeatPlan s i = some (e, k)) : HeartbeatMove w s e k := by
  cases s with
  | sleeping =>
    cases i <;> simp only [heartbeatPlan, reduceCtorEq, Option.ite_none_right_eq_some,
      Option.some.injEq, Prod.mk.injEq] at h
    case collect todo =>
      obtain ⟨hm, rfl, rfl⟩ := h
      exact .collect hm
    case pingFails d =>
      obtain ⟨-, rfl, rfl⟩ := h
      split
      · exact .pinged
      · exact .pingFails d
  | closeTimedOut todo =>
    cases todo with
    | nil =>
      cases i <;> simp only [heartbeatPlan, reduceCtorEq, Option.some.injEq, Prod.mk.injEq] at h
      obtain ⟨rfl, rfl⟩ := h
      exact .finished
    | cons d todo =>
      cases i <;> simp only [heartbeatPlan, reduceCtorEq, Option.some.injEq, Prod.mk.injEq] at h
      obtain ⟨rfl, rfl⟩ := h
      exact .close d todo
  | removeTimedOut d todo =>
    cases i <;> simp only [heartbeatPlan, reduceCtorEq, Option.some.injEq, Prod.mk.injEq] at h
    obtain ⟨rfl, rfl⟩ := h
    exact .remove d todo
  | _ => simp only [heartbeatPlan, reduceCtorEq] at h

/-- A step of `close()` on `d`, called before stage `s`. -/
inductive CloseMove (w : World) (d : ConnId) (s : Stage) : ClosePhase → Effect → Control → Prop
  | lost (h : (w.conn d).closed = true) : CloseMove w d s .exchange .skip { stage := s }
  | won (h : (w.conn d).closed = false) :
      CloseMove w d s .exchange (.setClosed d) { stage := s, closing := some (d, .shutdown) }
  | shutdown {n : Fd} (h : (w.conn d).socket = some n) :
      CloseMove w d s .shutdown (.shutdown d n) { stage := s, closing := some (d, .close) }
  | close {n : Fd} (h : (w.conn d).socket = some n) :
      CloseMove w d s .close (.close d n) { stage := s, closing := some (d, .reset) }
  | noSocket {p : ClosePhase} (hp : p = .shutdown ∨ p = .close) (h : (w.conn d).socket = none) :
      CloseMove w d s p .skip { stage := s }
  | reset : CloseMove w d s .reset (.resetSocket d) { stage := s }

theorem closePlan_move {p : ClosePhase} (h : w.closePlan d s p = (e, k)) :
    CloseMove w d s p e k := by
  cases p <;> simp only [closePlan] at h
  case exchange =>
    split at h
    case isTrue hc => cases h; exact .lost hc
    case isFalse hc => cases h; exact .won (Bool.eq_false_iff.2 hc)
  case shutdown =>
    split at h
    case h_1 n hn => cases h; exact .shutdown hn
    case h_2 hn => cases h; exact .noSocket (.inl rfl) hn
  case close =>
    split at h
    case h_1 n hn => cases h; exact .close hn
    case h_2 hn => cases h; exact .noSocket (.inr rfl) hn
  case reset =>
    cases h
    exact .reset

theorem control_eq {x : Option (ConnId × ClosePhase)} (hs : (w.control t).stage = s)
    (hx : (w.control t).closing = x) : w.control t = { stage := s, closing := x } := by
  cases hc : w.control t
  rw [hc] at hs hx
  cases hs
  cases hx
  rfl

/-- A step of a thread. -/
inductive Move (w : World) (i : Input) : Thread → Effect → Control → Prop
  | closing {t : Thread} {s : Stage} {d : ConnId} {p : ClosePhase} {e : Effect} {k : Control}
      (hc : w.control t = { stage := s, closing := some (d, p) }) (h : CloseMove w d s p e k) :
      Move w i t e k
  | conn {c : ConnId} {s : Stage} {e : Effect} {k : Control}
      (hc : w.control (.conn c) = { stage := s }) (h : ConnMove w c i s e k) :
      Move w i (.conn c) e k
  | heartbeat {s : Stage} {e : Effect} {k : Control} (hc : w.control .heartbeat = { stage := s })
      (h : HeartbeatMove w s e k) : Move w i .heartbeat e k

theorem step_move (h : w.step (.thread t i) = some w') :
    ∃ e k, Move w i t e k ∧ w' = (w.apply e).setControl t k := by
  obtain ⟨⟨e, k⟩, hp, rfl⟩ := Option.map_eq_some_iff.1 h
  refine ⟨e, k, ?_, rfl⟩
  cases hx : (w.control t).closing with
  | some x =>
    obtain ⟨d, p⟩ := x
    simp only [plan, hx] at hp
    obtain ⟨-, he⟩ := Option.ite_none_right_eq_some.1 hp
    exact .closing (control_eq rfl hx) (closePlan_move (Option.some.inj he))
  | none =>
    cases t with
    | conn c =>
      simp only [plan, hx] at hp
      exact .conn (control_eq rfl hx) (connPlan_move hp)
    | heartbeat =>
      simp only [plan, hx] at hp
      exact .heartbeat (control_eq rfl hx) (heartbeatPlan_move hp)

/-- The step of a connection thread that is not inside `close()`. -/
theorem step_conn (hc : w.control (.conn c) = { stage := s })
    (h : w.connPlan c s i = some (e, k)) :
    w.step (.thread (.conn c) i) = some ((w.apply e).setControl (.conn c) k) := by
  simp only [step, plan, hc, h, Option.map_some]

theorem step_destroy (h : w.step (.destroy c) = some w') :
    ∃ n, (w.conn c).socket = some n ∧ (w.conn c).closed = false ∧ w.Unreferenced c ∧
      w' = w.destroyed c n := by
  simp only [step] at h
  split at h
  case h_1 n hn =>
    simp only [Option.ite_none_right_eq_some, Option.some.injEq] at h
    exact ⟨n, hn, h.1.1, h.1.2, h.2.symm⟩
  case h_2 => cases h

/-! ## What the effects leave as it is -/

@[simp] theorem control_setControl : (w.setControl t k).control = Function.update w.control t k :=
  rfl

@[simp] theorem control_apply : (w.apply e).control = w.control := by
  cases e <;> try rfl
  case addConnection c =>
    simp only [apply, addConnection]
    split <;> rfl

@[simp] theorem created_apply : (w.apply e).created = w.created := by
  cases e <;> try rfl
  case addConnection c =>
    simp only [apply, addConnection]
    split <;> rfl

/-- What an effect makes of the connection `d`. -/
def connAfter (e : Effect) (d : ConnId) (x : Conn) : Conn :=
  match e with
  | .construct c => if d = c then { x with socket := some x.clientSocket } else x
  | .setClosed c => if d = c then { x with closed := true } else x
  | .resetSocket c => if d = c then { x with socket := none } else x
  | .setUserId c u => if d = c then { x with userId := u } else x
  | .setAuthenticated c => if d = c then { x with authenticated := true } else x
  | _ => x

theorem conn_setConn {f : Conn → Conn} :
    (w.setConn c f).conn d = if d = c then f (w.conn d) else w.conn d := by
  by_cases h : d = c
  · simp [setConn, h]
  · simp [setConn, h]

theorem conn_apply : (w.apply e).conn d = connAfter e d (w.conn d) := by
  cases e with
  | construct | setClosed | resetSocket | setUserId | setAuthenticated =>
    rw [apply, conn_setConn, connAfter]
  | addConnection c =>
    simp only [apply, addConnection]
    split <;> rfl
  | _ => rfl

/-- The control of a thread after a step of thread `t`. -/
theorem control_step {t' : Thread} :
    ((w.apply e).setControl t k).control t' = if t' = t then k else w.control t' := by
  simp [Function.update_apply]

/-- `w'` is the world after a step of thread `t` with effect `e`. -/
structure After (w : World) (e : Effect) (t : Thread) (k : Control) (w' : World) : Prop where
  control : ∀ t', w'.control t' = if t' = t then k else w.control t'
  conn : ∀ c, w'.conn c = connAfter e c (w.conn c)
  created : w'.created = w.created

theorem after_step : After w e t k ((w.apply e).setControl t k) :=
  ⟨fun _ => control_step, fun _ => conn_apply, created_apply⟩

theorem control_accepted (h : t ≠ .conn w.created) :
    (w.accepted n).control t = w.control t :=
  Function.update_of_ne h ..

theorem conn_accepted (h : c ≠ w.created) : (w.accepted n).conn c = w.conn c :=
  Function.update_of_ne h ..

end World

end ChatApp.Gateway
