/-
  The session table of `Server` and the methods that work on it. Every method locks
  `sessions_mutex_` through a `std::lock_guard`; the mutex is not recursive, so a lock taken by
  the thread that holds it never returns (`selfDeadlock`). `sessions_.erase(it)` with an
  iterator whose entry is gone is the other fault (`erasedIterator`).

  A method is a state transformer over the server as one thread sees it: `locked` says that the
  running thread holds the mutex. A fault keeps the state it happened in. The sessions
  themselves live outside the table (`shared_ptr`); of a session only what these methods and
  their callers read is kept. Socket writes (`Session::send`) are recorded in `sent`.

  One path locks twice: `remove_session` of an authenticated session calls `set_user_offline`
  under the lock.
-/
import ChatApp.Lib.SortedMap
import Mathlib.Logic.Function.Basic
import Mathlib.Algebra.Group.Nat.Defs

namespace ChatApp.Server

open ChatApp.Lib

abbrev SessionId := Nat

structure SessionData where
  userId : Nat
  authenticated : Bool
  /-- on the steady clock, in nanoseconds -/
  lastHeartbeat : Int
  /-- the socket is open and the peer is still there -/
  isOpen : Bool
  /-- `start` was called: messages can arrive -/
  started : Bool
  deriving DecidableEq, Repr

/-- A session as its constructor leaves it. -/
def SessionData.fresh (now : Int) : SessionData where
  userId := 0
  authenticated := false
  lastHeartbeat := now
  isOpen := true
  started := false

structure Config where
  /-- in seconds; `heartbeat_timeout * 2` is taken not to overflow an `int` -/
  heartbeatTimeout : Int := 60

structure ServerState where
  sessions : SortedMap Nat SessionId
  /-- the static `temp_id` of `add_session` -/
  tempId : Nat
  /-- the running thread holds `sessions_mutex_` -/
  locked : Bool
  running : Bool
  session : SessionId → SessionData
  /-- sessions constructed so far -/
  created : Nat
  /-- the session that waits in `async_accept` -/
  accepting : Option SessionId
  now : Int
  sent : List SessionId

inductive Fault
  | selfDeadlock
  | erasedIterator
  deriving DecidableEq, Repr

abbrev ServerM := EStateM Fault ServerState

/-- `std::lock_guard<std::mutex> lock(sessions_mutex_)` around a body. -/
def lockGuard {α : Type} (body : ServerM α) : ServerM α := do
  if (← get).locked then throw .selfDeadlock
  else
    modify fun s => { s with locked := true }
    let a ← body
    modify fun s => { s with locked := false }
    return a

/-- `sessions_.erase(it)` for the iterator at key `k`. -/
def eraseIterator (k : Nat) : ServerM Unit := do
  if (← get).sessions.contains k then
    modify fun s => { s with sessions := s.sessions.erase k }
  else throw .erasedIterator

def ServerState.modifySession (s : ServerState) (x : SessionId)
    (f : SessionData → SessionData) : ServerState :=
  { s with session := Function.update s.session x (f (s.session x)) }

/-- `Session::send`, as far as the server sees it. -/
def send (x : SessionId) : ServerM Unit := modify fun s => { s with sent := s.sent ++ [x] }

/-- `Session::close` -/
def closeSession (x : SessionId) : ServerM Unit :=
  modify (·.modifySession x fun d => { d with isOpen := false })

/-- `duration_cast<seconds>(now - last_heartbeat).count()` -/
def elapsed (now : Int) (d : SessionData) : Int := (now - d.lastHeartbeat).tdiv 1000000000

/-! ## The methods -/

def doAccept : ServerM Unit := modify fun s =>
  { s with
    session := Function.update s.session s.created (SessionData.fresh s.now)
    accepting := some s.created
    created := s.created + 1 }

def addSession (x : SessionId) : ServerM Unit :=
  lockGuard <| modify fun s =>
    let tempId := (s.tempId + 2 ^ 64 - 1) % 2 ^ 64
    { s with tempId := tempId, sessions := s.sessions.insert tempId x }

def setUserOffline (userId : Nat) : ServerM Unit :=
  lockGuard <| modify fun s => { s with sessions := s.sessions.erase userId }

def removeSession (x : SessionId) : ServerM Unit :=
  lockGuard do
    match (← get).sessions.findKey? x with
    | none => pure ()
    | some it =>
      let d := (← get).session x
      if d.authenticated then setUserOffline d.userId
      eraseIterator it

def getSession (userId : Nat) : ServerM (Option SessionId) :=
  lockGuard do return (← get).sessions.get? userId

def broadcast : ServerM Unit :=
  lockGuard do
    let s ← get
    (s.sessions.values.filter fun x => (s.session x).authenticated).forM send

def sendToUser (userId : Nat) : ServerM Unit := do
  match ← getSession userId with
  | some x => send x
  | none => pure ()

/-- `memberIds` is what `group_manager_->get_group_members` returns. -/
def broadcastToGroup (memberIds : List Nat) : ServerM Unit := memberIds.forM sendToUser

def isUserActive (cfg : Config) (userId : Nat) : ServerM Bool := do
  match ← getSession userId with
  | none => return false
  | some x =>
    let s ← get
    return decide (elapsed s.now (s.session x) ≤ cfg.heartbeatTimeout)

def setUserOnline (userId : Nat) (x : SessionId) : ServerM Unit :=
  lockGuard <| modify fun s =>
    { s with sessions := (s.sessions.filter fun e => decide (e.2 ≠ x)).insert userId x }

def isUserOnline (userId : Nat) : ServerM Bool :=
  lockGuard do return (← get).sessions.contains userId

def getOnlineUsers : ServerM (List Nat) :=
  lockGuard do
    let s ← get
    return (s.sessions.entries.filter fun e => (s.session e.2).authenticated).map (·.1)

/-- `stop`, from the point where the io threads are joined. -/
def stop : ServerM Unit := do
  if (← get).running then
    modify fun s => { s with running := false }
    lockGuard do
      (← get).sessions.values.forM closeSession
      modify fun s => { s with sessions := SortedMap.empty }

/-- The part of a heartbeat check that runs under the lock: the sessions whose last heartbeat
    is more than two timeouts old at `now`. -/
def collectTimedOut (cfg : Config) (now : Int) : ServerM (List SessionId) :=
  lockGuard do
    let s ← get
    return s.sessions.values.filter fun x =>
      decide (elapsed now (s.session x) > cfg.heartbeatTimeout * 2)

/-- A call of one of the methods. -/
inductive Method
  | addSession (x : SessionId)
  | removeSession (x : SessionId)
  | getSession (userId : Nat)
  | broadcast
  | broadcastToGroup (memberIds : List Nat)
  | sendToUser (userId : Nat)
  | setUserOnline (userId : Nat) (x : SessionId)
  | setUserOffline (userId : Nat)
  | isUserOnline (userId : Nat)
  | isUserActive (userId : Nat)
  | getOnlineUsers
  | collectTimedOut (now : Int)
  | stop
  deriving DecidableEq, Repr

def Method.run (cfg : Config) : Method → ServerM Unit
  | .addSession x => Server.addSession x
  | .removeSession x => Server.removeSession x
  | .getSession userId => discard (Server.getSession userId)
  | .broadcast => Server.broadcast
  | .broadcastToGroup memberIds => Server.broadcastToGroup memberIds
  | .sendToUser userId => Server.sendToUser userId
  | .setUserOnline userId x => Server.setUserOnline userId x
  | .setUserOffline userId => Server.setUserOffline userId
  | .isUserOnline userId => discard (Server.isUserOnline userId)
  | .isUserActive userId => discard (Server.isUserActive cfg userId)
  | .getOnlineUsers => discard Server.getOnlineUsers
  | .collectTimedOut now => discard (Server.collectTimedOut cfg now)
  | .stop => Server.stop

/-! ## The lock -/

variable {α β γ : Type} {s t : ServerState} {held : Bool}

/-- From a lock that is held or free as `held` says, a body does not fault and leaves the lock
    as it found it. -/
def Quiet (held : Bool) (m : ServerM α) : Prop :=
  ∀ s, s.locked = held → ∃ a t, m s = .ok a t ∧ t.locked = held

theorem quiet_pure (a : α) : Quiet held (pure a) := fun s h => ⟨a, s, rfl, h⟩

theorem quiet_get : Quiet held (get : ServerM ServerState) := fun s h => ⟨s, s, rfl, h⟩

theorem quiet_modify {f : ServerState → ServerState} (hf : ∀ s, (f s).locked = s.locked) :
    Quiet held (modify f : ServerM Unit) :=
  fun s h => ⟨(), f s, rfl, (hf s).trans h⟩

theorem get_bind {k : ServerState → ServerM α} : (get >>= k) s = k s s := rfl

theorem modify_bind {f : ServerState → ServerState} {k : Unit → ServerM α} :
    (modify f >>= k) s = k () (f s) := rfl

theorem bind_ok {m : ServerM α} {k : α → ServerM β} {a : α} (h : m s = .ok a t) :
    (m >>= k) s = k a t := by
  show EStateM.bind m k s = k a t
  rw [EStateM.bind, h]

theorem bind_error {m : ServerM α} {k : α → ServerM β} {f : Fault} (h : m s = .error f t) :
    (m >>= k) s = .error f t := by
  show EStateM.bind m k s = .error f t
  rw [EStateM.bind, h]

theorem quiet_bind {m : ServerM α} {k : α → ServerM β} (hm : Quiet held m)
    (hk : ∀ a, Quiet held (k a)) : Quiet held (m >>= k) := by
  intro s h
  obtain ⟨a, t, hs, ht⟩ := hm s h
  obtain ⟨b, u, hu, hl⟩ := hk a t ht
  exact ⟨b, u, (bind_ok hs).trans hu, hl⟩

theorem quiet_forM {f : γ → ServerM Unit} (h : ∀ c, Quiet held (f c)) :
    ∀ l : List γ, Quiet held (l.forM f)
  | [] => quiet_pure ()
  | c :: l => quiet_bind (h c) fun _ => quiet_forM h l

theorem lockGuard_held (body : ServerM α) (h : s.locked = true) :
    lockGuard body s = .error .selfDeadlock s := by
  unfold lockGuard
  rw [get_bind, if_pos h]
  rfl

theorem lockGuard_free {body : ServerM α} (h : s.locked = false) :
    lockGuard body s = match body { s with locked := true } with
      | .ok a t => .ok a { t with locked := false }
      | .error f t => .error f t := by
  unfold lockGuard
  rw [get_bind, if_neg (by simp [h]), modify_bind]
  cases hb : body { s with locked := true } with
  | ok a t => exact bind_ok hb
  | error f t => exact bind_error hb

theorem quiet_lockGuard {body : ServerM α} (h : Quiet true body) :
    Quiet false (lockGuard body) := by
  intro s hs
  obtain ⟨a, t, hb, -⟩ := h { s with locked := true } rfl
  exact ⟨a, _, by rw [lockGuard_free hs, hb], rfl⟩

/-! ## Which methods fault -/

theorem quiet_send (x : SessionId) : Quiet held (send x) := quiet_modify fun _ => rfl

theorem quiet_closeSession (x : SessionId) : Quiet held (closeSession x) :=
  quiet_modify fun _ => rfl

theorem quiet_doAccept : Quiet held doAccept := quiet_modify fun _ => rfl

theorem quiet_addSession (x : SessionId) : Quiet false (addSession x) :=
  quiet_lockGuard (quiet_modify fun _ => rfl)

theorem quiet_setUserOffline (userId : Nat) : Quiet false (setUserOffline userId) :=
  quiet_lockGuard (quiet_modify fun _ => rfl)

theorem quiet_setUserOnline (userId : Nat) (x : SessionId) : Quiet false (setUserOnline userId x) :=
  quiet_lockGuard (quiet_modify fun _ => rfl)

theorem quiet_getSession (userId : Nat) : Quiet false (getSession userId) :=
  quiet_lockGuard (quiet_bind quiet_get fun _ => quiet_pure _)

theorem quiet_broadcast : Quiet false broadcast :=
  quiet_lockGuard (quiet_bind quiet_get fun _ => quiet_forM quiet_send _)

theorem quiet_sendToUser (userId : Nat) : Quiet false (sendToUser userId) := by
  refine quiet_bind (quiet_getSession userId) fun r => ?_
  cases r with
  | none => exact quiet_pure ()
  | some x => exact quiet_send x

theorem quiet_isUserActive (cfg : Config) (userId : Nat) :
    Quiet false (isUserActive cfg userId) := by
  refine quiet_bind (quiet_getSession userId) fun r => ?_
  cases r with
  | none => exact quiet_pure false
  | some x => exact quiet_bind quiet_get fun _ => quiet_pure _

theorem quiet_isUserOnline (userId : Nat) : Quiet false (isUserOnline userId) :=
  quiet_lockGuard (quiet_bind quiet_get fun _ => quiet_pure _)

theorem quiet_getOnlineUsers : Quiet false getOnlineUsers :=
  quiet_lockGuard (quiet_bind quiet_get fun _ => quiet_pure _)

theorem quiet_collectTimedOut (cfg : Config) (now : Int) : Quiet false (collectTimedOut cfg now) :=
  quiet_lockGuard (quiet_bind quiet_get fun _ => quiet_pure _)

theorem quiet_stop : Quiet false stop := by
  refine quiet_bind quiet_get fun s => ?_
  cases s.running with
  | false => exact quiet_pure ()
  | true =>
    refine quiet_bind (quiet_modify fun _ => rfl) fun _ => quiet_lockGuard ?_
    exact quiet_bind quiet_get fun _ =>
      quiet_bind (quiet_forM quiet_closeSession _) fun _ => quiet_modify fun _ => rfl

theorem quiet_discard {m : ServerM α} (h : Quiet held m) : Quiet held (discard m) := by
  intro s hs
  obtain ⟨a, t, hm, ht⟩ := h s hs
  refine ⟨(), t, ?_, ht⟩
  show EStateM.map _ m s = _
  rw [EStateM.map, hm]

/-- Every method but `remove_session` takes the lock once. -/
theorem quiet_run (cfg : Config) {m : Method} (h : ∀ x, m ≠ .removeSession x) :
    Quiet false (m.run cfg) := by
  cases m with
  | addSession x => exact quiet_addSession x
  | removeSession x => exact absurd rfl (h x)
  | getSession userId => exact quiet_discard (quiet_getSession userId)
  | broadcast => exact quiet_broadcast
  | broadcastToGroup memberIds => exact quiet_forM quiet_sendToUser memberIds
  | sendToUser userId => exact quiet_sendToUser userId
  | setUserOnline userId x => exact quiet_setUserOnline userId x
  | setUserOffline userId => exact quiet_setUserOffline userId
  | isUserOnline userId => exact quiet_discard (quiet_isUserOnline userId)
  | isUserActive userId => exact quiet_discard (quiet_isUserActive cfg userId)
  | getOnlineUsers => exact quiet_discard quiet_getOnlineUsers
  | collectTimedOut now => exact quiet_discard (quiet_collectTimedOut cfg now)
  | stop => exact quiet_stop

/-- `x` is in the table, and a login of it has not been undone. -/
def OnlineIn (s : ServerState) (x : SessionId) : Prop :=
  x ∈ s.sessions.values ∧ (s.session x).authenticated = true

/-- `remove_session` of a session that is not authenticated erases its first entry. -/
theorem removeSession_anonymous {x : SessionId} (hl : s.locked = false) (h : ¬ OnlineIn s x) :
    ∃ t, removeSession x s = .ok () t ∧ t.locked = false ∧ t.session = s.session ∧ t.now = s.now ∧
      t.sessions.entries = s.sessions.entries.eraseP (·.2 = x) := by
  unfold removeSession
  rw [lockGuard_free hl, get_bind]
  cases hk : s.sessions.findKey? x with
  | none =>
    have hx := SortedMap.findKey?_eq_none.1 hk
    refine ⟨_, rfl, rfl, rfl, rfl, (List.eraseP_of_forall_not fun e he hv => hx ?_).symm⟩
    exact List.mem_map.2 ⟨e, he, by simpa using hv⟩
  | some it =>
    have hauth : (s.session x).authenticated = false := by
      by_contra hne
      refine h ⟨?_, by simpa using hne⟩
      by_contra hx
      rw [SortedMap.findKey?_eq_none.2 hx] at hk
      cases hk
    have hit := SortedMap.contains_of_findKey? hk
    refine ⟨{ s with sessions := s.sessions.erase it, locked := false }, ?_, rfl, rfl, rfl,
      SortedMap.entries_erase_findKey? hk⟩
    simp only [get_bind, hauth, eraseIterator, hit, if_true, Bool.false_eq_true, if_false]
    rfl

/-- `remove_session` of an authenticated session locks the mutex it holds. -/
theorem removeSession_online {x : SessionId} (hl : s.locked = false) (h : OnlineIn s x) :
    removeSession x s = .error .selfDeadlock { s with locked := true } := by
  unfold removeSession
  rw [lockGuard_free hl, get_bind]
  cases hk : s.sessions.findKey? x with
  | none => exact absurd h.1 (SortedMap.findKey?_eq_none.1 hk)
  | some it =>
    have hlock := lockGuard_held (s := { s with locked := true })
      (modify fun t : ServerState =>
        { t with sessions := t.sessions.erase (s.session x).userId }) rfl
    simp only [get_bind, h.2, if_true, setUserOffline]
    rw [bind_error hlock]

theorem quiet_no_fault {m : ServerM α} {f : Fault} (h : Quiet false m) (hl : s.locked = false) :
    m s ≠ .error f t := by
  obtain ⟨a, u, hm, -⟩ := h s hl
  rw [hm]
  exact fun he => by cases he

/-- From a free lock, `remove_session` of an authenticated session in the table is the one call
    that faults; it does so by locking twice. -/
theorem method_fault_iff {cfg : Config} {m : Method} {f : Fault} (hl : s.locked = false) :
    (∃ t, m.run cfg s = .error f t) ↔
      f = .selfDeadlock ∧ ∃ x, m = .removeSession x ∧ OnlineIn s x := by
  constructor
  · rintro ⟨t, ht⟩
    by_cases hx : ∃ x, m = .removeSession x
    · obtain ⟨x, rfl⟩ := hx
      by_cases ho : OnlineIn s x
      · rw [Method.run, removeSession_online hl ho] at ht
        cases ht
        exact ⟨rfl, x, rfl, ho⟩
      · obtain ⟨u, hu, -⟩ := removeSession_anonymous hl ho
        rw [Method.run, hu] at ht
        cases ht
    · exact absurd ht (quiet_no_fault (quiet_run cfg fun x h => hx ⟨x, h⟩) hl)
  · rintro ⟨rfl, x, rfl, ho⟩
    exact ⟨_, removeSession_online hl ho⟩

end ChatApp.Server
