/-
  The server over time: accepts, logins, logouts, messages, the clock, and `check_heartbeats`.

  Granularity. A critical section of `sessions_mutex_` is one step, and so is each write of a
  handler to its session; `session->close()` and `remove_session` in the sweep are two. A step
  that needs the mutex waits while another thread holds it. Every step starts in a thread that
  does not hold the mutex, so after a step it is held only if that step locked it twice: the
  thread is stuck, and every other thread that needs the mutex waits for ever.

  The condition on a run (`RemovesAnonymous`): whenever the sweep calls `remove_session`, the
  session is not both in the table and authenticated.
-/
import Mathlib.Order.WithBot
import ChatApp.Lib.Run
import ChatApp.Server.Sessions

namespace ChatApp.Server

open ChatApp.Lib

/-- What a thread that runs a handler does next. -/
inductive Task
  /-- `handle_accept` after `session->start()` -/
  | addSession (x : SessionId)
  | doAccept
  /-- `handle_login` after the credentials of `userId` are checked -/
  | loginUserId (x : SessionId) (userId : Nat)
  | loginAuthenticated (x : SessionId) (userId : Nat)
  | loginOnline (x : SessionId) (userId : Nat)
  /-- `handle_logout` of an authenticated session -/
  | logoutAuthenticated (x : SessionId)
  | logoutClose (x : SessionId)
  deriving DecidableEq, Repr

/-- Where the thread of `check_heartbeats` is. -/
inductive Sweep
  | waiting
  /-- the timer handler has read the clock -/
  | collecting (now : Int)
  | closing (todo : List SessionId)
  /-- `x` is closed, `remove_session(x)` is next -/
  | removing (x : SessionId) (todo : List SessionId)
  deriving DecidableEq, Repr

structure World where
  server : ServerState
  /-- expiry of `heartbeat_timer_` -/
  timer : Int
  tasks : List Task
  sweep : Sweep
  fault : Option Fault

inductive Message
  /-- with valid credentials of `userId` -/
  | login (userId : Nat)
  | logout
  | other
  deriving DecidableEq, Repr

inductive Step
  /-- nanoseconds pass -/
  | advance (d : Nat)
  | accept
  | acceptFailed
  | message (x : SessionId) (m : Message)
  /-- the next step of the `i`th running handler -/
  | task (i : Nat)
  /-- a handler looks a session up or sends to it -/
  | call (m : Method)
  /-- the connection of `x` ends: the peer goes away, which the read handler answers with a bare
      return, or a protocol or write error closes the socket -/
  | close (x : SessionId)
  /-- `heartbeat_timer_` expires -/
  | tick
  /-- the next step of the heartbeat check -/
  | sweep
  deriving DecidableEq, Repr

/-- `heartbeat_timer_.expires_after(...)` at time `now` -/
def nextTick (cfg : Config) (now : Int) : Int := now + cfg.heartbeatTimeout * 1000000000

namespace Task

def run : Task → ServerM Unit
  | .addSession x => Server.addSession x
  | .doAccept => Server.doAccept
  | .loginUserId x userId => modify (·.modifySession x fun d => { d with userId := userId })
  | .loginAuthenticated x _ => modify (·.modifySession x fun d => { d with authenticated := true })
  | .loginOnline x userId => setUserOnline userId x
  | .logoutAuthenticated x => modify (·.modifySession x fun d => { d with authenticated := false })
  | .logoutClose x => closeSession x

def next : Task → Option Task
  | .addSession _ => some .doAccept
  | .loginUserId x userId => some (.loginAuthenticated x userId)
  | .loginAuthenticated x userId => some (.loginOnline x userId)
  | .logoutAuthenticated x => some (.logoutClose x)
  | .doAccept | .loginOnline .. | .logoutClose _ => none

def locks : Task → Bool
  | .addSession _ | .loginOnline .. => true
  | _ => false

/-- The handlers still running after the `i`th, `k`, took a step. -/
def stepped (k : Task) (i : Nat) (tasks : List Task) : List Task :=
  match k.next with
  | some k' => tasks.set i k'
  | none => tasks.eraseIdx i

end Task

/-- The methods that message handlers call to look up sessions. -/
def Method.looksUp : Method → Bool
  | .getSession _ | .broadcast | .sendToUser _ | .isUserActive _ => true
  | _ => false

namespace World

def init (cfg : Config) : World where
  server := {
    sessions := SortedMap.empty
    tempId := 0
    locked := false
    running := true
    session := fun _ => SessionData.fresh 0
    created := 1
    accepting := some 0
    now := 0
    sent := [] }
  timer := nextTick cfg 0
  tasks := []
  sweep := .waiting
  fault := none

/-- The world after a method returned or faulted. -/
def after {α : Type} (w : World) (r : EStateM.Result Fault ServerState α)
    (k : World → α → World) : World :=
  match r with
  | .ok a s => k { w with server := s } a
  | .error f s => { w with server := s, fault := some f }

/-- `Session::handle_message` up to the first step of the handler. -/
def handleMessage (w : World) (x : SessionId) (m : Message) : World :=
  let w := { w with
    server := w.server.modifySession x fun d => { d with lastHeartbeat := w.server.now } }
  match m with
  | .login userId => { w with tasks := w.tasks ++ [.loginUserId x userId] }
  | .logout =>
    if (w.server.session x).authenticated then
      { w with tasks := w.tasks ++ [.logoutAuthenticated x] }
    else w
  | .other => w

/-- `handle_accept` without an error, up to `add_session`. -/
def handleAccept (w : World) (x : SessionId) : World :=
  { w with
    server := { w.server.modifySession x fun d => { d with started := true } with
      accepting := none }
    tasks := w.tasks ++ [.addSession x] }

def step (cfg : Config) (w : World) : Step → Option World
  | .advance d => some { w with server := { w.server with now := w.server.now + d } }
  | .accept => w.server.accepting.map w.handleAccept
  | .acceptFailed =>
    w.server.accepting.map fun _ =>
      { w with server := { w.server with accepting := none }, tasks := w.tasks ++ [.doAccept] }
  | .message x m => if (w.server.session x).started then some (w.handleMessage x m) else none
  | .task i =>
    w.tasks[i]?.bind fun k =>
      if k.locks && w.server.locked then none
      else some (w.after (k.run w.server) fun w _ => { w with tasks := k.stepped i w.tasks })
  | .call m =>
    if m.looksUp && !w.server.locked then some (w.after (m.run cfg w.server) fun w _ => w)
    else none
  | .close x => some (w.after (closeSession x w.server) fun w _ => w)
  | .tick =>
    if w.sweep = .waiting ∧ w.timer ≤ w.server.now then
      some { w with sweep := .collecting w.server.now }
    else none
  | .sweep =>
    match w.sweep with
    | .waiting => none
    | .collecting now =>
      if w.server.locked then none
      else some (w.after (collectTimedOut cfg now w.server)
        fun w todo => { w with sweep := .closing todo })
    | .closing [] => some { w with sweep := .waiting, timer := nextTick cfg w.server.now }
    | .closing (x :: todo) =>
      some (w.after (closeSession x w.server) fun w _ => { w with sweep := .removing x todo })
    | .removing x todo =>
      if w.server.locked then none
      else some (w.after (removeSession x w.server) fun w _ => { w with sweep := .closing todo })

/-- The table as a list of entries. -/
def table (w : World) : List (Nat × SessionId) := w.server.sessions.entries

/-- The last heartbeat of `x` is more than two timeouts old. -/
def TimedOut (cfg : Config) (w : World) (x : SessionId) : Prop :=
  elapsed w.server.now (w.server.session x) > cfg.heartbeatTimeout * 2

instance (cfg : Config) (w : World) : DecidablePred (TimedOut cfg w) :=
  fun _ => inferInstanceAs (Decidable (_ > _))

/-- The sweep does not call `remove_session` for an authenticated session in the table. -/
def RemovesAnonymous (w : World) : Step → Prop
  | .sweep => ∀ x todo, w.sweep = .removing x todo → ¬ OnlineIn w.server x
  | _ => True

end World

end ChatApp.Server
