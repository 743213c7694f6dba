/-
  The WebSocket gateway (`WebSocketServer`, `WsConnection`, and the handlers of `gateway_main`)
  as threads over shared state: the accept loop, one thread for each connection, and the
  heartbeat thread.

  Granularity. A critical section of `conn_mutex_` is one step; so is each system call and each
  access of a connection's `closed_`, `socket_`, `user_id_` and `authenticated_` that another
  thread could see in between. `close()` is the exchange of `closed_`, `shutdown`, `::close` and
  the write of `socket_`. The UPDATE of `users.online_status` is one step. A thread's `Control`
  says what it executes next; `Effect` is what one step does to the shared state.

  Descriptors. The kernel hands out any number that is not open, to `accept` or to some other
  part of the process (the database, HTTP, files). A connection thread polls and reads the
  number it got from `accept` (`clientSocket`), whatever it refers to by then.

  Not modelled: `stop`, message texts and databases other than `users.online_status`. Replies a
  handler sends on its own connection appear only where they fail. What happened is recorded in
  `received`, `hangups`, `sent` and `removed`, which no step reads.
-/
import Mathlib.Data.Nat.Basic
import Mathlib.Logic.Function.Basic
import ChatApp.Lib.Run
import ChatApp.Lib.SortedMap

namespace ChatApp.Gateway

open ChatApp.Lib

abbrev ConnId := Nat
abbrev Fd := Nat

/-- Who has a descriptor number. -/
inductive Owner
  | conn (c : ConnId)
  | other
  deriving DecidableEq, Repr

/-- A `WsConnection`; `socket` is `none` for -1. -/
structure Conn where
  /-- `client_socket` of its thread -/
  clientSocket : Fd := 0
  socket : Option Fd := none
  closed : Bool := false
  userId : Nat := 0
  authenticated : Bool := false
  deriving DecidableEq, Repr

/-- The user a connection is logged in as. -/
def Conn.loggedIn (x : Conn) : Option Nat := if x.authenticated then some x.userId else none

inductive Thread
  | conn (c : ConnId)
  | heartbeat
  deriving DecidableEq, Repr

/-- What a thread executes next, outside `close()`. -/
inductive Stage
  /-- `handle_new_connection`, before the upgrade is answered -/
  | handshake
  /-- `connections_[client_socket] = conn` -/
  | register
  /-- the condition of the message loop -/
  | loopHead
  | poll
  | recv
  /-- `handle_receive` up to its test of `closed_` -/
  | receive
  /-- in `handle_receive`, between two messages -/
  | handling
  | loginLookup (u : Nat)
  | loginKick (u : Nat) (d : ConnId)
  | loginClose (u : Nat) (d : ConnId)
  | loginUserId (u : Nat)
  | loginAuthenticated (u : Nat)
  | loginAdd (u : Nat)
  | loginOnline (u : Nat)
  /-- another handler: `get_connection(u)` -/
  | lookup (u : Nat)
  /-- and `send_text` to the connection `d` it returned -/
  | notify (u : Nat) (d : ConnId)
  | remove
  | disconnect
  /-- the thread has returned -/
  | done
  /-- the heartbeat thread: between two checks -/
  | sleeping
  | closeTimedOut (todo : List ConnId)
  | removeTimedOut (d : ConnId) (todo : List ConnId)
  deriving DecidableEq, Repr

/-- The steps of `close()`. -/
inductive ClosePhase
  | exchange
  | shutdown
  | close
  | reset
  deriving DecidableEq, Repr

/-- A thread executes `closing`, the call of `close()` it is in, and then `stage`. -/
structure Control where
  stage : Stage
  closing : Option (ConnId × ClosePhase) := none
  deriving DecidableEq, Repr

/-- A message addressed to the user `addressee`, sent on `conn` while that was logged in as
    `loggedIn`. -/
structure Sent where
  addressee : Nat
  conn : ConnId
  loggedIn : Option Nat
  deriving DecidableEq, Repr

structure World where
  fds : Fd → Option Owner
  conn : ConnId → Conn
  /-- connections accepted so far -/
  created : Nat
  connections : SortedMap Fd ConnId
  userConnections : SortedMap Nat ConnId
  /-- `users.online_status` is ONLINE -/
  online : Nat → Bool
  control : Thread → Control
  /-- the reads: for which connection, and whose descriptor it was -/
  received : List (ConnId × Owner)
  /-- the calls of `shutdown` and `::close`: on behalf of which connection, and whose descriptor
      it was -/
  hangups : List (ConnId × Option Owner)
  sent : List Sent
  /-- the calls of `remove_connection` -/
  removed : List ConnId

/-- What one step of a thread does to the shared state. -/
inductive Effect
  | skip
  /-- the constructor of `WsConnection` -/
  | construct (c : ConnId)
  /-- `::close(client_socket)` after a failed handshake -/
  | refuse (c : ConnId)
  | register (c : ConnId)
  | receive (c : ConnId) (o : Owner)
  /-- the exchange of `closed_` that succeeds -/
  | setClosed (d : ConnId)
  | shutdown (d : ConnId) (n : Fd)
  | close (d : ConnId) (n : Fd)
  | resetSocket (d : ConnId)
  /-- `::send` of a message addressed to `u` -/
  | send (u : Nat) (d : ConnId)
  | setUserId (c : ConnId) (u : Nat)
  | setAuthenticated (c : ConnId)
  | addConnection (c : ConnId)
  | removeConnection (c : ConnId)
  | setOnline (u : Nat) (status : Bool)
  deriving DecidableEq, Repr

/-- How the environment answers a thread's step, and what it makes it do. -/
inductive Input
  | ok
  | fail
  | timeout
  /-- a `login` message with valid credentials of `u` -/
  | login (u : Nat)
  /-- a message whose handler notifies `u` -/
  | notify (u : Nat)
  /-- `broadcast_to_user(u, ...)`, and whether the `::send` succeeds -/
  | broadcastToUser (u : Nat) (sent : Bool)
  /-- a reply on the own connection that fails -/
  | replyFails
  | closeFrame
  /-- the sessions a heartbeat check finds timed out -/
  | collect (todo : List ConnId)
  /-- a ping of a heartbeat check that fails -/
  | pingFails (d : ConnId)
  deriving DecidableEq, Repr

inductive Step
  | accept (n : Fd)
  | openOther (n : Fd)
  | closeOther (n : Fd)
  /-- the last `shared_ptr` to a connection goes away -/
  | destroy (c : ConnId)
  | thread (t : Thread) (i : Input)
  deriving DecidableEq, Repr

/-- The connections a thread holds a pointer to, its own apart. -/
def Control.refs (k : Control) : List ConnId :=
  (match k.closing with
    | some (d, _) => [d]
    | none => []) ++
  match k.stage with
  | .loginKick _ d | .loginClose _ d | .notify _ d => [d]
  | .closeTimedOut todo => todo
  | .removeTimedOut d todo => d :: todo
  | _ => []

namespace World

def init : World where
  fds := fun _ => none
  conn := fun _ => {}
  created := 0
  connections := SortedMap.empty
  userConnections := SortedMap.empty
  online := fun _ => false
  control
    | .conn _ => { stage := .done }
    | .heartbeat => { stage := .sleeping }
  received := []
  hangups := []
  sent := []
  removed := []

def setConn (w : World) (c : ConnId) (f : Conn → Conn) : World :=
  { w with conn := Function.update w.conn c (f (w.conn c)) }

def setControl (w : World) (t : Thread) (k : Control) : World :=
  { w with control := Function.update w.control t k }

/-- `WebSocketServer::add_connection` -/
def addConnection (w : World) (c : ConnId) : World :=
  let u := (w.conn c).userId
  if 0 < u then { w with userConnections := w.userConnections.insert u c } else w

/-- `WebSocketServer::remove_connection` -/
def removeConnection (w : World) (c : ConnId) : World :=
  let u := (w.conn c).userId
  { w with
    connections := match (w.conn c).socket with
      | some n => w.connections.erase n
      | none => w.connections
    userConnections :=
      if 0 < u ∧ w.userConnections.get? u = some c then w.userConnections.erase u
      else w.userConnections
    removed := c :: w.removed }

/-- `::close(n)`, called on behalf of `c`. -/
def closeFd (w : World) (c : ConnId) (n : Fd) : World :=
  { w with fds := Function.update w.fds n none, hangups := (c, w.fds n) :: w.hangups }

def apply (w : World) : Effect → World
  | .skip => w
  | .construct c => w.setConn c fun x => { x with socket := some x.clientSocket }
  | .refuse c => w.closeFd c (w.conn c).clientSocket
  | .register c => { w with connections := w.connections.insert (w.conn c).clientSocket c }
  | .receive c o => { w with received := (c, o) :: w.received }
  | .setClosed d => w.setConn d fun x => { x with closed := true }
  | .shutdown d n => { w with hangups := (d, w.fds n) :: w.hangups }
  | .close d n => w.closeFd d n
  | .resetSocket d => w.setConn d fun x => { x with socket := none }
  | .send u d => { w with sent := ⟨u, d, (w.conn d).loggedIn⟩ :: w.sent }
  | .setUserId c u => w.setConn c fun x => { x with userId := u }
  | .setAuthenticated c => w.setConn c fun x => { x with authenticated := true }
  | .addConnection c => w.addConnection c
  | .removeConnection c => w.removeConnection c
  | .setOnline u status => { w with online := Function.update w.online u status }

/-! ## The threads -/

/-- The next step of a thread that is inside `close()`. -/
def closePlan (w : World) (d : ConnId) (k : Stage) : ClosePhase → Effect × Control
  | .exchange =>
    if (w.conn d).closed then (.skip, { stage := k })
    else (.setClosed d, { stage := k, closing := some (d, .shutdown) })
  | .shutdown =>
    match (w.conn d).socket with
    | some n => (.shutdown d n, { stage := k, closing := some (d, .close) })
    | none => (.skip, { stage := k })
  | .close =>
    match (w.conn d).socket with
    | some n => (.close d n, { stage := k, closing := some (d, .reset) })
    | none => (.skip, { stage := k })
  | .reset => (.resetSocket d, { stage := k })

/-- `close()` of `d`, called before `k`. -/
def callClose (d : ConnId) (k : Stage) : Control := { stage := k, closing := some (d, .exchange) }

/-- `send_text` to `d` of a message addressed to `u`, before `k`; a failed `::send` closes `d`. -/
def sendPlan (w : World) (u : Nat) (d : ConnId) (k : Stage) (ok : Bool) : Effect × Control :=
  if (w.conn d).closed then (.skip, { stage := k })
  else (.send u d, if ok then { stage := k } else callClose d k)

/-- The next step of the thread of connection `c`. -/
def connPlan (w : World) (c : ConnId) : Stage → Input → Option (Effect × Control)
  | .handshake, .ok => some (.construct c, { stage := .register })
  | .handshake, .fail => some (.refuse c, { stage := .done })
  | .register, .ok => some (.register c, { stage := .loopHead })
  | .loopHead, .ok =>
    some (.skip, { stage := if (w.conn c).closed then .remove else .poll })
  -- `poll` reports a number that is not open as POLLNVAL, which the loop ignores
  | .poll, .ok =>
    some (.skip, { stage := if (w.fds (w.conn c).clientSocket).isSome then .recv else .loopHead })
  | .poll, .timeout => some (.skip, { stage := .loopHead })
  | .poll, .fail => some (.skip, { stage := .remove })
  | .recv, .ok =>
    (w.fds (w.conn c).clientSocket).map fun o => (.receive c o, { stage := .receive })
  | .recv, .fail => some (.skip, { stage := .remove })
  | .receive, .ok =>
    some (.skip, { stage := if (w.conn c).closed then .remove else .handling })
  | .handling, .ok => some (.skip, { stage := .loopHead })
  | .handling, .fail => some (.skip, { stage := .remove })
  | .handling, .login u => if 0 < u then some (.skip, { stage := .loginLookup u }) else none
  | .handling, .notify u =>
    if (w.conn c).authenticated then some (.skip, { stage := .lookup u }) else none
  | .handling, .broadcastToUser u sent =>
    some (match w.userConnections.get? u with
      | some d => w.sendPlan u d .handling sent
      | none => (.skip, { stage := .handling }))
  | .handling, .replyFails =>
    some (.skip, if (w.conn c).closed then { stage := .handling } else callClose c .handling)
  | .handling, .closeFrame =>
    some (.skip, if (w.conn c).closed then { stage := .remove } else callClose c .remove)
  | .loginLookup u, .ok =>
    some (.skip, { stage := match w.userConnections.get? u with
      | some d => .loginKick u d
      | none => .loginUserId u })
  | .loginKick u d, .ok => some (w.sendPlan u d (.loginClose u d) true)
  | .loginKick u d, .fail => some (w.sendPlan u d (.loginClose u d) false)
  | .loginClose u d, .ok => some (.skip, callClose d (.loginUserId u))
  | .loginUserId u, .ok => some (.setUserId c u, { stage := .loginAuthenticated u })
  | .loginAuthenticated u, .ok => some (.setAuthenticated c, { stage := .loginAdd u })
  | .loginAdd u, .ok => some (.addConnection c, { stage := .loginOnline u })
  | .loginOnline u, .ok => some (.setOnline u true, { stage := .handling })
  -- the UPDATE fails, which the handler ignores
  | .loginOnline _, .fail => some (.skip, { stage := .handling })
  | .lookup u, .ok =>
    some (.skip, { stage := match w.userConnections.get? u with
      | some d => .notify u d
      | none => .handling })
  | .notify u d, .ok => some (w.sendPlan u d .handling true)
  | .notify u d, .fail => some (w.sendPlan u d .handling false)
  | .remove, .ok => some (.removeConnection c, { stage := .disconnect })
  | .disconnect, .ok =>
    some (match (w.conn c).loggedIn with
      | some u => if 0 < u then .setOnline u false else .skip
      | none => .skip, { stage := .done })
  | .disconnect, .fail => some (.skip, { stage := .done })
  | _, _ => none

/-- The next step of the heartbeat thread. -/
def heartbeatPlan (w : World) : Stage → Input → Option (Effect × Control)
  | .sleeping, .collect todo =>
    if ∀ d ∈ todo, d ∈ w.connections.values then some (.skip, { stage := .closeTimedOut todo })
    else none
  | .sleeping, .pingFails d =>
    if d ∈ w.connections.values then
      some (.skip, if (w.conn d).closed then { stage := .sleeping } else callClose d .sleeping)
    else none
  | .closeTimedOut [], .ok => some (.skip, { stage := .sleeping })
  | .closeTimedOut (d :: todo), .ok => some (.skip, callClose d (.removeTimedOut d todo))
  | .removeTimedOut d todo, .ok => some (.removeConnection d, { stage := .closeTimedOut todo })
  | _, _ => none

def plan (w : World) (t : Thread) (i : Input) : Option (Effect × Control) :=
  match (w.control t).closing, t with
  | some (d, p), _ => if i = .ok then some (w.closePlan d (w.control t).stage p) else none
  | none, .conn c => w.connPlan c (w.control t).stage i
  | none, .heartbeat => w.heartbeatPlan (w.control t).stage i

def threads (w : World) : List Thread := .heartbeat :: (List.range w.created).map .conn

/-- No pointer to the connection `c` is left. -/
def Unreferenced (w : World) (c : ConnId) : Prop :=
  (w.control (.conn c)).stage = .done ∧ c ∉ w.connections.values ∧
    c ∉ w.userConnections.values ∧ ∀ t ∈ w.threads, c ∉ (w.control t).refs

instance (w : World) : DecidablePred w.Unreferenced :=
  fun _ => inferInstanceAs (Decidable (_ ∧ _ ∧ _ ∧ _))

/-- `accept` returns `n`; the new thread starts. -/
def accepted (w : World) (n : Fd) : World :=
  { w with
    fds := Function.update w.fds n (some (.conn w.created))
    conn := Function.update w.conn w.created { w.conn w.created with clientSocket := n }
    control := Function.update w.control (.conn w.created) { stage := .handshake }
    created := w.created + 1 }

/-- The destructor calls `close()`; no other thread can reach the connection. -/
def destroyed (w : World) (c : ConnId) (n : Fd) : World :=
  let w := w.apply (.setClosed c)
  let w := w.apply (.shutdown c n)
  let w := w.apply (.close c n)
  w.apply (.resetSocket c)

def step (w : World) : Step → Option World
  | .accept n => if w.fds n = none then some (w.accepted n) else none
  | .openOther n =>
    if w.fds n = none then some { w with fds := Function.update w.fds n (some .other) } else none
  | .closeOther n =>
    if w.fds n = some .other then some { w with fds := Function.update w.fds n none } else none
  | .destroy c =>
    match (w.conn c).socket with
    | some n =>
      if (w.conn c).closed = false ∧ w.Unreferenced c then some (w.destroyed c n) else none
    | none => none
  | .thread t i => (w.plan t i).map fun e => (w.apply e.1).setControl t e.2

/-! ## Scripts -/

/-- Steps of one connection thread. -/
def steps (c : ConnId) (is : List Input) : List Step := is.map (.thread (.conn c))

/-- Connection `c` is accepted on number `n`, does the handshake and sends its first message. -/
def arrive (c : ConnId) (n : Fd) : List Step := .accept n :: steps c [.ok, .ok, .ok, .ok, .ok, .ok]

/-- A login of `u` on `c` that finds no connection of `u`. -/
def logIn (c : ConnId) (u : Nat) : List Step := steps c [.login u, .ok, .ok, .ok, .ok, .ok]

end World

end ChatApp.Gateway
