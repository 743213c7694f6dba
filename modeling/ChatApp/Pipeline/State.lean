/-
  Frames on their way through the server: `do_read_body` hands them to the thread pool and reads
  on, and the workers handle them. The state is that of the pool, of the sessions and of the
  database; a handler is a program, and a step of the system is one step of the pool or one call
  of a handler. A frame has the number of the call of `try_enqueue` that hands it over.

  Frames arrive whenever the session reads; how the connection ends is left out. A handler
  reads `user_id_` and `authenticated_` when it starts. `Outside` answers its calls,
  except what the tables decide. A call of `mutex_.lock` waits while another handler holds it.
-/
import ChatApp.Session.World
import ChatApp.ThreadPool.State

namespace ChatApp.Pipeline

open ChatApp.Lib ChatApp.Protocol ChatApp.Session
open ChatApp.Database (Tables)

/-- A frame as `do_read_body` has parsed it, and the session it arrived on. -/
structure Request where
  session : SessionId
  type : UInt8
  sequence : UInt32
  body : Json

/-- The task of a frame, if its session is logged in as `login`. -/
def Request.task (r : Request) (login : Nat × Bool) : Prog interface Unit :=
  Session.task ⟨r.session, login.1, login.2⟩ r.sequence r.body r.type

/-- A call that a handler has made, with its answer and the world around it. -/
structure Act (ρ : Type) where
  frame : Nat
  step : Prog.Step interface (ρ × Connected)

structure State (ρ : Type) where
  pool : ThreadPool.State
  /-- the calls of the pool in their order; `none` is a call of `stop` -/
  frames : List (Option Request)
  /-- the frame that `do_read_body` of a session is handing over -/
  reading : SessionId → Option Nat
  /-- `user_id_` and `authenticated_` -/
  logins : SessionId → Nat × Bool
  world : ρ × Connected
  /-- the frame whose handler holds `mutex_` of the database -/
  locked : Option Nat
  /-- what is left of each handler that has started -/
  handlers : Nat → Option (Prog interface Unit)
  /-- what the handlers did, in order -/
  acts : List (Act ρ)
  /-- the frames answered 503 -/
  refused : List (SessionId × Frame)

def State.start {ρ : Type} (cfg : ThreadPool.Config) (world : ρ × Connected) : State ρ where
  pool := .start cfg
  frames := []
  reading _ := none
  logins _ := (0, false)
  world := world
  locked := none
  handlers _ := none
  acts := []
  refused := []

/-- No more calls are to come. -/
def ended : Option (Prog interface Unit) → Bool
  | some (.call ..) => false
  | _ => true

/-- `user_id_` and `authenticated_` after a call of the session `x` -/
def setLogin (logins : SessionId → Nat × Bool) (x : SessionId) : Call → SessionId → Nat × Bool
  | .setUserId userId => Function.update logins x (userId, (logins x).2)
  | .setAuthenticated auth => Function.update logins x ((logins x).1, auth)
  | _ => logins

/-- The call waits for `mutex_`. -/
def blocked (locked : Option Nat) : Call → Bool
  | .db .lock => locked.isSome
  | _ => false

/-- Who holds `mutex_` after a call of the handler of the frame `n`. -/
def lockAfter (locked : Option Nat) (n : Nat) : Call → Option Nat
  | .db .lock => some n
  | .db .unlock => none
  | _ => locked

namespace State

variable {ρ : Type} (s : State ρ)

def request? (n : Nat) : Option Request := (s.frames[n]?).join

def session? (n : Nat) : Option SessionId := (s.request? n).map Request.session

/-- A worker starts the task of the frame `n`. -/
def begin (n : Nat) : State ρ :=
  match s.request? n with
  | none => s
  | some r =>
    { s with handlers := Function.update s.handlers n (some (r.task (s.logins r.session))) }

/-- A worker ends its task when the handler has ended. -/
def permits : ThreadPool.Label → Bool
  | .invoke .. => false
  | .worker i _ =>
    match s.pool.core.workers[i]? with
    | some (.running t) => ended (s.handlers t.id)
    | _ => true
  | _ => true

/-- The state after a step of the pool to `p`: a worker that has taken a task starts it. -/
def advance (p : ThreadPool.State) : ThreadPool.Label → State ρ
  | .worker i _ =>
    match s.pool.core.workers[i]?, p.core.workers[i]? with
    | some .ready, some (.running t) => { s with pool := p }.begin t.id
    | _, _ => { s with pool := p }
  | _ => { s with pool := p }

end State

inductive Label
  /-- a frame has arrived, and `do_read_body` calls `try_enqueue` -/
  | arrive (r : Request)
  /-- `try_enqueue` has returned in `do_read_body` of the session, which reads on -/
  | readOn (x : SessionId)
  /-- `stop` of the server -/
  | stop
  | pool (l : ThreadPool.Label)
  /-- the next call of the handler of the frame `n` -/
  | act (n : Nat)
  /-- statements on the other tables, and other users of the database -/
  | others (db : Tables)

section
variable {ρ : Type} (cfg : ThreadPool.Config) (o : Outside ρ)

/-- A new call of the pool. -/
def invoke (s : State ρ) (op : ThreadPool.Op) (r : Option Request) : Option (State ρ) :=
  (ThreadPool.step cfg s.pool (.invoke s.frames.length op)).map fun p =>
    { s with pool := p, frames := s.frames ++ [r] }

/-- After `try_enqueue`: the 503 of a frame that the pool does not take. -/
def readOn (s : State ρ) (x : SessionId) (r : Request) : ThreadPool.Pc → Option (State ρ)
  | .returned true => some { s with reading := Function.update s.reading x none }
  | .returned false => some { s with
      reading := Function.update s.reading x none
      refused := s.refused ++ [(x, createError r.sequence 503 "Server busy, please retry")] }
  | _ => none

/-- The next call of the handler of the frame `n`. -/
def act (s : State ρ) (n : Nat) (r : Request) : Prog interface Unit → Option (State ρ)
  | .ret _ => none
  | .call c k =>
    if blocked s.locked c then none
    else
      let (a, world) := o.env s.world c
      some { s with
        logins := setLogin s.logins r.session c
        world := world
        locked := lockAfter s.locked n c
        handlers := Function.update s.handlers n (some (k a))
        acts := s.acts ++ [⟨n, s.world, c, a, world⟩] }

def step (s : State ρ) : Label → Option (State ρ)
  | .arrive r =>
    if s.reading r.session = none then
      (invoke cfg s (.tryEnqueue true) (some r)).map fun t =>
        { t with reading := Function.update s.reading r.session (some s.frames.length) }
    else none
  | .readOn x =>
    (s.reading x).bind fun n => (s.request? n).bind fun r => (s.pool.calls n).bind fun call =>
      readOn s x r call.pc
  | .stop => invoke cfg s .stop none
  | .pool l =>
    if s.permits l then (ThreadPool.step cfg s.pool l).map fun p => s.advance p l else none
  | .act n => (s.request? n).bind fun r => (s.handlers n).bind (act o s n r)
  -- AUTO_INCREMENT never goes back
  | .others db =>
    if s.world.2.db.privateMessages.next ≤ db.privateMessages.next then
      some { s with world := (s.world.1, { s.world.2 with db := db }) }
    else none

end

/-! ## What a session sees -/

/-- The `message_id` that a call gave to a private message. -/
def storedBy : (c : Call) → c.Answer → Connected → Option Nat
  | .db (.query (.privateMessages (.insert ..))), true, after => after.insertId
  | _, _, _ => none

def Act.stored {ρ : Type} (a : Act ρ) : Option Nat :=
  storedBy a.step.call a.step.answer a.step.after.2

end ChatApp.Pipeline
