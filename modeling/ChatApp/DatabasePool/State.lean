/-
  `DatabasePool`. A step is a critical section of `mutex_`; `acquire` leaves the mutex only to wait
  on `cv_`, and what wakes it may also be no notification at all. Connections are numbered in the
  order in which they are made, and what the database answers in a critical section is given with
  the step.
-/
import Mathlib.Data.List.Basic
import Mathlib.Logic.Function.Basic
import ChatApp.Lib.Run

namespace ChatApp.DatabasePool

open ChatApp.Lib

structure PoolConfig where
  minConnections : UInt64
  maxConnections : UInt64
  /-- in seconds -/
  maxIdleTime : UInt64

/-- What holds in a critical section. -/
structure Answers where
  /-- in nanoseconds -/
  now : Int
  /-- `mysql_library_init` succeeds -/
  library : Bool
  /-- `mysql_real_connect` succeeds -/
  connects : Nat → Bool
  /-- `is_valid` -/
  valid : Nat → Bool

structure Pool where
  idle : List Nat
  all : List Nat
  inUse : Nat → Bool
  lastUsed : Nat → Int
  /-- the number of connections made so far -/
  made : Nat
  initialized : Bool
  isShutdown : Bool
  totalAcquires : Nat
  totalReleases : Nat
  acquireTimeouts : Nat
  connectionErrors : Nat
  /-- the calls of `acquire` that wait -/
  waiting : List Nat
  /-- the calls that have returned a connection which is not released yet -/
  held : List (Nat × Nat)

/-- The constructor -/
def Pool.start : Pool :=
  ⟨[], [], fun _ => false, fun _ => 0, 0, false, false, 0, 0, 0, 0, [], []⟩

namespace Pool

variable (cfg : PoolConfig) (a : Answers) (s : Pool) (n c : Nat)

def setInUse (b : Bool) : Pool := { s with inUse := Function.update s.inUse c b }

def touch (now : Int) : Pool := { s with lastUsed := Function.update s.lastUsed c now }

/-- A new object each time, that is not in use. -/
def createConnection : Option Nat × Pool :=
  let t := { (s.setInUse s.made false).touch s.made a.now with made := s.made + 1 }
  if a.connects s.made then (some s.made, t)
  else (none, { t with connectionErrors := t.connectionErrors + 1 })

/-- `idle_connections_.push`, `all_connections_.push_back` -/
def add : Pool := { s with idle := s.idle ++ [c], all := s.all ++ [c] }

/-- `set_in_use(true)`, `++total_acquires_`, and the connection is returned to the call `n`. -/
def handOut : Pool :=
  { s.setInUse c true with totalAcquires := s.totalAcquires + 1, held := s.held ++ [(n, c)] }

/-! ## Initialisation -/

/-- The loop of `init` -/
def createInitial : Nat → Pool → Pool
  | 0, s => s
  | i + 1, s =>
    match s.createConnection a with
    | (some c, t) => createInitial i (t.add c)
    | (none, t) => createInitial i t

def init : Bool × Pool :=
  if s.initialized then (true, s)
  else if !a.library then (false, s)
  else
    let t := createInitial a cfg.minConnections.toNat s
    if t.all = [] then (false, t) else (true, { t with initialized := true })

/-! ## Acquisition -/

/-- The first valid connection of the queue, the rest of it, and `all_connections_` without the
    invalid ones before. -/
def takeIdle : List Nat → List Nat → Option Nat × List Nat × List Nat
  | [], all => (none, [], all)
  | c :: idle, all => if a.valid c then (some c, idle, all) else takeIdle idle (all.erase c)

/-- `cv_.wait_until` -/
def await : Pool := { s with waiting := s.waiting ++ [n] }

/-- The loop of `acquire`, as far as it holds the mutex. -/
def acquireLoop : Pool :=
  match takeIdle a s.idle s.all with
  | (some c, idle, all) => ({ s with idle := idle, all := all }.touch c a.now).handOut n c
  | (none, idle, all) =>
    let t := { s with idle := idle, all := all }
    if t.all.length < cfg.maxConnections.toNat then
      match t.createConnection a with
      | (some c, u) => { u with all := u.all ++ [c] }.handOut n c
      | (none, u) => u.await n
    else t.await n

def acquire : Pool := if s.isShutdown then s else s.acquireLoop cfg a n

/-- After the wait, unless it has timed out. -/
def resume : Pool :=
  let t := { s with waiting := s.waiting.erase n }
  if t.isShutdown then t else t.acquireLoop cfg a n

def timeOut : Pool :=
  { s with waiting := s.waiting.erase n, acquireTimeouts := s.acquireTimeouts + 1 }

def tryAcquire : Pool :=
  if s.isShutdown then s
  else
    match s.idle with
    | [] => s
    | c :: idle =>
      if a.valid c then ({ s with idle := idle }.touch c a.now).handOut n c
      else { s with idle := idle, all := s.all.erase c }

/-! ## Release -/

/-- The call `n` gives back the connection `c`. -/
def release : Pool :=
  let s := { s with held := s.held.erase (n, c) }
  if s.isShutdown then s
  else
    let t := (s.setInUse c false).touch c a.now
    let t := if a.valid c then { t with idle := t.idle ++ [c] }
      else { t with all := t.all.erase c }
    { t with totalReleases := t.totalReleases + 1 }

/-! ## Cleanup -/

/-- `duration_cast` to seconds -/
def idleTime : Int := (a.now - s.lastUsed c).tdiv 1000000000

/-- The loop over the queue: what stays in it, and in `all_connections_`. -/
def sweep : List Nat → List Nat → List Nat × List Nat
  | [], all => ([], all)
  | c :: idle, all =>
    if cfg.minConnections.toNat < all.length ∧ cfg.maxIdleTime.toInt64.toInt < s.idleTime a c then
      sweep idle (all.erase c)
    else ((c :: (sweep idle all).1), (sweep idle all).2)

/-- `k` connections are missing; the loop ends when one cannot be created. -/
def ensureMinimum : Nat → Pool → Pool
  | 0, s => s
  | k + 1, s =>
    match s.createConnection a with
    | (some c, t) => ensureMinimum k (t.add c)
    | (none, t) => t

def cleanupIdleConnections : Pool :=
  if s.isShutdown then s
  else
    let t := { s with
      idle := (s.sweep cfg a s.idle s.all).1, all := (s.sweep cfg a s.idle s.all).2 }
    ensureMinimum a (cfg.minConnections.toNat - t.all.length) t

/-! ## Statistics -/

def usedSize : Nat := s.all.countP s.inUse

structure Stats where
  totalConnections : UInt64
  idleConnections : UInt64
  usedConnections : UInt64
  totalAcquires : UInt64
  totalReleases : UInt64
  acquireTimeouts : UInt64
  connectionErrors : UInt64

def getStats : Stats where
  totalConnections := .ofNat s.all.length
  idleConnections := .ofNat s.idle.length
  usedConnections := .ofNat s.all.length - .ofNat s.idle.length
  totalAcquires := .ofNat s.totalAcquires
  totalReleases := .ofNat s.totalReleases
  acquireTimeouts := .ofNat s.acquireTimeouts
  connectionErrors := .ofNat s.connectionErrors

end Pool

/-! ## Steps -/

inductive Label
  | init (a : Answers)
  | acquire (n : Nat) (a : Answers)
  | resume (n : Nat) (a : Answers)
  | timeOut (n : Nat)
  | tryAcquire (n : Nat) (a : Answers)
  | release (n c : Nat) (a : Answers)
  | cleanup (a : Answers)
  /-- the first critical section of `shutdown` -/
  | shutdown
  /-- the second one -/
  | clear

/-- A connection is released by the call that has it, and once. -/
def step (cfg : PoolConfig) (s : Pool) : Label → Option Pool
  | .init a => some (s.init cfg a).2
  | .acquire n a => some (s.acquire cfg a n)
  | .resume n a => if n ∈ s.waiting then some (s.resume cfg a n) else none
  | .timeOut n => if n ∈ s.waiting then some (s.timeOut n) else none
  | .tryAcquire n a => some (s.tryAcquire a n)
  | .release n c a => if (n, c) ∈ s.held then some (s.release a n c) else none
  | .cleanup a => some (s.cleanupIdleConnections cfg a)
  | .shutdown => some { s with isShutdown := true }
  | .clear =>
    if s.isShutdown then some { s with idle := [], all := [], initialized := false } else none

end ChatApp.DatabasePool
