/-
  `DatabaseConnection::query`. The client library reports a lost connection in the same way whether
  or not the server has executed the statement, and `query` then sends it again over a new
  connection. `Database::ensure_connection` reconnects before a statement is sent, and not after.
-/
import Mathlib.Data.List.Basic

namespace ChatApp.DatabasePool

/-- A call of `mysql_query`: `mysql_errno` after it, which is 0 if it succeeds, and whether the
    server has executed the statement. It has when its reply arrives. -/
structure Attempt where
  errno : Nat
  executed : Bool
  replied : errno = 0 → executed = true

def crServerGoneError : Nat := 2006

def crServerLost : Nat := 2013

/-- The connection is lost. -/
def Attempt.Lost (x : Attempt) : Prop := x.errno = crServerLost ∨ x.errno = crServerGoneError

instance (x : Attempt) : Decidable x.Lost := inferInstanceAs (Decidable (_ ∨ _))

/-- What happens in a call of `query`. -/
structure Environment where
  now : Int
  first : Attempt
  /-- `mysql_init` succeeds -/
  init : Bool
  /-- `mysql_real_connect` succeeds -/
  connects : Bool
  second : Attempt

structure DatabaseConnection where
  /-- `connection_` is not null -/
  connection : Bool
  lastUsed : Int

/-- The statements that the server has executed after an attempt. -/
def Attempt.run (x : Attempt) (sql : String) (executed : List String) : List String :=
  if x.executed then executed ++ [sql] else executed

/-- What `query` returns, the connection after it, and the statements that the server has executed
    because of it. -/
structure Queried where
  result : Bool
  connection : DatabaseConnection
  executed : List String

def DatabaseConnection.query (c : DatabaseConnection) (sql : String) (e : Environment) : Queried :=
  if !c.connection then ⟨false, c, []⟩
  else
    let c := { c with lastUsed := e.now }
    let executed := e.first.run sql []
    if e.first.errno ≠ 0 then
      if e.first.Lost then
        if !e.init then ⟨false, { c with connection := false }, executed⟩
        -- the new handle stays, although it is not connected
        else if !e.connects then ⟨false, c, executed⟩
        else if e.second.errno ≠ 0 then ⟨false, c, e.second.run sql executed⟩
        else ⟨true, c, e.second.run sql executed⟩
      else ⟨false, c, executed⟩
    else ⟨true, c, executed⟩

/-- At most one execution, and exactly one if the call succeeds. -/
def Once (sql : String) (q : Queried) : Prop :=
  (q.executed = [] ∨ q.executed = [sql]) ∧ (q.result = true → q.executed = [sql])

/-- The connection is lost behind the statement, and the statement is executed over a new one. -/
structure Repeats (c : DatabaseConnection) (e : Environment) : Prop where
  connection : c.connection = true
  lost : e.first.Lost
  executed : e.first.executed = true
  init : e.init = true
  connects : e.connects = true
  again : e.second.executed = true

variable {c : DatabaseConnection} {sql : String} {e : Environment}

theorem errno_of_lost {x : Attempt} (h : x.Lost) : x.errno ≠ 0 := by
  rcases h with h | h
  all_goals
    rw [h]
    decide

theorem query_repeats (h : Repeats c e) : (c.query sql e).executed = [sql, sql] := by
  have hfirst : e.first.run sql [] = [sql] := by simp [Attempt.run, h.executed]
  have hsecond : e.second.run sql [sql] = [sql, sql] := by simp [Attempt.run, h.again]
  simp only [DatabaseConnection.query, h.connection, h.init, h.connects, hfirst, hsecond,
    if_pos (errno_of_lost h.lost), if_pos h.lost]
  by_cases hreply : e.second.errno = 0 <;> simp [hreply]

theorem run_nil (x : Attempt) : x.run sql [] = [] ∨ x.run sql [] = [sql] := by
  unfold Attempt.run
  split
  next => exact .inr rfl
  next => exact .inl rfl

theorem run_replied {x : Attempt} (h : x.errno = 0) (executed : List String) :
    x.run sql executed = executed ++ [sql] := by
  rw [Attempt.run, if_pos (x.replied h)]

/-- A call that fails after one attempt. -/
theorem once_failed (x : Attempt) (c : DatabaseConnection) : Once sql ⟨false, c, x.run sql []⟩ :=
  ⟨run_nil x, fun h => absurd h Bool.false_ne_true⟩

/-- The statement is executed once at most, and once if the call succeeds, unless the connection is
    lost behind an execution and the statement is executed again. -/
theorem query_once_iff (c : DatabaseConnection) (sql : String) (e : Environment) :
    Once sql (c.query sql e) ↔ ¬ Repeats c e := by
  constructor
  · intro honce hrepeats
    have htwice : (c.query sql e).executed = [sql, sql] := query_repeats hrepeats
    rcases honce.1 with h | h
    all_goals
      rw [htwice] at h
      simp at h
  · intro hnot
    unfold DatabaseConnection.query
    dsimp only
    split
    next => exact ⟨.inl rfl, fun h => absurd h Bool.false_ne_true⟩
    next hconnection =>
    split
    next =>
      split
      next hlost =>
        split
        next => exact once_failed _ _
        next hinit =>
        split
        next => exact once_failed _ _
        next hconnects =>
        simp only [Bool.not_eq_true, Bool.not_eq_false'] at hconnection hinit hconnects
        by_cases hfirst : e.first.executed = true
        · -- so the second attempt fails and executes nothing
          have hsecond : ¬ e.second.executed = true := fun hagain =>
            hnot ⟨hconnection, hlost, hfirst, hinit, hconnects, hagain⟩
          have hnone : e.second.run sql (e.first.run sql []) = e.first.run sql [] := if_neg hsecond
          rw [if_pos fun hreply => hsecond (e.second.replied hreply), hnone]
          exact once_failed _ _
        · have hnone : e.first.run sql [] = [] := if_neg hfirst
          rw [hnone]
          split
          next => exact once_failed _ _
          next hreply =>
            rw [run_replied (not_not.1 hreply)]
            exact ⟨.inr rfl, fun _ => rfl⟩
      next => exact once_failed _ _
    next hreply =>
      have hrun : e.first.run sql [] = [sql] := run_replied (not_not.1 hreply) []
      rw [hrun]
      exact ⟨.inr rfl, fun _ => rfl⟩

/-! ## A reply that is lost -/

/-- The statement is executed, the reply does not arrive, and the second attempt succeeds. -/
def replyLost : Environment := ⟨0, ⟨2013, true, nofun⟩, true, true, ⟨0, true, fun _ => rfl⟩⟩

/-- A message is stored twice. -/
theorem replyLost_twice :
    (DatabaseConnection.query ⟨true, 0⟩ "INSERT INTO private_messages" replyLost).executed =
        ["INSERT INTO private_messages", "INSERT INTO private_messages"] ∧
      ¬ Once "INSERT INTO private_messages"
        (DatabaseConnection.query ⟨true, 0⟩ "INSERT INTO private_messages" replyLost) :=
  ⟨rfl, fun h => h.1.elim (fun h => absurd h (by decide)) fun h => absurd h (by decide)⟩

end ChatApp.DatabasePool
