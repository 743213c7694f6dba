/-
  A method of `Database` as one step. Every method here holds `mutex_` from its first statement to
  its last, so between two of its statements nobody else touches the tables. `atomically` runs
  the program of the method on tables of any kind `S`, whose statements `exec` carries out.

  A statement is atomic: it does all of its work or fails and changes nothing. It fails when a
  key forbids what it does, or for a reason outside (`Moment.through`): the connection is lost
  under it and comes back, a lock waits too long. A SELECT that gets through is fetched too.
-/
import ChatApp.Database.Methods

namespace ChatApp.Database

open ChatApp.Lib

/-- The circumstances in which a method runs. -/
structure Moment where
  now : Int
  /-- what `ensure_connection` finds -/
  connected : Bool
  /-- does the n-th statement of the method get through? -/
  through : Nat → Bool

/-- A moment in which every statement gets through. -/
def Moment.Healthy (m : Moment) : Prop := m.connected = true ∧ ∀ n, m.through n = true

/-- A check of `p` by one SELECT answers true: it gets through, and `p` holds. -/
def Moment.Sees (m : Moment) (p : Prop) : Prop := m.through 0 = true ∧ p

instance (m : Moment) (p : Prop) [Decidable p] : Decidable (m.Sees p) :=
  inferInstanceAs (Decidable (_ ∧ _))

theorem Moment.decide_sees (m : Moment) (p : Prop) [Decidable p] :
    decide (m.Sees p) = (m.through 0 && decide p) := by
  rw [Bool.eq_iff_iff, decide_eq_true_iff, Bool.and_eq_true, decide_eq_true_iff]
  rfl

theorem Moment.Healthy.sees {m : Moment} (h : m.Healthy) {p : Prop} : m.Sees p ↔ p :=
  and_iff_right (h.2 0)

/-- Result of a statement: the tables after it, its rows and the id it made; `none` is an error. -/
abbrev Exec (S : Type) := S → Stmt → Option (S × List Row × Nat)

/-- The tables, the result set that is not fetched yet, the last id and the statements sent. -/
structure Connection (S : Type) where
  tables : S
  result : Option (List Row)
  lastId : Nat
  sent : Nat

variable {S α : Type}

/-- The next statement on its way to the tables. -/
def Moment.send (m : Moment) (exec : Exec S) (s : Connection S) (stmt : Stmt) :
    Option (S × List Row × Nat) :=
  if m.through s.sent then exec s.tables stmt else none

def serve (exec : Exec S) (m : Moment) : Connection S → (c : Call) → c.Answer × Connection S
  | s, .lock | s, .unlock | s, .close => ((), s)
  | s, .hasConnection | s, .ping | s, .init | s, .realConnect => (m.connected, s)
  | s, .query stmt =>
    match m.send exec s stmt with
    | none => (false, { s with sent := s.sent + 1 })
    | some (tables, rows, id) =>
      (true, ⟨tables, if stmt.isSelect then some rows else none, id, s.sent + 1⟩)
  | s, .storeResult => (s.result, { s with result := none })
  | s, .insertId => (s.lastId, s)
  | s, .fileSize _ => ((0 : Nat), s)
  | s, .timestamp => (m.now, s)

/-- A method from beginning to end: what it returns, and the tables after it. -/
def atomically (exec : Exec S) (m : Moment) (p : DbProg α) (db : S) : α × S :=
  let r := p.run (serve exec m) ⟨db, none, 0, 0⟩
  (r.1, r.2.tables)

/-! ## The parts of a method -/

section
variable {exec : Exec S} {m : Moment} {s : Connection S}

@[simp] theorem serve_locked {p : DbProg α} :
    (locked p).run (serve exec m) s = p.run (serve exec m) s := by
  simp [locked, serve]

@[simp] theorem serve_ensureConnection :
    ensureConnection.run (serve exec m) s = (m.connected, s) := by
  cases hm : m.connected <;> simp [ensureConnection, serve, hm]

@[simp] theorem serve_getCurrentTimestamp :
    getCurrentTimestamp.run (serve exec m) s = (m.now, s) := rfl

@[simp] theorem serve_getLastInsertId :
    getLastInsertId.run (serve exec m) s = (s.lastId, s) := rfl

/-- A statement without a result set. -/
theorem serve_mysqlQuery {stmt : Stmt} (h : stmt.isSelect = false) :
    (mysqlQuery stmt).run (serve exec m) s =
      match m.send exec s stmt with
      | none => (false, { s with sent := s.sent + 1 })
      | some (tables, _, id) => (true, ⟨tables, none, id, s.sent + 1⟩) := by
  simp [serve, h]

/-- A SELECT leaves the tables as they are and gives its rows if it gets through. -/
theorem serve_select {stmt : Stmt} {rows : List Row} {id : Nat} (h : stmt.isSelect = true)
    (hexec : exec s.tables stmt = some (s.tables, rows, id)) :
    ∃ s', (select stmt).run (serve exec m) s =
        (if m.through s.sent then some rows else none, s') ∧
      s'.tables = s.tables ∧ s'.sent = s.sent + 1 := by
  cases hm : m.through s.sent with
  | true =>
    refine ⟨⟨s.tables, none, id, s.sent + 1⟩, ?_, rfl, rfl⟩
    simp [select, serve, Moment.send, hm, hexec, h]
  | false =>
    refine ⟨{ s with sent := s.sent + 1 }, ?_, rfl, rfl⟩
    simp [select, serve, Moment.send, hm]

theorem serve_selectFirst {stmt : Stmt} {rows : List Row} {id : Nat} (h : stmt.isSelect = true)
    (hexec : exec s.tables stmt = some (s.tables, rows, id)) :
    ∃ s', (selectFirst stmt).run (serve exec m) s =
        (if m.through s.sent then rows.head? else none, s') ∧
      s'.tables = s.tables ∧ s'.sent = s.sent + 1 := by
  obtain ⟨s', hrun, hs'⟩ := serve_select (m := m) h hexec
  refine ⟨s', ?_, hs'⟩
  simp only [selectFirst, Prog.run_bind, hrun, Prog.pure_eq_ret, Prog.run_ret]
  split <;> rfl

/-- A program that issues only SELECTs leaves the tables as they are. -/
theorem serve_reads {p : DbProg α}
    (hp : Prog.CallsOnly (fun c : Call => ∀ stmt, c = .query stmt → stmt.isSelect = true) p)
    (hexec : ∀ db stmt db' rows id, stmt.isSelect = true → exec db stmt = some (db', rows, id) →
      db' = db) :
    (p.run (serve exec m) s).2.tables = s.tables := by
  induction p generalizing s with
  | ret => rfl
  | call c k ih =>
    rw [Prog.run_call, ih _ (hp.2 _)]
    cases c with
    | query stmt =>
      simp only [serve, Moment.send]
      split
      case h_1 => rfl
      case h_2 h =>
        rw [Option.ite_none_right_eq_some] at h
        exact hexec _ stmt _ _ _ (hp.1 stmt rfl) h.2
    | _ => rfl

end

/-! ## The usual methods -/

section
variable {exec : Exec S} {m : Moment} {db : S}

/-- A method that looks at the rows of a SELECT. -/
theorem atomically_select {stmt : Stmt} {rows : List Row} {id : Nat} (f : Option (List Row) → α)
    (h : stmt.isSelect = true) (hexec : exec db stmt = some (db, rows, id)) :
    atomically exec m (locked do
      let result ← select stmt
      return f result) db = (f (if m.through 0 then some rows else none), db) := by
  obtain ⟨s', hrun, htables, -⟩ := serve_select (m := m) (s := ⟨db, none, 0, 0⟩) h hexec
  simp only [atomically, serve_locked, Prog.run_bind, hrun]
  exact Prod.ext rfl htables

/-- A method that looks at the first row of a SELECT. -/
theorem atomically_selectFirst {stmt : Stmt} {rows : List Row} {id : Nat} (f : Option Row → α)
    (h : stmt.isSelect = true) (hexec : exec db stmt = some (db, rows, id)) :
    atomically exec m (locked do
      let row ← selectFirst stmt
      return f row) db = (f (if m.through 0 then rows.head? else none), db) := by
  obtain ⟨s', hrun, htables, -⟩ :=
    serve_selectFirst (m := m) (s := ⟨db, none, 0, 0⟩) h hexec
  simp only [atomically, serve_locked, Prog.run_bind, hrun]
  exact Prod.ext rfl htables

/-- A method that looks at the connection first. -/
theorem atomically_ensured {stmt : Stmt} {rows : List Row} {id : Nat} (f : Option Row → α) (a : α)
    (h : stmt.isSelect = true) (hexec : exec db stmt = some (db, rows, id)) :
    atomically exec m (locked do
      if !(← ensureConnection) then return a
      let row ← selectFirst stmt
      return f row) db =
        (if m.connected then f (if m.through 0 then rows.head? else none) else a, db) := by
  obtain ⟨s', hrun, htables, -⟩ :=
    serve_selectFirst (m := m) (s := ⟨db, none, 0, 0⟩) h hexec
  cases hm : m.connected with
  | true =>
    simp only [atomically, serve_locked, Prog.run_bind, serve_ensureConnection, hm, Bool.not_true,
      Bool.false_eq_true, if_false, hrun]
    exact Prod.ext rfl htables
  | false => simp [atomically, hm]

/-- A method that issues one statement without a result set. -/
theorem atomically_execute {stmt : Stmt} (h : stmt.isSelect = false) :
    atomically exec m (locked (execute stmt)) db =
      match (if m.through 0 then exec db stmt else none) with
      | none => (false, db)
      | some (db', _) => (true, db') := by
  simp only [atomically, serve_locked, execute, serve_mysqlQuery h, Moment.send]
  cases (if m.through 0 then exec db stmt else none) <;> rfl

/-- The same with the time of the statement. -/
theorem atomically_executeNow {stmt : Int → Stmt} (h : (stmt m.now).isSelect = false) :
    atomically exec m (locked do
      let now ← getCurrentTimestamp
      execute (stmt now)) db =
        match (if m.through 0 then exec db (stmt m.now) else none) with
        | none => (false, db)
        | some (db', _) => (true, db') := by
  simp only [atomically, serve_locked, Prog.run_bind, serve_getCurrentTimestamp, execute,
    serve_mysqlQuery h, Moment.send]
  cases (if m.through 0 then exec db (stmt m.now) else none) <;> rfl

end

end ChatApp.Database
