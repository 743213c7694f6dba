/-
  A handler against the tables. `Outside` answers every call, except what the tables decide: it
  may let any statement fail (the connection is lost, a value is too long), and it orders the
  rows of a history. `Outside.env` is the environment of a handler made of the two.
-/
import Mathlib.Data.List.Sort
import ChatApp.Database.Locking
import ChatApp.Database.Tables
import ChatApp.Session.Handlers

namespace ChatApp.Session

open ChatApp.Lib ChatApp.Lib.Prog ChatApp.Database ChatApp.Protocol

/-- The world of a handler without the tables. -/
structure Outside (ρ : Type) where
  /-- for a statement: does it get through to the tables -/
  answer : ρ → (c : Call) → c.Answer × ρ
  /-- the order of a history: the newest first, equal times in any order -/
  order : ρ → List MessageRow → List MessageRow
  perm : ∀ r rows, (order r rows).Perm rows
  sorted : ∀ r rows, (order r rows).Pairwise fun a b => b.createdAt ≤ a.createdAt

/-- The connection: the tables, the rows and the id that the last statement left. -/
structure Connected where
  db : Tables
  rows : Option (List Row)
  insertId : Option Nat

def Connected.idle (db : Tables) : Connected := ⟨db, none, none⟩

@[simp] theorem Connected.idle_db (db : Tables) : (Connected.idle db).db = db := rfl

namespace Outside

variable {ρ : Type} (o : Outside ρ)

/-- What a statement that got through does. -/
def query (r : ρ) (db : Tables) (stmt : Stmt) : Bool × Connected :=
  match db.exec (o.order r) stmt with
  | .elsewhere => (true, .idle db)
  | .error => (false, .idle db)
  | .ok db' rows id => (true, if stmt.isSelect then ⟨db', some rows, none⟩
    else ⟨db', none, some id⟩)

def env : ρ × Connected → (c : Call) → c.Answer × ρ × Connected
  | (r, s), .db (.query stmt) =>
    let (ok, r') := o.answer r (.db (.query stmt))
    if ok then
      let (done, s') := o.query r s.db stmt
      (done, r', s')
    else (false, r', .idle s.db)
  | (r, s), .db .storeResult =>
    let (rows, r') := o.answer r (.db .storeResult)
    (s.rows.or rows, r', ⟨s.db, none, s.insertId⟩)
  | (r, s), .db .insertId =>
    let (id, r') := o.answer r (.db .insertId)
    (s.insertId.getD id, r', s)
  | (r, s), c =>
    let (a, r') := o.answer r c
    (a, r', s)

end Outside

/-! ## A quiet world -/

def newer (a b : MessageRow) : Prop := b.createdAt ≤ a.createdAt

instance (a b : MessageRow) : Decidable (newer a b) := inferInstanceAs (Decidable (_ ≤ _))

instance : Std.Total newer := ⟨fun a b => (Int.le_total b.createdAt a.createdAt)⟩

instance : IsTrans MessageRow newer := ⟨fun _ _ _ hab hbc => Int.le_trans hbc hab⟩

/-- The answers of a server on which nobody is logged in, with a healthy connection. -/
def quietAnswer : (c : Call) → c.Answer
  | .db (.query _) | .db .hasConnection | .db .ping => true
  | c => default

def quiet : Outside Unit where
  answer r c := (quietAnswer c, r)
  order _ rows := rows.insertionSort newer
  perm _ rows := rows.perm_insertionSort newer
  sorted _ rows := rows.pairwise_insertionSort newer

/-- The frames sent in the course of the calls. -/
def sent (calls : List Call) : List (SessionId × Frame) :=
  calls.filterMap fun
    | .send x frame => some (x, frame)
    | _ => none

@[simp] theorem sent_append (xs ys : List Call) : sent (xs ++ ys) = sent xs ++ sent ys :=
  List.filterMap_append

namespace Outside

variable {ρ α β : Type} (o : Outside ρ)

/-- Result and final state of a handler. -/
def run (p : SessionM α) (e : ρ × Connected) : Except Stop α × ρ × Connected :=
  Prog.run o.env (ExceptT.run p) e

/-- The frames that a handler sends. -/
def frames (p : SessionM α) (e : ρ × Connected) : List (SessionId × Frame) :=
  sent (Prog.trace o.env (ExceptT.run p) e)

section
variable {o} {e : ρ × Connected} {p : SessionM α} {f : α → SessionM β}

@[simp] theorem run_pure (a : α) : o.run (pure a) e = (.ok a, e) := rfl

@[simp] theorem frames_pure (a : α) : o.frames (pure a) e = [] := rfl

theorem run_bind : o.run (p >>= f) e = match o.run p e with
    | (.ok a, e') => o.run (f a) e'
    | (.error stop, e') => (.error stop, e') := by
  unfold run
  rw [run_bind_eq, Prog.run_bind]
  cases Prog.run o.env (ExceptT.run p) e with
  | mk r e' => cases r <;> simp only [Prog.run_ret]

theorem frames_bind : o.frames (p >>= f) e = o.frames p e ++ match o.run p e with
    | (.ok a, e') => o.frames (f a) e'
    | (.error _, _) => [] := by
  unfold frames run
  rw [run_bind_eq, Prog.trace_bind, sent_append]
  cases Prog.run o.env (ExceptT.run p) e with
  | mk r e' => cases r <;> rfl

theorem run_request (c : Call) : o.run (request c) e = (.ok (o.env e c).1, (o.env e c).2) := rfl

@[simp] theorem frames_send (x : SessionId) (frame : Frame) :
    o.frames (request (.send x frame)) e = [(x, frame)] := rfl

/-! ## The database -/

/-- The environment as the database sees it. -/
def dbEnv (o : Outside ρ) : ρ × Connected → (c : Database.Call) → c.Answer × ρ × Connected :=
  fun e c => o.env e (.db c)

theorem run_dbCall {held : Bool} {c : Database.Call} (h : c = .lock → held = false) :
    o.run (dbCall held c) e = (.ok (o.dbEnv e c).1, (o.dbEnv e c).2) := by
  cases held with
  | false => cases c <;> rfl
  | true =>
    cases c
    case lock => cases h rfl
    all_goals rfl

/-- A method that never locks `mutex_` twice does what its program does. -/
theorem run_lift {held : Bool} {q : DbProg α}
    (h : Obeys lockProtocol o.dbEnv held e q fun _ _ _ => True) :
    o.run (lift held q) e = (.ok (Prog.run o.dbEnv q e).1, (Prog.run o.dbEnv q e).2) := by
  induction q generalizing held e with
  | ret a => rfl
  | call c k ih =>
    obtain ⟨hlock, hk⟩ := h
    have hnext : lockProtocol.next held c (o.dbEnv e c).1 = holds held c := by
      cases c <;> rfl
    rw [hnext] at hk
    rw [lift, run_bind, run_dbCall hlock]
    exact ih _ hk

@[simp] theorem frames_lift (held : Bool) (q : DbProg α) : o.frames (lift held q) e = [] := by
  induction q generalizing held e with
  | ret a => rfl
  | call c k ih =>
    have hcall : o.frames (dbCall held c) e = [] := by
      cases held <;> cases c <;> rfl
    rw [lift, frames_bind, hcall]
    rcases o.run (dbCall held c) e with ⟨r, e'⟩
    cases r
    · rfl
    · exact ih _ _

@[simp] theorem frames_db (q : DbProg α) : o.frames (db q) e = [] := frames_lift false q

end

/-! ## What a database program does to the tables -/

/-- From the tables `d`, the program ends with `A`, whatever else the world does. -/
def DbTriple (d : Tables) (q : DbProg α) (A : α → Tables → Prop) : Prop :=
  ∀ e, e.2.db = d → A (Prog.run o.dbEnv q e).1 (Prog.run o.dbEnv q e).2.2.db

/-- The connection is alive and every statement gets through. -/
structure Healthy : Prop where
  query : ∀ r stmt, (o.answer r (.db (.query stmt))).1 = true
  hasConnection : ∀ r, (o.answer r (.db .hasConnection)).1 = true
  ping : ∀ r, (o.answer r (.db .ping)).1 = true

theorem healthy_quiet : quiet.Healthy := ⟨fun _ _ => rfl, fun _ => rfl, fun _ => rfl⟩

section
variable {o} {d : Tables}

theorem dbTriple_pure {a : α} {A : α → Tables → Prop} (h : A a d) :
    o.DbTriple d (pure a) A := by
  rintro e rfl
  exact h

theorem dbTriple_bind {q : DbProg α} {k : α → DbProg β} {A : β → Tables → Prop}
    (h : o.DbTriple d q fun a d' => o.DbTriple d' (k a) A) : o.DbTriple d (q >>= k) A := by
  intro e he
  rw [Prog.run_bind]
  exact h e he _ rfl

theorem DbTriple.mono {q : DbProg α} {A B : α → Tables → Prop} (h : o.DbTriple d q A)
    (hAB : ∀ a d', A a d' → B a d') : o.DbTriple d q B :=
  fun e he => hAB _ _ (h e he)

theorem dbTriple_ite {b : Prop} [Decidable b] {p q : DbProg α} {A : α → Tables → Prop}
    (hp : o.DbTriple d p A) (hq : o.DbTriple d q A) : o.DbTriple d (if b then p else q) A := by
  split
  · exact hp
  · exact hq

/-- A call that is neither a statement nor the fetch of one. -/
theorem dbTriple_request {c : Database.Call} {A : c.Answer → Tables → Prop}
    (hc : ∀ e, (o.dbEnv e c).2.2.db = e.2.db) (h : ∀ a, A a d) :
    o.DbTriple d (Database.request c) A := by
  rintro e rfl
  show A (o.dbEnv e c).1 (o.dbEnv e c).2.2.db
  rw [hc]
  exact h _

theorem dbTriple_locked {q : DbProg α} {A : α → Tables → Prop} (h : o.DbTriple d q A) :
    o.DbTriple d (locked q) A := by
  refine dbTriple_bind (dbTriple_request (fun _ => rfl) fun _ => dbTriple_bind (h.mono ?_))
  intro a d' ha
  exact dbTriple_bind (dbTriple_request (fun _ => rfl) fun _ => dbTriple_pure ha)

theorem dbTriple_getCurrentTimestamp {A : Int → Tables → Prop} (h : ∀ now, A now d) :
    o.DbTriple d getCurrentTimestamp A :=
  dbTriple_request (fun _ => rfl) h

/-- A statement without rows: it fails, or does what it does to the tables. -/
theorem dbTriple_mysqlQuery {stmt : Stmt} {A : Bool → Tables → Prop}
    (hfail : A false d ∨ o.Healthy)
    (h : ∀ r, A (o.query r d stmt).1 (o.query r d stmt).2.db) :
    o.DbTriple d (mysqlQuery stmt) A := by
  rintro ⟨r, s⟩ rfl
  show A (o.env (r, s) (.db (.query stmt))).1 (o.env (r, s) (.db (.query stmt))).2.2.db
  simp only [env]
  by_cases hok : (o.answer r (.db (.query stmt))).1 = true
  · simp only [hok, if_true]
    exact h r
  · rcases hfail with hfail | hfail
    · simpa [hok] using hfail
    · exact absurd (hfail.query r stmt) hok

/-- A SELECT that the tables answer. -/
theorem dbTriple_select {stmt : Stmt} {A : Option (List Row) → Tables → Prop}
    (rows : (List MessageRow → List MessageRow) → Option (List Row))
    (hselect : stmt.isSelect = true)
    (hexec : ∀ order, d.exec order stmt = .select d (rows order))
    (hfail : A none d ∨ o.Healthy) (h : ∀ r, A (rows (o.order r)) d) :
    o.DbTriple d (select stmt) A := by
  rintro ⟨r, s⟩ rfl
  have hquery : o.query r s.db stmt = (rows (o.order r)).elim (false, .idle s.db)
      fun rows => (true, ⟨s.db, some rows, none⟩) := by
    unfold query
    rw [hexec]
    cases rows (o.order r) <;> simp [Tables.Outcome.select, hselect]
  have hrun : Prog.run o.dbEnv (select stmt) (r, s) = Prog.run o.dbEnv
      (if !(o.env (r, s) (.db (.query stmt))).1 then pure none else mysqlStoreResult)
      (o.env (r, s) (.db (.query stmt))).2 := Prog.run_bind _ _ _ _
  have hrows := h r
  rw [hrun]
  simp only [env]
  by_cases hok : (o.answer r (.db (.query stmt))).1 = true
  · simp only [hok, if_true, hquery]
    cases hx : rows (o.order r) with
    | none => simpa [hx] using hrows
    | some xs => simpa [hx, dbEnv, env] using hrows
  · rcases hfail with hfail | hfail
    · simpa [hok] using hfail
    · exact absurd (hfail.query r stmt) hok

/-- The first row of a SELECT. -/
theorem dbTriple_selectFirst {stmt : Stmt} {A : Option Row → Tables → Prop} (rows : List Row)
    (hselect : stmt.isSelect = true) (hexec : ∀ order, d.exec order stmt = .select d (some rows))
    (hfail : A none d ∨ o.Healthy) (h : A rows.head? d) :
    o.DbTriple d (selectFirst stmt) A :=
  dbTriple_bind (dbTriple_select (fun _ => some rows) hselect hexec (hfail.imp_left dbTriple_pure)
    fun _ =>
    dbTriple_pure h)

theorem query_insert {r : ρ} {stmt : Stmt} {id : Nat} {db? : Option Tables}
    (hselect : stmt.isSelect = false) (hexec : d.exec (o.order r) stmt = .insert id db?) :
    o.query r d stmt = db?.elim (false, .idle d) fun d' => (true, ⟨d', none, some id⟩) := by
  unfold query
  rw [hexec]
  cases db? <;> simp [Tables.Outcome.insert, hselect]

/-- An INSERT that goes through. -/
theorem env_insert {r : ρ} {c : Connected} {stmt : Stmt} {id : Nat} {db? : Option Tables}
    (hselect : stmt.isSelect = false)
    (hexec : c.db.exec (o.order r) stmt = .insert id db?)
    (hok : (o.env (r, c) (.db (.query stmt))).1 = true) :
    ∃ r' d', db? = some d' ∧ (o.env (r, c) (.db (.query stmt))).2 = (r', ⟨d', none, some id⟩) := by
  have hquery := query_insert hselect hexec
  simp only [env] at hok ⊢
  by_cases hanswer : (o.answer r (.db (.query stmt))).1 = true
  · simp only [hanswer, if_true, hquery] at hok ⊢
    cases db? with
    | none => cases hok
    | some d' => exact ⟨_, d', rfl, rfl⟩
  · simp [hanswer] at hok

/-- An INSERT and the id of the new row. -/
theorem dbTriple_insert {stmt : Stmt} {id : Nat} {db? : Option Tables} {x : DbProg α}
    {f : Nat → DbProg α} {A : α → Tables → Prop} (hselect : stmt.isSelect = false)
    (hexec : ∀ order, d.exec order stmt = .insert id db?)
    (hfail : o.DbTriple d x A) (h : ∀ d', db? = some d' → o.DbTriple d' (f id) A) :
    o.DbTriple d (do
      if !(← mysqlQuery stmt) then x else
      let id ← getLastInsertId
      f id) A := by
  rintro ⟨r, s⟩ rfl
  have hquery := query_insert (r := r) hselect (hexec (o.order r))
  rw [Prog.run_bind]
  simp only [run_mysqlQuery, dbEnv, env]
  by_cases hok : (o.answer r (.db (.query stmt))).1 = true
  · simp only [hok, if_true, hquery]
    cases db? with
    | none => exact hfail _ rfl
    | some d' => exact h d' rfl _ rfl
  · simp only [hok]
    exact hfail _ rfl

/-- `ensure_connection` of a healthy connection. -/
theorem dbTriple_ensureConnection (ho : o.Healthy) {A : Bool → Tables → Prop} (h : A true d) :
    o.DbTriple d ensureConnection A := by
  rintro ⟨r, s⟩ rfl
  have hconnection : (o.dbEnv (r, s) .hasConnection).1 = true := ho.hasConnection r
  have hping : (o.dbEnv (o.dbEnv (r, s) .hasConnection).2 .ping).1 = true := ho.ping _
  have hdb : (o.dbEnv (o.dbEnv (r, s) .hasConnection).2 .ping).2.2.db = s.db := rfl
  simp [ensureConnection, hconnection, hping, hdb, h]

end

/-! ## What a handler does to the tables, and what it sends -/

/-- From the tables `d`, the handler ends with `A`: its result, the tables and the frames. -/
def Triple (d : Tables) (p : SessionM α)
    (A : Except Stop α → Tables → List (SessionId × Frame) → Prop) : Prop :=
  ∀ e, e.2.db = d → A (o.run p e).1 (o.run p e).2.2.db (o.frames p e)

/-- The next part of a handler, after the frames `xs`. -/
def Then (f : α → SessionM β) (A : Except Stop β → Tables → List (SessionId × Frame) → Prop) :
    Except Stop α → Tables → List (SessionId × Frame) → Prop
  | .ok a, d, xs => o.Triple d (f a) fun r d' ys => A r d' (xs ++ ys)
  | .error stop, d, xs => A (.error stop) d xs

section
variable {o} {d : Tables} {p : SessionM α} {f : α → SessionM β}

theorem Triple.mono {A B : Except Stop α → Tables → List (SessionId × Frame) → Prop}
    (h : o.Triple d p A) (hAB : ∀ r d' xs, A r d' xs → B r d' xs) : o.Triple d p B :=
  fun e he => hAB _ _ _ (h e he)

theorem triple_pure {a : α} {A : Except Stop α → Tables → List (SessionId × Frame) → Prop}
    (h : A (.ok a) d []) : o.Triple d (pure a) A := by
  rintro e rfl
  exact h

theorem then_ok {A : Except Stop β → Tables → List (SessionId × Frame) → Prop} {a : α}
    {xs : List (SessionId × Frame)} (h : o.Triple d (f a) fun r d' ys => A r d' (xs ++ ys)) :
    o.Then f A (.ok a) d xs := h

theorem triple_bind {A : Except Stop β → Tables → List (SessionId × Frame) → Prop}
    (h : o.Triple d p (o.Then f A)) : o.Triple d (p >>= f) A := by
  intro e he
  rw [run_bind, frames_bind]
  have hp := h e he
  cases hrun : o.run p e with
  | mk r e' =>
    rw [hrun] at hp
    cases r with
    | ok a => exact hp e' rfl
    | error stop => simpa [Then] using hp

theorem triple_send {x : SessionId} {frame : Frame}
    {A : Except Stop Unit → Tables → List (SessionId × Frame) → Prop}
    (h : A (.ok ()) d [(x, frame)]) : o.Triple d (request (.send x frame)) A := by
  rintro e rfl
  exact h

theorem triple_read {x : Except JsonError α} {a : α}
    {A : Except Stop β → Tables → List (SessionId × Frame) → Prop} (hx : x = .ok a)
    (h : o.Triple d (f a) A) : o.Triple d (read x >>= f) A := by
  subst hx
  exact h

theorem triple_db {q : DbProg α} {A : Except Stop α → Tables → List (SessionId × Frame) → Prop}
    (hsafe : ∀ e, Obeys lockProtocol o.dbEnv false e q fun _ _ _ => True)
    (h : o.DbTriple d q fun a d' => A (.ok a) d' []) : o.Triple d (db q) A := by
  intro e he
  rw [frames_db, db, run_lift (hsafe e)]
  exact h e he

/-- A method that only locks is safe. -/
theorem obeys_paired {q : DbProg α} (hq : Paired q) (e : ρ × Connected) :
    Obeys lockProtocol o.dbEnv false e (locked q) fun _ _ _ => True :=
  obeys_locked.2 ((hq.lock.obeys _ _).mono fun _ _ _ _ => trivial)

theorem triple_locked {q : DbProg α}
    {A : Except Stop α → Tables → List (SessionId × Frame) → Prop} (hq : Paired q)
    (h : o.DbTriple d (locked q) fun a d' => A (.ok a) d' []) : o.Triple d (db (locked q)) A :=
  triple_db (obeys_paired hq) h

/-- A method that calls `ensure_connection`, on a healthy connection. -/
theorem triple_ensured (ho : o.Healthy) {q : DbProg α} {x : α}
    {A : Except Stop α → Tables → List (SessionId × Frame) → Prop} (hq : Paired q)
    (h : o.DbTriple d (locked (ensured x q)) fun a d' => A (.ok a) d' []) :
    o.Triple d (db (locked (ensured x q))) A := by
  refine triple_db (fun e => obeys_locked.2 ((obeys_ensured hq).2 ?_)) h
  have hping : ∀ e, (o.dbEnv e .ping).1 = true := fun e => ho.ping e.1
  have hconnection : ∀ e, (o.dbEnv e .hasConnection).1 = true := fun e => ho.hasConnection e.1
  simp [Reconnects, reconnecting, hconnection, hping]

end

end Outside

end ChatApp.Session
