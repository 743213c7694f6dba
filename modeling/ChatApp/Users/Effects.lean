/-
  What each call of a user operation answers and does to the table, by the fate of its statement.
-/
import ChatApp.Users.Methods

namespace ChatApp.Users

open ChatApp.Lib ChatApp.Database ChatApp.Session

variable {fold : String → String} (x : Occasion) (db : UserDb fold)

/-- The statement of a method that looks at the connection first gets through. -/
def Reaches (x : Occasion) : Prop := x.moment.connected = true ∧ x.moment.through 0 = true

instance (x : Occasion) : Decidable (Reaches x) := inferInstanceAs (Decidable (_ ∧ _))

theorem reply_getUserById (u : Nat) : reply x db (.method (.getUserById u)) =
    (if Reaches x then (db.users.find? u).map UserRow.info else none, db) := by
  refine (atomically_ensured (fun row => row.map Row.user) none rfl
    (show UserDb.exec fold db (.users (.byId u)) = some (db, _, 0) from rfl)).trans ?_
  cases hc : x.moment.connected <;> cases h0 : x.moment.through 0 <;>
    cases hu : db.users.find? u <;> simp [Reaches, hc, h0]

theorem reply_getUserByUsername (n : String) : reply x db (.method (.getUserByUsername n)) =
    (if x.moment.through 0 then (db.named n).map UserRow.info else none, db) := by
  refine (atomically_selectFirst (fun row => row.map Row.user) rfl
    (show UserDb.exec fold db (.users (.byUsername n)) = some (db, _, 0) from rfl)).trans ?_
  cases x.moment.through 0 <;> cases db.named n <;> simp

theorem reply_getUserPasswordHash (n : String) : reply x db (.method (.getUserPasswordHash n)) =
    (if Reaches x then (db.named n).map UserRow.password else none, db) := by
  refine (atomically_ensured
    (fun row => row.bind fun row : Row => if row.cell 0 = .null then none else some (row.str 0))
    none
    rfl (show UserDb.exec fold db (.users (.password n)) = some (db, _, 0) from rfl)).trans ?_
  cases hc : x.moment.connected <;> cases h0 : x.moment.through 0 <;>
    cases hn : db.named n <;> simp [Reaches, hc, h0, Row.cell, Row.str]

theorem reply_updateUser (user : UserInfo) : reply x db (.method (.updateUser user)) =
    (x.moment.through 0, if x.moment.through 0 then
      db.updateWhere user.userId
        (UserDb.setProfile user.nickname user.avatarUrl user.signature x.moment.now) (fun _ => rfl)
        fun _ => rfl else db) := by
  refine (atomically_executeNow rfl).trans ?_
  cases x.moment.through 0 <;> rfl

theorem reply_updateUserPassword (u : Nat) (h : String) :
    reply x db (.method (.updateUserPassword u h)) =
      (x.moment.through 0, if x.moment.through 0 then
        db.updateWhere u (UserDb.setPassword h x.moment.now) (fun _ => rfl) fun _ => rfl
      else db) := by
  refine (atomically_executeNow rfl).trans ?_
  cases x.moment.through 0 <;> rfl

theorem reply_updateUserOnlineStatus (u : Nat) (status : OnlineStatus) :
    reply x db (.method (.updateUserOnlineStatus u status)) =
      (x.moment.through 0, if x.moment.through 0 then
        db.updateWhere u (UserDb.setOnlineStatus status) (fun _ => rfl) fun _ => rfl else db) := by
  refine (atomically_execute rfl).trans ?_
  cases x.moment.through 0 <;> rfl

theorem reply_createUser (n p k : String) : reply x db (.method (.createUser n p k)) =
    match (if Reaches x then db.insertUser n p k x.moment.now else none) with
    | none => (none, db)
    | some db' => (some db.users.next, db') := by
  show ((Database.createUser n p k).run (serve (UserDb.exec fold) x.moment)
    (⟨db, none, 0, 0⟩ : Connection _)).map id Connection.tables = _
  cases hc : x.moment.connected with
  | false => simp [Database.createUser, Reaches, hc]
  | true =>
    simp only [Database.createUser, serve_locked, Prog.run_bind, serve_ensureConnection, hc,
      serve_getCurrentTimestamp, Bool.not_true, Bool.false_eq_true, if_false]
    rw [serve_mysqlQuery rfl]
    cases h0 : x.moment.through 0 with
    | false => simp [Moment.send, Reaches, h0]
    | true =>
      cases hins : db.insertUser n p k x.moment.now with
      | none => simp [Moment.send, UserDb.exec, UserDb.execUsers, Reaches, hc, h0, hins]
      | some db' => simp [Moment.send, UserDb.exec, UserDb.execUsers, Reaches, hc, h0, hins]

/-! ## One row -/

section
variable {x : Occasion} {db : UserDb fold} {u v : Nat} {r : UserRow}

/-- What a call may make of the row `r` of `u`. -/
inductive RowStep (x : Occasion) (db : UserDb fold) (u : Nat) (r : UserRow) :
    MethodCall userMethods → UserRow → Prop
  | same {c : MethodCall userMethods} : RowStep x db u r c r
  | profile {user : UserInfo} : user.userId = u →
      (reply x db (.method (.updateUser user))).1 = true → RowStep x db u r
        (.method (.updateUser user))
        (UserDb.setProfile user.nickname user.avatarUrl user.signature x.moment.now r)
  | password {h : String} : (reply x db (.method (.updateUserPassword u h))).1 = true →
      RowStep x db u r (.method (.updateUserPassword u h)) (UserDb.setPassword h x.moment.now r)
  | onlineStatus {status : OnlineStatus} : RowStep x db u r
      (.method (.updateUserOnlineStatus u status)) (UserDb.setOnlineStatus status r)

/-- A call leaves the row. -/
def Steps (x : Occasion) (db : UserDb fold) (u : Nat) (r : UserRow) (c : MethodCall userMethods) :
    Prop :=
  ∃ r', (reply x db c).2.users.find? u = some r' ∧ RowStep x db u r c r'

theorem steps_of_eq {c : MethodCall userMethods} (hr : db.users.find? u = some r)
    (h : (reply x db c).2 = db) : Steps x db u r c := ⟨r, by rw [h, hr], .same⟩

/-- An UPDATE by id, as far as it gets through. -/
theorem steps_updateWhere {c : MethodCall userMethods} {f : UserRow → UserRow}
    {hid : ∀ r, (f r).userId = r.userId} {hname : ∀ r, (f r).username = r.username} {b : Bool}
    (hr : db.users.find? u = some r)
    (h : (reply x db c).2 = if b then db.updateWhere v f hid hname else db)
    (hself : b = true → u = v → RowStep x db u r c (f r)) : Steps x db u r c := by
  cases b with
  | false => exact steps_of_eq hr h
  | true =>
    have hfind : (reply x db c).2.users.find? u =
        if u = v then (db.users.find? u).map f else db.users.find? u := by
      rw [h, if_pos rfl, UserDb.find?_updateWhere]
    rw [hr] at hfind
    by_cases huv : u = v
    · exact ⟨f r, hfind.trans (if_pos huv), hself rfl huv⟩
    · exact ⟨r, hfind.trans (if_neg huv), .same⟩

theorem rowStep (x : Occasion) (c : MethodCall userMethods) (hr : db.users.find? u = some r) :
    Steps x db u r c := by
  cases c with
  | outside => exact steps_of_eq hr rfl
  | method c =>
    cases c with
    | getUserById v => exact steps_of_eq hr (by rw [reply_getUserById])
    | getUserByUsername n => exact steps_of_eq hr (by rw [reply_getUserByUsername])
    | getUserPasswordHash n => exact steps_of_eq hr (by rw [reply_getUserPasswordHash])
    | updateUser user =>
      have hreply := reply_updateUser x db user
      exact steps_updateWhere (f := UserDb.setProfile user.nickname user.avatarUrl user.signature
        x.moment.now) hr (congrArg Prod.snd hreply) fun hb hu =>
          .profile hu.symm ((congrArg Prod.fst hreply).trans hb)
    | updateUserPassword v h =>
      have hreply := reply_updateUserPassword x db v h
      refine steps_updateWhere (f := UserDb.setPassword h x.moment.now) hr
        (congrArg Prod.snd hreply) fun hb hu => ?_
      subst hu
      exact .password ((congrArg Prod.fst hreply).trans hb)
    | updateUserOnlineStatus v status =>
      refine steps_updateWhere (f := UserDb.setOnlineStatus status) hr
        (congrArg Prod.snd (reply_updateUserOnlineStatus x db v status)) fun _ hu => ?_
      subst hu
      exact .onlineStatus
    | createUser n p k =>
      unfold Steps
      rw [reply_createUser]
      cases hins : (if Reaches x then db.insertUser n p k x.moment.now else none) with
      | none => exact ⟨r, hr, .same⟩
      | some db' =>
        have hu : u ≠ db.users.next := by
          intro hu
          rw [hu, SerialTable.find?_next] at hr
          cases hr
        refine ⟨r, ?_, .same⟩
        rw [UserDb.find?_insertUser (Option.ite_none_right_eq_some.1 hins).2, if_neg hu, hr]

end

end ChatApp.Users
