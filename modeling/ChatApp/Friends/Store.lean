/-
  The tables `users` and `friends` and the statements `FriendManager` makes `Database` issue.

  Each statement is atomic. `friends` has the unique key (user_id, friend_id) and both ids
  refer to `users`; an INSERT that breaks either fails, an UPDATE or DELETE that matches no row
  succeeds. Column widths, the row id and the users' passwords are left out, and so is the order
  of a SELECT without ORDER BY, which is the order of insertion here.

  `sql now` is the connection seen by one caller at a time, alive, with the clock at `now`.
-/
import ChatApp.Lib.Table
import ChatApp.Database.Methods

namespace ChatApp.Friends

open ChatApp.Lib ChatApp.Database

/-- (user_id, friend_id) -/
def pair (r : FriendRelation) : Nat × Nat := (r.userId, r.friendId)

theorem pair_withStatus (status : FriendStatus) (now : Int) (r : FriendRelation) :
    pair { r with status, updatedAt := now } = pair r := rfl

theorem pair_withRemark (remark : String) (now : Int) (r : FriendRelation) :
    pair { r with remark, updatedAt := now } = pair r := rfl

abbrev Users := UniqueTable UserInfo.userId

structure FriendDb where
  users : Users
  friends : UniqueTable pair
  references : ∀ r ∈ friends.rows,
    (users.find? r.userId).isSome ∧ (users.find? r.friendId).isSome

namespace FriendDb

/-- The state with no row in `friends`. -/
def fresh (users : Users) : FriendDb := ⟨users, .empty, nofun⟩

def insertFriend (db : FriendDb) (r : FriendRelation) : Option FriendDb :=
  if hr : (db.users.find? r.userId).isSome ∧ (db.users.find? r.friendId).isSome then
    match h : db.friends.insert? r with
    | none => none
    | some friends => some ⟨db.users, friends, by
        rw [UniqueTable.rows_insert? h]
        intro r' hr'
        rcases List.mem_append.1 hr' with hr' | hr'
        · exact db.references r' hr'
        · rw [List.mem_singleton.1 hr']
          exact hr⟩
  else none

/-- UPDATE of the row with the given key. -/
def updateFriend (db : FriendDb) (k : Nat × Nat) (f : FriendRelation → FriendRelation)
    (hf : ∀ r, pair (f r) = pair r) : FriendDb where
  users := db.users
  friends := db.friends.update (fun r => if pair r = k then f r else r)
    fun r => by split <;> simp [hf]
  references r hr := by
    obtain ⟨r', hr', rfl⟩ := List.mem_map.1 hr
    have hpair : pair (if pair r' = k then f r' else r') = pair r' := by
      split <;> simp [hf]
    rw [show (if pair r' = k then f r' else r').userId = r'.userId from congrArg Prod.fst hpair,
      show (if pair r' = k then f r' else r').friendId = r'.friendId from
        congrArg Prod.snd hpair]
    exact db.references r' hr'

def deleteFriends (db : FriendDb) (p : FriendRelation → Bool) : FriendDb where
  users := db.users
  friends := db.friends.filter (!p ·)
  references r hr := db.references r (List.mem_of_mem_filter hr)

/-- The eight columns of a row of `users`. -/
def userRow (u : UserInfo) : Row :=
  [.num u.userId, .text u.username, .text u.nickname, .text u.avatarUrl, .text u.signature,
    .num u.onlineStatus.code, .num u.createdAt, .num u.updatedAt]

/-- The columns of a row of `users` joined with a row of `friends`. -/
def relationRow (u : UserInfo) (r : FriendRelation) : Row :=
  userRow u ++ [.text r.remark, .num r.status.code, .num r.createdAt, .num r.updatedAt]

/-- users JOIN friends: the rows of `friends` that meet `p`, each with the user `id` names. -/
def join (db : FriendDb) (id : FriendRelation → Nat) (p : FriendRelation → Bool) :
    List (UserInfo × FriendRelation) :=
  (db.friends.rows.filter p).filterMap fun r => (db.users.find? (id r)).map (·, r)

def execFriends (db : FriendDb) : FriendStmt → Option (FriendDb × List Row)
  | .insert userId friendId status now =>
    (db.insertFriend ⟨userId, friendId, "", status, now, now⟩).map (·, [])
  | .setStatus userId friendId status now =>
    some (db.updateFriend (userId, friendId) (fun r => { r with status, updatedAt := now })
      (pair_withStatus status now), [])
  | .deleteBoth userId friendId =>
    some (db.deleteFriends fun r => pair r = (userId, friendId) ∨ pair r = (friendId, userId), [])
  | .listAccepted userId =>
    some (db, (db.join (·.friendId) fun r => r.userId = userId ∧ r.status = .accepted).map
      fun x => relationRow x.1 x.2)
  | .listRequests userId =>
    some (db, (db.join (·.userId) fun r => r.friendId = userId ∧ r.status = .pending).map
      fun x => relationRow x.1 x.2)
  | .countAccepted userId friendId =>
    some (db, [[.num (db.friends.rows.countP fun r =>
      pair r = (userId, friendId) ∧ r.status = .accepted)]])
  | .setRemark userId friendId remark now =>
    some (db.updateFriend (userId, friendId) (fun r => { r with remark, updatedAt := now })
      (pair_withRemark remark now), [])

/-- Result of a statement; `none` is an error. Statements on other tables are not answered. -/
def exec (db : FriendDb) : Stmt → Option (FriendDb × List Row)
  | .users (.byId userId) => some (db, (db.users.find? userId).toList.map userRow)
  | .friends s => db.execFriends s
  | _ => none

end FriendDb

/-- The tables, and the result set of the last SELECT if it is not fetched yet. -/
structure SqlState where
  db : FriendDb
  result : Option (List Row)

def FriendDb.idle (db : FriendDb) : SqlState := ⟨db, none⟩

@[simp] theorem FriendDb.idle_db (db : FriendDb) : db.idle.db = db := rfl

def sql (now : Int) : SqlState → (c : Call) → c.Answer × SqlState
  | s, .lock | s, .unlock | s, .close => ((), s)
  | s, .hasConnection | s, .ping | s, .init | s, .realConnect => (true, s)
  | s, .query stmt =>
    match s.db.exec stmt with
    | none => (false, s)
    | some (db, rows) => (true, ⟨db, if stmt.isSelect then some rows else none⟩)
  | s, .storeResult => (s.result, s.db.idle)
  | s, .insertId | s, .fileSize _ => ((0 : Nat), s)
  | s, .timestamp => (now, s)

/-! ## Rows -/

@[simp] theorem user_relationRow (u : UserInfo) (r : FriendRelation) :
    (FriendDb.relationRow u r).user = u := by
  simp [FriendDb.relationRow, FriendDb.userRow, Row.user, Row.stoull, Row.stoll, Row.str, Row.cell]

@[simp] theorem user_userRow (u : UserInfo) : (FriendDb.userRow u).user = u := by
  simp [FriendDb.userRow, Row.user, Row.stoull, Row.stoll, Row.str, Row.cell]

@[simp] theorem relationOf_relationRow (userId friendId : Nat) (u : UserInfo)
    (r : FriendRelation) :
    relationOf userId friendId (FriendDb.relationRow u r) = { r with userId, friendId } := by
  simp [FriendDb.relationRow, FriendDb.userRow, relationOf, Row.stoll, Row.str, Row.cell]

namespace FriendDb

variable {db db' : FriendDb} {a b : Nat}

/-- The status column of the row (a, b). -/
def status (db : FriendDb) (a b : Nat) : Option FriendStatus :=
  (db.friends.find? (a, b)).map (·.status)

def userExists (db : FriendDb) (a : Nat) : Prop := (db.users.find? a).isSome

instance (db : FriendDb) (a : Nat) : Decidable (db.userExists a) :=
  inferInstanceAs (Decidable (_ = true))

theorem status_eq_some {s : FriendStatus} :
    db.status a b = some s ↔ ∃ r ∈ db.friends.rows, pair r = (a, b) ∧ r.status = s := by
  simp [status, UniqueTable.find?_eq_some, and_assoc]

theorem exists_of_status (h : db.status a b ≠ none) : db.userExists a ∧ db.userExists b := by
  obtain ⟨s, hs⟩ := Option.ne_none_iff_exists'.1 h
  obtain ⟨r, hr, hpair, -⟩ := status_eq_some.1 hs
  obtain ⟨rfl, rfl⟩ := Prod.mk.inj hpair
  exact db.references r hr

theorem mem_join {id : FriendRelation → Nat} {p : FriendRelation → Bool} {u : UserInfo}
    {r : FriendRelation} :
    (u, r) ∈ db.join id p ↔ r ∈ db.friends.rows ∧ p r ∧ db.users.find? (id r) = some u := by
  simp only [join, List.mem_filterMap, List.mem_filter, Option.map_eq_some_iff, Prod.mk.injEq]
  constructor
  · rintro ⟨r', ⟨hr', hp⟩, u', hu, rfl, rfl⟩
    exact ⟨hr', hp, hu⟩
  · rintro ⟨hr, hp, hu⟩
    exact ⟨r, ⟨hr, hp⟩, u, hu, rfl, rfl⟩

/-- What `get_friend_requests` returns. -/
def requests (db : FriendDb) (userId : Nat) : List (UserInfo × FriendRelation) :=
  db.join (·.userId) fun r => r.friendId = userId ∧ r.status = .pending

/-- Someone is in the list of requests exactly if their request is pending. -/
theorem any_requests :
    (db.requests b).any (fun x => decide (x.1.userId = a)) =
      decide (db.status a b = some .pending) := by
  rw [Bool.eq_iff_iff, List.any_eq_true, decide_eq_true_eq, status_eq_some]
  constructor
  · rintro ⟨⟨u, r⟩, hx, ha⟩
    obtain ⟨hr, hp, hu⟩ := mem_join.1 hx
    have hid := (UniqueTable.mem_of_find? hu).2
    have ha : u.userId = a := of_decide_eq_true ha
    have hp : r.friendId = b ∧ r.status = .pending := of_decide_eq_true hp
    exact ⟨r, hr, Prod.ext (hid.symm.trans ha) hp.1, hp.2⟩
  · rintro ⟨r, hr, hpair, hs⟩
    obtain ⟨rfl, rfl⟩ := Prod.mk.inj hpair
    obtain ⟨u, hu⟩ := Option.isSome_iff_exists.1 (db.references r hr).1
    refine ⟨(u, r), mem_join.2 ⟨hr, decide_eq_true ⟨rfl, hs⟩, hu⟩, ?_⟩
    exact decide_eq_true (UniqueTable.mem_of_find? hu).2

theorem insertFriend_eq_none {r : FriendRelation} :
    db.insertFriend r = none ↔
      ¬ (db.userExists r.userId ∧ db.userExists r.friendId) ∨ db.friends.find? (pair r) ≠ none := by
  unfold insertFriend
  split
  case isFalse h => exact iff_of_true rfl (.inl h)
  case isTrue h =>
    split
    next h' => exact iff_of_true rfl (.inr (UniqueTable.insert?_eq_none.1 h'))
    next t h' =>
      refine iff_of_false (fun h => by cases h) ?_
      rintro (hn | hn)
      · exact hn h
      · rw [UniqueTable.insert?_eq_none.2 hn] at h'
        cases h'

theorem absent_of_insertFriend {r : FriendRelation} (h : db.insertFriend r = some db') :
    db.friends.find? (pair r) = none := by
  by_contra hr
  rw [insertFriend_eq_none.2 (.inr hr)] at h
  cases h

theorem find?_insertFriend {r : FriendRelation} (h : db.insertFriend r = some db')
    (k : Nat × Nat) :
    db'.friends.find? k = if pair r = k then some r else db.friends.find? k := by
  unfold insertFriend at h
  split at h
  case isFalse => cases h
  case isTrue =>
    split at h
    next => cases h
    next t ht =>
      cases h
      exact UniqueTable.find?_insert? ht

theorem find?_updateFriend {k : Nat × Nat} {f : FriendRelation → FriendRelation}
    {hf : ∀ r, pair (f r) = pair r} (k' : Nat × Nat) :
    (db.updateFriend k f hf).friends.find? k' =
      if k' = k then (db.friends.find? k').map f else db.friends.find? k' := by
  simp only [updateFriend, UniqueTable.find?_update]
  cases h : db.friends.find? k' with
  | none => simp
  | some r =>
    have := (UniqueTable.mem_of_find? h).2
    subst this
    split <;> simp_all

theorem find?_deleteFriends {p : FriendRelation → Bool} (k : Nat × Nat) :
    (db.deleteFriends p).friends.find? k = (db.friends.find? k).filter (!p ·) :=
  UniqueTable.find?_filter

end FriendDb

/-! ## The methods of `Database` on these tables -/

section
variable {α : Type} {now : Int} {db : FriendDb}

@[simp] theorem run_locked {p : DbProg α} {s : SqlState} :
    (locked p).run (sql now) s = p.run (sql now) s := by
  simp [locked, sql]

@[simp] theorem run_ensureConnection {s : SqlState} :
    ensureConnection.run (sql now) s = (true, s) := by
  simp [ensureConnection, sql]

theorem run_select (now : Int) (stmt : Stmt) {rows : List Row} (hs : stmt.isSelect = true)
    (h : db.exec stmt = some (db, rows)) :
    (select stmt).run (sql now) db.idle = (some rows, db.idle) := by
  simp [select, sql, FriendDb.idle, h, hs]

theorem run_selectFirst (now : Int) (stmt : Stmt) {rows : List Row} (hs : stmt.isSelect = true)
    (h : db.exec stmt = some (db, rows)) :
    (selectFirst stmt).run (sql now) db.idle = (rows.head?, db.idle) := by
  simp [selectFirst, run_select now stmt hs h]

/-- A statement that returns no rows: whether it succeeded, and the tables after it. -/
theorem run_mysqlQuery_write (now : Int) (db : FriendDb) {stmt : Stmt}
    (hs : stmt.isSelect = false) :
    (mysqlQuery stmt).run (sql now) db.idle =
      match db.exec stmt with
      | none => (false, db.idle)
      | some (db', _) => (true, db'.idle) := by
  simp only [run_mysqlQuery, sql, FriendDb.idle]
  cases db.exec stmt <;> simp [hs]

theorem run_getUserById (userId : Nat) :
    (getUserById userId).run (sql now) db.idle = (db.users.find? userId, db.idle) := by
  have h := run_selectFirst now (.users (.byId userId)) rfl
    (show db.exec _ = some (db, (db.users.find? userId).toList.map FriendDb.userRow) from rfl)
  simp only [getUserById, run_locked, Prog.run_bind, run_ensureConnection, Bool.not_true,
    Bool.false_eq_true, if_false, h]
  cases db.users.find? userId <;> simp

theorem run_isFriend (a b : Nat) :
    (isFriend a b).run (sql now) db.idle =
      (decide (db.status a b = some .accepted), db.idle) := by
  have h := run_selectFirst now (.friends (.countAccepted a b)) rfl
    (show db.exec _ = some (db, [[.num (db.friends.rows.countP fun r =>
      decide (pair r = (a, b) ∧ r.status = .accepted))]]) from rfl)
  have hcount : (0 < db.friends.rows.countP fun r =>
      decide (pair r = (a, b) ∧ r.status = .accepted)) ↔ db.status a b = some .accepted := by
    simp [List.countP_pos_iff, FriendDb.status_eq_some]
  simp [isFriend, h, countPositive, Row.stoll, Row.cell, ← hcount]

/-- The ids that `get_friend_requests` fills in are those of the row. -/
theorem map_requests (db : FriendDb) (userId : Nat) :
    ((db.requests userId).map fun x => FriendDb.relationRow x.1 x.2).map
      (fun row => (row.user, relationOf row.user.userId userId row)) = db.requests userId := by
  have hrows : ∀ x ∈ db.requests userId,
      (x.1, ({ x.2 with userId := x.1.userId, friendId := userId } : FriendRelation)) = x := by
    rintro ⟨u, r⟩ hx
    obtain ⟨-, hp, hu⟩ := FriendDb.mem_join.1 hx
    have hp : r.friendId = userId ∧ r.status = .pending := of_decide_eq_true hp
    have hid : u.userId = r.userId := (UniqueTable.mem_of_find? hu).2
    simp only [hid, ← hp.1]
  rw [List.map_map, List.map_congr_left (g := id), List.map_id]
  intro x hx
  simpa using hrows x hx

theorem run_getFriendRequests (userId : Nat) :
    (getFriendRequests userId).run (sql now) db.idle = ((true, db.requests userId), db.idle) := by
  have h := run_select now (.friends (.listRequests userId)) rfl
    (show db.exec _ = some (db, (db.requests userId).map
      fun x => FriendDb.relationRow x.1 x.2) from rfl)
  simp only [getFriendRequests, run_locked, Prog.run_bind, h, Option.isSome_some,
    Option.getD_some, map_requests, Prog.pure_eq_ret, Prog.run_ret]

theorem run_addFriendRequest (userId friendId : Nat) :
    (addFriendRequest userId friendId).run (sql now) db.idle =
      match db.insertFriend ⟨userId, friendId, "", .pending, now, now⟩ with
      | none => (false, db.idle)
      | some db' => (true, db'.idle) := by
  have hq : (mysqlQuery (.friends (.insert userId friendId .pending now))).run (sql now) _ = _ :=
    run_mysqlQuery_write now db rfl
  simp only [addFriendRequest, run_locked, Prog.run_bind, run_getCurrentTimestamp, execute]
  rw [show sql now db.idle .timestamp = (now, db.idle) from rfl, hq]
  simp only [FriendDb.exec, FriendDb.execFriends]
  cases db.insertFriend _ <;> rfl

/-- The UPDATE of `accept_friend_request` and `reject_friend_request`. -/
def FriendDb.setStatus (db : FriendDb) (k : Nat × Nat) (status : FriendStatus) (now : Int) :
    FriendDb :=
  db.updateFriend k (fun r => { r with status, updatedAt := now }) (pair_withStatus status now)

theorem run_acceptFriendRequest (userId friendId : Nat) :
    (acceptFriendRequest userId friendId).run (sql now) db.idle =
      let db₁ := db.setStatus (friendId, userId) .accepted now
      match db₁.insertFriend ⟨userId, friendId, "", .accepted, now, now⟩ with
      | none => (false, db₁.idle)
      | some db' => (true, db'.idle) := by
  have hq : (mysqlQuery (.friends (.setStatus friendId userId .accepted now))).run (sql now) _ =
      _ := run_mysqlQuery_write now db rfl
  have hq₁ : (mysqlQuery (.friends (.insert userId friendId .accepted now))).run (sql now) _ = _ :=
    run_mysqlQuery_write now (db.setStatus (friendId, userId) .accepted now) rfl
  simp only [acceptFriendRequest, run_locked, Prog.run_bind, run_getCurrentTimestamp, execute]
  rw [show sql now db.idle .timestamp = (now, db.idle) from rfl, hq]
  show (mysqlQuery _).run (sql now) (db.setStatus (friendId, userId) .accepted now).idle = _
  rw [hq₁]
  simp only [FriendDb.exec, FriendDb.execFriends]
  cases (db.setStatus (friendId, userId) .accepted now).insertFriend _ <;> rfl

theorem run_rejectFriendRequest (userId friendId : Nat) :
    (rejectFriendRequest userId friendId).run (sql now) db.idle =
      (true, (db.setStatus (friendId, userId) .rejected now).idle) := by
  simp only [rejectFriendRequest, run_locked, Prog.run_bind, run_getCurrentTimestamp, execute]
  exact run_mysqlQuery_write now db rfl

/-- The DELETE of `remove_friend`. -/
def FriendDb.deleteBoth (db : FriendDb) (userId friendId : Nat) : FriendDb :=
  db.deleteFriends fun r => pair r = (userId, friendId) ∨ pair r = (friendId, userId)

theorem run_removeFriend (userId friendId : Nat) :
    (removeFriend userId friendId).run (sql now) db.idle =
      (true, (db.deleteBoth userId friendId).idle) := by
  simp only [removeFriend, run_locked, execute]
  exact run_mysqlQuery_write now db rfl

/-- The UPDATE of `set_friend_remark`. -/
def FriendDb.setRemark (db : FriendDb) (k : Nat × Nat) (remark : String) (now : Int) :
    FriendDb :=
  db.updateFriend k (fun r => { r with remark, updatedAt := now }) (pair_withRemark remark now)

theorem run_setFriendRemark (userId friendId : Nat) (remark : String) :
    (setFriendRemark userId friendId remark).run (sql now) db.idle =
      (true, (db.setRemark (userId, friendId) remark now).idle) := by
  simp only [setFriendRemark, run_locked, Prog.run_bind, run_getCurrentTimestamp, execute]
  exact run_mysqlQuery_write now db rfl

end

end ChatApp.Friends
