/-
  The table `users` with its passwords, and the statements that `UserManager`, the profile update
  and the bot make `Database` issue. `fold` is the collation of the column `username`: two names
  are equal in SQL if `fold` makes them the same. The column is unique under it.

  A row is never deleted, and no statement changes the id or the name of one. Column widths are
  left out, and the numbers that a failed INSERT uses up.
-/
import ChatApp.Database.Atomic
import ChatApp.Database.Tables

namespace ChatApp.Users

open ChatApp.Lib ChatApp.Database

/-- The eight columns that are read, and the password. -/
structure UserRow where
  info : UserInfo
  password : String
  deriving DecidableEq

def UserRow.userId (r : UserRow) : Nat := r.info.userId

def UserRow.username (r : UserRow) : String := r.info.username

structure UserDb (fold : String → String) where
  users : SerialTable UserRow.userId
  names : (users.rows.map fun r => fold r.username).Nodup

namespace UserDb

variable {fold : String → String}

/-- The row with a name. -/
def named (db : UserDb fold) (username : String) : Option UserRow :=
  db.users.rows.find? fun r => decide (fold r.username = fold username)

/-! ## Statements -/

/-- The row of an INSERT, with the defaults of the other columns. -/
def newRow (username password nickname : String) (now : Int) (userId : Nat) : UserRow :=
  ⟨⟨userId, username, nickname, "", "", .offline, now, now⟩, password⟩

theorem userId_newRow (username password nickname : String) (now : Int) (n : Nat) :
    (newRow username password nickname now n).userId = n := rfl

/-- INSERT INTO users -/
def insertUser (db : UserDb fold) (username password nickname : String) (now : Int) :
    Option (UserDb fold) :=
  if h : fold username ∈ db.users.rows.map fun r => fold r.username then none
  else some {
    users := db.users.insert (newRow username password nickname now) (userId_newRow _ _ _ _)
    names := by
      rw [SerialTable.rows_insert, List.map_append]
      refine List.Nodup.append db.names (List.nodup_singleton _) fun k hk hnew => h ?_
      rw [List.mem_singleton.1 hnew] at hk
      exact hk }

/-- UPDATE users WHERE user_id, with values that keep the id and the name -/
def updateWhere (db : UserDb fold) (userId : Nat) (f : UserRow → UserRow)
    (hid : ∀ r, (f r).userId = r.userId) (hname : ∀ r, (f r).username = r.username) :
    UserDb fold where
  users := db.users.update (fun r => if r.userId = userId then f r else r) fun r => by
    split
    · exact hid r
    · rfl
  names := by
    have hkeep : (fun r => fold r.username) ∘ (fun r => if r.userId = userId then f r else r) =
        fun r => fold r.username := by
      funext r
      show fold (if r.userId = userId then f r else r).username = fold r.username
      split
      · rw [hname]
      · rfl
    rw [SerialTable.rows_update, List.map_map, hkeep]
    exact db.names

/-- SET nickname, avatar_url, signature, updated_at -/
def setProfile (nickname avatarUrl signature : String) (now : Int) (r : UserRow) : UserRow :=
  { r with info := { r.info with nickname, avatarUrl, signature, updatedAt := now } }

/-- SET password, updated_at -/
def setPassword (password : String) (now : Int) (r : UserRow) : UserRow :=
  ⟨{ r.info with updatedAt := now }, password⟩

/-- SET online_status -/
def setOnlineStatus (status : OnlineStatus) (r : UserRow) : UserRow :=
  { r with info := { r.info with onlineStatus := status } }

def execUsers (db : UserDb fold) : UserStmt → Option (UserDb fold × List Row × Nat)
  | .insert username password nickname now =>
    (db.insertUser username password nickname now).map (·, [], db.users.next)
  | .byId userId => some (db, (db.users.find? userId).toList.map fun r => Tables.userRow r.info, 0)
  | .byUsername username =>
    some (db, (db.named username).toList.map fun r => Tables.userRow r.info, 0)
  | .password username => some (db, (db.named username).toList.map fun r => [.text r.password], 0)
  | .update userId nickname avatarUrl signature now =>
    some (db.updateWhere userId (setProfile nickname avatarUrl signature now) (fun _ => rfl)
      fun _ => rfl, [], 0)
  | .updatePassword userId password now =>
    some (db.updateWhere userId (setPassword password now) (fun _ => rfl) fun _ => rfl, [], 0)
  | .updateOnlineStatus userId status =>
    some (db.updateWhere userId (setOnlineStatus status) (fun _ => rfl) fun _ => rfl, [], 0)
  | .verify .. | .search .. => none

/-- Statements on other tables are not answered. -/
def exec (fold : String → String) : Exec (UserDb fold) := fun db stmt =>
  match stmt with
  | .users s => db.execUsers s
  | _ => none

/-! ## Rows -/

variable {db db' : UserDb fold} {n : String} {r : UserRow} {u : Nat}

theorem mem_of_named (h : db.named n = some r) : r ∈ db.users.rows ∧ fold r.username = fold n := by
  have hr := List.find?_some h
  exact ⟨List.mem_of_find?_eq_some h, by simpa using hr⟩

theorem named_eq_none : db.named n = none ↔ ∀ r ∈ db.users.rows, fold r.username ≠ fold n := by
  simp [named, List.find?_eq_none]

theorem named_eq_some : db.named n = some r ↔ r ∈ db.users.rows ∧ fold r.username = fold n := by
  refine ⟨mem_of_named, fun ⟨hr, hn⟩ => ?_⟩
  cases hf : db.named n with
  | none => exact absurd hn (named_eq_none.1 hf r hr)
  | some r' =>
    obtain ⟨hr', hn'⟩ := mem_of_named hf
    rw [List.inj_on_of_nodup_map db.names hr' hr (hn'.trans hn.symm)]

section
variable {password nickname : String} {now : Int}

theorem insertUser_eq_none : db.insertUser n password nickname now = none ↔ db.named n ≠ none := by
  unfold insertUser
  split
  case isTrue h =>
    obtain ⟨r, hr, hn⟩ := List.mem_map.1 h
    refine iff_of_true rfl ?_
    rw [named_eq_some.2 ⟨hr, hn⟩]
    exact Option.some_ne_none r
  case isFalse h =>
    refine iff_of_false (Option.some_ne_none _) fun hsome => hsome (named_eq_none.2
      fun r hr hn => ?_)
    exact h (List.mem_map.2 ⟨r, hr, hn⟩)

theorem users_insertUser (h : db.insertUser n password nickname now = some db') :
    db'.users = db.users.insert (newRow n password nickname now) (userId_newRow _ _ _ _) := by
  unfold insertUser at h
  split at h
  case isTrue => cases h
  case isFalse =>
    cases h
    rfl

theorem find?_insertUser (h : db.insertUser n password nickname now = some db') :
    db'.users.find? u = if u = db.users.next then some (newRow n password nickname now u)
      else db.users.find? u := by
  rw [users_insertUser h, SerialTable.find?_insert]
  split
  case isTrue hu => rw [hu]
  case isFalse => rfl

end

section
variable {f : UserRow → UserRow} {hid : ∀ r, (f r).userId = r.userId}
  {hname : ∀ r, (f r).username = r.username} {v : Nat}

theorem find?_updateWhere : (db.updateWhere u f hid hname).users.find? v =
    if v = u then (db.users.find? v).map f else db.users.find? v := by
  show (db.users.update _ _).find? v = _
  rw [SerialTable.find?_update]
  cases hv : db.users.find? v with
  | none => simp
  | some r =>
    have hr : r.userId = v := (UniqueTable.mem_of_find? hv).2
    rw [Option.map_some, hr]
    split <;> rfl

end

end UserDb

end ChatApp.Users
