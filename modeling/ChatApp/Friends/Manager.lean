/-
  `FriendManager`: the checks of each operation and the `Database` calls it makes, and what an
  operation does to the tables when it runs alone. An operation returns the text it puts into
  `error` when it returns false.
-/
import ChatApp.Friends.Store

namespace ChatApp.Friends

open ChatApp.Lib ChatApp.Database

namespace FriendManager

def getFriendRequests (userId : Nat) : DbProg (List (UserInfo × FriendRelation)) := do
  let requests ← Database.getFriendRequests userId
  return requests.2

/-- The loop over the requests: is one of them by `userId`? -/
def requestedBy (requests : List (UserInfo × FriendRelation)) (userId : Nat) : Bool :=
  requests.any fun x => decide (x.1.userId = userId)

def addFriendRequest (userId friendId : Nat) : DbProg (Except String Unit) := do
  if userId = friendId then return .error "Cannot add yourself as friend"
  let targetUser ← getUserById friendId
  if targetUser.isNone then return .error "User not found"
  if ← Database.isFriend userId friendId then return .error "Already friends"
  let requests ← getFriendRequests friendId
  if requestedBy requests userId then return .error "Friend request already sent"
  if !(← Database.addFriendRequest userId friendId) then
    return .error "Failed to send friend request"
  return .ok ()

def acceptFriendRequest (userId friendId : Nat) : DbProg (Except String Unit) := do
  let requests ← getFriendRequests userId
  if !requestedBy requests friendId then return .error "No such friend request"
  if !(← Database.acceptFriendRequest userId friendId) then
    return .error "Failed to accept friend request"
  return .ok ()

def rejectFriendRequest (userId friendId : Nat) : DbProg (Except String Unit) := do
  if !(← Database.rejectFriendRequest userId friendId) then
    return .error "Failed to reject friend request"
  return .ok ()

def removeFriend (userId friendId : Nat) : DbProg (Except String Unit) := do
  if !(← Database.isFriend userId friendId) then return .error "Not friends"
  if !(← Database.removeFriend userId friendId) then return .error "Failed to remove friend"
  return .ok ()

def isFriend (userId friendId : Nat) : DbProg Bool := Database.isFriend userId friendId

def setFriendRemark (userId friendId : Nat) (remark : String) : DbProg (Except String Unit) := do
  if !(← Database.isFriend userId friendId) then return .error "Not friends"
  if !(← Database.setFriendRemark userId friendId remark) then
    return .error "Failed to set remark"
  return .ok ()

end FriendManager

/-- An operation of a user on another. -/
inductive FriendOp
  | add (userId friendId : Nat)
  | accept (userId friendId : Nat)
  | reject (userId friendId : Nat)
  | remove (userId friendId : Nat)
  | setRemark (userId friendId : Nat) (remark : String)
  deriving DecidableEq

def FriendOp.prog : FriendOp → DbProg (Except String Unit)
  | .add userId friendId => FriendManager.addFriendRequest userId friendId
  | .accept userId friendId => FriendManager.acceptFriendRequest userId friendId
  | .reject userId friendId => FriendManager.rejectFriendRequest userId friendId
  | .remove userId friendId => FriendManager.removeFriend userId friendId
  | .setRemark userId friendId remark => FriendManager.setFriendRemark userId friendId remark

namespace FriendDb

/-- The operation run alone at the time `now`: what it returns, and the tables after it. -/
def perform (db : FriendDb) (op : FriendOp) (now : Int) : Except String Unit × FriendDb :=
  let r := op.prog.run (sql now) db.idle
  (r.1, r.2.db)

/-- What `FriendManager::is_friend` returns. -/
def isFriend (db : FriendDb) (a b : Nat) : Bool :=
  ((FriendManager.isFriend a b).run (sql 0) db.idle).1

/-! ## What each operation does -/

variable {db : FriendDb} {now : Int} {a b : Nat}

theorem isFriend_eq : db.isFriend a b = decide (db.status a b = some .accepted) :=
  congrArg Prod.fst (run_isFriend a b)

@[simp] theorem run_getFriendRequests' :
    (FriendManager.getFriendRequests a).run (sql now) db.idle = (db.requests a, db.idle) := by
  simp [FriendManager.getFriendRequests, run_getFriendRequests]

@[simp] theorem requestedBy_requests :
    FriendManager.requestedBy (db.requests b) a = decide (db.status a b = some .pending) :=
  any_requests

theorem perform_add :
    db.perform (.add a b) now =
      if a = b then (.error "Cannot add yourself as friend", db)
      else if ¬ db.userExists b then (.error "User not found", db)
      else if db.status a b = some .accepted then (.error "Already friends", db)
      else if db.status a b = some .pending then (.error "Friend request already sent", db)
      else match db.insertFriend ⟨a, b, "", .pending, now, now⟩ with
        | none => (.error "Failed to send friend request", db)
        | some db' => (.ok (), db') := by
  simp only [perform, FriendOp.prog, FriendManager.addFriendRequest]
  by_cases hab : a = b
  case pos => simp [hab]
  by_cases huser : db.userExists b
  case neg =>
    have : db.users.find? b = none := by simpa [userExists] using huser
    simp [hab, huser, run_getUserById, this]
  obtain ⟨u, hu⟩ := Option.isSome_iff_exists.1 huser
  by_cases hacc : db.status a b = some .accepted
  case pos => simp [hab, huser, hu, run_getUserById, run_isFriend, hacc]
  by_cases hpen : db.status a b = some .pending
  case pos => simp [hab, huser, hu, run_getUserById, run_isFriend, hpen]
  simp only [hab, huser, hu, hacc, hpen, run_getUserById, run_isFriend, run_addFriendRequest,
    Prog.run_bind, run_getFriendRequests', requestedBy_requests, if_false, decide_false,
    Option.isNone_some, Bool.false_eq_true, not_true]
  cases db.insertFriend ⟨a, b, "", .pending, now, now⟩ <;> simp

theorem perform_accept :
    db.perform (.accept a b) now =
      if db.status b a = some .pending then
        let db₁ := db.setStatus (b, a) .accepted now
        match db₁.insertFriend ⟨a, b, "", .accepted, now, now⟩ with
        | none => (.error "Failed to accept friend request", db₁)
        | some db' => (.ok (), db')
      else (.error "No such friend request", db) := by
  simp only [perform, FriendOp.prog, FriendManager.acceptFriendRequest, Prog.run_bind,
    run_getFriendRequests', requestedBy_requests]
  by_cases hpen : db.status b a = some .pending
  · simp only [hpen, run_acceptFriendRequest, Prog.run_bind, decide_true, Bool.not_true,
      Bool.false_eq_true, if_false, if_true]
    cases (db.setStatus (b, a) .accepted now).insertFriend ⟨a, b, "", .accepted, now, now⟩ <;>
      simp
  · simp [hpen]

theorem perform_reject :
    db.perform (.reject a b) now = (.ok (), db.setStatus (b, a) .rejected now) := by
  simp [perform, FriendOp.prog, FriendManager.rejectFriendRequest, run_rejectFriendRequest]

theorem perform_remove :
    db.perform (.remove a b) now =
      if db.status a b = some .accepted then (.ok (), db.deleteBoth a b)
      else (.error "Not friends", db) := by
  by_cases hacc : db.status a b = some .accepted <;>
    simp [perform, FriendOp.prog, FriendManager.removeFriend, run_isFriend, run_removeFriend,
      hacc]

theorem perform_setRemark {remark : String} :
    db.perform (.setRemark a b remark) now =
      if db.status a b = some .accepted then (.ok (), db.setRemark (a, b) remark now)
      else (.error "Not friends", db) := by
  by_cases hacc : db.status a b = some .accepted <;>
    simp [perform, FriendOp.prog, FriendManager.setFriendRemark, run_isFriend,
      run_setFriendRemark, hacc]

/-! ## The status column after an update -/

variable {x y : Nat}

theorem status_setStatus {s : FriendStatus} :
    (db.setStatus (a, b) s now).status x y =
      if (x, y) = (a, b) then (db.status a b).map fun _ => s else db.status x y := by
  simp only [status, setStatus, find?_updateFriend]
  split
  · next h => rw [h]; simp [Function.comp_def]
  · rfl

theorem status_setRemark {remark : String} :
    (db.setRemark (a, b) remark now).status x y = db.status x y := by
  simp only [status, setRemark, find?_updateFriend]
  split <;> simp_all [Function.comp_def]

theorem status_deleteBoth :
    (db.deleteBoth a b).status x y =
      if (x, y) = (a, b) ∨ (x, y) = (b, a) then none else db.status x y := by
  simp only [status, deleteBoth, find?_deleteFriends]
  cases h : db.friends.find? (x, y) with
  | none => simp
  | some r =>
    have hpair : pair r = (x, y) := (UniqueTable.mem_of_find? h).2
    rw [← hpair]
    by_cases hp : pair r = (a, b) ∨ pair r = (b, a) <;> simp [Option.filter, hp]

theorem status_insertFriend {db' : FriendDb} {r : FriendRelation}
    (h : db.insertFriend r = some db') :
    db'.status x y = if (x, y) = pair r then some r.status else db.status x y := by
  simp only [status, find?_insertFriend h, eq_comm (a := pair r)]
  split <;> rfl

end FriendDb

end ChatApp.Friends
