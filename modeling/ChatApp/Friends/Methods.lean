/-
  `FriendManager` and `handle_friend_add` over single `Database` calls. `expand` gives the
  operations of `FriendManager` and the handler back, with the bot that accepts by itself.
-/
import ChatApp.Session.Handlers
import ChatApp.Session.Methods

namespace ChatApp.Friends

open ChatApp.Lib ChatApp.Database ChatApp.Session

/-- The methods of `Database` that `FriendManager` and the bot call. -/
inductive FriendMethod
  | getUserById (userId : Nat)
  | isFriend (userId friendId : Nat)
  | getFriendList (userId : Nat)
  | getFriendRequests (userId : Nat)
  | addFriendRequest (userId friendId : Nat)
  | acceptFriendRequest (userId friendId : Nat)
  | rejectFriendRequest (userId friendId : Nat)
  | removeFriend (userId friendId : Nat)
  | setFriendRemark (userId friendId : Nat) (remark : String)

abbrev FriendMethod.Answer : FriendMethod → Type
  | getUserById _ => Option UserInfo
  | getFriendList _ | getFriendRequests _ => Bool × List (UserInfo × FriendRelation)
  | isFriend .. | addFriendRequest .. | acceptFriendRequest .. | rejectFriendRequest ..
  | removeFriend .. | setFriendRemark .. => Bool

def FriendMethod.prog : (c : FriendMethod) → DbProg c.Answer
  | getUserById userId => Database.getUserById userId
  | isFriend userId friendId => Database.isFriend userId friendId
  | getFriendList userId => Database.getFriendList userId
  | getFriendRequests userId => Database.getFriendRequests userId
  | addFriendRequest userId friendId => Database.addFriendRequest userId friendId
  | acceptFriendRequest userId friendId => Database.acceptFriendRequest userId friendId
  | rejectFriendRequest userId friendId => Database.rejectFriendRequest userId friendId
  | removeFriend userId friendId => Database.removeFriend userId friendId
  | setFriendRemark userId friendId remark => Database.setFriendRemark userId friendId remark

abbrev friendMethods : Methods := ⟨FriendMethod, FriendMethod.Answer, FriendMethod.prog⟩

abbrev FriendM := MethodM friendMethods

namespace FriendM

open Methods (call outside expand)

/-! ## `FriendManager` -/

def request (c : FriendMethod) : FriendM c.Answer := friendMethods.call c

def getFriendList (userId : Nat) : FriendM (List (UserInfo × FriendRelation)) := do
  let friends ← request (.getFriendList userId)
  return friends.2

def getFriendRequests (userId : Nat) : FriendM (List (UserInfo × FriendRelation)) := do
  let requests ← request (.getFriendRequests userId)
  return requests.2

def addFriendRequest (userId friendId : Nat) : FriendM (Except String Unit) := do
  if userId = friendId then return .error "Cannot add yourself as friend"
  let targetUser ← request (.getUserById friendId)
  if targetUser.isNone then return .error "User not found"
  if ← request (.isFriend userId friendId) then return .error "Already friends"
  let requests ← getFriendRequests friendId
  if FriendManager.requestedBy requests userId then return .error "Friend request already sent"
  if !(← request (.addFriendRequest userId friendId)) then
    return .error "Failed to send friend request"
  return .ok ()

def acceptFriendRequest (userId friendId : Nat) : FriendM (Except String Unit) := do
  let requests ← getFriendRequests userId
  if !FriendManager.requestedBy requests friendId then return .error "No such friend request"
  if !(← request (.acceptFriendRequest userId friendId)) then
    return .error "Failed to accept friend request"
  return .ok ()

def rejectFriendRequest (userId friendId : Nat) : FriendM (Except String Unit) := do
  if !(← request (.rejectFriendRequest userId friendId)) then
    return .error "Failed to reject friend request"
  return .ok ()

def removeFriend (userId friendId : Nat) : FriendM (Except String Unit) := do
  if !(← request (.isFriend userId friendId)) then return .error "Not friends"
  if !(← request (.removeFriend userId friendId)) then return .error "Failed to remove friend"
  return .ok ()

def isFriend (userId friendId : Nat) : FriendM Bool := request (.isFriend userId friendId)

def setFriendRemark (userId friendId : Nat) (remark : String) : FriendM (Except String Unit) := do
  if !(← request (.isFriend userId friendId)) then return .error "Not friends"
  if !(← request (.setFriendRemark userId friendId remark)) then
    return .error "Failed to set remark"
  return .ok ()

/-! ## The bot -/

/-- `BotManager::handle_friend_request` -/
def handleFriendRequest (config : BotConfig) (fromUserId : Nat) : FriendM Unit := do
  if !config.autoAcceptFriend then return
  if ← request (.acceptFriendRequest config.botUserId fromUserId) then
    outside do
      let timestamp ← Session.request .systemClock
      sendToUser fromUserId ⟨.friendAccept, 0, .object [
        ("friend_id", .number config.botUserId),
        ("friend_username", .string config.botUsername),
        ("friend_nickname", .string config.botNickname),
        ("timestamp", .number timestamp)]⟩

section
variable (s : Session) (sequence : UInt32) (body : Protocol.Json)

/-- The notification at the end of `handle_friend_add`. -/
def tellFriend (friendId : Nat) : FriendM Unit := do
  let senderInfo ← match ← request (.getUserById s.userId) with
    | some user => pure user
    | none => outside (Session.request .uninitialisedUser)
  outside do
    let timestamp ← Session.request .systemClock
    sendToUser friendId ⟨.friendAdd, 0, .object [
      ("from_user_id", .number s.userId),
      ("from_username", .string senderInfo.username),
      ("from_nickname", .string senderInfo.nickname),
      ("timestamp", .number timestamp)]⟩

/-- What `handle_friend_add` does after the response. -/
def afterFriendAdd (friendId : Nat) : FriendM Unit := do
  match ← outside (Session.request .bot) with
  | some config => if friendId = config.botUserId then handleFriendRequest config s.userId
  | none => pure ()
  tellFriend s friendId

def handleFriendAdd : FriendM Unit :=
  if s.authenticated then do
    let friendId ← outside (read (body.valueId "friend_id"))
    if friendId = 0 then outside (s.sendError sequence 400 "Friend ID is required")
    else
      match ← addFriendRequest s.userId friendId with
      | .ok _ =>
        outside (s.respond sequence .friendAddResponse (Session.success []))
        afterFriendAdd s friendId
      | .error message => outside (s.sendError sequence 500 message)
  else outside (s.sendError sequence 401 "Not authenticated")

end

/-! ## The operations as they are -/

theorem expand_request (c : FriendMethod) : expand (request c) = db c.prog :=
  Methods.expand_call (M := friendMethods) c

theorem frees_getUserById (u : Nat) : Frees false (Database.getUserById u) := frees_locked _

theorem frees_isFriend (u f : Nat) : Frees false (Database.isFriend u f) := frees_locked _

theorem frees_addFriendRequest (u f : Nat) : Frees false (Database.addFriendRequest u f) :=
  frees_locked _

theorem frees_acceptFriendRequest (u f : Nat) : Frees false (Database.acceptFriendRequest u f) :=
  frees_locked _

theorem frees_rejectFriendRequest (u f : Nat) : Frees false (Database.rejectFriendRequest u f) :=
  frees_locked _

theorem frees_removeFriend (u f : Nat) : Frees false (Database.removeFriend u f) := frees_locked _

theorem frees_setFriendRemark (u f : Nat) (remark : String) :
    Frees false (Database.setFriendRemark u f remark) := frees_locked _

theorem frees_getFriendRequests (u : Nat) : Frees false (FriendManager.getFriendRequests u) :=
  frees_bind (frees_locked _) fun _ => rfl

theorem expand_getFriendRequests (u : Nat) :
    expand (getFriendRequests u) = db (FriendManager.getFriendRequests u) := by
  have hfree : Frees false (Database.getFriendRequests u) := frees_locked _
  simp only [getFriendRequests, FriendManager.getFriendRequests, Methods.expand_bind,
    Methods.expand_pure, expand_request (.getFriendRequests u), FriendMethod.prog, db_bind hfree,
    db_pure]

theorem expand_addFriendRequest (u f : Nat) :
    expand (addFriendRequest u f) = db (FriendManager.addFriendRequest u f) := by
  simp only [addFriendRequest, FriendManager.addFriendRequest, Methods.expand_bind,
    Methods.expand_ite, Methods.expand_pure, expand_getFriendRequests,
    expand_request (.getUserById f), expand_request (.isFriend u f),
    expand_request (.addFriendRequest u f), FriendMethod.prog, db_bind (frees_getUserById f),
    db_bind (frees_isFriend u f), db_bind (frees_getFriendRequests f),
    db_bind (frees_addFriendRequest u f), db_ite, db_pure]

theorem expand_acceptFriendRequest (u f : Nat) :
    expand (acceptFriendRequest u f) = db (FriendManager.acceptFriendRequest u f) := by
  simp only [acceptFriendRequest, FriendManager.acceptFriendRequest, Methods.expand_bind,
    Methods.expand_ite, Methods.expand_pure, expand_getFriendRequests,
    expand_request (.acceptFriendRequest u f), FriendMethod.prog,
    db_bind (frees_getFriendRequests u), db_bind (frees_acceptFriendRequest u f), db_ite, db_pure]

theorem expand_rejectFriendRequest (u f : Nat) :
    expand (rejectFriendRequest u f) = db (FriendManager.rejectFriendRequest u f) := by
  simp only [rejectFriendRequest, FriendManager.rejectFriendRequest, Methods.expand_bind,
    Methods.expand_ite, Methods.expand_pure, expand_request (.rejectFriendRequest u f),
    FriendMethod.prog, db_bind (frees_rejectFriendRequest u f), db_ite, db_pure]

theorem expand_removeFriend (u f : Nat) :
    expand (removeFriend u f) = db (FriendManager.removeFriend u f) := by
  simp only [removeFriend, FriendManager.removeFriend, Methods.expand_bind, Methods.expand_ite,
    Methods.expand_pure, expand_request (.isFriend u f), expand_request (.removeFriend u f),
    FriendMethod.prog, db_bind (frees_isFriend u f), db_bind (frees_removeFriend u f), db_ite,
    db_pure]

theorem expand_isFriend (u f : Nat) : expand (isFriend u f) = db (FriendManager.isFriend u f) :=
  expand_request (.isFriend u f)

theorem expand_setFriendRemark (u f : Nat) (remark : String) :
    expand (setFriendRemark u f remark) = db (FriendManager.setFriendRemark u f remark) := by
  simp only [setFriendRemark, FriendManager.setFriendRemark, Methods.expand_bind,
    Methods.expand_ite, Methods.expand_pure, expand_request (.isFriend u f),
    expand_request (.setFriendRemark u f remark), FriendMethod.prog, db_bind (frees_isFriend u f),
    db_bind (frees_setFriendRemark u f remark), db_ite, db_pure]

theorem expand_getFriendList (u : Nat) :
    expand (getFriendList u) = do
      let friends ← db (Database.getFriendList u)
      return friends.2 := by
  simp only [getFriendList, Methods.expand_bind, Methods.expand_pure,
    expand_request (.getFriendList u), FriendMethod.prog]

theorem expand_handleFriendRequest (config : BotConfig) (u : Nat) :
    expand (handleFriendRequest config u) = BotManager.handleFriendRequest config u := by
  simp only [handleFriendRequest, BotManager.handleFriendRequest, Methods.expand_bind,
    Methods.expand_ite, Methods.expand_pure,
    expand_request (.acceptFriendRequest config.botUserId u),
    FriendMethod.prog, Methods.expand_outside]

section
variable (s : Session) (sequence : UInt32) (body : Protocol.Json)

theorem expand_tellFriend (f : Nat) : expand (tellFriend s f) = (do
    let senderInfo ← match ← db (getUserById s.userId) with
      | some user => pure user
      | none => Session.request .uninitialisedUser
    let timestamp ← Session.request .systemClock
    sendToUser f ⟨.friendAdd, 0, .object [
      ("from_user_id", .number s.userId),
      ("from_username", .string senderInfo.username),
      ("from_nickname", .string senderInfo.nickname),
      ("timestamp", .number timestamp)]⟩) := by
  simp only [tellFriend, Methods.expand_bind, expand_request (.getUserById s.userId),
    FriendMethod.prog]
  congr 1
  funext user
  cases user <;> simp only [Methods.expand_bind, Methods.expand_pure, Methods.expand_outside]

theorem expand_afterFriendAdd (f : Nat) :
    expand (afterFriendAdd s f) = Session.afterFriendAdd s f := by
  simp only [afterFriendAdd, Session.afterFriendAdd, Methods.expand_bind, Methods.expand_outside]
  congr 1
  funext config
  cases config with
  | none => exact expand_tellFriend s f
  | some config =>
    simp only [Methods.expand_ite, Methods.expand_bind, expand_handleFriendRequest,
      expand_tellFriend] <;> rfl

theorem expand_handleFriendAdd :
    expand (handleFriendAdd s sequence body) = s.handleFriendAdd sequence body := by
  simp only [handleFriendAdd, Session.handleFriendAdd, Session.friendAction,
    Session.authenticatedOnly, Methods.expand_ite, Methods.expand_bind, Methods.expand_outside,
    expand_addFriendRequest]
  congr 2
  funext f
  congr 2
  funext r
  cases r <;> simp only [Methods.expand_bind, Methods.expand_outside, expand_afterFriendAdd]

end

end FriendM

/-! ## What runs at the same time -/

/-- An operation of `FriendManager`, or the request that may make the bot accept. -/
inductive FriendTask
  | add (userId friendId : Nat)
  | accept (userId friendId : Nat)
  | reject (userId friendId : Nat)
  | remove (userId friendId : Nat)
  | list (userId : Nat)
  | requests (userId : Nat)
  | isFriend (userId friendId : Nat)
  | setRemark (userId friendId : Nat) (remark : String)
  | handleFriendAdd (s : Session) (sequence : UInt32) (body : Protocol.Json)

namespace FriendTask

abbrev Result : FriendTask → Type
  | add .. | accept .. | reject .. | remove .. | setRemark .. => Except String Unit
  | list _ | requests _ => List (UserInfo × FriendRelation)
  | isFriend .. => Bool
  | handleFriendAdd .. => Unit

def prog : (op : FriendTask) → FriendM op.Result
  | add userId friendId => FriendM.addFriendRequest userId friendId
  | accept userId friendId => FriendM.acceptFriendRequest userId friendId
  | reject userId friendId => FriendM.rejectFriendRequest userId friendId
  | remove userId friendId => FriendM.removeFriend userId friendId
  | list userId => FriendM.getFriendList userId
  | requests userId => FriendM.getFriendRequests userId
  | isFriend userId friendId => FriendM.isFriend userId friendId
  | setRemark userId friendId remark => FriendM.setFriendRemark userId friendId remark
  | handleFriendAdd s sequence body => FriendM.handleFriendAdd s sequence body

/-- The task of a worker. -/
def body (op : FriendTask) : Prog friendMethods.interface (Except Stop op.Result) := op.prog.run

end FriendTask

/-- A statement, which makes no id. -/
def FriendDb.execute : Exec FriendDb := fun db stmt => (db.exec stmt).map fun r => (r.1, r.2, 0)

/-- What a call answers on an occasion, and the tables after it. -/
def reply (x : Occasion) (db : FriendDb) (c : MethodCall friendMethods) : c.Answer × FriendDb :=
  friendMethods.answer FriendDb.execute x db c

end ChatApp.Friends
