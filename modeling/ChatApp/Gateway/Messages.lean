/-
  `handle_ws_message` of the gateway and the reads of its handlers. A `Run` records what
  `operator[]` of the constant message was applied to, and the texts sent on the connection; without
  the member the application is undefined behaviour, and on a value that is no object it throws
  type_error 305. What a handler does with what it has read is its body: it reads nothing more from
  the message, and may throw, such as `dump` on a string that is no UTF-8.
-/
import ChatApp.Protocol.Json

namespace ChatApp.Gateway.Messages

open ChatApp.Protocol

/-- `nlohmann::json::exception` -/
inductive JsonException
  | parseError
  | typeError (e : JsonError)
  /-- type_error 305 -/
  | notIndexable
  /-- type_error 316 -/
  | notUtf8
  deriving DecidableEq, Repr

inductive Result (α : Type)
  | value (a : α)
  | threw (e : JsonException)
  | undefined

structure Run (α : Type) where
  /-- what `operator[]` was applied to, with the keys -/
  applied : List (Json × String)
  sent : List String
  result : Result α

namespace Run

variable {α β : Type}

def ret (a : α) : Run α := ⟨[], [], .value a⟩

def andThen (r : Run α) (f : α → Run β) : Run β :=
  match r.result with
  | .value a => ⟨r.applied ++ (f a).applied, r.sent ++ (f a).sent, (f a).result⟩
  | .threw e => ⟨r.applied, r.sent, .threw e⟩
  | .undefined => ⟨r.applied, r.sent, .undefined⟩

instance monad : Monad Run where
  pure := ret
  bind := andThen

def ofExcept : Except JsonError α → Run α
  | .ok a => ret a
  | .error e => ⟨[], [], .threw (.typeError e)⟩

end Run

/-- `conn->send_text` -/
def sendText (text : String) : Run Unit := ⟨[], [text], .value ()⟩

/-- `operator[]` of a constant value -/
def index (msg : Json) (key : String) : Run Json where
  applied := [(msg, key)]
  sent := []
  result :=
    if msg.isObject then
      match msg.find? key with
      | some member => .value member
      | none => .undefined
    else .threw .notIndexable

/-- `get<uint64_t>`, the type of number_unsigned -/
def getUInt64 : Json → Except JsonError Nat
  | .number n => .ok (toUInt64 n)
  | .float mantissa exponent => .ok (toUInt64 (Json.truncate mantissa exponent))
  | _ => .error .typeMismatch

/-- `get<std::vector<uint64_t>>` -/
def getUInt64s : Json → Except JsonError (List Nat)
  | .array xs => xs.mapM getUInt64
  | _ => .error .typeMismatch

section
variable (msg : Json) (key : String)

def indexUInt64 : Run Nat := do Run.ofExcept (getUInt64 (← index msg key))

def indexUInt64s : Run (List Nat) := do Run.ofExcept (getUInt64s (← index msg key))

def indexBool : Run Bool := do Run.ofExcept (← index msg key).getBool

def indexString : Run String := do Run.ofExcept (← index msg key).getString

def valueInt (default : Int) : Run Int := Run.ofExcept (msg.valueInt key default)

def valueString (default : String) : Run String := Run.ofExcept (msg.valueString key default)

end

/-! ## Handlers -/

/-- The texts that it sends on the connection, and the exception that it ends with, if any. -/
structure Body where
  sent : List String
  threw : Option JsonException
  deriving Inhabited

def Body.run (b : Body) : Run Unit :=
  ⟨[], b.sent, match b.threw with
    | none => .value ()
    | some e => .threw e⟩

/-- What the handlers do with the values that they have read. -/
structure Bodies where
  login (username password : String) : Body
  register (username password nickname : String) : Body
  privateMessage (receiverId : Nat) (content : String) (messageType : Int)
    (mediaUrl mediaType : String) : Body
  groupMessage (groupId : Nat) (content : String) (messageType : Int)
    (mediaUrl mediaType : String) : Body
  friendList : Body
  friendRequests : Body
  groupList : Body
  groupMembers (groupId : Nat) : Body
  userSearch (keyword : String) : Body
  privateHistory (peerId : Nat) (beforeTime limit : Int) : Body
  groupHistory (groupId : Nat) (beforeTime limit : Int) : Body
  friendRequest (toUserId : Nat) (message : String) : Body
  friendAccept (fromUserId : Nat) : Body
  friendReject (fromUserId : Nat) : Body
  friendRemove (friendId : Nat) : Body
  createGroup (name description : String) : Body
  inviteGroupMembers (groupId : Nat) (userIds : List Nat) : Body
  groupKick (groupId userId : Nat) : Body
  groupQuit (groupId : Nat) : Body
  groupDismiss (groupId : Nat) : Body
  groupSetAdmin (groupId userId : Nat) (isAdmin : Bool) : Body
  groupTransferOwner (groupId newOwnerId : Nat) : Body
  heartbeat : Body
  fcmTokenRegister (fcmToken : String) : Body
  favoriteAdd (messageId : Nat) (messageType : String) (senderId : Nat) (content : String)
    (mediaType : Int) (mediaUrl : String) : Body
  favoriteRemove (messageId : Nat) (messageType : String) : Body
  favoriteList (limit offset : Int) : Body
  passwordUpdate (oldPassword newPassword : String) : Body
  deriving Inhabited

section
variable (bodies : Bodies) (msg : Json)

def handleRegister : Run Unit :=
  if !msg.contains "username" || !msg.contains "password" then
    sendText ("\x7b\"type\":\"registerResponse\",\"success\":false," ++
      "\"error\":\"Missing username or password\"\x7d")
  else do
    let username ← indexString msg "username"
    let password ← indexString msg "password"
    let nickname ← valueString msg "nickname" username
    if username.utf8ByteSize < 3 || 50 < username.utf8ByteSize then
      sendText ("\x7b\"type\":\"registerResponse\",\"success\":false," ++
        "\"error\":\"Username must be 3-50 characters\"\x7d")
    else if password.utf8ByteSize < 6 then
      sendText ("\x7b\"type\":\"registerResponse\",\"success\":false," ++
        "\"error\":\"Password must be at least 6 characters\"\x7d")
    else (bodies.register username password nickname).run

def handleLogin : Run Unit :=
  if !msg.contains "username" || !msg.contains "password" then
    sendText
      "\x7b\"type\":\"loginResponse\",\"success\":false,\"error\":\"Missing credentials\"\x7d"
  else do
    let username ← indexString msg "username"
    let password ← indexString msg "password"
    (bodies.login username password).run

def handlePrivateMessage : Run Unit := do
  let receiverId ← indexUInt64 msg "receiver_id"
  let content ← indexString msg "content"
  let messageType ← valueInt msg "message_type" 0
  let mediaUrl ← valueString msg "media_url" ""
  let mediaType ← valueString msg "media_type" ""
  (bodies.privateMessage receiverId content messageType mediaUrl mediaType).run

def handleGroupMessage : Run Unit := do
  let groupId ← indexUInt64 msg "group_id"
  let content ← indexString msg "content"
  let messageType ← valueInt msg "message_type" 0
  let mediaUrl ← valueString msg "media_url" ""
  let mediaType ← valueString msg "media_type" ""
  (bodies.groupMessage groupId content messageType mediaUrl mediaType).run

def handleFriendRequest : Run Unit := do
  let toUserId ← indexUInt64 msg "to_user_id"
  let message ← valueString msg "message" ""
  (bodies.friendRequest toUserId message).run

def handleFriendAccept : Run Unit := do
  (bodies.friendAccept (← indexUInt64 msg "from_user_id")).run

def handleFriendReject : Run Unit := do
  (bodies.friendReject (← indexUInt64 msg "from_user_id")).run

def handleFriendRemove : Run Unit := do
  (bodies.friendRemove (← indexUInt64 msg "friend_id")).run

def handleCreateGroup : Run Unit := do
  let name ← indexString msg "name"
  let description ← valueString msg "description" ""
  (bodies.createGroup name description).run

def handleInviteGroupMembers : Run Unit := do
  let groupId ← indexUInt64 msg "group_id"
  let userIds ← indexUInt64s msg "user_ids"
  (bodies.inviteGroupMembers groupId userIds).run

def handleGroupKick : Run Unit := do
  let groupId ← indexUInt64 msg "group_id"
  let userId ← indexUInt64 msg "user_id"
  (bodies.groupKick groupId userId).run

def handleGroupQuit : Run Unit := do
  (bodies.groupQuit (← indexUInt64 msg "group_id")).run

def handleGroupDismiss : Run Unit := do
  (bodies.groupDismiss (← indexUInt64 msg "group_id")).run

def handleGroupSetAdmin : Run Unit := do
  let groupId ← indexUInt64 msg "group_id"
  let userId ← indexUInt64 msg "user_id"
  let isAdmin ← indexBool msg "is_admin"
  (bodies.groupSetAdmin groupId userId isAdmin).run

def handleGroupTransferOwner : Run Unit := do
  let groupId ← indexUInt64 msg "group_id"
  let newOwnerId ← indexUInt64 msg "new_owner_id"
  (bodies.groupTransferOwner groupId newOwnerId).run

def handleHeartbeat : Run Unit := bodies.heartbeat.run

def handleFcmTokenRegister : Run Unit := do
  (bodies.fcmTokenRegister (← indexString msg "fcm_token")).run

def handleFavoriteAdd : Run Unit := do
  let messageId ← indexUInt64 msg "message_id"
  let messageType ← indexString msg "message_type"
  let senderId ← indexUInt64 msg "sender_id"
  let content ← indexString msg "content"
  let mediaType ← valueInt msg "media_type" 0
  let mediaUrl ← valueString msg "media_url" ""
  (bodies.favoriteAdd messageId messageType senderId content mediaType mediaUrl).run

def handleFavoriteRemove : Run Unit := do
  let messageId ← indexUInt64 msg "message_id"
  let messageType ← indexString msg "message_type"
  (bodies.favoriteRemove messageId messageType).run

def handleFavoriteList : Run Unit := do
  let limit ← valueInt msg "limit" 50
  let offset ← valueInt msg "offset" 0
  (bodies.favoriteList limit offset).run

def handlePasswordUpdate : Run Unit := do
  let oldPassword ← indexString msg "old_password"
  let newPassword ← indexString msg "new_password"
  if newPassword.utf8ByteSize < 6 then
    sendText ("\x7b\"type\":\"passwordUpdateResponse\",\"success\":false," ++
      "\"error\":\"Password too short\"\x7d")
  else (bodies.passwordUpdate oldPassword newPassword).run

def handleFriendList : Run Unit := bodies.friendList.run

def handleFriendRequests : Run Unit := bodies.friendRequests.run

def handleGroupList : Run Unit := bodies.groupList.run

def handleGroupMembers : Run Unit := do
  (bodies.groupMembers (← indexUInt64 msg "group_id")).run

def handleUserSearch : Run Unit := do
  (bodies.userSearch (← indexString msg "keyword")).run

def handlePrivateHistory : Run Unit := do
  let peerId ← indexUInt64 msg "peer_id"
  let beforeTime ← valueInt msg "before_time" 0
  let limit ← valueInt msg "limit" 50
  (bodies.privateHistory peerId beforeTime limit).run

def handleGroupHistory : Run Unit := do
  let groupId ← indexUInt64 msg "group_id"
  let beforeTime ← valueInt msg "before_time" 0
  let limit ← valueInt msg "limit" 50
  (bodies.groupHistory groupId beforeTime limit).run

end

/-! ## Dispatch -/

/-- The messages of a user who is logged in. -/
inductive MessageKind
  | privateMessage
  | groupMessage
  | friendList
  | friendRequests
  | groupList
  | groupMembers
  | userSearch
  | privateHistory
  | groupHistory
  | friendRequest
  | friendAccept
  | friendReject
  | friendRemove
  | createGroup
  | inviteGroupMembers
  | groupKick
  | groupQuit
  | groupDismiss
  | groupSetAdmin
  | groupTransferOwner
  | heartbeat
  | fcmTokenRegister
  | favoriteAdd
  | favoriteRemove
  | favoriteList
  | passwordUpdate
  deriving DecidableEq, Repr

def messageKinds : List (String × MessageKind) := [
  ("privateMessage", .privateMessage),
  ("groupMessage", .groupMessage),
  ("friendList", .friendList),
  ("friendRequests", .friendRequests),
  ("groupList", .groupList),
  ("groupMembers", .groupMembers),
  ("userSearch", .userSearch),
  ("privateHistory", .privateHistory),
  ("groupHistory", .groupHistory),
  ("friendRequest", .friendRequest),
  ("friendAccept", .friendAccept),
  ("friendReject", .friendReject),
  ("friendRemove", .friendRemove),
  ("createGroup", .createGroup),
  ("inviteGroupMembers", .inviteGroupMembers),
  ("groupKick", .groupKick),
  ("groupQuit", .groupQuit),
  ("groupDismiss", .groupDismiss),
  ("groupSetAdmin", .groupSetAdmin),
  ("groupTransferOwner", .groupTransferOwner),
  ("heartbeat", .heartbeat),
  ("fcmTokenRegister", .fcmTokenRegister),
  ("favoriteAdd", .favoriteAdd),
  ("favoriteRemove", .favoriteRemove),
  ("favoriteList", .favoriteList),
  ("passwordUpdate", .passwordUpdate)]

def MessageKind.handle (bodies : Bodies) (msg : Json) : MessageKind → Run Unit
  | .privateMessage => handlePrivateMessage bodies msg
  | .groupMessage => handleGroupMessage bodies msg
  | .friendList => handleFriendList bodies
  | .friendRequests => handleFriendRequests bodies
  | .groupList => handleGroupList bodies
  | .groupMembers => handleGroupMembers bodies msg
  | .userSearch => handleUserSearch bodies msg
  | .privateHistory => handlePrivateHistory bodies msg
  | .groupHistory => handleGroupHistory bodies msg
  | .friendRequest => handleFriendRequest bodies msg
  | .friendAccept => handleFriendAccept bodies msg
  | .friendReject => handleFriendReject bodies msg
  | .friendRemove => handleFriendRemove bodies msg
  | .createGroup => handleCreateGroup bodies msg
  | .inviteGroupMembers => handleInviteGroupMembers bodies msg
  | .groupKick => handleGroupKick bodies msg
  | .groupQuit => handleGroupQuit bodies msg
  | .groupDismiss => handleGroupDismiss bodies msg
  | .groupSetAdmin => handleGroupSetAdmin bodies msg
  | .groupTransferOwner => handleGroupTransferOwner bodies msg
  | .heartbeat => handleHeartbeat bodies
  | .fcmTokenRegister => handleFcmTokenRegister bodies msg
  | .favoriteAdd => handleFavoriteAdd bodies msg
  | .favoriteRemove => handleFavoriteRemove bodies msg
  | .favoriteList => handleFavoriteList bodies msg
  | .passwordUpdate => handlePasswordUpdate bodies msg

/-- `handle_ws_message` after the parsing. The message is not constant there: `msg["type"]` is the
    member that `contains` has found. -/
def dispatch (bodies : Bodies) (authenticated : Bool) (msg : Json) : Run Unit :=
  match msg.find? "type" with
  | none => Run.ret ()
  | some member => do
    let type ← Run.ofExcept member.getString
    if type = "login" then handleLogin bodies msg
    else if type = "register" then handleRegister bodies msg
    else if !authenticated then
      sendText "\x7b\"type\":\"error\",\"message\":\"Not authenticated\"\x7d"
    else
      match messageKinds.lookup type with
      | some kind => kind.handle bodies msg
      | none => Run.ret ()

/-- The handler of a JSON exception. -/
def Run.caught (r : Run Unit) : Run Unit :=
  match r.result with
  | .threw _ =>
    { r with
      sent := r.sent ++ ["\x7b\"type\":\"error\",\"message\":\"Invalid JSON\"\x7d"]
      result := .value () }
  | _ => r

/-- `parse` is `json::parse`. -/
def handleWsMessage (parse : List UInt8 → Except JsonException Json) (bodies : Bodies)
    (authenticated : Bool) (message : List UInt8) : Run Unit :=
  Run.caught <|
    match parse message with
    | .ok msg => dispatch bodies authenticated msg
    | .error e => ⟨[], [], .threw e⟩

end ChatApp.Gateway.Messages
