/-
  The handlers of the gateway and `handle_ws_message`, as far as they do not write to the log.
  Handlers that call an operation of a manager and answer with one flag share one definition
  (`flagged`).
-/
import ChatApp.Friends.Manager
import ChatApp.Gateway.Calls
import ChatApp.Gateway.GroupMembers
import ChatApp.Gateway.PrivateMessages
import ChatApp.Gateway.Responses
import ChatApp.Push.Shorten

namespace ChatApp.Gateway.Handlers

open ChatApp.Lib ChatApp.Database ChatApp.Protocol ChatApp.Gateway.Messages
open ChatApp.Session (Session SessionM UserManager.registerUser)
open ChatApp.Session.GroupManager ChatApp.Friends

variable (s : Session) (msg : Json)

/-- The `{"type", ..}` with "success" and further members. -/
def outcome (type : String) (success : Bool) (members : List (String × Json)) : Json :=
  .object (("type", .string type) :: ("success", .bool success) :: members)

def failure (type error : String) : Json := outcome type false [("error", .string error)]

def errorText (message : String) : Json := .object [
  ("type", .string "error"), ("message", .string message)]

/-- To the connection of the user, if there is one. -/
def notify (userId : Nat) (text : GatewayM Json) : GatewayM Unit := do
  match ← request (.getConnection userId) with
  | some peer => request (.sendTextTo peer (← text))
  | none => pure ()

/-- An operation, and one text for each way it ends. -/
def flagged (type : String) (operation : SessionM (Except String Unit)) (after : GatewayM Unit) :
    GatewayM Unit := do
  match ← managed operation with
  | .ok _ =>
    sendText (outcome type true [])
    after
  | .error _ => sendText (outcome type false [])

/-- `flagged` for a method that returns its success. -/
def flaggedDb (type : String) (method : DbProg Bool) : GatewayM Unit := do
  sendText (outcome type (← db method) [])

/-! ## Users -/

def handleRegister : GatewayM Unit := do
  if !msg.contains "username" || !msg.contains "password" then
    sendText (failure "registerResponse" "Missing username or password")
  else
    let username ← read (indexString msg "username")
    let password ← read (indexString msg "password")
    let nickname ← read (valueString msg "nickname" username)
    if username.utf8ByteSize < 3 || 50 < username.utf8ByteSize then
      sendText (failure "registerResponse" "Username must be 3-50 characters")
    else if password.utf8ByteSize < 6 then
      sendText (failure "registerResponse" "Password must be at least 6 characters")
    else
      match ← managed (UserManager.registerUser username password nickname) with
      | .error error => sendText (failure "registerResponse" error)
      | .ok userId => sendText (outcome "registerResponse" true [("user_id", .number userId),
          ("username", .string username), ("nickname", .string nickname)])

def kickedText : Json := .object [
  ("type", .string "kicked"), ("reason", .string "Logged in elsewhere")]

/-- The fields of a user who is not found are empty. -/
def requestNotification (fromUserId : Nat) (fromUser : Option UserInfo)
    (members : List (String × Json)) : Json :=
  .object ([("type", .string "friendRequestNotification"),
    ("from_user_id", .number fromUserId),
    ("from_username", .string (fromUser.elim "" (·.username))),
    ("from_nickname", .string (fromUser.elim "" (·.nickname))),
    ("from_avatar", .string (fromUser.elim "" (·.avatarUrl)))] ++ members)

/-- The requests that wait, after a login. -/
def notifyPending : List (UserInfo × FriendRelation) → GatewayM Unit :=
  forEach fun x =>
    if x.2.status = .pending then
      sendText (requestNotification x.1.userId x.1 [("created_at", .number x.2.createdAt)])
    else pure ()

def handleLogin : GatewayM Unit := do
  if !msg.contains "username" || !msg.contains "password" then
    sendText (failure "loginResponse" "Missing credentials")
  else
    let username ← read (indexString msg "username")
    let password ← read (indexString msg "password")
    match ← managed (Session.UserManager.login username password) with
    | .error _ => sendText (failure "loginResponse" "Invalid credentials")
    | .ok user =>
      match ← request (.getConnection user.userId) with
      | some existing =>
        request (.sendTextTo existing kickedText)
        request (.close existing)
      | none => pure ()
      request (.setUserId user.userId)
      request (.setAuthenticated true)
      request .addConnection
      let _ ← db (updateUserOnlineStatus user.userId .online)
      sendText (outcome "loginResponse" true [
        ("user_id", .number user.userId),
        ("user_info", .object [
          ("user_id", .number user.userId),
          ("username", .string user.username),
          ("nickname", .string user.nickname),
          ("avatar_url", .string user.avatarUrl),
          ("status", .string "ONLINE")])])
      notifyPending (← db (FriendManager.getFriendRequests user.userId))

def handleUserSearch : GatewayM Unit := do
  let keyword ← read (indexString msg "keyword")
  let users ← db (searchUsers keyword 20)
  sendText (.object [
    ("type", .string "userSearchResponse"),
    ("users", .array (users.map fun user => .object [
      ("user_id", .number user.userId),
      ("username", .string user.username),
      ("nickname", .string user.nickname),
      ("avatar_url", .string user.avatarUrl)]))])

def handlePasswordUpdate : GatewayM Unit := do
  let oldPassword ← read (indexString msg "old_password")
  let newPassword ← read (indexString msg "new_password")
  if newPassword.utf8ByteSize < 6 then
    sendText (failure "passwordUpdateResponse" "Password too short")
  else
    match ← managed (Session.UserManager.updatePassword s.userId oldPassword newPassword) with
    | .ok _ => sendText (outcome "passwordUpdateResponse" true [])
    | .error error => sendText (failure "passwordUpdateResponse" error)

/-! ## Messages -/

/-- What names a sender in a title; the fields are empty if he is not found. -/
def titleOf (sender : Option UserInfo) : String :=
  let nickname := sender.elim "" (·.nickname)
  if nickname.isEmpty then sender.elim "" (·.username) else nickname

/-- The notification through JPush; `otherwise` if it is not configured. -/
def pushJpush (receiverId : Nat) (title content : String) (data : List (String × String))
    (otherwise : GatewayM Unit) : GatewayM Unit := do
  if ← request .hasJpush then
    request (.notifyJpush receiverId title (Push.shorten 50 50 content.toUTF8.toList) data)
  else otherwise

def pushFcm (receiverId : Nat) (title content : String) (data : List (String × String)) :
    GatewayM Unit := do
  if ← request .hasFcm then
    if ← request (.notifyFcm receiverId title (Push.shorten 50 50 content.toUTF8.toList) data) then
      pure ()
    else throw (.json .notUtf8)

/-- The message for a receiver who has a connection, and a push notification for one who has
    none. -/
def forwardPrivateMessage (m : PrivateMessage) (message : Message) (sender : Option UserInfo) :
    GatewayM Unit := do
  match ← request (.getConnection m.receiverId) with
  | some peer =>
    let now ← request .time
    request (.sendTextTo peer (privateMessageNotification s.userId m message now sender))
  | none =>
    let data := [("sender_id", toString s.userId), ("type", "private_message")]
    pushJpush m.receiverId (titleOf sender) m.content data
      (pushFcm m.receiverId (titleOf sender) m.content data)

def handlePrivateMessage : GatewayM Unit := do
  let m ← read (readPrivateMessage msg)
  match ← managed (storePrivateMessage s.userId m) with
  | none => sendText (errorText "Failed to send message")
  | some (message, sender) =>
    let now ← request .time
    sendText (privateMessageResponse s.userId m message now)
    forwardPrivateMessage s m message sender

structure GroupMessage where
  groupId : Nat
  content : String
  messageType : Int
  mediaUrl : String
  mediaType : String

def readGroupMessage : Run GroupMessage := do
  let groupId ← indexUInt64 msg "group_id"
  let content ← indexString msg "content"
  let messageType ← valueInt msg "message_type" 0
  let mediaUrl ← valueString msg "media_url" ""
  let mediaType ← valueString msg "media_type" ""
  return ⟨groupId, content, messageType, mediaUrl, mediaType⟩

/-- The members that the response and the notification have in common. -/
def groupMessageMembers (m : GroupMessage) (now : Int) : List (String × Json) := [
  ("content", .string m.content),
  ("message_type", .number m.messageType),
  ("media_url", .string m.mediaUrl),
  ("media_type", .string m.mediaType),
  ("created_at", .number now)]

def groupMessageResponse (m : GroupMessage) (message : Message) (now : Int) : Json :=
  .object ([("type", .string "groupMessageResponse"),
    ("message_id", .number message.messageId),
    ("group_id", .number m.groupId),
    ("sender_id", .number s.userId)] ++ groupMessageMembers m now)

/-- The names of a group or a sender who is not found are empty. -/
def groupMessageNotification (m : GroupMessage) (message : Message) (sender : Option UserInfo)
    (group : Option GroupInfo) (now : Int) : Json :=
  .object ([("type", .string "groupMessage"),
    ("message_id", .number message.messageId),
    ("group_id", .number m.groupId),
    ("group_name", .string (group.elim "" (·.groupName))),
    ("sender_id", .number s.userId),
    ("sender_username", .string (sender.elim "" (·.username))),
    ("sender_nickname", .string (sender.elim "" (·.nickname))),
    ("sender_avatar", .string (sender.elim "" (·.avatarUrl)))] ++ groupMessageMembers m now)

/-- One member in the loop of `handle_group_message`; there is no notification through FCM. -/
def forwardGroupMessage (m : GroupMessage) (message : Message) (sender : Option UserInfo)
    (group : Option GroupInfo) (memberId : Nat) : GatewayM Unit := do
  if memberId = s.userId then return
  match ← request (.getConnection memberId) with
  | some peer =>
    let now ← request .time
    request (.sendTextTo peer (groupMessageNotification s m message sender group now))
  | none =>
    pushJpush memberId ("[" ++ group.elim "" (·.groupName) ++ "] " ++ titleOf sender) m.content
      [("group_id", toString m.groupId), ("sender_id", toString s.userId),
        ("type", "group_message")] (pure ())

def handleGroupMessage : GatewayM Unit := do
  let m ← read (readGroupMessage msg)
  if !(← managed (isMember m.groupId s.userId)) then sendText (errorText "Not a group member")
  else
    match ← db (saveGroupMessage {
        messageId := 0, senderId := s.userId, receiverId := m.groupId, groupId := m.groupId,
        mediaType := ⟨UInt8.ofInt m.messageType⟩, content := m.content, mediaUrl := m.mediaUrl,
        extra := "", status := .sent, createdAt := 0 }) with
    | none => sendText (errorText "Failed to send message")
    | some message =>
      let sender ← db (getUserById s.userId)
      let group ← db (getGroupById m.groupId)
      let memberIds ← managed (getGroupMembers m.groupId)
      let now ← request .time
      sendText (groupMessageResponse s m message now)
      forEach (forwardGroupMessage s m message sender group) memberIds

def handlePrivateHistory : GatewayM Unit := do
  let peerId ← read (indexUInt64 msg "peer_id")
  let beforeTime ← read (valueInt msg "before_time" 0)
  let limit ← read (valueInt msg "limit" 50)
  let messages ← managed (Session.MessageManager.getPrivateHistory s.userId peerId beforeTime limit)
  sendText (Responses.privateHistoryResponse peerId messages)

def handleGroupHistory : GatewayM Unit := do
  let groupId ← read (indexUInt64 msg "group_id")
  let beforeTime ← read (valueInt msg "before_time" 0)
  let limit ← read (valueInt msg "limit" 50)
  if !(← managed (isMember groupId s.userId)) then sendText History.refusal
  else
    let messages ← managed (Session.MessageManager.getGroupHistory groupId beforeTime limit)
    sendText (.object [("type", .string "groupHistoryResponse"), ("group_id", .number groupId),
      ("messages", .array (messages.map History.historyJson))])

/-! ## Friends -/

def handleFriendRequest : GatewayM Unit := do
  let toUserId ← read (indexUInt64 msg "to_user_id")
  let message ← read (valueString msg "message" "")
  match ← db (FriendManager.addFriendRequest s.userId toUserId) with
  | .error error => sendText (failure "friendAddResponse" error)
  | .ok _ =>
    let fromUser ← db (getUserById s.userId)
    sendText (outcome "friendAddResponse" true [])
    notify toUserId do
      let now ← request .time
      return requestNotification s.userId fromUser [
        ("message", .string message), ("created_at", .number now)]

def acceptNotification (accepter : Option UserInfo) : Json := .object [
  ("type", .string "friendAcceptNotification"),
  ("user_id", .number s.userId),
  ("username", .string (accepter.elim "" (·.username))),
  ("nickname", .string (accepter.elim "" (·.nickname)))]

def handleFriendAccept : GatewayM Unit := do
  let fromUserId ← read (indexUInt64 msg "from_user_id")
  match ← db (FriendManager.acceptFriendRequest s.userId fromUserId) with
  | .ok _ =>
    sendText (outcome "friendAcceptResponse" true [])
    notify fromUserId do
      let accepter ← db (getUserById s.userId)
      return acceptNotification s accepter
  | .error error => sendText (failure "friendAcceptResponse" error)

def handleFriendReject : GatewayM Unit := do
  let fromUserId ← read (indexUInt64 msg "from_user_id")
  flagged "friendRejectResponse"
    (Session.db (FriendManager.rejectFriendRequest s.userId fromUserId)) (pure ())

def handleFriendRemove : GatewayM Unit := do
  let friendId ← read (indexUInt64 msg "friend_id")
  flagged "friendRemoveResponse" (Session.db (FriendManager.removeFriend s.userId friendId))
    (pure ())

def handleFriendList : GatewayM Unit := do
  sendText (Responses.friendListResponse (← db (getFriendList s.userId)).2)

def handleFriendRequests : GatewayM Unit := do
  sendText (Responses.friendRequestsResponse (← db (FriendManager.getFriendRequests s.userId)))

/-! ## Groups -/

def handleCreateGroup : GatewayM Unit := do
  let name ← read (indexString msg "name")
  let description ← read (valueString msg "description" "")
  match ← managed (createGroup s.userId name description) with
  | .ok groupId =>
    sendText (outcome "createGroupResponse" true [("group_id", .number groupId)])
  | .error _ => sendText (outcome "createGroupResponse" false [])

/-- The loop over `join_group`; one that fails leaves the others as they are. -/
def joinAll (groupId : Nat) (allSuccess : Bool) : List Nat → GatewayM Bool
  | [] => pure allSuccess
  | userId :: userIds => do
    match ← managed (joinGroup groupId userId) with
    | .ok _ => joinAll groupId allSuccess userIds
    | .error _ => joinAll groupId false userIds

def inviteNotification (groupId : Nat) (group : Option GroupInfo) : Json := .object [
  ("type", .string "groupInviteNotification"),
  ("group_id", .number groupId),
  ("group_name", .string (group.elim "" (·.groupName))),
  ("inviter_id", .number s.userId)]

def handleInviteGroupMembers : GatewayM Unit := do
  let groupId ← read (indexUInt64 msg "group_id")
  let userIds ← read (indexUInt64s msg "user_ids")
  if ← joinAll groupId true userIds then
    sendText (outcome "inviteGroupMembersResponse" true [])
    forEach (fun userId => notify userId do
      return inviteNotification s groupId (← db (getGroupById groupId))) userIds
  else sendText (outcome "inviteGroupMembersResponse" false [])

def kickedNotification (groupId : Nat) (group : Option GroupInfo) : Json := .object [
  ("type", .string "groupKickedNotification"),
  ("group_id", .number groupId),
  ("group_name", .string (group.elim "" (·.groupName)))]

def handleGroupKick : GatewayM Unit := do
  let groupId ← read (indexUInt64 msg "group_id")
  let userId ← read (indexUInt64 msg "user_id")
  flagged "groupKickResponse" (removeMember s.userId groupId userId) <|
    notify userId do
      return kickedNotification groupId (← db (getGroupById groupId))

def handleGroupQuit : GatewayM Unit := do
  let groupId ← read (indexUInt64 msg "group_id")
  flagged "groupQuitResponse" (leaveGroup groupId s.userId) (pure ())

def handleGroupDismiss : GatewayM Unit := do
  let groupId ← read (indexUInt64 msg "group_id")
  flagged "groupDismissResponse" (dismissGroup s.userId groupId) (pure ())

def handleGroupSetAdmin : GatewayM Unit := do
  let groupId ← read (indexUInt64 msg "group_id")
  let userId ← read (indexUInt64 msg "user_id")
  let isAdmin ← read (indexBool msg "is_admin")
  flagged "groupSetAdminResponse" (setAdmin s.userId groupId userId isAdmin) (pure ())

def handleGroupTransferOwner : GatewayM Unit := do
  let groupId ← read (indexUInt64 msg "group_id")
  let newOwnerId ← read (indexUInt64 msg "new_owner_id")
  flagged "groupTransferOwnerResponse" (transferOwner s.userId groupId newOwnerId) (pure ())

def handleGroupList : GatewayM Unit := do
  sendText (Responses.groupListResponse (← managed (getUserGroups s.userId)))

def handleGroupMembers : GatewayM Unit := do
  let groupId ← read (indexUInt64 msg "group_id")
  match ← db (getGroupById groupId) with
  | none => sendText GroupMembers.notFound
  | some group =>
    let members ← managed (GroupMembers.membersJson group group.members)
    sendText (outcome "groupMembersResponse" true [
      ("group_id", .number groupId), ("members", .array members)])

/-! ## Heartbeat, tokens and favorites -/

def handleHeartbeat : GatewayM Unit := do
  let now ← request .time
  sendText (.object [("type", .string "heartbeatResponse"), ("timestamp", .number now)])

def handleFcmTokenRegister : GatewayM Unit := do
  let fcmToken ← read (indexString msg "fcm_token")
  flaggedDb "fcmTokenRegisterResponse" (saveFcmToken s.userId fcmToken)

def handleFavoriteAdd : GatewayM Unit := do
  let messageId ← read (indexUInt64 msg "message_id")
  let messageType ← read (indexString msg "message_type")
  let senderId ← read (indexUInt64 msg "sender_id")
  let content ← read (indexString msg "content")
  let mediaType ← read (valueInt msg "media_type" 0)
  let mediaUrl ← read (valueString msg "media_url" "")
  flaggedDb "favoriteAddResponse" (addFavorite s.userId messageId messageType senderId content
    ⟨UInt8.ofInt mediaType⟩ mediaUrl)

def handleFavoriteRemove : GatewayM Unit := do
  let messageId ← read (indexUInt64 msg "message_id")
  let messageType ← read (indexString msg "message_type")
  flaggedDb "favoriteRemoveResponse" (removeFavorite s.userId messageId messageType)

/-- The text without favorites is the same as that for a failure. -/
def handleFavoriteList : GatewayM Unit := do
  let limit ← read (valueInt msg "limit" 50)
  let offset ← read (valueInt msg "offset" 0)
  let favorites ← db (getFavorites s.userId limit offset)
  sendText (.object [("type", .string "favoriteListResponse"), ("favorites", .array
    (if favorites.1 then favorites.2.map favoriteJson else []))])

/-! ## Dispatch -/

def handle : MessageKind → GatewayM Unit
  | .privateMessage => handlePrivateMessage s msg
  | .groupMessage => handleGroupMessage s msg
  | .friendList => handleFriendList s
  | .friendRequests => handleFriendRequests s
  | .groupList => handleGroupList s
  | .groupMembers => handleGroupMembers msg
  | .userSearch => handleUserSearch msg
  | .privateHistory => handlePrivateHistory s msg
  | .groupHistory => handleGroupHistory s msg
  | .friendRequest => handleFriendRequest s msg
  | .friendAccept => handleFriendAccept s msg
  | .friendReject => handleFriendReject s msg
  | .friendRemove => handleFriendRemove s msg
  | .createGroup => handleCreateGroup s msg
  | .inviteGroupMembers => handleInviteGroupMembers s msg
  | .groupKick => handleGroupKick s msg
  | .groupQuit => handleGroupQuit s msg
  | .groupDismiss => handleGroupDismiss s msg
  | .groupSetAdmin => handleGroupSetAdmin s msg
  | .groupTransferOwner => handleGroupTransferOwner s msg
  | .heartbeat => handleHeartbeat
  | .fcmTokenRegister => handleFcmTokenRegister s msg
  | .favoriteAdd => handleFavoriteAdd s msg
  | .favoriteRemove => handleFavoriteRemove s msg
  | .favoriteList => handleFavoriteList s msg
  | .passwordUpdate => handlePasswordUpdate s msg

/-- `handle_ws_message` after the parsing -/
def dispatch : GatewayM Unit :=
  match msg.find? "type" with
  | none => pure ()
  | some member => do
    let type ← read (Run.ofExcept member.getString)
    if type = "login" then handleLogin msg
    else if type = "register" then handleRegister msg
    else if !s.authenticated then sendText (errorText "Not authenticated")
    else
      match messageKinds.lookup type with
      | some kind => handle s msg kind
      | none => pure ()

/-- The handler of a JSON exception; the others go on. -/
def caught (p : GatewayM Unit) : GatewayM Unit := ExceptT.mk do
  match ← p.run with
  | .error (.json _) => (sendText (errorText "Invalid JSON")).run
  | r => return r

/-- `handle_ws_message`, with what `json::parse` makes of the text. -/
def handleWsMessage (s : Session) (parsed : Except JsonException Json) : GatewayM Unit :=
  caught <|
    match parsed with
    | .ok msg => dispatch s msg
    | .error e => throw (.json e)

def onDisconnect : GatewayM Unit := do
  if 0 < s.userId && s.authenticated then
    let _ ← db (updateUserOnlineStatus s.userId .offline)

end ChatApp.Gateway.Handlers
