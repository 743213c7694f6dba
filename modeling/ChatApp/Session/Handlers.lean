/-
  The request handlers of `Session` and `handle_message`. Families of handlers that differ in a
  manager operation and a response type only share one definition (`friendAction`,
  `groupAction`). `taskBody` is the task that `do_read_body` hands to the thread pool.
-/
import ChatApp.Friends.Manager
import ChatApp.Session.Managers

namespace ChatApp.Session

open ChatApp.Lib ChatApp.Database ChatApp.Protocol

namespace Session

variable (s : Session) (sequence : UInt32) (body : Json)

def sendError (code : Int) (message : String) : SessionM Unit :=
  s.send (createError sequence code message)

def respond (type : MessageType) (data : Json) : SessionM Unit :=
  s.send (createResponse type sequence data)

/-- `if (!is_authenticated())` in front of a handler -/
def authenticatedOnly (handler : SessionM Unit) : SessionM Unit :=
  if s.authenticated then handler else s.sendError sequence 401 "Not authenticated"

/-- The response of an operation, or its error. -/
def answer {α : Type} (r : Except String α) (code : Int) (type : MessageType) (data : α → Json) :
    SessionM Unit :=
  match r with
  | .ok a => s.respond sequence type (data a)
  | .error message => s.sendError sequence code message

/-- The `{{"success", true}}` of many responses, with further members. -/
def success (members : List (String × Json)) : Json := .object (("success", .bool true) :: members)

/-! ## Users -/

def handleRegister : SessionM Unit := do
  let username ← read (body.valueString "username" "")
  let password ← read (body.valueString "password" "")
  let nickname ← read (body.valueString "nickname" "")
  if username.isEmpty || password.isEmpty then
    s.sendError sequence 400 "Username and password are required"
  else
    let nickname := if nickname.isEmpty then username else nickname
    let r ← UserManager.registerUser username password nickname
    s.answer sequence r 500 .registerResponse fun userId => .object [
      ("user_id", .number userId), ("username", .string username), ("nickname", .string nickname)]

def handleLogin : SessionM Unit := do
  let username ← read (body.valueString "username" "")
  let password ← read (body.valueString "password" "")
  if username.isEmpty || password.isEmpty then
    s.sendError sequence 400 "Username and password are required"
  else
    match ← UserManager.login username password with
    | .ok userInfo =>
      request (.setUserId userInfo.userId)
      request (.setAuthenticated true)
      let _ ← db (updateUserOnlineStatus userInfo.userId .online)
      request (.setUserOnline userInfo.userId)
      s.respond sequence .loginResponse (.object [
        ("user_id", .number userInfo.userId), ("user_info", userJson userInfo)])
    | .error message => s.sendError sequence 401 message

def handleLogout : SessionM Unit := s.authenticatedOnly sequence do
  let _ ← db (updateUserOnlineStatus s.userId .offline)
  request (.setAuthenticated false)
  s.respond sequence .logoutResponse (success [])
  request .close

/-- `handle_user_info` tests `is_authenticated()` only for the own profile. -/
def handleUserInfo : SessionM Unit := do
  let targetUserId ← read (body.valueId "user_id")
  if targetUserId = 0 && !s.authenticated then s.sendError sequence 401 "Not authenticated"
  else
    match ← db (getUserById (if targetUserId = 0 then s.userId else targetUserId)) with
    | some user => s.respond sequence .userInfoResponse (userJson user)
    | none => s.sendError sequence 404 "User not found"

def handleUserSearch : SessionM Unit := s.authenticatedOnly sequence do
  let keyword ← read (body.valueString "keyword" "")
  let limit ← read (body.valueInt "limit" 20)
  let users ← db (searchUsers keyword limit)
  s.respond sequence .userSearchResponse (listJson "users" userJson users)

/-- `if (body.contains(key)) field = body[key].get<std::string>()` -/
def updateField (key field : String) : Except JsonError String :=
  match body.find? key with
  | some member => member.getString
  | none => .ok field

def handleUserUpdate : SessionM Unit := s.authenticatedOnly sequence do
  let user ← match ← db (getUserById s.userId) with
    | some user => pure user
    | none => request .uninitialisedUser
  let nickname ← read (updateField body "nickname" user.nickname)
  let avatarUrl ← read (updateField body "avatar_url" user.avatarUrl)
  let signature ← read (updateField body "signature" user.signature)
  let user := { user with nickname, avatarUrl, signature }
  if ← db (updateUser user) then s.respond sequence .userUpdateResponse (userJson user)
  else s.sendError sequence 500 "Failed to update user info"

def handlePasswordUpdate : SessionM Unit := s.authenticatedOnly sequence do
  let oldPassword ← read (body.valueString "old_password" "")
  let newPassword ← read (body.valueString "new_password" "")
  if oldPassword.isEmpty || newPassword.isEmpty then
    s.sendError sequence 400 "Old password and new password are required"
  -- `length()` counts bytes
  else if newPassword.utf8ByteSize < 6 then
    s.sendError sequence 400 "New password must be at least 6 characters"
  else
    let r ← UserManager.updatePassword s.userId oldPassword newPassword
    s.answer sequence r 400 .passwordUpdateResponse fun _ => success []

/-! ## Friends -/

/-- A friend operation: `operation` of the user and the `friend_id` of the request. -/
def friendAction (operation : Nat → SessionM (Except String Unit)) (type : MessageType)
    (after : Nat → SessionM Unit) : SessionM Unit := s.authenticatedOnly sequence do
  let friendId ← read (body.valueId "friend_id")
  if friendId = 0 then s.sendError sequence 400 "Friend ID is required"
  else
    match ← operation friendId with
    | .ok _ =>
      s.respond sequence type (success [])
      after friendId
    | .error message => s.sendError sequence 500 message

/-- What `handle_friend_add` does after the response: the bot accepts at once, and the other user
    is told. -/
def afterFriendAdd (friendId : Nat) : SessionM Unit := do
  match ← request .bot with
  | some config =>
    if friendId = config.botUserId then BotManager.handleFriendRequest config s.userId
  | none => pure ()
  let senderInfo ← match ← db (getUserById s.userId) with
    | some user => pure user
    | none => request .uninitialisedUser
  let timestamp ← request .systemClock
  sendToUser friendId ⟨.friendAdd, 0, .object [
    ("from_user_id", .number s.userId),
    ("from_username", .string senderInfo.username),
    ("from_nickname", .string senderInfo.nickname),
    ("timestamp", .number timestamp)]⟩

def handleFriendAdd : SessionM Unit :=
  s.friendAction sequence body (fun friendId =>
    db (Friends.FriendManager.addFriendRequest s.userId friendId)) .friendAddResponse
    (afterFriendAdd s)

def handleFriendAccept : SessionM Unit :=
  s.friendAction sequence body (fun friendId =>
    db (Friends.FriendManager.acceptFriendRequest s.userId friendId)) .friendAcceptResponse
    fun _ => pure ()

def handleFriendReject : SessionM Unit :=
  s.friendAction sequence body (fun friendId =>
    db (Friends.FriendManager.rejectFriendRequest s.userId friendId)) .friendRejectResponse
    fun _ => pure ()

def handleFriendRemove : SessionM Unit :=
  s.friendAction sequence body (fun friendId =>
    db (Friends.FriendManager.removeFriend s.userId friendId)) .friendRemoveResponse
    fun _ => pure ()

/-- A list of users with their relation. -/
def friendsJson (name : String) (friends : List (UserInfo × FriendRelation)) : Json :=
  listJson name (fun x => .object [("user", userJson x.1), ("relation", relationJson x.2)]) friends

def handleFriendList : SessionM Unit := s.authenticatedOnly sequence do
  let friends ← db (getFriendList s.userId)
  s.respond sequence .friendListResponse (friendsJson "friends" friends.2)

def handleFriendRequests : SessionM Unit := s.authenticatedOnly sequence do
  let requests ← db (getFriendRequests s.userId)
  s.respond sequence .friendRequestsResponse (friendsJson "requests" requests.2)

def handleFriendRemark : SessionM Unit := s.authenticatedOnly sequence do
  let friendId ← read (body.valueId "friend_id")
  let remark ← read (body.valueString "remark" "")
  if friendId = 0 then s.sendError sequence 400 "Friend ID is required"
  else
    let r ← db (Friends.FriendManager.setFriendRemark s.userId friendId remark)
    s.answer sequence r 500 .friendRemarkResponse fun _ =>
      success [("friend_id", .number friendId), ("remark", .string remark)]

/-! ## Private messages -/

/-- An exception of a push service ends the handler. -/
def checkPush (returned : Bool) : SessionM Unit := if returned then pure () else throw .pushFailed

def senderName : SessionM String := do
  match ← db (getUserById s.userId) with
  | some sender => return if sender.nickname.isEmpty then sender.username else sender.nickname
  | none => return "用户"

def notificationBody (mediaType : Int) (content : String) : String :=
  if mediaType = 1 then "[图片]" else if mediaType = 2 then "[文件]" else content

/-- The notifications through the push services that are configured. -/
def pushNotification (receiverId : Nat) (title body : String) : SessionM Unit := do
  if ← request .hasJpush then checkPush (← request (.notifyJpush receiverId title body))
  if ← request .hasFcm then checkPush (← request (.notifyFcm receiverId title body))

/-- What `handle_private_message` does after the response. -/
def afterPrivateMessage (message : Message) (mediaType : Int) : SessionM Unit := do
  if ← request (.isUserActive message.receiverId) then
    sendToUser message.receiverId ⟨.privateMessage, 0, messageJson message⟩
  let title ← senderName s
  pushNotification message.receiverId title (notificationBody mediaType message.content)
  match ← request .bot with
  | some config =>
    if message.receiverId = config.botUserId then
      BotManager.handleBotMessage config s.userId message.content message.messageId
  | none => pure ()

/-- `static_cast<MediaType>` of an `int` -/
def toMediaType (mediaType : Int) : MediaType := ⟨UInt8.ofInt mediaType⟩

def handlePrivateMessage : SessionM Unit := s.authenticatedOnly sequence do
  let receiverId ← read (body.valueId "receiver_id")
  let content ← read (body.valueString "content" "")
  let mediaType ← read (body.valueInt "media_type" 0)
  let mediaUrl ← read (body.valueString "media_url" "")
  let extra ← read (body.valueString "extra" "")
  if receiverId = 0 then s.sendError sequence 400 "Receiver ID is required"
  else
    match ← MessageManager.sendPrivateMessage s.userId receiverId content (toMediaType mediaType)
        mediaUrl extra with
    | .ok message =>
      s.respond sequence .privateMessageResponse (messageJson message)
      afterPrivateMessage s message mediaType
    | .error message => s.sendError sequence 500 message

def handlePrivateHistory : SessionM Unit := s.authenticatedOnly sequence do
  let peerId ← read (body.valueId "peer_id")
  let beforeTime ← read (body.valueInt "before_time" 0)
  let limit ← read (body.valueInt "limit" 50)
  if peerId = 0 then s.sendError sequence 400 "Peer ID is required"
  else
    let messages ← MessageManager.getPrivateHistory s.userId peerId beforeTime limit
    s.respond sequence .privateHistoryResponse (listJson "messages" messageJson messages)

/-! ## Groups -/

def handleGroupCreate : SessionM Unit := s.authenticatedOnly sequence do
  let groupName ← read (body.valueString "group_name" "")
  let description ← read (body.valueString "description" "")
  if groupName.isEmpty then s.sendError sequence 400 "Group name is required"
  else
    let r ← GroupManager.createGroup s.userId groupName description
    s.answer sequence r 500 .groupCreateResponse fun groupId =>
      .object [("group_id", .number groupId), ("group_name", .string groupName)]

/-- An operation of the user on the `group_id` of the request. -/
def groupAction (operation : Nat → SessionM (Except String Unit)) (type : MessageType) :
    SessionM Unit := s.authenticatedOnly sequence do
  let groupId ← read (body.valueId "group_id")
  if groupId = 0 then s.sendError sequence 400 "Group ID is required"
  else
    let r ← operation groupId
    s.answer sequence r 500 type fun _ => success []

def handleGroupJoin : SessionM Unit :=
  s.groupAction sequence body (fun groupId => GroupManager.joinGroup groupId s.userId)
    .groupJoinResponse

def handleGroupLeave : SessionM Unit :=
  s.groupAction sequence body (fun groupId => GroupManager.leaveGroup groupId s.userId)
    .groupLeaveResponse

def handleGroupDismiss : SessionM Unit :=
  s.groupAction sequence body (fun groupId => GroupManager.dismissGroup s.userId groupId)
    .groupDismissResponse

/-- `handle_group_info` does not test `is_authenticated()`. -/
def handleGroupInfo : SessionM Unit := do
  let groupId ← read (body.valueId "group_id")
  if groupId = 0 then s.sendError sequence 400 "Group ID is required"
  else
    match ← db (getGroupById groupId) with
    | some group => s.respond sequence .groupInfoResponse (groupJson group)
    | none => s.sendError sequence 404 "Group not found"

def handleGroupList : SessionM Unit := s.authenticatedOnly sequence do
  let groups ← GroupManager.getUserGroups s.userId
  s.respond sequence .groupListResponse (listJson "groups" groupJson groups)

/-- The loop over the members in `handle_group_members`. -/
def membersInfo (groupId : Nat) : List Nat → SessionM (List Json)
  | [] => pure []
  | memberId :: memberIds => do
    match ← db (getUserById memberId) with
    | some user =>
      let isOwner ← GroupManager.isOwner groupId memberId
      let isAdmin ← GroupManager.isAdmin groupId memberId
      let rest ← membersInfo groupId memberIds
      return .object [
        ("user_id", .number user.userId),
        ("nickname", .string user.nickname),
        ("avatar_url", .string user.avatarUrl),
        ("online_status", .number user.onlineStatus.code),
        ("is_owner", .bool isOwner),
        ("is_admin", .bool isAdmin)] :: rest
    | none => membersInfo groupId memberIds

/-- `handle_group_members` does not test `is_authenticated()`. -/
def handleGroupMembers : SessionM Unit := do
  let groupId ← read (body.valueId "group_id")
  if groupId = 0 then s.sendError sequence 400 "Group ID is required"
  else
    let memberIds ← GroupManager.getGroupMembers groupId
    let members ← membersInfo groupId memberIds
    s.respond sequence .groupMembersResponse (.object [("members", .array members)])

def handleGroupAddMember : SessionM Unit := s.authenticatedOnly sequence do
  let groupId ← read (body.valueId "group_id")
  let userId ← read (body.valueId "user_id")
  if groupId = 0 || userId = 0 then
    s.sendError sequence 400 "Group ID and User ID are required"
  else
    let r ← GroupManager.joinGroup groupId userId
    s.answer sequence r 500 .groupAddMemberResponse fun _ => success []

def handleGroupRemoveMember : SessionM Unit := s.authenticatedOnly sequence do
  let groupId ← read (body.valueId "group_id")
  let userId ← read (body.valueId "user_id")
  if groupId = 0 || userId = 0 then
    s.sendError sequence 400 "Group ID and User ID are required"
  else
    let r ← GroupManager.removeMember s.userId groupId userId
    s.answer sequence r 500 .groupRemoveMemberResponse fun _ => success []

def handleGroupSetAdmin : SessionM Unit := s.authenticatedOnly sequence do
  let groupId ← read (body.valueId "group_id")
  let userId ← read (body.valueId "user_id")
  let isAdmin ← read (body.valueBool "is_admin" true)
  if groupId = 0 || userId = 0 then
    s.sendError sequence 400 "Group ID and User ID are required"
  else
    let r ← GroupManager.setAdmin s.userId groupId userId isAdmin
    s.answer sequence r 500 .groupSetAdminResponse fun _ =>
      success [("user_id", .number userId), ("is_admin", .bool isAdmin)]

def handleGroupTransferOwner : SessionM Unit := s.authenticatedOnly sequence do
  let groupId ← read (body.valueId "group_id")
  let newOwnerId ← read (body.valueId "new_owner_id")
  if groupId = 0 || newOwnerId = 0 then
    s.sendError sequence 400 "Group ID and new owner ID are required"
  else
    let r ← GroupManager.transferOwner s.userId groupId newOwnerId
    s.answer sequence r 500 .groupTransferOwnerResponse fun _ =>
      success [("new_owner_id", .number newOwnerId)]

/-! ## Group messages -/

/-- One member in the loop of `handle_group_message`. -/
def forwardToMember (message : Message) (groupName body : String) (memberId : Nat) :
    SessionM Unit := do
  if memberId = s.userId then return
  if ← request (.isUserActive memberId) then
    sendToUser memberId ⟨.groupMessage, 0, messageJson message⟩
  else pushNotification memberId groupName body

/-- What `handle_group_message` does after the response. -/
def afterGroupMessage (groupId : Nat) (message : Message) (mediaType : Int) : SessionM Unit := do
  let memberIds ← GroupManager.getGroupMembers groupId
  let groupName := match ← db (getGroupById groupId) with
    | some group => group.groupName
    | none => "群聊"
  let sender ← senderName s
  forEach (forwardToMember s message groupName
    (sender ++ ": " ++ notificationBody mediaType message.content)) memberIds

def handleGroupMessage : SessionM Unit := s.authenticatedOnly sequence do
  let groupId ← read (body.valueId "group_id")
  let content ← read (body.valueString "content" "")
  let mediaType ← read (body.valueInt "media_type" 0)
  let mediaUrl ← read (body.valueString "media_url" "")
  let extra ← read (body.valueString "extra" "")
  if groupId = 0 then s.sendError sequence 400 "Group ID is required"
  else
    match ← MessageManager.sendGroupMessage s.userId groupId content (toMediaType mediaType)
        mediaUrl extra with
    | .ok message =>
      s.respond sequence .groupMessageResponse (messageJson message)
      afterGroupMessage s groupId message mediaType
    | .error message => s.sendError sequence 500 message

/-- `handle_group_history` does not ask whether the user is a member. -/
def handleGroupHistory : SessionM Unit := s.authenticatedOnly sequence do
  let groupId ← read (body.valueId "group_id")
  let beforeTime ← read (body.valueInt "before_time" 0)
  let limit ← read (body.valueInt "limit" 50)
  if groupId = 0 then s.sendError sequence 400 "Group ID is required"
  else
    let messages ← MessageManager.getGroupHistory groupId beforeTime limit
    s.respond sequence .groupHistoryResponse (listJson "messages" messageJson messages)

/-! ## Media -/

/-- `decode_table` of `base64_decode`; `none` is -1. -/
def base64Value (c : UInt8) : Option Nat :=
  let n := c.toNat
  if 65 ≤ n ∧ n ≤ 90 then some (n - 65)
  else if 97 ≤ n ∧ n ≤ 122 then some (n - 71)
  else if 48 ≤ n ∧ n ≤ 57 then some (n + 4)
  else if n = 43 then some 62
  else if n = 47 then some 63
  else none

/-- The loop of `base64_decode`; `val` is an `int`, of which only the low bits are read. -/
def base64Loop : List UInt8 → Nat → Int → List UInt8
  | [], _, _ => []
  | c :: cs, val, valb =>
    match base64Value c with
    | none => []
    | some v =>
      let val := (val * 64 + v) % 2 ^ 32
      if 0 ≤ valb + 6 then
        UInt8.ofNat (val / 2 ^ (valb + 6).toNat) :: base64Loop cs val (valb - 2)
      else base64Loop cs val (valb + 6)

def base64Decode (encoded : String) : List UInt8 := base64Loop encoded.toUTF8.toList 0 (-8)

/-- `file_name.substr(file_name.find_last_of('.'))` -/
def fileExtension (fileName : String) : String :=
  match (fileName.splitOn ".").reverse with
  | last :: _ :: _ => "." ++ last
  | _ => ""

def handleMediaUpload : SessionM Unit := s.authenticatedOnly sequence do
  let fileName ← read (body.valueString "file_name" "")
  let fileDataBase64 ← read (body.valueString "file_data" "")
  let mediaType ← read (body.valueInt "media_type" 0)
  if fileName.isEmpty || fileDataBase64.isEmpty then
    s.sendError sequence 400 "File name and data are required"
  else if 10 * 1024 * 1024 * 4 / 3 < fileDataBase64.utf8ByteSize then
    s.sendError sequence 400 "File size exceeds limit (10MB)"
  else
    let fileData := base64Decode fileDataBase64
    if fileData.isEmpty then s.sendError sequence 400 "Invalid base64 data"
    else
      let (fullDir, uniqueName) ← request (.mediaPath s.userId (fileExtension fileName))
      let filePath := fullDir ++ "/" ++ uniqueName
      if ← request (.writeFile filePath fileData) then
        match ← db (saveMediaFile s.userId uniqueName filePath (toMediaType mediaType)) with
        | none =>
          request (.removeFile filePath)
          s.sendError sequence 500 "Failed to save file info"
        | some (fileId, _) =>
          s.respond sequence .mediaUploadResponse (.object [
            ("file_id", .number fileId),
            ("url", .string ("http://localhost:8889/media/" ++ toString fileId ++ "/" ++
              uniqueName)),
            ("file_name", .string fileName),
            ("file_size", .number fileData.length),
            ("media_type", .number mediaType)])
      else s.sendError sequence 500 "Failed to save file"

def handleHeartbeat : SessionM Unit := do
  let serverTime ← request .systemClock
  s.respond sequence .heartbeatResponse (.object [("server_time", .number serverTime)])

/-! ## End-to-end encryption -/

def handleKeyUpload : SessionM Unit := s.authenticatedOnly sequence do
  let publicKey ← read (body.valueString "public_key" "")
  if publicKey.isEmpty then s.sendError sequence 400 "Public key is required"
  else if ← db (saveUserPublicKey s.userId publicKey) then
    let timestamp ← request .systemClock
    s.respond sequence .keyUploadResponse (.object [
      ("user_id", .number s.userId), ("timestamp", .number timestamp)])
  else s.sendError sequence 500 "Failed to save public key"

def handleKeyRequest : SessionM Unit := s.authenticatedOnly sequence do
  let targetUserId ← read (body.valueUInt64 "user_id")
  if targetUserId = 0 then s.sendError sequence 400 "User ID is required"
  else
    match ← db (getUserPublicKey targetUserId) with
    | some publicKey =>
      s.respond sequence .keyResponse (.object [
        ("user_id", .number targetUserId), ("public_key", .string publicKey)])
    | none => s.sendError sequence 404 "Public key not found"

/-- A character in `dump` of a string. -/
def dumpChar (c : Char) : String :=
  let hex (n : Nat) : Char := if n < 10 then Char.ofNat (48 + n) else Char.ofNat (87 + n)
  if c = '"' then "\\\""
  else if c = '\\' then "\\\\"
  else if c.toNat = 8 then "\\b"
  else if c.toNat = 12 then "\\f"
  else if c.toNat = 10 then "\\n"
  else if c.toNat = 13 then "\\r"
  else if c.toNat = 9 then "\\t"
  else if c.toNat < 32 then "\\u00" ++ String.ofList [hex (c.toNat / 16), hex (c.toNat % 16)]
  else c.toString

def dumpString (text : String) : String :=
  "\"" ++ String.join (text.toList.map dumpChar) ++ "\""

/-- `extra.dump()` in `handle_encrypted_message` -/
def encryptedExtra (encryptedKey encryptedContent iv : String) : String :=
  "\x7b\"encrypted\":true,\"encrypted_content\":" ++ dumpString encryptedContent ++
    ",\"encrypted_key\":" ++ dumpString encryptedKey ++ ",\"iv\":" ++ dumpString iv ++ "\x7d"

/-- `handle_encrypted_message` does not look at the result of `save_private_message`. -/
def handleEncryptedMessage : SessionM Unit := s.authenticatedOnly sequence do
  let receiverId ← read (body.valueUInt64 "receiver_id")
  let encryptedKey ← read (body.valueString "encrypted_key" "")
  let encryptedContent ← read (body.valueString "encrypted_content" "")
  let iv ← read (body.valueString "iv" "")
  let mediaType ← read (body.valueInt "media_type" 0)
  let mediaUrl ← read (body.valueString "media_url" "")
  if receiverId = 0 || encryptedKey.isEmpty || encryptedContent.isEmpty then
    s.sendError sequence 400 "Invalid encrypted message"
  else
    let blank ← request .uninitialisedMessage
    let createdAt ← request .systemClock
    let message : Message := {
      messageId := blank.messageId, senderId := s.userId, receiverId, groupId := 0,
      mediaType := toMediaType mediaType, content := "[加密消息]", mediaUrl,
      extra := encryptedExtra encryptedKey encryptedContent iv, status := .sent, createdAt }
    let saved ← db (savePrivateMessage message)
    let message := saved.getD message
    s.respond sequence .encryptedMessageResponse (messageJson message)
    sendToUser receiverId ⟨.encryptedMessage, sequence, messageJson message⟩

/-! ## Recalling messages -/

/-- The body of a recall notification. -/
def recallJson (messageId : Nat) (group : Option Nat) (timestamp : Int) : Json :=
  .object ([("message_id", .number messageId), ("recalled_by", .number s.userId),
    ("is_group", .bool group.isSome)] ++
    (group.toList.map fun groupId => ("group_id", .number groupId)) ++
    [("timestamp", .number timestamp)])

/-- The group branch; the members are those of the `group_id` of the request. -/
def recallGroup (messageId groupId : Nat) : SessionM Bool := do
  if ← db (recallGroupMessage messageId s.userId) then
    let members ← db (getGroupMembers groupId)
    let timestamp ← request .systemClock
    forEach (fun memberId => sendToUser memberId
      ⟨.messageRecall, sequence, recallJson s messageId (some groupId) timestamp⟩) members.2
    return true
  else return false

/-- The private branch. -/
def recallPrivate (messageId : Nat) : SessionM Bool := do
  if ← db (recallPrivateMessage messageId s.userId) then
    if (← db (getMessageSender messageId)).isSome then
      let timestamp ← request .systemClock
      broadcast ⟨.messageRecall, sequence, recallJson s messageId none timestamp⟩
    return true
  else return false

def handleMessageRecall : SessionM Unit := s.authenticatedOnly sequence do
  let messageId ← read (body.valueUInt64 "message_id")
  let isGroup ← read (body.valueBool "is_group" false)
  let groupId ← read (body.valueUInt64 "group_id")
  if messageId = 0 then s.sendError sequence 400 "message_id is required"
  else
    let recalled ←
      if isGroup then recallGroup s sequence messageId groupId
      else recallPrivate s sequence messageId
    s.respond sequence .messageRecallResponse (.object (
      if recalled then [("message_id", .number messageId), ("success", .bool true)]
      else [("message_id", .number messageId), ("success", .bool false), ("error",
        .string "Failed to recall message (not found, no permission, or time expired)")]))

/-! ## FCM tokens and favorites -/

def handleFcmTokenRegister : SessionM Unit := s.authenticatedOnly sequence do
  let token ← read (body.valueString "fcm_token" "")
  if token.isEmpty then s.sendError sequence 400 "Token is required"
  else
    let tokenType ← read (body.valueString "token_type" "fcm")
    let configured ← if tokenType = "jpush" then request .hasJpush else request .hasFcm
    if !configured then
      s.sendError sequence 500
        (if tokenType = "jpush" then "JPush not configured" else "FCM not configured")
    else if ← db (saveFcmToken s.userId token) then
      s.respond sequence .fcmTokenRegisterResponse
        (success [("user_id", .number s.userId), ("token_type", .string tokenType)])
    else s.sendError sequence 500 "Failed to register token"

def handleFavoriteAdd : SessionM Unit := s.authenticatedOnly sequence do
  let messageId ← read (body.valueUInt64 "message_id")
  let messageType ← read (body.valueString "message_type" "")
  let senderId ← read (body.valueUInt64 "sender_id")
  let content ← read (body.valueString "content" "")
  let mediaType ← read (body.valueInt "media_type" 0)
  let mediaUrl ← read (body.valueString "media_url" "")
  if messageId = 0 || messageType.isEmpty then
    s.sendError sequence 400 "message_id and message_type are required"
  else if messageType ≠ "private" && messageType ≠ "group" then
    s.sendError sequence 400 "message_type must be 'private' or 'group'"
  else if ← db (addFavorite s.userId messageId messageType senderId content
      (toMediaType mediaType) mediaUrl) then
    s.respond sequence .favoriteAddResponse
      (success [("message_id", .number messageId), ("message_type", .string messageType)])
  else s.sendError sequence 500 "Failed to add favorite"

def handleFavoriteRemove : SessionM Unit := s.authenticatedOnly sequence do
  let messageId ← read (body.valueUInt64 "message_id")
  let messageType ← read (body.valueString "message_type" "")
  if messageId = 0 || messageType.isEmpty then
    s.sendError sequence 400 "message_id and message_type are required"
  else if ← db (removeFavorite s.userId messageId messageType) then
    s.respond sequence .favoriteRemoveResponse
      (success [("message_id", .number messageId), ("message_type", .string messageType)])
  else s.sendError sequence 500 "Failed to remove favorite"

def handleFavoriteList : SessionM Unit := s.authenticatedOnly sequence do
  let limit ← read (body.valueInt "limit" 50)
  let offset ← read (body.valueInt "offset" 0)
  let favorites ← db (getFavorites s.userId limit offset)
  if favorites.1 then
    s.respond sequence .favoriteListResponse (.object [
      ("favorites", .array (favorites.2.map favoriteJson)),
      ("count", .number favorites.2.length)])
  else s.sendError sequence 500 "Failed to get favorites"

/-! ## Dispatch -/

/-- The `switch` of `handle_message`. -/
def handleMessage (type : UInt8) : SessionM Unit :=
  match MessageType.ofCode type with
  | some .register => s.handleRegister sequence body
  | some .login => s.handleLogin sequence body
  | some .logout => s.handleLogout sequence
  | some .userInfo => s.handleUserInfo sequence body
  | some .userSearch => s.handleUserSearch sequence body
  | some .userUpdate => s.handleUserUpdate sequence body
  | some .passwordUpdate => s.handlePasswordUpdate sequence body
  | some .friendAdd => s.handleFriendAdd sequence body
  | some .friendAccept => s.handleFriendAccept sequence body
  | some .friendReject => s.handleFriendReject sequence body
  | some .friendRemove => s.handleFriendRemove sequence body
  | some .friendList => s.handleFriendList sequence
  | some .friendRequests => s.handleFriendRequests sequence
  | some .friendRemark => s.handleFriendRemark sequence body
  | some .privateMessage => s.handlePrivateMessage sequence body
  | some .privateHistory => s.handlePrivateHistory sequence body
  | some .groupCreate => s.handleGroupCreate sequence body
  | some .groupJoin => s.handleGroupJoin sequence body
  | some .groupLeave => s.handleGroupLeave sequence body
  | some .groupDismiss => s.handleGroupDismiss sequence body
  | some .groupInfo => s.handleGroupInfo sequence body
  | some .groupList => s.handleGroupList sequence
  | some .groupMembers => s.handleGroupMembers sequence body
  | some .groupAddMember => s.handleGroupAddMember sequence body
  | some .groupRemoveMember => s.handleGroupRemoveMember sequence body
  | some .groupSetAdmin => s.handleGroupSetAdmin sequence body
  | some .groupTransferOwner => s.handleGroupTransferOwner sequence body
  | some .groupMessage => s.handleGroupMessage sequence body
  | some .groupHistory => s.handleGroupHistory sequence body
  | some .mediaUpload => s.handleMediaUpload sequence body
  | some .heartbeat => s.handleHeartbeat sequence
  | some .keyUpload => s.handleKeyUpload sequence body
  | some .keyRequest => s.handleKeyRequest sequence body
  | some .encryptedMessage => s.handleEncryptedMessage sequence body
  | some .messageRecall => s.handleMessageRecall sequence body
  | some .fcmTokenRegister => s.handleFcmTokenRegister sequence body
  | some .favoriteAdd => s.handleFavoriteAdd sequence body
  | some .favoriteRemove => s.handleFavoriteRemove sequence body
  | some .favoriteList => s.handleFavoriteList sequence body
  | _ => s.sendError sequence 400 "Unknown message type"

/-- The task that `do_read_body` hands to the thread pool: every exception is caught. -/
def task (type : UInt8) : Prog interface Unit :=
  (s.handleMessage sequence body type).run >>= fun _ => pure ()

end Session

end ChatApp.Session
