/-
  `UserManager`, `GroupManager`, `MessageManager` and `BotManager`, as far as a request handler
  calls them. An operation that fails returns the text it puts into `error`. What
  `BotManager::handle_bot_message` does when the language model answers, later and on another
  thread, is left out.
-/
import ChatApp.Session.Calls

namespace ChatApp.Session

open ChatApp.Lib ChatApp.Database ChatApp.Protocol

/-- The result of a method that only reports success, under the manager's error text. -/
def orFail (message : String) (p : SessionM Bool) : SessionM (Except String Unit) := do
  return if ← p then .ok () else .error message

namespace UserManager

/-- `is_argon2_hash` -/
def isArgon2Hash (hash : String) : Bool :=
  decide (10 < hash.utf8ByteSize) && hash.startsWith "$argon2id"

def hashPassword (password : String) : SessionM String := do
  match ← request (.hashPassword password) with
  | some hash => pure hash
  | none => throw .hashFailed

def registerUser (username password nickname : String) : SessionM (Except String Nat) := do
  if (← db (getUserByUsername username)).isSome then return .error "Username already exists"
  let hashedPassword ← hashPassword password
  match ← db (createUser username hashedPassword nickname) with
  | none => return .error "Failed to create user"
  | some userId => return .ok userId

/-- The upgrade of an old hash at a login. An exception of it is caught. -/
def upgradeHash (userId : Nat) (password storedHash : String) : SessionM Unit := do
  if isArgon2Hash storedHash then return
  match ← request (.hashPassword password) with
  | some newHash =>
    let _ ← db (updateUserPassword userId newHash)
  | none => pure ()

def login (username password : String) : SessionM (Except String UserInfo) := do
  match ← db (getUserByUsername username) with
  | none => return .error "User not found"
  | some userInfo =>
    match ← db (getUserPasswordHash username) with
    | none => return .error "Failed to retrieve password"
    | some storedHash =>
      if !(← request (.verifyPassword password storedHash)) then return .error "Invalid password"
      upgradeHash userInfo.userId password storedHash
      return .ok userInfo

def updatePassword (userId : Nat) (oldPassword newPassword : String) :
    SessionM (Except String Unit) := do
  match ← db (getUserById userId) with
  | none => return .error "User not found"
  | some user =>
    match ← db (getUserPasswordHash user.username) with
    | none => return .error "Failed to retrieve password"
    | some storedHash =>
      if !(← request (.verifyPassword oldPassword storedHash)) then
        return .error "Invalid old password"
      let hashedNew ← hashPassword newPassword
      orFail "" (db (updateUserPassword userId hashedNew))

end UserManager

namespace GroupManager

def isMember (groupId userId : Nat) : SessionM Bool := db (isGroupMember groupId userId)

def isAdmin (groupId userId : Nat) : SessionM Bool := db (isGroupAdmin groupId userId)

def isOwner (groupId userId : Nat) : SessionM Bool := db (isGroupOwner groupId userId)

def createGroup (ownerId : Nat) (groupName description : String) :
    SessionM (Except String Nat) := do
  if groupName.isEmpty then return .error "Group name is required"
  match ← db (Database.createGroup groupName ownerId description) with
  | some (groupId, true) => return .ok groupId
  | _ => return .error "Failed to create group"

def dismissGroup (ownerId groupId : Nat) : SessionM (Except String Unit) := do
  if !(← isOwner groupId ownerId) then return .error "Only group owner can dismiss the group"
  orFail "Failed to dismiss group" (db (Database.dismissGroup groupId))

def joinGroup (groupId userId : Nat) : SessionM (Except String Unit) := do
  if (← db (getGroupById groupId)).isNone then return .error "Group not found"
  if ← isMember groupId userId then return .error "Already a member"
  orFail "Failed to join group" (db (addGroupMember groupId userId false))

def leaveGroup (groupId userId : Nat) : SessionM (Except String Unit) := do
  if ← isOwner groupId userId then
    return .error "Group owner cannot leave, please dismiss the group instead"
  orFail "Failed to leave group" (db (removeGroupMember groupId userId))

def removeMember (operatorId groupId userId : Nat) : SessionM (Except String Unit) := do
  if !(← isOwner groupId operatorId) then
    if !(← isAdmin groupId operatorId) then return .error "No permission to remove member"
  if ← isOwner groupId userId then return .error "Cannot remove group owner"
  if ← isAdmin groupId userId then
    if !(← isOwner groupId operatorId) then return .error "No permission to remove admin"
  orFail "Failed to remove member" (db (removeGroupMember groupId userId))

def getUserGroups (userId : Nat) : SessionM (List GroupInfo) := do
  return (← db (Database.getUserGroups userId)).2

def getGroupMembers (groupId : Nat) : SessionM (List Nat) := do
  return (← db (Database.getGroupMembers groupId)).2

def setAdmin (operatorId groupId userId : Nat) (isAdmin : Bool) :
    SessionM (Except String Unit) := do
  if !(← isOwner groupId operatorId) then return .error "Only group owner can set admin"
  if !(← isMember groupId userId) then return .error "User is not a group member"
  orFail "Failed to set admin" (db (setGroupAdmin groupId userId isAdmin))

def transferOwner (ownerId groupId newOwnerId : Nat) : SessionM (Except String Unit) := do
  if !(← isOwner groupId ownerId) then return .error "Only group owner can transfer ownership"
  if ownerId = newOwnerId then return .error "Cannot transfer ownership to yourself"
  if !(← isMember groupId newOwnerId) then return .error "New owner must be a group member"
  orFail "Failed to transfer ownership" (db (transferGroupOwner groupId ownerId newOwnerId))

end GroupManager

namespace MessageManager

/-- `message_id` and `created_at` are set by `save_private_message`. -/
def sendPrivateMessage (senderId receiverId : Nat) (content : String) (mediaType : MediaType)
    (mediaUrl extra : String) : SessionM (Except String Message) := do
  match ← db (savePrivateMessage {
      messageId := 0, senderId, receiverId, groupId := 0, mediaType, content, mediaUrl, extra,
      status := .sent, createdAt := 0 }) with
  | none => return .error "Failed to save message"
  | some message => return .ok message

def getPrivateHistory (user1Id user2Id : Nat) (beforeTime limit : Int) :
    SessionM (List Message) := do
  return (← db (Database.getPrivateHistory user1Id user2Id beforeTime limit)).2

def sendGroupMessage (senderId groupId : Nat) (content : String) (mediaType : MediaType)
    (mediaUrl extra : String) : SessionM (Except String Message) := do
  if !(← db (isGroupMember groupId senderId)) then return .error "Not a group member"
  match ← db (saveGroupMessage {
      messageId := 0, senderId, receiverId := groupId, groupId, mediaType, content, mediaUrl,
      extra, status := .sent, createdAt := 0 }) with
  | none => return .error "Failed to save message"
  | some message => return .ok message

def getGroupHistory (groupId : Nat) (beforeTime limit : Int) : SessionM (List Message) := do
  return (← db (Database.getGroupHistory groupId beforeTime limit)).2

end MessageManager

namespace BotManager

/-- A message of the bot to the user: saved, and sent whether or not that worked. -/
def reply (config : BotConfig) (userId : Nat) (content : String) : SessionM Unit := do
  let blank ← request .uninitialisedMessage
  let now ← request .systemClock
  let message := { blank with
    senderId := config.botUserId, receiverId := userId, content, mediaType := ⟨0⟩,
    createdAt := now }
  let saved ← db (savePrivateMessage message)
  sendToUser userId ⟨.privateMessage, 0, messageJson (saved.getD message)⟩

/-- The lines of the answer to /sessions. -/
def sessionLines (userId : Nat) : List String → SessionM String
  | [] => pure ""
  | session :: sessions => do
    let charCount ← db (getBotConversationCharCount userId session)
    let rest ← sessionLines userId sessions
    return "- " ++ session ++ " (" ++ toString charCount ++ " 字)\n" ++ rest

def handleBotMessage (config : BotConfig) (senderId : Nat) (content : String) (messageId : Nat) :
    SessionM Unit := do
  if !config.enabled then return
  if !(← request (.botBegin messageId)) then return
  let conversationId ← request (.botSessionId senderId)
  let charCount ← db (getBotConversationCharCount senderId conversationId)
  if config.maxCharCount ≤ charCount then
    reply config senderId ("当前会话已超过字数限制（" ++ toString config.maxCharCount ++
      " 字）。请发送 /new 开始新会话，或发送 /sessions 查看历史会话。")
  else if content = "/new" then
    let newSession ← db (createNewBotSession senderId)
    request (.setBotSessionId senderId newSession)
    reply config senderId ("已创建新会话。当前会话ID: " ++ newSession)
  else if content = "/sessions" then
    let sessions ← db (getUserBotSessions senderId)
    let lines ← sessionLines senderId sessions.2
    reply config senderId
      (if sessions.2.isEmpty then "暂无历史会话。" else "您的历史会话:\n" ++ lines)
  else
    let _ ← db (saveBotConversation senderId conversationId "user" content)
    let _ ← db (getBotConversation senderId conversationId 20)
    request (.botChat conversationId content)

def handleFriendRequest (config : BotConfig) (fromUserId : Nat) : SessionM Unit := do
  if !config.autoAcceptFriend then return
  if ← db (acceptFriendRequest config.botUserId fromUserId) then
    let timestamp ← request .systemClock
    sendToUser fromUserId ⟨.friendAccept, 0, .object [
      ("friend_id", .number config.botUserId),
      ("friend_username", .string config.botUsername),
      ("friend_nickname", .string config.botNickname),
      ("timestamp", .number timestamp)]⟩

end BotManager

end ChatApp.Session
