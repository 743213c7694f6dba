/-
  The methods of `Database` as programs over the calls they make: the `std::lock_guard` on
  `mutex_`, the MySQL client functions on the one shared `connection_`, the clock and `stat`.
  Log output is left out.

  A method returns what it returns in the source; an out parameter that is set only on success
  is the value under `some`. `get_user_by_id` and its like return `Option`, a method that only
  reports success returns `Bool`, one that fills a vector returns the success flag and the vector.
-/
import ChatApp.Lib.Prog
import ChatApp.Database.Statement

namespace ChatApp.Database

open ChatApp.Lib

inductive Call
  /-- constructor of `std::lock_guard<std::mutex> lock(mutex_)` -/
  | lock
  /-- its destructor -/
  | unlock
  /-- `connection_ != nullptr` -/
  | hasConnection
  /-- `mysql_ping(connection_) == 0` -/
  | ping
  /-- `mysql_close(connection_)` -/
  | close
  /-- `connection_ = mysql_init(nullptr)` and the options; true when it is not null -/
  | init
  /-- `mysql_real_connect` succeeded -/
  | realConnect
  /-- `mysql_query(connection_, sql) == 0` -/
  | query (s : Stmt)
  /-- `mysql_store_result(connection_)` and the rows fetched from it -/
  | storeResult
  /-- `mysql_insert_id(connection_)` -/
  | insertId
  /-- `get_current_timestamp()` -/
  | timestamp
  /-- `st.st_size` after `stat(path)`, 0 if that fails -/
  | fileSize (path : String)

/-- The type of the answer to a call. -/
abbrev Call.Answer : Call → Type
  | lock | unlock | close => Unit
  | hasConnection | ping | init | realConnect | query _ => Bool
  | storeResult => Option (List Row)
  | insertId | fileSize _ => Nat
  | timestamp => Int

abbrev interface : Interface := ⟨Call, Call.Answer⟩

abbrev DbProg := Prog interface

def request (c : Call) : DbProg c.Answer := Prog.perform (I := interface) c

def lockMutex : DbProg Unit := request .lock
def unlockMutex : DbProg Unit := request .unlock
def hasConnection : DbProg Bool := request .hasConnection
def mysqlPing : DbProg Bool := request .ping
def mysqlClose : DbProg Unit := request .close
def mysqlInit : DbProg Bool := request .init
def mysqlRealConnect : DbProg Bool := request .realConnect
def mysqlQuery (s : Stmt) : DbProg Bool := request (.query s)
def mysqlStoreResult : DbProg (Option (List Row)) := request .storeResult
def getLastInsertId : DbProg Nat := request .insertId
def getCurrentTimestamp : DbProg Int := request .timestamp
def fileSize (path : String) : DbProg Nat := request (.fileSize path)

section
variable {σ ε : Type} {P : Protocol interface σ} {s : σ}

theorem follows_request {c : Call} {Q : c.Answer → σ → Prop} :
    Prog.Follows P s (request c) Q ↔ P.allows s c ∧ ∀ a, Q a (P.next s c a) := Iff.rfl

end

/-! Each call against an environment. The answer type of `request c` depends on `c`, so that
    `simp` needs one equation for each call. -/

section
variable {ε : Type} {env : ε → (c : Call) → c.Answer × ε} {e : ε}

@[simp] theorem run_lockMutex : lockMutex.run env e = env e .lock := rfl
@[simp] theorem run_unlockMutex : unlockMutex.run env e = env e .unlock := rfl
@[simp] theorem run_hasConnection : hasConnection.run env e = env e .hasConnection := rfl
@[simp] theorem run_mysqlPing : mysqlPing.run env e = env e .ping := rfl
@[simp] theorem run_mysqlClose : mysqlClose.run env e = env e .close := rfl
@[simp] theorem run_mysqlInit : mysqlInit.run env e = env e .init := rfl
@[simp] theorem run_mysqlRealConnect : mysqlRealConnect.run env e = env e .realConnect := rfl
@[simp] theorem run_mysqlStoreResult : mysqlStoreResult.run env e = env e .storeResult := rfl
@[simp] theorem run_getCurrentTimestamp : getCurrentTimestamp.run env e = env e .timestamp := rfl
@[simp] theorem run_mysqlQuery (s : Stmt) : (mysqlQuery s).run env e = env e (.query s) := rfl

variable {σ : Type} {P : Protocol interface σ} {s : σ}

@[simp] theorem obeys_hasConnection {Q : Bool → σ → ε → Prop} :
    Prog.Obeys P env s e hasConnection Q ↔ P.allows s .hasConnection ∧
      Q (env e .hasConnection).1 (P.next s .hasConnection (env e .hasConnection).1)
        (env e .hasConnection).2 := Iff.rfl

@[simp] theorem obeys_mysqlPing {Q : Bool → σ → ε → Prop} :
    Prog.Obeys P env s e mysqlPing Q ↔ P.allows s .ping ∧
      Q (env e .ping).1 (P.next s .ping (env e .ping).1) (env e .ping).2 := Iff.rfl

@[simp] theorem obeys_mysqlClose {Q : Unit → σ → ε → Prop} :
    Prog.Obeys P env s e mysqlClose Q ↔ P.allows s .close ∧
      Q (env e .close).1 (P.next s .close (env e .close).1) (env e .close).2 := Iff.rfl

@[simp] theorem obeys_mysqlInit {Q : Bool → σ → ε → Prop} :
    Prog.Obeys P env s e mysqlInit Q ↔ P.allows s .init ∧
      Q (env e .init).1 (P.next s .init (env e .init).1) (env e .init).2 := Iff.rfl

@[simp] theorem obeys_mysqlRealConnect {Q : Bool → σ → ε → Prop} :
    Prog.Obeys P env s e mysqlRealConnect Q ↔ P.allows s .realConnect ∧
      Q (env e .realConnect).1 (P.next s .realConnect (env e .realConnect).1)
        (env e .realConnect).2 := Iff.rfl

end

/-- A method body under `std::lock_guard`. -/
def locked {α : Type} (body : DbProg α) : DbProg α := do
  lockMutex
  let a ← body
  unlockMutex
  return a

/-! ## The connection -/

/-- The CREATE TABLE statements of `init_tables`, up to the first that fails. -/
def createTables : List Table → DbProg Bool
  | [] => pure true
  | t :: ts => do
    if ← mysqlQuery (.createTable t) then createTables ts else pure false

def initTables : DbProg Bool :=
  locked (createTables [.users, .friends, .groups, .groupMembers, .privateMessages,
    .groupMessages, .mediaFiles, .botConversations, .userKeys, .favorites])

/-- `connect`; `connection` is whether `connection_` is set. -/
def connect (connection : Bool) : DbProg Bool := do
  if !connection then return false
  if !(← mysqlRealConnect) then return false
  initTables

def ensureConnection : DbProg Bool := do
  if !(← hasConnection) then return false
  if ← mysqlPing then return true
  mysqlClose
  let connection ← mysqlInit
  if !connection then return false
  connect connection

/-! ## The two shapes of most methods -/

/-- A statement without a result set: did it succeed. -/
def execute (s : Stmt) : DbProg Bool := mysqlQuery s

/-- The rows of a SELECT; `none` if the query or the fetch fails. -/
def select (s : Stmt) : DbProg (Option (List Row)) := do
  if !(← mysqlQuery s) then return none
  mysqlStoreResult

/-- The first row of a SELECT. -/
def selectFirst (s : Stmt) : DbProg (Option Row) := do
  let result ← select s
  return result.bind List.head?

/-! ## Users -/

def createUser (username password nickname : String) : DbProg (Option Nat) := locked do
  if !(← ensureConnection) then return none
  let now ← getCurrentTimestamp
  if !(← mysqlQuery (.users (.insert username password nickname now))) then return none
  let userId ← getLastInsertId
  return some userId

def getUserById (userId : Nat) : DbProg (Option UserInfo) := locked do
  if !(← ensureConnection) then return none
  let row ← selectFirst (.users (.byId userId))
  return row.map Row.user

def getUserByUsername (username : String) : DbProg (Option UserInfo) := locked do
  let row ← selectFirst (.users (.byUsername username))
  return row.map Row.user

def getUserPasswordHash (username : String) : DbProg (Option String) := locked do
  if !(← ensureConnection) then return none
  let row ← selectFirst (.users (.password username))
  return row.bind fun row => if row.cell 0 = .null then none else some (row.str 0)

def verifyUser (username password : String) : DbProg (Option Nat) := locked do
  if !(← ensureConnection) then return none
  let row ← selectFirst (.users (.verify username password))
  return row.map (Row.stoull · 0)

def updateUser (user : UserInfo) : DbProg Bool := locked do
  let now ← getCurrentTimestamp
  execute (.users (.update user.userId user.nickname user.avatarUrl user.signature now))

def updateUserPassword (userId : Nat) (newPassword : String) : DbProg Bool := locked do
  let now ← getCurrentTimestamp
  execute (.users (.updatePassword userId newPassword now))

def updateUserOnlineStatus (userId : Nat) (status : OnlineStatus) : DbProg Bool := locked do
  execute (.users (.updateOnlineStatus userId status))

def searchUsers (keyword : String) (limit : Int) : DbProg (List UserInfo) := locked do
  let result ← select (.users (.search keyword limit))
  return (result.getD []).map Row.user

/-! ## Friends -/

def addFriendRequest (userId friendId : Nat) : DbProg Bool := locked do
  let now ← getCurrentTimestamp
  execute (.friends (.insert userId friendId .pending now))

def acceptFriendRequest (userId friendId : Nat) : DbProg Bool := locked do
  let now ← getCurrentTimestamp
  if !(← mysqlQuery (.friends (.setStatus friendId userId .accepted now))) then return false
  execute (.friends (.insert userId friendId .accepted now))

def rejectFriendRequest (userId friendId : Nat) : DbProg Bool := locked do
  let now ← getCurrentTimestamp
  execute (.friends (.setStatus friendId userId .rejected now))

def removeFriend (userId friendId : Nat) : DbProg Bool := locked do
  execute (.friends (.deleteBoth userId friendId))

/-- The relation columns of `get_friend_list` and `get_friend_requests`; the two ids are set by
    the method. -/
def relationOf (userId friendId : Nat) (row : Row) : FriendRelation where
  userId := userId
  friendId := friendId
  remark := row.str 8
  status := .ofCode (row.stoll 9)
  createdAt := row.stoll 10
  updatedAt := row.stoll 11

def getFriendList (userId : Nat) : DbProg (Bool × List (UserInfo × FriendRelation)) := locked do
  let result ← select (.friends (.listAccepted userId))
  return (result.isSome, (result.getD []).map fun row =>
    (row.user, relationOf userId row.user.userId row))

def getFriendRequests (userId : Nat) : DbProg (Bool × List (UserInfo × FriendRelation)) := locked do
  let result ← select (.friends (.listRequests userId))
  return (result.isSome, (result.getD []).map fun row =>
    (row.user, relationOf row.user.userId userId row))

/-- `row && std::stoi(row[0]) > 0` -/
def countPositive (row : Option Row) : Bool := row.any fun row => decide (0 < row.stoll 0)

def isFriend (userId friendId : Nat) : DbProg Bool := locked do
  let row ← selectFirst (.friends (.countAccepted userId friendId))
  return countPositive row

def setFriendRemark (userId friendId : Nat) (remark : String) : DbProg Bool := locked do
  let now ← getCurrentTimestamp
  execute (.friends (.setRemark userId friendId remark now))

/-! ## Private messages -/

/-- `save_private_message`: the message with its id and time set. -/
def savePrivateMessage (message : Message) : DbProg (Option Message) := locked do
  let now ← getCurrentTimestamp
  if !(← mysqlQuery (.privateMessages (.insert message.senderId message.receiverId
      message.mediaType message.content message.mediaUrl message.extra message.status now))) then
    return none
  let messageId ← getLastInsertId
  return some { message with messageId, createdAt := now }

/-- The nine message columns. `receiver_id` or `group_id` is the third. -/
def messageOf (ofGroup : Bool) (row : Row) : Message where
  messageId := row.stoull 0
  senderId := row.stoull 1
  receiverId := if ofGroup then 0 else row.stoull 2
  groupId := if ofGroup then row.stoull 2 else 0
  mediaType := ⟨UInt8.ofInt (row.stoll 3)⟩
  content := row.str 4
  mediaUrl := row.str 5
  extra := row.str 6
  status := .ofCode (row.stoll 7)
  createdAt := row.stoll 8

def getPrivateHistory (user1Id user2Id : Nat) (beforeTime limit : Int) :
    DbProg (Bool × List Message) := locked do
  let result ← select (.privateMessages (.history user1Id user2Id beforeTime limit))
  return (result.isSome, (result.getD []).map (messageOf false))

def updateMessageStatus (messageId : Nat) (status : MessageStatus) : DbProg Bool := locked do
  execute (.privateMessages (.setStatus messageId status))

def markMessagesRead (userId peerId : Nat) : DbProg Bool := locked do
  execute (.privateMessages (.markRead peerId userId))

def getUnreadCount (userId peerId : Nat) : DbProg Int := locked do
  let row ← selectFirst (.privateMessages (.countUnread peerId userId))
  return (row.map (Row.stoll · 0)).getD 0

/-! ## Groups -/

def createGroup (groupName : String) (ownerId : Nat) (description : String) :
    DbProg (Option (Nat × Bool)) := locked do
  let now ← getCurrentTimestamp
  if !(← mysqlQuery (.groups (.insert groupName ownerId description now))) then return none
  -- the out parameter is set here, also when the second INSERT fails
  let groupId ← getLastInsertId
  let ok ← execute (.groupMembers (.insert groupId ownerId true now))
  return some (groupId, ok)

/-- `get_group_members`, the one method without the lock. -/
def getGroupMembers (groupId : Nat) : DbProg (Bool × List Nat) := do
  let result ← select (.groupMembers (.ofGroup groupId))
  return (result.isSome, (result.getD []).map (Row.stoull · 0))

/-- The seven group columns. -/
def groupOf (row : Row) (members : List Nat) : GroupInfo where
  groupId := row.stoull 0
  groupName := row.str 1
  avatarUrl := row.str 2
  description := row.str 3
  ownerId := row.stoull 4
  admins := []
  members := members
  createdAt := row.stoll 5
  updatedAt := row.stoll 6

def getGroupById (groupId : Nat) : DbProg (Option GroupInfo) := locked do
  match ← selectFirst (.groups (.byId groupId)) with
  | none => return none
  | some row =>
    let members ← getGroupMembers groupId
    return some (groupOf row members.2)

def updateGroup (group : GroupInfo) : DbProg Bool := locked do
  let now ← getCurrentTimestamp
  execute (.groups (.update group.groupId group.groupName group.avatarUrl group.description now))

def dismissGroup (groupId : Nat) : DbProg Bool := locked do
  execute (.groups (.delete groupId))

def addGroupMember (groupId userId : Nat) (isAdmin : Bool) : DbProg Bool := locked do
  let now ← getCurrentTimestamp
  execute (.groupMembers (.insert groupId userId isAdmin now))

def removeGroupMember (groupId userId : Nat) : DbProg Bool := locked do
  execute (.groupMembers (.delete groupId userId))

/-- The row loop of `get_user_groups`: one `get_group_members` for each row. -/
def groupsWithMembers : List Row → DbProg (List GroupInfo)
  | [] => pure []
  | row :: rows => do
    let members ← getGroupMembers (row.stoull 0)
    let groups ← groupsWithMembers rows
    return groupOf row members.2 :: groups

def getUserGroups (userId : Nat) : DbProg (Bool × List GroupInfo) := locked do
  match ← select (.groups (.ofUser userId)) with
  | none => return (false, [])
  | some rows =>
    let groups ← groupsWithMembers rows
    return (true, groups)

def isGroupMember (groupId userId : Nat) : DbProg Bool := locked do
  let row ← selectFirst (.groupMembers (.count groupId userId))
  return countPositive row

def isGroupAdmin (groupId userId : Nat) : DbProg Bool := locked do
  let row ← selectFirst (.groupMembers (.isAdmin groupId userId))
  return row.any fun row => decide (row.stoll 0 = 1)

def isGroupOwner (groupId userId : Nat) : DbProg Bool := locked do
  let row ← selectFirst (.groups (.owner groupId))
  return row.any fun row => decide (row.stoull 0 = userId)

def setGroupAdmin (groupId userId : Nat) (isAdmin : Bool) : DbProg Bool := locked do
  execute (.groupMembers (.setAdmin groupId userId isAdmin))

def transferGroupOwner (groupId oldOwnerId newOwnerId : Nat) : DbProg Bool := locked do
  if !(← mysqlQuery (.groups (.setOwner groupId oldOwnerId newOwnerId))) then return false
  -- the answer to the second statement is not looked at
  let _ ← mysqlQuery (.groupMembers (.setAdmin groupId oldOwnerId false))
  execute (.groupMembers (.setAdmin groupId newOwnerId true))

/-! ## Group messages -/

def saveGroupMessage (message : Message) : DbProg (Option Message) := locked do
  let now ← getCurrentTimestamp
  if !(← mysqlQuery (.groupMessages (.insert message.groupId message.senderId message.mediaType
      message.content message.mediaUrl message.extra message.status now))) then
    return none
  let messageId ← getLastInsertId
  return some { message with messageId, createdAt := now }

def getGroupHistory (groupId : Nat) (beforeTime limit : Int) : DbProg (Bool × List Message) :=
  locked do
    let result ← select (.groupMessages (.history groupId beforeTime limit))
    return (result.isSome, (result.getD []).map (messageOf true))

/-! ## Media files -/

def saveMediaFile (userId : Nat) (fileName filePath : String) (type : MediaType) :
    DbProg (Option (Nat × String)) := locked do
  let now ← getCurrentTimestamp
  let size ← fileSize filePath
  if !(← mysqlQuery (.mediaFiles (.insert userId fileName filePath size type now))) then
    return none
  let fileId ← getLastInsertId
  return some (fileId, "/media/" ++ toString fileId ++ "/" ++ fileName)

def getMediaFile (fileId : Nat) : DbProg (Option (String × MediaType)) := locked do
  let row ← selectFirst (.mediaFiles (.byId fileId))
  return row.map fun row => (row.str 0, ⟨UInt8.ofInt (row.stoll 1)⟩)

/-! ## Bot conversations -/

def saveBotConversation (userId : Nat) (conversationId role content : String) : DbProg Bool :=
  locked do
    let now ← getCurrentTimestamp
    -- `content.size()` counts bytes
    let charCount : Int := content.utf8ByteSize
    execute (.botConversations (.insert userId conversationId role content charCount now))

def getBotConversation (userId : Nat) (conversationId : String) (limit : Int) :
    DbProg (Bool × List (String × String)) := locked do
  let result ← select (.botConversations (.messages userId conversationId limit))
  return (result.isSome, (result.getD []).map fun row => (row.str 0, row.str 1))

def clearBotConversation (userId : Nat) (conversationId : String) : DbProg Bool := locked do
  execute (.botConversations (.delete userId conversationId))

def getBotConversationCharCount (userId : Nat) (conversationId : String) : DbProg Int := locked do
  let row ← selectFirst (.botConversations (.charCount userId conversationId))
  return (row.map (Row.stoll · 0)).getD 0

/-- `create_new_bot_session` takes no lock and touches no connection. -/
def createNewBotSession (userId : Nat) : DbProg String := do
  let now ← getCurrentTimestamp
  return "user_" ++ toString userId ++ "_" ++ toString now

def getUserBotSessions (userId : Nat) : DbProg (Bool × List String) := locked do
  let result ← select (.botConversations (.sessions userId))
  return (result.isSome, ((result.getD []).filter (·.cell 0 ≠ .null)).map (Row.str · 0))

/-! ## End-to-end keys -/

def saveUserPublicKey (userId : Nat) (publicKey : String) : DbProg Bool := locked do
  let now ← getCurrentTimestamp
  execute (.userKeys (.upsert userId publicKey now))

def getUserPublicKey (userId : Nat) : DbProg (Option String) := locked do
  let row ← selectFirst (.userKeys (.byUser userId))
  return row.bind fun row => if row.cell 0 = .null then none else some (row.str 0)

def deleteUserKey (userId : Nat) : DbProg Bool := locked do
  execute (.userKeys (.delete userId))

/-! ## Recalling messages -/

/-- `get_message_sender`: sender, whether it is a group message, group id. -/
def getMessageSender (messageId : Nat) : DbProg (Option (Nat × Bool × Nat)) := locked do
  match ← selectFirst (.privateMessages (.senderAndGroup messageId)) with
  | some row => return some (row.stoull 0, false, 0)
  | none =>
    let row ← selectFirst (.groupMessages (.senderAndGroup messageId))
    return row.map fun row => (row.stoull 0, true, row.stoull 1)

def recallPrivateMessage (messageId userId : Nat) : DbProg Bool := locked do
  match ← selectFirst (.privateMessages (.senderAndTime messageId)) with
  | none => return false
  | some row =>
    if row.stoull 0 ≠ userId then return false
    let now ← getCurrentTimestamp
    if now - row.stoll 1 > 120 then return false
    execute (.privateMessages (.recall messageId))

def recallGroupMessage (messageId userId : Nat) : DbProg Bool := locked do
  match ← selectFirst (.groupMessages (.senderGroupAndTime messageId)) with
  | none => return false
  | some row =>
    let isSender := decide (row.stoull 0 = userId)
    -- both calls lock `mutex_`, which is held here
    let isAdmin ← isGroupAdmin (row.stoull 1) userId
    let isOwner ← isGroupOwner (row.stoull 1) userId
    if !isSender && !isAdmin && !isOwner then return false
    let now ← getCurrentTimestamp
    if isSender && !isAdmin && !isOwner && decide (now - row.stoll 2 > 120) then return false
    execute (.groupMessages (.recall messageId))

/-! ## FCM tokens -/

def saveFcmToken (userId : Nat) (fcmToken : String) : DbProg Bool := locked do
  let now ← getCurrentTimestamp
  if ← mysqlQuery (.fcmTokens (.upsert userId fcmToken now)) then return true
  if ← mysqlQuery (.createTable .userFcmTokens) then
    execute (.fcmTokens (.upsert userId fcmToken now))
  else
    return false

def getFcmToken (userId : Nat) : DbProg String := locked do
  let row ← selectFirst (.fcmTokens (.byUser userId))
  return (row.map (Row.str · 0)).getD ""

def removeFcmToken (userId : Nat) : DbProg Bool := locked do
  execute (.fcmTokens (.delete userId))

/-! ## Favorites -/

structure Favorite where
  messageId : Nat
  messageType : String
  senderId : Nat
  content : String
  mediaType : Int
  mediaUrl : String
  createdAt : Int
  senderUsername : String
  senderNickname : String
  senderAvatar : String
  deriving DecidableEq, Repr

def addFavorite (userId messageId : Nat) (messageType : String) (senderId : Nat)
    (content : String) (mediaType : MediaType) (mediaUrl : String) : DbProg Bool := locked do
  if !(← ensureConnection) then return false
  let now ← getCurrentTimestamp
  execute (.favorites (.upsert userId messageId messageType senderId content mediaType mediaUrl
    now))

def removeFavorite (userId messageId : Nat) (messageType : String) : DbProg Bool := locked do
  execute (.favorites (.delete userId messageId messageType))

def favoriteOf (row : Row) : Favorite where
  messageId := row.stoull 0
  messageType := row.str 1
  senderId := row.stoull 2
  content := row.str 3
  mediaType := row.stoll 4
  mediaUrl := row.str 5
  createdAt := row.stoll 6
  senderUsername := row.str 7
  senderNickname := row.str 8
  senderAvatar := row.str 9

def getFavorites (userId : Nat) (limit offset : Int) : DbProg (Bool × List Favorite) := locked do
  if !(← ensureConnection) then return (false, [])
  let result ← select (.favorites (.ofUser userId limit offset))
  return (result.isSome, (result.getD []).map favoriteOf)

def isFavorited (userId messageId : Nat) (messageType : String) : DbProg Bool := locked do
  let row ← selectFirst (.favorites (.count userId messageId messageType))
  return countPositive row

/-! ## All methods -/

/-- A call of one of the methods above by a handler or a manager. -/
inductive Method
  | createUser (username password nickname : String)
  | getUserById (userId : Nat)
  | getUserByUsername (username : String)
  | getUserPasswordHash (username : String)
  | verifyUser (username password : String)
  | updateUser (user : UserInfo)
  | updateUserPassword (userId : Nat) (newPassword : String)
  | updateUserOnlineStatus (userId : Nat) (status : OnlineStatus)
  | searchUsers (keyword : String) (limit : Int)
  | addFriendRequest (userId friendId : Nat)
  | acceptFriendRequest (userId friendId : Nat)
  | rejectFriendRequest (userId friendId : Nat)
  | removeFriend (userId friendId : Nat)
  | getFriendList (userId : Nat)
  | getFriendRequests (userId : Nat)
  | isFriend (userId friendId : Nat)
  | setFriendRemark (userId friendId : Nat) (remark : String)
  | savePrivateMessage (message : Message)
  | getPrivateHistory (user1Id user2Id : Nat) (beforeTime limit : Int)
  | updateMessageStatus (messageId : Nat) (status : MessageStatus)
  | markMessagesRead (userId peerId : Nat)
  | getUnreadCount (userId peerId : Nat)
  | createGroup (groupName : String) (ownerId : Nat) (description : String)
  | getGroupById (groupId : Nat)
  | updateGroup (group : GroupInfo)
  | dismissGroup (groupId : Nat)
  | addGroupMember (groupId userId : Nat) (isAdmin : Bool)
  | removeGroupMember (groupId userId : Nat)
  | getUserGroups (userId : Nat)
  | getGroupMembers (groupId : Nat)
  | isGroupMember (groupId userId : Nat)
  | isGroupAdmin (groupId userId : Nat)
  | isGroupOwner (groupId userId : Nat)
  | setGroupAdmin (groupId userId : Nat) (isAdmin : Bool)
  | transferGroupOwner (groupId oldOwnerId newOwnerId : Nat)
  | saveGroupMessage (message : Message)
  | getGroupHistory (groupId : Nat) (beforeTime limit : Int)
  | saveMediaFile (userId : Nat) (fileName filePath : String) (type : MediaType)
  | getMediaFile (fileId : Nat)
  | saveBotConversation (userId : Nat) (conversationId role content : String)
  | getBotConversation (userId : Nat) (conversationId : String) (limit : Int)
  | clearBotConversation (userId : Nat) (conversationId : String)
  | getBotConversationCharCount (userId : Nat) (conversationId : String)
  | createNewBotSession (userId : Nat)
  | getUserBotSessions (userId : Nat)
  | saveUserPublicKey (userId : Nat) (publicKey : String)
  | getUserPublicKey (userId : Nat)
  | deleteUserKey (userId : Nat)
  | getMessageSender (messageId : Nat)
  | recallPrivateMessage (messageId userId : Nat)
  | recallGroupMessage (messageId userId : Nat)
  | saveFcmToken (userId : Nat) (fcmToken : String)
  | getFcmToken (userId : Nat)
  | removeFcmToken (userId : Nat)
  | addFavorite (userId messageId : Nat) (messageType : String) (senderId : Nat)
      (content : String) (mediaType : MediaType) (mediaUrl : String)
  | removeFavorite (userId messageId : Nat) (messageType : String)
  | getFavorites (userId : Nat) (limit offset : Int)
  | isFavorited (userId messageId : Nat) (messageType : String)

/-- The program of a method, its result dropped. -/
def Method.prog : Method → DbProg Unit
  | .createUser username password nickname => (Database.createUser username password nickname).void
  | .getUserById userId => (Database.getUserById userId).void
  | .getUserByUsername username => (Database.getUserByUsername username).void
  | .getUserPasswordHash username => (Database.getUserPasswordHash username).void
  | .verifyUser username password => (Database.verifyUser username password).void
  | .updateUser user => (Database.updateUser user).void
  | .updateUserPassword userId newPassword =>
    (Database.updateUserPassword userId newPassword).void
  | .updateUserOnlineStatus userId status => (Database.updateUserOnlineStatus userId status).void
  | .searchUsers keyword limit => (Database.searchUsers keyword limit).void
  | .addFriendRequest userId friendId => (Database.addFriendRequest userId friendId).void
  | .acceptFriendRequest userId friendId => (Database.acceptFriendRequest userId friendId).void
  | .rejectFriendRequest userId friendId => (Database.rejectFriendRequest userId friendId).void
  | .removeFriend userId friendId => (Database.removeFriend userId friendId).void
  | .getFriendList userId => (Database.getFriendList userId).void
  | .getFriendRequests userId => (Database.getFriendRequests userId).void
  | .isFriend userId friendId => (Database.isFriend userId friendId).void
  | .setFriendRemark userId friendId remark =>
    (Database.setFriendRemark userId friendId remark).void
  | .savePrivateMessage message => (Database.savePrivateMessage message).void
  | .getPrivateHistory user1Id user2Id beforeTime limit =>
    (Database.getPrivateHistory user1Id user2Id beforeTime limit).void
  | .updateMessageStatus messageId status => (Database.updateMessageStatus messageId status).void
  | .markMessagesRead userId peerId => (Database.markMessagesRead userId peerId).void
  | .getUnreadCount userId peerId => (Database.getUnreadCount userId peerId).void
  | .createGroup groupName ownerId description =>
    (Database.createGroup groupName ownerId description).void
  | .getGroupById groupId => (Database.getGroupById groupId).void
  | .updateGroup group => (Database.updateGroup group).void
  | .dismissGroup groupId => (Database.dismissGroup groupId).void
  | .addGroupMember groupId userId isAdmin => (Database.addGroupMember groupId userId isAdmin).void
  | .removeGroupMember groupId userId => (Database.removeGroupMember groupId userId).void
  | .getUserGroups userId => (Database.getUserGroups userId).void
  | .getGroupMembers groupId => (Database.getGroupMembers groupId).void
  | .isGroupMember groupId userId => (Database.isGroupMember groupId userId).void
  | .isGroupAdmin groupId userId => (Database.isGroupAdmin groupId userId).void
  | .isGroupOwner groupId userId => (Database.isGroupOwner groupId userId).void
  | .setGroupAdmin groupId userId isAdmin => (Database.setGroupAdmin groupId userId isAdmin).void
  | .transferGroupOwner groupId oldOwnerId newOwnerId =>
    (Database.transferGroupOwner groupId oldOwnerId newOwnerId).void
  | .saveGroupMessage message => (Database.saveGroupMessage message).void
  | .getGroupHistory groupId beforeTime limit =>
    (Database.getGroupHistory groupId beforeTime limit).void
  | .saveMediaFile userId fileName filePath type =>
    (Database.saveMediaFile userId fileName filePath type).void
  | .getMediaFile fileId => (Database.getMediaFile fileId).void
  | .saveBotConversation userId conversationId role content =>
    (Database.saveBotConversation userId conversationId role content).void
  | .getBotConversation userId conversationId limit =>
    (Database.getBotConversation userId conversationId limit).void
  | .clearBotConversation userId conversationId =>
    (Database.clearBotConversation userId conversationId).void
  | .getBotConversationCharCount userId conversationId =>
    (Database.getBotConversationCharCount userId conversationId).void
  | .createNewBotSession userId => (Database.createNewBotSession userId).void
  | .getUserBotSessions userId => (Database.getUserBotSessions userId).void
  | .saveUserPublicKey userId publicKey => (Database.saveUserPublicKey userId publicKey).void
  | .getUserPublicKey userId => (Database.getUserPublicKey userId).void
  | .deleteUserKey userId => (Database.deleteUserKey userId).void
  | .getMessageSender messageId => (Database.getMessageSender messageId).void
  | .recallPrivateMessage messageId userId => (Database.recallPrivateMessage messageId userId).void
  | .recallGroupMessage messageId userId => (Database.recallGroupMessage messageId userId).void
  | .saveFcmToken userId fcmToken => (Database.saveFcmToken userId fcmToken).void
  | .getFcmToken userId => (Database.getFcmToken userId).void
  | .removeFcmToken userId => (Database.removeFcmToken userId).void
  | .addFavorite userId messageId messageType senderId content mediaType mediaUrl =>
    (Database.addFavorite userId messageId messageType senderId content mediaType mediaUrl).void
  | .removeFavorite userId messageId messageType =>
    (Database.removeFavorite userId messageId messageType).void
  | .getFavorites userId limit offset => (Database.getFavorites userId limit offset).void
  | .isFavorited userId messageId messageType =>
    (Database.isFavorited userId messageId messageType).void

end ChatApp.Database
