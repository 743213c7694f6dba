/-
  The SQL statements of `Database`, one constructor for each statement the source builds, with
  the values it splices in. `escape_string` is left out: it makes a quoted literal denote the
  given string, which is what the constructor holds.
-/
import ChatApp.Database.Types

namespace ChatApp.Database

/-- Tables made by `init_tables`, in its order, and `user_fcm_tokens`, made on first use. -/
inductive Table
  | users | friends | groups | groupMembers | privateMessages | groupMessages | mediaFiles
  | botConversations | userKeys | favorites | userFcmTokens
  deriving DecidableEq, Repr

inductive UserStmt
  /-- INSERT INTO users (username, password, nickname, created_at, updated_at) -/
  | insert (username password nickname : String) (now : Int)
  /-- SELECT the eight columns WHERE user_id -/
  | byId (userId : Nat)
  /-- SELECT the eight columns WHERE username -/
  | byUsername (username : String)
  /-- SELECT password WHERE username -/
  | password (username : String)
  /-- SELECT user_id WHERE username AND password -/
  | verify (username password : String)
  /-- UPDATE nickname, avatar_url, signature, updated_at WHERE user_id -/
  | update (userId : Nat) (nickname avatarUrl signature : String) (now : Int)
  /-- UPDATE password, updated_at WHERE user_id -/
  | updatePassword (userId : Nat) (password : String) (now : Int)
  /-- UPDATE online_status WHERE user_id -/
  | updateOnlineStatus (userId : Nat) (status : OnlineStatus)
  /-- SELECT the eight columns WHERE username LIKE OR nickname LIKE, LIMIT -/
  | search (keyword : String) (limit : Int)

inductive FriendStmt
  /-- INSERT INTO friends (user_id, friend_id, status, created_at, updated_at) -/
  | insert (userId friendId : Nat) (status : FriendStatus) (now : Int)
  /-- UPDATE status, updated_at WHERE user_id AND friend_id -/
  | setStatus (userId friendId : Nat) (status : FriendStatus) (now : Int)
  /-- DELETE WHERE (user_id, friend_id) is the pair, either way round -/
  | deleteBoth (userId friendId : Nat)
  /-- SELECT user and relation FROM users JOIN friends ON u.user_id = f.friend_id
      WHERE f.user_id AND status = 1 -/
  | listAccepted (userId : Nat)
  /-- SELECT user and relation FROM users JOIN friends ON u.user_id = f.user_id
      WHERE f.friend_id AND status = 0 -/
  | listRequests (userId : Nat)
  /-- SELECT COUNT(*) WHERE user_id AND friend_id AND status = 1 -/
  | countAccepted (userId friendId : Nat)
  /-- UPDATE remark, updated_at WHERE user_id AND friend_id -/
  | setRemark (userId friendId : Nat) (remark : String) (now : Int)

inductive PrivateMessageStmt
  /-- INSERT INTO private_messages -/
  | insert (senderId receiverId : Nat) (mediaType : MediaType) (content mediaUrl extra : String)
      (status : MessageStatus) (now : Int)
  /-- SELECT the nine columns of both directions, created_at < before_time if that is positive,
      ORDER BY created_at DESC LIMIT -/
  | history (user1Id user2Id : Nat) (beforeTime limit : Int)
  /-- UPDATE status WHERE message_id -/
  | setStatus (messageId : Nat) (status : MessageStatus)
  /-- UPDATE status = 3 WHERE sender_id AND receiver_id AND status < 3 -/
  | markRead (senderId receiverId : Nat)
  /-- SELECT COUNT(*) WHERE sender_id AND receiver_id AND status < 3 -/
  | countUnread (senderId receiverId : Nat)
  /-- SELECT sender_id, group_id WHERE message_id -/
  | senderAndGroup (messageId : Nat)
  /-- SELECT sender_id, created_at WHERE message_id -/
  | senderAndTime (messageId : Nat)
  /-- UPDATE content = '[消息已撤回]', media_type = 0, media_url = '' WHERE message_id -/
  | recall (messageId : Nat)

inductive GroupStmt
  /-- INSERT INTO groups (group_name, owner_id, description, created_at, updated_at) -/
  | insert (groupName : String) (ownerId : Nat) (description : String) (now : Int)
  /-- SELECT the seven columns WHERE group_id -/
  | byId (groupId : Nat)
  /-- UPDATE group_name, avatar_url, description, updated_at WHERE group_id -/
  | update (groupId : Nat) (groupName avatarUrl description : String) (now : Int)
  /-- DELETE WHERE group_id -/
  | delete (groupId : Nat)
  /-- SELECT the seven columns FROM groups JOIN group_members WHERE gm.user_id -/
  | ofUser (userId : Nat)
  /-- SELECT owner_id WHERE group_id -/
  | owner (groupId : Nat)
  /-- UPDATE owner_id WHERE group_id AND owner_id -/
  | setOwner (groupId oldOwnerId newOwnerId : Nat)

inductive GroupMemberStmt
  /-- INSERT INTO group_members (group_id, user_id, is_admin, joined_at) -/
  | insert (groupId userId : Nat) (isAdmin : Bool) (now : Int)
  /-- DELETE WHERE group_id AND user_id -/
  | delete (groupId userId : Nat)
  /-- SELECT user_id WHERE group_id -/
  | ofGroup (groupId : Nat)
  /-- SELECT COUNT(*) WHERE group_id AND user_id -/
  | count (groupId userId : Nat)
  /-- SELECT is_admin WHERE group_id AND user_id -/
  | isAdmin (groupId userId : Nat)
  /-- UPDATE is_admin WHERE group_id AND user_id -/
  | setAdmin (groupId userId : Nat) (isAdmin : Bool)

inductive GroupMessageStmt
  /-- INSERT INTO group_messages -/
  | insert (groupId senderId : Nat) (mediaType : MediaType) (content mediaUrl extra : String)
      (status : MessageStatus) (now : Int)
  /-- SELECT the nine columns, created_at < before_time if that is positive,
      ORDER BY created_at DESC LIMIT -/
  | history (groupId : Nat) (beforeTime limit : Int)
  /-- SELECT sender_id, group_id WHERE message_id -/
  | senderAndGroup (messageId : Nat)
  /-- SELECT sender_id, group_id, created_at WHERE message_id -/
  | senderGroupAndTime (messageId : Nat)
  /-- UPDATE content = '[消息已撤回]', media_type = 0, media_url = '' WHERE message_id -/
  | recall (messageId : Nat)

inductive MediaFileStmt
  /-- INSERT INTO media_files (user_id, file_name, file_path, file_size, media_type, created_at) -/
  | insert (userId : Nat) (fileName filePath : String) (fileSize : Nat) (type : MediaType)
      (now : Int)
  /-- SELECT file_path, media_type WHERE file_id -/
  | byId (fileId : Nat)

inductive BotConversationStmt
  /-- INSERT INTO bot_conversations (.., char_count, created_at) -/
  | insert (userId : Nat) (conversationId role content : String) (charCount now : Int)
  /-- SELECT role, content WHERE user_id AND conversation_id ORDER BY created_at ASC LIMIT -/
  | messages (userId : Nat) (conversationId : String) (limit : Int)
  /-- DELETE WHERE user_id AND conversation_id -/
  | delete (userId : Nat) (conversationId : String)
  /-- SELECT SUM(char_count) WHERE user_id AND conversation_id -/
  | charCount (userId : Nat) (conversationId : String)
  /-- SELECT DISTINCT conversation_id WHERE user_id ORDER BY created_at DESC -/
  | sessions (userId : Nat)

inductive UserKeyStmt
  /-- INSERT INTO user_keys .. ON DUPLICATE KEY UPDATE -/
  | upsert (userId : Nat) (publicKey : String) (now : Int)
  /-- SELECT public_key WHERE user_id -/
  | byUser (userId : Nat)
  /-- DELETE WHERE user_id -/
  | delete (userId : Nat)

inductive FcmTokenStmt
  /-- INSERT INTO user_fcm_tokens .. ON DUPLICATE KEY UPDATE -/
  | upsert (userId : Nat) (fcmToken : String) (now : Int)
  /-- SELECT fcm_token WHERE user_id -/
  | byUser (userId : Nat)
  /-- DELETE WHERE user_id -/
  | delete (userId : Nat)

inductive FavoriteStmt
  /-- INSERT INTO favorites .. ON DUPLICATE KEY UPDATE content -/
  | upsert (userId messageId : Nat) (messageType : String) (senderId : Nat) (content : String)
      (mediaType : MediaType) (mediaUrl : String) (now : Int)
  /-- DELETE WHERE user_id AND message_id AND message_type -/
  | delete (userId messageId : Nat) (messageType : String)
  /-- SELECT ten columns FROM favorites LEFT JOIN users WHERE f.user_id
      ORDER BY f.created_at DESC LIMIT OFFSET -/
  | ofUser (userId : Nat) (limit offset : Int)
  /-- SELECT COUNT(*) WHERE user_id AND message_id AND message_type -/
  | count (userId messageId : Nat) (messageType : String)

inductive Stmt
  /-- CREATE TABLE IF NOT EXISTS -/
  | createTable (t : Table)
  | users (s : UserStmt)
  | friends (s : FriendStmt)
  | privateMessages (s : PrivateMessageStmt)
  | groups (s : GroupStmt)
  | groupMembers (s : GroupMemberStmt)
  | groupMessages (s : GroupMessageStmt)
  | mediaFiles (s : MediaFileStmt)
  | botConversations (s : BotConversationStmt)
  | userKeys (s : UserKeyStmt)
  | fcmTokens (s : FcmTokenStmt)
  | favorites (s : FavoriteStmt)

/-- The statement is a SELECT: it leaves a result set to be stored. -/
def Stmt.isSelect : Stmt → Bool
  | .users (.byId _) | .users (.byUsername _) | .users (.password _) | .users (.verify _ _)
  | .users (.search _ _) => true
  | .friends (.listAccepted _) | .friends (.listRequests _) | .friends (.countAccepted _ _) => true
  | .privateMessages (.history _ _ _ _) | .privateMessages (.countUnread _ _)
  | .privateMessages (.senderAndGroup _) | .privateMessages (.senderAndTime _) => true
  | .groups (.byId _) | .groups (.ofUser _) | .groups (.owner _) => true
  | .groupMembers (.ofGroup _) | .groupMembers (.count _ _) | .groupMembers (.isAdmin _ _) => true
  | .groupMessages (.history _ _ _) | .groupMessages (.senderAndGroup _)
  | .groupMessages (.senderGroupAndTime _) => true
  | .mediaFiles (.byId _) => true
  | .botConversations (.messages _ _ _) | .botConversations (.charCount _ _)
  | .botConversations (.sessions _) => true
  | .userKeys (.byUser _) => true
  | .fcmTokens (.byUser _) => true
  | .favorites (.ofUser _ _ _) | .favorites (.count _ _ _) => true
  | _ => false

end ChatApp.Database
