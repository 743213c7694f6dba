/-
  The frames a session sends: `create_error`, `create_response`, and the `to_json` of the records
  they carry. A frame is kept as its type, sequence and body; its bytes are `serialize`.
-/
import ChatApp.Database.Methods
import ChatApp.Protocol.Json
import ChatApp.Protocol.MessageType

namespace ChatApp.Protocol

open ChatApp.Database

structure Frame where
  type : MessageType
  sequence : UInt32
  body : Json

/-- `create_error` -/
def createError (sequence : UInt32) (code : Int) (message : String) : Frame :=
  ⟨.error, sequence, .object [("code", .number code), ("message", .string message)]⟩

/-- `create_response` -/
def createResponse (type : MessageType) (sequence : UInt32) (data : Json) : Frame :=
  ⟨type, sequence, .object [("code", .number 0), ("message", .string "success"), ("data", data)]⟩

def userJson (user : UserInfo) : Json := .object [
  ("user_id", .number user.userId),
  ("username", .string user.username),
  ("nickname", .string user.nickname),
  ("avatar_url", .string user.avatarUrl),
  ("signature", .string user.signature),
  ("online_status", .number user.onlineStatus.code),
  ("created_at", .number user.createdAt),
  ("updated_at", .number user.updatedAt)]

def messageJson (message : Message) : Json := .object [
  ("message_id", .number message.messageId),
  ("sender_id", .number message.senderId),
  ("receiver_id", .number message.receiverId),
  ("group_id", .number message.groupId),
  ("media_type", .number message.mediaType.code.toNat),
  ("content", .string message.content),
  ("media_url", .string message.mediaUrl),
  ("extra", .string message.extra),
  ("status", .number message.status.code),
  ("created_at", .number message.createdAt)]

def groupJson (group : GroupInfo) : Json := .object [
  ("group_id", .number group.groupId),
  ("group_name", .string group.groupName),
  ("avatar_url", .string group.avatarUrl),
  ("description", .string group.description),
  ("owner_id", .number group.ownerId),
  ("admins", .array (group.admins.map fun id => .number id)),
  ("members", .array (group.members.map fun id => .number id)),
  ("created_at", .number group.createdAt),
  ("updated_at", .number group.updatedAt)]

def relationJson (relation : FriendRelation) : Json := .object [
  ("user_id", .number relation.userId),
  ("friend_id", .number relation.friendId),
  ("remark", .string relation.remark),
  ("status", .number relation.status.code),
  ("created_at", .number relation.createdAt),
  ("updated_at", .number relation.updatedAt)]

def favoriteJson (favorite : Favorite) : Json := .object [
  ("message_id", .number favorite.messageId),
  ("message_type", .string favorite.messageType),
  ("sender_id", .number favorite.senderId),
  ("content", .string favorite.content),
  ("media_type", .number favorite.mediaType),
  ("media_url", .string favorite.mediaUrl),
  ("created_at", .number favorite.createdAt),
  ("sender_username", .string favorite.senderUsername),
  ("sender_nickname", .string favorite.senderNickname),
  ("sender_avatar", .string favorite.senderAvatar)]

/-- `json response = {{name, list}}` for a list of records -/
def listJson {α : Type} (name : String) (json : α → Json) (xs : List α) : Json :=
  .object [(name, .array (xs.map json))]

end ChatApp.Protocol
