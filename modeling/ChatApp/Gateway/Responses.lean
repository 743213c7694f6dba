/-
  The lists that the gateway sends: `handle_friend_list`, `handle_friend_requests`,
  `handle_group_list` and `handle_private_history` after they have asked the managers.
-/
import ChatApp.Database.Types
import ChatApp.Protocol.Json

namespace ChatApp.Gateway.Responses

open ChatApp.Database ChatApp.Protocol

def friendJson (user : UserInfo) (relation : FriendRelation) : Json := .object [
  ("user_id", .number user.userId),
  ("username", .string user.username),
  ("nickname", .string user.nickname),
  ("avatar_url", .string user.avatarUrl),
  ("remark", .string relation.remark),
  ("online_status", .number user.onlineStatus.code)]

/-- Of what `get_friend_list` has returned. -/
def friendListResponse (friends : List (UserInfo × FriendRelation)) : Json := .object [
  ("type", .string "friendListResponse"),
  ("friends", .array ((friends.filter (·.2.status = .accepted)).map fun x => friendJson x.1 x.2))]

def requestJson (user : UserInfo) (relation : FriendRelation) : Json := .object [
  ("from_user_id", .number user.userId),
  ("from_username", .string user.username),
  ("from_nickname", .string user.nickname),
  ("from_avatar", .string user.avatarUrl),
  ("created_at", .number relation.createdAt)]

/-- Of what `get_friend_requests` has returned. -/
def friendRequestsResponse (requests : List (UserInfo × FriendRelation)) : Json := .object [
  ("type", .string "friendRequestsResponse"),
  ("requests", .array ((requests.filter (·.2.status = .pending)).map fun x =>
    requestJson x.1 x.2))]

def groupJson (group : GroupInfo) : Json := .object [
  ("group_id", .number group.groupId),
  ("group_name", .string group.groupName),
  ("avatar_url", .string group.avatarUrl),
  ("description", .string group.description),
  ("owner_id", .number group.ownerId),
  ("member_count", .number (toInt32 group.members.length))]

/-- Of what `get_user_groups` has returned. -/
def groupListResponse (groups : List GroupInfo) : Json := .object [
  ("type", .string "groupListResponse"),
  ("groups", .array (groups.map groupJson))]

def messageJson (message : Message) : Json := .object [
  ("message_id", .number message.messageId),
  ("sender_id", .number message.senderId),
  ("receiver_id", .number message.receiverId),
  ("content", .string message.content),
  ("message_type", .number message.mediaType.code.toNat),
  ("media_url", .string message.mediaUrl),
  ("created_at", .number message.createdAt)]

/-- Of what `get_private_history` has returned. -/
def privateHistoryResponse (peerId : Nat) (messages : List Message) : Json := .object [
  ("type", .string "privateHistoryResponse"),
  ("peer_id", .number peerId),
  ("messages", .array (messages.map messageJson))]

end ChatApp.Gateway.Responses
