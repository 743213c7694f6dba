/-
  The lists that `ChatService` loads. Its handlers look for the list in the member `data` of the
  response, and that of a history also asks for `code` 0; the gateway has the list in the response
  itself and sends no `code`. So the handlers return at once, and what the client shows stays as it
  was (`handle_response`).

  A handler that throws leaves what it has changed so far.
-/
import ChatApp.Client.MessageDatabase
import ChatApp.Gateway.Responses

namespace ChatApp.Client

open ChatApp.Gateway.Responses ChatApp.Protocol

/-! ## Models -/

/-- `as int`, which throws for null. -/
def requireInt (json : Option Json) : Option Int := if isNull json then none else asInt json

/-- `as String` -/
def requireString (json : Option Json) : Option String :=
  if isNull json then none else asString json

/-- `as List<dynamic>?`; the outer `none` is an exception. -/
def asList : Option Json → Option (Option (List Json))
  | none => some none
  | some .null => some none
  | some (.array xs) => some (some xs)
  | some _ => none

/-- `as Map<String, dynamic>` -/
def asMap : Option Json → Option Json
  | some (.object members) => some (.object members)
  | _ => none

/-- `as int` on an item of a list -/
def itemInt (item : Json) : Option Int := requireInt (some item)

structure User where
  userId : Int
  username : String
  nickname : String
  avatarUrl : String
  signature : String
  onlineStatus : Int
  createdAt : Int
  updatedAt : Int

/-- `_$UserFromJson` -/
def User.fromJson (json : Json) : Option User := do
  let userId ← requireInt (json.find? "user_id")
  let username ← requireString (json.find? "username")
  let nickname ← requireString (json.find? "nickname")
  let avatarUrl ← asString (json.find? "avatar_url")
  let signature ← asString (json.find? "signature")
  let onlineStatus ← asInt (json.find? "online_status")
  let createdAt ← asInt (json.find? "created_at")
  let updatedAt ← asInt (json.find? "updated_at")
  return ⟨userId, username, nickname, avatarUrl, signature, onlineStatus, createdAt, updatedAt⟩

structure FriendRelation where
  userId : Int
  friendId : Int
  remark : String
  status : Int
  createdAt : Int
  updatedAt : Int

/-- `_$FriendRelationFromJson` -/
def FriendRelation.fromJson (json : Json) : Option FriendRelation := do
  let userId ← requireInt (json.find? "user_id")
  let friendId ← requireInt (json.find? "friend_id")
  let remark ← asString (json.find? "remark")
  let status ← asInt (json.find? "status")
  let createdAt ← asInt (json.find? "created_at")
  let updatedAt ← asInt (json.find? "updated_at")
  return ⟨userId, friendId, remark, status, createdAt, updatedAt⟩

structure Friend where
  user : User
  relation : FriendRelation

/-- `_$FriendFromJson` -/
def Friend.fromJson (json : Json) : Option Friend := do
  let user ← User.fromJson (← asMap (json.find? "user"))
  let relation ← FriendRelation.fromJson (← asMap (json.find? "relation"))
  return ⟨user, relation⟩

structure Group where
  groupId : Int
  groupName : String
  avatarUrl : String
  description : String
  ownerId : Int
  admins : List Int
  members : List Int
  createdAt : Int
  updatedAt : Int

/-- `_$GroupFromJson` -/
def Group.fromJson (json : Json) : Option Group := do
  let groupId ← requireInt (json.find? "group_id")
  let groupName ← requireString (json.find? "group_name")
  let avatarUrl ← asString (json.find? "avatar_url")
  let description ← asString (json.find? "description")
  let ownerId ← asInt (json.find? "owner_id")
  let admins ← ((← asList (json.find? "admins")).getD []).mapM itemInt
  let members ← ((← asList (json.find? "members")).getD []).mapM itemInt
  let createdAt ← asInt (json.find? "created_at")
  let updatedAt ← asInt (json.find? "updated_at")
  return ⟨groupId, groupName, avatarUrl, description, ownerId, admins, members, createdAt,
    updatedAt⟩

/-! ## Handlers -/

/-- What the handlers of the lists change. -/
structure ChatService where
  currentUserId : Int
  friends : List Friend
  friendRequests : List Friend
  users : Int → Option User
  groups : Int → Option Group
  messages : Int → Option (List Message)
  /-- the calls of `_messageDb.saveMessages` -/
  saves : List Save

namespace ChatService

def addFriends (c : ChatService) : List Json → ChatService
  | [] => c
  | item :: items =>
    match (asMap (some item)).bind Friend.fromJson with
    | none => c
    | some friend =>
      { c with
        friends := c.friends ++ [friend]
        users := Function.update c.users friend.user.userId (some friend.user) }.addFriends items

/-- `_handleFriendListResponse` -/
def handleFriendListResponse (c : ChatService) (body : Json) : ChatService :=
  match asMap (body.find? "data") with
  | none => c
  | some data =>
    match asList (data.find? "friends") with
    | none => c
    | some friendsJson => { c with friends := [] }.addFriends (friendsJson.getD [])

def addFriendRequests (c : ChatService) : List Json → ChatService
  | [] => c
  | item :: items =>
    match (asMap (some item)).bind Friend.fromJson with
    | none => c
    | some friend =>
      { c with friendRequests := c.friendRequests ++ [friend] }.addFriendRequests items

/-- `_handleFriendRequestsResponse` -/
def handleFriendRequestsResponse (c : ChatService) (body : Json) : ChatService :=
  match asMap (body.find? "data") with
  | none => c
  | some data =>
    match asList (data.find? "requests") with
    | none => c
    | some requestsJson => { c with friendRequests := [] }.addFriendRequests (requestsJson.getD [])

def addGroups (c : ChatService) : List Json → ChatService
  | [] => c
  | item :: items =>
    match (asMap (some item)).bind Group.fromJson with
    | none => c
    | some group =>
      { c with groups := Function.update c.groups group.groupId (some group) }.addGroups items

/-- `_handleGroupListResponse` -/
def handleGroupListResponse (c : ChatService) (body : Json) : ChatService :=
  match asMap (body.find? "data") with
  | none => c
  | some data =>
    match asList (data.find? "groups") with
    | none => c
    | some groupsJson => c.addGroups (groupsJson.getD [])

/-- The other side of a private message. -/
def otherSide (c : ChatService) (message : Message) : Int :=
  if message.senderId = c.currentUserId then message.receiverId else message.senderId

def insertMessage (c : ChatService) (message : Message) : ChatService :=
  let old := (c.messages (c.otherSide message)).getD []
  let new := if old.any (·.messageId = message.messageId) then old else message :: old
  { c with messages := Function.update c.messages (c.otherSide message) (some new) }

/-- The loop, with `serverMessages` and `peerId`, and the saving after it. -/
def addHistory (c : ChatService) (serverMessages : List Message) (peerId : Int) :
    List Json → ChatService
  | [] =>
    if 0 < peerId ∧ serverMessages ≠ [] then
      { c with saves := c.saves ++ [.batch peerId false serverMessages] }
    else c
  | item :: items =>
    match (asMap (some item)).bind Message.fromJson with
    | none => c
    | some message =>
      (c.insertMessage message).addHistory (serverMessages ++ [message]) (c.otherSide message) items

/-- `code == 0` for a `code` of any type -/
def isZero : Json → Bool
  | .number n => n = 0
  | .float mantissa _ => mantissa = 0
  | _ => false

/-- `_handlePrivateHistoryResponse`; a missing `code` is -1. -/
def handlePrivateHistoryResponse (c : ChatService) (body : Json) : ChatService :=
  if isZero ((body.find? "code").getD (.number (-1))) then
    match asMap (body.find? "data") with
    | none => c
    | some data =>
      match asList (data.find? "messages") with
      | none => c
      | some messagesJson => c.addHistory [] 0 (messagesJson.getD [])
  else c

end ChatService

/-! ## Responses -/

/-- A list that the gateway sends. -/
inductive Response
  | friendList (friends : List (Database.UserInfo × Database.FriendRelation))
  | friendRequests (requests : List (Database.UserInfo × Database.FriendRelation))
  | groupList (groups : List Database.GroupInfo)
  | privateHistory (peerId : Nat) (messages : List Database.Message)

def Response.json : Response → Json
  | friendList friends => friendListResponse friends
  | friendRequests requests => friendRequestsResponse requests
  | groupList groups => groupListResponse groups
  | privateHistory peerId messages => privateHistoryResponse peerId messages

namespace ChatService

/-- `_handleWsMessage` for the responses. -/
def handle (c : ChatService) : Response → ChatService
  | .friendList friends => c.handleFriendListResponse (Response.friendList friends).json
  | .friendRequests requests =>
    c.handleFriendRequestsResponse (Response.friendRequests requests).json
  | .groupList groups => c.handleGroupListResponse (Response.groupList groups).json
  | .privateHistory peerId messages =>
    c.handlePrivateHistoryResponse (Response.privateHistory peerId messages).json

/-- The client has exactly the list. -/
def Shows (c : ChatService) : Response → Prop
  | .friendList friends =>
    c.friends.map (fun f => (f.user.userId, f.user.username, f.user.nickname)) =
      (friends.filter (·.2.status = .accepted)).map fun x =>
        ((x.1.userId : Int), x.1.username, x.1.nickname)
  | .friendRequests requests =>
    c.friendRequests.map (fun f =>
        (f.user.userId, f.user.username, f.user.nickname, f.relation.createdAt)) =
      (requests.filter (·.2.status = .pending)).map fun x =>
        ((x.1.userId : Int), x.1.username, x.1.nickname, x.2.createdAt)
  | .groupList groups =>
    (∀ g ∈ groups, ∃ x, c.groups g.groupId = some x ∧ x.groupId = g.groupId ∧
      x.groupName = g.groupName ∧ x.ownerId = g.ownerId) ∧
    ∀ id x, c.groups id = some x → ∃ g ∈ groups, (g.groupId : Int) = id
  | .privateHistory peerId messages =>
    (((c.messages peerId).getD []).map fun m =>
        (m.messageId, m.senderId, m.receiverId, m.content, m.mediaType, m.createdAt)).Perm
      (messages.map fun m => ((m.messageId : Int), (m.senderId : Int), (m.receiverId : Int),
        m.content, (m.mediaType.code.toNat : Int), m.createdAt))

end ChatService

/-- No response has what its handler asks for first. -/
theorem handle_response (c : ChatService) (r : Response) : c.handle r = c := by
  cases r <;> rfl

/-- A client has exactly the list after the response if and only if it has had it before. -/
theorem shows_handle_iff (c : ChatService) (r : Response) : (c.handle r).Shows r ↔ c.Shows r := by
  rw [handle_response]

/-- A client that has not loaded anything. -/
def ChatService.init (currentUserId : Int) : ChatService :=
  ⟨currentUserId, [], [], fun _ => none, fun _ => none, fun _ => none, []⟩

/-- The one friend of user 1 does not appear. -/
theorem friend_not_shown : ¬ ∀ c r, (ChatService.handle c r).Shows r := by
  intro h
  have hshown := h (.init 1) (.friendList [(⟨2, "bob", "Bob", "", "", .online, 0, 0⟩,
    ⟨1, 2, "", .accepted, 0, 0⟩)])
  rw [handle_response] at hshown
  cases hshown

end ChatApp.Client
