/-
  The requests of `ChatService` for friends and groups, from the method to the manager that the
  gateway calls. Of the twelve, `friendAdd` is no type that the gateway knows, and four others lack
  a member that its handler indexes (`from_user_id`, `name`, `user_ids`). The rest are served, if
  their ids are unsigned (`served_iff`).
-/
import ChatApp.Client.PrivateMessages

namespace ChatApp.Client

open ChatApp.Gateway.Messages ChatApp.Protocol

/-- A call of a method of `ChatService`. -/
inductive Request
  | addFriend (friendId : Int)
  | acceptFriend (friendId : Int)
  | rejectFriend (friendId : Int)
  | removeFriend (friendId : Int)
  | createGroup (groupName description : String)
  | inviteGroupMembers (groupId : Int) (memberIds : List Int)
  | setGroupAdmin (groupId userId : Int) (isAdmin : Bool)
  | transferGroupOwner (groupId newOwnerId : Int)
  | removeGroupMember (groupId userId : Int)
  | leaveGroup (groupId : Int)
  | dismissGroup (groupId : Int)
  | getGroupMembers (groupId : Int)

/-- `inviteGroupMembers` for one of the members. -/
def inviteGroupMember (groupId memberId : Int) : Json :=
  send "inviteGroupMembers" [("group_id", .number groupId), ("user_id", .number memberId)]

/-- What the method sends. -/
def Request.messages : Request → List Json
  | .addFriend friendId => [send "friendAdd" [("friend_id", .number friendId)]]
  | .acceptFriend friendId => [send "friendAccept" [("friend_id", .number friendId)]]
  | .rejectFriend friendId => [send "friendReject" [("friend_id", .number friendId)]]
  | .removeFriend friendId =>
    [send "friendRemove" [("friend_id", .number friendId)], send "friendList" []]
  | .createGroup groupName description =>
    [send "createGroup" [("group_name", .string groupName), ("description", .string description)]]
  | .inviteGroupMembers groupId memberIds =>
    memberIds.map (inviteGroupMember groupId) ++ [send "groupList" []]
  | .setGroupAdmin groupId userId isAdmin =>
    [send "groupSetAdmin" [("group_id", .number groupId), ("user_id", .number userId),
      ("is_admin", .bool isAdmin)]]
  | .transferGroupOwner groupId newOwnerId =>
    [send "groupTransferOwner" [("group_id", .number groupId),
      ("new_owner_id", .number newOwnerId)]]
  | .removeGroupMember groupId userId =>
    [send "groupKick" [("group_id", .number groupId), ("user_id", .number userId)]]
  | .leaveGroup groupId => [send "groupQuit" [("group_id", .number groupId)]]
  | .dismissGroup groupId => [send "groupDismiss" [("group_id", .number groupId)]]
  | .getGroupMembers groupId => [send "groupMembers" [("group_id", .number groupId)]]

/-- A call of `FriendManager` or `GroupManager`. -/
inductive ManagerCall
  | addFriendRequest (fromId toId : Int)
  | acceptFriendRequest (userId fromUserId : Int)
  | rejectFriendRequest (userId fromUserId : Int)
  | removeFriend (userId friendId : Int)
  | getFriendList (userId : Int)
  | createGroup (ownerId : Int) (name description : String)
  | joinGroup (groupId userId : Int)
  | setAdmin (operatorId groupId userId : Int) (isAdmin : Bool)
  | transferOwner (ownerId groupId newOwnerId : Int)
  | removeMember (operatorId groupId userId : Int)
  | leaveGroup (groupId userId : Int)
  | dismissGroup (ownerId groupId : Int)
  | getGroupInfo (groupId : Int)
  | getUserGroups (userId : Int)

/-- What the method is for, and the lists that it loads again. -/
def Request.calls (userId : Nat) : Request → List ManagerCall
  | .addFriend friendId => [.addFriendRequest userId friendId]
  | .acceptFriend friendId => [.acceptFriendRequest userId friendId]
  | .rejectFriend friendId => [.rejectFriendRequest userId friendId]
  | .removeFriend friendId => [.removeFriend userId friendId, .getFriendList userId]
  | .createGroup groupName description => [.createGroup userId groupName description]
  | .inviteGroupMembers groupId memberIds =>
    memberIds.map (.joinGroup groupId) ++ [.getUserGroups userId]
  | .setGroupAdmin groupId member isAdmin => [.setAdmin userId groupId member isAdmin]
  | .transferGroupOwner groupId newOwnerId => [.transferOwner userId groupId newOwnerId]
  | .removeGroupMember groupId member => [.removeMember userId groupId member]
  | .leaveGroup groupId => [.leaveGroup groupId userId]
  | .dismissGroup groupId => [.dismissGroup userId groupId]
  | .getGroupMembers groupId => [.getGroupInfo groupId]

/-- A handler of the gateway, with the values that it has read. -/
inductive Handler
  | friendRequest (toUserId : Nat) (message : String)
  | friendAccept (fromUserId : Nat)
  | friendReject (fromUserId : Nat)
  | friendRemove (friendId : Nat)
  | friendList
  | createGroup (name description : String)
  | inviteGroupMembers (groupId : Nat) (userIds : List Nat)
  | groupSetAdmin (groupId userId : Nat) (isAdmin : Bool)
  | groupTransferOwner (groupId newOwnerId : Nat)
  | groupKick (groupId userId : Nat)
  | groupQuit (groupId : Nat)
  | groupDismiss (groupId : Nat)
  | groupMembers (groupId : Nat)
  | groupList
  deriving DecidableEq

namespace Handler

def body (bodies : Bodies) : Handler → Body
  | friendRequest toUserId message => bodies.friendRequest toUserId message
  | friendAccept fromUserId => bodies.friendAccept fromUserId
  | friendReject fromUserId => bodies.friendReject fromUserId
  | friendRemove friendId => bodies.friendRemove friendId
  | friendList => bodies.friendList
  | createGroup name description => bodies.createGroup name description
  | inviteGroupMembers groupId userIds => bodies.inviteGroupMembers groupId userIds
  | groupSetAdmin groupId userId isAdmin => bodies.groupSetAdmin groupId userId isAdmin
  | groupTransferOwner groupId newOwnerId => bodies.groupTransferOwner groupId newOwnerId
  | groupKick groupId userId => bodies.groupKick groupId userId
  | groupQuit groupId => bodies.groupQuit groupId
  | groupDismiss groupId => bodies.groupDismiss groupId
  | groupMembers groupId => bodies.groupMembers groupId
  | groupList => bodies.groupList

/-- The calls with which the handler of a user carries out the request. -/
def calls (userId : Nat) : Handler → List ManagerCall
  | friendRequest toUserId _ => [.addFriendRequest userId toUserId]
  | friendAccept fromUserId => [.acceptFriendRequest userId fromUserId]
  | friendReject fromUserId => [.rejectFriendRequest userId fromUserId]
  | friendRemove friendId => [.removeFriend userId friendId]
  | friendList => [.getFriendList userId]
  | createGroup name description => [.createGroup userId name description]
  | inviteGroupMembers groupId userIds => userIds.map fun userId => .joinGroup groupId userId
  | groupSetAdmin groupId member isAdmin => [.setAdmin userId groupId member isAdmin]
  | groupTransferOwner groupId newOwnerId => [.transferOwner userId groupId newOwnerId]
  | groupKick groupId member => [.removeMember userId groupId member]
  | groupQuit groupId => [.leaveGroup groupId userId]
  | groupDismiss groupId => [.dismissGroup userId groupId]
  | groupMembers groupId => [.getGroupInfo groupId]
  | groupList => [.getUserGroups userId]

end Handler

/-- On the connection of a user who is logged in, the message ends in the handler, and no member is
    missing on the way. -/
def Reaches (msg : Json) (handler : Handler) : Prop :=
  ∀ bodies, ∃ applied, dispatch bodies true msg =
      { (handler.body bodies).run with applied := applied } ∧
    ∀ p ∈ applied, p.1.isObject = true ∧ p.1.contains p.2 = true

/-- The messages reach handlers that call the managers with the arguments of the method. -/
def Request.Served (userId : Nat) (r : Request) : Prop :=
  ∃ handlers, List.Forall₂ Reaches r.messages handlers ∧
    handlers.flatMap (·.calls userId) = r.calls userId

/-- The ids of the gateway are `uint64_t`. -/
def IsId (n : Int) : Prop := 0 ≤ n ∧ n < 2 ^ 64

def Request.Known : Request → Prop
  | .addFriend _ | .acceptFriend _ | .rejectFriend _ | .createGroup .. => False
  | .removeFriend friendId => IsId friendId
  | .inviteGroupMembers _ memberIds => memberIds = []
  | .setGroupAdmin groupId userId _ => IsId groupId ∧ IsId userId
  | .transferGroupOwner groupId newOwnerId => IsId groupId ∧ IsId newOwnerId
  | .removeGroupMember groupId userId => IsId groupId ∧ IsId userId
  | .leaveGroup groupId | .dismissGroup groupId | .getGroupMembers groupId => IsId groupId

variable {msg : Json} {handler other : Handler} {userId : Nat} {n m : Int}

/-! ## Which handler is reached -/

theorem cast_toUInt64 : ((toUInt64 n : Nat) : Int) = n ↔ IsId n := by
  unfold toUInt64 IsId
  omega

/-- A gateway that answers in one handler only, and only for one choice of values. -/
def answering (handler : Handler) : Bodies :=
  let answer := fun other : Handler => Body.mk (if other = handler then ["here"] else []) none
  { (default : Bodies) with
    friendRequest := fun toUserId message => answer (.friendRequest toUserId message)
    friendAccept := fun fromUserId => answer (.friendAccept fromUserId)
    friendReject := fun fromUserId => answer (.friendReject fromUserId)
    friendRemove := fun friendId => answer (.friendRemove friendId)
    friendList := answer .friendList
    createGroup := fun name description => answer (.createGroup name description)
    inviteGroupMembers := fun groupId userIds => answer (.inviteGroupMembers groupId userIds)
    groupSetAdmin := fun groupId userId isAdmin => answer (.groupSetAdmin groupId userId isAdmin)
    groupTransferOwner := fun groupId newOwnerId => answer (.groupTransferOwner groupId newOwnerId)
    groupKick := fun groupId userId => answer (.groupKick groupId userId)
    groupQuit := fun groupId => answer (.groupQuit groupId)
    groupDismiss := fun groupId => answer (.groupDismiss groupId)
    groupMembers := fun groupId => answer (.groupMembers groupId)
    groupList := answer .groupList }

theorem body_answering :
    other.body (answering handler) = ⟨if other = handler then ["here"] else [], none⟩ := by
  cases other <;> rfl

/-- A message reaches one handler, with one choice of values. -/
theorem reaches_unique (h : Reaches msg handler) (h' : Reaches msg other) : other = handler := by
  obtain ⟨applied, heq, -⟩ := h (answering handler)
  obtain ⟨applied', heq', -⟩ := h' (answering handler)
  have hsent := congrArg Run.sent (heq.symm.trans heq')
  simp only [Body.run, body_answering, if_true] at hsent
  by_contra hne
  simp [hne] at hsent

/-- Without the member that is indexed, the gateway does nothing that is defined. -/
theorem not_reaches_undefined (h : (dispatch default true msg).result = .undefined) :
    ¬ Reaches msg handler := by
  intro hreaches
  obtain ⟨applied, heq, -⟩ := hreaches default
  have hbody : (handler.body default).run.result = .value () := by cases handler <;> rfl
  have hresult := h.symm.trans (congrArg Run.result heq)
  rw [hbody] at hresult
  cases hresult

/-- A message of an unknown type is answered by nobody. -/
theorem not_reaches_unknown (h : ∀ bodies, (dispatch bodies true msg).sent = []) :
    ¬ Reaches msg handler := by
  intro hreaches
  obtain ⟨applied, heq, -⟩ := hreaches (answering handler)
  have hsent := (h _).symm.trans (congrArg Run.sent heq)
  simp [Body.run, body_answering] at hsent

theorem not_served {r : Request} {messages : List Json} (hmessages : r.messages = msg :: messages)
    (h : ∀ handler, ¬ Reaches msg handler) : ¬ r.Served userId := by
  rintro ⟨handlers, hreaches, -⟩
  rw [hmessages] at hreaches
  cases hreaches with
  | cons hfirst _ => exact h _ hfirst

/-- Once it is known which handlers are reached, the calls decide. -/
theorem served_of_reaches {r : Request} {handlers : List Handler}
    (h : List.Forall₂ Reaches r.messages handlers) :
    r.Served userId ↔ handlers.flatMap (·.calls userId) = r.calls userId := by
  refine ⟨fun ⟨others, hreaches, hcalls⟩ => ?_, fun hcalls => ⟨handlers, h, hcalls⟩⟩
  have hunique : Relator.RightUnique Reaches := fun _ _ _ h h' => reaches_unique h' h
  obtain rfl := hunique.forall₂ h hreaches
  exact hcalls

theorem served_one {r : Request} (hmessages : r.messages = [msg]) (h : Reaches msg handler) :
    r.Served userId ↔ handler.calls userId = r.calls userId := by
  have hreaches : List.Forall₂ Reaches r.messages [handler] := by
    rw [hmessages]
    exact .cons h .nil
  rw [served_of_reaches hreaches, List.flatMap_singleton]

/-- The members that are indexed are there. -/
theorem reaches_of
    (h : ∀ bodies, dispatch bodies true msg =
      { (handler.body bodies).run with applied := (dispatch default true msg).applied })
    (hthere : (dispatch default true msg).applied.all (fun p => p.1.isObject && p.1.contains p.2) =
      true) : Reaches msg handler :=
  fun bodies => ⟨_, h bodies, by simpa using hthere⟩

theorem reaches_friendList : Reaches (send "friendList" []) .friendList :=
  reaches_of (fun _ => rfl) rfl

theorem reaches_groupList : Reaches (send "groupList" []) .groupList :=
  reaches_of (fun _ => rfl) rfl

theorem reaches_friendRemove : Reaches (send "friendRemove" [("friend_id", .number n)])
    (.friendRemove (toUInt64 n)) := reaches_of (fun _ => rfl) rfl

theorem reaches_groupSetAdmin {isAdmin : Bool} :
    Reaches (send "groupSetAdmin" [("group_id", .number n), ("user_id", .number m),
      ("is_admin", .bool isAdmin)]) (.groupSetAdmin (toUInt64 n) (toUInt64 m) isAdmin) :=
  reaches_of (fun _ => rfl) rfl

theorem reaches_groupTransferOwner :
    Reaches (send "groupTransferOwner" [("group_id", .number n), ("new_owner_id", .number m)])
      (.groupTransferOwner (toUInt64 n) (toUInt64 m)) := reaches_of (fun _ => rfl) rfl

theorem reaches_groupKick :
    Reaches (send "groupKick" [("group_id", .number n), ("user_id", .number m)])
      (.groupKick (toUInt64 n) (toUInt64 m)) := reaches_of (fun _ => rfl) rfl

theorem reaches_groupQuit : Reaches (send "groupQuit" [("group_id", .number n)])
    (.groupQuit (toUInt64 n)) := reaches_of (fun _ => rfl) rfl

theorem reaches_groupDismiss : Reaches (send "groupDismiss" [("group_id", .number n)])
    (.groupDismiss (toUInt64 n)) := reaches_of (fun _ => rfl) rfl

theorem reaches_groupMembers : Reaches (send "groupMembers" [("group_id", .number n)])
    (.groupMembers (toUInt64 n)) := reaches_of (fun _ => rfl) rfl

/-! ## The requests -/

/-- Nobody is invited only if there is nobody to invite: the gateway wants `user_ids`. -/
theorem served_inviteGroupMembers {groupId : Int} {memberIds : List Int} :
    (Request.inviteGroupMembers groupId memberIds).Served userId ↔ memberIds = [] := by
  cases memberIds with
  | nil => exact iff_of_true ((served_one rfl reaches_groupList).2 rfl) rfl
  | cons memberId memberIds =>
    refine iff_of_false (not_served rfl fun _ => not_reaches_undefined rfl) ?_
    exact List.cons_ne_nil memberId memberIds

/-- A request is served if and only if its names are those of the gateway and its ids are
    unsigned. -/
theorem served_iff (userId : Nat) (r : Request) : r.Served userId ↔ r.Known := by
  cases r with
  | addFriend friendId =>
    exact iff_of_false (not_served rfl fun _ => not_reaches_unknown fun _ => rfl) not_false
  | acceptFriend friendId =>
    exact iff_of_false (not_served rfl fun _ => not_reaches_undefined rfl) not_false
  | rejectFriend friendId =>
    exact iff_of_false (not_served rfl fun _ => not_reaches_undefined rfl) not_false
  | removeFriend friendId =>
    have hreaches : List.Forall₂ Reaches (Request.removeFriend friendId).messages
        [.friendRemove (toUInt64 friendId), .friendList] :=
      .cons reaches_friendRemove (.cons reaches_friendList .nil)
    rw [served_of_reaches hreaches]
    simp [Handler.calls, Request.calls, Request.Known, cast_toUInt64]
  | createGroup groupName description =>
    exact iff_of_false (not_served rfl fun _ => not_reaches_undefined rfl) not_false
  | inviteGroupMembers groupId memberIds => exact served_inviteGroupMembers
  | setGroupAdmin groupId member isAdmin =>
    rw [served_one rfl reaches_groupSetAdmin]
    simp [Handler.calls, Request.calls, Request.Known, cast_toUInt64]
  | transferGroupOwner groupId newOwnerId =>
    rw [served_one rfl reaches_groupTransferOwner]
    simp [Handler.calls, Request.calls, Request.Known, cast_toUInt64]
  | removeGroupMember groupId member =>
    rw [served_one rfl reaches_groupKick]
    simp [Handler.calls, Request.calls, Request.Known, cast_toUInt64]
  | leaveGroup groupId =>
    rw [served_one rfl reaches_groupQuit]
    simp [Handler.calls, Request.calls, Request.Known, cast_toUInt64]
  | dismissGroup groupId =>
    rw [served_one rfl reaches_groupDismiss]
    simp [Handler.calls, Request.calls, Request.Known, cast_toUInt64]
  | getGroupMembers groupId =>
    rw [served_one rfl reaches_groupMembers]
    simp [Handler.calls, Request.calls, Request.Known, cast_toUInt64]

/-- The gateway has no `friendAdd`. -/
theorem friendAdd_not_served : ¬ (Request.addFriend 2).Served 1 :=
  not_served rfl fun _ => not_reaches_unknown fun _ => rfl

end ChatApp.Client
