/-
  A request and its reply. One lemma for each handler says when it replies exactly once
  (`Replies`): the body is readable, no answer before the reply makes the handler stop, and
  nothing is pushed to the session itself under the sequence of the request. `one_reply` puts
  them together along the dispatch.
-/
import ChatApp.Session.Bodies
import ChatApp.Session.Operations

namespace ChatApp.Session

open ChatApp.Lib ChatApp.Lib.Prog ChatApp.Database ChatApp.Protocol

/-! ## What the handlers share -/

variable {w : Watch} {R : Prop} {body : Json}

theorem replies_authenticatedOnly {handler : SessionM Unit} (h : Replies w R handler) :
    Replies w (w.session.authenticated = true → R)
      (w.session.authenticatedOnly w.sequence handler) := by
  unfold Session.authenticatedOnly
  split
  next hauth => exact h.of_iff (by simp [hauth])
  next hauth => exact (replies_last rfl (.inr rfl)).of_iff (by simp [hauth])

theorem replies_sendError (code : Int) (message : String) :
    Replies w True (w.session.sendError w.sequence code message) :=
  replies_last rfl (.inr rfl)

theorem replies_respond {type : MessageType} (htype : w.response = type) (data : Json) :
    Replies w True (w.session.respond w.sequence type data) :=
  replies_last rfl (.inl htype.symm)

theorem replies_answer {α : Type} {type : MessageType} (htype : w.response = type)
    (r : Except String α) (code : Int) (data : α → Json) :
    Replies w True (w.session.answer w.sequence r code type data) := by
  cases r
  · exact replies_sendError _ _
  · exact replies_respond htype _

/-! ## Users -/

section
variable (hw : w.finds = false)
include hw

/-- A handler that reads, asks the database once and answers. -/
theorem replies_fetch {α : Type} {q : DbProg α} {f : α → SessionM Unit} (h : Steady q)
    (hf : ∀ a, Replies w R (f a)) : Replies w R (db q >>= f) :=
  replies_bind (prepares_db hw h) hf

theorem replies_register (htype : w.response = .registerResponse) (hh : w.hashes = true) :
    Replies w (w.session.Readable .register body) (w.session.handleRegister w.sequence body) := by
  refine .of_iff ?_ (replies_read fun username _ => replies_read fun password _ =>
    replies_read fun nickname _ => replies_ite (replies_sendError _ _) ?_)
  · simp
  · exact replies_bind (prepares_registerUser hw hh _ _ _) fun r => replies_answer htype _ _ _

theorem replies_login (htype : w.response = .loginResponse) (hh : w.hashes = false) :
    Replies w (w.session.Readable .login body) (w.session.handleLogin w.sequence body) := by
  refine .of_iff ?_ (replies_read fun username _ => replies_read fun password _ =>
    replies_ite (replies_sendError _ _) ?_)
  · simp
  refine replies_bind (prepares_login hw hh _ _) fun r => ?_
  cases r with
  | error message => exact replies_sendError _ _
  | ok userInfo =>
  have hset : ∀ c, w.replies c = false → (∀ a, w.halts c a = false) → (∀ a, w.echo c a = false) →
    Prepares w (request c) := fun _ hr hh he => prepares_request hr hh he
  refine replies_bind (hset _ rfl (fun _ => rfl) fun _ => rfl) fun _ => ?_
  refine replies_bind (hset _ rfl (fun _ => rfl) fun _ => rfl) fun _ => ?_
  refine replies_fetch hw (steady_locked (paired_execute rfl)) fun _ => ?_
  refine replies_bind (hset _ rfl (fun _ => rfl) fun _ => rfl) fun _ => ?_
  exact replies_respond htype _

theorem replies_logout (htype : w.response = .logoutResponse) :
    Replies w (w.session.Readable .logout body) (w.session.handleLogout w.sequence) := by
  refine .of_iff ?_ (replies_authenticatedOnly (replies_fetch hw
    (steady_locked (paired_execute rfl)) fun _ => replies_bind (prepares_request rfl
      (fun _ => rfl) fun _ => rfl) fun _ => replies_send rfl (.inl htype.symm)
        (tail_request rfl fun _ => rfl)))
  simp

theorem replies_userInfo (htype : w.response = .userInfoResponse) :
    Replies w (w.session.Readable .userInfo body) (w.session.handleUserInfo w.sequence body) := by
  refine .of_iff ?_ (replies_read fun userId _ => replies_ite (replies_sendError _ _)
    (replies_bind (prepares_getUserById hw _) fun found => ?_))
  · simp
  · cases found
    · exact replies_sendError _ _
    · exact replies_respond htype _

theorem replies_userSearch (htype : w.response = .userSearchResponse) :
    Replies w (w.session.Readable .userSearch body)
      (w.session.handleUserSearch w.sequence body) := by
  refine .of_iff ?_ (replies_authenticatedOnly (replies_read fun keyword _ =>
    replies_read fun limit _ => replies_fetch hw (steady_locked (paired_fetch rfl)) fun _ =>
      replies_respond htype _))
  simp

theorem replies_userUpdate (htype : w.response = .userUpdateResponse) :
    Replies w (w.session.Readable .userUpdate body)
      (w.session.handleUserUpdate w.sequence body) := by
  have hupdate (user : UserInfo) : Replies w (bodyReadable .userUpdate body = true) (do
      let nickname ← read (Session.updateField body "nickname" user.nickname)
      let avatarUrl ← read (Session.updateField body "avatar_url" user.avatarUrl)
      let signature ← read (Session.updateField body "signature" user.signature)
      let user := { user with nickname, avatarUrl, signature }
      if ← db (updateUser user) then
        w.session.respond w.sequence .userUpdateResponse (userJson user)
      else w.session.sendError w.sequence 500 "Failed to update user info") := by
    refine .of_iff ?_ (replies_read fun nickname _ => replies_read fun avatarUrl _ =>
      replies_read fun signature _ => replies_fetch hw (steady_locked (paired_stamped fun _ =>
        paired_execute rfl)) fun _ => replies_ite (replies_respond htype _) (replies_sendError _ _))
    simp
  refine .of_iff (by simp [Session.Readable, anonymous]) (replies_authenticatedOnly
    (R := bodyReadable .userUpdate body = true)
    (replies_bind (prepares_getUserById hw w.session.userId) fun found => ?_))
  cases found with
  | some user => exact hupdate user
  | none => exact replies_bind (prepares_request rfl (fun _ => rfl) fun _ => rfl) hupdate

theorem replies_passwordUpdate (htype : w.response = .passwordUpdateResponse)
    (hh : w.hashes = true) :
    Replies w (w.session.Readable .passwordUpdate body)
      (w.session.handlePasswordUpdate w.sequence body) := by
  refine .of_iff ?_ (replies_authenticatedOnly (replies_read fun oldPassword _ =>
    replies_read fun newPassword _ => replies_ite (replies_sendError _ _)
      (replies_ite (replies_sendError _ _)
        (replies_bind (prepares_updatePassword hw hh _ _ _) fun r => replies_answer htype _ _ _))))
  simp

end

/-! ## Friends -/

/-- What `friendAction` is given in a handler of the type. -/
theorem replies_friendAction {operation : Nat → SessionM (Except String Unit)}
    {type response : MessageType} {after : Nat → SessionM Unit} (hresponse : w.response = response)
    (htype : anonymous type = false)
    (hfields : bodyReadable type body = (reads body ("friend_id", .number) && true))
    (hop : ∀ friendId, Prepares w (operation friendId))
    (hafter : ∀ friendId, Tail w (after friendId)) :
    Replies w (w.session.Readable type body)
      (w.session.friendAction w.sequence body operation response after) := by
  refine .of_iff ?_ (replies_authenticatedOnly (replies_read fun friendId _ =>
    replies_ite (replies_sendError _ _) (replies_bind (hop friendId) fun r => ?_)))
  · rw [Session.Readable, htype, hfields]
    simp
  · cases r with
    | ok u => exact replies_send rfl (.inl hresponse.symm) (hafter friendId)
    | error message => exact replies_sendError _ _

theorem tail_handleFriendRequest (hframe : 0 = w.sequence ↔ w.echoes = true) (config : BotConfig)
    (fromUserId : Nat) : Tail w (BotManager.handleFriendRequest config fromUserId) := by
  refine tail_ite (tail_pure _) (tail_bind (tail_db _) fun _ => tail_ite ?_ (tail_pure _))
  exact tail_bind (tail_request rfl fun _ => rfl) fun _ => tail_sendToUser hframe _

/-- The friend is told who asks. -/
theorem tail_friendNotice (hframe : 0 = w.sequence ↔ w.echoes = true) (friendId : Nat) :
    Tail w (do
      let senderInfo ← match ← db (getUserById w.session.userId) with
        | some user => pure user
        | none => request .uninitialisedUser
      let timestamp ← request .systemClock
      sendToUser friendId ⟨.friendAdd, 0, .object [
        ("from_user_id", .number w.session.userId),
        ("from_username", .string senderInfo.username),
        ("from_nickname", .string senderInfo.nickname),
        ("timestamp", .number timestamp)]⟩) := by
  have hnotify (senderInfo : UserInfo) : Tail w (do
      let timestamp ← request .systemClock
      sendToUser friendId ⟨.friendAdd, 0, .object [
        ("from_user_id", .number w.session.userId),
        ("from_username", .string senderInfo.username),
        ("from_nickname", .string senderInfo.nickname),
        ("timestamp", .number timestamp)]⟩) :=
    tail_bind (tail_request rfl fun _ => rfl) fun _ => tail_sendToUser hframe _
  refine tail_bind (tail_db _) fun found => ?_
  cases found with
  | some user => exact hnotify user
  | none => exact tail_bind (tail_request rfl fun _ => rfl) hnotify

theorem tail_afterFriendAdd (hframe : 0 = w.sequence ↔ w.echoes = true) (friendId : Nat) :
    Tail w (Session.afterFriendAdd w.session friendId) := by
  have hsender := tail_friendNotice hframe friendId
  refine tail_bind (tail_request rfl fun _ => rfl) fun config => ?_
  cases config with
  | none => exact hsender
  | some config =>
    refine tail_ite ?_ hsender
    exact tail_bind (tail_handleFriendRequest hframe config _) fun _ => hsender

section
variable (hw : w.finds = false)
include hw

theorem replies_friendAdd (htype : w.response = .friendAddResponse)
    (hframe : 0 = w.sequence ↔ w.echoes = true) :
    Replies w (w.session.Readable .friendAdd body) (w.session.handleFriendAdd w.sequence body) :=
  replies_friendAction htype rfl (by simp)
    (fun _ => prepares_db hw (steady_addFriendRequest _ _)) (tail_afterFriendAdd hframe)

theorem replies_friendAccept (htype : w.response = .friendAcceptResponse) :
    Replies w (w.session.Readable .friendAccept body)
      (w.session.handleFriendAccept w.sequence body) :=
  replies_friendAction htype rfl (by simp)
    (fun _ => prepares_db hw (steady_acceptFriendRequest _ _)) fun _ => tail_pure _

theorem replies_friendReject (htype : w.response = .friendRejectResponse) :
    Replies w (w.session.Readable .friendReject body)
      (w.session.handleFriendReject w.sequence body) :=
  replies_friendAction htype rfl (by simp)
    (fun _ => prepares_db hw (steady_rejectFriendRequest _ _)) fun _ => tail_pure _

theorem replies_friendRemove (htype : w.response = .friendRemoveResponse) :
    Replies w (w.session.Readable .friendRemove body)
      (w.session.handleFriendRemove w.sequence body) :=
  replies_friendAction htype rfl (by simp)
    (fun _ => prepares_db hw (steady_removeFriend _ _)) fun _ => tail_pure _

theorem replies_friendList (htype : w.response = .friendListResponse) :
    Replies w (w.session.Readable .friendList body) (w.session.handleFriendList w.sequence) := by
  refine .of_iff ?_ (replies_authenticatedOnly (replies_fetch hw (steady_locked
    (paired_fetch rfl)) fun _ => replies_respond htype _))
  simp

theorem replies_friendRequests (htype : w.response = .friendRequestsResponse) :
    Replies w (w.session.Readable .friendRequests body)
      (w.session.handleFriendRequests w.sequence) := by
  refine .of_iff ?_ (replies_authenticatedOnly (replies_fetch hw (steady_locked
    (paired_fetch rfl)) fun _ => replies_respond htype _))
  simp

theorem replies_friendRemark (htype : w.response = .friendRemarkResponse) :
    Replies w (w.session.Readable .friendRemark body)
      (w.session.handleFriendRemark w.sequence body) := by
  refine .of_iff ?_ (replies_authenticatedOnly (replies_read fun friendId _ =>
    replies_read fun remark _ => replies_ite (replies_sendError _ _)
      (replies_fetch hw (steady_setFriendRemark _ _ _) fun r => replies_answer htype _ _ _)))
  simp

end

/-! ## Private messages -/

theorem tail_checkPush (returned : Bool) : Tail w (Session.checkPush returned) :=
  tail_ite (tail_pure _) (tail_throw _)

theorem tail_pushNotification (receiverId : Nat) (title text : String) :
    Tail w (Session.pushNotification receiverId title text) := by
  have hfcm : Tail w (do
      if ← request .hasFcm then Session.checkPush (← request (.notifyFcm receiverId title text))) :=
    tail_bind (tail_request rfl fun _ => rfl) fun _ => tail_ite
      (tail_bind (tail_request rfl fun _ => rfl) fun _ => tail_checkPush _) (tail_pure _)
  refine tail_bind (tail_request rfl fun _ => rfl) fun hasJpush => tail_ite ?_ hfcm
  exact tail_bind (tail_request rfl fun _ => rfl) fun _ =>
    tail_bind (tail_checkPush _) fun _ => hfcm

theorem tail_senderName : Tail w (Session.senderName w.session) := by
  refine tail_bind (tail_db _) fun found => ?_
  cases found
  · exact tail_pure _
  · exact tail_pure _

theorem tail_botReply (hframe : 0 = w.sequence ↔ w.echoes = true) (config : BotConfig)
    (userId : Nat) (content : String) : Tail w (BotManager.reply config userId content) :=
  tail_bind (tail_request rfl fun _ => rfl) fun _ =>
    tail_bind (tail_request rfl fun _ => rfl) fun _ =>
      tail_bind (tail_db _) fun _ => tail_sendToUser hframe _

theorem tail_sessionLines (userId : Nat) (sessions : List String) :
    Tail w (BotManager.sessionLines userId sessions) := by
  induction sessions with
  | nil => exact tail_pure _
  | cons session sessions ih =>
    exact tail_bind (tail_db _) fun _ => tail_bind ih fun _ => tail_pure _

theorem tail_handleBotMessage (hframe : 0 = w.sequence ↔ w.echoes = true) (config : BotConfig)
    (senderId : Nat) (content : String) (messageId : Nat) :
    Tail w (BotManager.handleBotMessage config senderId content messageId) := by
  refine tail_ite (tail_pure _) (tail_bind (tail_request rfl fun _ => rfl) fun entered => ?_)
  refine tail_ite (tail_pure _) (tail_bind (tail_request rfl fun _ => rfl) fun conversation => ?_)
  refine tail_bind (tail_db _) fun charCount => tail_ite (tail_botReply hframe _ _ _) ?_
  refine tail_ite ?_ (tail_ite ?_ ?_)
  · refine tail_bind (tail_db _) fun newSession => ?_
    exact tail_bind (tail_request rfl fun _ => rfl) fun _ => tail_botReply hframe _ _ _
  · refine tail_bind (tail_db _) fun sessions => ?_
    exact tail_bind (tail_sessionLines _ _) fun _ => tail_botReply hframe _ _ _
  · exact tail_bind (tail_db _) fun _ => tail_bind (tail_db _) fun _ =>
      tail_request rfl fun _ => rfl

/-- The push notification, and the answer of the bot. -/
theorem tail_privatePush (hframe : 0 = w.sequence ↔ w.echoes = true) (message : Message)
    (mediaType : Int) : Tail w (do
      let title ← Session.senderName w.session
      Session.pushNotification message.receiverId title
        (Session.notificationBody mediaType message.content)
      match ← request .bot with
      | some config =>
        if message.receiverId = config.botUserId then
          BotManager.handleBotMessage config w.session.userId message.content message.messageId
      | none => pure ()) := by
  refine tail_bind tail_senderName fun _ => tail_bind (tail_pushNotification _ _ _) fun _ => ?_
  refine tail_bind (tail_request rfl fun _ => rfl) fun config => ?_
  cases config with
  | none => exact tail_pure _
  | some config => exact tail_ite (tail_handleBotMessage hframe _ _ _ _) (tail_pure _)

theorem tail_afterPrivateMessage (hframe : 0 = w.sequence ↔ w.echoes = true) (message : Message)
    (mediaType : Int) : Tail w (Session.afterPrivateMessage w.session message mediaType) := by
  have hpush := tail_privatePush hframe message mediaType
  refine tail_bind (tail_request rfl fun _ => rfl) fun active => tail_ite ?_ hpush
  exact tail_bind (tail_sendToUser hframe _) fun _ => hpush

section
variable (hw : w.finds = false)
include hw

theorem replies_privateMessage (htype : w.response = .privateMessageResponse)
    (hframe : 0 = w.sequence ↔ w.echoes = true) :
    Replies w (w.session.Readable .privateMessage body)
      (w.session.handlePrivateMessage w.sequence body) := by
  refine .of_iff ?_ (replies_authenticatedOnly (replies_read fun receiverId _ =>
    replies_read fun content _ => replies_read fun mediaType _ => replies_read fun mediaUrl _ =>
    replies_read fun extra _ => replies_ite (replies_sendError _ _)
      (replies_bind (prepares_sendPrivateMessage hw _ _ _ _ _ _) fun r => ?_)))
  · simp
  · cases r with
    | ok message => exact replies_send rfl (.inl htype.symm) (tail_afterPrivateMessage hframe _ _)
    | error message => exact replies_sendError _ _

theorem replies_privateHistory (htype : w.response = .privateHistoryResponse) :
    Replies w (w.session.Readable .privateHistory body)
      (w.session.handlePrivateHistory w.sequence body) := by
  refine .of_iff ?_ (replies_authenticatedOnly (replies_read fun peerId _ =>
    replies_read fun beforeTime _ => replies_read fun limit _ => replies_ite (replies_sendError _ _)
      (replies_bind (prepares_bind (prepares_db hw (steady_locked (paired_fetch rfl))) fun _ =>
        prepares_pure _) fun _ => replies_respond htype _)))
  simp

end

/-! ## Groups -/

/-- What `groupAction` is given in a handler of the type. -/
theorem replies_groupAction {operation : Nat → SessionM (Except String Unit)}
    {type response : MessageType} (hresponse : w.response = response)
    (htype : anonymous type = false)
    (hfields : bodyReadable type body = (reads body ("group_id", .number) && true))
    (hop : ∀ groupId, Prepares w (operation groupId)) : Replies w (w.session.Readable type body)
      (w.session.groupAction w.sequence body operation response) := by
  refine .of_iff ?_ (replies_authenticatedOnly (replies_read fun groupId _ =>
    replies_ite (replies_sendError _ _) (replies_bind (hop groupId) fun r =>
      replies_answer hresponse _ _ _)))
  rw [Session.Readable, htype, hfields]
  simp

section
variable (hw : w.finds = false)
include hw

theorem replies_groupCreate (htype : w.response = .groupCreateResponse) :
    Replies w (w.session.Readable .groupCreate body)
      (w.session.handleGroupCreate w.sequence body) := by
  refine .of_iff ?_ (replies_authenticatedOnly (replies_read fun groupName _ =>
    replies_read fun description _ => replies_ite (replies_sendError _ _)
      (replies_bind (prepares_createGroup hw _ _ _) fun r => replies_answer htype _ _ _)))
  simp

theorem replies_groupJoin (htype : w.response = .groupJoinResponse) :
    Replies w (w.session.Readable .groupJoin body) (w.session.handleGroupJoin w.sequence body) := by
  refine replies_groupAction htype rfl ?_ fun groupId => ?_
  · simp
  · exact prepares_joinGroup hw groupId w.session.userId

theorem replies_groupLeave (htype : w.response = .groupLeaveResponse) :
    Replies w (w.session.Readable .groupLeave body)
      (w.session.handleGroupLeave w.sequence body) := by
  refine replies_groupAction htype rfl ?_ fun groupId => ?_
  · simp
  · exact prepares_leaveGroup hw groupId w.session.userId

theorem replies_groupDismiss (htype : w.response = .groupDismissResponse) :
    Replies w (w.session.Readable .groupDismiss body)
      (w.session.handleGroupDismiss w.sequence body) := by
  refine replies_groupAction htype rfl ?_ fun groupId => ?_
  · simp
  · exact prepares_dismissGroup hw w.session.userId groupId

theorem replies_groupInfo (htype : w.response = .groupInfoResponse) :
    Replies w (w.session.Readable .groupInfo body) (w.session.handleGroupInfo w.sequence body) := by
  refine .of_iff ?_ (replies_read fun groupId _ => replies_ite (replies_sendError _ _)
    (replies_bind (prepares_getGroupById hw _) fun found => ?_))
  · simp
  · cases found
    · exact replies_sendError _ _
    · exact replies_respond htype _

theorem replies_groupList (htype : w.response = .groupListResponse) :
    Replies w (w.session.Readable .groupList body) (w.session.handleGroupList w.sequence) := by
  refine .of_iff ?_ (replies_authenticatedOnly (replies_bind (prepares_bind (prepares_db hw
    (steady_locked (paired_bind (paired_select rfl) paired_membershipsOf)))
      fun _ => prepares_pure _) fun _ => replies_respond htype _))
  simp

theorem replies_groupMembers (htype : w.response = .groupMembersResponse) :
    Replies w (w.session.Readable .groupMembers body)
      (w.session.handleGroupMembers w.sequence body) := by
  refine .of_iff ?_ (replies_read fun groupId _ => replies_ite (replies_sendError _ _)
    (replies_bind (prepares_bind (prepares_db hw (steady_paired (paired_getGroupMembers _)))
      fun _ => prepares_pure _) fun memberIds => replies_bind (prepares_membersInfo hw _ _)
        fun _ => replies_respond htype _))
  simp

theorem replies_groupAddMember (htype : w.response = .groupAddMemberResponse) :
    Replies w (w.session.Readable .groupAddMember body)
      (w.session.handleGroupAddMember w.sequence body) := by
  refine .of_iff ?_ (replies_authenticatedOnly (replies_read fun groupId _ =>
    replies_read fun userId _ => replies_ite (replies_sendError _ _)
      (replies_bind (prepares_joinGroup hw _ _) fun r => replies_answer htype _ _ _)))
  simp

theorem replies_groupRemoveMember (htype : w.response = .groupRemoveMemberResponse) :
    Replies w (w.session.Readable .groupRemoveMember body)
      (w.session.handleGroupRemoveMember w.sequence body) := by
  refine .of_iff ?_ (replies_authenticatedOnly (replies_read fun groupId _ =>
    replies_read fun userId _ => replies_ite (replies_sendError _ _)
      (replies_bind (prepares_removeMember hw _ _ _) fun r => replies_answer htype _ _ _)))
  simp

theorem replies_groupSetAdmin (htype : w.response = .groupSetAdminResponse) :
    Replies w (w.session.Readable .groupSetAdmin body)
      (w.session.handleGroupSetAdmin w.sequence body) := by
  refine .of_iff ?_ (replies_authenticatedOnly (replies_read fun groupId _ =>
    replies_read fun userId _ => replies_read fun isAdmin _ => replies_ite (replies_sendError _ _)
      (replies_bind (prepares_setAdmin hw _ _ _ _) fun r => replies_answer htype _ _ _)))
  simp

theorem replies_groupTransferOwner (htype : w.response = .groupTransferOwnerResponse) :
    Replies w (w.session.Readable .groupTransferOwner body)
      (w.session.handleGroupTransferOwner w.sequence body) := by
  refine .of_iff ?_ (replies_authenticatedOnly (replies_read fun groupId _ =>
    replies_read fun newOwnerId _ => replies_ite (replies_sendError _ _)
      (replies_bind (prepares_transferOwner hw _ _ _) fun r => replies_answer htype _ _ _)))
  simp

end

/-! ## Group messages -/

theorem tail_forwardToMember (hframe : 0 = w.sequence ↔ w.echoes = true) (message : Message)
    (groupName text : String) (memberId : Nat) :
    Tail w (Session.forwardToMember w.session message groupName text memberId) := by
  refine tail_ite (tail_pure _) (tail_bind (tail_request rfl fun _ => rfl) fun active => ?_)
  exact tail_ite (tail_sendToUser hframe _) (tail_pushNotification _ _ _)

theorem tail_afterGroupMessage (hframe : 0 = w.sequence ↔ w.echoes = true) (groupId : Nat)
    (message : Message) (mediaType : Int) :
    Tail w (Session.afterGroupMessage w.session groupId message mediaType) := by
  refine tail_bind (tail_bind (tail_db _) fun _ => tail_pure _) fun memberIds => ?_
  refine tail_bind (tail_db _) fun group => tail_bind tail_senderName fun sender => ?_
  exact tail_forEach (fun _ => tail_forwardToMember hframe _ _ _ _) _

section
variable (hw : w.finds = false)
include hw

theorem replies_groupMessage (htype : w.response = .groupMessageResponse)
    (hframe : 0 = w.sequence ↔ w.echoes = true) :
    Replies w (w.session.Readable .groupMessage body)
      (w.session.handleGroupMessage w.sequence body) := by
  refine .of_iff ?_ (replies_authenticatedOnly (replies_read fun groupId _ =>
    replies_read fun content _ => replies_read fun mediaType _ => replies_read fun mediaUrl _ =>
    replies_read fun extra _ => replies_ite (replies_sendError _ _)
      (replies_bind (prepares_sendGroupMessage hw _ _ _ _ _ _) fun r => ?_)))
  · simp
  · cases r with
    | ok message => exact replies_send rfl (.inl htype.symm) (tail_afterGroupMessage hframe _ _ _)
    | error message => exact replies_sendError _ _

theorem replies_groupHistory (htype : w.response = .groupHistoryResponse) :
    Replies w (w.session.Readable .groupHistory body)
      (w.session.handleGroupHistory w.sequence body) := by
  refine .of_iff ?_ (replies_authenticatedOnly (replies_read fun groupId _ =>
    replies_read fun beforeTime _ => replies_read fun limit _ => replies_ite (replies_sendError _ _)
      (replies_bind (prepares_bind (prepares_db hw (steady_locked (paired_fetch rfl))) fun _ =>
        prepares_pure _) fun _ => replies_respond htype _)))
  simp

end

/-! ## Media, heartbeats and keys -/

theorem replies_heartbeat (htype : w.response = .heartbeatResponse) :
    Replies w (w.session.Readable .heartbeat body) (w.session.handleHeartbeat w.sequence) := by
  refine .of_iff ?_ (replies_bind (prepares_request rfl (fun _ => rfl) fun _ => rfl) fun _ =>
    replies_respond htype _)
  simp

section
variable (hw : w.finds = false)
include hw

theorem replies_mediaUpload (htype : w.response = .mediaUploadResponse) :
    Replies w (w.session.Readable .mediaUpload body)
      (w.session.handleMediaUpload w.sequence body) := by
  have hcall (c : Call) (hr : w.replies c = false) (hh : ∀ a, w.halts c a = false)
      (he : ∀ a, w.echo c a = false) : Prepares w (request c) := prepares_request hr hh he
  refine .of_iff ?_ (replies_authenticatedOnly (replies_read fun fileName _ =>
    replies_read fun fileData _ => replies_read fun mediaType _ =>
    replies_ite (replies_sendError _ _) (replies_ite (replies_sendError _ _)
      (replies_ite (replies_sendError _ _)
        (replies_bind (hcall _ rfl (fun _ => rfl) fun _ => rfl) fun path =>
          replies_bind (hcall _ rfl (fun _ => rfl) fun _ => rfl) fun written =>
            replies_ite (replies_fetch hw (steady_locked (paired_stamped fun _ =>
              paired_bind (paired_fileSize _) fun _ =>
                paired_insert rfl (paired_pure _) fun _ => paired_pure _)) fun saved => ?_)
              (replies_sendError _ _))))))
  · simp
  · cases saved with
    | none =>
      exact replies_bind (hcall _ rfl (fun _ => rfl) fun _ => rfl) fun _ => replies_sendError _ _
    | some file => exact replies_respond htype _

theorem replies_keyUpload (htype : w.response = .keyUploadResponse) :
    Replies w (w.session.Readable .keyUpload body) (w.session.handleKeyUpload w.sequence body) := by
  refine .of_iff ?_ (replies_authenticatedOnly (replies_read fun publicKey _ =>
    replies_ite (replies_sendError _ _) (replies_fetch hw (steady_locked (paired_stamped fun _ =>
      paired_execute rfl)) fun saved => replies_ite (replies_bind (prepares_request rfl
        (fun _ => rfl) fun _ => rfl) fun _ => replies_respond htype _) (replies_sendError _ _))))
  simp

theorem replies_keyRequest (htype : w.response = .keyResponse) :
    Replies w (w.session.Readable .keyRequest body)
      (w.session.handleKeyRequest w.sequence body) := by
  refine .of_iff ?_ (replies_authenticatedOnly (replies_read fun targetUserId _ =>
    replies_ite (replies_sendError _ _) (replies_fetch hw (steady_locked
      (paired_fetchFirst rfl)) fun found => ?_)))
  · simp
  · cases found
    · exact replies_sendError _ _
    · exact replies_respond htype _

/-- The frame for the receiver has the sequence of the request. -/
theorem replies_encryptedMessage (htype : w.response = .encryptedMessageResponse)
    (hecho : w.echoes = true) :
    Replies w (w.session.Readable .encryptedMessage body)
      (w.session.handleEncryptedMessage w.sequence body) := by
  refine .of_iff ?_ (replies_authenticatedOnly (replies_read fun receiverId _ =>
    replies_read fun encryptedKey _ => replies_read fun encryptedContent _ =>
    replies_read fun iv _ => replies_read fun mediaType _ => replies_read fun mediaUrl _ =>
    replies_ite (replies_sendError _ _)
      (replies_bind (prepares_request rfl (fun _ => rfl) fun _ => rfl) fun blank =>
        replies_bind (prepares_request rfl (fun _ => rfl) fun _ => rfl) fun createdAt =>
          replies_bind (prepares_savePrivateMessage hw _) fun saved =>
            replies_send rfl (.inl htype.symm) (tail_sendToUser (by simp [hecho]) _))))
  simp

/-! ## Tokens and favorites -/

theorem replies_favoriteAdd (htype : w.response = .favoriteAddResponse) :
    Replies w (w.session.Readable .favoriteAdd body)
      (w.session.handleFavoriteAdd w.sequence body) := by
  refine .of_iff ?_ (replies_authenticatedOnly (replies_read fun messageId _ =>
    replies_read fun messageType _ => replies_read fun senderId _ => replies_read fun content _ =>
    replies_read fun mediaType _ => replies_read fun mediaUrl _ =>
    replies_ite (replies_sendError _ _) (replies_ite (replies_sendError _ _)
      (replies_fetch hw (steady_ensured (paired_stamped fun _ => paired_execute rfl)) fun _ =>
        replies_ite (replies_respond htype _) (replies_sendError _ _)))))
  simp

theorem replies_favoriteRemove (htype : w.response = .favoriteRemoveResponse) :
    Replies w (w.session.Readable .favoriteRemove body)
      (w.session.handleFavoriteRemove w.sequence body) := by
  refine .of_iff ?_ (replies_authenticatedOnly (replies_read fun messageId _ =>
    replies_read fun messageType _ => replies_ite (replies_sendError _ _)
      (replies_fetch hw (steady_locked (paired_execute rfl)) fun _ =>
        replies_ite (replies_respond htype _) (replies_sendError _ _))))
  simp

theorem replies_favoriteList (htype : w.response = .favoriteListResponse) :
    Replies w (w.session.Readable .favoriteList body)
      (w.session.handleFavoriteList w.sequence body) := by
  refine .of_iff ?_ (replies_authenticatedOnly (replies_read fun limit _ =>
    replies_read fun offset _ => replies_fetch hw (steady_ensured (paired_fetch rfl))
      fun _ => replies_ite (replies_respond htype _) (replies_sendError _ _)))
  simp

/-- The type of a token is read when there is a token. -/
theorem replies_fcmTokenRegister (htype : w.response = .fcmTokenRegisterResponse) :
    Replies w (w.session.Readable .fcmTokenRegister body)
      (w.session.handleFcmTokenRegister w.sequence body) := by
  have hsave (token tokenType missing : String) (configured : Bool) : Replies w True (do
      if !configured then w.session.sendError w.sequence 500 missing
      else if ← db (saveFcmToken w.session.userId token) then
        w.session.respond w.sequence .fcmTokenRegisterResponse
          (Session.success [("user_id", .number w.session.userId),
            ("token_type", .string tokenType)])
      else w.session.sendError w.sequence 500 "Failed to register token") :=
    replies_ite (replies_sendError _ _) (replies_fetch hw (steady_locked (paired_stamped fun _ =>
      paired_bind (paired_mysqlQuery rfl) fun _ => paired_ite (paired_pure _)
        (paired_bind (paired_mysqlQuery rfl) fun _ =>
          paired_ite (paired_execute rfl) (paired_pure _)))) fun _ =>
      replies_ite (replies_respond htype _) (replies_sendError _ _))
  refine .of_iff ?_ (replies_authenticatedOnly (replies_read
    (R := bodyReadable .fcmTokenRegister body = true) fun token htoken => ?_))
  · simp
  have hread : reads body ("fcm_token", .text) = true := by
    rw [← toBool_valueString "", htoken]
    rfl
  split
  next hempty => exact (replies_sendError _ _).of_iff (by simp [hread, htoken, hempty])
  next hempty =>
    refine .of_iff ?_ (replies_read (R := True) fun tokenType _ => ?_)
    · simp [hread, htoken, hempty]
    · split
      · exact replies_bind (prepares_request rfl (fun _ => rfl) fun _ => rfl) (hsave _ _ _)
      · exact replies_bind (prepares_request rfl (fun _ => rfl) fun _ => rfl) (hsave _ _ _)

end

/-! ## Recalling messages -/

/-- The session gets frames only as echoes, and the handler stops exactly after a halting
    answer. -/
def Pushes (w : Watch) {α : Type} (p : SessionM α) : Prop :=
  Follows (ledger w) .start p.run fun r l =>
    match r with
    | .ok _ => l.halted = false ∧ (l.own = 0 ↔ l.echoed = false) ∧
        (l.echoed = false → l.strayed = false)
    | .error _ => l = .stopped

theorem Prepares.pushes {α : Type} {p : SessionM α} (h : Prepares w p) : Pushes w p := by
  refine h.mono fun r l hr => ?_
  cases r with
  | error e => exact hr
  | ok a =>
    obtain rfl : l = .start := hr
    simp [Ledger.start]

theorem pushes_bind {α β : Type} {p : SessionM α} {f : α → SessionM β} (hp : Prepares w p)
    (hf : ∀ a, Pushes w (f a)) : Pushes w (p >>= f) := by
  refine follows_bindM.2 (hp.mono fun r l hr => ?_)
  cases r with
  | error e => exact hr
  | ok a =>
    obtain rfl : l = .start := hr
    exact hf a

theorem pushes_ite {α : Type} {b : Prop} [Decidable b] {p q : SessionM α} (hp : Pushes w p)
    (hq : Pushes w q) : Pushes w (if b then p else q) := by
  split
  · exact hp
  · exact hq

/-- The reply after the pushes. -/
theorem replies_pushed {α : Type} {p : SessionM α} {frame : α → Frame} (hp : Pushes w p)
    (hframe : ∀ a, (frame a).sequence = w.sequence)
    (htype : ∀ a, (frame a).type = w.response ∨ (frame a).type = .error) :
    Replies w True (p >>= fun a => w.session.send (frame a)) := by
  refine follows_bindM.2 (hp.mono fun r l hr => ?_)
  cases r with
  | error e =>
    obtain rfl : l = .stopped := hr
    simp [Ledger.stopped]
  | ok a =>
    obtain ⟨hhalted, hown, hstrayed⟩ := hr
    have hanswer : w.answers (.send w.session.id (frame a)) = true := decide_eq_true (htype a)
    refine follows_requestL.2 fun _ => ?_
    simpa [ledger, Watch.replies, Watch.halts, Watch.echo, hframe, hanswer, hhalted, hown]
      using hstrayed

/-- The loop of a broadcast, once the table has answered. -/
theorem follows_sends {frame : Frame} (hframe : frame.sequence = w.sequence) (l : Ledger)
    (sessions : List SessionId) :
    Follows (ledger w) l (forEach (fun x => request (.send x frame)) sessions).run fun r l' =>
      r = .ok () ∧ l'.halted = l.halted ∧ l'.echoed = l.echoed ∧
        (l'.own = 0 ↔ l.own = 0 ∧ w.session.id ∉ sessions) ∧
        (w.session.id ∉ sessions → l'.strayed = l.strayed) := by
  induction sessions generalizing l with
  | nil => exact ⟨rfl, rfl, rfl, by simp, fun _ => rfl⟩
  | cons x sessions ih =>
    refine follows_bindM.2 (follows_requestL.2 fun _ => (ih _).mono fun r l' hl' => ?_)
    obtain ⟨hr, hhalted, hechoed, hown, hstrayed⟩ := hl'
    refine ⟨hr, hhalted.trans (by simp [ledger, Watch.halts]),
      hechoed.trans (by simp [ledger, Watch.echo]), hown.trans ?_, fun hmem => ?_⟩
    · by_cases hx : x = w.session.id
      · simp [ledger, Watch.replies, hframe, hx]
      · simp [ledger, Watch.replies, hframe, hx, Ne.symm hx]
    · have hx : x ≠ w.session.id := fun h => hmem (h ▸ List.mem_cons_self)
      refine (hstrayed fun h => hmem (List.mem_cons_of_mem _ h)).trans ?_
      simp [ledger, Watch.replies, hx]

theorem pushes_broadcast {frame : Frame} (hframe : frame.sequence = w.sequence)
    (hecho : w.echoes = true) : Pushes w (broadcast frame) := by
  refine follows_bindM.2 (follows_requestL.2 fun sessions => ?_)
  refine (follows_sends hframe _ _).mono ?_
  rintro r l ⟨rfl, hhalted, hechoed, hown, hstrayed⟩
  refine ⟨by simp [hhalted, ledger, Ledger.start, Watch.halts], ?_, ?_⟩
  · simp [hown, hechoed, ledger, Ledger.start, Watch.replies, Watch.echo, hecho]
  · intro h
    have hmem : w.session.id ∉ sessions := by
      simpa [hechoed, ledger, Ledger.start, Watch.echo, hecho] using h
    simp [hstrayed hmem, ledger, Ledger.start, Watch.replies]

/-- `recall_group_message` finds nothing or locks `mutex_` again: it never returns true. -/
theorem follows_recallGroupMessage (hw : w.finds = true) (messageId userId : Nat) :
    Follows (ledger w) .start (db (recallGroupMessage messageId userId)).run fun r l =>
      match r with
      | .ok recalled => recalled = false ∧ l = .start
      | .error _ => l = .stopped := by
  have hnext : ∀ (c : Database.Call) (a : c.Answer), w.halts (.db c) a = false →
      (ledger w).next .start (.db c) a = .start := by
    intro c a h
    simp [ledger, Ledger.start, Watch.replies, Watch.echo, h]
  refine follows_bindM.2 (follows_requestL.2 fun _ => ?_)
  refine follows_bindM.2 (follows_requestL.2 fun ok => ?_)
  rw [hnext _ _ rfl, hnext _ _ rfl]
  cases ok with
  | false => exact follows_bindM.2 (follows_requestL.2 fun _ => ⟨rfl, hnext _ _ rfl⟩)
  | true =>
  refine follows_bindM.2 (follows_requestL.2 fun rows => ?_)
  rcases rows with _ | _ | ⟨row, rest⟩
  · rw [hnext _ _ (by simp [Watch.halts])]
    exact follows_bindM.2 (follows_requestL.2 fun _ => ⟨rfl, hnext _ _ rfl⟩)
  · rw [hnext _ _ (by simp [Watch.halts])]
    exact follows_bindM.2 (follows_requestL.2 fun _ => ⟨rfl, hnext _ _ rfl⟩)
  · -- `is_group_admin` locks
    show (ledger w).next .start (.db .storeResult) (some (row :: rest)) = .stopped
    simp [ledger, Ledger.start, Ledger.stopped, Watch.replies, Watch.halts, Watch.echo, hw]

theorem pushes_recallGroup (hw : w.finds = true) (messageId groupId : Nat) :
    Pushes w (Session.recallGroup w.session w.sequence messageId groupId) := by
  refine follows_bindM.2 ((follows_recallGroupMessage hw _ _).mono fun r l hr => ?_)
  cases r with
  | error e => exact hr
  | ok recalled =>
    obtain ⟨rfl, rfl⟩ : recalled = false ∧ l = .start := hr
    exact (prepares_pure _).pushes

theorem pushes_recallPrivate (hw : w.finds = false) (hecho : w.echoes = true) (messageId : Nat) :
    Pushes w (Session.recallPrivate w.session w.sequence messageId) := by
  have hreturn (recalled : Bool) : Pushes w (pure recalled) := (prepares_pure _).pushes
  have hrecall : Steady (recallPrivateMessage messageId w.session.userId) := by
    refine steady_locked (paired_bind (paired_selectFirst rfl) fun row => ?_)
    cases row with
    | none => exact paired_pure _
    | some row => exact paired_ite (paired_pure _) (paired_stamped fun _ =>
        paired_ite (paired_pure _) (paired_execute rfl))
  have hsender : Steady (getMessageSender messageId) := by
    refine steady_locked (paired_bind (paired_selectFirst rfl) fun row => ?_)
    cases row with
    | none => exact paired_fetchFirst rfl
    | some row => exact paired_pure _
  refine pushes_bind (prepares_db hw hrecall) fun recalled => pushes_ite ?_ (hreturn false)
  refine pushes_bind (prepares_db hw hsender) fun sender => pushes_ite ?_ (hreturn true)
  refine pushes_bind (prepares_request rfl (fun _ => rfl) fun _ => rfl) fun timestamp => ?_
  refine follows_bindM.2 ((pushes_broadcast rfl hecho).mono fun r l hr => ?_)
  cases r with
  | ok u => exact hr
  | error e => exact hr

theorem replies_messageRecall (htype : w.response = .messageRecallResponse)
    (hecho : w.echoes = true)
    (hfinds : w.finds = true ↔ body.valueBool "is_group" false = .ok true) :
    Replies w (w.session.Readable .messageRecall body)
      (w.session.handleMessageRecall w.sequence body) := by
  refine .of_iff ?_ (replies_authenticatedOnly (replies_read fun messageId _ =>
    replies_read fun isGroup hgroup => replies_read fun groupId _ =>
    replies_ite (replies_sendError _ _) ?_))
  rotate_left
  · cases isGroup with
    | true =>
      have hpush := pushes_recallGroup (hfinds.2 hgroup) messageId groupId
      exact replies_pushed hpush (fun _ => rfl) fun _ => .inl htype.symm
    | false =>
      have hw : w.finds = false := by
        rw [← Bool.not_eq_true, hfinds, hgroup]
        exact fun h => by cases h
      have hpush := pushes_recallPrivate hw hecho messageId
      exact replies_pushed hpush (fun _ => rfl) fun _ => .inl htype.symm
  · simp

/-! ## Every request -/

/-- The type of the response to a request. -/
def responseType : MessageType → MessageType
  | .register => .registerResponse | .login => .loginResponse | .logout => .logoutResponse
  | .userInfo => .userInfoResponse | .userSearch => .userSearchResponse
  | .userUpdate => .userUpdateResponse | .passwordUpdate => .passwordUpdateResponse
  | .friendAdd => .friendAddResponse | .friendAccept => .friendAcceptResponse
  | .friendReject => .friendRejectResponse | .friendRemove => .friendRemoveResponse
  | .friendList => .friendListResponse | .friendRequests => .friendRequestsResponse
  | .friendRemark => .friendRemarkResponse | .privateMessage => .privateMessageResponse
  | .privateHistory => .privateHistoryResponse | .groupCreate => .groupCreateResponse
  | .groupJoin => .groupJoinResponse | .groupLeave => .groupLeaveResponse
  | .groupDismiss => .groupDismissResponse | .groupInfo => .groupInfoResponse
  | .groupList => .groupListResponse | .groupMembers => .groupMembersResponse
  | .groupAddMember => .groupAddMemberResponse | .groupRemoveMember => .groupRemoveMemberResponse
  | .groupSetAdmin => .groupSetAdminResponse
  | .groupTransferOwner => .groupTransferOwnerResponse | .groupMessage => .groupMessageResponse
  | .groupHistory => .groupHistoryResponse | .mediaUpload => .mediaUploadResponse
  | .heartbeat => .heartbeatResponse | .keyUpload => .keyUploadResponse
  | .keyRequest => .keyResponse | .encryptedMessage => .encryptedMessageResponse
  | .messageRecall => .messageRecallResponse
  | .fcmTokenRegister => .fcmTokenRegisterResponse | .favoriteAdd => .favoriteAddResponse
  | .favoriteRemove => .favoriteRemoveResponse | .favoriteList => .favoriteListResponse
  | _ => .error

/-- What the ledger of a request depends on: the frames of ENCRYPTED_MESSAGE and MESSAGE_RECALL
    for others carry its sequence, all other pushes the sequence 0. -/
def Session.watch (s : Session) (sequence : UInt32) (type : Option MessageType) (body : Json) :
    Watch where
  session := s
  sequence := sequence
  response := (type.map responseType).getD .error
  echoes := decide (sequence = 0) || decide (type = some .encryptedMessage) ||
    decide (type = some .messageRecall)
  finds := decide (type = some .messageRecall) &&
    (match body.valueBool "is_group" false with
      | .ok isGroup => isGroup
      | .error _ => false)
  hashes := decide (type ≠ some .login)

theorem replies_handleMessage (s : Session) (sequence : UInt32) (body : Json) (type : UInt8) :
    Replies (s.watch sequence (MessageType.ofCode type) body)
      (∀ t, MessageType.ofCode type = some t → s.Readable t body)
      (s.handleMessage sequence body type) := by
  unfold Session.handleMessage
  cases MessageType.ofCode type with
  | none => exact (replies_sendError _ _).of_iff (by simp)
  | some t =>
  have hsome {p : SessionM Unit}
      (h : Replies (s.watch sequence (some t) body) (s.Readable t body) p) :
      Replies (s.watch sequence (some t) body) (∀ t', some t = some t' → s.Readable t' body) p :=
    h.of_iff ⟨fun h t' ht => Option.some.inj ht ▸ h, fun h => h t rfl⟩
  cases t with
  | register => exact hsome (replies_register rfl rfl rfl)
  | login => exact hsome (replies_login rfl rfl rfl)
  | logout => exact hsome (replies_logout rfl rfl)
  | userInfo => exact hsome (replies_userInfo rfl rfl)
  | userSearch => exact hsome (replies_userSearch rfl rfl)
  | userUpdate => exact hsome (replies_userUpdate rfl rfl)
  | passwordUpdate => exact hsome (replies_passwordUpdate rfl rfl rfl)
  | friendAdd => exact hsome (replies_friendAdd rfl rfl (by simp [Session.watch, eq_comm]))
  | friendAccept => exact hsome (replies_friendAccept rfl rfl)
  | friendReject => exact hsome (replies_friendReject rfl rfl)
  | friendRemove => exact hsome (replies_friendRemove rfl rfl)
  | friendList => exact hsome (replies_friendList rfl rfl)
  | friendRequests => exact hsome (replies_friendRequests rfl rfl)
  | friendRemark => exact hsome (replies_friendRemark rfl rfl)
  | privateMessage =>
    exact hsome (replies_privateMessage rfl rfl (by simp [Session.watch, eq_comm]))
  | privateHistory => exact hsome (replies_privateHistory rfl rfl)
  | groupCreate => exact hsome (replies_groupCreate rfl rfl)
  | groupJoin => exact hsome (replies_groupJoin rfl rfl)
  | groupLeave => exact hsome (replies_groupLeave rfl rfl)
  | groupDismiss => exact hsome (replies_groupDismiss rfl rfl)
  | groupInfo => exact hsome (replies_groupInfo rfl rfl)
  | groupList => exact hsome (replies_groupList rfl rfl)
  | groupMembers => exact hsome (replies_groupMembers rfl rfl)
  | groupAddMember => exact hsome (replies_groupAddMember rfl rfl)
  | groupRemoveMember => exact hsome (replies_groupRemoveMember rfl rfl)
  | groupSetAdmin => exact hsome (replies_groupSetAdmin rfl rfl)
  | groupTransferOwner => exact hsome (replies_groupTransferOwner rfl rfl)
  | groupMessage => exact hsome (replies_groupMessage rfl rfl (by simp [Session.watch, eq_comm]))
  | groupHistory => exact hsome (replies_groupHistory rfl rfl)
  | mediaUpload => exact hsome (replies_mediaUpload rfl rfl)
  | heartbeat => exact hsome (replies_heartbeat rfl)
  | keyUpload => exact hsome (replies_keyUpload rfl rfl)
  | keyRequest => exact hsome (replies_keyRequest rfl rfl)
  | encryptedMessage => exact hsome (replies_encryptedMessage rfl rfl (by simp [Session.watch]))
  | messageRecall =>
    refine hsome (replies_messageRecall rfl (by simp [Session.watch]) ?_)
    cases h : body.valueBool "is_group" false <;> simp [Session.watch, h]
  | fcmTokenRegister => exact hsome (replies_fcmTokenRegister rfl rfl)
  | favoriteAdd => exact hsome (replies_favoriteAdd rfl rfl)
  | favoriteRemove => exact hsome (replies_favoriteRemove rfl rfl)
  | favoriteList => exact hsome (replies_favoriteList rfl rfl)
  | _ => exact hsome ((replies_sendError _ _).of_iff (by simp))

/-- The session gets exactly one frame with the sequence of the request, the response or an ERROR,
    if and only if the body is readable, no answer before the reply makes the handler stop, and
    no frame is pushed to the session itself under the sequence. -/
theorem one_reply (s : Session) (sequence : UInt32) (body : Json) (type : UInt8) {ε : Type}
    (env : ε → (c : Call) → c.Answer × ε) (e : ε) :
    (s.watch sequence (MessageType.ofCode type) body).OneReply
        (Prog.log env (s.task sequence body type) e) ↔
      (∀ t, MessageType.ofCode type = some t → s.Readable t body) ∧
        (s.watch sequence (MessageType.ofCode type) body).Undisturbed
          (Prog.log env (s.task sequence body type) e) ∧
        (s.watch sequence (MessageType.ofCode type) body).Unechoed
          (Prog.log env (s.task sequence body type) e) := by
  have hlog : Prog.log env (s.task sequence body type) e =
      Prog.log env (s.handleMessage sequence body type).run e :=
    (log_bind _ _ _ _).trans (List.append_nil _)
  rw [hlog]
  exact (replies_handleMessage s sequence body type).run env e

/-- A LOGIN whose username is a number gets no frame at all. -/
theorem one_reply_number : ¬ ∀ (s : Session) (sequence : UInt32) (body : Json) (type : UInt8)
    (env : Unit → (c : Call) → c.Answer × Unit),
    (s.watch sequence (MessageType.ofCode type) body).OneReply
      (Prog.log env (s.task sequence body type) ()) := by
  intro h
  have hlogin := (h ⟨1, 0, false⟩ 1 (.object [("username", .number 1)]) 3
    fun _ _ => (default, ())).1
  exact absurd hlogin (by decide)

end ChatApp.Session
