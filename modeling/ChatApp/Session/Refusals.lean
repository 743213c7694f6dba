/-
  Which handlers change `authenticated_`, and which answer 401. Only LOGIN and LOGOUT change it,
  and a handler of another type answers 401 only if `authenticated_` was false when it started.
-/
import ChatApp.Session.Handlers

namespace ChatApp.Session

open ChatApp.Lib ChatApp.Lib.Prog ChatApp.Database ChatApp.Protocol

/-- An ERROR with the code 401 -/
def refusal (frame : Frame) : Bool :=
  decide (frame.type = .error) &&
    match frame.body.find? "code" with
    | some (.number code) => decide (code = 401)
    | _ => false

def refuses : Call → Bool
  | .send _ frame => refusal frame
  | _ => false

/-- Neither a frame nor a change of `authenticated_` -/
def Call.silent : Call → Bool
  | .send .. | .setAuthenticated _ => false
  | _ => true

/-- The call leaves `authenticated_` alone, and answers 401 only without a login. -/
def Session.Admits (s : Session) (c : Call) : Prop :=
  (∀ auth, c ≠ .setAuthenticated auth) ∧ (s.authenticated = true → refuses c = false)

def Admitting {α : Type} (s : Session) (p : SessionM α) : Prop := CallsOnly s.Admits p.run

theorem refusal_of_ne {frame : Frame} (h : frame.type ≠ .error) : refusal frame = false := by
  simp [refusal, h]

variable {s : Session} {α β : Type} {p : SessionM α} {f : α → SessionM β}

theorem Session.admits_of_silent {c : Call} (h : c.silent = true) : s.Admits c := by
  refine ⟨?_, fun _ => ?_⟩
  · rintro auth rfl
    exact Bool.false_ne_true h
  · cases c with
    | send => exact absurd h Bool.false_ne_true
    | _ => rfl

theorem admitting_pure (a : α) : Admitting s (pure a : SessionM α) := trivial

theorem admitting_throw (e : Stop) : Admitting s (throw e : SessionM α) := trivial

theorem admitting_bind (hp : Admitting s p) (hf : ∀ a, Admitting s (f a)) :
    Admitting s (p >>= f) := callsOnly_bindM hp hf

theorem admitting_ite {b : Prop} [Decidable b] {q : SessionM α} (hp : Admitting s p)
    (hq : Admitting s q) : Admitting s (if b then p else q) := callsOnly_iteM hp hq

theorem admitting_request {c : Call} (h : c.silent = true) : Admitting s (request c) :=
  callsOnly_requestM (Session.admits_of_silent h)

/-- A call, and what is done with its answer. -/
theorem admitting_ask {c : Call} {g : c.Answer → SessionM β} (h : c.silent = true)
    (hg : ∀ a, Admitting s (g a)) : Admitting s (request c >>= g) :=
  admitting_bind (admitting_request h) hg

theorem admitting_db (q : DbProg α) : Admitting s (db q) :=
  callsOnly_db (fun _ => Session.admits_of_silent rfl) q

theorem admitting_fetch {q : DbProg α} (hf : ∀ a, Admitting s (f a)) : Admitting s (db q >>= f) :=
  admitting_bind (admitting_db q) hf

theorem admitting_read {x : Except JsonError α} (hf : ∀ a, Admitting s (f a)) :
    Admitting s (read x >>= f) := by
  refine admitting_bind ?_ hf
  cases x with
  | ok a => exact admitting_pure a
  | error e => exact admitting_throw (.json e)

theorem admitting_frame (x : SessionId) {frame : Frame} (h : refusal frame = false) :
    Admitting s (request (.send x frame)) :=
  callsOnly_requestM ⟨fun _ => nofun, fun _ => h⟩

theorem admitting_sendToUser (userId : Nat) {frame : Frame} (h : refusal frame = false) :
    Admitting s (sendToUser userId frame) := by
  refine admitting_ask rfl fun found => ?_
  cases found with
  | some x => exact admitting_frame x h
  | none => exact admitting_pure _

theorem admitting_forEach {g : α → SessionM Unit} (hg : ∀ a, Admitting s (g a)) (xs : List α) :
    Admitting s (forEach g xs) := by
  induction xs with
  | nil => exact admitting_pure _
  | cons x xs ih => exact admitting_bind (hg x) fun _ => ih

theorem admitting_broadcast {frame : Frame} (h : refusal frame = false) :
    Admitting s (broadcast frame) :=
  admitting_ask rfl fun _ => admitting_forEach (fun x => admitting_frame x h) _

variable {sequence : UInt32} {body : Json}

theorem admitting_sendError {code : Int} (message : String) (h : code ≠ 401) :
    Admitting s (s.sendError sequence code message) :=
  admitting_frame s.id (decide_eq_false h)

theorem admitting_respond {type : MessageType} (data : Json) (h : type ≠ .error) :
    Admitting s (s.respond sequence type data) :=
  admitting_frame s.id (refusal_of_ne h)

theorem admitting_answer {r : Except String α} {code : Int} {type : MessageType} {data : α → Json}
    (hcode : code ≠ 401) (htype : type ≠ .error) :
    Admitting s (s.answer sequence r code type data) := by
  cases r with
  | ok a => exact admitting_respond _ htype
  | error message => exact admitting_sendError _ hcode

theorem admitting_authenticatedOnly {handler : SessionM Unit} (h : Admitting s handler) :
    Admitting s (s.authenticatedOnly sequence handler) := by
  unfold Session.authenticatedOnly
  split
  next => exact h
  next hauth => exact callsOnly_requestM ⟨fun _ => nofun, fun hauth' => absurd hauth' hauth⟩

/-! ## Users -/

theorem admitting_orFail {message : String} {q : DbProg Bool} :
    Admitting s (orFail message (db q)) :=
  admitting_fetch fun _ => admitting_pure _

theorem admitting_hashPassword (password : String) :
    Admitting s (UserManager.hashPassword password) := by
  refine admitting_ask rfl fun hash => ?_
  cases hash with
  | some hash => exact admitting_pure hash
  | none => exact admitting_throw _

theorem admitting_register : Admitting s (s.handleRegister sequence body) := by
  refine admitting_read fun username => admitting_read fun password =>
    admitting_read fun nickname => admitting_ite (admitting_sendError _ (by decide)) ?_
  refine admitting_bind ?_ fun r => admitting_answer (by decide) (by decide)
  refine admitting_fetch fun found => admitting_ite (admitting_pure _) ?_
  refine admitting_bind (admitting_hashPassword _) fun hash => admitting_fetch fun userId => ?_
  cases userId with
  | none => exact admitting_pure _
  | some userId => exact admitting_pure _

theorem admitting_userInfo : Admitting s (s.handleUserInfo sequence body) := by
  refine admitting_read fun userId => ?_
  split
  next hown =>
    have hauth : s.authenticated = false := by simpa using (Bool.and_eq_true_iff.1 hown).2
    exact callsOnly_requestM ⟨fun _ => nofun, fun hauth' => absurd (hauth.symm.trans hauth')
      Bool.false_ne_true⟩
  next =>
    refine admitting_fetch fun found => ?_
    cases found with
    | some user => exact admitting_respond _ (by decide)
    | none => exact admitting_sendError _ (by decide)

theorem admitting_userSearch : Admitting s (s.handleUserSearch sequence body) :=
  admitting_authenticatedOnly (admitting_read fun _ => admitting_read fun _ =>
    admitting_fetch fun _ => admitting_respond _ (by decide))

theorem admitting_userUpdate : Admitting s (s.handleUserUpdate sequence body) := by
  have hupdate (user : UserInfo) : Admitting s (do
      let nickname ← read (Session.updateField body "nickname" user.nickname)
      let avatarUrl ← read (Session.updateField body "avatar_url" user.avatarUrl)
      let signature ← read (Session.updateField body "signature" user.signature)
      let user := { user with nickname, avatarUrl, signature }
      if ← db (updateUser user) then s.respond sequence .userUpdateResponse (userJson user)
      else s.sendError sequence 500 "Failed to update user info") :=
    admitting_read fun _ => admitting_read fun _ => admitting_read fun _ => admitting_fetch fun _ =>
      admitting_ite (admitting_respond _ (by decide)) (admitting_sendError _ (by decide))
  refine admitting_authenticatedOnly (admitting_fetch fun found => ?_)
  cases found with
  | some user => exact hupdate user
  | none => exact admitting_ask rfl hupdate

theorem admitting_passwordUpdate : Admitting s (s.handlePasswordUpdate sequence body) := by
  refine admitting_authenticatedOnly (admitting_read fun _ => admitting_read fun _ =>
    admitting_ite (admitting_sendError _ (by decide))
      (admitting_ite (admitting_sendError _ (by decide)) ?_))
  refine admitting_bind ?_ fun _ => admitting_answer (by decide) (by decide)
  refine admitting_fetch fun user => ?_
  cases user with
  | none => exact admitting_pure _
  | some user =>
  refine admitting_fetch fun hash => ?_
  cases hash with
  | none => exact admitting_pure _
  | some hash =>
    refine admitting_ask rfl fun _ => admitting_ite (admitting_pure _) ?_
    exact admitting_bind (admitting_hashPassword _) fun _ => admitting_orFail

/-! ## Friends -/

theorem admitting_friendAction {operation : Nat → SessionM (Except String Unit)}
    {type : MessageType} {after : Nat → SessionM Unit} (htype : type ≠ .error)
    (hop : ∀ friendId, Admitting s (operation friendId))
    (hafter : ∀ friendId, Admitting s (after friendId)) :
    Admitting s (s.friendAction sequence body operation type after) := by
  refine admitting_authenticatedOnly (admitting_read fun friendId =>
    admitting_ite (admitting_sendError _ (by decide)) (admitting_bind (hop friendId) fun r => ?_))
  cases r with
  | ok u => exact admitting_bind (admitting_respond _ htype) fun _ => hafter friendId
  | error message => exact admitting_sendError _ (by decide)

theorem admitting_handleFriendRequest (config : BotConfig) (fromUserId : Nat) :
    Admitting s (BotManager.handleFriendRequest config fromUserId) :=
  admitting_ite (admitting_pure _) (admitting_fetch fun _ => admitting_ite
    (admitting_ask rfl fun _ => admitting_sendToUser _ (refusal_of_ne nofun)) (admitting_pure _))

/-- The friend is told who asks. -/
theorem admitting_friendNotice (friendId : Nat) : Admitting s (do
    let senderInfo ← match ← db (getUserById s.userId) with
      | some user => pure user
      | none => request .uninitialisedUser
    let timestamp ← request .systemClock
    sendToUser friendId ⟨.friendAdd, 0, .object [
      ("from_user_id", .number s.userId),
      ("from_username", .string senderInfo.username),
      ("from_nickname", .string senderInfo.nickname),
      ("timestamp", .number timestamp)]⟩) := by
  have hnotify (senderInfo : UserInfo) : Admitting s (do
      let timestamp ← request .systemClock
      sendToUser friendId ⟨.friendAdd, 0, .object [
        ("from_user_id", .number s.userId),
        ("from_username", .string senderInfo.username),
        ("from_nickname", .string senderInfo.nickname),
        ("timestamp", .number timestamp)]⟩) :=
    admitting_ask rfl fun _ => admitting_sendToUser _ (refusal_of_ne nofun)
  refine admitting_fetch fun found => ?_
  cases found with
  | some user => exact hnotify user
  | none => exact admitting_ask rfl hnotify

theorem admitting_afterFriendAdd (friendId : Nat) :
    Admitting s (Session.afterFriendAdd s friendId) := by
  refine admitting_ask rfl fun config => ?_
  cases config with
  | none => exact admitting_friendNotice friendId
  | some config =>
    refine admitting_ite ?_ (admitting_friendNotice friendId)
    exact admitting_bind (admitting_handleFriendRequest config _) fun _ =>
      admitting_friendNotice friendId

theorem admitting_friendRemark : Admitting s (s.handleFriendRemark sequence body) :=
  admitting_authenticatedOnly (admitting_read fun _ => admitting_read fun _ =>
    admitting_ite (admitting_sendError _ (by decide))
      (admitting_fetch fun _ => admitting_answer (by decide) (by decide)))

/-! ## Private messages -/

theorem admitting_checkPush (returned : Bool) : Admitting s (Session.checkPush returned) :=
  admitting_ite (admitting_pure _) (admitting_throw _)

theorem admitting_pushNotification (receiverId : Nat) (title text : String) :
    Admitting s (Session.pushNotification receiverId title text) := by
  have hfcm : Admitting s (do
      if ← request .hasFcm then Session.checkPush (← request (.notifyFcm receiverId title text))) :=
    admitting_ask rfl fun _ => admitting_ite
      (admitting_ask rfl fun _ => admitting_checkPush _) (admitting_pure _)
  refine admitting_ask rfl fun hasJpush => admitting_ite ?_ hfcm
  exact admitting_ask rfl fun _ => admitting_bind (admitting_checkPush _) fun _ => hfcm

theorem admitting_senderName : Admitting s (Session.senderName s) := by
  refine admitting_fetch fun found => ?_
  cases found with
  | some sender => exact admitting_pure _
  | none => exact admitting_pure _

theorem admitting_botReply (config : BotConfig) (userId : Nat) (content : String) :
    Admitting s (BotManager.reply config userId content) :=
  admitting_ask rfl fun _ => admitting_ask rfl fun _ => admitting_fetch fun _ =>
    admitting_sendToUser _ (refusal_of_ne nofun)

theorem admitting_sessionLines (userId : Nat) (sessions : List String) :
    Admitting s (BotManager.sessionLines userId sessions) := by
  induction sessions with
  | nil => exact admitting_pure _
  | cons session sessions ih =>
    exact admitting_fetch fun _ => admitting_bind ih fun _ => admitting_pure _

theorem admitting_handleBotMessage (config : BotConfig) (senderId : Nat) (content : String)
    (messageId : Nat) :
    Admitting s (BotManager.handleBotMessage config senderId content messageId) := by
  refine admitting_ite (admitting_pure _) (admitting_ask rfl fun entered => ?_)
  refine admitting_ite (admitting_pure _) (admitting_ask rfl fun conversation => ?_)
  refine admitting_fetch fun charCount => admitting_ite (admitting_botReply _ _ _) ?_
  refine admitting_ite ?_ (admitting_ite ?_ ?_)
  · exact admitting_fetch fun _ => admitting_ask rfl fun _ => admitting_botReply _ _ _
  · exact admitting_fetch fun _ => admitting_bind (admitting_sessionLines _ _) fun _ =>
      admitting_botReply _ _ _
  · exact admitting_fetch fun _ => admitting_fetch fun _ => admitting_request rfl

/-- The push notification, and the answer of the bot. -/
theorem admitting_privatePush (message : Message) (mediaType : Int) : Admitting s (do
    let title ← Session.senderName s
    Session.pushNotification message.receiverId title
      (Session.notificationBody mediaType message.content)
    match ← request .bot with
    | some config =>
      if message.receiverId = config.botUserId then
        BotManager.handleBotMessage config s.userId message.content message.messageId
    | none => pure ()) := by
  refine admitting_bind admitting_senderName fun _ =>
    admitting_bind (admitting_pushNotification _ _ _) fun _ => admitting_ask rfl fun config => ?_
  cases config with
  | none => exact admitting_pure _
  | some config => exact admitting_ite (admitting_handleBotMessage _ _ _ _) (admitting_pure _)

theorem admitting_privateMessage : Admitting s (s.handlePrivateMessage sequence body) := by
  refine admitting_authenticatedOnly (admitting_read fun _ => admitting_read fun _ =>
    admitting_read fun _ => admitting_read fun _ => admitting_read fun _ =>
    admitting_ite (admitting_sendError _ (by decide)) (admitting_bind ?_ fun r => ?_))
  · refine admitting_fetch fun saved => ?_
    cases saved with
    | none => exact admitting_pure _
    | some message => exact admitting_pure _
  cases r with
  | error message => exact admitting_sendError _ (by decide)
  | ok message =>
  refine admitting_bind (admitting_respond _ (by decide)) fun _ => ?_
  have hpush := admitting_privatePush (s := s) message
  refine admitting_ask rfl fun active => admitting_ite ?_ (hpush _)
  exact admitting_bind (admitting_sendToUser _ (refusal_of_ne nofun)) fun _ => hpush _

/-- The histories -/
theorem admitting_list {q : DbProg (Bool × List α)} {type : MessageType} {json : List α → Json}
    (h : type ≠ .error) : Admitting s ((do return (← db q).2 : SessionM (List α)) >>= fun xs =>
      s.respond sequence type (json xs)) :=
  admitting_bind (admitting_fetch fun _ => admitting_pure _) fun _ => admitting_respond _ h

theorem admitting_privateHistory : Admitting s (s.handlePrivateHistory sequence body) :=
  admitting_authenticatedOnly (admitting_read fun _ => admitting_read fun _ =>
    admitting_read fun _ => admitting_ite (admitting_sendError _ (by decide))
      (admitting_list (by decide)))

/-! ## Groups -/

theorem admitting_groupAction {operation : Nat → SessionM (Except String Unit)}
    {type : MessageType} (htype : type ≠ .error)
    (hop : ∀ groupId, Admitting s (operation groupId)) :
    Admitting s (s.groupAction sequence body operation type) :=
  admitting_authenticatedOnly (admitting_read fun groupId =>
    admitting_ite (admitting_sendError _ (by decide)) (admitting_bind (hop groupId) fun _ =>
      admitting_answer (by decide) htype))

/-- A handler that reads two ids. -/
theorem admitting_twoIds {first second missing : String} {b : Nat → Nat → Bool}
    {operation : Nat → Nat → SessionM (Except String Unit)} {type : MessageType}
    {data : Nat → Nat → Unit → Json} (htype : type ≠ .error)
    (hop : ∀ groupId userId, Admitting s (operation groupId userId)) :
    Admitting s (s.authenticatedOnly sequence do
      let groupId ← read (body.valueId first)
      let userId ← read (body.valueId second)
      if b groupId userId then s.sendError sequence 400 missing
      else
        let r ← operation groupId userId
        s.answer sequence r 500 type (data groupId userId)) :=
  admitting_authenticatedOnly (admitting_read fun _ => admitting_read fun _ =>
    admitting_ite (admitting_sendError _ (by decide)) (admitting_bind (hop _ _) fun _ =>
      admitting_answer (by decide) htype))

theorem admitting_groupCreate : Admitting s (s.handleGroupCreate sequence body) := by
  refine admitting_authenticatedOnly (admitting_read fun _ => admitting_read fun _ =>
    admitting_ite (admitting_sendError _ (by decide)) (admitting_bind ?_ fun _ =>
      admitting_answer (by decide) (by decide)))
  refine admitting_ite (admitting_pure _) (admitting_fetch fun created => ?_)
  split
  · exact admitting_pure _
  · exact admitting_pure _

theorem admitting_joinGroup (groupId userId : Nat) :
    Admitting s (GroupManager.joinGroup groupId userId) :=
  admitting_fetch fun _ => admitting_ite (admitting_pure _) (admitting_fetch fun _ =>
    admitting_ite (admitting_pure _) admitting_orFail)

theorem admitting_leaveGroup (groupId userId : Nat) :
    Admitting s (GroupManager.leaveGroup groupId userId) :=
  admitting_fetch fun _ => admitting_ite (admitting_pure _) admitting_orFail

theorem admitting_dismissGroup (ownerId groupId : Nat) :
    Admitting s (GroupManager.dismissGroup ownerId groupId) :=
  admitting_fetch fun _ => admitting_ite (admitting_pure _) admitting_orFail

theorem admitting_removeMember (operatorId groupId userId : Nat) :
    Admitting s (GroupManager.removeMember operatorId groupId userId) := by
  have hremove : Admitting s (do
      if ← GroupManager.isAdmin groupId userId then
        if !(← GroupManager.isOwner groupId operatorId) then
          return .error "No permission to remove admin"
      orFail "Failed to remove member" (db (removeGroupMember groupId userId))) :=
    admitting_fetch fun _ => admitting_ite (admitting_fetch fun _ =>
      admitting_ite (admitting_pure _) admitting_orFail) admitting_orFail
  have htarget : Admitting s (do
      if ← GroupManager.isOwner groupId userId then return .error "Cannot remove group owner"
      if ← GroupManager.isAdmin groupId userId then
        if !(← GroupManager.isOwner groupId operatorId) then
          return .error "No permission to remove admin"
      orFail "Failed to remove member" (db (removeGroupMember groupId userId))) :=
    admitting_fetch fun _ => admitting_ite (admitting_pure _) hremove
  exact admitting_fetch fun _ => admitting_ite
    (admitting_fetch fun _ => admitting_ite (admitting_pure _) htarget) htarget

theorem admitting_setAdmin (operatorId groupId userId : Nat) (isAdmin : Bool) :
    Admitting s (GroupManager.setAdmin operatorId groupId userId isAdmin) :=
  admitting_fetch fun _ => admitting_ite (admitting_pure _) (admitting_fetch fun _ =>
    admitting_ite (admitting_pure _) admitting_orFail)

theorem admitting_transferOwner (ownerId groupId newOwnerId : Nat) :
    Admitting s (GroupManager.transferOwner ownerId groupId newOwnerId) :=
  admitting_fetch fun _ => admitting_ite (admitting_pure _) (admitting_ite (admitting_pure _)
    (admitting_fetch fun _ => admitting_ite (admitting_pure _) admitting_orFail))

theorem admitting_groupInfo : Admitting s (s.handleGroupInfo sequence body) := by
  refine admitting_read fun _ => admitting_ite (admitting_sendError _ (by decide))
    (admitting_fetch fun found => ?_)
  cases found with
  | some group => exact admitting_respond _ (by decide)
  | none => exact admitting_sendError _ (by decide)

theorem admitting_membersInfo (groupId : Nat) (memberIds : List Nat) :
    Admitting s (Session.membersInfo groupId memberIds) := by
  induction memberIds with
  | nil => exact admitting_pure _
  | cons memberId memberIds ih =>
    refine admitting_fetch fun found => ?_
    cases found with
    | none => exact ih
    | some user => exact admitting_fetch fun _ => admitting_fetch fun _ =>
        admitting_bind ih fun _ => admitting_pure _

theorem admitting_groupMembers : Admitting s (s.handleGroupMembers sequence body) :=
  admitting_read fun _ => admitting_ite (admitting_sendError _ (by decide))
    (admitting_bind (admitting_fetch fun _ => admitting_pure _) fun _ =>
      admitting_bind (admitting_membersInfo _ _) fun _ => admitting_respond _ (by decide))

theorem admitting_groupSetAdmin : Admitting s (s.handleGroupSetAdmin sequence body) :=
  admitting_authenticatedOnly (admitting_read fun _ => admitting_read fun _ =>
    admitting_read fun _ => admitting_ite (admitting_sendError _ (by decide))
      (admitting_bind (admitting_setAdmin _ _ _ _) fun _ =>
        admitting_answer (by decide) (by decide)))

/-! ## Group messages -/

theorem admitting_forwardToMember (message : Message) (groupName text : String) (memberId : Nat) :
    Admitting s (Session.forwardToMember s message groupName text memberId) :=
  admitting_ite (admitting_pure _) (admitting_ask rfl fun _ => admitting_ite
    (admitting_sendToUser _ (refusal_of_ne nofun)) (admitting_pushNotification _ _ _))

theorem admitting_afterGroupMessage (groupId : Nat) (message : Message) (mediaType : Int) :
    Admitting s (Session.afterGroupMessage s groupId message mediaType) :=
  admitting_bind (admitting_fetch fun _ => admitting_pure _) fun _ => admitting_fetch fun _ =>
    admitting_bind admitting_senderName fun _ =>
      admitting_forEach (fun _ => admitting_forwardToMember _ _ _ _) _

theorem admitting_groupMessage : Admitting s (s.handleGroupMessage sequence body) := by
  refine admitting_authenticatedOnly (admitting_read fun _ => admitting_read fun _ =>
    admitting_read fun _ => admitting_read fun _ => admitting_read fun _ =>
    admitting_ite (admitting_sendError _ (by decide)) (admitting_bind ?_ fun r => ?_))
  · refine admitting_fetch fun _ => admitting_ite (admitting_pure _)
      (admitting_fetch fun saved => ?_)
    cases saved with
    | none => exact admitting_pure _
    | some message => exact admitting_pure _
  · cases r with
    | ok message => exact admitting_bind (admitting_respond _ (by decide)) fun _ =>
        admitting_afterGroupMessage _ _ _
    | error message => exact admitting_sendError _ (by decide)

theorem admitting_groupHistory : Admitting s (s.handleGroupHistory sequence body) :=
  admitting_authenticatedOnly (admitting_read fun _ => admitting_read fun _ =>
    admitting_read fun _ => admitting_ite (admitting_sendError _ (by decide))
      (admitting_list (by decide)))

/-! ## Media and keys -/

theorem admitting_mediaUpload : Admitting s (s.handleMediaUpload sequence body) := by
  refine admitting_authenticatedOnly (admitting_read fun _ => admitting_read fun _ =>
    admitting_read fun _ => admitting_ite (admitting_sendError _ (by decide))
    (admitting_ite (admitting_sendError _ (by decide))
      (admitting_ite (admitting_sendError _ (by decide)) (admitting_ask rfl fun path =>
        admitting_ask rfl fun written => admitting_ite (admitting_fetch fun saved => ?_)
          (admitting_sendError _ (by decide))))))
  cases saved with
  | none => exact admitting_ask rfl fun _ => admitting_sendError _ (by decide)
  | some file => exact admitting_respond _ (by decide)

theorem admitting_keyUpload : Admitting s (s.handleKeyUpload sequence body) :=
  admitting_authenticatedOnly (admitting_read fun _ =>
    admitting_ite (admitting_sendError _ (by decide)) (admitting_fetch fun _ => admitting_ite
      (admitting_ask rfl fun _ => admitting_respond _ (by decide))
      (admitting_sendError _ (by decide))))

theorem admitting_keyRequest : Admitting s (s.handleKeyRequest sequence body) := by
  refine admitting_authenticatedOnly (admitting_read fun _ =>
    admitting_ite (admitting_sendError _ (by decide)) (admitting_fetch fun found => ?_))
  cases found with
  | some publicKey => exact admitting_respond _ (by decide)
  | none => exact admitting_sendError _ (by decide)

theorem admitting_encryptedMessage : Admitting s (s.handleEncryptedMessage sequence body) :=
  admitting_authenticatedOnly (admitting_read fun _ => admitting_read fun _ =>
    admitting_read fun _ => admitting_read fun _ => admitting_read fun _ => admitting_read fun _ =>
    admitting_ite (admitting_sendError _ (by decide)) (admitting_ask rfl fun _ =>
      admitting_ask rfl fun _ => admitting_fetch fun _ =>
        admitting_bind (admitting_respond _ (by decide)) fun _ =>
          admitting_sendToUser _ (refusal_of_ne nofun)))

/-! ## Recalling messages -/

theorem admitting_recallGroup (messageId groupId : Nat) :
    Admitting s (Session.recallGroup s sequence messageId groupId) := by
  have hnotice (timestamp : Int) (memberId : Nat) : Admitting s (sendToUser memberId
      ⟨.messageRecall, sequence, Session.recallJson s messageId (some groupId) timestamp⟩) :=
    admitting_sendToUser _ (refusal_of_ne nofun)
  refine admitting_fetch fun _ => admitting_ite (admitting_fetch fun members =>
    admitting_ask rfl fun timestamp => ?_) (admitting_pure _)
  exact admitting_bind (admitting_forEach (hnotice timestamp) _) fun _ => admitting_pure _

theorem admitting_recallPrivate (messageId : Nat) :
    Admitting s (Session.recallPrivate s sequence messageId) := by
  have hnotice (timestamp : Int) : Admitting s (broadcast
      ⟨.messageRecall, sequence, Session.recallJson s messageId none timestamp⟩) :=
    admitting_broadcast (refusal_of_ne nofun)
  refine admitting_fetch fun _ => admitting_ite (admitting_fetch fun _ =>
    admitting_ite ?_ (admitting_pure _)) (admitting_pure _)
  exact admitting_ask rfl fun timestamp => admitting_bind (hnotice timestamp) fun _ =>
    admitting_pure _

theorem admitting_messageRecall : Admitting s (s.handleMessageRecall sequence body) := by
  refine admitting_authenticatedOnly (admitting_read fun messageId => admitting_read fun isGroup =>
    admitting_read fun groupId => admitting_ite (admitting_sendError _ (by decide)) ?_)
  cases isGroup with
  | true => exact admitting_bind (admitting_recallGroup _ _) fun _ =>
      admitting_respond _ (by decide)
  | false => exact admitting_bind (admitting_recallPrivate _) fun _ =>
      admitting_respond _ (by decide)

/-! ## Tokens and favorites -/

theorem admitting_fcmTokenRegister : Admitting s (s.handleFcmTokenRegister sequence body) := by
  have hsave (token tokenType missing : String) (configured : Bool) : Admitting s (do
      if !configured then s.sendError sequence 500 missing
      else if ← db (saveFcmToken s.userId token) then
        s.respond sequence .fcmTokenRegisterResponse
          (Session.success [("user_id", .number s.userId), ("token_type", .string tokenType)])
      else s.sendError sequence 500 "Failed to register token") :=
    admitting_ite (admitting_sendError _ (by decide)) (admitting_fetch fun _ =>
      admitting_ite (admitting_respond _ (by decide)) (admitting_sendError _ (by decide)))
  refine admitting_authenticatedOnly (admitting_read fun token =>
    admitting_ite (admitting_sendError _ (by decide)) (admitting_read fun tokenType => ?_))
  split
  · exact admitting_ask rfl (hsave _ _ _)
  · exact admitting_ask rfl (hsave _ _ _)

theorem admitting_favoriteAdd : Admitting s (s.handleFavoriteAdd sequence body) :=
  admitting_authenticatedOnly (admitting_read fun _ => admitting_read fun _ =>
    admitting_read fun _ => admitting_read fun _ => admitting_read fun _ => admitting_read fun _ =>
    admitting_ite (admitting_sendError _ (by decide))
      (admitting_ite (admitting_sendError _ (by decide)) (admitting_fetch fun _ =>
        admitting_ite (admitting_respond _ (by decide)) (admitting_sendError _ (by decide)))))

theorem admitting_favoriteRemove : Admitting s (s.handleFavoriteRemove sequence body) :=
  admitting_authenticatedOnly (admitting_read fun _ => admitting_read fun _ =>
    admitting_ite (admitting_sendError _ (by decide)) (admitting_fetch fun _ =>
      admitting_ite (admitting_respond _ (by decide)) (admitting_sendError _ (by decide))))

theorem admitting_favoriteList : Admitting s (s.handleFavoriteList sequence body) :=
  admitting_authenticatedOnly (admitting_read fun _ => admitting_read fun _ =>
    admitting_fetch fun _ => admitting_ite (admitting_respond _ (by decide))
      (admitting_sendError _ (by decide)))

/-! ## Every request -/

/-- What a handler does with `authenticated_`, and whom it answers 401, if `authenticated_` was
    `auth` when it started. -/
structure Sound (auth : Bool) (type : Option MessageType) (c : Call) : Prop where
  login : c = .setAuthenticated true → type = some .login
  logout : c = .setAuthenticated false → type = some .logout
  admits : auth = true → type ≠ some .login → refuses c = false

theorem Session.Admits.sound {c : Call} {type : Option MessageType} (h : s.Admits c) :
    Sound s.authenticated type c :=
  ⟨fun hc => absurd hc (h.1 true), fun hc => absurd hc (h.1 false), fun hauth _ => h.2 hauth⟩

theorem sound_login :
    CallsOnly (Sound s.authenticated (some .login)) (s.handleLogin sequence body).run := by
  have hsound {α : Type} {p : SessionM α} (h : Admitting s p) :
      CallsOnly (Sound s.authenticated (some .login)) p.run := h.imp fun _ => Session.Admits.sound
  have hanswer : ∀ x frame,
      CallsOnly (Sound s.authenticated (some .login)) (request (.send x frame)).run :=
    fun x frame => callsOnly_requestM ⟨nofun, nofun, fun _ h => absurd rfl h⟩
  have hread {x : Except JsonError String} :
      CallsOnly (Sound s.authenticated (some .login)) (read x).run := by
    cases x <;> trivial
  refine callsOnly_bindM hread fun username => callsOnly_bindM hread fun password =>
    callsOnly_iteM (hanswer _ _) (callsOnly_bindM ?_ fun r => ?_)
  · refine hsound (admitting_fetch fun user => ?_)
    cases user with
    | none => exact admitting_pure _
    | some user =>
    refine admitting_fetch fun hash => ?_
    cases hash with
    | none => exact admitting_pure _
    | some hash =>
    refine admitting_ask rfl fun verified => admitting_ite (admitting_pure _) ?_
    refine admitting_bind (admitting_ite (admitting_pure _) (admitting_ask rfl fun newHash => ?_))
      fun _ => admitting_pure _
    cases newHash with
    | some newHash => exact admitting_fetch fun _ => admitting_pure _
    | none => exact admitting_pure _
  · cases r with
    | error message => exact hanswer _ _
    | ok user =>
    refine callsOnly_bindM (hsound (admitting_request rfl)) fun _ => callsOnly_bindM
      (callsOnly_requestM ⟨fun _ => rfl, nofun, fun _ _ => rfl⟩) fun _ => ?_
    exact callsOnly_bindM (hsound (admitting_db _)) fun _ => callsOnly_bindM
      (hsound (admitting_request rfl)) fun _ => hanswer _ _

theorem sound_logout :
    CallsOnly (Sound s.authenticated (some .logout)) (s.handleLogout sequence).run := by
  have hsound {α : Type} {p : SessionM α} (h : Admitting s p) :
      CallsOnly (Sound s.authenticated (some .logout)) p.run := h.imp fun _ => Session.Admits.sound
  unfold Session.handleLogout Session.authenticatedOnly
  split
  next =>
    refine callsOnly_bindM (hsound (admitting_db _)) fun _ => callsOnly_bindM
      (callsOnly_requestM ⟨nofun, fun _ => rfl, fun _ _ => rfl⟩) fun _ => ?_
    exact callsOnly_bindM (hsound (admitting_respond _ (by decide))) fun _ =>
      hsound (admitting_request rfl)
  next hauth => exact callsOnly_requestM ⟨nofun, nofun, fun hauth' => absurd hauth' hauth⟩

theorem sound_handleMessage (s : Session) (sequence : UInt32) (body : Json) (type : UInt8) :
    CallsOnly (Sound s.authenticated (MessageType.ofCode type))
      (s.handleMessage sequence body type).run := by
  unfold Session.handleMessage
  cases MessageType.ofCode type with
  | none => exact Prog.CallsOnly.imp (admitting_sendError _ (by decide)) fun _ =>
      Session.Admits.sound
  | some t =>
  have hsound {p : SessionM Unit} (h : Admitting s p) :
      CallsOnly (Sound s.authenticated (some t)) p.run := h.imp fun _ => Session.Admits.sound
  cases t with
  | login => exact sound_login
  | logout => exact sound_logout
  | register => exact hsound admitting_register
  | userInfo => exact hsound admitting_userInfo
  | userSearch => exact hsound admitting_userSearch
  | userUpdate => exact hsound admitting_userUpdate
  | passwordUpdate => exact hsound admitting_passwordUpdate
  | friendAdd => exact hsound (admitting_friendAction (by decide) (fun _ => admitting_db _)
      admitting_afterFriendAdd)
  | friendAccept => exact hsound (admitting_friendAction (by decide) (fun _ => admitting_db _)
      fun _ => admitting_pure _)
  | friendReject => exact hsound (admitting_friendAction (by decide) (fun _ => admitting_db _)
      fun _ => admitting_pure _)
  | friendRemove => exact hsound (admitting_friendAction (by decide) (fun _ => admitting_db _)
      fun _ => admitting_pure _)
  | friendList => exact hsound (admitting_authenticatedOnly (admitting_fetch fun _ =>
      admitting_respond _ (by decide)))
  | friendRequests => exact hsound (admitting_authenticatedOnly (admitting_fetch fun _ =>
      admitting_respond _ (by decide)))
  | friendRemark => exact hsound admitting_friendRemark
  | privateMessage => exact hsound admitting_privateMessage
  | privateHistory => exact hsound admitting_privateHistory
  | groupCreate => exact hsound admitting_groupCreate
  | groupJoin => exact hsound (admitting_groupAction (by decide) fun groupId =>
      admitting_joinGroup groupId s.userId)
  | groupLeave => exact hsound (admitting_groupAction (by decide) fun groupId =>
      admitting_leaveGroup groupId s.userId)
  | groupDismiss => exact hsound (admitting_groupAction (by decide) fun groupId =>
      admitting_dismissGroup s.userId groupId)
  | groupInfo => exact hsound admitting_groupInfo
  | groupList => exact hsound (admitting_authenticatedOnly (admitting_list (by decide)))
  | groupMembers => exact hsound admitting_groupMembers
  | groupAddMember => exact hsound (admitting_twoIds (by decide) admitting_joinGroup)
  | groupRemoveMember => exact hsound (admitting_twoIds (by decide)
      (admitting_removeMember s.userId))
  | groupSetAdmin => exact hsound admitting_groupSetAdmin
  | groupTransferOwner => exact hsound (admitting_twoIds (by decide)
      (admitting_transferOwner s.userId))
  | groupMessage => exact hsound admitting_groupMessage
  | groupHistory => exact hsound admitting_groupHistory
  | mediaUpload => exact hsound admitting_mediaUpload
  | heartbeat => exact hsound (admitting_ask rfl fun _ => admitting_respond _ (by decide))
  | keyUpload => exact hsound admitting_keyUpload
  | keyRequest => exact hsound admitting_keyRequest
  | encryptedMessage => exact hsound admitting_encryptedMessage
  | messageRecall => exact hsound admitting_messageRecall
  | fcmTokenRegister => exact hsound admitting_fcmTokenRegister
  | favoriteAdd => exact hsound admitting_favoriteAdd
  | favoriteRemove => exact hsound admitting_favoriteRemove
  | favoriteList => exact hsound admitting_favoriteList
  | _ => exact hsound (admitting_sendError _ (by decide))

/-- The task of a frame, for every frame. -/
theorem sound_task (s : Session) (sequence : UInt32) (body : Json) (type : UInt8) :
    CallsOnly (Sound s.authenticated (MessageType.ofCode type)) (s.task sequence body type) :=
  callsOnly_bind (sound_handleMessage s sequence body type) fun _ => trivial

end ChatApp.Session
