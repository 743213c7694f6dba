/-
  The handlers one by one, and the theorem about all of them: in every run of a request, each
  call is one that the policy allows after the calls and answers before it.
-/
import ChatApp.Session.Access

namespace ChatApp.Session

open ChatApp.Lib ChatApp.Lib.Prog ChatApp.Database ChatApp.Protocol

variable {s : Session} {body : Json} {l : List Event} {α : Type} {sequence : UInt32}

/-! ## Frames -/

theorem safe_send (frame : Frame) : Safe s body (s.send frame) :=
  safe_request fun _ => .inl rfl

theorem safe_sendError (code : Int) (message : String) :
    Safe s body (s.sendError sequence code message) := safe_send _

theorem safe_respond (type : MessageType) (data : Json) :
    Safe s body (s.respond sequence type data) := safe_send _

theorem safe_answer (r : Except String α) (code : Int) (type : MessageType) (data : α → Json) :
    Safe s body (s.answer sequence r code type data) := by
  cases r with
  | ok a => exact safe_respond _ _
  | error message => exact safe_sendError _ _

theorem safe_authenticatedOnly {handler : SessionM Unit}
    (h : s.authenticated = true → Safe s body handler) :
    Safe s body (s.authenticatedOnly sequence handler) :=
  fun l => guarded_ite (fun hauth => h hauth l) fun _ => safe_sendError _ _ l

theorem safe_sendToUser (hauth : s.authenticated = true) (userId : Nat) (frame : Frame) :
    Safe s body (sendToUser userId frame) := by
  refine fun l => guarded_ask hauth fun found => ?_
  cases found with
  | none => exact guarded_pure trivial
  | some x =>
    refine guarded_request (.inr ⟨hauth, .inl ⟨userId, ?_⟩⟩) fun _ => trivial
    exact List.mem_append_right _ (List.mem_singleton.2 rfl)

theorem guarded_broadcast (hauth : s.authenticated = true) {messageId : Nat}
    (hsent : Sent l messageId s.userId) (frame : Frame) :
    Guarded s body l (broadcast frame) fun _ _ => True := by
  have hsends (xs : List SessionId) (l : List Event) (hxs : ∀ x ∈ xs, Reached l x) :
      Guarded s body l (forEach (fun x => request (.send x frame)) xs) fun _ _ => True := by
    induction xs generalizing l with
    | nil => exact guarded_pure trivial
    | cons x xs ih =>
      have hx : s.Allowed body l (.send x frame) := .inr ⟨hauth, hxs x List.mem_cons_self⟩
      refine guarded_ask hx fun _ => ih _ fun y hy => ?_
      exact (hxs y (List.mem_cons_of_mem _ hy)).mono (List.prefix_append _ _)
  refine guarded_ask ⟨hauth, messageId, hsent⟩ fun xs => hsends _ _ fun x hx => ?_
  exact .inr ⟨xs, List.mem_append_right _ (List.mem_singleton.2 rfl), hx⟩

/-! ## Users -/

theorem guarded_orFail {message : String} {q : DbProg Bool} (h : Permitted s body l q) :
    Guarded s body l (orFail message (db q)) fun _ _ => True :=
  guarded_then (guarded_db h.audited) fun _ => safe_pure _

theorem safe_hashPassword (password : String) :
    Safe s body (UserManager.hashPassword password) := by
  refine safe_ask (fun _ => trivial) fun hash => ?_
  cases hash with
  | some hash => exact safe_pure hash
  | none => exact safe_throw _

theorem guarded_getUserById (userId : Nat) : Guarded s body l (db (getUserById userId))
    fun found l' => ∀ user, found = some user →
      ∃ row, AnsweredFirst l' (.users (.byId userId)) row ∧ row.user = user := by
  have hread : Guarded s body l (db (getUserById userId))
      (Shown (.users (.byId userId)) (Option.map Row.user)) := guarded_connectedRow trivial
  refine hread.mono fun found l' _ ⟨row, hfound, hrow⟩ user huser => ?_
  cases row with
  | none => cases hfound.symm.trans huser
  | some row => exact ⟨row, hrow row rfl, Option.some.inj (hfound.symm.trans huser)⟩

theorem permitted_getUserById (userId : Nat) : Permitted s body l (getUserById userId) :=
  permitted_locked (permitted_connected (permitted_bind (permitted_selectFirst trivial) fun _ =>
    permitted_pure _))

theorem guarded_getUserPasswordHash {username : String}
    (h : IsNameOf body l s.userId username) :
    Guarded s body l (db (getUserPasswordHash username)) fun found l' => ∀ hash, found = some hash →
      ∃ row, AnsweredFirst l' (.users (.password username)) row ∧ row.str 0 = hash := by
  have hread : Guarded s body l (db (getUserPasswordHash username))
      (Shown (.users (.password username)) fun row => row.bind fun row =>
        if row.cell 0 = .null then none else some (row.str 0)) := guarded_connectedRow h
  refine hread.mono fun found l' _ ⟨row, hfound, hrow⟩ hash hhash => ?_
  cases row with
  | none => cases hfound.symm.trans hhash
  | some row =>
    have hcell : (if row.cell 0 = .null then none else some (row.str 0)) = some hash :=
      hfound.symm.trans hhash
    split at hcell
    · cases hcell
    · exact ⟨row, hrow row rfl, Option.some.inj hcell⟩

/-- Asking whether the password goes with the stored hash -/
theorem guarded_verify {username password hash : String} {row : Row}
    (hrow : AnsweredFirst l (.users (.password username)) row) (hhash : row.str 0 = hash) :
    Guarded s body l (request (.verifyPassword password hash)) fun ok l' =>
      ok = true → Verified l' username password := by
  subst hhash
  refine guarded_request trivial fun ok hok => ?_
  have hok : ok = true := hok
  subst hok
  exact ⟨row, hrow.mono (List.prefix_append _ _),
    List.mem_append_right _ (List.mem_singleton.2 rfl)⟩

theorem permitted_updateUserPassword {userId : Nat} {password : String}
    (h : LoggedIn body l userId ∨ s.IsSelf userId ∧ KnowsPassword body l userId) :
    Permitted s body l (updateUserPassword userId password) :=
  permitted_stamped fun _ => permitted_query h

theorem safe_registerUser (username password nickname : String) :
    Safe s body (UserManager.registerUser username password nickname) := by
  refine safe_fetch (fun _ => permitted_row trivial) fun found => safe_ite (safe_pure _) ?_
  refine safe_bind (safe_hashPassword _) fun hash => safe_fetch (fun l => ?_) fun userId => ?_
  · exact permitted_locked (permitted_connected (permitted_bind (permitted_request fun _ => nofun)
      fun _ => permitted_bind (permitted_query trivial) fun _ => permitted_ite (permitted_pure _)
        (permitted_bind (permitted_request fun _ => nofun) fun _ => permitted_pure _)))
  · cases userId with
    | none => exact safe_pure _
    | some userId => exact safe_pure _

theorem safe_register : Safe s body (s.handleRegister sequence body) :=
  safe_read fun _ => safe_read fun _ => safe_read fun _ => safe_ite (safe_sendError _ _)
    (safe_bind (safe_registerUser _ _ _) fun _ => safe_answer _ _ _ _)

theorem guarded_upgradeHash {userId : Nat} (h : LoggedIn body l userId)
    (password storedHash : String) :
    Guarded s body l (UserManager.upgradeHash userId password storedHash) fun _ _ => True := by
  refine guarded_ite (fun _ => guarded_pure trivial) fun _ => guarded_ask trivial fun hash => ?_
  cases hash with
  | none => exact guarded_pure trivial
  | some hash =>
    have hnow := h.mono (List.prefix_append l [⟨.hashPassword password, some hash⟩])
    exact guarded_then (guarded_db (permitted_updateUserPassword (.inl hnow)).audited) fun _ =>
      safe_pure _

/-- A login that succeeds has shown that the password is right. -/
theorem guarded_login {username password : String}
    (hname : body.valueString "username" "" = .ok username)
    (hpassword : body.valueString "password" "" = .ok password) :
    Guarded s body l (UserManager.login username password) fun r l' =>
      ∀ userInfo, r = .ok userInfo → LoggedIn body l' userInfo.userId := by
  have hread : Audited (s.dbAudit body) l (getUserByUsername username)
      (Shown (.users (.byUsername username)) (Option.map Row.user)) := audited_row trivial
  refine guarded_bind (guarded_db hread) fun found l₁ _ ⟨userRow, hfound, huserRow⟩ => ?_
  subst hfound
  cases userRow with
  | none => exact guarded_pure fun _ h => by cases h
  | some userRow =>
  have huserRow := huserRow userRow rfl
  refine guarded_bind (guarded_getUserPasswordHash (.inl hname)) fun found l₂ hl₂ hfound => ?_
  cases found with
  | none => exact guarded_pure fun _ h => by cases h
  | some hash =>
  obtain ⟨row, hrow, hhash⟩ := hfound hash rfl
  refine guarded_bind (guarded_verify hrow hhash) fun ok l₃ hl₃ hok => ?_
  refine guarded_ite (fun _ => guarded_pure fun _ h => by cases h) fun hnot => ?_
  have hlogged : LoggedIn body l₃ userRow.user.userId :=
    ⟨username, password, userRow, hname, hpassword, (huserRow.mono hl₂).mono hl₃, rfl,
      hok (by simpa using hnot)⟩
  refine guarded_bind (guarded_upgradeHash hlogged _ _) fun _ l₄ hl₄ _ => guarded_pure ?_
  intro userInfo huser
  cases huser
  exact hlogged.mono hl₄

theorem safe_login : Safe s body (s.handleLogin sequence body) := by
  refine fun l => guarded_read fun username hname => guarded_read fun password hpassword =>
    guarded_ite (fun _ => safe_sendError _ _ l) fun _ => ?_
  refine guarded_bind (guarded_login hname hpassword) fun r l₁ _ hr => ?_
  cases r with
  | error message => exact safe_sendError _ _ l₁
  | ok userInfo =>
  have hlogged := hr userInfo rfl
  refine guarded_ask hlogged fun _ => ?_
  have hlogged := hlogged.mono (List.prefix_append l₁ [⟨.setUserId userInfo.userId, ()⟩])
  have hset : s.Allowed body (l₁ ++ [⟨.setUserId userInfo.userId, ()⟩]) (.setAuthenticated true) :=
    ⟨userInfo.userId, hlogged, List.mem_append_right _ (List.mem_singleton.2 rfl)⟩
  refine guarded_ask hset fun _ => ?_
  have hlogged := hlogged.mono
    (List.prefix_append (l₁ ++ [⟨.setUserId userInfo.userId, ()⟩]) [⟨.setAuthenticated true, ()⟩])
  have honline : s.Permits body _ (.users (.updateOnlineStatus userInfo.userId .online)) :=
    .inl ⟨hlogged, rfl⟩
  have hstatus := permitted_locked (permitted_query honline)
  refine guarded_bind (guarded_db hstatus.audited) fun _ l₂ hl₂ _ => ?_
  exact guarded_ask (hlogged.mono hl₂) fun _ => safe_respond _ _ _

theorem safe_logout : Safe s body (s.handleLogout sequence) := by
  refine safe_authenticatedOnly fun hauth => safe_fetch (fun l => ?_) fun _ =>
    safe_ask (fun _ => hauth) fun _ => safe_bind (safe_respond _ _) fun _ =>
      safe_request fun _ => hauth
  exact permitted_locked (permitted_query (.inr ⟨⟨hauth, rfl⟩, rfl⟩))

theorem safe_userInfo : Safe s body (s.handleUserInfo sequence body) := by
  refine safe_read fun userId => safe_ite (safe_sendError _ _)
    (safe_fetch (fun _ => permitted_getUserById _) fun found => ?_)
  cases found with
  | some user => exact safe_respond _ _
  | none => exact safe_sendError _ _

theorem safe_userSearch : Safe s body (s.handleUserSearch sequence body) :=
  safe_authenticatedOnly fun hauth => safe_read fun _ => safe_read fun _ =>
    safe_fetch (fun _ => permitted_rows hauth) fun _ => safe_respond _ _

theorem safe_userUpdate : Safe s body (s.handleUserUpdate sequence body) := by
  refine safe_authenticatedOnly fun hauth l => ?_
  have hupdate (l : List Event) (user : UserInfo) (huser : Recorded l s.userId user.userId) :
      Guarded s body l (do
        let nickname ← read (Session.updateField body "nickname" user.nickname)
        let avatarUrl ← read (Session.updateField body "avatar_url" user.avatarUrl)
        let signature ← read (Session.updateField body "signature" user.signature)
        let user := { user with nickname, avatarUrl, signature }
        if ← db (updateUser user) then s.respond sequence .userUpdateResponse (userJson user)
        else s.sendError sequence 500 "Failed to update user info") fun _ _ => True := by
    refine guarded_read fun nickname _ => guarded_read fun avatarUrl _ =>
      guarded_read fun signature _ => ?_
    have hwrite : Permitted s body l (updateUser { user with nickname, avatarUrl, signature }) :=
      permitted_stamped fun _ => permitted_query ⟨hauth, huser⟩
    exact guarded_then (guarded_db hwrite.audited) fun _ =>
      safe_ite (safe_respond _ _) (safe_sendError _ _)
  refine guarded_bind (guarded_getUserById s.userId) fun found l₁ _ hfound => ?_
  cases found with
  | some user =>
    obtain ⟨row, hrow, hrecord⟩ := hfound user rfl
    exact hupdate l₁ user (.inl ⟨row, hrow, congrArg UserInfo.userId hrecord⟩)
  | none =>
    refine guarded_ask trivial fun user => hupdate _ user (.inr ⟨user, ?_, rfl⟩)
    exact List.mem_append_right _ (List.mem_singleton.2 rfl)

theorem guarded_updatePassword (hauth : s.authenticated = true) {oldPassword : String}
    (hold : body.valueString "old_password" "" = .ok oldPassword) (newPassword : String) :
    Guarded s body l (UserManager.updatePassword s.userId oldPassword newPassword)
      fun _ _ => True := by
  refine guarded_bind (guarded_getUserById s.userId) fun found l₁ _ hfound => ?_
  cases found with
  | none => exact guarded_pure trivial
  | some user =>
  obtain ⟨row, hrow, hrecord⟩ := hfound user rfl
  have hname : IsNameOf body l₁ s.userId user.username :=
    .inr ⟨row, hrow, congrArg UserInfo.username hrecord⟩
  refine guarded_bind (guarded_getUserPasswordHash hname) fun found l₂ hl₂ hfound => ?_
  cases found with
  | none => exact guarded_pure trivial
  | some hash =>
  obtain ⟨hashRow, hhashRow, hhash⟩ := hfound hash rfl
  refine guarded_bind (guarded_verify hhashRow hhash) fun ok l₃ hl₃ hok => ?_
  refine guarded_ite (fun _ => guarded_pure trivial) fun hnot => ?_
  have hknows : KnowsPassword body l₃ s.userId :=
    ⟨oldPassword, row, hold, (hrow.mono hl₂).mono hl₃, hrecord ▸ hok (by simpa using hnot)⟩
  refine guarded_bind (safe_hashPassword newPassword l₃) fun _ l₄ hl₄ _ => guarded_orFail ?_
  exact permitted_updateUserPassword (.inr ⟨⟨hauth, rfl⟩, hknows.mono hl₄⟩)

theorem safe_passwordUpdate : Safe s body (s.handlePasswordUpdate sequence body) :=
  safe_authenticatedOnly fun hauth l => guarded_read fun _ hold => guarded_read fun newPassword _ =>
    guarded_ite (fun _ => safe_sendError _ _ l) fun _ => guarded_ite
      (fun _ => safe_sendError _ _ l) fun _ =>
        guarded_then (guarded_updatePassword hauth hold newPassword) fun _ => safe_answer _ _ _ _

/-! ## Friends -/

theorem audited_isFriend {userId : Nat} (h : s.IsSelf userId) (friendId : Nat) :
    Audited (s.dbAudit body) l (Database.isFriend userId friendId) fun b l' =>
      b = true → Befriends l' userId friendId := by
  have hpermits : s.Permits body l (.friends (.countAccepted userId friendId)) := h
  refine (audited_row hpermits).mono fun b l' _ hshown hb => ?_
  obtain ⟨row, hrow, hcount⟩ := hshown.any hb
  exact ⟨row, hrow, of_decide_eq_true hcount⟩

theorem permitted_addFriendRequest {userId : Nat} (h : s.IsSelf userId) (friendId : Nat) :
    Permitted s body l (Friends.FriendManager.addFriendRequest userId friendId) := by
  have hinsert : Permitted s body l (Database.addFriendRequest userId friendId) :=
    permitted_stamped fun _ => permitted_query (.inl ⟨h, fun hs => by cases hs⟩)
  have hrequests : Permitted s body l (Friends.FriendManager.getFriendRequests friendId) :=
    permitted_bind (permitted_rows h.1) fun _ => permitted_pure _
  refine permitted_ite (permitted_pure _) (permitted_bind (permitted_getUserById _) fun _ =>
    permitted_ite (permitted_pure _) (permitted_bind (permitted_row h) fun _ =>
      permitted_ite (permitted_pure _) (permitted_bind hrequests fun _ => ?_)))
  exact permitted_ite (permitted_pure _) (permitted_bind hinsert fun _ =>
    permitted_ite (permitted_pure _) (permitted_pure _))

/-- A friend request is accepted only if it was there. -/
theorem audited_acceptFriendRequest {userId : Nat} (h : s.IsSelf userId) (friendId : Nat) :
    Audited (s.dbAudit body) l (Friends.FriendManager.acceptFriendRequest userId friendId)
      fun r l' => r = .ok () → AskedBy l' userId friendId := by
  have hread : Audited (s.dbAudit body) l (Friends.FriendManager.getFriendRequests userId)
      fun requests l' => Friends.FriendManager.requestedBy requests friendId = true →
        AskedBy l' userId friendId := by
    have hpermits : s.Permits body l (.friends (.listRequests userId)) := h.1
    refine audited_bind (audited_rows hpermits) ?_
    rintro _ l' _ ⟨rows, rfl, hrows⟩
    refine audited_ret fun hasked => ?_
    obtain ⟨x, hx, hfriend⟩ := List.any_eq_true.1 hasked
    cases rows with
    | none => cases hx
    | some rows =>
      obtain ⟨row, hrow, rfl⟩ := List.mem_map.1 hx
      exact ⟨rows, hrows rows rfl, row, hrow, of_decide_eq_true hfriend⟩
  refine audited_bind hread fun requests l' _ hasked => ?_
  refine audited_ite (fun _ => audited_ret fun hr => by cases hr) fun hnot => ?_
  have hasked := hasked (by simpa using hnot)
  have hwrite : Permitted s body l' (Database.acceptFriendRequest userId friendId) :=
    permitted_stamped fun _ => permitted_bind (permitted_query (.inl ⟨h, fun _ => hasked⟩))
      fun _ => permitted_ite (permitted_pure _) (permitted_query (.inl ⟨h, fun _ => hasked⟩))
  have hrest := permitted_bind hwrite fun done =>
    permitted_ite (b := !done) (permitted_pure (.error "Failed to accept friend request"))
      (permitted_pure (.ok () : Except String Unit))
  exact hrest.audited.mono fun _ _ hl _ _ => hasked.mono hl

theorem permitted_rejectFriendRequest {userId : Nat} (h : s.IsSelf userId) (friendId : Nat) :
    Permitted s body l (Friends.FriendManager.rejectFriendRequest userId friendId) :=
  permitted_bind (permitted_stamped fun _ => permitted_query (.inl ⟨h, fun hs => by cases hs⟩))
    fun _ => permitted_ite (permitted_pure _) (permitted_pure _)

/-- An operation that is for friends only -/
theorem audited_forFriends {userId friendId : Nat} (h : s.IsSelf userId) {failed : String}
    {q : DbProg Bool} (hq : ∀ l, Befriends l userId friendId → Permitted s body l q) :
    Audited (s.dbAudit body) l (do
      if !(← Database.isFriend userId friendId) then return .error "Not friends"
      if !(← q) then return .error failed
      return (.ok () : Except String Unit)) fun _ _ => True := by
  refine audited_bind (audited_isFriend h friendId) fun b l' _ hfriend => ?_
  refine audited_ite (fun _ => audited_ret trivial) fun hnot => Permitted.audited ?_
  exact permitted_bind (hq l' (hfriend (by simpa using hnot))) fun _ =>
    permitted_ite (permitted_pure _) (permitted_pure _)

theorem safe_friendAction {operation : Nat → SessionM (Except String Unit)} {type : MessageType}
    {after : Nat → SessionM Unit}
    (hop : s.authenticated = true → ∀ friendId, Safe s body (operation friendId))
    (hafter : s.authenticated = true → ∀ friendId, Safe s body (after friendId)) :
    Safe s body (s.friendAction sequence body operation type after) := by
  refine safe_authenticatedOnly fun hauth => safe_read fun friendId =>
    safe_ite (safe_sendError _ _) (safe_bind (hop hauth friendId) fun r => ?_)
  cases r with
  | ok u => exact safe_bind (safe_respond _ _) fun _ => hafter hauth friendId
  | error message => exact safe_sendError _ _

theorem isBot_append (config : BotConfig) : IsBot (l ++ [⟨.bot, some config⟩]) config.botUserId :=
  ⟨config, List.mem_append_right _ (List.mem_singleton.2 rfl), rfl⟩

/-- The bot becomes a friend at once. -/
theorem guarded_handleFriendRequest (hauth : s.authenticated = true) {config : BotConfig}
    (hbot : IsBot l config.botUserId) :
    Guarded s body l (BotManager.handleFriendRequest config s.userId) fun _ _ => True := by
  refine guarded_ite (fun _ => guarded_pure trivial) fun _ => guarded_fetch ?_ fun _ l' _ =>
    guarded_ite (fun _ => guarded_ask trivial fun _ => safe_sendToUser hauth _ _ _)
      fun _ => guarded_pure trivial
  exact permitted_stamped fun _ => permitted_bind
    (permitted_query (.inr ⟨⟨hauth, rfl⟩, hbot⟩)) fun _ =>
      permitted_ite (permitted_pure _) (permitted_query (.inr ⟨hbot, hauth, rfl⟩))

/-- The friend is told who asks. -/
theorem safe_friendNotice (hauth : s.authenticated = true) (friendId : Nat) : Safe s body (do
    let senderInfo ← match ← db (getUserById s.userId) with
      | some user => pure user
      | none => request .uninitialisedUser
    let timestamp ← request .systemClock
    sendToUser friendId ⟨.friendAdd, 0, .object [
      ("from_user_id", .number s.userId),
      ("from_username", .string senderInfo.username),
      ("from_nickname", .string senderInfo.nickname),
      ("timestamp", .number timestamp)]⟩) := by
  have hnotify (senderInfo : UserInfo) : Safe s body (do
      let timestamp ← request .systemClock
      sendToUser friendId ⟨.friendAdd, 0, .object [
        ("from_user_id", .number s.userId),
        ("from_username", .string senderInfo.username),
        ("from_nickname", .string senderInfo.nickname),
        ("timestamp", .number timestamp)]⟩) :=
    safe_ask (fun _ => trivial) fun _ => safe_sendToUser hauth _ _
  refine safe_fetch (fun _ => permitted_getUserById _) fun found => ?_
  cases found with
  | some user => exact hnotify user
  | none => exact safe_ask (fun _ => trivial) hnotify

theorem safe_afterFriendAdd (hauth : s.authenticated = true) (friendId : Nat) :
    Safe s body (Session.afterFriendAdd s friendId) := by
  refine fun l => guarded_ask hauth fun config => ?_
  cases config with
  | none => exact safe_friendNotice hauth friendId _
  | some config =>
    refine guarded_ite (fun _ => ?_) fun _ => safe_friendNotice hauth friendId _
    exact guarded_then (guarded_handleFriendRequest hauth (isBot_append config)) fun _ =>
      safe_friendNotice hauth friendId

theorem safe_friendAdd : Safe s body (s.handleFriendAdd sequence body) :=
  safe_friendAction (fun hauth friendId => safe_db fun _ =>
    permitted_addFriendRequest ⟨hauth, rfl⟩ friendId) safe_afterFriendAdd

theorem safe_friendAccept : Safe s body (s.handleFriendAccept sequence body) :=
  safe_friendAction (fun hauth friendId _ => (guarded_db
    (audited_acceptFriendRequest ⟨hauth, rfl⟩ friendId)).any) fun _ _ => safe_pure _

theorem safe_friendReject : Safe s body (s.handleFriendReject sequence body) :=
  safe_friendAction (fun hauth friendId => safe_db fun _ =>
    permitted_rejectFriendRequest ⟨hauth, rfl⟩ friendId) fun _ _ => safe_pure _

theorem safe_friendRemove : Safe s body (s.handleFriendRemove sequence body) :=
  safe_friendAction (fun hauth _ _ => guarded_db (audited_forFriends ⟨hauth, rfl⟩ fun _ hfriend =>
    permitted_locked (permitted_query ⟨⟨hauth, rfl⟩, hfriend⟩))) fun _ _ => safe_pure _

theorem safe_friendRemark : Safe s body (s.handleFriendRemark sequence body) := by
  refine safe_authenticatedOnly fun hauth => safe_read fun friendId => safe_read fun remark =>
    safe_ite (safe_sendError _ _) (safe_bind (fun _ => guarded_db ?_) fun _ => safe_answer _ _ _ _)
  exact audited_forFriends ⟨hauth, rfl⟩ fun _ hfriend =>
    permitted_stamped fun _ => permitted_query ⟨⟨hauth, rfl⟩, hfriend⟩

theorem safe_friendList : Safe s body (s.handleFriendList sequence) :=
  safe_authenticatedOnly fun hauth => safe_fetch (fun _ => permitted_rows ⟨hauth, rfl⟩) fun _ =>
    safe_respond _ _

theorem safe_friendRequests : Safe s body (s.handleFriendRequests sequence) :=
  safe_authenticatedOnly fun hauth => safe_fetch (fun _ => permitted_rows hauth) fun _ =>
    safe_respond _ _

/-! ## Private messages -/

theorem permitted_savePrivateMessage {message : Message}
    (h : s.IsSelf message.senderId ∨ IsBot l message.senderId ∧ s.IsSelf message.receiverId) :
    Permitted s body l (savePrivateMessage message) :=
  permitted_stamped fun _ => permitted_bind (permitted_query h) fun _ =>
    permitted_ite (permitted_pure _)
      (permitted_bind (permitted_request fun _ => nofun) fun _ => permitted_pure _)

theorem safe_checkPush (returned : Bool) : Safe s body (Session.checkPush returned) :=
  safe_ite (safe_pure _) (safe_throw _)

theorem safe_pushNotification (hauth : s.authenticated = true) (receiverId : Nat)
    (title text : String) : Safe s body (Session.pushNotification receiverId title text) := by
  have hfcm : Safe s body (do
      if ← request .hasFcm then Session.checkPush (← request (.notifyFcm receiverId title text))) :=
    safe_ask (fun _ => hauth) fun _ => safe_ite
      (safe_ask (fun _ => hauth) fun _ => safe_checkPush _) (safe_pure _)
  refine safe_ask (fun _ => hauth) fun hasJpush => safe_ite ?_ hfcm
  exact safe_ask (fun _ => hauth) fun _ => safe_bind (safe_checkPush _) fun _ => hfcm

theorem safe_senderName : Safe s body (Session.senderName s) := by
  refine safe_fetch (fun _ => permitted_getUserById _) fun found => ?_
  cases found with
  | some sender => exact safe_pure _
  | none => exact safe_pure _

/-- The bot writes to the user who asks only. -/
theorem guarded_botReply (hauth : s.authenticated = true) {config : BotConfig}
    (hbot : IsBot l config.botUserId) (content : String) :
    Guarded s body l (BotManager.reply config s.userId content) fun _ _ => True := by
  refine guarded_ask trivial fun blank => guarded_ask trivial fun now => ?_
  have hbot := hbot.mono (List.prefix_append l [⟨.uninitialisedMessage, blank⟩])
  have hbot := hbot.mono
    (List.prefix_append (l ++ [⟨.uninitialisedMessage, blank⟩]) [⟨.systemClock, now⟩])
  exact guarded_fetch (permitted_savePrivateMessage (.inr ⟨hbot, hauth, rfl⟩)) fun _ l' _ =>
    safe_sendToUser hauth _ _ l'

theorem safe_sessionLines (hauth : s.authenticated = true) (sessions : List String) :
    Safe s body (BotManager.sessionLines s.userId sessions) := by
  induction sessions with
  | nil => exact safe_pure _
  | cons session sessions ih =>
    exact safe_fetch (fun _ => permitted_row ⟨hauth, rfl⟩) fun _ =>
      safe_bind ih fun _ => safe_pure _

theorem guarded_handleBotMessage (hauth : s.authenticated = true) {config : BotConfig}
    (hbot : IsBot l config.botUserId) (content : String) (messageId : Nat) :
    Guarded s body l (BotManager.handleBotMessage config s.userId content messageId)
      fun _ _ => True := by
  have hself : s.IsSelf s.userId := ⟨hauth, rfl⟩
  refine guarded_ite (fun _ => guarded_pure trivial) fun _ => guarded_ask hauth fun entered => ?_
  have hbot := hbot.mono (List.prefix_append l [⟨.botBegin messageId, entered⟩])
  refine guarded_ite (fun _ => guarded_pure trivial) fun _ => ?_
  refine guarded_ask hself fun conversation => ?_
  have hbot := hbot.mono (List.prefix_append (l ++ [⟨.botBegin messageId, entered⟩])
    [⟨.botSessionId s.userId, conversation⟩])
  refine guarded_fetch (permitted_row hself) fun charCount l₁ hl₁ => ?_
  have hbot := hbot.mono hl₁
  refine guarded_ite (fun _ => guarded_botReply hauth hbot _) fun _ => guarded_ite (fun _ => ?_)
    fun _ => guarded_ite (fun _ => ?_) fun _ => ?_
  · have hsession : Permitted s body l₁ (createNewBotSession s.userId) :=
      permitted_bind (permitted_request fun _ => nofun) fun _ => permitted_pure _
    refine guarded_fetch hsession fun session l₂ hl₂ => guarded_ask hself fun _ => ?_
    exact guarded_botReply hauth ((hbot.mono hl₂).mono (List.prefix_append _ _)) _
  · refine guarded_fetch (permitted_rows hself) fun sessions l₂ hl₂ => ?_
    refine guarded_bind (safe_sessionLines hauth sessions.2 l₂) fun lines l₃ hl₃ _ => ?_
    exact guarded_botReply hauth ((hbot.mono hl₂).mono hl₃) _
  · have hsave : Permitted s body l₁
        (saveBotConversation s.userId conversation "user" content) :=
      permitted_stamped fun _ => permitted_query hself
    refine guarded_fetch hsave fun _ l₂ _ => guarded_fetch (permitted_rows hself) fun _ l₃ _ => ?_
    exact guarded_request hauth fun _ => trivial

/-- The push notification, and the answer of the bot. -/
theorem safe_privatePush (hauth : s.authenticated = true) (message : Message) (mediaType : Int) :
    Safe s body (do
      let title ← Session.senderName s
      Session.pushNotification message.receiverId title
        (Session.notificationBody mediaType message.content)
      match ← request .bot with
      | some config =>
        if message.receiverId = config.botUserId then
          BotManager.handleBotMessage config s.userId message.content message.messageId
      | none => pure ()) := by
  refine safe_bind safe_senderName fun _ => safe_bind (safe_pushNotification hauth _ _ _)
    fun _ l => guarded_ask hauth fun config => ?_
  cases config with
  | none => exact guarded_pure trivial
  | some config =>
    exact guarded_ite (fun _ => guarded_handleBotMessage hauth (isBot_append config) _ _)
      fun _ => guarded_pure trivial

theorem safe_privateMessage : Safe s body (s.handlePrivateMessage sequence body) := by
  refine safe_authenticatedOnly fun hauth => safe_read fun _ => safe_read fun _ =>
    safe_read fun _ => safe_read fun _ => safe_read fun _ =>
    safe_ite (safe_sendError _ _) (safe_bind ?_ fun r => ?_)
  · refine safe_fetch (fun _ => permitted_savePrivateMessage (.inl ⟨hauth, rfl⟩)) fun saved => ?_
    cases saved with
    | none => exact safe_pure _
    | some message => exact safe_pure _
  cases r with
  | error message => exact safe_sendError _ _
  | ok message =>
  refine safe_bind (safe_respond _ _) fun _ => ?_
  refine safe_ask (fun _ => hauth) fun active => safe_ite ?_ (safe_privatePush hauth message _)
  exact safe_bind (safe_sendToUser hauth _ _) fun _ => safe_privatePush hauth message _

/-- The histories -/
theorem safe_list {q : DbProg (Bool × List α)} {type : MessageType} {json : List α → Json}
    (hq : ∀ l, Permitted s body l q) :
    Safe s body ((do return (← db q).2 : SessionM (List α)) >>= fun xs =>
      s.respond sequence type (json xs)) :=
  safe_bind (safe_fetch hq fun _ => safe_pure _) fun _ => safe_respond _ _

theorem safe_privateHistory : Safe s body (s.handlePrivateHistory sequence body) :=
  safe_authenticatedOnly fun hauth => safe_read fun _ => safe_read fun _ =>
    safe_read fun _ => safe_ite (safe_sendError _ _)
      (safe_list fun _ => permitted_rows ⟨hauth, rfl⟩)

/-! ## Groups -/

theorem permitted_getGroupMembers (groupId : Nat) :
    Permitted s body l (Database.getGroupMembers groupId) :=
  permitted_bind (permitted_select trivial) fun _ => permitted_pure _

theorem permitted_getGroupById (groupId : Nat) : Permitted s body l (getGroupById groupId) := by
  refine permitted_locked (permitted_bind (permitted_selectFirst trivial) fun row => ?_)
  cases row with
  | none => exact permitted_pure _
  | some row => exact permitted_bind (permitted_getGroupMembers _) fun _ => permitted_pure _

theorem permitted_getUserGroups {userId : Nat} (h : s.IsSelf userId) :
    Permitted s body l (Database.getUserGroups userId) := by
  have hgroups (rows : List Row) : Permitted s body l (groupsWithMembers rows) := by
    induction rows with
    | nil => exact permitted_pure _
    | cons row rows ih =>
      exact permitted_bind (permitted_getGroupMembers _) fun _ =>
        permitted_bind ih fun _ => permitted_pure _
  refine permitted_locked (permitted_bind (permitted_select h) fun rows => ?_)
  cases rows with
  | none => exact permitted_pure _
  | some rows => exact permitted_bind (hgroups rows) fun _ => permitted_pure _

theorem guarded_isOwner (groupId userId : Nat) :
    Guarded s body l (GroupManager.isOwner groupId userId) fun b l' =>
      b = true → Owns l' groupId userId := by
  have hpermits : s.Permits body l (.groups (.owner groupId)) := trivial
  refine (guarded_db (audited_row hpermits)).mono fun b l' _ hshown hb => ?_
  obtain ⟨row, hrow, howner⟩ := hshown.any hb
  exact ⟨row, hrow, of_decide_eq_true howner⟩

theorem guarded_isAdmin (groupId userId : Nat) :
    Guarded s body l (GroupManager.isAdmin groupId userId) fun b l' =>
      b = true → Administers l' groupId userId := by
  have hpermits : s.Permits body l (.groupMembers (.isAdmin groupId userId)) := trivial
  refine (guarded_db (audited_row hpermits)).mono fun b l' _ hshown hb => ?_
  obtain ⟨row, hrow, hadmin⟩ := hshown.any hb
  exact ⟨row, hrow, of_decide_eq_true hadmin⟩

theorem guarded_isMember (groupId userId : Nat) :
    Guarded s body l (GroupManager.isMember groupId userId) fun b l' =>
      b = true → Belongs l' groupId userId := by
  have hpermits : s.Permits body l (.groupMembers (.count groupId userId)) := trivial
  refine (guarded_db (audited_row hpermits)).mono fun b l' _ hshown hb => ?_
  obtain ⟨row, hrow, hcount⟩ := hshown.any hb
  exact ⟨row, hrow, of_decide_eq_true hcount⟩

/-- The owner of a new group is put in as its admin, under the id that the INSERT gave. -/
theorem audited_createGroup {ownerId : Nat} (h : s.IsSelf ownerId)
    (groupName description : String) :
    Audited (s.dbAudit body) l (Database.createGroup groupName ownerId description)
      fun _ _ => True := by
  refine audited_locked (fun l₁ _ => ?_) fun _ _ _ _ _ => trivial
  refine audited_bind (Q := fun _ _ => True) (audited_perform trivial fun _ => trivial)
    fun now l₂ _ _ => ?_
  refine audited_bind (Q := fun _ _ => True) (audited_perform h fun _ => trivial)
    fun ok l₃ _ _ => audited_ite (fun _ => audited_ret trivial) fun _ => ?_
  refine audited_bind (Q := fun groupId l' => (⟨.db .insertId, groupId⟩ : Event) ∈ l')
    (audited_perform trivial fun _ => List.mem_append_right _ (List.mem_singleton.2 rfl))
    fun groupId l₄ _ hid => Permitted.audited ?_
  have hinsert : s.Permits body l₄ (.groupMembers (.insert groupId ownerId true now)) :=
    ⟨h.1, fun _ => ⟨h.2, hid⟩⟩
  exact permitted_bind (permitted_query hinsert) fun _ => permitted_pure _

theorem safe_groupCreate : Safe s body (s.handleGroupCreate sequence body) := by
  refine safe_authenticatedOnly fun hauth => safe_read fun _ => safe_read fun _ =>
    safe_ite (safe_sendError _ _) (safe_bind ?_ fun _ => safe_answer _ _ _ _)
  refine safe_ite (safe_pure _) (safe_bind
    (fun _ => guarded_db (audited_createGroup ⟨hauth, rfl⟩ _ _)) fun created => ?_)
  split
  · exact safe_pure _
  · exact safe_pure _

theorem safe_groupAction {operation : Nat → SessionM (Except String Unit)} {type : MessageType}
    (hop : s.authenticated = true → ∀ groupId, Safe s body (operation groupId)) :
    Safe s body (s.groupAction sequence body operation type) :=
  safe_authenticatedOnly fun hauth => safe_read fun groupId =>
    safe_ite (safe_sendError _ _) (safe_bind (hop hauth groupId) fun _ => safe_answer _ _ _ _)

/-- A handler that reads two ids. -/
theorem safe_twoIds {first second missing : String} {b : Nat → Nat → Bool}
    {operation : Nat → Nat → SessionM (Except String Unit)} {type : MessageType}
    {data : Nat → Nat → Unit → Json}
    (hop : s.authenticated = true → ∀ groupId userId, Safe s body (operation groupId userId)) :
    Safe s body (s.authenticatedOnly sequence do
      let groupId ← read (body.valueId first)
      let userId ← read (body.valueId second)
      if b groupId userId then s.sendError sequence 400 missing
      else
        let r ← operation groupId userId
        s.answer sequence r 500 type (data groupId userId)) :=
  safe_authenticatedOnly fun hauth => safe_read fun _ => safe_read fun _ =>
    safe_ite (safe_sendError _ _) (safe_bind (hop hauth _ _) fun _ => safe_answer _ _ _ _)

/-- Any user may be put into any group. -/
theorem safe_joinGroup (hauth : s.authenticated = true) (groupId userId : Nat) :
    Safe s body (GroupManager.joinGroup groupId userId) := by
  refine safe_fetch (fun _ => permitted_getGroupById _) fun _ => safe_ite (safe_pure _) ?_
  refine safe_bind (fun _ => (guarded_isMember groupId userId).any) fun _ =>
    safe_ite (safe_pure _) fun _ => guarded_orFail ?_
  exact permitted_stamped fun _ => permitted_query ⟨hauth, fun h => by cases h⟩

theorem safe_leaveGroup (hauth : s.authenticated = true) (groupId : Nat) :
    Safe s body (GroupManager.leaveGroup groupId s.userId) :=
  safe_bind (fun _ => (guarded_isOwner groupId s.userId).any) fun _ => safe_ite (safe_pure _)
    fun _ => guarded_orFail (permitted_locked (permitted_query (.inl ⟨hauth, rfl⟩)))

theorem safe_dismissGroup (hauth : s.authenticated = true) (groupId : Nat) :
    Safe s body (GroupManager.dismissGroup s.userId groupId) :=
  fun _ => guarded_check (guarded_isOwner groupId s.userId) fun _ _ howns =>
    guarded_orFail (permitted_locked (permitted_query ⟨hauth, howns⟩))

/-- The member is removed by the owner or by an admin. -/
theorem guarded_removeMember (hauth : s.authenticated = true) (groupId userId : Nat) :
    Guarded s body l (GroupManager.removeMember s.userId groupId userId) fun r l' =>
      r = .ok () → Owns l' groupId s.userId ∨ Administers l' groupId s.userId := by
  have hmono {l l' : List Event} (hl : l <+: l')
      (h : Owns l groupId s.userId ∨ Administers l groupId s.userId) :
      Owns l' groupId s.userId ∨ Administers l' groupId s.userId :=
    h.imp (·.mono hl) (·.mono hl)
  have hrefused {l : List Event} (message : String) : Guarded s body l
      (pure (.error message) : SessionM (Except String Unit)) fun r l' =>
        r = .ok () → Owns l' groupId s.userId ∨ Administers l' groupId s.userId :=
    guarded_pure fun hr => by cases hr
  have hdelete {l : List Event} (h : Owns l groupId s.userId ∨ Administers l groupId s.userId) :
      Guarded s body l (orFail "Failed to remove member" (db (removeGroupMember groupId userId)))
        fun r l' => r = .ok () → Owns l' groupId s.userId ∨ Administers l' groupId s.userId := by
    have hquery : s.Permits body l (.groupMembers (.delete groupId userId)) := .inr ⟨hauth, h⟩
    exact (guarded_orFail (permitted_locked (permitted_query hquery))).mono
      fun _ _ hl _ _ => hmono hl h
  have hremove {l : List Event} (h : Owns l groupId s.userId ∨ Administers l groupId s.userId) :
      Guarded s body l (do
        if ← GroupManager.isOwner groupId userId then return .error "Cannot remove group owner"
        if ← GroupManager.isAdmin groupId userId then
          if !(← GroupManager.isOwner groupId s.userId) then
            return .error "No permission to remove admin"
        orFail "Failed to remove member" (db (removeGroupMember groupId userId)))
        fun r l' => r = .ok () → Owns l' groupId s.userId ∨ Administers l' groupId s.userId := by
    refine guarded_bind (guarded_isOwner groupId userId) fun _ l₁ hl₁ _ =>
      guarded_ite (fun _ => hrefused _) fun _ => ?_
    refine guarded_bind (guarded_isAdmin groupId userId) fun _ l₂ hl₂ _ =>
      guarded_ite (fun _ => ?_) fun _ => hdelete (hmono hl₂ (hmono hl₁ h))
    exact guarded_bind (guarded_isOwner groupId s.userId) fun _ l₃ hl₃ _ => guarded_ite
      (fun _ => hrefused _) fun _ => hdelete (hmono hl₃ (hmono hl₂ (hmono hl₁ h)))
  refine guarded_bind (guarded_isOwner groupId s.userId) fun owner l₁ _ howns => ?_
  refine guarded_ite (fun _ => ?_) fun hnot => hremove (.inl (howns (by simpa using hnot)))
  exact guarded_bind (guarded_isAdmin groupId s.userId) fun _ l₂ _ hadmin => guarded_ite
    (fun _ => hrefused _) fun hnot => hremove (.inr (hadmin (by simpa using hnot)))

theorem safe_setAdmin (hauth : s.authenticated = true) (groupId userId : Nat) (isAdmin : Bool) :
    Safe s body (GroupManager.setAdmin s.userId groupId userId isAdmin) :=
  fun _ => guarded_check (guarded_isOwner groupId s.userId) fun _ _ howns =>
    guarded_check (guarded_isMember groupId userId) fun _ hl hmember => guarded_orFail
      (permitted_locked (permitted_query ⟨hauth, howns.mono hl, .inr hmember⟩))

theorem safe_transferOwner (hauth : s.authenticated = true) (groupId newOwnerId : Nat) :
    Safe s body (GroupManager.transferOwner s.userId groupId newOwnerId) := by
  refine fun _ => guarded_check (guarded_isOwner groupId s.userId) fun _ _ howns => guarded_ite
    (fun _ => guarded_pure trivial) fun _ => guarded_check (guarded_isMember groupId newOwnerId)
      fun l' hl hmember => guarded_orFail ?_
  have howns := howns.mono hl
  have hset : Permitted s body l' (mysqlQuery (.groups (.setOwner groupId s.userId newOwnerId))) :=
    permitted_query ⟨⟨hauth, rfl⟩, howns, hmember⟩
  have hold : Permitted s body l' (mysqlQuery (.groupMembers (.setAdmin groupId s.userId false))) :=
    permitted_query ⟨hauth, howns, .inl rfl⟩
  have hnew : Permitted s body l'
      (mysqlQuery (.groupMembers (.setAdmin groupId newOwnerId true))) :=
    permitted_query ⟨hauth, howns, .inr hmember⟩
  exact permitted_locked (permitted_bind hset fun _ => permitted_ite (permitted_pure _)
    (permitted_bind hold fun _ => hnew))

theorem safe_groupList : Safe s body (s.handleGroupList sequence) :=
  safe_authenticatedOnly fun hauth =>
    safe_list fun _ => permitted_getUserGroups ⟨hauth, Eq.refl s.userId⟩

theorem safe_groupInfo : Safe s body (s.handleGroupInfo sequence body) := by
  refine safe_read fun _ => safe_ite (safe_sendError _ _)
    (safe_fetch (fun _ => permitted_getGroupById _) fun found => ?_)
  cases found with
  | some group => exact safe_respond _ _
  | none => exact safe_sendError _ _

theorem safe_membersInfo (groupId : Nat) (memberIds : List Nat) :
    Safe s body (Session.membersInfo groupId memberIds) := by
  induction memberIds with
  | nil => exact safe_pure _
  | cons memberId memberIds ih =>
    refine safe_fetch (fun _ => permitted_getUserById _) fun found => ?_
    cases found with
    | none => exact ih
    | some user =>
      exact safe_bind (fun _ => (guarded_isOwner groupId memberId).any) fun _ =>
        safe_bind (fun _ => (guarded_isAdmin groupId memberId).any) fun _ =>
          safe_bind ih fun _ => safe_pure _

theorem safe_getGroupMembers (groupId : Nat) :
    Safe s body (GroupManager.getGroupMembers groupId) :=
  safe_fetch (fun _ => permitted_getGroupMembers _) fun _ => safe_pure _

theorem safe_groupMembers : Safe s body (s.handleGroupMembers sequence body) :=
  safe_read fun _ => safe_ite (safe_sendError _ _)
    (safe_bind (safe_getGroupMembers _) fun _ =>
      safe_bind (safe_membersInfo _ _) fun _ => safe_respond _ _)

theorem safe_groupSetAdmin : Safe s body (s.handleGroupSetAdmin sequence body) :=
  safe_authenticatedOnly fun hauth => safe_read fun _ => safe_read fun _ =>
    safe_read fun _ => safe_ite (safe_sendError _ _)
      (safe_bind (safe_setAdmin hauth _ _ _) fun _ => safe_answer _ _ _ _)

/-! ## Group messages -/

theorem safe_forwardToMember (hauth : s.authenticated = true) (message : Message)
    (groupName text : String) (memberId : Nat) :
    Safe s body (Session.forwardToMember s message groupName text memberId) :=
  safe_ite (safe_pure _) (safe_ask (fun _ => hauth) fun _ => safe_ite
    (safe_sendToUser hauth _ _) (safe_pushNotification hauth _ _ _))

theorem safe_afterGroupMessage (hauth : s.authenticated = true) (groupId : Nat)
    (message : Message) (mediaType : Int) :
    Safe s body (Session.afterGroupMessage s groupId message mediaType) :=
  safe_bind (safe_getGroupMembers _) fun _ =>
    safe_fetch (fun _ => permitted_getGroupById _) fun _ => safe_bind safe_senderName fun _ =>
      safe_forEach (fun _ => safe_forwardToMember hauth _ _ _ _) _

/-- A message is stored for a group only if its sender is a member. -/
theorem safe_sendGroupMessage (hauth : s.authenticated = true) (groupId : Nat) (content : String)
    (mediaType : MediaType) (mediaUrl extra : String) :
    Safe s body (MessageManager.sendGroupMessage s.userId groupId content mediaType mediaUrl
      extra) := by
  refine fun _ => guarded_check (guarded_isMember groupId s.userId) fun l' _ hmember => ?_
  refine guarded_fetch (permitted_stamped fun now => permitted_bind ?_ fun _ =>
    permitted_ite (permitted_pure _) (permitted_bind (permitted_request fun _ => nofun) fun _ =>
      permitted_pure _)) fun saved _ _ => ?_
  · exact permitted_query ⟨⟨hauth, rfl⟩, hmember⟩
  · cases saved with
    | none => exact guarded_pure trivial
    | some message => exact guarded_pure trivial

theorem safe_groupMessage : Safe s body (s.handleGroupMessage sequence body) := by
  refine safe_authenticatedOnly fun hauth => safe_read fun _ => safe_read fun _ =>
    safe_read fun _ => safe_read fun _ => safe_read fun _ => safe_ite (safe_sendError _ _)
      (safe_bind (safe_sendGroupMessage hauth _ _ _ _ _) fun r => ?_)
  cases r with
  | ok message =>
    exact safe_bind (safe_respond _ _) fun _ => safe_afterGroupMessage hauth _ _ _
  | error message => exact safe_sendError _ _

theorem safe_groupHistory : Safe s body (s.handleGroupHistory sequence body) :=
  safe_authenticatedOnly fun hauth => safe_read fun _ => safe_read fun _ =>
    safe_read fun _ => safe_ite (safe_sendError _ _) (safe_list fun _ => permitted_rows hauth)

/-! ## Media, keys, tokens and favorites -/

theorem safe_mediaUpload : Safe s body (s.handleMediaUpload sequence body) := by
  refine safe_authenticatedOnly fun hauth => safe_read fun fileName => safe_read fun encoded =>
    safe_read fun mediaType => safe_ite (safe_sendError _ _) (safe_ite (safe_sendError _ _)
      (safe_ite (safe_sendError _ _) fun l => guarded_bind
        (Q := fun path l' => IsPathOf l' s.userId (path.1 ++ "/" ++ path.2))
        (guarded_request ⟨hauth, rfl⟩ fun path => ?_) fun path l₁ _ hpath => ?_))
  · exact ⟨_, path.1, path.2, List.mem_append_right _ (List.mem_singleton.2 rfl), rfl⟩
  obtain ⟨fullDir, uniqueName⟩ := path
  have hpath : IsPathOf l₁ s.userId (fullDir ++ "/" ++ uniqueName) := hpath
  refine guarded_bind (Q := fun _ _ => True)
    (guarded_request ⟨hauth, hpath⟩ fun _ => trivial) fun written l₂ hl₂ _ => ?_
  have hpath := hpath.mono hl₂
  refine guarded_ite (fun _ => ?_) fun _ => safe_sendError _ _ _
  refine guarded_fetch (permitted_stamped fun _ => permitted_bind (permitted_request fun _ => nofun)
    fun _ => permitted_bind (permitted_query ⟨⟨hauth, rfl⟩, hpath⟩) fun _ =>
      permitted_ite (permitted_pure _) (permitted_bind (permitted_request fun _ => nofun) fun _ =>
        permitted_pure _)) fun saved l' hl => ?_
  cases saved with
  | none => exact guarded_ask ⟨hauth, hpath.mono hl⟩ fun _ => safe_sendError _ _ _
  | some file => exact safe_respond _ _ _

theorem safe_keyUpload : Safe s body (s.handleKeyUpload sequence body) :=
  safe_authenticatedOnly fun hauth => safe_read fun _ => safe_ite (safe_sendError _ _)
    (safe_fetch (fun _ => permitted_stamped fun _ => permitted_query ⟨hauth, rfl⟩) fun _ =>
      safe_ite (safe_ask (fun _ => trivial) fun _ => safe_respond _ _) (safe_sendError _ _))

theorem safe_keyRequest : Safe s body (s.handleKeyRequest sequence body) := by
  refine safe_authenticatedOnly fun hauth => safe_read fun _ =>
    safe_ite (safe_sendError _ _) (safe_fetch (fun _ => permitted_row hauth) fun found => ?_)
  cases found with
  | some publicKey => exact safe_respond _ _
  | none => exact safe_sendError _ _

theorem safe_encryptedMessage : Safe s body (s.handleEncryptedMessage sequence body) :=
  safe_authenticatedOnly fun hauth => safe_read fun _ => safe_read fun _ =>
    safe_read fun _ => safe_read fun _ => safe_read fun _ => safe_read fun _ =>
    safe_ite (safe_sendError _ _) (safe_ask (fun _ => trivial) fun _ =>
      safe_ask (fun _ => trivial) fun _ =>
        safe_fetch (fun _ => permitted_savePrivateMessage (.inl ⟨hauth, rfl⟩)) fun _ =>
          safe_bind (safe_respond _ _) fun _ => safe_sendToUser hauth _ _)

/-- The table is made if the statement fails, and the statement tried again. -/
theorem permitted_saveFcmToken (hauth : s.authenticated = true) (token : String) :
    Permitted s body l (saveFcmToken s.userId token) := by
  have hself : s.IsSelf s.userId := ⟨hauth, rfl⟩
  exact permitted_stamped fun _ => permitted_bind (permitted_query hself) fun _ =>
    permitted_ite (permitted_pure _) (permitted_bind (permitted_query trivial) fun _ =>
      permitted_ite (permitted_query hself) (permitted_pure _))

theorem safe_fcmTokenRegister : Safe s body (s.handleFcmTokenRegister sequence body) := by
  have hsave (hauth : s.authenticated = true) (token tokenType missing : String)
      (configured : Bool) : Safe s body (do
      if !configured then s.sendError sequence 500 missing
      else if ← db (saveFcmToken s.userId token) then
        s.respond sequence .fcmTokenRegisterResponse
          (Session.success [("user_id", .number s.userId), ("token_type", .string tokenType)])
      else s.sendError sequence 500 "Failed to register token") :=
    safe_ite (safe_sendError _ _) (safe_fetch (fun _ => permitted_saveFcmToken hauth token)
      fun _ => safe_ite (safe_respond _ _) (safe_sendError _ _))
  refine safe_authenticatedOnly fun hauth => safe_read fun token =>
    safe_ite (safe_sendError _ _) (safe_read fun tokenType => ?_)
  split
  · exact safe_ask (fun _ => hauth) (hsave hauth _ _ _)
  · exact safe_ask (fun _ => hauth) (hsave hauth _ _ _)

theorem permitted_addFavorite (hauth : s.authenticated = true) (messageId : Nat)
    (messageType : String) (senderId : Nat) (content : String) (mediaType : MediaType)
    (mediaUrl : String) : Permitted s body l
      (addFavorite s.userId messageId messageType senderId content mediaType mediaUrl) :=
  permitted_locked (permitted_connected (permitted_bind (permitted_request fun _ => nofun)
    fun _ => permitted_query ⟨hauth, rfl⟩))

theorem permitted_getFavorites (hauth : s.authenticated = true) (limit offset : Int) :
    Permitted s body l (getFavorites s.userId limit offset) :=
  permitted_locked (permitted_connected (permitted_bind (permitted_select ⟨hauth, rfl⟩) fun _ =>
    permitted_pure _))

theorem safe_favoriteAdd : Safe s body (s.handleFavoriteAdd sequence body) :=
  safe_authenticatedOnly fun hauth => safe_read fun _ => safe_read fun _ =>
    safe_read fun _ => safe_read fun _ => safe_read fun _ => safe_read fun _ =>
    safe_ite (safe_sendError _ _) (safe_ite (safe_sendError _ _)
      (safe_fetch (fun _ => permitted_addFavorite hauth _ _ _ _ _ _) fun _ =>
        safe_ite (safe_respond _ _) (safe_sendError _ _)))

theorem safe_favoriteRemove : Safe s body (s.handleFavoriteRemove sequence body) :=
  safe_authenticatedOnly fun hauth => safe_read fun _ => safe_read fun _ =>
    safe_ite (safe_sendError _ _)
      (safe_fetch (fun _ => permitted_locked (permitted_query ⟨hauth, rfl⟩)) fun _ =>
        safe_ite (safe_respond _ _) (safe_sendError _ _))

theorem safe_favoriteList : Safe s body (s.handleFavoriteList sequence body) :=
  safe_authenticatedOnly fun hauth => safe_read fun _ => safe_read fun _ =>
    safe_fetch (fun _ => permitted_getFavorites hauth _ _) fun _ =>
      safe_ite (safe_respond _ _) (safe_sendError _ _)

/-! ## Recalling messages -/

/-- A private message is recalled only if it was the user's own. -/
theorem audited_recallPrivateMessage (hauth : s.authenticated = true) (messageId : Nat) :
    Audited (s.dbAudit body) l (recallPrivateMessage messageId s.userId) fun b l' =>
      b = true → Sent l' messageId s.userId := by
  refine audited_locked (fun l₁ _ => ?_) fun _ _ _ hl h hb => (h hb).mono hl
  have hread : s.Permits body l₁ (.privateMessages (.senderAndTime messageId)) := hauth
  refine audited_bind (audited_selectFirst hread) fun row l₂ _ hrow => ?_
  cases row with
  | none => exact audited_ret fun h => by cases h
  | some row =>
  refine audited_ite (fun _ => audited_ret fun h => by cases h) fun huser => ?_
  refine audited_call trivial fun now => ?_
  refine audited_ite (fun _ => audited_ret fun h => by cases h) fun hage => ?_
  have hage : now - row.stoll 1 ≤ 120 := Int.not_lt.1 hage
  have hsent : Sent (l₂ ++ [⟨.db .timestamp, now⟩]) messageId s.userId :=
    ⟨row, now, (hrow row rfl).mono (List.prefix_append _ _), not_not.1 huser,
      List.mem_append_right _ (List.mem_singleton.2 rfl), hage⟩
  exact audited_perform ⟨hauth, hsent⟩ fun _ _ => hsent.mono (List.prefix_append _ _)

theorem permitted_getMessageSender (hauth : s.authenticated = true) {messageId : Nat}
    (hsent : Sent l messageId s.userId) : Permitted s body l (getMessageSender messageId) := by
  have hread : s.Permits body l (.privateMessages (.senderAndGroup messageId)) := ⟨hauth, hsent⟩
  refine permitted_locked (permitted_bind (permitted_selectFirst hread) fun row => ?_)
  cases row with
  | some row => exact permitted_pure _
  | none => exact permitted_bind (permitted_selectFirst hauth) fun _ => permitted_pure _

theorem safe_recallPrivate (hauth : s.authenticated = true) (messageId : Nat) :
    Safe s body (Session.recallPrivate s sequence messageId) := by
  refine fun l => guarded_bind (guarded_db (audited_recallPrivateMessage hauth messageId))
    fun recalled l₁ _ hsent => guarded_ite (fun hrecalled => ?_) fun _ => guarded_pure trivial
  have hsent := hsent hrecalled
  refine guarded_fetch (permitted_getMessageSender hauth hsent) fun sender l₂ hl₂ => ?_
  refine guarded_ite (fun _ => guarded_ask trivial fun timestamp => ?_)
    fun _ => guarded_pure trivial
  have hsent := (hsent.mono hl₂).mono (List.prefix_append l₂ [⟨.systemClock, timestamp⟩])
  exact guarded_then (guarded_broadcast hauth hsent _) fun _ => safe_pure _

/-- `recall_group_message` locks its mutex a second time before it could write. -/
theorem safe_recallGroupMessage (hauth : s.authenticated = true) (messageId : Nat) :
    Safe s body (db (recallGroupMessage messageId s.userId)) := by
  refine fun l => guarded_ask trivial fun _ => guarded_ask hauth fun ok => ?_
  cases ok with
  | false => exact guarded_ask trivial fun _ => guarded_pure trivial
  | true =>
  refine guarded_ask trivial fun rows => ?_
  rcases rows with - | - | ⟨row, rows⟩
  · exact guarded_ask trivial fun _ => guarded_pure trivial
  · exact guarded_ask trivial fun _ => guarded_pure trivial
  · exact guarded_throw Stop.selfDeadlock

theorem safe_recallGroup (hauth : s.authenticated = true) (messageId groupId : Nat) :
    Safe s body (Session.recallGroup s sequence messageId groupId) := by
  refine safe_bind (safe_recallGroupMessage hauth messageId) fun _ => safe_ite ?_ (safe_pure _)
  refine safe_fetch (fun _ => permitted_getGroupMembers _) fun members =>
    safe_ask (fun _ => trivial) fun timestamp => ?_
  exact safe_bind (safe_forEach (fun _ => safe_sendToUser hauth _ _) _) fun _ => safe_pure _

theorem safe_messageRecall : Safe s body (s.handleMessageRecall sequence body) := by
  refine safe_authenticatedOnly fun hauth => safe_read fun messageId => safe_read fun isGroup =>
    safe_read fun groupId => safe_ite (safe_sendError _ _) ?_
  cases isGroup with
  | true => exact safe_bind (safe_recallGroup hauth _ _) fun _ => safe_respond _ _
  | false => exact safe_bind (safe_recallPrivate hauth _) fun _ => safe_respond _ _

/-! ## Every request -/

theorem safe_handleMessage (s : Session) (sequence : UInt32) (body : Json) (type : UInt8) :
    Safe s body (s.handleMessage sequence body type) := by
  unfold Session.handleMessage
  cases MessageType.ofCode type with
  | none => exact safe_sendError _ _
  | some t =>
  cases t with
  | register => exact safe_register
  | login => exact safe_login
  | logout => exact safe_logout
  | userInfo => exact safe_userInfo
  | userSearch => exact safe_userSearch
  | userUpdate => exact safe_userUpdate
  | passwordUpdate => exact safe_passwordUpdate
  | friendAdd => exact safe_friendAdd
  | friendAccept => exact safe_friendAccept
  | friendReject => exact safe_friendReject
  | friendRemove => exact safe_friendRemove
  | friendList => exact safe_friendList
  | friendRequests => exact safe_friendRequests
  | friendRemark => exact safe_friendRemark
  | privateMessage => exact safe_privateMessage
  | privateHistory => exact safe_privateHistory
  | groupCreate => exact safe_groupCreate
  | groupJoin => exact safe_groupAction fun hauth groupId => safe_joinGroup hauth groupId s.userId
  | groupLeave => exact safe_groupAction safe_leaveGroup
  | groupDismiss => exact safe_groupAction safe_dismissGroup
  | groupInfo => exact safe_groupInfo
  | groupList => exact safe_groupList
  | groupMembers => exact safe_groupMembers
  | groupAddMember => exact safe_twoIds safe_joinGroup
  | groupRemoveMember =>
    exact safe_twoIds fun hauth groupId userId _ => (guarded_removeMember hauth groupId userId).any
  | groupSetAdmin => exact safe_groupSetAdmin
  | groupTransferOwner => exact safe_twoIds safe_transferOwner
  | groupMessage => exact safe_groupMessage
  | groupHistory => exact safe_groupHistory
  | mediaUpload => exact safe_mediaUpload
  | heartbeat => exact safe_ask (fun _ => trivial) fun _ => safe_respond _ _
  | keyUpload => exact safe_keyUpload
  | keyRequest => exact safe_keyRequest
  | encryptedMessage => exact safe_encryptedMessage
  | messageRecall => exact safe_messageRecall
  | fcmTokenRegister => exact safe_fcmTokenRegister
  | favoriteAdd => exact safe_favoriteAdd
  | favoriteRemove => exact safe_favoriteRemove
  | favoriteList => exact safe_favoriteList
  | _ => exact safe_sendError _ _

/-- Each call of a request is allowed by what the request and the answers before it show, whatever
    the answers are. -/
theorem Session.calls_allowed {ε : Type} (env : ε → (c : Call) → c.Answer × ε) (e : ε)
    (s : Session) (sequence : UInt32) (body : Json) (type : UInt8) {before after : List Event}
    {c : Call} {a : c.Answer}
    (h : Prog.log env (s.task sequence body type) e = before ++ ⟨c, a⟩ :: after) :
    s.Allowed body before c := by
  have htask : Follows (s.audit body).protocol [] (s.task sequence body type) fun _ _ => True :=
    follows_bind.2 (Follows.mono (safe_handleMessage s sequence body type []) fun _ _ _ => trivial)
  have hallowed := htask.audit_log env e h
  have hrecord : before.map (fun x => (s.audit body).record x.1 x.2) = before := List.map_id _
  rwa [List.nil_append, hrecord] at hallowed

/-- User 7 dismisses group 3: the table answers that the group is 7's, then the DELETE goes out. -/
def ownedBySeven (u : Unit) (c : Call) : c.Answer × Unit :=
  match c with
  | .db (.query _) => (true, u)
  | .db .storeResult => (some [[.num 7]], u)
  | _ => (default, u)

theorem Session.calls_allowed_dismiss : (⟨1, 7, true⟩ : Session).Allowed
    (.object [("group_id", .number 3)])
    [⟨.db .lock, ()⟩, ⟨.db (.query (.groups (.owner 3))), true⟩,
      ⟨.db .storeResult, some [[.num 7]]⟩, ⟨.db .unlock, ()⟩, ⟨.db .lock, ()⟩]
    (.db (.query (.groups (.delete 3)))) :=
  Session.calls_allowed ownedBySeven () _ 1 _ 56 (a := true) rfl

end ChatApp.Session
