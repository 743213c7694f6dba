/-
  What a request may do, and to whom. `Session.Allowed` is the whole of it: for each call of a
  handler, when the handler may make it, after the calls and answers `l` before it. Rights come
  from three places only: the session's own user and login, the request, and what the tables have
  answered in the same request (`Owns`, `Belongs`, `Sent`, `LoggedIn` and their like).

  The policy is that of the source, gaps included: any user who is logged in may read the history
  of any group (`history`) and put any user into any group (`insert` of `GroupMemberStmt`), and
  anyone may read a profile or a group by its id.
-/
import ChatApp.Lib.Audit
import ChatApp.Session.Handlers

namespace ChatApp.Session

open ChatApp.Lib ChatApp.Lib.Prog ChatApp.Database ChatApp.Protocol

/-- A call with its answer. -/
abbrev Event := (c : Call) × c.Answer

/-! ## What the answers have shown -/

/-- The statement was answered with these rows. -/
def Answered (l : List Event) (stmt : Stmt) (rows : List Row) : Prop :=
  [(⟨.db (.query stmt), true⟩ : Event), ⟨.db .storeResult, some rows⟩] <:+: l

/-- The statement was answered, and this row came first. -/
def AnsweredFirst (l : List Event) (stmt : Stmt) (row : Row) : Prop :=
  ∃ rows, Answered l stmt (row :: rows)

/-- The group has the user as its owner. -/
def Owns (l : List Event) (groupId userId : Nat) : Prop :=
  ∃ row, AnsweredFirst l (.groups (.owner groupId)) row ∧ row.stoull 0 = userId

/-- The user is an admin of the group. -/
def Administers (l : List Event) (groupId userId : Nat) : Prop :=
  ∃ row, AnsweredFirst l (.groupMembers (.isAdmin groupId userId)) row ∧ row.stoll 0 = 1

/-- The user is a member of the group. -/
def Belongs (l : List Event) (groupId userId : Nat) : Prop :=
  ∃ row, AnsweredFirst l (.groupMembers (.count groupId userId)) row ∧ 0 < row.stoll 0

/-- The other user has asked the user to become a friend. -/
def AskedBy (l : List Event) (userId otherId : Nat) : Prop :=
  ∃ rows, Answered l (.friends (.listRequests userId)) rows ∧
    ∃ row ∈ rows, row.user.userId = otherId

/-- The user is the friend's friend. -/
def Befriends (l : List Event) (userId friendId : Nat) : Prop :=
  ∃ row, AnsweredFirst l (.friends (.countAccepted userId friendId)) row ∧ 0 < row.stoll 0

/-- The private message is the user's own, and was at most two minutes old. -/
def Sent (l : List Event) (messageId userId : Nat) : Prop :=
  ∃ row now, AnsweredFirst l (.privateMessages (.senderAndTime messageId)) row ∧
    row.stoull 0 = userId ∧ (⟨.db .timestamp, now⟩ : Event) ∈ l ∧ now - row.stoll 1 ≤ 120

/-- The password goes with the hash stored for the user name. -/
def Verified (l : List Event) (username password : String) : Prop :=
  ∃ row, AnsweredFirst l (.users (.password username)) row ∧
    (⟨.verifyPassword password (row.str 0), true⟩ : Event) ∈ l

/-- The user is the one that the request names, and the password of the request is right. -/
def LoggedIn (body : Json) (l : List Event) (userId : Nat) : Prop :=
  ∃ username password row, body.valueString "username" "" = .ok username ∧
    body.valueString "password" "" = .ok password ∧
    AnsweredFirst l (.users (.byUsername username)) row ∧ row.user.userId = userId ∧
    Verified l username password

/-- The request holds the user's present password. -/
def KnowsPassword (body : Json) (l : List Event) (userId : Nat) : Prop :=
  ∃ password row, body.valueString "old_password" "" = .ok password ∧
    AnsweredFirst l (.users (.byId userId)) row ∧ Verified l row.user.username password

/-- The user name is that of the request, or that of the user. -/
def IsNameOf (body : Json) (l : List Event) (userId : Nat) (username : String) : Prop :=
  body.valueString "username" "" = .ok username ∨
    ∃ row, AnsweredFirst l (.users (.byId userId)) row ∧ row.user.username = username

/-- The id in the record that was read for the user. If the read failed, the record holds what was
    in memory before. -/
def Recorded (l : List Event) (userId recordId : Nat) : Prop :=
  (∃ row, AnsweredFirst l (.users (.byId userId)) row ∧ row.user.userId = recordId) ∨
    ∃ user : UserInfo, (⟨.uninitialisedUser, user⟩ : Event) ∈ l ∧ user.userId = recordId

def IsBot (l : List Event) (botId : Nat) : Prop :=
  ∃ config : BotConfig, (⟨.bot, some config⟩ : Event) ∈ l ∧ config.botUserId = botId

/-- The session was found in the table of the server. -/
def Reached (l : List Event) (x : SessionId) : Prop :=
  (∃ userId, (⟨.getSession userId, some x⟩ : Event) ∈ l) ∨
    ∃ xs, (⟨.authenticatedSessions, xs⟩ : Event) ∈ l ∧ x ∈ xs

/-- The path that was made for a file of the user. -/
def IsPathOf (l : List Event) (userId : Nat) (path : String) : Prop :=
  ∃ extension fullDir uniqueName,
    (⟨.mediaPath userId extension, (fullDir, uniqueName)⟩ : Event) ∈ l ∧
      path = fullDir ++ "/" ++ uniqueName

/-! ## The policy -/

namespace Session

variable (s : Session) (body : Json) (l : List Event)

/-- The own user, and logged in. -/
def IsSelf (userId : Nat) : Prop := s.authenticated = true ∧ userId = s.userId

def PermitsUser : UserStmt → Prop
  | .insert .. | .byId _ | .byUsername _ => True
  | .password username => IsNameOf body l s.userId username
  | .verify .. => False
  | .search .. => s.authenticated = true
  | .update userId .. => s.authenticated = true ∧ Recorded l s.userId userId
  | .updatePassword userId .. =>
    LoggedIn body l userId ∨ s.IsSelf userId ∧ KnowsPassword body l userId
  | .updateOnlineStatus userId status =>
    LoggedIn body l userId ∧ status = .online ∨ s.IsSelf userId ∧ status = .offline

/-- A friendship begins with a request, except with the bot. -/
def PermitsFriend : FriendStmt → Prop
  | .insert userId friendId status _ =>
    s.IsSelf userId ∧ (status = .accepted → AskedBy l userId friendId) ∨
      IsBot l userId ∧ s.IsSelf friendId
  | .setStatus userId friendId status _ =>
    s.IsSelf friendId ∧ (status = .accepted → AskedBy l friendId userId) ∨
      s.IsSelf userId ∧ IsBot l friendId
  | .deleteBoth userId friendId | .setRemark userId friendId .. =>
    s.IsSelf userId ∧ Befriends l userId friendId
  | .listAccepted userId | .countAccepted userId _ => s.IsSelf userId
  -- whether a request is there already is looked up among those to the other user
  | .listRequests _ => s.authenticated = true

def PermitsPrivateMessage : PrivateMessageStmt → Prop
  | .insert senderId receiverId .. =>
    s.IsSelf senderId ∨ IsBot l senderId ∧ s.IsSelf receiverId
  | .history user1Id .. => s.IsSelf user1Id
  | .setStatus .. | .markRead .. | .countUnread .. => False
  | .senderAndGroup messageId => s.authenticated = true ∧ Sent l messageId s.userId
  | .senderAndTime _ => s.authenticated = true
  | .recall messageId => s.authenticated = true ∧ Sent l messageId s.userId

def PermitsGroup : GroupStmt → Prop
  | .byId _ | .owner _ => True
  | .insert _ ownerId .. | .ofUser ownerId => s.IsSelf ownerId
  | .update .. => False
  | .delete groupId => s.authenticated = true ∧ Owns l groupId s.userId
  | .setOwner groupId oldOwnerId newOwnerId =>
    s.IsSelf oldOwnerId ∧ Owns l groupId oldOwnerId ∧ Belongs l groupId newOwnerId

def PermitsGroupMember : GroupMemberStmt → Prop
  | .ofGroup _ | .count .. | .isAdmin .. => True
  -- an admin is put in as the owner of a new group only
  | .insert groupId userId isAdmin _ => s.authenticated = true ∧
    (isAdmin = true → userId = s.userId ∧ (⟨.db .insertId, groupId⟩ : Event) ∈ l)
  | .delete groupId userId => s.IsSelf userId ∨
    s.authenticated = true ∧ (Owns l groupId s.userId ∨ Administers l groupId s.userId)
  | .setAdmin groupId userId _ => s.authenticated = true ∧ Owns l groupId s.userId ∧
    (userId = s.userId ∨ Belongs l groupId userId)

/-- `recall_group_message` never gets as far as its UPDATE. -/
def PermitsGroupMessage : GroupMessageStmt → Prop
  | .insert groupId senderId .. => s.IsSelf senderId ∧ Belongs l groupId senderId
  | .history .. | .senderAndGroup _ | .senderGroupAndTime _ => s.authenticated = true
  | .recall _ => False

def PermitsMediaFile : MediaFileStmt → Prop
  | .insert userId _ filePath .. => s.IsSelf userId ∧ IsPathOf l userId filePath
  | .byId _ => False

def PermitsBotConversation : BotConversationStmt → Prop
  | .insert userId .. | .messages userId .. | .charCount userId _ | .sessions userId =>
    s.IsSelf userId
  | .delete .. => False

def PermitsUserKey : UserKeyStmt → Prop
  | .upsert userId .. => s.IsSelf userId
  | .byUser _ => s.authenticated = true
  | .delete _ => False

def PermitsFcmToken : FcmTokenStmt → Prop
  | .upsert userId .. => s.IsSelf userId
  | .byUser _ | .delete _ => False

def PermitsFavorite : FavoriteStmt → Prop
  | .upsert userId .. | .delete userId .. | .ofUser userId .. => s.IsSelf userId
  | .count .. => False

def Permits : Stmt → Prop
  | .createTable _ => True
  | .users stmt => s.PermitsUser body l stmt
  | .friends stmt => s.PermitsFriend l stmt
  | .privateMessages stmt => s.PermitsPrivateMessage l stmt
  | .groups stmt => s.PermitsGroup l stmt
  | .groupMembers stmt => s.PermitsGroupMember l stmt
  | .groupMessages stmt => s.PermitsGroupMessage l stmt
  | .mediaFiles stmt => s.PermitsMediaFile l stmt
  | .botConversations stmt => s.PermitsBotConversation stmt
  | .userKeys stmt => s.PermitsUserKey stmt
  | .fcmTokens stmt => s.PermitsFcmToken stmt
  | .favorites stmt => s.PermitsFavorite stmt

def Allowed : Call → Prop
  | .db (.query stmt) => s.Permits body l stmt
  | .db _ | .systemClock | .hashPassword _ | .verifyPassword .. | .uninitialisedMessage
  | .uninitialisedUser => True
  | .send x _ => x = s.id ∨ s.authenticated = true ∧ Reached l x
  | .setUserId userId | .setUserOnline userId => LoggedIn body l userId
  | .setAuthenticated auth =>
    if auth then ∃ userId, LoggedIn body l userId ∧ (⟨.setUserId userId, ()⟩ : Event) ∈ l
    else s.authenticated = true
  | .close | .isUserActive _ | .getSession _ | .hasJpush | .hasFcm | .notifyJpush ..
  | .notifyFcm .. | .bot | .botBegin _ | .botChat .. => s.authenticated = true
  -- all users are told of a recall only
  | .authenticatedSessions => s.authenticated = true ∧ ∃ messageId, Sent l messageId s.userId
  | .botSessionId userId | .setBotSessionId userId _ | .mediaPath userId _ => s.IsSelf userId
  | .writeFile path _ | .removeFile path => s.authenticated = true ∧ IsPathOf l s.userId path

end Session

/-! ## More answers, more rights -/

section
variable {l l' : List Event} (hl : l <+: l')
include hl

theorem Answered.mono {stmt : Stmt} {rows : List Row} (h : Answered l stmt rows) :
    Answered l' stmt rows := h.trans hl.isInfix

theorem AnsweredFirst.mono {stmt : Stmt} {row : Row} (h : AnsweredFirst l stmt row) :
    AnsweredFirst l' stmt row :=
  h.imp fun _ hrows => hrows.mono hl

theorem Owns.mono {groupId userId : Nat} (h : Owns l groupId userId) : Owns l' groupId userId :=
  h.imp fun _ hrow => ⟨hrow.1.mono hl, hrow.2⟩

theorem Administers.mono {groupId userId : Nat} (h : Administers l groupId userId) :
    Administers l' groupId userId :=
  h.imp fun _ hrow => ⟨hrow.1.mono hl, hrow.2⟩

theorem Belongs.mono {groupId userId : Nat} (h : Belongs l groupId userId) :
    Belongs l' groupId userId :=
  h.imp fun _ hrow => ⟨hrow.1.mono hl, hrow.2⟩

theorem AskedBy.mono {userId otherId : Nat} (h : AskedBy l userId otherId) :
    AskedBy l' userId otherId :=
  h.imp fun _ hrows => ⟨hrows.1.mono hl, hrows.2⟩

theorem Befriends.mono {userId friendId : Nat} (h : Befriends l userId friendId) :
    Befriends l' userId friendId :=
  h.imp fun _ hrow => ⟨hrow.1.mono hl, hrow.2⟩

theorem Sent.mono {messageId userId : Nat} (h : Sent l messageId userId) :
    Sent l' messageId userId := by
  obtain ⟨row, now, hrow, huser, hnow, hage⟩ := h
  exact ⟨row, now, hrow.mono hl, huser, hl.subset hnow, hage⟩

theorem Verified.mono {username password : String} (h : Verified l username password) :
    Verified l' username password :=
  h.imp fun _ hrow => ⟨hrow.1.mono hl, hl.subset hrow.2⟩

theorem LoggedIn.mono {body : Json} {userId : Nat} (h : LoggedIn body l userId) :
    LoggedIn body l' userId := by
  obtain ⟨username, password, row, hname, hpassword, hrow, huser, hverified⟩ := h
  exact ⟨username, password, row, hname, hpassword, hrow.mono hl, huser, hverified.mono hl⟩

theorem KnowsPassword.mono {body : Json} {userId : Nat} (h : KnowsPassword body l userId) :
    KnowsPassword body l' userId := by
  obtain ⟨password, row, hpassword, hrow, hverified⟩ := h
  exact ⟨password, row, hpassword, hrow.mono hl, hverified.mono hl⟩

theorem IsNameOf.mono {body : Json} {userId : Nat} {username : String}
    (h : IsNameOf body l userId username) : IsNameOf body l' userId username :=
  h.imp_right fun h => h.imp fun _ hrow => ⟨hrow.1.mono hl, hrow.2⟩

theorem Recorded.mono {userId recordId : Nat} (h : Recorded l userId recordId) :
    Recorded l' userId recordId :=
  h.imp (fun h => h.imp fun _ hrow => ⟨hrow.1.mono hl, hrow.2⟩)
    fun h => h.imp fun _ huser => ⟨hl.subset huser.1, huser.2⟩

theorem IsBot.mono {botId : Nat} (h : IsBot l botId) : IsBot l' botId :=
  h.imp fun _ hconfig => ⟨hl.subset hconfig.1, hconfig.2⟩

theorem Reached.mono {x : SessionId} (h : Reached l x) : Reached l' x :=
  h.imp (fun h => h.imp fun _ hmem => hl.subset hmem)
    fun h => h.imp fun _ hmem => ⟨hl.subset hmem.1, hmem.2⟩

theorem IsPathOf.mono {userId : Nat} {path : String} (h : IsPathOf l userId path) :
    IsPathOf l' userId path := by
  obtain ⟨extension, fullDir, uniqueName, hmem, hpath⟩ := h
  exact ⟨extension, fullDir, uniqueName, hl.subset hmem, hpath⟩

theorem Session.PermitsUser.mono {s : Session} {body : Json} {stmt : UserStmt}
    (h : s.PermitsUser body l stmt) : s.PermitsUser body l' stmt := by
  cases stmt with
  | password username => exact IsNameOf.mono hl h
  | update => exact ⟨h.1, h.2.mono hl⟩
  | updatePassword => exact Or.imp (·.mono hl) (fun h => ⟨h.1, h.2.mono hl⟩) h
  | updateOnlineStatus => exact Or.imp_left (fun h => ⟨h.1.mono hl, h.2⟩) h
  | _ => exact h

theorem Session.PermitsFriend.mono {s : Session} {stmt : FriendStmt} (h : s.PermitsFriend l stmt) :
    s.PermitsFriend l' stmt := by
  cases stmt with
  | insert =>
    exact Or.imp (fun h => ⟨h.1, fun hs => (h.2 hs).mono hl⟩) (fun h => ⟨h.1.mono hl, h.2⟩) h
  | setStatus =>
    exact Or.imp (fun h => ⟨h.1, fun hs => (h.2 hs).mono hl⟩) (fun h => ⟨h.1, h.2.mono hl⟩) h
  | deleteBoth => exact ⟨h.1, h.2.mono hl⟩
  | setRemark => exact ⟨h.1, h.2.mono hl⟩
  | _ => exact h

theorem Session.PermitsPrivateMessage.mono {s : Session} {stmt : PrivateMessageStmt}
    (h : s.PermitsPrivateMessage l stmt) : s.PermitsPrivateMessage l' stmt := by
  cases stmt with
  | insert => exact Or.imp_right (fun h => ⟨h.1.mono hl, h.2⟩) h
  | history | setStatus | markRead | countUnread | senderAndTime => exact h
  -- the others are about a message that the user has sent
  | _ => exact ⟨h.1, h.2.mono hl⟩

theorem Session.PermitsGroup.mono {s : Session} {stmt : GroupStmt} (h : s.PermitsGroup l stmt) :
    s.PermitsGroup l' stmt := by
  cases stmt with
  | delete => exact ⟨h.1, h.2.mono hl⟩
  | setOwner => exact ⟨h.1, h.2.1.mono hl, h.2.2.mono hl⟩
  | _ => exact h

theorem Session.PermitsGroupMember.mono {s : Session} {stmt : GroupMemberStmt}
    (h : s.PermitsGroupMember l stmt) : s.PermitsGroupMember l' stmt := by
  cases stmt with
  | insert => exact ⟨h.1, fun hadmin => (h.2 hadmin).imp_right fun h => hl.subset h⟩
  | delete => exact Or.imp_right (fun h => ⟨h.1, h.2.imp (·.mono hl) (·.mono hl)⟩) h
  | setAdmin => exact ⟨h.1, h.2.1.mono hl, h.2.2.imp_right (·.mono hl)⟩
  | _ => exact h

theorem Session.Permits.mono {s : Session} {body : Json} {stmt : Stmt}
    (h : s.Permits body l stmt) : s.Permits body l' stmt := by
  cases stmt with
  | users => exact Session.PermitsUser.mono hl h
  | friends => exact Session.PermitsFriend.mono hl h
  | privateMessages => exact Session.PermitsPrivateMessage.mono hl h
  | groups => exact Session.PermitsGroup.mono hl h
  | groupMembers => exact Session.PermitsGroupMember.mono hl h
  | groupMessages stmt =>
    cases stmt with
    | insert => exact ⟨h.1, h.2.mono hl⟩
    | _ => exact h
  | mediaFiles stmt =>
    cases stmt with
    | insert => exact ⟨h.1, h.2.mono hl⟩
    | byId => exact h
  | _ => exact h

end

end ChatApp.Session
