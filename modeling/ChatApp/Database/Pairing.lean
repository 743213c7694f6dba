/-
  The shape of the `Database` methods. Inside a method body every SELECT is followed at once by
  the fetch of its result, and `mysql_insert_id` comes right after the INSERT it asks about:
  the body is `Paired`. `Method.shape` sorts the methods by what surrounds the body: the lock,
  the lock and `ensure_connection`, nothing, or, in `recall_group_message` alone, a body that
  calls methods that lock.
-/
import ChatApp.Database.Methods

namespace ChatApp.Database

open ChatApp.Lib ChatApp.Lib.Prog

variable {α β γ : Type}

/-- What the last call of a thread left on the connection. -/
inductive Mode
  | idle
  /-- a SELECT whose result is not fetched yet -/
  | selected
  /-- a statement without a result -/
  | executed
  deriving DecidableEq

def Mode.query (s : Stmt) (ok : Bool) : Mode :=
  if ok then if s.isSelect then selected else executed else idle

/-- Each fetch follows its statement, and neither the lock nor the connection is touched. -/
def pairing : Protocol interface Mode where
  allows m
    | .query _ | .timestamp | .fileSize _ => m ≠ .selected
    | .storeResult => m = .selected
    | .insertId => m = .executed
    | _ => False
  next _ c a := match c, a with
    | .query s, ok => .query s ok
    | _, _ => .idle

def Paired (p : DbProg α) : Prop :=
  ∀ m, m ≠ .selected → Follows pairing m p fun _ m' => m' ≠ .selected

theorem paired_pure (a : α) : Paired (pure a : DbProg α) := fun _ hm => hm

theorem paired_bind {p : DbProg α} {f : α → DbProg β} (hp : Paired p) (hf : ∀ a, Paired (f a)) :
    Paired (p >>= f) :=
  fun m hm => follows_bind.2 ((hp m hm).mono fun a m' hm' => hf a m' hm')

theorem paired_ite {b : Prop} [Decidable b] {p q : DbProg α} (hp : Paired p) (hq : Paired q) :
    Paired (if b then p else q) := by
  split
  · exact hp
  · exact hq

theorem paired_getCurrentTimestamp : Paired getCurrentTimestamp :=
  fun _ hm => ⟨hm, fun _ => nofun⟩

theorem paired_fileSize (path : String) : Paired (fileSize path) :=
  fun _ hm => ⟨hm, fun _ => nofun⟩

/-- A statement that leaves no result to fetch. -/
theorem paired_mysqlQuery {s : Stmt} (hs : s.isSelect = false) : Paired (mysqlQuery s) := by
  refine fun m hm => follows_request.2 ⟨hm, fun ok => ?_⟩
  cases ok <;> simp [pairing, Mode.query, hs]

theorem paired_execute {s : Stmt} (hs : s.isSelect = false) : Paired (execute s) :=
  paired_mysqlQuery hs

/-- An INSERT and the id of the new row. -/
theorem paired_insert {s : Stmt} (hs : s.isSelect = false) {x : DbProg α} {f : Nat → DbProg α}
    (hx : Paired x) (hf : ∀ id, Paired (f id)) :
    Paired (mysqlQuery s >>= fun ok => if (!ok) = true then x else getLastInsertId >>= f) := by
  refine fun m hm => follows_bind.2 (follows_request.2 ⟨hm, fun ok => ?_⟩)
  cases ok with
  | false => exact hx _ nofun
  | true =>
    have hmode : pairing.next m (.query s) true = .executed := by simp [pairing, Mode.query, hs]
    rw [hmode]
    exact follows_bind.2 (follows_request.2 ⟨rfl, fun id => hf id _ nofun⟩)

theorem paired_select {s : Stmt} (hs : s.isSelect = true) : Paired (select s) := by
  refine fun m hm => follows_bind.2 (follows_request.2 ⟨hm, fun ok => ?_⟩)
  cases ok with
  | false => exact nofun
  | true =>
    have hmode : pairing.next m (.query s) true = .selected := by simp [pairing, Mode.query, hs]
    rw [hmode]
    exact follows_request.2 ⟨rfl, fun _ => nofun⟩

theorem paired_selectFirst {s : Stmt} (hs : s.isSelect = true) : Paired (selectFirst s) :=
  paired_bind (paired_select hs) fun _ => paired_pure _

theorem paired_fetch {s : Stmt} {f : Option (List Row) → γ} (hs : s.isSelect = true) :
    Paired (do let result ← select s; return f result) :=
  paired_bind (paired_select hs) fun _ => paired_pure _

theorem paired_fetchFirst {s : Stmt} {f : Option Row → γ} (hs : s.isSelect = true) :
    Paired (do let row ← selectFirst s; return f row) :=
  paired_bind (paired_selectFirst hs) fun _ => paired_pure _

theorem paired_stamped {f : Int → DbProg α} (hf : ∀ now, Paired (f now)) :
    Paired (getCurrentTimestamp >>= f) :=
  paired_bind paired_getCurrentTimestamp hf

theorem paired_getGroupMembers (groupId : Nat) : Paired (getGroupMembers groupId) :=
  paired_bind (paired_select rfl) fun _ => paired_pure _

theorem paired_groupsWithMembers (rows : List Row) : Paired (groupsWithMembers rows) := by
  induction rows with
  | nil => exact paired_pure _
  | cons row rows ih =>
    exact paired_bind (paired_getGroupMembers _) fun _ => paired_bind ih fun _ => paired_pure _

/-- What `get_user_groups` makes of its rows. -/
theorem paired_membershipsOf (rows : Option (List Row)) : Paired (match rows with
    | none => pure (false, [])
    | some rows => do
      let groups ← groupsWithMembers rows
      return (true, groups) : DbProg (Bool × List GroupInfo)) := by
  cases rows with
  | none => exact paired_pure _
  | some rows => exact paired_bind (paired_groupsWithMembers rows) fun _ => paired_pure _

/-- The body of `recall_private_message`. -/
theorem paired_recallPrivateMessage (messageId userId : Nat) : Paired (do
    match ← selectFirst (.privateMessages (.senderAndTime messageId)) with
    | none => return false
    | some row =>
      if row.stoull 0 ≠ userId then return false
      let now ← getCurrentTimestamp
      if now - row.stoll 1 > 120 then return false
      execute (.privateMessages (.recall messageId)) : DbProg Bool) := by
  refine paired_bind (paired_selectFirst rfl) fun row => ?_
  cases row with
  | none => exact paired_pure _
  | some row =>
    exact paired_ite (paired_pure _) (paired_stamped fun _ =>
      paired_ite (paired_pure _) (paired_execute rfl))

/-- The body of `get_group_by_id`. -/
theorem paired_groupWithMembers (groupId : Nat) : Paired (do
    match ← selectFirst (.groups (.byId groupId)) with
    | none => return none
    | some row =>
      let members ← getGroupMembers groupId
      return some (groupOf row members.2) : DbProg (Option GroupInfo)) := by
  refine paired_bind (paired_selectFirst rfl) fun row => ?_
  cases row with
  | none => exact paired_pure _
  | some row => exact paired_bind (paired_getGroupMembers _) fun _ => paired_pure _

/-! ## The shapes -/

/-- What surrounds the body of a method. -/
inductive Shape
  /-- `std::lock_guard` -/
  | locked
  /-- `std::lock_guard`, then `ensure_connection` -/
  | ensured
  /-- nothing -/
  | unlocked
  /-- `recall_group_message` -/
  | nested
  deriving DecidableEq

def Method.shape : Method → Shape
  | .createUser .. | .getUserById .. | .getUserPasswordHash .. | .verifyUser .. | .addFavorite ..
  | .getFavorites .. => .ensured
  | .getGroupMembers .. | .createNewBotSession .. => .unlocked
  | .recallGroupMessage .. => .nested
  | _ => .locked

/-- The body of a method that calls `ensure_connection`; `x` is what it returns if that fails. -/
def ensured (x : α) (p : DbProg α) : DbProg α := do
  if !(← ensureConnection) then return x
  p

/-- The method programs of each shape but the last. -/
inductive HasShape : Shape → DbProg Unit → Prop
  | locked {α : Type} {p : DbProg α} (h : Paired p) : HasShape .locked (Database.locked p).void
  | ensured {α : Type} {x : α} {p : DbProg α} (h : Paired p) :
      HasShape .ensured (Database.locked (Database.ensured x p)).void
  | unlocked {α : Type} {p : DbProg α} (h : Paired p) : HasShape .unlocked p.void

theorem Method.hasShape (m : Method) (hm : m.shape ≠ .nested) : HasShape m.shape m.prog := by
  cases m
  case recallGroupMessage => exact absurd rfl hm
  -- a statement with the time in it
  case updateUser | updateUserPassword | addFriendRequest | rejectFriendRequest
      | setFriendRemark | updateGroup | addGroupMember | saveBotConversation
      | saveUserPublicKey =>
    exact .locked (paired_stamped fun _ => paired_execute rfl)
  -- a statement without it
  case updateUserOnlineStatus | removeFriend | updateMessageStatus | markMessagesRead
      | dismissGroup | removeGroupMember | setGroupAdmin | clearBotConversation
      | deleteUserKey | removeFcmToken | removeFavorite =>
    exact .locked (paired_execute rfl)
  case getUserByUsername | isFriend | getUnreadCount | isGroupMember | isGroupAdmin
      | isGroupOwner | getMediaFile | getBotConversationCharCount | getUserPublicKey
      | getFcmToken | isFavorited =>
    exact .locked (paired_fetchFirst rfl)
  case searchUsers | getFriendList | getFriendRequests | getPrivateHistory | getGroupHistory
      | getBotConversation | getUserBotSessions =>
    exact .locked (paired_fetch rfl)
  case savePrivateMessage | saveGroupMessage =>
    exact .locked (paired_stamped fun _ => paired_insert rfl (paired_pure _) fun _ =>
      paired_pure _)
  case createUser =>
    exact .ensured (paired_stamped fun _ => paired_insert rfl (paired_pure _) fun _ =>
      paired_pure _)
  case getUserById | getUserPasswordHash | verifyUser =>
    exact .ensured (paired_fetchFirst rfl)
  case addFavorite => exact .ensured (paired_stamped fun _ => paired_execute rfl)
  case getFavorites => exact .ensured (paired_fetch rfl)
  case getGroupMembers groupId => exact .unlocked (paired_getGroupMembers groupId)
  case createNewBotSession => exact .unlocked (paired_stamped fun _ => paired_pure _)
  case acceptFriendRequest =>
    exact .locked (paired_stamped fun _ => paired_bind (paired_mysqlQuery rfl) fun _ =>
      paired_ite (paired_pure _) (paired_execute rfl))
  case createGroup =>
    exact .locked (paired_stamped fun _ => paired_insert rfl (paired_pure _) fun _ =>
      paired_bind (paired_execute rfl) fun _ => paired_pure _)
  case getGroupById groupId => exact .locked (paired_groupWithMembers groupId)
  case getUserGroups =>
    exact .locked (paired_bind (paired_select rfl) paired_membershipsOf)
  case transferGroupOwner =>
    exact .locked (paired_bind (paired_mysqlQuery rfl) fun _ => paired_ite (paired_pure _)
      (paired_bind (paired_mysqlQuery rfl) fun _ => paired_execute rfl))
  case saveMediaFile =>
    exact .locked (paired_stamped fun _ => paired_bind (paired_fileSize _) fun _ =>
      paired_insert rfl (paired_pure _) fun _ => paired_pure _)
  case getMessageSender =>
    refine .locked (paired_bind (paired_selectFirst rfl) fun row => ?_)
    cases row with
    | none => exact paired_fetchFirst rfl
    | some row => exact paired_pure _
  case recallPrivateMessage messageId userId =>
    exact .locked (paired_recallPrivateMessage messageId userId)
  case saveFcmToken =>
    exact .locked (paired_stamped fun _ => paired_bind (paired_mysqlQuery rfl) fun _ =>
      paired_ite (paired_pure _) (paired_bind (paired_mysqlQuery rfl) fun _ =>
        paired_ite (paired_execute rfl) (paired_pure _)))

end ChatApp.Database
