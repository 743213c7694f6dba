/-
  The tables that requests about users, groups and messages read and write, and what each
  statement on them does. Every statement is atomic. The foreign keys of `init_tables` hold:
  an INSERT that would break one fails. A SELECT without ORDER BY gives the rows in the order of
  insertion; the order of a history is given by a function `order`, since rows with the same
  `created_at` may come in any order.

  Statements on other tables, and the statements on `users` and `groups` that no request
  modelled over these tables issues, are left to the rest of the server (`elsewhere`).
-/
import ChatApp.Lib.Table
import ChatApp.Database.Methods

namespace ChatApp.Database

open ChatApp.Lib

structure GroupRow where
  groupId : Nat
  groupName : String
  avatarUrl : String
  description : String
  ownerId : Nat
  createdAt : Int
  updatedAt : Int
  deriving DecidableEq

structure MemberRow where
  groupId : Nat
  userId : Nat
  isAdmin : Bool
  joinedAt : Int
  deriving DecidableEq

/-- The columns shared by `private_messages` and `group_messages`. -/
structure MessageRow where
  messageId : Nat
  senderId : Nat
  /-- `receiver_id` or `group_id` -/
  targetId : Nat
  mediaType : MediaType
  content : String
  mediaUrl : String
  extra : String
  status : MessageStatus
  createdAt : Int
  deriving DecidableEq

/-- (group_id, user_id) -/
def MemberRow.key (r : MemberRow) : Nat × Nat := (r.groupId, r.userId)

/-- content = '[消息已撤回]', media_type = 0, media_url = '' -/
def MessageRow.recalled (r : MessageRow) : MessageRow :=
  { r with content := "[消息已撤回]", mediaType := ⟨0⟩, mediaUrl := "" }

/-- UPDATE of the row with the id. -/
def MessageRow.recallAt (messageId : Nat) (r : MessageRow) : MessageRow :=
  if r.messageId = messageId then r.recalled else r

@[simp] theorem MessageRow.messageId_recallAt (messageId : Nat) (r : MessageRow) :
    (r.recallAt messageId).messageId = r.messageId := by
  unfold recallAt
  split <;> rfl

@[simp] theorem MessageRow.senderId_recallAt (messageId : Nat) (r : MessageRow) :
    (r.recallAt messageId).senderId = r.senderId := by
  unfold recallAt
  split <;> rfl

@[simp] theorem MessageRow.targetId_recallAt (messageId : Nat) (r : MessageRow) :
    (r.recallAt messageId).targetId = r.targetId := by
  unfold recallAt
  split <;> rfl

structure Tables where
  users : UniqueTable UserInfo.userId
  groups : UniqueTable GroupRow.groupId
  members : UniqueTable MemberRow.key
  privateMessages : SerialTable MessageRow.messageId
  groupMessages : SerialTable MessageRow.messageId
  owners : ∀ g ∈ groups.rows, (users.find? g.ownerId).isSome
  memberships : ∀ m ∈ members.rows,
    (groups.find? m.groupId).isSome ∧ (users.find? m.userId).isSome
  correspondents : ∀ m ∈ privateMessages.rows,
    (users.find? m.senderId).isSome ∧ (users.find? m.targetId).isSome
  posters : ∀ m ∈ groupMessages.rows,
    (groups.find? m.targetId).isSome ∧ (users.find? m.senderId).isSome

namespace Tables

/-- INSERT INTO private_messages -/
def insertPrivate (db : Tables) (r : Nat → MessageRow) (hr : ∀ n, (r n).messageId = n) :
    Option Tables :=
  if h : (db.users.find? (r db.privateMessages.next).senderId).isSome ∧
      (db.users.find? (r db.privateMessages.next).targetId).isSome then
    some { db with
      privateMessages := db.privateMessages.insert r hr
      correspondents := by
        intro m hm
        rcases List.mem_append.1 hm with hm | hm
        · exact db.correspondents m hm
        · rw [List.mem_singleton.1 hm]
          exact h }
  else none

/-- INSERT INTO group_messages -/
def insertGroup (db : Tables) (r : Nat → MessageRow) (hr : ∀ n, (r n).messageId = n) :
    Option Tables :=
  if h : (db.groups.find? (r db.groupMessages.next).targetId).isSome ∧
      (db.users.find? (r db.groupMessages.next).senderId).isSome then
    some { db with
      groupMessages := db.groupMessages.insert r hr
      posters := by
        intro m hm
        rcases List.mem_append.1 hm with hm | hm
        · exact db.posters m hm
        · rw [List.mem_singleton.1 hm]
          exact h }
  else none

def recallPrivate (db : Tables) (messageId : Nat) : Tables :=
  { db with
    privateMessages := db.privateMessages.update (·.recallAt messageId) (by simp)
    correspondents := by
      intro m hm
      obtain ⟨m', hm', rfl⟩ := List.mem_map.1 hm
      simpa using db.correspondents m' hm' }

def recallGroup (db : Tables) (messageId : Nat) : Tables :=
  { db with
    groupMessages := db.groupMessages.update (·.recallAt messageId) (by simp)
    posters := by
      intro m hm
      obtain ⟨m', hm', rfl⟩ := List.mem_map.1 hm
      simpa using db.posters m' hm' }

/-! ## Rows -/

/-- The eight columns of a user. -/
def userRow (u : UserInfo) : Row :=
  [.num u.userId, .text u.username, .text u.nickname, .text u.avatarUrl, .text u.signature,
    .num u.onlineStatus.code, .num u.createdAt, .num u.updatedAt]

@[simp] theorem user_userRow (u : UserInfo) : (userRow u).user = u := by
  simp [userRow, Row.user, Row.stoull, Row.stoll, Row.str, Row.cell]

/-- The seven columns of a group. -/
def groupRow (g : GroupRow) : Row :=
  [.num g.groupId, .text g.groupName, .text g.avatarUrl, .text g.description, .num g.ownerId,
    .num g.createdAt, .num g.updatedAt]

/-- The nine columns of a message. -/
def messageRow (m : MessageRow) : Row :=
  [.num m.messageId, .num m.senderId, .num m.targetId, .num m.mediaType.code.toNat,
    .text m.content, .text m.mediaUrl, .text m.extra, .num m.status.code, .num m.createdAt]

/-- ORDER BY created_at DESC LIMIT; a negative limit is a syntax error. -/
def page (order : List MessageRow → List MessageRow) (limit : Int) (rows : List MessageRow) :
    Option (List Row) :=
  if limit < 0 then none else some (((order rows).take limit.toNat).map messageRow)

/-- The messages of two users with each other. -/
def between (user1Id user2Id : Nat) (m : MessageRow) : Bool :=
  decide ((m.senderId = user1Id ∧ m.targetId = user2Id) ∨
    (m.senderId = user2Id ∧ m.targetId = user1Id))

/-- AND created_at < before_time, if that is positive -/
def olderThan (beforeTime : Int) (m : MessageRow) : Bool :=
  decide (0 < beforeTime → m.createdAt < beforeTime)

/-! ## Statements -/

/-- What a statement does. -/
inductive Outcome
  /-- not a statement of these tables -/
  | elsewhere
  | error
  | ok (db : Tables) (rows : List Row) (insertId : Nat)

/-- A SELECT with its rows, if it is well formed. -/
def Outcome.select (db : Tables) : Option (List Row) → Outcome
  | some rows => .ok db rows 0
  | none => .error

/-- An INSERT with the id of the row, if no key forbids it. -/
def Outcome.insert (id : Nat) : Option Tables → Outcome
  | some db => .ok db [] id
  | none => .error

def exec (order : List MessageRow → List MessageRow) (db : Tables) : Stmt → Outcome
  | .users (.byId userId) => .select db (some ((db.users.find? userId).toList.map userRow))
  | .groups (.byId groupId) => .select db (some ((db.groups.find? groupId).toList.map groupRow))
  | .groups (.owner groupId) =>
    .select db (some ((db.groups.find? groupId).toList.map fun g => [.num g.ownerId]))
  | .groupMembers (.ofGroup groupId) =>
    .select db (some ((db.members.rows.filter (·.groupId = groupId)).map fun m => [.num m.userId]))
  | .groupMembers (.count groupId userId) =>
    .select db (some [[.num (db.members.rows.countP fun m => m.key = (groupId, userId))]])
  | .groupMembers (.isAdmin groupId userId) =>
    .select db (some ((db.members.find? (groupId, userId)).toList.map fun m =>
      [.num (if m.isAdmin then 1 else 0)]))
  | .privateMessages (.insert senderId receiverId mediaType content mediaUrl extra status now) =>
    .insert db.privateMessages.next (db.insertPrivate (fun messageId =>
      ⟨messageId, senderId, receiverId, mediaType, content, mediaUrl, extra, status, now⟩)
      fun _ => rfl)
  | .privateMessages (.history user1Id user2Id beforeTime limit) =>
    .select db (page order limit (db.privateMessages.rows.filter fun m =>
      between user1Id user2Id m && olderThan beforeTime m))
  -- the table has no column `group_id`
  | .privateMessages (.senderAndGroup _) => .error
  | .privateMessages (.senderAndTime messageId) =>
    .select db (some ((db.privateMessages.find? messageId).toList.map fun m =>
      [.num m.senderId, .num m.createdAt]))
  | .privateMessages (.recall messageId) => .ok (db.recallPrivate messageId) [] 0
  | .groupMessages (.insert groupId senderId mediaType content mediaUrl extra status now) =>
    .insert db.groupMessages.next (db.insertGroup (fun messageId =>
      ⟨messageId, senderId, groupId, mediaType, content, mediaUrl, extra, status, now⟩)
      fun _ => rfl)
  | .groupMessages (.history groupId beforeTime limit) =>
    .select db (page order limit (db.groupMessages.rows.filter fun m =>
      decide (m.targetId = groupId) && olderThan beforeTime m))
  | .groupMessages (.senderAndGroup messageId) =>
    .select db (some ((db.groupMessages.find? messageId).toList.map fun m =>
      [.num m.senderId, .num m.targetId]))
  | .groupMessages (.senderGroupAndTime messageId) =>
    .select db (some ((db.groupMessages.find? messageId).toList.map fun m =>
      [.num m.senderId, .num m.targetId, .num m.createdAt]))
  | .groupMessages (.recall messageId) => .ok (db.recallGroup messageId) [] 0
  | _ => .elsewhere

end Tables

end ChatApp.Database
