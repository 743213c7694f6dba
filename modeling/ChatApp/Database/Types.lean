/-
  The records of the wire protocol header that the database layer reads and writes, and the
  cells of a MySQL result row.

  Ids are BIGINT UNSIGNED (`Nat`), timestamps signed seconds (`Int`). `MediaType` is set from
  client numbers by a `static_cast`, so it is its byte; the status columns are only ever
  written with their named codes.
-/

namespace ChatApp.Database

structure MediaType where
  code : UInt8
  deriving DecidableEq, Repr

inductive MessageStatus
  | sending | sent | delivered | read | failed
  deriving DecidableEq, Repr

inductive FriendStatus
  | pending | accepted | rejected | deleted
  deriving DecidableEq, Repr

inductive OnlineStatus
  | offline | online | busy | away
  deriving DecidableEq, Repr

/-- The number a cast to `int` gives. -/
def MessageStatus.code : MessageStatus → Int
  | sending => 0 | sent => 1 | delivered => 2 | read => 3 | failed => 4

def MessageStatus.ofCode : Int → MessageStatus
  | 0 => sending | 1 => sent | 2 => delivered | 3 => read | _ => failed

def FriendStatus.code : FriendStatus → Int
  | pending => 0 | accepted => 1 | rejected => 2 | deleted => 3

def FriendStatus.ofCode : Int → FriendStatus
  | 0 => pending | 1 => accepted | 2 => rejected | _ => deleted

def OnlineStatus.code : OnlineStatus → Int
  | offline => 0 | online => 1 | busy => 2 | away => 3

def OnlineStatus.ofCode : Int → OnlineStatus
  | 0 => offline | 1 => online | 2 => busy | _ => away

@[simp] theorem FriendStatus.ofCode_code (s : FriendStatus) : ofCode s.code = s := by
  cases s <;> rfl

@[simp] theorem OnlineStatus.ofCode_code (s : OnlineStatus) : ofCode s.code = s := by
  cases s <;> rfl

structure UserInfo where
  userId : Nat
  username : String
  nickname : String
  avatarUrl : String
  signature : String
  onlineStatus : OnlineStatus
  createdAt : Int
  updatedAt : Int
  deriving DecidableEq, Repr

structure Message where
  messageId : Nat
  senderId : Nat
  /-- the group id in a group message -/
  receiverId : Nat
  /-- 0 in a private message -/
  groupId : Nat
  mediaType : MediaType
  content : String
  mediaUrl : String
  extra : String
  status : MessageStatus
  createdAt : Int
  deriving DecidableEq, Repr

structure GroupInfo where
  groupId : Nat
  groupName : String
  avatarUrl : String
  description : String
  ownerId : Nat
  admins : List Nat
  members : List Nat
  createdAt : Int
  updatedAt : Int
  deriving DecidableEq, Repr

structure FriendRelation where
  userId : Nat
  friendId : Nat
  remark : String
  status : FriendStatus
  createdAt : Int
  updatedAt : Int
  deriving DecidableEq, Repr

/-! ## Result rows -/

/-- One field of a `MYSQL_ROW`. The client library hands numbers over as decimal text, which
    `std::stoull`, `std::stoll` and `std::stoi` read back; here the cell holds the number. -/
inductive Cell
  | null
  | num (n : Int)
  | text (s : String)
  deriving DecidableEq, Repr

abbrev Row := List Cell

/-- `row[i]` -/
def Row.cell (row : Row) (i : Nat) : Cell := row.getD i .null

/-- `std::stoll(row[i])`, `std::stoi(row[i])` -/
def Row.stoll (row : Row) (i : Nat) : Int :=
  match row.cell i with
  | .num n => n
  | _ => 0

/-- `std::stoull(row[i])` -/
def Row.stoull (row : Row) (i : Nat) : Nat := (row.stoll i).toNat

/-- `row[i] ? row[i] : ""` -/
def Row.str (row : Row) (i : Nat) : String :=
  match row.cell i with
  | .text s => s
  | _ => ""

/-- The eight user columns, which every query for users puts first. -/
def Row.user (row : Row) : UserInfo where
  userId := row.stoull 0
  username := row.str 1
  nickname := row.str 2
  avatarUrl := row.str 3
  signature := row.str 4
  onlineStatus := .ofCode (row.stoll 5)
  createdAt := row.stoll 6
  updatedAt := row.stoll 7

end ChatApp.Database
