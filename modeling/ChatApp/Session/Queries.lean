/-
  What the `Database` methods return on the tables. Each spec is a triple; `hfail` covers a
  statement that does not get through: either the postcondition allows for it, or the connection
  is healthy.
-/
import ChatApp.Session.World

namespace ChatApp.Session

open ChatApp.Lib ChatApp.Lib.Prog ChatApp.Database ChatApp.Protocol

/-! ## Rows -/

/-- A message as a history gives it. -/
def messageInfo (ofGroup : Bool) (m : MessageRow) : Message where
  messageId := m.messageId
  senderId := m.senderId
  receiverId := if ofGroup then 0 else m.targetId
  groupId := if ofGroup then m.targetId else 0
  mediaType := m.mediaType
  content := m.content
  mediaUrl := m.mediaUrl
  extra := m.extra
  status := m.status
  createdAt := m.createdAt

@[simp] theorem ofCode_code (s : MessageStatus) : MessageStatus.ofCode s.code = s := by
  cases s <;> rfl

theorem ofInt_toNat (x : UInt8) : UInt8.ofInt x.toNat = x := by
  have hlt := x.toNat_lt
  have hmod : ((x.toNat : Int) % 2 ^ 8).toNat = x.toNat := by omega
  rw [UInt8.ofInt, hmod, UInt8.ofNat_toNat]

@[simp] theorem messageOf_messageRow (ofGroup : Bool) (m : MessageRow) :
    messageOf ofGroup (Tables.messageRow m) = messageInfo ofGroup m := by
  simp [Tables.messageRow, messageOf, messageInfo, Row.stoull, Row.stoll, Row.str, Row.cell,
    ofInt_toNat]

/-- A group as `get_group_by_id` gives it. -/
def groupInfo (g : GroupRow) (members : List Nat) : GroupInfo where
  groupId := g.groupId
  groupName := g.groupName
  avatarUrl := g.avatarUrl
  description := g.description
  ownerId := g.ownerId
  admins := []
  members := members
  createdAt := g.createdAt
  updatedAt := g.updatedAt

@[simp] theorem groupOf_groupRow (g : GroupRow) (members : List Nat) :
    groupOf (Tables.groupRow g) members = groupInfo g members := by
  simp [Tables.groupRow, groupOf, groupInfo, Row.stoull, Row.stoll, Row.str, Row.cell]

/-- The user ids of the members, in the order of the table. -/
def memberIds (d : Tables) (groupId : Nat) : List Nat :=
  (d.members.rows.filter (·.groupId = groupId)).map (·.userId)

def isMember (d : Tables) (groupId userId : Nat) : Prop :=
  (d.members.find? (groupId, userId)).isSome

instance (d : Tables) (groupId userId : Nat) : Decidable (isMember d groupId userId) :=
  inferInstanceAs (Decidable (_ = true))

/-- `is_group_owner` -/
def owns (d : Tables) (groupId userId : Nat) : Bool :=
  (d.groups.find? groupId).any fun g => decide (g.ownerId = userId)

/-- `is_group_admin` -/
def administers (d : Tables) (groupId userId : Nat) : Bool :=
  (d.members.find? (groupId, userId)).any (·.isAdmin)

/-- A member as `Session::handle_group_members` lists it. -/
def memberJson (user : UserInfo) (isOwner isAdmin : Bool) : Json := .object [
  ("user_id", .number user.userId),
  ("nickname", .string user.nickname),
  ("avatar_url", .string user.avatarUrl),
  ("online_status", .number user.onlineStatus.code),
  ("is_owner", .bool isOwner),
  ("is_admin", .bool isAdmin)]

def memberInfo (d : Tables) (groupId userId : Nat) : Option Json :=
  (d.users.find? userId).map fun user =>
    memberJson user (owns d groupId userId) (administers d groupId userId)

theorem countP_members {d : Tables} {groupId userId : Nat} :
    0 < d.members.rows.countP (fun m => m.key = (groupId, userId)) ↔ isMember d groupId userId := by
  simp [isMember, Option.isSome_iff_exists, UniqueTable.find?_eq_some, List.countP_pos_iff]

/-- The members of a group are users. -/
theorem user_of_mem {d : Tables} {groupId userId : Nat} (h : userId ∈ memberIds d groupId) :
    (d.users.find? userId).isSome := by
  obtain ⟨m, hm, rfl⟩ := List.mem_map.1 h
  exact (d.memberships m (List.mem_of_mem_filter hm)).2

namespace Outside

variable {ρ : Type} {o : Outside ρ} {d : Tables}

/-! ## Users and groups -/

theorem dbTriple_getUserById (ho : o.Healthy) (userId : Nat) :
    o.DbTriple d (getUserById userId) fun user d' => user = d.users.find? userId ∧ d' = d := by
  refine dbTriple_locked (dbTriple_bind (dbTriple_ensureConnection ho ?_))
  refine dbTriple_bind (dbTriple_selectFirst ((d.users.find? userId).toList.map
    Tables.userRow) rfl (fun _ => rfl) (.inr ho) (dbTriple_pure ⟨?_, rfl⟩))
  cases d.users.find? userId <;> simp

theorem dbTriple_getGroupMembers (ho : o.Healthy) (groupId : Nat) :
    o.DbTriple d (getGroupMembers groupId) fun members d' =>
      members = (true, memberIds d groupId) ∧ d' = d := by
  refine dbTriple_bind (dbTriple_select (fun _ => some
    ((d.members.rows.filter (·.groupId = groupId)).map fun m => [.num m.userId])) rfl
    (fun _ => rfl) (.inr ho) fun _ => dbTriple_pure ⟨?_, rfl⟩)
  simp [memberIds, Function.comp_def, Row.stoull, Row.stoll, Row.cell]

theorem dbTriple_getGroupById (ho : o.Healthy) (groupId : Nat) :
    o.DbTriple d (getGroupById groupId) fun group d' =>
      group = (d.groups.find? groupId).map (groupInfo · (memberIds d groupId)) ∧ d' = d := by
  refine dbTriple_locked (dbTriple_bind (dbTriple_selectFirst
    ((d.groups.find? groupId).toList.map Tables.groupRow) rfl (fun _ => rfl) (.inr ho) ?_))
  cases d.groups.find? groupId with
  | none => exact dbTriple_pure ⟨rfl, rfl⟩
  | some g =>
    refine dbTriple_bind ((dbTriple_getGroupMembers ho groupId).mono ?_)
    rintro members d' ⟨rfl, rfl⟩
    exact dbTriple_pure ⟨by simp, rfl⟩

theorem dbTriple_isGroupOwner (ho : o.Healthy) (groupId userId : Nat) :
    o.DbTriple d (isGroupOwner groupId userId) fun isOwner d' =>
      isOwner = owns d groupId userId ∧ d' = d := by
  refine dbTriple_locked (dbTriple_bind (dbTriple_selectFirst
    ((d.groups.find? groupId).toList.map fun g => [.num g.ownerId]) rfl (fun _ => rfl) (.inr ho)
    (dbTriple_pure ⟨?_, rfl⟩)))
  unfold owns
  cases d.groups.find? groupId <;> simp [Row.stoull, Row.stoll, Row.cell]

theorem dbTriple_isGroupAdmin (ho : o.Healthy) (groupId userId : Nat) :
    o.DbTriple d (isGroupAdmin groupId userId) fun isAdmin d' =>
      isAdmin = administers d groupId userId ∧ d' = d := by
  refine dbTriple_locked (dbTriple_bind (dbTriple_selectFirst
    ((d.members.find? (groupId, userId)).toList.map fun m => [.num (if m.isAdmin then 1 else 0)])
    rfl (fun _ => rfl) (.inr ho) (dbTriple_pure ⟨?_, rfl⟩)))
  unfold administers
  cases d.members.find? (groupId, userId) with
  | none => rfl
  | some m => cases h : m.isAdmin <;> simp [Row.stoll, Row.cell, h]

/-- Also when the statement may fail, the answer is yes only for a member. -/
theorem dbTriple_isGroupMember (groupId userId : Nat) :
    o.DbTriple d (isGroupMember groupId userId) fun member d' =>
      (member = true → isMember d groupId userId) ∧
        (o.Healthy → isMember d groupId userId → member = true) ∧ d' = d := by
  by_cases ho : o.Healthy
  · refine dbTriple_locked (dbTriple_bind (dbTriple_selectFirst
      [[.num (d.members.rows.countP fun m => m.key = (groupId, userId))]] rfl (fun _ => rfl)
      (.inr ho) (dbTriple_pure ⟨?_, ?_, rfl⟩)))
    · simpa [countPositive, Row.stoll, Row.cell] using countP_members.1
    · simpa [countPositive, Row.stoll, Row.cell] using fun _ => countP_members.2
  · refine dbTriple_locked (dbTriple_bind (dbTriple_selectFirst
      [[.num (d.members.rows.countP fun m => m.key = (groupId, userId))]] rfl (fun _ => rfl)
      (.inl (dbTriple_pure ⟨?_, ?_, rfl⟩)) (dbTriple_pure ⟨?_, ?_, rfl⟩)))
    · simp [countPositive]
    · exact fun h => absurd h ho
    · simpa [countPositive, Row.stoll, Row.cell] using countP_members.1
    · exact fun h => absurd h ho

end Outside

end ChatApp.Session
