/-
  The members of a group on the two front ends. `Session::handle_group_members` asks the database
  of every member whether it is the owner and whether it is an administrator. The gateway's
  `handle_group_members` looks into the group that `get_group_by_id` has filled, where the list
  `admins` is always empty.

  Both read the number of the group from the request, the server as an `int`. `members_iff` says
  for which groups the replies list the same members in the same roles.
-/
import ChatApp.Gateway.History

namespace ChatApp.Gateway.GroupMembers

open ChatApp.Lib ChatApp.Database ChatApp.Protocol ChatApp.Session
open ChatApp.Gateway.History (memberUInt64)

/-! ## The handler of the gateway -/

def role (group : GroupInfo) (memberId : Nat) : String :=
  if memberId = group.ownerId then "owner"
  else if memberId ∈ group.admins then "admin"
  else "member"

def memberJson (user : UserInfo) (role : String) : Json := .object [
  ("user_id", .number user.userId),
  ("username", .string user.username),
  ("nickname", .string user.nickname),
  ("avatar_url", .string user.avatarUrl),
  ("online_status", .number user.onlineStatus.code),
  ("role", .string role)]

/-- The loop over the members. -/
def membersJson (group : GroupInfo) : List Nat → SessionM (List Json)
  | [] => pure []
  | memberId :: memberIds => do
    match ← db (getUserById memberId) with
    | some user =>
      let rest ← membersJson group memberIds
      return memberJson user (role group memberId) :: rest
    | none => membersJson group memberIds

def notFound : Json := .object [("type", .string "groupMembersResponse"),
  ("success", .bool false), ("error", .string "Group not found")]

/-- `handle_group_members`; the result is the text it sends. -/
def handleGroupMembers (msg : Json) : SessionM Json := do
  let groupId ← read (memberUInt64 msg "group_id")
  match ← db (getGroupById groupId) with
  | none => return notFound
  | some group =>
    let members ← membersJson group group.members
    return .object [("type", .string "groupMembersResponse"), ("success", .bool true),
      ("group_id", .number groupId), ("members", .array members)]

/-! ## Replies -/

/-- A frame to the server and a message to the gateway ask for the members of the group `n`. -/
structure Asks (body msg : Json) (n : Int) : Prop where
  frame : body.valueInt "group_id" 0 = .ok (toInt32 n)
  message : memberUInt64 msg "group_id" = .ok (toUInt64 n)

/-- The frames with which the server answers a GROUP_MEMBERS. -/
def serverReply {ρ : Type} (o : Outside ρ) (s : Session) (sequence : UInt32) (body : Json) (r : ρ)
    (d : Tables) : List (SessionId × Frame) :=
  (o.handle s sequence body MessageType.groupMembers.code (r, .idle d)).1

def gatewayReply {ρ : Type} (o : Outside ρ) (msg : Json) (r : ρ) (d : Tables) :
    Except Stop Json :=
  (o.run (handleGroupMembers msg) (r, .idle d)).1

/-- The array under "members". -/
def listed (reply : Json) : List Json :=
  match reply.find? "members" with
  | some (.array members) => members
  | _ => []

def serverList (reply : List (SessionId × Frame)) : List Json :=
  reply.flatMap fun x => ((x.2.body.find? "data").map listed).getD []

def gatewayList : Except Stop Json → List Json
  | .ok reply => listed reply
  | .error _ => []

/-- An entry of the gateway and one of the server are of the same user in the same role. -/
structure SameRole (ours theirs : Json) : Prop where
  user : ours.find? "user_id" = theirs.find? "user_id"
  owner : ours.find? "role" = some (.string "owner") ↔
    theirs.find? "is_owner" = some (.bool true)
  admin : ours.find? "role" = some (.string "admin") ↔
    theirs.find? "is_admin" = some (.bool true) ∧ theirs.find? "is_owner" = some (.bool false)
  member : ours.find? "role" = some (.string "member") ↔
    theirs.find? "is_admin" = some (.bool false) ∧ theirs.find? "is_owner" = some (.bool false)

/-- Every entry has its counterpart. -/
def SameMembers (ours theirs : List Json) : Prop :=
  (∀ x ∈ ours, ∃ y ∈ theirs, SameRole x y) ∧ ∀ y ∈ theirs, ∃ x ∈ ours, SameRole x y

/-- Over a healthy connection the two front ends report the same roles. -/
def SameRoles (s : Session) (sequence : UInt32) (body msg : Json) (d : Tables) : Prop :=
  ∀ (ρ : Type) (o : Outside ρ) (r : ρ), o.Healthy →
    SameMembers (gatewayList (gatewayReply o msg r d))
      (serverList (serverReply o s sequence body r d))

/-- What the tables say about the group the gateway asks for and the one the server asks for. -/
structure Agree (d : Tables) (group asked : Nat) : Prop where
  members : ∀ userId, userId ∈ memberIds d group ↔ asked ≠ 0 ∧ userId ∈ memberIds d asked
  owner : ∀ userId ∈ memberIds d group, owns d group userId = owns d asked userId
  /-- No member is an administrator without being the owner. -/
  admins : ∀ userId ∈ memberIds d group, administers d asked userId → owns d asked userId

/-! ## What is listed -/

section
variable {ρ : Type} {o : Outside ρ} {d : Tables} {s : Session} {sequence : UInt32}
variable {body msg : Json} {n : Int}

/-- What the gateway lists of a member. -/
def memberEntry (d : Tables) (groupId userId : Nat) : Option Json :=
  (d.users.find? userId).map fun user =>
    memberJson user (if owns d groupId userId then "owner" else "member")

theorem triple_membersJson (ho : o.Healthy) {group : GroupInfo} {groupId : Nat}
    (hrole : ∀ userId, role group userId = if owns d groupId userId then "owner" else "member")
    (ids : List Nat) :
    o.Triple d (membersJson group ids) fun r d' xs =>
      r = .ok (ids.filterMap (memberEntry d groupId)) ∧ d' = d ∧ xs = [] := by
  induction ids with
  | nil => exact Outside.triple_pure ⟨rfl, rfl, rfl⟩
  | cons id ids ih =>
    refine Outside.triple_bind (Outside.triple_ensured ho (paired_fetchFirst rfl)
      ((Outside.dbTriple_getUserById ho id).mono ?_))
    rintro found d' ⟨rfl, rfl⟩
    cases huser : d'.users.find? id with
    | none =>
      have hentry : memberEntry d' groupId id = none := by rw [memberEntry, huser]; rfl
      rw [List.filterMap_cons_none hentry]
      exact Outside.then_ok ih
    | some user =>
      have hentry : memberEntry d' groupId id = some (memberJson user (role group id)) := by
        rw [memberEntry, huser, hrole]
        rfl
      rw [List.filterMap_cons_some hentry]
      refine Outside.then_ok (Outside.triple_bind (ih.mono ?_))
      rintro r d xs ⟨rfl, rfl, rfl⟩
      exact Outside.then_ok (Outside.triple_pure ⟨rfl, rfl, rfl⟩)

/-- `get_group_by_id` lists no administrators. -/
theorem role_groupInfo {g : GroupRow} {groupId : Nat} (hg : d.groups.find? groupId = some g)
    (userId : Nat) (members : List Nat) : role (groupInfo g members) userId =
      if owns d groupId userId then "owner" else "member" := by
  have howns : owns d groupId userId = decide (g.ownerId = userId) := by
    rw [owns, hg]
    rfl
  have hnone : ¬ userId ∈ (groupInfo g members).admins := List.not_mem_nil
  unfold role
  rw [howns, if_neg hnone]
  by_cases howner : userId = g.ownerId
  · rw [if_pos (show userId = (groupInfo g members).ownerId from howner), howner,
      if_pos (decide_eq_true rfl)]
  · have hother : ¬ decide (g.ownerId = userId) = true := fun h =>
      howner (of_decide_eq_true h).symm
    rw [if_neg (show ¬ userId = (groupInfo g members).ownerId from howner), if_neg hother]

/-- Only a group that is there has members. -/
theorem group_of_mem {groupId userId : Nat} (h : userId ∈ memberIds d groupId) :
    (d.groups.find? groupId).isSome := by
  obtain ⟨m, hm, rfl⟩ := List.mem_map.1 h
  obtain ⟨hrow, hkey⟩ := List.mem_filter.1 hm
  exact of_decide_eq_true hkey ▸ (d.memberships m hrow).1

theorem gatewayList_eq (ho : o.Healthy) (h : Asks body msg n) (r : ρ) :
    gatewayList (gatewayReply o msg r d) =
      (memberIds d (toUInt64 n)).filterMap (memberEntry d (toUInt64 n)) := by
  have htriple : o.Triple d (handleGroupMembers msg) fun reply _ _ => gatewayList reply =
      (memberIds d (toUInt64 n)).filterMap (memberEntry d (toUInt64 n)) := by
    refine Outside.triple_read h.message (Outside.triple_bind (Outside.triple_locked
      (paired_groupWithMembers _) ((Outside.dbTriple_getGroupById ho _).mono ?_)))
    rintro group d' ⟨rfl, rfl⟩
    cases hg : d'.groups.find? (toUInt64 n) with
    | none =>
      have hempty : memberIds d' (toUInt64 n) = [] := by
        refine List.eq_nil_iff_forall_not_mem.2 fun userId hmem => ?_
        have hgroup := group_of_mem hmem
        rw [hg] at hgroup
        cases hgroup
      rw [hempty]
      exact Outside.then_ok (Outside.triple_pure rfl)
    | some g =>
      refine Outside.then_ok (Outside.triple_bind ((triple_membersJson ho
        (fun userId => role_groupInfo hg userId _) _).mono ?_))
      rintro reply d xs ⟨rfl, rfl, rfl⟩
      exact Outside.then_ok (Outside.triple_pure rfl)
  exact htriple _ rfl

theorem serverList_eq (ho : o.Healthy) (h : Asks body msg n) (r : ρ) :
    serverList (serverReply o s sequence body r d) =
      if toUInt64 (toInt32 n) = 0 then []
      else (memberIds d (toUInt64 (toInt32 n))).filterMap
        (memberInfo d (toUInt64 (toInt32 n))) := by
  have hid : body.valueId "group_id" = .ok (toUInt64 (toInt32 n)) := by
    rw [Json.valueId, h.frame]
    rfl
  have hreply : serverReply o s sequence body r d =
      o.frames (s.handleGroupMembers sequence body) (r, .idle d) := by
    unfold serverReply
    rw [Outside.handle_eq]
    rfl
  rw [hreply]
  by_cases hzero : toUInt64 (toInt32 n) = 0
  · have htriple : o.Triple d (s.handleGroupMembers sequence body) fun _ _ xs =>
        xs = [(s.id, createError sequence 400 "Group ID is required")] := by
      refine Outside.triple_read hid ?_
      rw [if_pos hzero]
      exact Outside.triple_send rfl
    rw [if_pos hzero, htriple (r, .idle d) rfl]
    rfl
  · rw [if_neg hzero, Outside.triple_groupMembers ho hid hzero (r, .idle d) rfl]
    exact List.append_nil _

end

/-! ## The condition -/

theorem sameRole_iff {user user' : UserInfo} {isOwner isOwner' isAdmin : Bool} :
    SameRole (memberJson user (if isOwner then "owner" else "member"))
        (Session.memberJson user' isOwner' isAdmin) ↔
      user.userId = user'.userId ∧ isOwner = isOwner' ∧ (isAdmin → isOwner') := by
  constructor
  · intro h
    have huser : some (Json.number user.userId) = some (Json.number user'.userId) := h.user
    have howner : some (Json.string (if isOwner then "owner" else "member")) =
      some (.string "owner") ↔ some (Json.bool isOwner') = some (.bool true) := h.owner
    have hadmin : some (Json.string (if isOwner then "owner" else "member")) =
      some (.string "admin") ↔ some (Json.bool isAdmin) = some (.bool true) ∧
        some (Json.bool isOwner') = some (.bool false) := h.admin
    simp only [Option.some.injEq, Json.number.injEq] at huser
    refine ⟨by omega, ?_, ?_⟩
    · cases isOwner <;> cases isOwner' <;> simp_all
    · cases isOwner <;> cases isOwner' <;> cases isAdmin <;> simp_all
  · rintro ⟨huser, rfl, hadmin⟩
    constructor
    · exact congrArg (fun id : Nat => some (Json.number id)) huser
    · show some (Json.string (if isOwner then "owner" else "member")) = some (.string "owner") ↔
        some (Json.bool isOwner) = some (.bool true)
      cases isOwner <;> simp
    · show some (Json.string (if isOwner then "owner" else "member")) = some (.string "admin") ↔
        some (Json.bool isAdmin) = some (.bool true) ∧ some (Json.bool isOwner) = some (.bool false)
      cases isOwner <;> cases isAdmin <;> simp_all
    · show some (Json.string (if isOwner then "owner" else "member")) = some (.string "member") ↔
        some (Json.bool isAdmin) = some (.bool false) ∧
          some (Json.bool isOwner) = some (.bool false)
      cases isOwner <;> cases isAdmin <;> simp_all

section
variable {d : Tables} {group asked : Nat}

variable (group asked) in
/-- A member is a user, and has an entry on both sides. -/
theorem entries_of_mem {groupId userId : Nat} (h : userId ∈ memberIds d groupId) :
    ∃ user, user.userId = userId ∧
      memberEntry d group userId =
        some (memberJson user (if owns d group userId then "owner" else "member")) ∧
      memberInfo d asked userId =
        some (Session.memberJson user (owns d asked userId) (administers d asked userId)) := by
  obtain ⟨user, huser⟩ := Option.isSome_iff_exists.1 (user_of_mem h)
  refine ⟨user, (UniqueTable.mem_of_find? huser).2, ?_, ?_⟩
  · rw [memberEntry, huser]
    rfl
  · rw [memberInfo, huser]
    rfl

theorem sameRole_entries {userId userId' : Nat} {x y : Json} (hmem : userId ∈ memberIds d group)
    (hmem' : userId' ∈ memberIds d asked) (hx : memberEntry d group userId = some x)
    (hy : memberInfo d asked userId' = some y) :
    SameRole x y ↔ userId = userId' ∧ owns d group userId = owns d asked userId' ∧
      (administers d asked userId' → owns d asked userId') := by
  obtain ⟨user, rfl, hentry, -⟩ := entries_of_mem group asked hmem
  obtain ⟨user', rfl, -, hinfo⟩ := entries_of_mem group asked hmem'
  obtain rfl := Option.some.inj (hentry.symm.trans hx)
  obtain rfl := Option.some.inj (hinfo.symm.trans hy)
  exact sameRole_iff

theorem sameMembers_iff : SameMembers ((memberIds d group).filterMap (memberEntry d group))
      (if asked = 0 then [] else (memberIds d asked).filterMap (memberInfo d asked)) ↔
    Agree d group asked := by
  have hours : ∀ x, x ∈ (memberIds d group).filterMap (memberEntry d group) ↔
      ∃ userId ∈ memberIds d group, memberEntry d group userId = some x := fun x =>
    List.mem_filterMap
  have htheirs : ∀ y, y ∈ (if asked = 0 then [] else (memberIds d asked).filterMap
      (memberInfo d asked)) ↔ asked ≠ 0 ∧ ∃ userId ∈ memberIds d asked,
        memberInfo d asked userId = some y := by
    intro y
    split <;> simp_all
  constructor
  · rintro ⟨hleft, hright⟩
    have hfind : ∀ userId ∈ memberIds d group, asked ≠ 0 ∧ userId ∈ memberIds d asked ∧
        owns d group userId = owns d asked userId ∧
        (administers d asked userId → owns d asked userId) := by
      intro userId hmem
      obtain ⟨user, -, hx, -⟩ := entries_of_mem group asked hmem
      obtain ⟨y, hy, hrole⟩ := hleft _ ((hours _).2 ⟨userId, hmem, hx⟩)
      obtain ⟨hne, userId', hmem', hy⟩ := (htheirs y).1 hy
      obtain ⟨rfl, howner, hadmin⟩ := (sameRole_entries hmem hmem' hx hy).1 hrole
      exact ⟨hne, hmem', howner, hadmin⟩
    refine ⟨fun userId => ⟨fun hmem => ?_, fun ⟨hne, hmem⟩ => ?_⟩, fun userId hmem => ?_,
      fun userId hmem => ?_⟩
    · exact ⟨(hfind userId hmem).1, (hfind userId hmem).2.1⟩
    · obtain ⟨user, -, -, hy⟩ := entries_of_mem group asked hmem
      obtain ⟨x, hx, hrole⟩ := hright _ ((htheirs _).2 ⟨hne, userId, hmem, hy⟩)
      obtain ⟨userId', hmem', hx⟩ := (hours x).1 hx
      obtain ⟨rfl, -⟩ := (sameRole_entries hmem' hmem hx hy).1 hrole
      exact hmem'
    · exact (hfind userId hmem).2.2.1
    · exact (hfind userId hmem).2.2.2
  · intro h
    have hboth : ∀ userId ∈ memberIds d group, ∀ x y, memberEntry d group userId = some x →
        memberInfo d asked userId = some y → SameRole x y := by
      intro userId hmem x y hx hy
      have hasked := ((h.members userId).1 hmem).2
      exact (sameRole_entries hmem hasked hx hy).2 ⟨rfl, h.owner userId hmem, h.admins userId hmem⟩
    constructor
    · intro x hx
      obtain ⟨userId, hmem, hx⟩ := (hours x).1 hx
      obtain ⟨user, -, -, hy⟩ := entries_of_mem group asked hmem
      obtain ⟨hne, hasked⟩ := (h.members userId).1 hmem
      exact ⟨_, (htheirs _).2 ⟨hne, userId, hasked, hy⟩, hboth userId hmem _ _ hx hy⟩
    · intro y hy
      obtain ⟨hne, userId, hasked, hy⟩ := (htheirs y).1 hy
      have hmem := (h.members userId).2 ⟨hne, hasked⟩
      obtain ⟨user, -, hx, -⟩ := entries_of_mem group asked hmem
      exact ⟨_, (hours _).2 ⟨userId, hmem, hx⟩, hboth userId hmem _ _ hx hy⟩

end

/-- The server asks for the same group. -/
theorem agree_self (d : Tables) {groupId : Nat} (hne : groupId ≠ 0) :
    Agree d groupId groupId ↔
      ∀ userId ∈ memberIds d groupId, administers d groupId userId → owns d groupId userId :=
  ⟨Agree.admins, fun h => ⟨fun _ => ⟨fun hmem => ⟨hne, hmem⟩, And.right⟩, fun _ _ => rfl, h⟩⟩

/-- The two front ends report the same roles if and only if the number, narrowed as the server
    narrows it, is that of a group with the same members and the same owner, none of whom is an
    administrator without being the owner. -/
theorem members_iff (s : Session) (sequence : UInt32) (body msg : Json) (n : Int)
    (h : Asks body msg n) (d : Tables) :
    SameRoles s sequence body msg d ↔ Agree d (toUInt64 n) (toUInt64 (toInt32 n)) := by
  constructor
  · intro hsame
    have hquiet := hsame Unit quiet () Outside.healthy_quiet
    rw [gatewayList_eq Outside.healthy_quiet h, serverList_eq Outside.healthy_quiet h] at hquiet
    exact sameMembers_iff.1 hquiet
  · intro hagree ρ o r ho
    rw [gatewayList_eq ho h, serverList_eq ho h]
    exact sameMembers_iff.2 hagree

/-- The owner, alone in the group. -/
theorem members_iff_owner : let body : Json := .object [("group_id", .number 1)]
    SameRoles ⟨1, 1, true⟩ 1 body body (loneUser 1) := by
  intro body
  have hagree : Agree (loneUser 1) 1 1 := (agree_self _ (by decide)).2 (by decide)
  exact (members_iff ⟨1, 1, true⟩ 1 body body 1 ⟨rfl, rfl⟩ (loneUser 1)).2 hagree

theorem nodup_ids : [1, 2].Nodup := by decide

/-- The group 1 of user 1, with user 2 as an administrator. -/
def twoMembers : Tables where
  users := ⟨[⟨1, "ann", "Ann", "", "", .offline, 0, 0⟩, ⟨2, "bob", "Bob", "", "", .offline, 0, 0⟩],
    nodup_ids⟩
  groups := ⟨[⟨1, "chess", "", "", 1, 0, 0⟩], List.nodup_singleton _⟩
  members := ⟨[⟨1, 1, true, 0⟩, ⟨1, 2, true, 0⟩], by decide⟩
  privateMessages := ⟨.empty, 1, SerialTable.none_below⟩
  groupMessages := ⟨.empty, 1, SerialTable.none_below⟩
  owners := by decide
  memberships := by decide
  correspondents := fun _ h => by cases h
  posters := fun _ h => by cases h

/-- The gateway reports user 2 as a member. -/
theorem members_admin : ¬ ∀ (s : Session) (sequence : UInt32) (body msg : Json) (n : Int)
    (d : Tables), 0 < n → n < 2 ^ 31 → Asks body msg n → SameRoles s sequence body msg d := by
  intro h
  have hasks : Asks (.object [("group_id", .number 1)]) (.object [("group_id", .number 1)]) 1 :=
    ⟨rfl, rfl⟩
  have hsame := h ⟨1, 1, true⟩ 1 _ _ 1 twoMembers (by decide) (by decide) hasks Unit quiet ()
    Outside.healthy_quiet
  rw [gatewayList_eq Outside.healthy_quiet hasks, serverList_eq Outside.healthy_quiet hasks]
    at hsame
  have hagree : Agree twoMembers 1 1 := sameMembers_iff.1 hsame
  exact absurd (hagree.admins 2 (by decide) (by decide)) (by decide)

end ChatApp.Gateway.GroupMembers
