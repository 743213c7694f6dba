/-
  The tables `users`, `groups` and `group_members` and the statements `GroupManager` makes
  `Database` issue.

  The keys of `init_tables` hold: `group_members` has the unique key (group_id, user_id), an
  owner and a member are users, a member belongs to a group, and the members of a group go when
  the group does. The numbers of groups are not used again. The messages of a group and the row
  id of `group_members` are left out. A SELECT without ORDER BY gives the rows in the order of
  insertion.
-/
import ChatApp.Database.Atomic
import ChatApp.Database.Tables

namespace ChatApp.Groups

open ChatApp.Lib ChatApp.Database

structure GroupDb where
  users : UniqueTable UserInfo.userId
  groups : SerialTable GroupRow.groupId
  members : UniqueTable MemberRow.key
  owners : ∀ g ∈ groups.rows, (users.find? g.ownerId).isSome
  memberships : ∀ m ∈ members.rows,
    (groups.find? m.groupId).isSome ∧ (users.find? m.userId).isSome

namespace GroupDb

/-- The state with no group. -/
def fresh (users : UniqueTable UserInfo.userId) : GroupDb where
  users := users
  groups := ⟨.empty, 1, fun _ h => by cases h⟩
  members := .empty
  owners _ h := by cases h
  memberships _ h := by cases h

/-! ## Statements -/

/-- INSERT INTO groups -/
def insertGroup (db : GroupDb) (r : Nat → GroupRow) (hr : ∀ n, (r n).groupId = n) :
    Option GroupDb :=
  if h : (db.users.find? (r db.groups.next).ownerId).isSome then
    some { db with
      groups := db.groups.insert r hr
      owners := by
        intro g hg
        rcases List.mem_append.1 hg with hg | hg
        · exact db.owners g hg
        · rw [List.mem_singleton.1 hg]
          exact h
      memberships := by
        intro m hm
        refine ⟨?_, (db.memberships m hm).2⟩
        rw [SerialTable.find?_insert]
        split
        · rfl
        · exact (db.memberships m hm).1 }
  else none

/-- UPDATE groups, with values that keep the owner -/
def updateGroup (db : GroupDb) (f : GroupRow → GroupRow) (hid : ∀ g, (f g).groupId = g.groupId)
    (howner : ∀ g, (f g).ownerId = g.ownerId) : GroupDb :=
  { db with
    groups := db.groups.update f hid
    owners := by
      intro g hg
      obtain ⟨g', hg', rfl⟩ := List.mem_map.1 hg
      rw [howner]
      exact db.owners g' hg'
    memberships := by
      intro m hm
      refine ⟨?_, (db.memberships m hm).2⟩
      rw [SerialTable.find?_update, Option.isSome_map]
      exact (db.memberships m hm).1 }

/-- DELETE FROM groups WHERE group_id, with ON DELETE CASCADE to the members -/
def deleteGroup (db : GroupDb) (groupId : Nat) : GroupDb where
  users := db.users
  groups := db.groups.filter fun g => decide (g.groupId ≠ groupId)
  members := db.members.filter fun m => decide (m.groupId ≠ groupId)
  owners g hg := db.owners g (List.mem_of_mem_filter hg)
  memberships m hm := by
    obtain ⟨hm, hne⟩ := List.mem_filter.1 hm
    have hmem := db.memberships m hm
    refine ⟨?_, hmem.2⟩
    obtain ⟨g, hg⟩ := Option.isSome_iff_exists.1 hmem.1
    have hid : g.groupId = m.groupId := (UniqueTable.mem_of_find? hg).2
    rw [SerialTable.find?_filter, hg, Option.filter_some, if_pos (by simpa [hid] using hne)]
    rfl

/-- UPDATE groups SET owner_id WHERE group_id AND owner_id -/
def setOwner (db : GroupDb) (groupId oldOwnerId newOwnerId : Nat) : Option GroupDb :=
  if h : (∃ g ∈ db.groups.rows, g.groupId = groupId ∧ g.ownerId = oldOwnerId) →
      (db.users.find? newOwnerId).isSome then
    let f := fun g : GroupRow =>
      if g.groupId = groupId ∧ g.ownerId = oldOwnerId then { g with ownerId := newOwnerId } else g
    have hid : ∀ g, (f g).groupId = g.groupId := by
      intro g
      simp only [f]
      split <;> rfl
    some { db with
      groups := db.groups.update f hid
      owners := by
        intro g hg
        obtain ⟨g', hg', rfl⟩ := List.mem_map.1 hg
        by_cases hf : g'.groupId = groupId ∧ g'.ownerId = oldOwnerId
        · simpa only [f, if_pos hf] using h ⟨g', hg', hf⟩
        · simpa only [f, if_neg hf] using db.owners g' hg'
      memberships := by
        intro m hm
        refine ⟨?_, (db.memberships m hm).2⟩
        rw [SerialTable.find?_update, Option.isSome_map]
        exact (db.memberships m hm).1 }
  else none

/-- INSERT INTO group_members -/
def insertMember (db : GroupDb) (r : MemberRow) : Option GroupDb :=
  if h : (db.groups.find? r.groupId).isSome ∧ (db.users.find? r.userId).isSome then
    match hm : db.members.insert? r with
    | none => none
    | some members => some { db with
        members := members
        memberships := by
          rw [UniqueTable.rows_insert? hm]
          intro m hm
          rcases List.mem_append.1 hm with hm | hm
          · exact db.memberships m hm
          · rw [List.mem_singleton.1 hm]
            exact h }
  else none

/-- DELETE FROM group_members WHERE group_id AND user_id -/
def deleteMember (db : GroupDb) (groupId userId : Nat) : GroupDb :=
  { db with
    members := db.members.filter fun m => decide (m.key ≠ (groupId, userId))
    memberships := fun m hm => db.memberships m (List.mem_of_mem_filter hm) }

/-- UPDATE group_members SET is_admin WHERE group_id AND user_id -/
def setAdmin (db : GroupDb) (groupId userId : Nat) (isAdmin : Bool) : GroupDb :=
  let f := fun m : MemberRow => if m.key = (groupId, userId) then { m with isAdmin } else m
  have hkey : ∀ m, (f m).key = m.key := by
    intro m
    simp only [f]
    split <;> rfl
  { db with
    members := db.members.update f hkey
    memberships := by
      intro m hm
      obtain ⟨m', hm', rfl⟩ := List.mem_map.1 hm
      have hm : (f m').groupId = m'.groupId ∧ (f m').userId = m'.userId := Prod.mk.inj (hkey m')
      rw [hm.1, hm.2]
      exact db.memberships m' hm' }

/-- The row of `groups` that an INSERT makes. -/
def newGroup (groupName : String) (ownerId : Nat) (description : String) (now : Int)
    (groupId : Nat) : GroupRow :=
  ⟨groupId, groupName, "", description, ownerId, now, now⟩

/-- The columns that `update_group` writes. -/
def describe (groupId : Nat) (groupName avatarUrl description : String) (now : Int)
    (g : GroupRow) : GroupRow :=
  if g.groupId = groupId then { g with groupName, avatarUrl, description, updatedAt := now } else g

theorem describe_keeps (groupId : Nat) (groupName avatarUrl description : String) (now : Int)
    (g : GroupRow) : (describe groupId groupName avatarUrl description now g).groupId = g.groupId ∧
      (describe groupId groupName avatarUrl description now g).ownerId = g.ownerId := by
  unfold describe
  split <;> exact ⟨rfl, rfl⟩

/-- groups JOIN group_members: the groups of a user -/
def groupsOf (db : GroupDb) (userId : Nat) : List GroupRow :=
  (db.members.rows.filter (·.userId = userId)).filterMap (db.groups.find? ·.groupId)

def execGroups (db : GroupDb) : GroupStmt → Option (GroupDb × List Row × Nat)
  | .insert groupName ownerId description now =>
    (db.insertGroup (newGroup groupName ownerId description now) fun _ => rfl).map
      (·, [], db.groups.next)
  | .byId groupId => some (db, (db.groups.find? groupId).toList.map Tables.groupRow, 0)
  | .update groupId groupName avatarUrl description now =>
    some (db.updateGroup (describe groupId groupName avatarUrl description now)
      (fun g => (describe_keeps groupId groupName avatarUrl description now g).1)
      (fun g => (describe_keeps groupId groupName avatarUrl description now g).2), [], 0)
  | .delete groupId => some (db.deleteGroup groupId, [], 0)
  | .ofUser userId => some (db, (db.groupsOf userId).map Tables.groupRow, 0)
  | .owner groupId =>
    some (db, (db.groups.find? groupId).toList.map fun g => [.num g.ownerId], 0)
  | .setOwner groupId oldOwnerId newOwnerId =>
    (db.setOwner groupId oldOwnerId newOwnerId).map (·, [], 0)

def execMembers (db : GroupDb) : GroupMemberStmt → Option (GroupDb × List Row × Nat)
  | .insert groupId userId isAdmin now =>
    (db.insertMember ⟨groupId, userId, isAdmin, now⟩).map (·, [], 0)
  | .delete groupId userId => some (db.deleteMember groupId userId, [], 0)
  | .ofGroup groupId =>
    some (db, (db.members.rows.filter (·.groupId = groupId)).map fun m => [.num m.userId], 0)
  | .count groupId userId =>
    some (db, [[.num (db.members.rows.countP fun m => m.key = (groupId, userId))]], 0)
  | .isAdmin groupId userId =>
    some (db, (db.members.find? (groupId, userId)).toList.map fun m =>
      [.num (if m.isAdmin then 1 else 0)], 0)
  | .setAdmin groupId userId isAdmin => some (db.setAdmin groupId userId isAdmin, [], 0)

/-- Statements on other tables are not answered. -/
def exec : Exec GroupDb
  | db, .groups s => db.execGroups s
  | db, .groupMembers s => db.execMembers s
  | _, _ => none

/-- A SELECT changes nothing. -/
theorem exec_select (db : GroupDb) (stmt : Stmt) (db' : GroupDb) (rows : List Row) (id : Nat)
    (h : stmt.isSelect = true) (hexec : exec db stmt = some (db', rows, id)) : db' = db := by
  cases stmt with
  | groups s =>
    cases s <;> first
      | exact absurd h Bool.false_ne_true
      | exact (congrArg Prod.fst (Option.some.inj hexec)).symm
  | groupMembers s =>
    cases s <;> first
      | exact absurd h Bool.false_ne_true
      | exact (congrArg Prod.fst (Option.some.inj hexec)).symm
  | _ => cases hexec

/-! ## Owners and ranks -/

/-- `owner_id` of a group -/
def owner (db : GroupDb) (groupId : Nat) : Option Nat := (db.groups.find? groupId).map (·.ownerId)

/-- `is_admin` of a member of a group -/
def rank (db : GroupDb) (groupId userId : Nat) : Option Bool :=
  (db.members.find? (groupId, userId)).map (·.isAdmin)

def userExists (db : GroupDb) (userId : Nat) : Prop := (db.users.find? userId).isSome

instance (db : GroupDb) (userId : Nat) : Decidable (db.userExists userId) :=
  inferInstanceAs (Decidable (_ = true))

/-- The group has the same row and the same members. -/
def SameGroup (groupId : Nat) (db db' : GroupDb) : Prop :=
  db'.groups.find? groupId = db.groups.find? groupId ∧
    ∀ u, db'.members.find? (groupId, u) = db.members.find? (groupId, u)

/-- Every group but one is the same. -/
def SameBut (groupId : Nat) (db db' : GroupDb) : Prop := ∀ g ≠ groupId, SameGroup g db db'

section
variable {db db' db'' : GroupDb} {g g' u a b : Nat} {isAdmin : Bool}

theorem sameBut_refl : SameBut g db db := fun _ _ => ⟨rfl, fun _ => rfl⟩

theorem SameBut.trans (h : SameBut g db db') (h' : SameBut g db' db'') : SameBut g db db'' :=
  fun k hk => ⟨(h' k hk).1.trans (h k hk).1, fun u => ((h' k hk).2 u).trans ((h k hk).2 u)⟩

theorem owner_eq_some : db.owner g = some a ↔
    ∃ r ∈ db.groups.rows, r.groupId = g ∧ r.ownerId = a := by
  simp [owner, UniqueTable.find?_eq_some, and_assoc]

theorem owner_isSome_of_rank (h : db.rank g u ≠ none) : db.owner g ≠ none := by
  obtain ⟨isAdmin, hrank⟩ := Option.ne_none_iff_exists'.1 h
  obtain ⟨m, hfind, -⟩ := Option.map_eq_some_iff.1 hrank
  obtain ⟨hm, hkey⟩ := UniqueTable.mem_of_find? hfind
  obtain ⟨rfl, rfl⟩ := Prod.mk.inj hkey
  obtain ⟨r, hr⟩ := Option.isSome_iff_exists.1 (db.memberships m hm).1
  rw [owner, hr]
  exact Option.some_ne_none _

theorem userExists_of_owner (h : db.owner g = some a) : db.userExists a := by
  obtain ⟨r, hr, -, rfl⟩ := owner_eq_some.1 h
  exact db.owners r hr

theorem userExists_of_rank (h : db.rank g u ≠ none) : db.userExists u := by
  obtain ⟨isAdmin, hrank⟩ := Option.ne_none_iff_exists'.1 h
  obtain ⟨m, hfind, -⟩ := Option.map_eq_some_iff.1 hrank
  obtain ⟨hm, hkey⟩ := UniqueTable.mem_of_find? hfind
  obtain ⟨rfl, rfl⟩ := Prod.mk.inj hkey
  exact (db.memberships m hm).2

theorem owner_next : db.owner db.groups.next = none := by
  rw [owner, SerialTable.find?_next]
  rfl

theorem rank_next : db.rank db.groups.next u = none := by
  by_contra h
  exact owner_isSome_of_rank h owner_next

/-! ## What the statements do to them -/

theorem insertGroup_eq_some {r : Nat → GroupRow} {hr : ∀ n, (r n).groupId = n}
    (h : db.insertGroup r hr = some db') :
    db'.users = db.users ∧ db'.groups = db.groups.insert r hr ∧ db'.members = db.members := by
  unfold insertGroup at h
  split at h
  case isTrue => cases h; exact ⟨rfl, rfl, rfl⟩
  case isFalse => cases h

theorem insertMember_eq_some {r : MemberRow} (h : db.insertMember r = some db') :
    db'.users = db.users ∧ db'.groups = db.groups ∧ db.members.insert? r = some db'.members := by
  unfold insertMember at h
  split at h
  case isFalse => cases h
  case isTrue =>
    split at h
    next => cases h
    next members hm => cases h; exact ⟨rfl, rfl, hm⟩

/-- The INSERT fails if a user or the group is missing, or the member is there. -/
theorem insertMember_eq_none {r : MemberRow} :
    db.insertMember r = none ↔ ¬ (db.owner r.groupId ≠ none ∧ db.userExists r.userId) ∨
      db.rank r.groupId r.userId ≠ none := by
  have hgroup : (db.groups.find? r.groupId).isSome ↔ db.owner r.groupId ≠ none := by
    simp [owner, Option.isSome_iff_ne_none]
  have hmember : db.rank r.groupId r.userId ≠ none ↔ db.members.find? r.key ≠ none := by
    simp [rank, MemberRow.key]
  rw [← hgroup, hmember, ← UniqueTable.insert?_eq_none]
  unfold insertMember
  split
  case isFalse h => exact iff_of_true rfl (.inl h)
  case isTrue h =>
    split
    next hm => exact iff_of_true rfl (.inr hm)
    next members hm =>
      refine iff_of_false (fun h => by cases h) ?_
      rintro (hn | hn)
      · exact hn h
      · rw [hm] at hn
        cases hn

theorem owner_insertGroup {r : Nat → GroupRow} {hr : ∀ n, (r n).groupId = n}
    (h : db.insertGroup r hr = some db') :
    db'.owner g = if g = db.groups.next then some (r g).ownerId else db.owner g := by
  rw [owner, (insertGroup_eq_some h).2.1, SerialTable.find?_insert]
  split
  next hg => rw [hg]; rfl
  next => rfl

theorem rank_insertGroup {r : Nat → GroupRow} {hr : ∀ n, (r n).groupId = n}
    (h : db.insertGroup r hr = some db') : db'.rank g u = db.rank g u := by
  rw [rank, (insertGroup_eq_some h).2.2]
  rfl

theorem sameBut_insertGroup {r : Nat → GroupRow} {hr : ∀ n, (r n).groupId = n}
    (h : db.insertGroup r hr = some db') : SameBut db.groups.next db db' := by
  intro k hk
  unfold SameGroup
  rw [(insertGroup_eq_some h).2.1, (insertGroup_eq_some h).2.2, SerialTable.find?_insert, if_neg hk]
  exact ⟨rfl, fun _ => rfl⟩

theorem owner_updateGroup {f : GroupRow → GroupRow} (hid : ∀ r, (f r).groupId = r.groupId)
    (howner : ∀ r, (f r).ownerId = r.ownerId) :
    (db.updateGroup f hid howner).owner g = db.owner g := by
  have hfind : (db.updateGroup f hid howner).groups.find? g = (db.groups.find? g).map f :=
    SerialTable.find?_update g
  rw [owner, hfind, Option.map_map]
  exact congrArg (Option.map · _) (funext howner)

theorem sameBut_updateGroup {f : GroupRow → GroupRow} (hid : ∀ r, (f r).groupId = r.groupId)
    (howner : ∀ r, (f r).ownerId = r.ownerId) (hf : ∀ r, r.groupId ≠ g → f r = r) :
    SameBut g db (db.updateGroup f hid howner) := by
  intro k hk
  refine ⟨?_, fun _ => rfl⟩
  have hfind : (db.updateGroup f hid howner).groups.find? k = (db.groups.find? k).map f :=
    SerialTable.find?_update k
  rw [hfind]
  cases h : db.groups.find? k with
  | none => rfl
  | some r =>
    have hid : r.groupId = k := (UniqueTable.mem_of_find? h).2
    rw [Option.map_some, hf r (hid.symm ▸ hk)]

theorem owner_deleteGroup : (db.deleteGroup g).owner g' = if g' = g then none else db.owner g' := by
  have hfind : (db.deleteGroup g).groups.find? g' =
      (db.groups.find? g').filter fun r => decide (r.groupId ≠ g) := SerialTable.find?_filter g'
  rw [owner, hfind, owner]
  cases h : db.groups.find? g' with
  | none => simp
  | some r =>
    have hid : r.groupId = g' := (UniqueTable.mem_of_find? h).2
    subst hid
    by_cases hg : r.groupId = g <;> simp [Option.filter, hg]

theorem find?_members_deleteGroup (k : Nat × Nat) :
    (db.deleteGroup g).members.find? k = if k.1 = g then none else db.members.find? k := by
  have hfind : (db.deleteGroup g).members.find? k =
      (db.members.find? k).filter fun r => decide (r.groupId ≠ g) := UniqueTable.find?_filter
  rw [hfind]
  cases h : db.members.find? k with
  | none => simp
  | some r =>
    have hid : r.key = k := (UniqueTable.mem_of_find? h).2
    subst hid
    by_cases hg : r.groupId = g <;> simp [Option.filter, MemberRow.key, hg]

theorem rank_deleteGroup :
    (db.deleteGroup g).rank g' u = if g' = g then none else db.rank g' u := by
  rw [rank, find?_members_deleteGroup, rank]
  split <;> rfl

theorem sameBut_deleteGroup : SameBut g db (db.deleteGroup g) := by
  intro k hk
  refine ⟨?_, fun u => (find?_members_deleteGroup (k, u)).trans (if_neg hk)⟩
  have hfind : (db.deleteGroup g).groups.find? k =
      (db.groups.find? k).filter fun r => decide (r.groupId ≠ g) := SerialTable.find?_filter k
  rw [hfind]
  cases h : db.groups.find? k with
  | none => rfl
  | some r =>
    have hid : r.groupId = k := (UniqueTable.mem_of_find? h).2
    rw [Option.filter_some, if_pos (by simpa [hid] using hk)]

theorem setOwner_eq_none :
    db.setOwner g a b = none ↔ db.owner g = some a ∧ ¬ db.userExists b := by
  unfold setOwner
  rw [owner_eq_some, userExists]
  split
  case isTrue h => exact iff_of_false (fun h => by cases h) fun hn => hn.2 (h hn.1)
  case isFalse h => exact iff_of_true rfl (Classical.not_imp.1 h)

theorem find?_setOwner (h : db.setOwner g a b = some db') (k : Nat) :
    db'.groups.find? k = (db.groups.find? k).map fun r =>
      if r.groupId = g ∧ r.ownerId = a then { r with ownerId := b } else r := by
  unfold setOwner at h
  split at h
  case isTrue => cases h; exact SerialTable.find?_update k
  case isFalse => cases h

theorem members_setOwner (h : db.setOwner g a b = some db') : db'.members = db.members := by
  unfold setOwner at h
  split at h
  case isTrue => cases h; rfl
  case isFalse => cases h

theorem owner_setOwner (h : db.setOwner g a b = some db') :
    db'.owner g' = if g' = g ∧ db.owner g = some a then some b else db.owner g' := by
  rw [owner, find?_setOwner h]
  cases hfind : db.groups.find? g' with
  | none =>
    have hnone : db.owner g' = none := by rw [owner, hfind]; rfl
    rw [if_neg, hnone]
    · rfl
    · rintro ⟨rfl, hown⟩
      rw [hnone] at hown
      cases hown
  | some r =>
    have hid : r.groupId = g' := (UniqueTable.mem_of_find? hfind).2
    subst hid
    by_cases hg : r.groupId = g
    · subst hg
      by_cases ha : r.ownerId = a <;> simp [owner, hfind, ha]
    · simp [owner, hfind, hg]

theorem rank_setOwner (h : db.setOwner g a b = some db') : db'.rank g' u = db.rank g' u := by
  rw [rank, members_setOwner h]
  rfl

theorem sameBut_setOwner (h : db.setOwner g a b = some db') : SameBut g db db' := by
  intro k hk
  unfold SameGroup
  rw [find?_setOwner h, members_setOwner h]
  refine ⟨?_, fun _ => rfl⟩
  cases hfind : db.groups.find? k with
  | none => rfl
  | some r =>
    have hid : r.groupId = k := (UniqueTable.mem_of_find? hfind).2
    rw [Option.map_some, if_neg (by simp [hid, hk])]

theorem owner_insertMember {r : MemberRow} (h : db.insertMember r = some db') :
    db'.owner g = db.owner g := by
  rw [owner, (insertMember_eq_some h).2.1]
  rfl

theorem rank_insertMember {r : MemberRow} (h : db.insertMember r = some db') :
    db'.rank g u = if (g, u) = r.key then some r.isAdmin else db.rank g u := by
  rw [rank, UniqueTable.find?_insert? (insertMember_eq_some h).2.2, rank]
  simp only [eq_comm (a := r.key)]
  split <;> rfl

theorem sameBut_insertMember {r : MemberRow} (h : db.insertMember r = some db') :
    SameBut r.groupId db db' := by
  intro k hk
  unfold SameGroup
  rw [(insertMember_eq_some h).2.1]
  refine ⟨rfl, fun u => ?_⟩
  rw [UniqueTable.find?_insert? (insertMember_eq_some h).2.2, if_neg]
  intro hkey
  exact hk (Prod.mk.inj hkey).1.symm

theorem find?_deleteMember (k : Nat × Nat) :
    (db.deleteMember g a).members.find? k = if k = (g, a) then none else db.members.find? k := by
  have hfind : (db.deleteMember g a).members.find? k =
      (db.members.find? k).filter fun r => decide (r.key ≠ (g, a)) := UniqueTable.find?_filter
  rw [hfind]
  cases h : db.members.find? k with
  | none => simp
  | some r =>
    have hkey : r.key = k := (UniqueTable.mem_of_find? h).2
    subst hkey
    by_cases hk : r.key = (g, a) <;> simp [Option.filter, hk]

theorem rank_deleteMember :
    (db.deleteMember g a).rank g' u = if (g', u) = (g, a) then none else db.rank g' u := by
  rw [rank, find?_deleteMember, rank]
  split <;> rfl

theorem sameBut_deleteMember : SameBut g db (db.deleteMember g a) := by
  intro k hk
  refine ⟨rfl, fun u => ?_⟩
  rw [find?_deleteMember, if_neg]
  intro hkey
  exact hk (Prod.mk.inj hkey).1

theorem find?_setAdmin (k : Nat × Nat) :
    (db.setAdmin g a isAdmin).members.find? k =
      (db.members.find? k).map fun m => if m.key = (g, a) then { m with isAdmin } else m := by
  simp only [setAdmin, UniqueTable.find?_update]

theorem rank_setAdmin :
    (db.setAdmin g a isAdmin).rank g' u =
      if (g', u) = (g, a) then (db.rank g' u).map fun _ => isAdmin else db.rank g' u := by
  rw [rank, find?_setAdmin, rank]
  cases h : db.members.find? (g', u) with
  | none => split <;> rfl
  | some m =>
    have hkey : m.key = (g', u) := (UniqueTable.mem_of_find? h).2
    rw [Option.map_some, hkey]
    split <;> rfl

theorem sameBut_setAdmin : SameBut g db (db.setAdmin g a isAdmin) := by
  intro k hk
  refine ⟨rfl, fun u => ?_⟩
  rw [find?_setAdmin]
  cases h : db.members.find? (k, u) with
  | none => rfl
  | some m =>
    have hkey : m.key = (k, u) := (UniqueTable.mem_of_find? h).2
    rw [Option.map_some, hkey, if_neg]
    intro heq
    exact hk (Prod.mk.inj heq).1

end

end GroupDb

end ChatApp.Groups
