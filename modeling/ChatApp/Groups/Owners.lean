/-
  The owner of a group among its members: as an admin, when operations run one at a time, and as
  a member at all, when they run at the same time. Both are that the rank of the owner is `good`;
  the first section says when each edit of the tables keeps this.
-/
import ChatApp.Lib.Workers
import ChatApp.Groups.Authority

namespace ChatApp.Groups

open ChatApp.Lib ChatApp.Database

/-- The rank of every owner in his own group is `good`. -/
def GroupDb.OwnersRank (good : Option Bool → Prop) (db : GroupDb) : Prop :=
  ∀ g o, db.owner g = some o → good (db.rank g o)

section
variable {good : Option Bool → Prop} {db db' : GroupDb} {ms : Nat → Moment} {m : Moment}
  {g u a o n : Nat} {isAdmin : Bool}

/-! ## Edits -/

theorem ownersRank_fresh (users : UniqueTable UserInfo.userId) :
    (GroupDb.fresh users).OwnersRank good := by
  intro g o h
  cases h

/-- Additions keep the ranks that are there; the owner of a new group needs a good one. -/
theorem ownersRank_of_keeps (hgood : ¬ good none) (hdb : db.OwnersRank good) (h : Keeps db db')
    (hnew : ∀ g o, db.owner g = none → db'.owner g = some o → good (db'.rank g o)) :
    db'.OwnersRank good := by
  intro g o ho
  cases howner : db.owner g with
  | none => exact hnew g o howner ho
  | some o' =>
    have hsame : o' = o := Option.some.inj ((h.1 g o' howner).symm.trans ho)
    subst hsame
    have hrank := hdb g o' howner
    cases hr : db.rank g o' with
    | none => exact absurd (hr ▸ hrank) hgood
    | some b =>
      rw [h.2 g o' b hr, ← hr]
      exact hrank

theorem ownersRank_insertMember (hgood : ¬ good none) (hdb : db.OwnersRank good) {r : MemberRow}
    (h : db.insertMember r = some db') : db'.OwnersRank good := by
  refine ownersRank_of_keeps hgood hdb (keeps_insertMember h) fun g o hnone ho => ?_
  rw [GroupDb.owner_insertMember h, hnone] at ho
  cases ho

theorem ownersRank_deleteGroup (hdb : db.OwnersRank good) : (db.deleteGroup g).OwnersRank good := by
  intro k o ho
  rw [GroupDb.owner_deleteGroup] at ho
  rw [GroupDb.rank_deleteGroup]
  split at ho
  case isTrue => cases ho
  case isFalse hk =>
    rw [if_neg hk]
    exact hdb k o ho

theorem ownersRank_deleteMember (hdb : db.OwnersRank good) (hu : db.owner g ≠ some u) :
    (db.deleteMember g u).OwnersRank good := by
  intro k o ho
  rw [GroupDb.rank_deleteMember, if_neg]
  · exact hdb k o ho
  · intro hkey
    obtain ⟨rfl, rfl⟩ := Prod.mk.inj hkey
    exact hu ho

theorem ownersRank_setAdmin (hgood : ¬ good none) (hdb : db.OwnersRank good)
    (hu : db.owner g = some u → good (some isAdmin)) :
    (db.setAdmin g u isAdmin).OwnersRank good := by
  intro k o ho
  rw [GroupDb.rank_setAdmin]
  have hrank := hdb k o ho
  split
  case isFalse => exact hrank
  case isTrue hkey =>
    obtain ⟨rfl, rfl⟩ := Prod.mk.inj hkey
    cases hr : db.rank k o with
    | none => exact absurd (hr ▸ hrank) hgood
    | some b => exact hu ho

/-- A transfer needs a good rank for the new owner, if there is one. -/
theorem ownersRank_transfer (hdb : db.OwnersRank good)
    (hold : ∀ k v, good (db.rank k v) → db.owner k = some v →
      good ((reply m db (.transferGroupOwner g o n)).2.rank k v))
    (hnew : db.owner g = some o → Moves m db g o n →
      good ((reply m db (.transferGroupOwner g o n)).2.rank g n)) :
    (reply m db (.transferGroupOwner g o n)).2.OwnersRank good := by
  intro k v hv
  rw [owner_transfer] at hv
  split at hv
  case isTrue h =>
    obtain ⟨rfl, howner, hmoves⟩ := h
    cases hv
    exact hnew howner hmoves
  case isFalse => exact hold k v (hdb k v hv) hv

/-- A group that is made with its owner as a member, or not at all. -/
theorem ownersRank_createGroup (hdb : db.OwnersRank good) (hgood : ¬ good none)
    (hadmin : good (some true)) {groupName description : String}
    (hm : m.through 0 = true → m.through 1 = true) :
    (reply m db (.createGroup groupName o description)).2.OwnersRank good := by
  rw [reply_createGroup]
  cases h : (if m.through 0 then
    db.insertGroup (GroupDb.newGroup groupName o description m.now) fun _ => rfl else none) with
  | none => exact hdb
  | some db₁ =>
    obtain ⟨hm0, h₁⟩ := Option.ite_none_right_eq_some.1 h
    have howner : db₁.owner db.groups.next = some o := by
      rw [GroupDb.owner_insertGroup h₁, if_pos rfl]
      rfl
    simp only [hm hm0, if_true]
    cases h₂ : db₁.insertMember ⟨db.groups.next, o, true, m.now⟩ with
    | none =>
      -- the group is there, its owner is a user, and it has no members yet
      have hrank : db₁.rank db.groups.next o = none := by
        rw [GroupDb.rank_insertGroup h₁]
        exact GroupDb.rank_next
      rcases GroupDb.insertMember_eq_none.1 h₂ with hn | hn
      · exact absurd ⟨howner ▸ Option.some_ne_none o, GroupDb.userExists_of_owner howner⟩ hn
      · exact absurd hrank hn
    | some db₂ =>
      refine ownersRank_of_keeps hgood hdb
        ((keeps_insertGroup h₁).trans (keeps_insertMember h₂)) fun k v hnone hv => ?_
      rw [GroupDb.owner_insertMember h₂, GroupDb.owner_insertGroup h₁] at hv
      split at hv
      case isFalse =>
        rw [hnone] at hv
        cases hv
      case isTrue hk =>
        cases hv
        subst hk
        have hrank : db₂.rank db.groups.next o = some true :=
          (GroupDb.rank_insertMember h₂).trans (if_pos rfl)
        show good (db₂.rank db.groups.next o)
        rw [hrank]
        exact hadmin

end

/-! ## One at a time -/

/-- The owner of every group is a member of it with `is_admin` = 1. -/
def GroupDb.OwnersAreAdmins : GroupDb → Prop := GroupDb.OwnersRank (· = some true)

/-- The owner of a group takes the rank of an admin from himself. -/
def GroupDb.Demotes (db : GroupDb) : GroupOp → Prop
  | .setAdmin a g u isAdmin => db.owner g = some a ∧ u = a ∧ isAdmin = false
  | _ => False

/-- The tables at the beginning and after each operation of a sequence. -/
def GroupDb.reached (db : GroupDb) : List (GroupOp × (Nat → Moment)) → List GroupDb
  | [] => [db]
  | (op, ms) :: ops => db :: GroupDb.reached (db.perform op ms).2 ops

section
variable {db : GroupDb} {ms : Nat → Moment} {g u a o n : Nat} {isAdmin : Bool}

theorem none_ne_admin : ¬ ((none : Option Bool) = some true) := fun h => by cases h

/-- The owner is not removed: the check of the member stops everybody. -/
theorem perform_remove_of_owner (hms : ∀ k, (ms k).Healthy) (h : db.owner g = some u) :
    (db.perform (.remove a g u) ms).2 = db := by
  have hsees : ∀ k, (ms k).Sees (db.owner g = some u) := fun k => (hms k).sees.2 h
  simp only [GroupDb.perform, GroupOp.prog, GroupManager.removeMember, Prog.run_bind, run_isOwner]
  by_cases h0 : (ms 0).Sees (db.owner g = some a)
  · simp [h0, hsees]
  · by_cases h1 : (ms 1).Sees (db.rank g a = some true)
    · simp [h0, h1, hsees]
    · simp [h0, h1]

theorem ownersAreAdmins_removeGroupMember {m : Moment} (hdb : db.OwnersAreAdmins)
    (hu : db.owner g ≠ some u) : (reply m db (.removeGroupMember g u)).2.OwnersAreAdmins := by
  rw [reply_removeGroupMember]
  cases m.through 0 with
  | false => exact hdb
  | true => exact ownersRank_deleteMember hdb hu

theorem ownersAreAdmins_transfer (hdb : db.OwnersAreAdmins) (hms : ∀ k, (ms k).Healthy) :
    (db.perform (.transfer o g n) ms).2.OwnersAreAdmins := by
  rw [perform_transfer]
  split
  case isFalse => exact hdb
  case isTrue h =>
    obtain ⟨⟨-, howner⟩, -, -, hn⟩ := h
    have hmoves : Moves (ms 2) db g o n := ⟨(hms 2).2 0, fun _ => GroupDb.userExists_of_rank hn⟩
    have hnew : (reply (ms 2) db (.transferGroupOwner g o n)).2.rank g n = some true := by
      obtain ⟨b, hb⟩ := Option.ne_none_iff_exists'.1 hn
      rw [rank_transfer, if_pos ⟨rfl, hmoves⟩, if_pos ⟨rfl, (hms 2).2 2⟩, hb]
      rfl
    intro k v hv
    rw [owner_transfer] at hv
    split at hv
    case isTrue hk =>
      cases hv
      exact hk.1 ▸ hnew
    case isFalse hk =>
      -- another group
      have hother : k ≠ g := fun hkg => hk ⟨hkg, howner, hmoves⟩
      rw [rank_transfer, if_neg fun h => hother h.1]
      exact hdb k v hv

theorem ownersAreAdmins_step {op : GroupOp} (hdb : db.OwnersAreAdmins) (hms : ∀ k, (ms k).Healthy)
    (hop : ¬ db.Demotes op) : (db.perform op ms).2.OwnersAreAdmins := by
  cases op with
  | create o groupName description =>
    rw [perform_create]
    split
    case isTrue => exact hdb
    case isFalse =>
      exact ownersRank_createGroup hdb none_ne_admin rfl fun _ => (hms 0).2 1
  | updateInfo details =>
    intro g o ho
    exact rank_updateGroup.trans (hdb g o (owner_updateGroup.symm.trans ho))
  | dismiss o g =>
    rw [perform_dismiss]
    split
    case isFalse => exact hdb
    case isTrue =>
      rw [reply_dismissGroup, (hms 1).2 0]
      exact ownersRank_deleteGroup hdb
  | join g u =>
    obtain ⟨k, h | h⟩ : ∃ k, (db.perform (.join g u) ms).2 = db ∨
        (db.perform (.join g u) ms).2 = (reply (ms k) db (.addGroupMember g u false)).2 :=
          perform_join
    · rw [h]
      exact hdb
    · rw [h, reply_addGroupMember, (hms k).2 0, if_pos rfl]
      cases hadd : db.insertMember ⟨g, u, false, (ms k).now⟩ with
      | none => exact hdb
      | some db' => exact ownersRank_insertMember none_ne_admin hdb hadd
  | leave g u =>
    rw [perform_leave]
    split
    case isTrue => exact hdb
    case isFalse h =>
      exact ownersAreAdmins_removeGroupMember hdb fun howner => h ((hms 0).sees.2 howner)
  | remove a g u =>
    by_cases howner : db.owner g = some u
    · rw [perform_remove_of_owner hms howner]
      exact hdb
    · obtain ⟨k, h | h⟩ : ∃ k, (db.perform (.remove a g u) ms).2 = db ∨
          (db.perform (.remove a g u) ms).2 = (reply (ms k) db (.removeGroupMember g u)).2 :=
        perform_remove
      · rw [h]
        exact hdb
      · rw [h]
        exact ownersAreAdmins_removeGroupMember hdb howner
  | setAdmin a g u isAdmin =>
    rw [perform_setAdmin]
    split
    case isFalse => exact hdb
    case isTrue h =>
      rw [reply_setGroupAdmin, (hms 2).2 0]
      refine ownersRank_setAdmin none_ne_admin hdb fun howner => ?_
      have hua : u = a := Option.some.inj (howner.symm.trans h.1.2)
      cases isAdmin with
      | true => rfl
      | false => exact absurd ⟨h.1.2, hua, rfl⟩ hop
  | transfer o g n => exact ownersAreAdmins_transfer hdb hms
  | info | userGroups | members | isMember | isAdmin | isOwner =>
    rw [perform_of_read rfl]
    exact hdb

/-- An owner who takes the rank of an admin from himself succeeds. -/
theorem demoted (hms : ∀ k, (ms k).Healthy) (hdb : db.OwnersAreAdmins) (h : db.owner g = some a) :
    (db.perform (.setAdmin a g a false) ms).2.owner g = some a ∧
      (db.perform (.setAdmin a g a false) ms).2.rank g a = some false := by
  have hrank := hdb g a h
  have hmember : db.rank g a ≠ none := hrank ▸ Option.some_ne_none true
  rw [perform_setAdmin, if_pos ⟨(hms 0).sees.2 h, (hms 1).sees.2 hmember⟩, reply_setGroupAdmin,
    (hms 2).2 0]
  refine ⟨h, ?_⟩
  show (db.setAdmin g a false).rank g a = some false
  rw [GroupDb.rank_setAdmin, if_pos rfl, hrank]
  rfl

theorem mem_reached (db : GroupDb) (ops : List (GroupOp × (Nat → Moment))) :
    db ∈ db.reached ops := by
  cases ops with
  | nil => exact List.mem_singleton_self db
  | cons x ops => exact List.mem_cons_self

theorem reached_ownersAreAdmins_iff {ops : List (GroupOp × (Nat → Moment))}
    (hdb : db.OwnersAreAdmins) (hops : ∀ x ∈ ops, ∀ k, (x.2 k).Healthy) :
    (∀ d ∈ db.reached ops, d.OwnersAreAdmins) ↔ ∀ x ∈ db.history ops, ¬ x.1.Demotes x.2.1 := by
  induction ops generalizing db with
  | nil =>
    refine iff_of_true (fun d hd => ?_) fun x hx => by cases hx
    rw [List.mem_singleton.1 hd]
    exact hdb
  | cons x ops ih =>
    obtain ⟨op, ms⟩ := x
    have hms : ∀ k, (ms k).Healthy := hops (op, ms) List.mem_cons_self
    have hrest : ∀ x ∈ ops, ∀ k, (x.2 k).Healthy := fun x hx => hops x (List.mem_cons_of_mem _ hx)
    by_cases hop : db.Demotes op
    · refine iff_of_false (fun h => ?_) fun h => h (db, op, ms) List.mem_cons_self hop
      have hafter := h _ (List.mem_cons_of_mem _ (mem_reached (db.perform op ms).2 ops))
      cases op with
      | setAdmin a g u isAdmin =>
        obtain ⟨howner, rfl, rfl⟩ := hop
        obtain ⟨howner', hrank⟩ := demoted hms hdb howner
        have hadmin := hafter g u howner'
        rw [hrank] at hadmin
        cases hadmin
      | _ => exact hop
    · have hnext := ih (ownersAreAdmins_step hdb hms hop) hrest
      constructor
      · intro h x hx
        rcases List.mem_cons.1 hx with rfl | hx
        · exact hop
        · exact hnext.1 (fun d hd => h d (List.mem_cons_of_mem _ hd)) x hx
      · intro h d hd
        rcases List.mem_cons.1 hd with rfl | hd
        · exact hdb
        · exact hnext.2 (fun x hx => h x (List.mem_cons_of_mem _ hx)) d hd

/-- From the empty tables, with every statement getting through, owners are admins in every state
    reached exactly if no owner takes that rank from himself. -/
theorem ownersAreAdmins_iff (users : UniqueTable UserInfo.userId)
    (ops : List (GroupOp × (Nat → Moment))) (hops : ∀ x ∈ ops, ∀ k, (x.2 k).Healthy) :
    (∀ d ∈ (GroupDb.fresh users).reached ops, d.OwnersAreAdmins) ↔
      ∀ x ∈ (GroupDb.fresh users).history ops, ¬ x.1.Demotes x.2.1 :=
  reached_ownersAreAdmins_iff (ownersRank_fresh users) hops

/-- The operations at moments in which every statement gets through. -/
def calmly (ops : List GroupOp) : List (GroupOp × (Nat → Moment)) :=
  ops.map fun op => (op, fun _ => momentOf true)

theorem healthy_calmly (ops : List GroupOp) : ∀ x ∈ calmly ops, ∀ k, (x.2 k).Healthy := by
  intro x hx k
  obtain ⟨op, -, rfl⟩ := List.mem_map.1 hx
  exact ⟨rfl, fun _ => rfl⟩

/-- A group that is passed on. -/
theorem ownersAreAdmins_iff_passed :
    (∀ d ∈ (GroupDb.fresh threeUsers).reached
      (calmly [.create 1 "g" "", .join 1 2, .transfer 1 1 2]), d.OwnersAreAdmins) ↔
      ∀ x ∈ (GroupDb.fresh threeUsers).history
        (calmly [.create 1 "g" "", .join 1 2, .transfer 1 1 2]), ¬ x.1.Demotes x.2.1 :=
  ownersAreAdmins_iff threeUsers _ (healthy_calmly _)

/-- User 1 makes a group and takes the rank of an admin from himself. -/
theorem not_ownersAreAdmins :
    ¬ ∀ (users : UniqueTable UserInfo.userId) (ops : List (GroupOp × (Nat → Moment))),
      (∀ x ∈ ops, ∀ k, (x.2 k).Healthy) →
        ∀ d ∈ (GroupDb.fresh users).reached ops, d.OwnersAreAdmins := by
  intro h
  have hlast := h threeUsers (calmly [.create 1 "g" "", .setAdmin 1 1 1 false]) (healthy_calmly _)
    _ (List.mem_of_getLast? rfl) 1 1 (by decide)
  revert hlast
  decide

end

/-! ## At the same time -/

/-- What a call must not do to an owner: a removal that gets through does not hit him, a transfer
    that finds the old owner has a member for the new one, and an INSERT of a group is followed by
    that of its owner. -/
def KeepsOwner (_ : GroupOp) (db : GroupDb) : Call → Moment → Prop
  | .removeGroupMember g u, m => m.through 0 = true → db.owner g ≠ some u
  | .transferGroupOwner g o n, m =>
    db.owner g = some o → m.through 0 = true → db.userExists n → db.rank g n ≠ none
  | .createGroup .., m => m.through 0 = true → m.through 1 = true
  | _, _ => True

instance (op : GroupOp) (db : GroupDb) : (c : Call) → (m : Moment) →
    Decidable (KeepsOwner op db c m)
  | .removeGroupMember .., _ => inferInstanceAs (Decidable (_ → _))
  | .transferGroupOwner .., _ => inferInstanceAs (Decidable (_ → _ → _ → _))
  | .createGroup .., _ => inferInstanceAs (Decidable (_ → _))
  | .getGroupById _, _ | .updateGroup _, _ | .dismissGroup _, _ | .addGroupMember .., _
  | .getUserGroups _, _ | .getGroupMembers _, _ | .isGroupMember .., _ | .isGroupAdmin .., _
  | .isGroupOwner .., _ | .setGroupAdmin .., _ => isTrue trivial

/-- The owner of every group is a member of it. -/
def GroupDb.OwnersAreMembers : GroupDb → Prop := GroupDb.OwnersRank (· ≠ none)

section
variable {db : GroupDb} {m : Moment} {op : GroupOp}

theorem ownersAreMembers_reply (hdb : db.OwnersAreMembers) {c : Call} (hc : KeepsOwner op db c m) :
    (reply m db c).2.OwnersAreMembers := by
  have hnone : ¬ ((none : Option Bool) ≠ none) := fun h => h rfl
  cases c with
  | createGroup => exact ownersRank_createGroup hdb hnone (Option.some_ne_none true) hc
  | updateGroup details =>
    intro g o ho
    rw [rank_updateGroup]
    exact hdb g o (owner_updateGroup.symm.trans ho)
  | dismissGroup g =>
    rw [reply_dismissGroup]
    cases m.through 0 with
    | false => exact hdb
    | true => exact ownersRank_deleteGroup hdb
  | addGroupMember g u isAdmin =>
    rw [reply_addGroupMember]
    cases h : (if m.through 0 then db.insertMember ⟨g, u, isAdmin, m.now⟩ else none) with
    | none => exact hdb
    | some db' =>
      exact ownersRank_insertMember hnone hdb (Option.ite_none_right_eq_some.1 h).2
  | removeGroupMember g u =>
    rw [reply_removeGroupMember]
    cases hm : m.through 0 with
    | false => exact hdb
    | true => exact ownersRank_deleteMember hdb (hc hm)
  | setGroupAdmin g u isAdmin =>
    rw [reply_setGroupAdmin]
    cases m.through 0 with
    | false => exact hdb
    | true => exact ownersRank_setAdmin hnone hdb fun _ => Option.some_ne_none isAdmin
  | transferGroupOwner g o n =>
    refine ownersRank_transfer hdb (fun k v hv _ h => hv (rank_transfer_eq_none.1 h)) ?_
    intro howner hmoves h
    exact hc howner hmoves.1 (hmoves.2 howner) (rank_transfer_eq_none.1 h)
  | getGroupById | getUserGroups | getGroupMembers | isGroupMember | isGroupAdmin | isGroupOwner =>
    rw [reply_read rfl]
    exact hdb

end

/-- User 1 makes a group, and 2 joins it. -/
def twoMembers : List (WorkerStep Bool GroupOp Moment) :=
  [.start false (.create 1 "g" ""), .call false (momentOf true), .finish false,
    .start false (.join 1 2), .call false (momentOf true), .call false (momentOf true),
    .call false (momentOf true), .finish false]

end ChatApp.Groups
