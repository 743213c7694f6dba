/-
  Operations on groups one at a time: what each of them does to the tables, and who may do it.
-/
import ChatApp.Groups.Effects

namespace ChatApp.Groups

open ChatApp.Lib ChatApp.Database GroupManager

/-- One operation has the tables for itself; its n-th call meets the moment `ms n`. -/
def alone (ms : Nat → Moment) (s : GroupDb × Nat) (c : Call) : c.Answer × (GroupDb × Nat) :=
  let r := reply (ms s.2) s.1 c
  (r.1, r.2, s.2 + 1)

/-- The operation run alone: what it returns, and the tables after it. -/
def GroupDb.perform (db : GroupDb) (op : GroupOp) (ms : Nat → Moment) : op.Result × GroupDb :=
  let r := op.prog.run (alone ms) (db, 0)
  (r.1, r.2.1)

variable {db : GroupDb} {ms : Nat → Moment} {s : GroupDb × Nat} {g u a o n : Nat} {isAdmin : Bool}

/-! ## What each operation does -/

@[simp] theorem run_isOwner : (isOwner g u).run (alone ms) s =
    (decide ((ms s.2).Sees (s.1.owner g = some u)), s.1, s.2 + 1) := by
  show ((reply _ _ (.isGroupOwner g u)).1, (reply _ _ (.isGroupOwner g u)).2, s.2 + 1) = _
  rw [reply_isGroupOwner]

@[simp] theorem run_isAdmin : (GroupManager.isAdmin g u).run (alone ms) s =
    (decide ((ms s.2).Sees (s.1.rank g u = some true)), s.1, s.2 + 1) := by
  show ((reply _ _ (.isGroupAdmin g u)).1, (reply _ _ (.isGroupAdmin g u)).2, s.2 + 1) = _
  rw [reply_isGroupAdmin]

@[simp] theorem run_isMember : (isMember g u).run (alone ms) s =
    (decide ((ms s.2).Sees (s.1.rank g u ≠ none)), s.1, s.2 + 1) := by
  show ((reply _ _ (.isGroupMember g u)).1, (reply _ _ (.isGroupMember g u)).2, s.2 + 1) = _
  rw [reply_isGroupMember]

/-- What `orFail` leaves behind is what its call leaves behind. -/
@[simp] theorem run_orFail {message : String} {p : GroupProg Bool} :
    ((orFail message p).run (alone ms) s).2 = (p.run (alone ms) s).2 := by
  simp [orFail]

/-- The program only reads, up to a last call `c`. -/
def EndsIn (c : Call) {α : Type} : GroupProg α → Prop
  | .ret _ => True
  | .call d k => (d.isRead = true ∧ ∀ r, EndsIn c (k r)) ∨ (d = c ∧ ∀ r, ∃ x, k r = .ret x)

theorem endsIn_orFail (message : String) {c : Call} {p : GroupProg Bool}
    (h : EndsIn c p) : EndsIn c (orFail message p) := by
  unfold orFail
  induction p with
  | ret => trivial
  | call d k ih =>
    rcases h with ⟨hd, hk⟩ | ⟨hd, hk⟩
    · exact .inl ⟨hd, fun r => ih r (hk r)⟩
    · refine .inr ⟨hd, fun r => ?_⟩
      obtain ⟨x, hx⟩ := hk r
      refine ⟨if x then .ok () else .error message, ?_⟩
      show (k r).bind _ = _
      rw [hx]
      rfl

theorem tables_of_endsIn {α : Type} {c : Call} {p : GroupProg α} (h : EndsIn c p) :
    ∃ k, (p.run (alone ms) s).2.1 = s.1 ∨ (p.run (alone ms) s).2.1 = (reply (ms k) s.1 c).2 := by
  induction p generalizing s with
  | ret => exact ⟨0, .inl rfl⟩
  | call d k ih =>
    rw [Prog.run_call]
    rcases h with ⟨hd, hk⟩ | ⟨rfl, hk⟩
    · have hread : (alone ms s d).2.1 = s.1 := reply_read hd
      rw [← hread]
      exact ih _ (hk _)
    · obtain ⟨x, hx⟩ := hk (alone ms s d).1
      rw [hx]
      exact ⟨s.2, .inr rfl⟩

theorem endsIn_joinGroup : EndsIn (.addGroupMember g u false) (joinGroup g u) := by
  refine .inl ⟨rfl, fun group => ?_⟩
  cases group with
  | none => trivial
  | some group =>
    refine .inl ⟨rfl, fun isMember => ?_⟩
    cases isMember with
    | true => trivial
    | false => exact endsIn_orFail _ (.inr ⟨rfl, fun x => ⟨x, rfl⟩⟩)

theorem endsIn_removeMember :
    EndsIn (.removeGroupMember g u) (GroupManager.removeMember a g u) := by
  have hdelete : EndsIn (.removeGroupMember g u)
      (orFail "Failed to remove member" (request (.removeGroupMember g u))) :=
    endsIn_orFail _ (.inr ⟨rfl, fun x => ⟨x, rfl⟩⟩)
  -- what follows the permission of the operator
  have hmember : EndsIn (.removeGroupMember g u) (do
      if ← isOwner g u then return .error "Cannot remove group owner"
      if ← GroupManager.isAdmin g u then
        if !(← isOwner g a) then return .error "No permission to remove admin"
      orFail "Failed to remove member" (request (.removeGroupMember g u))) := by
    refine .inl ⟨rfl, fun isOwner => ?_⟩
    cases isOwner with
    | true => trivial
    | false =>
      refine .inl ⟨rfl, fun isAdmin => ?_⟩
      cases isAdmin with
      | false => exact hdelete
      | true =>
        refine .inl ⟨rfl, fun isOwner => ?_⟩
        cases isOwner with
        | false => trivial
        | true => exact hdelete
  refine .inl ⟨rfl, fun isOwner => ?_⟩
  cases isOwner with
  | true => exact hmember
  | false =>
    refine .inl ⟨rfl, fun isAdmin => ?_⟩
    cases isAdmin with
    | true => exact hmember
    | false => trivial

/-- An operation that only reads. -/
def GroupOp.isRead : GroupOp → Bool
  | .info _ | .userGroups _ | .members _ | .isMember .. | .isAdmin .. | .isOwner .. => true
  | _ => false

theorem perform_of_read {op : GroupOp} (h : op.isRead = true) : (db.perform op ms).2 = db := by
  cases op with
  | info g => exact reply_read (c := .getGroupById g) rfl
  | userGroups u => exact reply_read (c := .getUserGroups u) rfl
  | members g => exact reply_read (c := .getGroupMembers g) rfl
  | isMember g u => exact reply_read (c := .isGroupMember g u) rfl
  | isAdmin g u => exact reply_read (c := .isGroupAdmin g u) rfl
  | isOwner g u => exact reply_read (c := .isGroupOwner g u) rfl
  | _ => cases h

theorem perform_create {groupName description : String} :
    (db.perform (.create o groupName description) ms).2 =
      if groupName.isEmpty then db
      else (reply (ms 0) db (.createGroup groupName o description)).2 := by
  simp only [GroupDb.perform, GroupOp.prog, GroupManager.createGroup]
  split
  case isTrue => rfl
  case isFalse =>
    rw [Prog.run_bind]
    split <;> rfl

theorem perform_dismiss : (db.perform (.dismiss o g) ms).2 =
    if (ms 0).Sees (db.owner g = some o) then (reply (ms 1) db (.dismissGroup g)).2 else db := by
  simp only [GroupDb.perform, GroupOp.prog, GroupManager.dismissGroup, Prog.run_bind, run_isOwner]
  by_cases h : (ms 0).Sees (db.owner g = some o)
  · simp [h]
    rfl
  · simp [h]

/-- A join adds a member, if it gets that far. -/
theorem perform_join : ∃ k, (db.perform (.join g u) ms).2 = db ∨
    (db.perform (.join g u) ms).2 = (reply (ms k) db (.addGroupMember g u false)).2 :=
  tables_of_endsIn endsIn_joinGroup

/-- A removal deletes a member, if it gets that far. -/
theorem perform_remove : ∃ k, (db.perform (.remove a g u) ms).2 = db ∨
    (db.perform (.remove a g u) ms).2 = (reply (ms k) db (.removeGroupMember g u)).2 :=
  tables_of_endsIn endsIn_removeMember

theorem perform_leave : (db.perform (.leave g u) ms).2 =
    if (ms 0).Sees (db.owner g = some u) then db
    else (reply (ms 1) db (.removeGroupMember g u)).2 := by
  simp only [GroupDb.perform, GroupOp.prog, GroupManager.leaveGroup, Prog.run_bind, run_isOwner]
  by_cases h : (ms 0).Sees (db.owner g = some u)
  · simp [h]
  · simp [h]
    rfl

/-- Another operator has to be an admin, and is stopped if the member is seen to be the owner or
    an admin. -/
theorem perform_remove_other (h : db.owner g ≠ some a) : (db.perform (.remove a g u) ms).2 =
    if (ms 1).Sees (db.rank g a = some true) ∧ ¬ (ms 2).Sees (db.owner g = some u) ∧
      ¬ (ms 3).Sees (db.rank g u = some true)
    then (reply (ms 4) db (.removeGroupMember g u)).2 else db := by
  have hno : ∀ k, ¬ (ms k).Sees (db.owner g = some a) := fun k hk => h hk.2
  simp only [GroupDb.perform, GroupOp.prog, GroupManager.removeMember, Prog.run_bind,
    run_isOwner, hno]
  by_cases h1 : (ms 1).Sees (db.rank g a = some true)
  · by_cases h2 : (ms 2).Sees (db.owner g = some u)
    · simp [h1, h2]
    · by_cases h3 : (ms 3).Sees (db.rank g u = some true)
      · simp [h1, h2, h3, hno]
      · simp [h1, h2, h3]
        rfl
  · simp [h1]

theorem perform_setAdmin : (db.perform (.setAdmin a g u isAdmin) ms).2 =
    if (ms 0).Sees (db.owner g = some a) ∧ (ms 1).Sees (db.rank g u ≠ none)
    then (reply (ms 2) db (.setGroupAdmin g u isAdmin)).2 else db := by
  simp only [GroupDb.perform, GroupOp.prog, GroupManager.setAdmin, Prog.run_bind, run_isOwner]
  by_cases h : (ms 0).Sees (db.owner g = some a)
  · by_cases h' : (ms 1).Sees (db.rank g u ≠ none)
    · simp [h, h']
      rfl
    · simp [h, h']
  · simp [h]

theorem perform_transfer : (db.perform (.transfer o g n) ms).2 =
    if (ms 0).Sees (db.owner g = some o) ∧ o ≠ n ∧ (ms 1).Sees (db.rank g n ≠ none)
    then (reply (ms 2) db (.transferGroupOwner g o n)).2 else db := by
  simp only [GroupDb.perform, GroupOp.prog, GroupManager.transferOwner, Prog.run_bind, run_isOwner]
  by_cases h : (ms 0).Sees (db.owner g = some o)
  · by_cases hn : o = n
    · subst hn
      simp [h]
    · by_cases h' : (ms 1).Sees (db.rank g n ≠ none)
      · simp [h, h', hn]
        rfl
      · simp [h, hn, h']
  · simp [h]

/-! ## Who may do what -/

/-- What an operation may change for the user on whose behalf it is: a group goes only if he owns
    it; the ownership passes only from him, to a member; a remaining member's `is_admin` changes
    only if he owns the group; a member other than him goes only if he owns the group, or is an
    admin of it and the member is neither admin nor owner; other groups stay as they are. -/
structure Authorised (db db' : GroupDb) (actor group : Option Nat) : Prop where
  dismissed : ∀ g, db.owner g ≠ none → db'.owner g = none → db.owner g = actor
  transferred : ∀ g o n, db.owner g = some o → db'.owner g = some n → n ≠ o →
    actor = some o ∧ db.rank g n ≠ none
  appointed : ∀ g u b b', db.rank g u = some b → db'.rank g u = some b' → b' ≠ b →
    db.owner g = actor
  removed : ∀ g u, some u ≠ actor → db.rank g u ≠ none → db'.rank g u = none →
    db'.owner g ≠ none → db.owner g = actor ∨
      (∃ a, actor = some a ∧ db.rank g a = some true) ∧ db.rank g u = some false ∧
        db.owner g ≠ some u
  elsewhere : ∀ g, some g ≠ group → GroupDb.SameGroup g db db'

section
variable {db' : GroupDb} {actor group : Option Nat} {m : Moment}

theorem elsewhere_of_sameBut (h : GroupDb.SameBut g db db') :
    ∀ k, some k ≠ some g → GroupDb.SameGroup k db db' :=
  fun k hk => h k fun hkg => hk (congrArg some hkg)

/-- Every owner and every rank that is there stays. -/
def Keeps (db db' : GroupDb) : Prop :=
  (∀ g o, db.owner g = some o → db'.owner g = some o) ∧
    ∀ g u b, db.rank g u = some b → db'.rank g u = some b

theorem keeps_refl : Keeps db db := ⟨fun _ _ h => h, fun _ _ _ h => h⟩

theorem Keeps.trans {db'' : GroupDb} (h : Keeps db db') (h' : Keeps db' db'') : Keeps db db'' :=
  ⟨fun g o hg => h'.1 g o (h.1 g o hg), fun g u b hb => h'.2 g u b (h.2 g u b hb)⟩

/-- What only adds is allowed to anybody. -/
theorem Keeps.authorised (h : Keeps db db')
    (helse : ∀ g, some g ≠ group → GroupDb.SameGroup g db db') : Authorised db db' actor group where
  dismissed g hg hg' := by
    obtain ⟨o, ho⟩ := Option.ne_none_iff_exists'.1 hg
    rw [h.1 g o ho] at hg'
    cases hg'
  transferred g o n hg hg' hne := by
    rw [h.1 g o hg] at hg'
    exact absurd (Option.some.inj hg').symm hne
  appointed g u b b' hb hb' hne := by
    rw [h.2 g u b hb] at hb'
    exact absurd (Option.some.inj hb').symm hne
  removed g u _ hu hu' _ := by
    obtain ⟨b, hb⟩ := Option.ne_none_iff_exists'.1 hu
    rw [h.2 g u b hb] at hu'
    cases hu'
  elsewhere := helse

theorem authorised_refl : Authorised db db actor group :=
  keeps_refl.authorised fun _ _ => ⟨rfl, fun _ => rfl⟩

theorem keeps_insertGroup {r : Nat → GroupRow} {hr : ∀ n, (r n).groupId = n}
    (h : db.insertGroup r hr = some db') : Keeps db db' := by
  refine ⟨fun g o hg => ?_, fun g u b hb => (GroupDb.rank_insertGroup h).trans hb⟩
  rw [GroupDb.owner_insertGroup h, if_neg, hg]
  rintro rfl
  rw [GroupDb.owner_next] at hg
  cases hg

theorem keeps_insertMember {r : MemberRow} (h : db.insertMember r = some db') : Keeps db db' := by
  refine ⟨fun g o hg => (GroupDb.owner_insertMember h).trans hg, fun g u b hb => ?_⟩
  rw [GroupDb.rank_insertMember h, if_neg, hb]
  intro hkey
  obtain ⟨rfl, rfl⟩ := Prod.mk.inj hkey
  have hnone : db.insertMember r = none :=
    GroupDb.insertMember_eq_none.2 (.inr (hb ▸ Option.some_ne_none b))
  rw [hnone] at h
  cases h

theorem authorised_createGroup {groupName description : String} :
    Authorised db (reply m db (.createGroup groupName o description)).2 actor
      (some db.groups.next) := by
  rw [reply_createGroup]
  cases h : (if m.through 0 then
    db.insertGroup (GroupDb.newGroup groupName o description m.now) fun _ => rfl else none) with
  | none => exact authorised_refl
  | some db₁ =>
    have h₁ := (Option.ite_none_right_eq_some.1 h).2
    have hkeeps := keeps_insertGroup h₁
    have hsame := GroupDb.sameBut_insertGroup h₁
    cases h' : (if m.through 1 then
      db₁.insertMember ⟨db.groups.next, o, true, m.now⟩ else none) with
    | none =>
      simp only [h']
      exact hkeeps.authorised (elsewhere_of_sameBut hsame)
    | some db₂ =>
      have h₂ := (Option.ite_none_right_eq_some.1 h').2
      simp only [h']
      exact (hkeeps.trans (keeps_insertMember h₂)).authorised
        (elsewhere_of_sameBut (hsame.trans (GroupDb.sameBut_insertMember h₂)))

theorem authorised_addGroupMember :
    Authorised db (reply m db (.addGroupMember g u isAdmin)).2 actor (some g) := by
  rw [reply_addGroupMember]
  cases h : (if m.through 0 then db.insertMember ⟨g, u, isAdmin, m.now⟩ else none) with
  | none => exact authorised_refl
  | some db' =>
    have h' := (Option.ite_none_right_eq_some.1 h).2
    exact (keeps_insertMember h').authorised
      (elsewhere_of_sameBut (GroupDb.sameBut_insertMember h'))

theorem authorised_updateGroup {details : GroupInfo} :
    Authorised db (reply m db (.updateGroup details)).2 actor (some details.groupId) :=
  Keeps.authorised ⟨fun _ _ hg => owner_updateGroup.trans hg,
    fun _ _ _ hb => rank_updateGroup.trans hb⟩
    (elsewhere_of_sameBut sameBut_updateGroup)

/-- The owner may dismiss the group. -/
theorem authorised_dismissGroup (h : db.owner g = some o) :
    Authorised db (reply m db (.dismissGroup g)).2 (some o) (some g) := by
  rw [reply_dismissGroup]
  cases m.through 0 with
  | false => exact authorised_refl
  | true =>
    refine ⟨fun k hk hk' => ?_, fun k a b hk hk' hne => ?_, fun k v b b' hb hb' hne => ?_,
      fun k v _ hv hv' hk' => ?_, elsewhere_of_sameBut GroupDb.sameBut_deleteGroup⟩
    · simp only [if_true, GroupDb.owner_deleteGroup] at hk'
      split at hk'
      next hkg => rw [hkg, h]
      next => exact absurd hk' hk
    · simp only [if_true, GroupDb.owner_deleteGroup] at hk'
      split at hk'
      · cases hk'
      · rw [hk] at hk'
        exact absurd (Option.some.inj hk').symm hne
    · simp only [if_true, GroupDb.rank_deleteGroup] at hb'
      split at hb'
      · cases hb'
      · rw [hb] at hb'
        exact absurd (Option.some.inj hb').symm hne
    · simp only [if_true, GroupDb.owner_deleteGroup, GroupDb.rank_deleteGroup] at hv' hk'
      split at hv'
      next hkg => exact absurd (if_pos hkg) hk'
      next => exact absurd hv' hv

/-- The owner may appoint and dismiss admins. -/
theorem authorised_setGroupAdmin (h : db.owner g = some a) :
    Authorised db (reply m db (.setGroupAdmin g u isAdmin)).2 (some a) (some g) := by
  rw [reply_setGroupAdmin]
  cases m.through 0 with
  | false => exact authorised_refl
  | true =>
    refine ⟨fun k hk hk' => absurd hk' hk, fun k o n hk hk' hne => ?_,
      fun k v b b' hb hb' hne => ?_, fun k v _ hv hv' _ => ?_,
      elsewhere_of_sameBut GroupDb.sameBut_setAdmin⟩
    · exact absurd (Option.some.inj (hk'.symm.trans hk)) hne
    · simp only [if_true, GroupDb.rank_setAdmin] at hb'
      split at hb'
      next hkey => rw [(Prod.mk.inj hkey).1, h]
      next =>
        rw [hb] at hb'
        exact absurd (Option.some.inj hb').symm hne
    · simp only [if_true, GroupDb.rank_setAdmin] at hv'
      split at hv'
      next => exact absurd (Option.map_eq_none_iff.1 hv') hv
      next => exact absurd hv' hv

/-- The owner may pass the group on to a member. -/
theorem authorised_transferGroupOwner (h : db.owner g = some o) (hn : db.rank g n ≠ none) :
    Authorised db (reply m db (.transferGroupOwner g o n)).2 (some o) (some g) := by
  refine ⟨fun k hk hk' => ?_, fun k a b hk hk' hne => ?_, fun k v b b' hb hb' hne => ?_,
    fun k v _ hv hv' _ => ?_, elsewhere_of_sameBut sameBut_transfer⟩
  · rw [owner_transfer] at hk'
    split at hk'
    · cases hk'
    · exact absurd hk' hk
  · rw [owner_transfer] at hk'
    split at hk'
    next hmoved =>
      obtain ⟨rfl, -⟩ := hmoved
      cases hk'
      exact ⟨h.symm.trans hk, hn⟩
    next => exact absurd (Option.some.inj (hk'.symm.trans hk)) hne
  · rw [rank_transfer] at hb'
    split at hb'
    next hmoved => rw [hmoved.1, h]
    next => exact absurd (Option.some.inj (hb'.symm.trans hb)) hne
  · exact absurd (rank_transfer_eq_none.1 hv') hv

/-- Who may remove `u`: himself, the owner, and an admin if `u` is neither admin nor owner. -/
def MayRemove (db : GroupDb) (g a u : Nat) : Prop :=
  u = a ∨ db.owner g = some a ∨
    (db.rank g a = some true ∧ db.rank g u = some false ∧ db.owner g ≠ some u)

theorem authorised_removeGroupMember :
    Authorised db (reply m db (.removeGroupMember g u)).2 (some a) (some g) ↔
      (m.through 0 = true → db.rank g u ≠ none → MayRemove db g a u) := by
  rw [reply_removeGroupMember]
  cases m.through 0 with
  | false => exact iff_of_true authorised_refl fun h => absurd h Bool.false_ne_true
  | true =>
    simp only [if_true, true_implies]
    constructor
    · intro h hu
      have hgone : (db.deleteMember g u).rank g u = none := by
        rw [GroupDb.rank_deleteMember, if_pos rfl]
      by_cases hua : u = a
      · exact .inl hua
      · rcases h.removed g u (fun hs => hua (Option.some.inj hs)) hu hgone
          (show db.owner g ≠ none from GroupDb.owner_isSome_of_rank hu) with howner
          | ⟨⟨b, hb, hadmin⟩, hplain, howner⟩
        · exact .inr (.inl howner)
        · cases hb
          exact .inr (.inr ⟨hadmin, hplain, howner⟩)
    · intro h
      refine ⟨fun k hk hk' => absurd hk' hk, fun k o n hk hk' hne => ?_,
        fun k v b b' hb hb' hne => ?_, fun k v hva hv hv' _ => ?_,
        elsewhere_of_sameBut GroupDb.sameBut_deleteMember⟩
      · exact absurd (Option.some.inj (hk'.symm.trans hk)) hne
      · rw [GroupDb.rank_deleteMember] at hb'
        split at hb'
        · cases hb'
        · exact absurd (Option.some.inj (hb'.symm.trans hb)) hne
      · rw [GroupDb.rank_deleteMember] at hv'
        split at hv'
        case isTrue hkey =>
          obtain ⟨rfl, rfl⟩ := Prod.mk.inj hkey
          rcases h hv with rfl | howner | hadmin
          · exact absurd rfl hva
          · exact .inl howner
          · exact .inr ⟨⟨a, rfl, hadmin.1⟩, hadmin.2⟩
        case isFalse => exact absurd hv' hv

/-! ## Every step of every sequence -/

/-- The operation stays within what the user may do. -/
def GroupDb.Respects (db : GroupDb) (op : GroupOp) (ms : Nat → Moment) : Prop :=
  Authorised db (db.perform op ms).2 op.actor (op.group db.groups.next)

/-- When an admin who is not the owner removes the owner or another admin, one of these stops him:
    his own check fails, a check of the member gets through, or the DELETE fails. -/
def GroupDb.Shielded (db : GroupDb) (ms : Nat → Moment) : GroupOp → Prop
  | .remove a g u =>
    u ≠ a → db.owner g ≠ some a → db.rank g a = some true → db.rank g u ≠ none →
      (db.owner g = some u ∨ db.rank g u = some true) →
      (ms 1).through 0 = false ∨ (ms 2).Sees (db.owner g = some u) ∨
        (ms 3).Sees (db.rank g u = some true) ∨ (ms 4).through 0 = false
  | _ => True

theorem respects_of_same {op : GroupOp} (h : (db.perform op ms).2 = db) : db.Respects op ms := by
  unfold GroupDb.Respects
  rw [h]
  exact authorised_refl

theorem respects_remove : db.Respects (.remove a g u) ms ↔ db.Shielded ms (.remove a g u) := by
  unfold GroupDb.Respects
  by_cases howner : db.owner g = some a
  · refine iff_of_true ?_ fun _ hother => absurd howner hother
    obtain ⟨k, h | h⟩ := perform_remove (a := a) (g := g) (u := u)
    · rw [h]
      exact authorised_refl
    · rw [h]
      exact authorised_removeGroupMember.2 fun _ _ => .inr (.inl howner)
  · rw [perform_remove_other howner]
    split
    case isTrue h =>
      obtain ⟨hadmin, hnotOwner, hnotAdmin⟩ := h
      refine authorised_removeGroupMember.trans ⟨fun h hua _ _ hu hrank => ?_, fun h h4 hu => ?_⟩
      · cases h4 : (ms 4).through 0 with
        | false => exact .inr (.inr (.inr rfl))
        | true =>
          rcases h h4 hu with hua' | howner' | ⟨-, hplain, howner'⟩
          · exact absurd hua' hua
          · exact absurd howner' howner
          · rcases hrank with hrank | hrank
            · exact absurd hrank howner'
            · rw [hplain] at hrank
              cases hrank
      · by_cases hua : u = a
        · exact .inl hua
        · by_cases hrank : db.owner g = some u ∨ db.rank g u = some true
          · rcases h hua howner hadmin.2 hu hrank with h | h | h | h
            · rw [hadmin.1] at h
              cases h
            · exact absurd h hnotOwner
            · exact absurd h hnotAdmin
            · rw [h4] at h
              cases h
          · obtain ⟨howner', hplain⟩ := not_or.1 hrank
            obtain ⟨b, hb⟩ := Option.ne_none_iff_exists'.1 hu
            cases b with
            | true => exact absurd hb hplain
            | false => exact .inr (.inr ⟨hadmin.2, hb, howner'⟩)
    case isFalse h =>
      refine iff_of_true authorised_refl fun _ _ hadmin _ _ => ?_
      cases h1 : (ms 1).through 0 with
      | false => exact .inl rfl
      | true =>
        by_cases h2 : (ms 2).Sees (db.owner g = some u)
        · exact .inr (.inl h2)
        · by_cases h3 : (ms 3).Sees (db.rank g u = some true)
          · exact .inr (.inr (.inl h3))
          · exact absurd ⟨⟨h1, hadmin⟩, h2, h3⟩ h

end

theorem respects_iff {op : GroupOp} : db.Respects op ms ↔ db.Shielded ms op := by
  cases op with
  | remove a g u => exact respects_remove
  | create o groupName description =>
    refine iff_of_true ?_ trivial
    unfold GroupDb.Respects
    rw [perform_create]
    split
    · exact authorised_refl
    · exact authorised_createGroup
  | info g => exact iff_of_true (respects_of_same (perform_of_read rfl)) trivial
  | updateInfo details => exact iff_of_true authorised_updateGroup trivial
  | dismiss o g =>
    refine iff_of_true ?_ trivial
    unfold GroupDb.Respects
    rw [perform_dismiss]
    split
    next h => exact authorised_dismissGroup h.2
    next => exact authorised_refl
  | join g u =>
    refine iff_of_true ?_ trivial
    unfold GroupDb.Respects
    obtain ⟨k, h | h⟩ := perform_join (g := g) (u := u)
    · rw [h]
      exact authorised_refl
    · rw [h]
      exact authorised_addGroupMember
  | leave g u =>
    refine iff_of_true ?_ trivial
    unfold GroupDb.Respects
    rw [perform_leave]
    split
    · exact authorised_refl
    · exact authorised_removeGroupMember.2 fun _ _ => .inl rfl
  | userGroups u => exact iff_of_true (respects_of_same (perform_of_read rfl)) trivial
  | members g => exact iff_of_true (respects_of_same (perform_of_read rfl)) trivial
  | isMember g u => exact iff_of_true (respects_of_same (perform_of_read rfl)) trivial
  | isAdmin g u => exact iff_of_true (respects_of_same (perform_of_read rfl)) trivial
  | isOwner g u => exact iff_of_true (respects_of_same (perform_of_read rfl)) trivial
  | setAdmin a g u isAdmin =>
    refine iff_of_true ?_ trivial
    unfold GroupDb.Respects
    rw [perform_setAdmin]
    split
    next h => exact authorised_setGroupAdmin h.1.2
    next => exact authorised_refl
  | transfer o g n =>
    refine iff_of_true ?_ trivial
    unfold GroupDb.Respects
    rw [perform_transfer]
    split
    next h => exact authorised_transferGroupOwner h.1.2 h.2.2.2
    next => exact authorised_refl

/-- The tables before each operation of a sequence. -/
def GroupDb.history (db : GroupDb) :
    List (GroupOp × (Nat → Moment)) → List (GroupDb × GroupOp × (Nat → Moment))
  | [] => []
  | (op, ms) :: ops => (db, op, ms) :: GroupDb.history (db.perform op ms).2 ops

/-- The steps of a sequence of operations stay within what their users may do exactly if no
    removal of the owner or an admin by another admin slips through a check that fails. -/
theorem authority_iff (db : GroupDb) (ops : List (GroupOp × (Nat → Moment))) :
    (∀ x ∈ db.history ops, x.1.Respects x.2.1 x.2.2) ↔
      ∀ x ∈ db.history ops, x.1.Shielded x.2.2 x.2.1 :=
  forall₂_congr fun _ _ => respects_iff

/-- When every statement gets through, every operation is shielded. -/
theorem shielded_of_healthy {op : GroupOp} (h : ∀ k, (ms k).Healthy) : db.Shielded ms op := by
  cases op with
  | remove a g u =>
    intro _ _ _ _ hrank
    rcases hrank with hrank | hrank
    · exact .inr (.inl ((h 2).sees.2 hrank))
    · exact .inr (.inr (.inl ((h 3).sees.2 hrank)))
  | _ => trivial

/-- Users with the ids 1, 2 and 3. -/
def threeUsers : UniqueTable UserInfo.userId :=
  ⟨[1, 2, 3].map fun id => ⟨id, toString id, "", "", "", .offline, 0, 0⟩, by decide⟩

/-- A moment whose statements get through, or all of them fail. -/
def momentOf (through : Bool) : Moment := ⟨0, true, fun _ => through⟩

/-- User 1 makes a group in which 2 and 3 become admins, and 2 removes 3 while the SELECT that
    asks whether 3 is an admin fails. -/
def unseenRemoval : List (GroupOp × (Nat → Moment)) :=
  [(.create 1 "g" "", fun _ => momentOf true), (.join 1 2, fun _ => momentOf true),
    (.join 1 3, fun _ => momentOf true), (.setAdmin 1 1 2 true, fun _ => momentOf true),
    (.setAdmin 1 1 3 true, fun _ => momentOf true),
    (.remove 2 1 3, fun k => momentOf (k != 3))]

theorem not_authorised_unseen :
    ¬ ∀ (db : GroupDb) (ops : List (GroupOp × (Nat → Moment))),
      ∀ x ∈ db.history ops, x.1.Respects x.2.1 x.2.2 := by
  intro h
  have hlast := h (.fresh threeUsers) unseenRemoval _
    (List.mem_of_getLast? (show ((GroupDb.fresh threeUsers).history unseenRemoval).getLast? = _
      from rfl))
  have hremoved := hlast.removed 1 3 (by decide) (by decide) (by decide) (by decide)
  revert hremoved
  decide

end ChatApp.Groups
