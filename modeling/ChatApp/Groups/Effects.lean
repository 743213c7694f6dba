/-
  What each call of `GroupManager` answers and does to the tables, by the fate of its statements.
  A check that does not get through answers false; the calls that change something are given by
  the edits of the tables, and then by what they do to owners and ranks.
-/
import ChatApp.Groups.Manager

namespace ChatApp.Groups

open ChatApp.Lib ChatApp.Database

variable {m : Moment} {db : GroupDb} {g g' u o n k : Nat} {isAdmin : Bool}

/-! ## Checks -/

/-- Calls that only read. -/
def Call.isRead : Call → Bool
  | .getGroupById _ | .getUserGroups _ | .getGroupMembers _ | .isGroupMember .. | .isGroupAdmin ..
  | .isGroupOwner .. => true
  | _ => false

theorem reply_isGroupOwner :
    reply m db (.isGroupOwner g u) = (decide (m.Sees (db.owner g = some u)), db) := by
  have h : reply m db (.isGroupOwner g u) = _ := atomically_selectFirst
    (fun row => row.any fun row : Row => decide (row.stoull 0 = u)) rfl
    (show GroupDb.exec db (.groups (.owner g)) = some (db, _, 0) from rfl)
  rw [h, GroupDb.owner, Moment.decide_sees]
  cases m.through 0 with
  | false => simp
  | true => cases db.groups.find? g <;> simp [Row.stoull, Row.stoll, Row.cell]

theorem reply_isGroupAdmin :
    reply m db (.isGroupAdmin g u) = (decide (m.Sees (db.rank g u = some true)), db) := by
  have h : reply m db (.isGroupAdmin g u) = _ := atomically_selectFirst
    (fun row => row.any fun row : Row => decide (row.stoll 0 = 1)) rfl
    (show GroupDb.exec db (.groupMembers (.isAdmin g u)) = some (db, _, 0) from rfl)
  rw [h, GroupDb.rank, Moment.decide_sees]
  cases m.through 0 with
  | false => simp
  | true =>
    cases db.members.find? (g, u) with
    | none => simp
    | some r => cases hr : r.isAdmin <;> simp [Row.stoll, Row.cell, hr]

theorem reply_isGroupMember :
    reply m db (.isGroupMember g u) = (decide (m.Sees (db.rank g u ≠ none)), db) := by
  have h : reply m db (.isGroupMember g u) = _ := atomically_selectFirst countPositive rfl
    (show GroupDb.exec db (.groupMembers (.count g u)) = some (db, _, 0) from rfl)
  have hcount : (0 < db.members.rows.countP fun r => decide (r.key = (g, u))) ↔
      db.rank g u ≠ none := by
    simp [List.countP_pos_iff, GroupDb.rank, UniqueTable.find?_eq_none]
  rw [h, Moment.decide_sees]
  cases m.through 0 with
  | false => simp [countPositive]
  | true => simp [countPositive, Row.stoll, Row.cell, ← hcount]

/-- A program that issues only SELECTs. -/
def OnlyReads {α : Type} (p : DbProg α) : Prop :=
  Prog.CallsOnly (fun c : Database.Call => ∀ stmt, c = .query stmt → stmt.isSelect = true) p

theorem onlyReads_select {stmt : Stmt} (h : stmt.isSelect = true) : OnlyReads (select stmt) := by
  refine ⟨fun stmt' hq => ?_, fun ok => ?_⟩
  · cases hq
    exact h
  · cases ok with
    | false => trivial
    | true => exact ⟨fun stmt' hq => (by cases hq), fun _ => trivial⟩

theorem onlyReads_selectFirst {stmt : Stmt} (h : stmt.isSelect = true) :
    OnlyReads (selectFirst stmt) :=
  Prog.callsOnly_bind (onlyReads_select h) fun _ => trivial

theorem onlyReads_locked {α : Type} {p : DbProg α} (h : OnlyReads p) : OnlyReads (locked p) :=
  ⟨fun _ hq => (by cases hq), fun _ => Prog.callsOnly_bind (p := p) h fun _ =>
    ⟨fun _ hq => (by cases hq), fun _ => trivial⟩⟩

theorem onlyReads_getGroupMembers (g : Nat) : OnlyReads (getGroupMembers g) :=
  Prog.callsOnly_bind (onlyReads_select rfl) fun _ => trivial

theorem onlyReads_groupsWithMembers (rows : List Row) : OnlyReads (groupsWithMembers rows) := by
  induction rows with
  | nil => trivial
  | cons row rows ih =>
    exact Prog.callsOnly_bind (onlyReads_getGroupMembers _) fun _ =>
      Prog.callsOnly_bind ih fun _ => trivial

theorem onlyReads_getGroupById (g : Nat) : OnlyReads (getGroupById g) := by
  refine onlyReads_locked (Prog.callsOnly_bind (onlyReads_selectFirst rfl) fun row => ?_)
  cases row with
  | none => trivial
  | some row => exact Prog.callsOnly_bind (onlyReads_getGroupMembers g) fun _ => trivial

theorem onlyReads_getUserGroups (u : Nat) : OnlyReads (getUserGroups u) := by
  refine onlyReads_locked (Prog.callsOnly_bind (onlyReads_select rfl) fun rows => ?_)
  cases rows with
  | none => trivial
  | some rows => exact Prog.callsOnly_bind (onlyReads_groupsWithMembers rows) fun _ => trivial

theorem tables_of_onlyReads {α : Type} {p : DbProg α} (h : OnlyReads p) :
    (atomically GroupDb.exec m p db).2 = db :=
  serve_reads h GroupDb.exec_select

theorem reply_read {c : Call} (h : c.isRead = true) : (reply m db c).2 = db := by
  cases c with
  | getGroupById g => exact tables_of_onlyReads (onlyReads_getGroupById g)
  | getUserGroups u => exact tables_of_onlyReads (onlyReads_getUserGroups u)
  | getGroupMembers g => exact tables_of_onlyReads (onlyReads_getGroupMembers g)
  | isGroupMember g u => rw [reply_isGroupMember]
  | isGroupAdmin g u => rw [reply_isGroupAdmin]
  | isGroupOwner g u => rw [reply_isGroupOwner]
  | _ => cases h

/-! ## Edits -/

theorem reply_createGroup {groupName description : String} :
    reply m db (.createGroup groupName o description) =
      match (if m.through 0 then
        db.insertGroup (GroupDb.newGroup groupName o description m.now) fun _ => rfl else none) with
      | none => (none, db)
      | some db₁ =>
        match (if m.through 1 then
          db₁.insertMember ⟨db.groups.next, o, true, m.now⟩ else none) with
        | none => (some (db.groups.next, false), db₁)
        | some db₂ => (some (db.groups.next, true), db₂) := by
  cases h0 : m.through 0 with
  | false =>
    simp [reply, Call.method, atomically, createGroup, serve, Moment.send, h0]
  | true =>
    cases hg : db.insertGroup (GroupDb.newGroup groupName o description m.now) fun _ => rfl with
    | none =>
      simp [reply, Call.method, atomically, createGroup, serve, Moment.send, GroupDb.exec,
        GroupDb.execGroups, h0, hg]
    | some db₁ =>
      simp only [reply, Call.method, atomically, createGroup, execute, serve_locked, Prog.run_bind,
        serve_getCurrentTimestamp, run_mysqlQuery, serve, Moment.send, GroupDb.exec,
        GroupDb.execGroups, GroupDb.execMembers, h0, hg, Stmt.isSelect, Option.map_some, if_true,
        Bool.not_true, Bool.false_eq_true, if_false, serve_getLastInsertId, Prog.pure_eq_ret,
        Prog.run_ret]
      cases m.through 1 with
      | false => rfl
      | true => cases db₁.insertMember ⟨db.groups.next, o, true, m.now⟩ <;> rfl

/-- A method of one statement that cannot fail by itself. -/
theorem reply_updateGroup {group : GroupInfo} :
    reply m db (.updateGroup group) = (m.through 0, if m.through 0 then
      db.updateGroup
        (GroupDb.describe group.groupId group.groupName group.avatarUrl group.description m.now)
        (fun g => (GroupDb.describe_keeps _ _ _ _ _ g).1)
        (fun g => (GroupDb.describe_keeps _ _ _ _ _ g).2) else db) := by
  refine (atomically_executeNow rfl).trans ?_
  cases m.through 0 <;> rfl

theorem reply_dismissGroup :
    reply m db (.dismissGroup g) =
      (m.through 0, if m.through 0 then db.deleteGroup g else db) := by
  refine (atomically_execute rfl).trans ?_
  cases m.through 0 <;> rfl

theorem reply_addGroupMember :
    reply m db (.addGroupMember g u isAdmin) =
      match (if m.through 0 then db.insertMember ⟨g, u, isAdmin, m.now⟩ else none) with
      | none => (false, db)
      | some db' => (true, db') := by
  refine (atomically_executeNow rfl).trans ?_
  cases m.through 0 with
  | false => rfl
  | true =>
    simp only [if_true, GroupDb.exec, GroupDb.execMembers]
    cases db.insertMember ⟨g, u, isAdmin, m.now⟩ <;> rfl

theorem reply_removeGroupMember :
    reply m db (.removeGroupMember g u) =
      (m.through 0, if m.through 0 then db.deleteMember g u else db) := by
  refine (atomically_execute rfl).trans ?_
  cases m.through 0 <;> rfl

theorem reply_setGroupAdmin :
    reply m db (.setGroupAdmin g u isAdmin) =
      (m.through 0, if m.through 0 then db.setAdmin g u isAdmin else db) := by
  refine (atomically_execute rfl).trans ?_
  cases m.through 0 <;> rfl

theorem reply_transferGroupOwner :
    reply m db (.transferGroupOwner g o n) =
      match (if m.through 0 then db.setOwner g o n else none) with
      | none => (false, db)
      | some db₁ =>
        let db₂ := if m.through 1 then db₁.setAdmin g o false else db₁
        (m.through 2, if m.through 2 then db₂.setAdmin g n true else db₂) := by
  cases h0 : m.through 0 with
  | false => simp [reply, Call.method, atomically, transferGroupOwner, serve, Moment.send, h0]
  | true =>
    cases hg : db.setOwner g o n with
    | none =>
      simp [reply, Call.method, atomically, transferGroupOwner, serve, Moment.send, GroupDb.exec,
        GroupDb.execGroups, h0, hg]
    | some db₁ =>
      simp only [reply, Call.method, atomically, transferGroupOwner, execute, serve_locked,
        Prog.run_bind, run_mysqlQuery, serve, Moment.send, GroupDb.exec, GroupDb.execGroups,
        GroupDb.execMembers, h0, hg, Stmt.isSelect, Option.map_some, if_true, Bool.not_true,
        Bool.false_eq_true, if_false]
      cases h1 : m.through 1 <;> cases h2 : m.through 2 <;> simp [h2]

/-! ## Owners and ranks -/

theorem owner_updateGroup {group : GroupInfo} :
    (reply m db (.updateGroup group)).2.owner g = db.owner g := by
  have hdescribe := GroupDb.describe_keeps group.groupId group.groupName group.avatarUrl
    group.description m.now
  rw [reply_updateGroup]
  cases m.through 0 with
  | false => rfl
  | true => exact GroupDb.owner_updateGroup (fun r => (hdescribe r).1) fun r => (hdescribe r).2

theorem rank_updateGroup {group : GroupInfo} :
    (reply m db (.updateGroup group)).2.rank g u = db.rank g u := by
  rw [reply_updateGroup]
  cases m.through 0 <;> rfl

theorem sameBut_updateGroup {group : GroupInfo} :
    GroupDb.SameBut group.groupId db (reply m db (.updateGroup group)).2 := by
  have hdescribe := GroupDb.describe_keeps group.groupId group.groupName group.avatarUrl
    group.description m.now
  rw [reply_updateGroup]
  cases m.through 0 with
  | false => exact GroupDb.sameBut_refl
  | true =>
    exact GroupDb.sameBut_updateGroup (fun r => (hdescribe r).1) (fun r => (hdescribe r).2)
      fun r hr => if_neg hr

/-- The first UPDATE of a transfer succeeds; it need not match a row. -/
def Moves (m : Moment) (db : GroupDb) (g o n : Nat) : Prop :=
  m.through 0 = true ∧ (db.owner g = some o → db.userExists n)

instance : Decidable (Moves m db g o n) := inferInstanceAs (Decidable (_ ∧ (_ → _)))

theorem transfer_moved (h : Moves m db g o n) :
    ∃ db₁, db.setOwner g o n = some db₁ ∧ reply m db (.transferGroupOwner g o n) =
      let db₂ := if m.through 1 then db₁.setAdmin g o false else db₁
      (m.through 2, if m.through 2 then db₂.setAdmin g n true else db₂) := by
  rw [reply_transferGroupOwner, h.1, if_pos rfl]
  cases hset : db.setOwner g o n with
  | none =>
    obtain ⟨howner, huser⟩ := GroupDb.setOwner_eq_none.1 hset
    exact absurd (h.2 howner) huser
  | some db₁ => exact ⟨db₁, rfl, rfl⟩

theorem transfer_not_moved (h : ¬ Moves m db g o n) :
    reply m db (.transferGroupOwner g o n) = (false, db) := by
  rw [reply_transferGroupOwner]
  cases h0 : m.through 0 with
  | false => rfl
  | true =>
    have hnone : db.setOwner g o n = none := by
      rw [GroupDb.setOwner_eq_none]
      exact Classical.not_imp.1 fun huser => h ⟨h0, huser⟩
    rw [if_pos rfl, hnone]

theorem answer_transfer : (reply m db (.transferGroupOwner g o n)).1 = true ↔
    Moves m db g o n ∧ m.through 2 = true := by
  by_cases h : Moves m db g o n
  · obtain ⟨db₁, -, hreply⟩ := transfer_moved h
    rw [hreply]
    exact (and_iff_right h).symm
  · rw [transfer_not_moved h]
    exact iff_of_false Bool.false_ne_true fun h' => h h'.1

theorem owner_transfer : (reply m db (.transferGroupOwner g o n)).2.owner k =
    if k = g ∧ db.owner g = some o ∧ Moves m db g o n then some n else db.owner k := by
  by_cases h : Moves m db g o n
  · obtain ⟨db₁, hset, hreply⟩ := transfer_moved h
    have howner : (reply m db (.transferGroupOwner g o n)).2.owner k = db₁.owner k := by
      rw [hreply]
      cases m.through 1 <;> cases m.through 2 <;> rfl
    rw [howner, GroupDb.owner_setOwner hset]
    simp only [h, and_true]
  · rw [transfer_not_moved h, if_neg fun h' => h h'.2.2]

theorem rank_transfer : (reply m db (.transferGroupOwner g o n)).2.rank k u =
    if k = g ∧ Moves m db g o n then
      if u = n ∧ m.through 2 = true then (db.rank k u).map fun _ => true
      else if u = o ∧ m.through 1 = true then (db.rank k u).map fun _ => false
      else db.rank k u
    else db.rank k u := by
  by_cases h : Moves m db g o n
  · obtain ⟨db₁, hset, hreply⟩ := transfer_moved h
    have hrank : ∀ v, db₁.rank g v = db.rank g v := fun v => GroupDb.rank_setOwner hset
    rw [hreply]
    -- the last UPDATE has the last word
    have hlast : ∀ (b : Prop) [Decidable b] (r : Option Bool),
        (if b then r.map fun _ => false else r).map (fun _ => true) = r.map fun _ => true := by
      intro b _ r
      split
      · rw [Option.map_map]
        rfl
      · rfl
    by_cases hk : k = g
    · subst hk
      by_cases hn : u = n <;> by_cases ho : u = o <;> cases h1 : m.through 1 <;>
        cases h2 : m.through 2 <;> simp [GroupDb.rank_setAdmin, hrank, hlast, h, hn, ho]
    · cases h1 : m.through 1 <;> cases h2 : m.through 2 <;>
        simp [GroupDb.rank_setAdmin, GroupDb.rank_setOwner hset, hk]
  · rw [transfer_not_moved h, if_neg fun h' => h h'.2]

theorem rank_transfer_eq_none :
    (reply m db (.transferGroupOwner g o n)).2.rank k u = none ↔ db.rank k u = none := by
  rw [rank_transfer]
  split
  · split
    · exact Option.map_eq_none_iff
    · split
      · exact Option.map_eq_none_iff
      · rfl
  · rfl

theorem sameBut_transfer : GroupDb.SameBut g db (reply m db (.transferGroupOwner g o n)).2 := by
  by_cases h : Moves m db g o n
  · obtain ⟨db₁, hset, hreply⟩ := transfer_moved h
    have h₁ := GroupDb.sameBut_setOwner hset
    rw [hreply]
    cases m.through 1 <;> cases m.through 2
    · exact h₁
    · exact h₁.trans GroupDb.sameBut_setAdmin
    · exact h₁.trans GroupDb.sameBut_setAdmin
    · exact (h₁.trans GroupDb.sameBut_setAdmin).trans GroupDb.sameBut_setAdmin
  · rw [transfer_not_moved h]
    exact GroupDb.sameBut_refl

end ChatApp.Groups
