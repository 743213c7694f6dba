/-
  `handle_invite_group_members` of the gateway, from the ids it has read on. It calls `join_group`
  for every id of the list, whatever came of the ids before, and answers with one flag for all of
  them. There is no transaction: the users who could join have joined when the answer is false.

  `connected` says whose connection `get_connection` finds.
-/
import ChatApp.Groups.Authority

namespace ChatApp.Groups

open ChatApp.Lib ChatApp.Database GroupManager

/-- What the handler sends. -/
inductive InviteFrame
  | inviteGroupMembersResponse (success : Bool)
  | groupInviteNotification (userId groupId : Nat) (groupName : String) (inviterId : Nat)
  deriving DecidableEq

/-- The loop over `join_group` -/
def joinAll (groupId : Nat) (allSuccess : Bool) : List Nat → GroupProg Bool
  | [] => pure allSuccess
  | userId :: userIds => do
    match ← joinGroup groupId userId with
    | .ok _ => joinAll groupId allSuccess userIds
    | .error _ => joinAll groupId false userIds

/-- The loop over the invited users. If `get_group_info` fails, the name is empty. -/
def notifyAll (connected : Nat → Bool) (inviterId groupId : Nat) :
    List Nat → GroupProg (List InviteFrame)
  | [] => pure []
  | userId :: userIds => do
    if connected userId then
      let group ← getGroupInfo groupId
      let frames ← notifyAll connected inviterId groupId userIds
      return .groupInviteNotification userId groupId ((group.map (·.groupName)).getD "")
        inviterId :: frames
    else notifyAll connected inviterId groupId userIds

def handleInviteGroupMembers (connected : Nat → Bool) (inviterId groupId : Nat)
    (userIds : List Nat) : GroupProg (List InviteFrame) := do
  if ← joinAll groupId true userIds then
    let frames ← notifyAll connected inviterId groupId userIds
    return .inviteGroupMembersResponse true :: frames
  else return [.inviteGroupMembersResponse false]

/-! ## One user -/

/-- The group and the user exist, and he is not a member. -/
def GroupDb.Joinable (db : GroupDb) (g u : Nat) : Prop :=
  db.owner g ≠ none ∧ db.userExists u ∧ db.rank g u = none

variable {db db' : GroupDb} {ms : Nat → Moment} {s : GroupDb × Nat} {g u : Nat} {m : Moment}

theorem insertMember_isSome {isAdmin : Bool} {now : Int} :
    (db.insertMember ⟨g, u, isAdmin, now⟩).isSome ↔ db.Joinable g u := by
  rw [Option.isSome_iff_ne_none, Ne, GroupDb.insertMember_eq_none, GroupDb.Joinable]
  simp only [ne_eq, not_or, not_not, and_assoc]

theorem getGroupById_isSome (h : m.through 0 = true) :
    (reply m db (.getGroupById g)).1.isSome = true ↔ db.owner g ≠ none := by
  have hselect : GroupDb.exec db (.groups (.byId g)) = some (db, _, 0) := rfl
  obtain ⟨s, hrun, -, -⟩ := serve_selectFirst (m := m) (s := ⟨db, none, 0, 0⟩) rfl hselect
  simp only [reply, Call.method, atomically, getGroupById, serve_locked, Prog.run_bind, hrun, h,
    if_true, GroupDb.owner]
  cases db.groups.find? g with
  | none => exact iff_of_false Bool.false_ne_true fun h => h rfl
  | some r =>
    refine iff_of_true ?_ (Option.some_ne_none _)
    simp only [Option.toList_some, List.map_cons, List.head?_cons, Prog.run_bind]
    rfl

/-- What `join_group` comes to: a text and no change, or a new member. -/
inductive Joins (db : GroupDb) (g u : Nat) : Except String Unit → GroupDb → Prop
  | refused (error : String) : Joins db g u (.error error) db
  | joined {db' : GroupDb} (now : Int) (h : db.insertMember ⟨g, u, false, now⟩ = some db') :
      Joins db g u (.ok ()) db'

theorem run_addGroupMember {message : String} :
    (orFail message (request (.addGroupMember g u false))).run (alone ms) s =
      match (if (ms s.2).through 0 then
        s.1.insertMember ⟨g, u, false, (ms s.2).now⟩ else none) with
      | none => (.error message, s.1, s.2 + 1)
      | some db' => (.ok (), db', s.2 + 1) := by
  have hrun : (request (.addGroupMember g u false)).run (alone ms) s =
      ((reply (ms s.2) s.1 (.addGroupMember g u false)).1,
        (reply (ms s.2) s.1 (.addGroupMember g u false)).2, s.2 + 1) := rfl
  rw [orFail, Prog.run_bind, hrun, reply_addGroupMember]
  cases (if (ms s.2).through 0 then s.1.insertMember ⟨g, u, false, (ms s.2).now⟩ else none) <;> rfl

theorem run_joinGroup (ms : Nat → Moment) (s : GroupDb × Nat) (g u : Nat) :
    let r := (joinGroup g u).run (alone ms) s
    Joins s.1 g u r.1 r.2.1 ∧
      ((∀ k, (ms k).Healthy) → s.1.Joinable g u → r.1 = .ok ()) := by
  have hfound : alone ms s (.getGroupById g) = ((reply (ms s.2) s.1 (.getGroupById g)).1,
      s.1, s.2 + 1) := Prod.ext rfl (Prod.ext (reply_read rfl) rfl)
  have hrun : (request (.getGroupById g)).run (alone ms) s = alone ms s (.getGroupById g) := rfl
  rw [joinGroup, Prog.run_bind, hrun, hfound]
  simp only
  cases hgroup : (reply (ms s.2) s.1 (.getGroupById g)).1 with
  | none =>
    refine ⟨.refused "Group not found", fun hhealthy hjoin => ?_⟩
    have hsome := (getGroupById_isSome ((hhealthy s.2).2 0)).2 hjoin.1
    rw [hgroup] at hsome
    cases hsome
  | some group =>
    simp only [Option.isNone_some, Bool.false_eq_true, if_false, Prog.run_bind, run_isMember]
    by_cases hmember : (ms (s.2 + 1)).Sees (s.1.rank g u ≠ none)
    · rw [decide_eq_true hmember]
      exact ⟨.refused "Already a member", fun _ hjoin => absurd hjoin.2.2 hmember.2⟩
    · rw [decide_eq_false hmember]
      simp only [Bool.false_eq_true, if_false, run_addGroupMember]
      cases hinsert : (if (ms (s.2 + 1 + 1)).through 0 then
          s.1.insertMember ⟨g, u, false, (ms (s.2 + 1 + 1)).now⟩ else none) with
      | none =>
        refine ⟨.refused "Failed to join group", fun hhealthy hjoin => ?_⟩
        obtain ⟨db', hdb'⟩ := Option.isSome_iff_exists.1 (insertMember_isSome.2 hjoin)
        rw [if_pos ((hhealthy _).2 0), hdb'] at hinsert
        cases hinsert
      | some db' =>
        exact ⟨.joined _ (Option.ite_none_right_eq_some.1 hinsert).2, fun _ _ => rfl⟩

/-! ## All users of the list -/

/-- The users `joined` of the list have become plain members of the group, and nobody else has
    joined or left any group. -/
structure Invited (db db' : GroupDb) (g : Nat) (userIds joined : List Nat) : Prop where
  listed : joined.Sublist userIds
  once : joined.Nodup
  joinable : ∀ u ∈ joined, db.Joinable g u
  ranks : ∀ k u, db'.rank k u = if k = g ∧ u ∈ joined then some false else db.rank k u

theorem invited_nil : Invited db db g [] [] :=
  ⟨.refl _, List.nodup_nil, fun _ h => absurd h List.not_mem_nil,
    fun _ _ => (if_neg fun h => absurd h.2 List.not_mem_nil).symm⟩

variable {userIds joined : List Nat}

/-- A user who could not join. -/
theorem Invited.skip (h : Invited db db' g userIds joined) :
    Invited db db' g (u :: userIds) joined :=
  ⟨h.listed.cons u, h.once, h.joinable, h.ranks⟩

theorem joinable_insertMember {db₁ : GroupDb} {now : Int}
    (h : db.insertMember ⟨g, u, false, now⟩ = some db₁) (v : Nat) :
    db₁.Joinable g v ↔ v ≠ u ∧ db.Joinable g v := by
  have husers : db₁.userExists v ↔ db.userExists v := by
    rw [GroupDb.userExists, GroupDb.userExists, (GroupDb.insertMember_eq_some h).1]
  rw [GroupDb.Joinable, GroupDb.Joinable, GroupDb.owner_insertMember h, husers,
    GroupDb.rank_insertMember h]
  by_cases hv : v = u
  · subst hv
    simp [MemberRow.key]
  · simp [MemberRow.key, hv]

/-- A user who has joined before the others. -/
theorem Invited.join {db₁ : GroupDb} {now : Int}
    (hjoin : db.insertMember ⟨g, u, false, now⟩ = some db₁)
    (h : Invited db₁ db' g userIds joined) : Invited db db' g (u :: userIds) (u :: joined) := by
  have hfirst : db.Joinable g u :=
    insertMember_isSome.1 (Option.isSome_of_mem hjoin)
  have hothers : ∀ v ∈ joined, v ≠ u ∧ db.Joinable g v := fun v hv =>
    (joinable_insertMember hjoin v).1 (h.joinable v hv)
  refine ⟨h.listed.cons_cons u, ?_, ?_, fun k v => ?_⟩
  · exact List.nodup_cons.2 ⟨fun hu => (hothers u hu).1 rfl, h.once⟩
  · exact List.forall_mem_cons.2 ⟨hfirst, fun v hv => (hothers v hv).2⟩
  · rw [h.ranks, GroupDb.rank_insertMember hjoin]
    by_cases hk : k = g <;> by_cases hv : v = u <;> simp [MemberRow.key, hk, hv]

/-- The loop goes on after a failure, and remembers it. -/
theorem run_joinAll (ms : Nat → Moment) (g : Nat) (allSuccess : Bool) (userIds : List Nat)
    (s : GroupDb × Nat) :
    let r := (joinAll g allSuccess userIds).run (alone ms) s
    ∃ joined, Invited s.1 r.2.1 g userIds joined ∧
      (r.1 = true ↔ allSuccess = true ∧ joined = userIds) ∧
      ((∀ k, (ms k).Healthy) → ∀ u ∈ userIds, s.1.Joinable g u → u ∈ joined) := by
  induction userIds generalizing allSuccess s with
  | nil =>
    refine ⟨[], invited_nil, ?_, fun _ u hu => absurd hu List.not_mem_nil⟩
    exact (and_iff_left rfl).symm
  | cons u userIds ih =>
    obtain ⟨hjoins, hhealthy⟩ := run_joinGroup ms s g u
    simp only
    rw [joinAll, Prog.run_bind]
    generalize (joinGroup g u).run (alone ms) s = r at hjoins hhealthy
    obtain ⟨result, db₁, n⟩ := r
    simp only at hjoins hhealthy
    cases hjoins with
    | refused error =>
      obtain ⟨joined, hinvited, hanswer, hall⟩ := ih false (s.1, n)
      refine ⟨joined, hinvited.skip, ?_, fun hms v hv hjoin => ?_⟩
      · refine iff_of_false (fun h => Bool.false_ne_true (hanswer.1 h).1) fun h => ?_
        have hshort := hinvited.listed.length_le
        rw [h.2, List.length_cons] at hshort
        omega
      · rcases List.mem_cons.1 hv with rfl | hv
        · cases hhealthy hms hjoin
        · exact hall hms v hv hjoin
    | joined now hinsert =>
      obtain ⟨joined, hinvited, hanswer, hall⟩ := ih allSuccess (db₁, n)
      refine ⟨u :: joined, hinvited.join hinsert, ?_, fun hms v hv hjoin => ?_⟩
      · rw [List.cons_inj_right]
        exact hanswer
      · by_cases hvu : v = u
        · exact hvu ▸ List.mem_cons_self
        · have hrest : v ∈ userIds := (List.mem_cons.1 hv).resolve_left hvu
          exact List.mem_cons_of_mem u
            (hall hms v hrest ((joinable_insertMember hinsert v).2 ⟨hvu, hjoin⟩))

/-- The notifications only read. -/
theorem run_notifyAll (connected : Nat → Bool) (inviterId g : Nat) (userIds : List Nat)
    (s : GroupDb × Nat) :
    ((notifyAll connected inviterId g userIds).run (alone ms) s).2.1 = s.1 := by
  induction userIds generalizing s with
  | nil => rfl
  | cons u userIds ih =>
    unfold notifyAll
    split
    · rw [Prog.run_bind, Prog.run_bind]
      have hread : ((getGroupInfo g).run (alone ms) s).2.1 = s.1 := reply_read rfl
      exact (ih _).trans hread
    · exact ih s

/-- The answer is true exactly if all users of the list have joined, and then all of them are
    members. In any case those who have joined are plain members, no other membership of any group
    has changed, and who could join and met no failing statement has joined. -/
theorem invite_joins (db : GroupDb) (ms : Nat → Moment) (connected : Nat → Bool)
    (inviterId g : Nat) (userIds : List Nat) :
    let r := (handleInviteGroupMembers connected inviterId g userIds).run (alone ms) (db, 0)
    ∃ success joined, r.1.head? = some (.inviteGroupMembersResponse success) ∧
      Invited db r.2.1 g userIds joined ∧ (success = true ↔ joined = userIds) ∧
      (success = true → ∀ u ∈ userIds, r.2.1.rank g u ≠ none) ∧
      ((∀ k, (ms k).Healthy) → ∀ u ∈ userIds, db.Joinable g u → u ∈ joined) := by
  obtain ⟨joined, hinvited, hanswer, hall⟩ := run_joinAll ms g true userIds (db, 0)
  have hmembers : ∀ {db' : GroupDb}, Invited db db' g userIds joined → joined = userIds →
      ∀ u ∈ userIds, db'.rank g u ≠ none := by
    intro db' h heq u hu
    rw [h.ranks, if_pos ⟨rfl, heq ▸ hu⟩]
    exact Option.some_ne_none _
  rw [handleInviteGroupMembers]
  simp only [Prog.run_bind]
  generalize (joinAll g true userIds).run (alone ms) (db, 0) = r at hinvited hanswer
  obtain ⟨allSuccess, s⟩ := r
  simp only [true_and] at hinvited hanswer
  cases allSuccess with
  | false =>
    exact ⟨false, joined, rfl, hinvited, hanswer, fun h => absurd h Bool.false_ne_true, hall⟩
  | true =>
    have hreads := @run_notifyAll ms connected inviterId g userIds s
    rw [← hreads] at hinvited
    refine ⟨true, joined, ?_, ?_, hanswer, fun h => ?_, hall⟩
    · simp only [if_true, Prog.run_bind]
      rfl
    · simp only [if_true, Prog.run_bind]
      exact hinvited
    · simp only [if_true, Prog.run_bind]
      exact hmembers hinvited (hanswer.1 h)

/-- User 1 invites 2 and an unknown user into his group: the answer is false, and 2 has joined. -/
theorem invite_half : ¬ ∀ (db : GroupDb) (ms : Nat → Moment) (connected : Nat → Bool)
    (inviterId g : Nat) (userIds : List Nat),
    let r := (handleInviteGroupMembers connected inviterId g userIds).run (alone ms) (db, 0)
    r.1.head? = some (.inviteGroupMembersResponse false) →
      ∀ k u, r.2.1.rank k u = db.rank k u := by
  intro h
  have hunchanged := h ((GroupDb.fresh threeUsers).perform (.create 1 "g" "") fun _ =>
    momentOf true).2 (fun _ => momentOf true) (fun _ => false) 1 1 [2, 9] (by decide) 1 2
  revert hunchanged
  decide

end ChatApp.Groups
