/-
  What an operation of `FriendManager` that returns false leaves behind, and which requests get
  through. Every call of `Database` is made in circumstances of its own, so a statement can fail
  for an outside reason; a fault between the two statements of an acceptance is the one way to
  leave a trace of a refused operation. The INSERT also fails at a row that is already there, so
  that two crossing requests are enough.
-/
import ChatApp.Friends.Consent

namespace ChatApp.Friends

open ChatApp.Lib ChatApp.Database ChatApp.Session

namespace FriendOp

/-- The operation over whole methods of `Database`. -/
def task : FriendOp → FriendM (Except String Unit)
  | .add userId friendId => FriendM.addFriendRequest userId friendId
  | .accept userId friendId => FriendM.acceptFriendRequest userId friendId
  | .reject userId friendId => FriendM.rejectFriendRequest userId friendId
  | .remove userId friendId => FriendM.removeFriend userId friendId
  | .setRemark userId friendId remark => FriendM.setFriendRemark userId friendId remark

/-- The operations of the manager, method by method. -/
theorem expand_task (op : FriendOp) : Methods.expand op.task = db op.prog := by
  cases op with
  | add a b => exact FriendM.expand_addFriendRequest a b
  | accept a b => exact FriendM.expand_acceptFriendRequest a b
  | reject a b => exact FriendM.expand_rejectFriendRequest a b
  | remove a b => exact FriendM.expand_removeFriend a b
  | setRemark a b remark => exact FriendM.expand_setFriendRemark a b remark

end FriendOp

/-! ## An operation alone -/

/-- The n-th call of an operation finds the circumstances `xs n`. -/
def onOccasions (xs : Nat → Occasion) (s : Nat × FriendDb) (c : MethodCall friendMethods) :
    c.Answer × Nat × FriendDb :=
  let r := reply (xs s.1) s.2 c
  (r.1, s.1 + 1, r.2)

/-- The operation from beginning to end: what it returns, and the tables after it. -/
def FriendOp.tried (op : FriendOp) (xs : Nat → Occasion) (db : FriendDb) :
    Except Stop (Except String Unit) × FriendDb :=
  let r := Prog.run (onOccasions xs) op.task.run (0, db)
  (r.1, r.2.2)

/-- `FriendManager` returns false, with a text in `error`. -/
def Refused (r : Except Stop (Except String Unit)) : Prop := ∃ message, r = .ok (.error message)

/-- The tables after the operations, one at a time. -/
def afterTries (users : Users) (ops : List (FriendOp × (Nat → Occasion))) : FriendDb :=
  ops.foldl (fun db op => (op.1.tried op.2 db).2) (.fresh users)

section
variable {xs : Nat → Occasion} {s : Nat × FriendDb} {α β : Type}

/-- An operation that begins with a call of a method. -/
theorem try_request {c : FriendMethod} {f : c.Answer → FriendM β} {a : c.Answer} {db : FriendDb}
    (h : reply (xs s.1) s.2 (.method c) = (a, db)) :
    Prog.run (onOccasions xs) (FriendM.request c >>= f).run s =
      Prog.run (onOccasions xs) (f a).run (s.1 + 1, db) := by
  show Prog.run (onOccasions xs) (f (reply (xs s.1) s.2 (.method c)).1).run
    (s.1 + 1, (reply (xs s.1) s.2 (.method c)).2) = _
  rw [h]

theorem try_bind (p : FriendM α) (f : α → FriendM β) :
    Prog.run (onOccasions xs) (p >>= f).run s =
      match Prog.run (onOccasions xs) p.run s with
      | (.ok a, s') => Prog.run (onOccasions xs) (f a).run s'
      | (.error stop, s') => (.error stop, s') := by
  rw [Prog.run_bindE, Prog.run_bind]
  cases Prog.run (onOccasions xs) p.run s with
  | mk r s' => cases r <;> rfl

end

section
variable (xs : Nat → Occasion) (db : FriendDb) (a b : Nat)

/-- The list that an operation looks through, and whether the request of `b` is in it. -/
theorem try_getFriendRequests (s : Nat × FriendDb) :
    Prog.run (onOccasions xs) (FriendM.getFriendRequests a).run s =
      (.ok (if (xs s.1).moment.through 0 then s.2.requests a else []), s.1 + 1, s.2) := by
  rw [FriendM.getFriendRequests, try_request (reply_getFriendRequests _ _ a)]
  rfl

theorem requestedBy_seen (sees : Bool) :
    FriendManager.requestedBy (if sees then db.requests a else []) b =
      (sees && decide (db.status b a = some .pending)) := by
  cases sees with
  | false => rfl
  | true => exact FriendDb.requestedBy_requests

theorem tried_accept : (FriendOp.accept a b).tried xs db =
    if (xs 0).moment.through 0 ∧ db.status b a = some .pending then
      let r := reply (xs 1) db (.method (.acceptFriendRequest a b))
      (.ok (if r.1 = true then .ok () else .error "Failed to accept friend request"), r.2)
    else (.ok (.error "No such friend request"), db) := by
  simp only [FriendOp.tried, FriendOp.task, FriendM.acceptFriendRequest, try_bind,
    try_getFriendRequests, requestedBy_seen]
  cases (xs 0).moment.through 0 with
  | false => rfl
  | true =>
    by_cases hpen : db.status b a = some .pending
    case neg => simp [hpen]
    simp only [hpen, decide_true, Bool.and_true, Bool.not_true, Bool.false_eq_true, if_false,
      and_self, if_true]
    rw [try_request (Prod.eta _).symm]
    cases (reply (xs 1) db (.method (.acceptFriendRequest a b))).1 <;> simp

end

/-! ## Traces of a refused operation -/

/-- An acceptance that has seen the pending request comes to a stop between its statements: the
    UPDATE gets through, and the INSERT fails at a row that is there or for an outside reason. -/
def FriendOp.HalfAccepts (op : FriendOp) (xs : Nat → Occasion) (db : FriendDb) : Prop :=
  ∃ a b, op = .accept a b ∧ db.status b a = some .pending ∧ (xs 0).moment.through 0 = true ∧
    (xs 1).moment.through 0 = true ∧ ((xs 1).moment.through 1 = true → db.status a b ≠ none)

section
variable {xs : Nat → Occasion} {db : FriendDb} {a b : Nat}

/-- Both users exist when a request is pending, so that only the key can refuse the row. -/
theorem acceptInsert_eq_none {x : Occasion} (hpen : db.status b a = some .pending) :
    acceptInsert x db a b = none ↔ (x.moment.through 1 = true → db.status a b ≠ none) := by
  have husers : db.userExists b ∧ db.userExists a :=
    FriendDb.exists_of_status (hpen ▸ Option.some_ne_none _)
  have hfind : (db.setStatus (b, a) .accepted x.moment.now).friends.find? (a, b) ≠ none ↔
      db.status a b ≠ none := by
    rw [FriendDb.setStatus, FriendDb.find?_updateFriend, FriendDb.status]
    split <;> simp
  unfold acceptInsert
  cases x.moment.through 1 with
  | false => simp
  | true =>
    rw [if_pos rfl, FriendDb.insertFriend_eq_none, pair, hfind]
    have hexists : (db.setStatus (b, a) .accepted x.moment.now).userExists a ∧
        (db.setStatus (b, a) .accepted x.moment.now).userExists b := husers.symm
    simp [hexists]

theorem not_refused_ok : ¬ Refused (.ok (.ok ())) := by
  rintro ⟨message, h⟩
  cases h

/-- What an acceptance returns is whether it got through, and where it stopped it left a trace. -/
theorem accept_unchanged_iff :
    (Refused ((FriendOp.accept a b).tried xs db).1 →
      ((FriendOp.accept a b).tried xs db).2.friends = db.friends) ↔
    ¬ (FriendOp.accept a b).HalfAccepts xs db := by
  have hhalf : (FriendOp.accept a b).HalfAccepts xs db ↔ ((xs 0).moment.through 0 = true ∧
      db.status b a = some .pending) ∧ (xs 1).moment.through 0 = true ∧
        ((xs 1).moment.through 1 = true → db.status a b ≠ none) := by
    constructor
    · rintro ⟨_, _, heq, hpen, hsees, hrest⟩
      cases heq
      exact ⟨⟨hsees, hpen⟩, hrest⟩
    · rintro ⟨⟨hsees, hpen⟩, hrest⟩
      exact ⟨a, b, rfl, hpen, hsees, hrest⟩
  rw [hhalf, tried_accept]
  split
  case isFalse hseen => exact iff_of_true (fun _ => rfl) fun h => hseen h.1
  case isTrue hseen =>
    simp only [reply_acceptFriendRequest, hseen, and_self, true_and]
    cases (xs 1).moment.through 0 with
    | false => exact iff_of_true (fun _ => rfl) fun h => absurd h.1 Bool.false_ne_true
    | true =>
      rw [← acceptInsert_eq_none hseen.2]
      cases hins : acceptInsert (xs 1) db a b with
      | some db' => exact iff_of_true (fun h => absurd h not_refused_ok) (by simp)
      | none =>
        refine iff_of_false (fun h => ?_) (by simp)
        -- the row of `b` has been rewritten
        have hfriends : (db.setStatus (b, a) .accepted (xs 1).moment.now).friends = db.friends :=
          h ⟨_, rfl⟩
        have hstatus : (db.setStatus (b, a) .accepted (xs 1).moment.now).status b a =
            db.status b a := by
          rw [FriendDb.status, hfriends, FriendDb.status]
        rw [FriendDb.status_setStatus, if_pos rfl, hseen.2] at hstatus
        cases hstatus

/-- An operation that is refused has left these tables. -/
def Leaves (xs : Nat → Occasion) (db : FriendDb) (p : FriendM (Except String Unit))
    (s : Nat × FriendDb) : Prop :=
  Refused (Prog.run (onOccasions xs) p.run s).1 → (Prog.run (onOccasions xs) p.run s).2.2 = db

theorem leaves_pure {r : Except String Unit} {n : Nat} : Leaves xs db (pure r) (n, db) :=
  fun _ => rfl

theorem leaves_ite {A : Prop} [Decidable A] {p q : FriendM (Except String Unit)}
    {s : Nat × FriendDb} (hp : Leaves xs db p s) (hq : Leaves xs db q s) :
    Leaves xs db (if A then p else q) s := by
  split
  · exact hp
  · exact hq

theorem leaves_request {c : FriendMethod} {f : c.Answer → FriendM (Except String Unit)}
    {s : Nat × FriendDb} {r : c.Answer × FriendDb} (h : reply (xs s.1) s.2 (.method c) = r)
    (hf : Leaves xs db (f r.1) (s.1 + 1, r.2)) : Leaves xs db (FriendM.request c >>= f) s := by
  unfold Leaves
  rw [try_request (h.trans (Prod.eta r).symm)]
  exact hf

/-- The only statement that writes is the last of the operation. -/
theorem leaves_last {done : Bool} {message : String} {db' : FriendDb} {n : Nat} :
    Leaves xs db (if !done then pure (.error message) else pure (.ok ()))
      (n, if done then db' else db) := by
  cases done with
  | false => exact leaves_pure
  | true => exact fun h => absurd h not_refused_ok

theorem leaves_add : Leaves xs db (FriendOp.add a b).task (0, db) := by
  refine leaves_ite leaves_pure (leaves_request rfl ?_)
  rw [reply_getUserById]
  refine leaves_ite leaves_pure (leaves_request (reply_isFriend _ _ a b) ?_)
  refine leaves_ite leaves_pure ?_
  unfold Leaves
  rw [try_bind, try_getFriendRequests]
  refine leaves_ite leaves_pure (leaves_request (reply_addFriendRequest _ _ a b) ?_)
  dsimp only
  cases (if (xs 3).moment.through 0 then
    db.insertFriend ⟨a, b, "", .pending, (xs 3).moment.now, (xs 3).moment.now⟩ else none) with
  | none => exact leaves_pure
  | some db' => exact fun h => absurd h not_refused_ok

theorem leaves_reject : Leaves xs db (FriendOp.reject a b).task (0, db) :=
  leaves_request (reply_rejectFriendRequest _ _ a b) leaves_last

theorem leaves_remove : Leaves xs db (FriendOp.remove a b).task (0, db) :=
  leaves_request (reply_isFriend _ _ a b) (leaves_ite leaves_pure
    (leaves_request (reply_removeFriend _ _ a b) leaves_last))

theorem leaves_setRemark {remark : String} :
    Leaves xs db (FriendOp.setRemark a b remark).task (0, db) :=
  leaves_request (reply_isFriend _ _ a b) (leaves_ite leaves_pure
    (leaves_request (reply_setFriendRemark _ _ a b remark) leaves_last))

end

/-- An operation that returns false has left `friends` as it was, if and only if it is not an
    acceptance that stops between its statements. -/
theorem refused_unchanged_iff (users : Users) (ops : List (FriendOp × (Nat → Occasion)))
    (op : FriendOp) (xs : Nat → Occasion) :
    (Refused (op.tried xs (afterTries users ops)).1 →
      (op.tried xs (afterTries users ops)).2.friends = (afterTries users ops).friends) ↔
    ¬ op.HalfAccepts xs (afterTries users ops) := by
  generalize afterTries users ops = db
  have hother : Leaves xs db op.task (0, db) → (∀ a b, op ≠ .accept a b) →
      ((Refused (op.tried xs db).1 → (op.tried xs db).2.friends = db.friends) ↔
        ¬ op.HalfAccepts xs db) := by
    intro hleaves hop
    refine iff_of_true (fun h => congrArg FriendDb.friends (hleaves h)) ?_
    rintro ⟨a, b, heq, -⟩
    exact hop a b heq
  cases op with
  | add a b => exact hother leaves_add fun _ _ h => by cases h
  | accept a b => exact accept_unchanged_iff
  | reject a b => exact hother leaves_reject fun _ _ h => by cases h
  | remove a b => exact hother leaves_remove fun _ _ h => by cases h
  | setRemark a b remark => exact hother leaves_setRemark fun _ _ h => by cases h

/-- Two requests that cross; user 2 accepts, and is told that it failed. -/
theorem crossing_accept_changes :
    ¬ ∀ (users : Users) (ops : List (FriendOp × (Nat → Occasion))) (op : FriendOp)
      (xs : Nat → Occasion), Refused (op.tried xs (afterTries users ops)).1 →
        (op.tried xs (afterTries users ops)).2.friends = (afterTries users ops).friends := by
  intro h
  have hsame := h twoUsers [(.add 1 2, fun _ => calmly), (.add 2 1, fun _ => calmly)] (.accept 2 1)
    (fun _ => calmly) ⟨"Failed to accept friend request", rfl⟩
  have hstatus := congrArg (fun t : UniqueTable pair => (t.find? (1, 2)).map (·.status)) hsame
  revert hstatus
  decide

/-! ## Requests that get through -/

/-- How often the list that `get_friend_requests(b)` returns names `a`. -/
def FriendDb.listed (db : FriendDb) (now : Int) (b a : Nat) : Nat :=
  ((FriendManager.getFriendRequests b).run (sql now) db.idle).1.countP fun x =>
    decide (x.1.userId = a)

section
variable {db : FriendDb} {a b : Nat}

/-- A join gives each row of `friends` at most once. -/
theorem snd_join_sublist {id : FriendRelation → Nat} {p : FriendRelation → Bool} :
    ((db.join id p).map Prod.snd).Sublist db.friends.rows := by
  have hrows : ∀ rows : List FriendRelation, ((rows.filterMap fun r =>
      (db.users.find? (id r)).map (·, r)).map Prod.snd).Sublist rows := by
    intro rows
    induction rows with
    | nil => exact .slnil
    | cons r rows ih =>
      rw [List.filterMap_cons]
      cases db.users.find? (id r) with
      | none => exact ih.cons r
      | some u => exact ih.cons_cons r
  exact (hrows _).trans List.filter_sublist

/-- Nobody is in the list twice, since a row has the key (user_id, friend_id). -/
theorem listed_of_pending (now : Int) (h : db.status a b = some .pending) :
    db.listed now b a = 1 := by
  have hids : ∀ x ∈ db.requests b, decide (x.1.userId = a) = true ↔
      (pair x.2 == (a, b)) = true := by
    rintro ⟨u, r⟩ hx
    obtain ⟨-, hp, hu⟩ := FriendDb.mem_join.1 hx
    have hp : r.friendId = b ∧ r.status = .pending := of_decide_eq_true hp
    have hid : u.userId = r.userId := (UniqueTable.mem_of_find? hu).2
    simp [pair, hid, hp.1]
  have hkeys : (((db.requests b).map Prod.snd).map pair).Nodup :=
    db.friends.unique.sublist (snd_join_sublist.map pair)
  have hmem : (a, b) ∈ ((db.requests b).map Prod.snd).map pair := by
    obtain ⟨r, hr, hpair, hs⟩ := FriendDb.status_eq_some.1 h
    obtain ⟨rfl, rfl⟩ := Prod.mk.inj hpair
    obtain ⟨u, hu⟩ := Option.isSome_iff_exists.1 (db.references r hr).1
    have hjoin : (u, r) ∈ db.requests r.friendId :=
      FriendDb.mem_join.2 ⟨hr, decide_eq_true ⟨rfl, hs⟩, hu⟩
    exact List.mem_map_of_mem (List.mem_map_of_mem hjoin)
  have hcount := List.count_eq_one_of_mem hkeys hmem
  rw [List.count, List.countP_map, List.countP_map] at hcount
  rw [FriendDb.listed, FriendDb.run_getFriendRequests', List.countP_congr hids]
  exact hcount

end

/-- A request that passes the checks gets through exactly if there is no row for it. -/
theorem request_listed_of_row (db : FriendDb) (now later : Int) {a b : Nat} (hab : a ≠ b)
    (ha : db.userExists a) (hb : db.userExists b) (hfriends : db.isFriend a b = false)
    (hpending : db.status a b ≠ some .pending) :
    ((db.perform (.add a b) now).1 = .ok () ∧
      (db.perform (.add a b) now).2.listed later b a = 1) ↔ db.status a b = none := by
  rw [FriendDb.isFriend_eq, decide_eq_false_iff_not] at hfriends
  rw [FriendDb.perform_add, if_neg hab, if_neg (not_not.2 hb), if_neg hfriends, if_neg hpending]
  have hrow : db.insertFriend ⟨a, b, "", .pending, now, now⟩ = none ↔ db.status a b ≠ none := by
    rw [FriendDb.insertFriend_eq_none, FriendDb.status, pair]
    simp [ha, hb]
  cases hins : db.insertFriend ⟨a, b, "", .pending, now, now⟩ with
  | none => exact iff_of_false (fun h => by cases h.1) (hrow.1 hins)
  | some db' =>
    have hnone : db.status a b = none := by
      by_contra hsome
      rw [hrow.2 hsome] at hins
      cases hins
    have hstatus : db'.status a b = some .pending :=
      (FriendDb.status_insertFriend hins).trans (if_pos rfl)
    exact iff_of_true ⟨rfl, listed_of_pending later hstatus⟩ hnone

/-- No operation sets the status 3. -/
theorem status_ne_deleted (users : Users) (ops : List (FriendOp × Int)) (a b : Nat) :
    (after users ops).status a b ≠ some .deleted := by
  induction ops using List.reverseRecOn generalizing a b with
  | nil => exact fun h => by cases h
  | append_singleton ops op ih =>
    rw [after_snoc]
    have hstep : Statuses.StatusStep op.1 (after users ops).status
        ((after users ops).perform op.1 op.2).2.status :=
      FriendDb.statusStep_perform (noSelf_after users ops) op.1
    have hprev := ih a b
    generalize ((after users ops).perform op.1 op.2).2.status = σ' at hstep ⊢
    generalize (after users ops).status = σ at hstep hprev
    obtain ⟨op, now⟩ := op
    cases op with
    | add u v =>
      rcases hstep with rfl | ⟨-, -, rfl⟩
      · exact hprev
      · grind [Statuses.set]
    | accept u v =>
      obtain rfl : σ' = _ := hstep
      grind [Statuses.set]
    | reject u v =>
      obtain rfl : σ' = _ := hstep
      cases hrow : σ v u <;> grind [Statuses.set]
    | remove u v =>
      obtain rfl : σ' = _ := hstep
      grind [Statuses.set]
    | setRemark u v remark =>
      obtain rfl : σ' = σ := hstep
      exact hprev

/-- A request of `a` to `b`, who are not friends and between whom no request of `a` is open, gets
    through and is listed once, if and only if `b` has not rejected an earlier one. -/
theorem request_listed_iff (users : Users) (ops : List (FriendOp × Int)) (now later : Int)
    {a b : Nat} (hab : a ≠ b) (ha : (after users ops).userExists a)
    (hb : (after users ops).userExists b) (hfriends : (after users ops).isFriend a b = false)
    (hpending : (after users ops).status a b ≠ some .pending) :
    (((after users ops).perform (.add a b) now).1 = .ok () ∧
      ((after users ops).perform (.add a b) now).2.listed later b a = 1) ↔
    (after users ops).status a b ≠ some .rejected := by
  rw [request_listed_of_row _ now later hab ha hb hfriends hpending]
  rw [FriendDb.isFriend_eq, decide_eq_false_iff_not] at hfriends
  have hdeleted := status_ne_deleted users ops a b
  cases hs : (after users ops).status a b with
  | none => simp
  | some s => cases s <;> simp_all

/-- A second request, after the first was accepted and the friendship ended. -/
theorem request_listed_again :
    ((after twoUsers [(.add 1 2, 0), (.accept 2 1, 1), (.remove 1 2, 2)]).perform (.add 1 2) 3).1 =
      .ok () ∧
    ((after twoUsers [(.add 1 2, 0), (.accept 2 1, 1), (.remove 1 2, 2)]).perform
      (.add 1 2) 3).2.listed 4 2 1 = 1 :=
  (request_listed_iff twoUsers [(.add 1 2, 0), (.accept 2 1, 1), (.remove 1 2, 2)] 3 4 (by decide)
    (by decide) (by decide) (by decide) (by decide)).2 (by decide)

/-- User 2 rejects the request of user 1, who can never ask again. -/
theorem rejected_request_stays :
    ¬ ∀ (users : Users) (ops : List (FriendOp × Int)) (now later : Int) (a b : Nat), a ≠ b →
      (after users ops).userExists a → (after users ops).userExists b →
      (after users ops).isFriend a b = false → (after users ops).status a b ≠ some .pending →
      ((after users ops).perform (.add a b) now).1 = .ok () ∧
        ((after users ops).perform (.add a b) now).2.listed later b a = 1 := by
  intro h
  have hrefused := (h twoUsers [(.add 1 2, 0), (.reject 2 1, 1)] 2 3 1 2 (by decide) (by decide)
    (by decide) (by decide) (by decide)).1
  revert hrefused
  decide

end ChatApp.Friends
