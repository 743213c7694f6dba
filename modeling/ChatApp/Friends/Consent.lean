/-
  Nobody becomes a friend without having acted, in any interleaving. A row of `friends` is
  pending only after a request by its user (`asked_of_pending`), and accepted only after a call of
  `Database::accept_friend_request`. That call is made by an acceptance that has seen the pending
  row, or by the bot in a request that has just been stored (`Accepts`).
-/
import ChatApp.Friends.Methods
import ChatApp.Friends.Symmetry

namespace ChatApp.Friends

open ChatApp.Lib ChatApp.Database ChatApp.Session

/-! ## What a call does to the status of a row -/

section
variable (x : Occasion) (db : FriendDb)

theorem reply_getUserById (u : Nat) : (reply x db (.method (.getUserById u))).2 = db :=
  congrArg Prod.snd (atomically_ensured (fun row => row.map Row.user) none rfl
    (show FriendDb.execute db (.users (.byId u)) = some (db, _, 0) from rfl))

theorem reply_isFriend (u v : Nat) : reply x db (.method (.isFriend u v)) =
    (x.moment.through 0 && decide (db.status u v = some .accepted), db) := by
  have hcount : (0 < db.friends.rows.countP fun r =>
      decide (pair r = (u, v) ∧ r.status = .accepted)) ↔ db.status u v = some .accepted := by
    simp [List.countP_pos_iff, FriendDb.status_eq_some]
  refine (atomically_selectFirst countPositive rfl
    (show FriendDb.execute db (.friends (.countAccepted u v)) = some (db, _, 0) from rfl)).trans ?_
  cases x.moment.through 0 with
  | false => rfl
  | true => simp [countPositive, Row.stoll, Row.cell, ← hcount]

theorem reply_getFriendList (u : Nat) : (reply x db (.method (.getFriendList u))).2 = db :=
  congrArg Prod.snd (atomically_select
    (fun result => (result.isSome, (result.getD []).map fun row : Row =>
      (row.user, relationOf u row.user.userId row))) rfl
    (show FriendDb.execute db (.friends (.listAccepted u)) = some (db, _, 0) from rfl))

/-- The list of requests is that of the table, or empty. -/
theorem reply_getFriendRequests (u : Nat) : reply x db (.method (.getFriendRequests u)) =
    ((x.moment.through 0, if x.moment.through 0 then db.requests u else []), db) := by
  refine (atomically_select
    (fun result => (result.isSome, (result.getD []).map fun row : Row =>
      (row.user, relationOf row.user.userId u row))) rfl
    (show FriendDb.execute db (.friends (.listRequests u)) = some (db, (db.requests u).map
      fun x => FriendDb.relationRow x.1 x.2, 0) from rfl)).trans ?_
  cases x.moment.through 0 with
  | false => rfl
  | true => exact congrArg (fun requests => ((true, requests), db)) (map_requests db u)

theorem reply_addFriendRequest (u v : Nat) : reply x db (.method (.addFriendRequest u v)) =
    match (if x.moment.through 0 then
      db.insertFriend ⟨u, v, "", .pending, x.moment.now, x.moment.now⟩ else none) with
    | none => (false, db)
    | some db' => (true, db') := by
  refine (atomically_executeNow rfl).trans ?_
  cases x.moment.through 0 with
  | false => rfl
  | true =>
    simp only [if_true, FriendDb.execute, FriendDb.exec, FriendDb.execFriends]
    cases db.insertFriend ⟨u, v, "", .pending, x.moment.now, x.moment.now⟩ <;> rfl

theorem reply_rejectFriendRequest (u v : Nat) :
    reply x db (.method (.rejectFriendRequest u v)) =
      (x.moment.through 0,
        if x.moment.through 0 then db.setStatus (v, u) .rejected x.moment.now else db) := by
  refine (atomically_executeNow rfl).trans ?_
  cases x.moment.through 0 <;> rfl

theorem reply_removeFriend (u v : Nat) : reply x db (.method (.removeFriend u v)) =
    (x.moment.through 0, if x.moment.through 0 then db.deleteBoth u v else db) := by
  refine (atomically_execute rfl).trans ?_
  cases x.moment.through 0 <;> rfl

theorem reply_setFriendRemark (u v : Nat) (remark : String) :
    reply x db (.method (.setFriendRemark u v remark)) =
      (x.moment.through 0,
        if x.moment.through 0 then db.setRemark (u, v) remark x.moment.now else db) := by
  refine (atomically_executeNow rfl).trans ?_
  cases x.moment.through 0 <;> rfl

/-- The INSERT of an acceptance, after its UPDATE: the tables, if it succeeds. -/
def acceptInsert (u v : Nat) : Option FriendDb :=
  if x.moment.through 1 then
    (db.setStatus (v, u) .accepted x.moment.now).insertFriend
      ⟨u, v, "", .accepted, x.moment.now, x.moment.now⟩
  else none

/-- An acceptance stops at the first of its two statements that fails. -/
theorem reply_acceptFriendRequest (u v : Nat) :
    reply x db (.method (.acceptFriendRequest u v)) =
      if x.moment.through 0 then
        ((acceptInsert x db u v).isSome,
          (acceptInsert x db u v).getD (db.setStatus (v, u) .accepted x.moment.now))
      else (false, db) := by
  have hset : FriendDb.execute db (.friends (.setStatus v u .accepted x.moment.now)) =
      some (db.setStatus (v, u) .accepted x.moment.now, [], 0) := rfl
  have hinsert : ∀ d : FriendDb,
      FriendDb.execute d (.friends (.insert u v .accepted x.moment.now)) =
      (d.insertFriend ⟨u, v, "", .accepted, x.moment.now, x.moment.now⟩).map (·, [], 0) := by
    intro d
    simp [FriendDb.execute, FriendDb.exec, FriendDb.execFriends, Function.comp_def]
  show atomically FriendDb.execute x.moment (Database.acceptFriendRequest u v) db = _
  simp only [atomically, Database.acceptFriendRequest, execute, serve_locked, Prog.run_bind,
    serve_getCurrentTimestamp]
  rw [serve_mysqlQuery rfl]
  simp only [Moment.send, hset]
  cases x.moment.through 0 with
  | false => rfl
  | true =>
    simp only [if_true, Bool.not_true, Bool.false_eq_true, if_false]
    rw [serve_mysqlQuery rfl]
    simp only [Moment.send, hinsert, Nat.zero_add, acceptInsert]
    cases x.moment.through 1 with
    | false => rfl
    | true =>
      cases (db.setStatus (v, u) .accepted x.moment.now).insertFriend
        ⟨u, v, "", .accepted, x.moment.now, x.moment.now⟩ <;> rfl

end

section
variable {x : Occasion} {db : FriendDb} {a b u v : Nat}

/-- How a call may leave the status of the row (a, b). -/
def StatusStep (x : Occasion) (db : FriendDb) (c : MethodCall friendMethods) (a b : Nat) : Prop :=
  let status := (reply x db c).2.status a b
  status = db.status a b ∨ status = none ∨ status = some .rejected ∨
    (status = some .pending ∧ c = .method (.addFriendRequest a b) ∧
      (reply x db (.method (.addFriendRequest a b))).1 = true) ∨
    (status = some .accepted ∧
      (c = .method (.acceptFriendRequest a b) ∨ c = .method (.acceptFriendRequest b a)))

theorem statusStep_of_eq {c : MethodCall friendMethods} (h : (reply x db c).2 = db) :
    StatusStep x db c a b := .inl (by rw [h])

theorem status_setStatus_or (s : FriendStatus) (now : Int) :
    (db.setStatus (u, v) s now).status a b = db.status a b ∨
      (db.setStatus (u, v) s now).status a b = some s ∧ (a, b) = (u, v) := by
  rw [FriendDb.status_setStatus]
  split
  case isFalse => exact .inl rfl
  case isTrue hab =>
    obtain ⟨rfl, rfl⟩ := Prod.mk.inj hab
    cases db.status a b with
    | none => exact .inl rfl
    | some _ => exact .inr ⟨rfl, rfl⟩

theorem statusStep_addFriendRequest : StatusStep x db (.method (.addFriendRequest u v)) a b := by
  have h := reply_addFriendRequest x db u v
  cases hins : (if x.moment.through 0 then
      db.insertFriend ⟨u, v, "", .pending, x.moment.now, x.moment.now⟩ else none) with
  | none =>
    rw [hins] at h
    exact statusStep_of_eq (congrArg Prod.snd h)
  | some db' =>
    rw [hins] at h
    have hdb' := (Option.ite_none_right_eq_some.1 hins).2
    by_cases hab : (a, b) = (u, v)
    · obtain ⟨rfl, rfl⟩ := Prod.mk.inj hab
      refine .inr (.inr (.inr (.inl ⟨?_, rfl, congrArg Prod.fst h⟩)))
      rw [h, FriendDb.status_insertFriend hdb']
      exact if_pos rfl
    · refine .inl ?_
      rw [h, FriendDb.status_insertFriend hdb']
      exact if_neg hab

theorem statusStep_acceptFriendRequest :
    StatusStep x db (.method (.acceptFriendRequest u v)) a b := by
  have h := congrArg Prod.snd (reply_acceptFriendRequest x db u v)
  cases hm : x.moment.through 0 with
  | false =>
    rw [hm] at h
    exact statusStep_of_eq h
  | true =>
    rw [hm, if_pos rfl] at h
    dsimp only at h
    -- the UPDATE of the request
    have hupdated : (reply x db (.method (.acceptFriendRequest u v))).2.status a b =
        (db.setStatus (v, u) .accepted x.moment.now).status a b →
          StatusStep x db (.method (.acceptFriendRequest u v)) a b := by
      intro heq
      rcases status_setStatus_or (u := v) (v := u) .accepted x.moment.now with hset | ⟨hset, hab⟩
      · exact .inl (heq.trans hset)
      · obtain ⟨rfl, rfl⟩ := Prod.mk.inj hab
        exact .inr (.inr (.inr (.inr ⟨heq.trans hset, .inr rfl⟩)))
    cases hins : acceptInsert x db u v with
    | none =>
      rw [hins] at h
      exact hupdated (by rw [h, Option.getD_none])
    | some db' =>
      rw [hins] at h
      have hdb' := (Option.ite_none_right_eq_some.1 hins).2
      by_cases hab : (a, b) = (u, v)
      · obtain ⟨rfl, rfl⟩ := Prod.mk.inj hab
        refine .inr (.inr (.inr (.inr ⟨?_, .inl rfl⟩)))
        rw [h, Option.getD_some, FriendDb.status_insertFriend hdb']
        exact if_pos rfl
      · refine hupdated ?_
        rw [h, Option.getD_some, FriendDb.status_insertFriend hdb']
        exact if_neg hab

theorem statusStep (x : Occasion) (db : FriendDb) (c : MethodCall friendMethods) (a b : Nat) :
    StatusStep x db c a b := by
  cases c with
  | outside => exact statusStep_of_eq rfl
  | method c =>
    cases c with
    | getUserById u => exact statusStep_of_eq (reply_getUserById x db u)
    | isFriend u v => exact statusStep_of_eq (congrArg Prod.snd (reply_isFriend x db u v))
    | getFriendList u => exact statusStep_of_eq (reply_getFriendList x db u)
    | getFriendRequests u =>
      exact statusStep_of_eq (congrArg Prod.snd (reply_getFriendRequests x db u))
    | addFriendRequest u v => exact statusStep_addFriendRequest
    | acceptFriendRequest u v => exact statusStep_acceptFriendRequest
    | rejectFriendRequest u v =>
      unfold StatusStep
      rw [reply_rejectFriendRequest]
      split
      case isFalse => exact .inl rfl
      case isTrue =>
        exact (status_setStatus_or .rejected x.moment.now).imp_right fun h => .inr (.inl h.1)
    | removeFriend u v =>
      unfold StatusStep
      rw [reply_removeFriend]
      split
      case isFalse => exact .inl rfl
      case isTrue =>
        rw [FriendDb.status_deleteBoth]
        split
        case isTrue => exact .inr (.inl rfl)
        case isFalse => exact .inl rfl
    | setFriendRemark u v remark =>
      unfold StatusStep
      rw [reply_setFriendRemark]
      split
      case isFalse => exact .inl rfl
      case isTrue => exact .inl FriendDb.status_setRemark

end

/-! ## The history of a friendship -/

abbrev FriendEvent (θ : Type) :=
  Event friendMethods.interface FriendDb θ FriendTask fun op => Except Stop op.Result

/-- A request by `a` to `b` was stored. -/
def Asked {θ : Type} (l : List (FriendEvent θ)) (a b : Nat) : Prop :=
  ∃ t op db db', .call t op db (.method (.addFriendRequest a b)) true db' ∈ l

/-- `a` asked `b`, and then `b` accepted: in an acceptance that found the request, or as the bot in
    the request itself. -/
inductive Befriended {θ : Type} (l : List (FriendEvent θ)) (a b : Nat) : Prop
  | accepted {l₁ l₂ l₃ : List (FriendEvent θ)} {t : θ} {db db' d d' : FriendDb} {ok : Bool}
      {requests : Bool × List (UserInfo × FriendRelation)} :
      l = l₁ ++ .call t (.accept b a) db (.method (.acceptFriendRequest b a)) ok db' ::
        (l₂ ++ .call t (.accept b a) d (.method (.getFriendRequests b)) requests d' :: l₃) →
      (∀ op r, Event.ret t op r ∉ l₂) → FriendManager.requestedBy requests.2 a = true →
      Asked l₃ a b → Befriended l a b
  | byBot {l₁ l₂ : List (FriendEvent θ)} {t : θ} {db db' d d' e e' : FriendDb} {ok : Bool}
      {s : Session} {sequence : UInt32} {body : Protocol.Json} {config : BotConfig} :
      l = l₁ ++ .call t (.handleFriendAdd s sequence body) db (.method (.acceptFriendRequest b a))
        ok db' :: l₂ →
      s.userId = a → config.botUserId = b → config.autoAcceptFriend = true →
      CallOf t l₂ (.handleFriendAdd s sequence body) d (.outside .bot) (some config) d' →
      CallOf t l₂ (.handleFriendAdd s sequence body) e (.method (.addFriendRequest a b)) true e' →
      Befriended l a b

section
variable {θ : Type} {l : List (FriendEvent θ)} {a b : Nat}

theorem Asked.cons (h : Asked l a b) (e : FriendEvent θ) : Asked (e :: l) a b := by
  obtain ⟨t, op, db, db', hmem⟩ := h
  exact ⟨t, op, db, db', List.mem_cons_of_mem e hmem⟩

theorem Befriended.cons (h : Befriended l a b) (e : FriendEvent θ) : Befriended (e :: l) a b := by
  cases h with
  | accepted hl hret hfound hasked =>
    exact .accepted (show e :: l = (e :: _) ++ _ from congrArg (e :: ·) hl) hret hfound hasked
  | byBot hl hs hb hauto hbot hadd =>
    exact .byBot (show e :: l = (e :: _) ++ _ from congrArg (e :: ·) hl) hs hb hauto hbot hadd

end

/-! ## What an operation does before it accepts -/

/-- The Database call of an acceptance comes after its check, that of the bot after the request. -/
def Consents : FriendTask → List (Made friendMethods.interface FriendTask) →
    MethodCall friendMethods → Prop
  | op, calls, .method (.acceptFriendRequest b a) =>
    (op = .accept b a ∧ ∃ requests : Bool × List (UserInfo × FriendRelation),
      ⟨op, .method (.getFriendRequests b), requests⟩ ∈ calls ∧
        FriendManager.requestedBy requests.2 a = true) ∨
    ∃ s sequence body config, op = .handleFriendAdd s sequence body ∧ s.userId = a ∧
      config.botUserId = b ∧ config.autoAcceptFriend = true ∧
      ⟨op, .outside .bot, some config⟩ ∈ calls ∧
      ⟨op, .method (.addFriendRequest a b), true⟩ ∈ calls
  | _, _, _ => True

abbrev consents : Contract friendMethods.interface FriendTask (fun op => Except Stop op.Result)
    (List (Made friendMethods.interface FriendTask)) :=
  .ofCalls Consents fun _ _ _ => True

section
variable {θ : Type} [DecidableEq θ] {l : List (FriendEvent θ)} {users : Users} {s : FriendDb}
  {G : FriendTask → FriendDb → MethodCall friendMethods → Occasion → Prop} {a b : Nat}

/-- A row is pending only after a request of its user. -/
theorem asked_of_pending (hj : Journal consents reply G (.fresh users) l s)
    (h : s.status a b = some .pending) : Asked l a b := by
  induction hj with
  | nil => cases h
  | @call l s t op c x _ _ _ ih =>
    rcases statusStep x s c a b with heq | hnone | hrejected | ⟨-, rfl, hok⟩ | ⟨haccepted, -⟩
    · exact (ih (heq.symm.trans h)).cons _
    · rw [hnone] at h
      cases h
    · rw [hrejected] at h
      cases h
    · exact ⟨t, op, s, _, List.mem_cons.2 (.inl (by rw [hok]))⟩
    · rw [haccepted] at h
      cases h
  | ret t op r _ _ ih => exact (ih h).cons _

/-- The list of a check shows only requests that were made. -/
theorem asked_of_found {t : θ} {op : FriendTask} {d d' : FriendDb}
    {requests : Bool × List (UserInfo × FriendRelation)}
    (hj : Journal consents reply G (.fresh users)
      (.call t op d (.method (.getFriendRequests b)) requests d' :: l) s)
    (hfound : FriendManager.requestedBy requests.2 a = true) : Asked l a b := by
  cases hj with
  | call _ _ _ x hj _ _ =>
    refine asked_of_pending hj ?_
    rw [reply_getFriendRequests] at hfound
    cases hm : x.moment.through 0 with
    | false =>
      rw [hm] at hfound
      cases hfound
    | true =>
      rw [hm] at hfound
      exact of_decide_eq_true (FriendDb.requestedBy_requests.symm.trans hfound)

/-- What a call of `Database::accept_friend_request` comes after. -/
theorem befriended_of_call {t : θ} {op : FriendTask} {ok : Bool} {db' : FriendDb}
    (hj : Journal consents reply G (.fresh users) l s)
    (hc : Consents op (consents.phase t l) (.method (.acceptFriendRequest b a))) :
    Befriended (.call t op s (.method (.acceptFriendRequest b a)) ok db' :: l) a b := by
  rcases hc with ⟨rfl, requests, hmem, hfound⟩ |
    ⟨s', sequence, body, config, rfl, hs, hb, hauto, hbot, hadd⟩
  · obtain ⟨d, d', l₂, l₃, rfl, hret⟩ := callOf_of_phase hmem
    obtain ⟨s₁, hcheck⟩ := hj.of_append
    exact .accepted (show _ = [] ++ _ from rfl) hret hfound (asked_of_found hcheck hfound)
  · obtain ⟨d, d', hbot⟩ := callOf_of_phase hbot
    obtain ⟨e, e', hadd⟩ := callOf_of_phase hadd
    exact .byBot (show _ = [] ++ _ from rfl) hs hb hauto hbot hadd

/-- A row is accepted only after one of the two asked and the other accepted. -/
theorem befriended_of_accepted (hj : Journal consents reply G (.fresh users) l s)
    (h : s.status a b = some .accepted) : Befriended l a b ∨ Befriended l b a := by
  induction hj with
  | nil => cases h
  | @call l s t op c x hj hc _ ih =>
    rcases statusStep x s c a b with heq | hnone | hrejected | ⟨hpending, -⟩ | ⟨-, rfl | rfl⟩
    · exact (ih (heq.symm.trans h)).imp (·.cons _) (·.cons _)
    · rw [hnone] at h
      cases h
    · rw [hrejected] at h
      cases h
    · rw [hpending] at h
      cases h
    · exact .inr (befriended_of_call hj hc)
    · exact .inl (befriended_of_call hj hc)
  | ret t op r _ _ ih => exact (ih h).imp (·.cons _) (·.cons _)

end

/-! ## The operations keep the contract -/

/-- The calls that `Consents` says nothing about. -/
def Calm : MethodCall friendMethods → Prop
  | .method (.acceptFriendRequest ..) => False
  | _ => True

theorem consents_of_calm {op : FriendTask} {calls : List (Made friendMethods.interface FriendTask)}
    {c : MethodCall friendMethods} (h : Calm c) : Consents op calls c := by
  cases c with
  | outside => trivial
  | method c => cases c <;> trivial

theorem calm_outside {α : Type} (p : SessionM α) :
    Prog.CallsOnly Calm (Methods.outside p : FriendM α).run :=
  Methods.callsOnly_outside (fun _ => trivial) p

section
variable (a b : Nat)

theorem calm_getFriendRequests : Prog.CallsOnly Calm (FriendM.getFriendRequests a).run :=
  Prog.callsOnly_bindE (Methods.callsOnly_call trivial) fun _ => trivial

theorem calm_addFriendRequest : Prog.CallsOnly Calm (FriendM.addFriendRequest a b).run := by
  refine Prog.callsOnly_iteE (fun _ => trivial) fun _ => ?_
  refine Prog.callsOnly_bindE (Methods.callsOnly_call trivial) fun targetUser => ?_
  refine Prog.callsOnly_iteE (fun _ => trivial) fun _ => ?_
  refine Prog.callsOnly_bindE (Methods.callsOnly_call trivial) fun isFriend => ?_
  refine Prog.callsOnly_iteE (fun _ => trivial) fun _ => ?_
  refine Prog.callsOnly_bindE (calm_getFriendRequests b) fun requests => ?_
  refine Prog.callsOnly_iteE (fun _ => trivial) fun _ => ?_
  refine Prog.callsOnly_bindE (Methods.callsOnly_call trivial) fun ok => ?_
  exact Prog.callsOnly_iteE (fun _ => trivial) fun _ => trivial

/-- One call, the result of which decides between two results. -/
theorem calm_orError {c : FriendMethod} {α : Type} {cond : c.Answer → Bool} {x y : α}
    (hc : Calm (.method c)) : Prog.CallsOnly Calm (do
      let r ← FriendM.request c
      if cond r then return x
      return y : FriendM α).run :=
  Prog.callsOnly_bindE (Methods.callsOnly_call hc) fun _ =>
    Prog.callsOnly_iteE (fun _ => trivial) fun _ => trivial

theorem calm_rejectFriendRequest : Prog.CallsOnly Calm (FriendM.rejectFriendRequest a b).run :=
  calm_orError trivial

theorem calm_removeFriend : Prog.CallsOnly Calm (FriendM.removeFriend a b).run :=
  Prog.callsOnly_bindE (Methods.callsOnly_call trivial) fun _ =>
    Prog.callsOnly_iteE (fun _ => trivial) fun _ => calm_orError trivial

theorem calm_setFriendRemark (remark : String) :
    Prog.CallsOnly Calm (FriendM.setFriendRemark a b remark).run :=
  Prog.callsOnly_bindE (Methods.callsOnly_call trivial) fun _ =>
    Prog.callsOnly_iteE (fun _ => trivial) fun _ => calm_orError trivial

end

section
variable {op : FriendTask} {calls : List (Made friendMethods.interface FriendTask)} {a b : Nat}

/-- A program that calls nothing of interest keeps what a longer list of calls keeps. -/
theorem keeps_calm {α : Type} {p : FriendM α} (hp : Prog.CallsOnly Calm p.run) :
    Methods.Keeps consents op calls p fun _ calls' => calls ⊆ calls' :=
  hp.follows (List.Subset.refl calls) fun _ _ hsub hc =>
    ⟨consents_of_calm hc, fun _ => List.Subset.trans hsub (List.subset_cons_self _ _)⟩

/-- A request that returns true was stored. -/
theorem keeps_addFriendRequest : Methods.Keeps consents op calls (FriendM.addFriendRequest a b)
    fun r calls' => r = .ok (.ok ()) → ⟨op, .method (.addFriendRequest a b), true⟩ ∈ calls' := by
  refine Methods.keeps_ite (fun _ => Methods.keeps_pure fun h => by cases h) fun _ => ?_
  refine Methods.keeps_bind (keeps_calm (Methods.callsOnly_call trivial)) (fun targetUser _ _ => ?_)
    fun _ _ _ h => by cases h
  refine Methods.keeps_ite (fun _ => Methods.keeps_pure fun h => by cases h) fun _ => ?_
  refine Methods.keeps_bind (keeps_calm (Methods.callsOnly_call trivial)) (fun isFriend _ _ => ?_)
    fun _ _ _ h => by cases h
  refine Methods.keeps_ite (fun _ => Methods.keeps_pure fun h => by cases h) fun _ => ?_
  refine Methods.keeps_bind (keeps_calm (calm_getFriendRequests b)) (fun requests _ _ => ?_)
    fun _ _ _ h => by cases h
  refine Methods.keeps_ite (fun _ => Methods.keeps_pure fun h => by cases h) fun _ => ?_
  refine Methods.keeps_bind (Q := fun r calls' => ∀ ok, r = .ok ok →
    ⟨op, .method (.addFriendRequest a b), ok⟩ ∈ calls') ?_ (fun ok calls' hok => ?_)
    fun _ _ _ h => by cases h
  · refine Methods.keeps_call trivial fun ok ok' h => ?_
    cases h
    exact List.mem_cons_self
  · refine Methods.keeps_ite (fun _ => Methods.keeps_pure fun h => by cases h) fun hok' => ?_
    cases ok with
    | false => exact absurd rfl hok'
    | true => exact Methods.keeps_pure fun _ => hok true rfl

theorem keeps_acceptFriendRequest :
    Methods.Keeps consents (.accept a b) [] (FriendM.acceptFriendRequest a b) fun _ _ => True := by
  refine Methods.keeps_bind (Q := fun r calls => ∀ requests, r = .ok requests →
    ∃ ok, ⟨.accept a b, .method (.getFriendRequests a), (ok, requests)⟩ ∈ calls) ?_
    (fun requests calls hcheck => ?_) fun _ _ _ => trivial
  · refine Methods.keeps_bind (Q := fun r calls => ∀ answer, r = .ok answer →
      ⟨.accept a b, .method (.getFriendRequests a), answer⟩ ∈ calls) ?_
      (fun answer calls hcheck => ?_)
      fun _ _ _ _ h => by cases h
    · refine Methods.keeps_call trivial fun answer answer' h => ?_
      cases h
      exact List.mem_cons_self
    · refine Methods.keeps_pure fun requests h => ?_
      cases h
      exact ⟨answer.1, hcheck answer rfl⟩
  · refine Methods.keeps_ite (fun _ => Methods.keeps_pure trivial) fun hfound => ?_
    obtain ⟨ok, hmem⟩ := hcheck requests rfl
    refine Methods.keeps_bind (Q := fun _ _ => True)
      (Methods.keeps_call (.inl ⟨rfl, (ok, requests), hmem, ?_⟩) fun _ => trivial)
      (fun _ _ _ => ?_) fun _ _ _ => trivial
    · simpa using hfound
    · exact Methods.keeps_ite (fun _ => trivial) fun _ => trivial

theorem calm_tellFriend (s : Session) (b : Nat) :
    Prog.CallsOnly Calm (FriendM.tellFriend s b).run := by
  refine Prog.callsOnly_bindE (Methods.callsOnly_call trivial) fun user => ?_
  cases user with
  | some user => exact calm_outside _
  | none => exact Prog.callsOnly_bindE (calm_outside _) fun _ => calm_outside _

/-- The bot accepts the request that has just been stored. -/
theorem keeps_afterFriendAdd {s : Session} {sequence : UInt32} {body : Protocol.Json}
    (hadd : ⟨.handleFriendAdd s sequence body, .method (.addFriendRequest s.userId b),
      true⟩ ∈ calls) :
    Methods.Keeps consents (.handleFriendAdd s sequence body) calls (FriendM.afterFriendAdd s b)
      fun _ _ => True := by
  have htell : ∀ calls, Methods.Keeps consents (.handleFriendAdd s sequence body) calls
      (FriendM.tellFriend s b) fun _ _ => True :=
    fun _ => Prog.Follows.mono (keeps_calm (calm_tellFriend s b)) fun _ _ _ => trivial
  refine Methods.keeps_bind (Q := fun r calls' => ∀ config, r = .ok config →
    ⟨.handleFriendAdd s sequence body, .outside .bot, config⟩ ∈ calls' ∧ calls ⊆ calls') ?_
    (fun config calls' hbot => ?_) fun _ _ _ => trivial
  · refine Methods.keeps_request trivial fun config config' h => ?_
    cases h
    exact ⟨List.mem_cons_self, List.subset_cons_self _ _⟩
  · obtain ⟨hbot, hsub⟩ := hbot config rfl
    cases config with
    | none => exact htell calls'
    | some config =>
      refine Methods.keeps_ite (fun hb => ?_) fun _ => htell calls'
      refine Methods.keeps_bind (Q := fun _ _ => True) ?_ (fun _ calls' _ => htell calls')
        fun _ _ _ => trivial
      refine Methods.keeps_ite (fun _ => trivial) fun hauto => ?_
      refine Methods.keeps_bind (Q := fun _ _ => True)
        (Methods.keeps_call (.inr ?_) fun _ => trivial)
        (fun ok calls' _ => ?_) fun _ _ _ => trivial
      · exact ⟨s, sequence, body, config, rfl, rfl, rfl, by simpa using hauto, hbot, hb ▸ hsub hadd⟩
      · exact Methods.keeps_ite (fun _ => Prog.Follows.mono
          (keeps_calm (calm_outside _)) fun _ _ _ => trivial)
          fun _ => trivial

theorem keeps_handleFriendAdd (s : Session) (sequence : UInt32) (body : Protocol.Json) :
    Methods.Keeps consents (.handleFriendAdd s sequence body) []
      (FriendM.handleFriendAdd s sequence body) fun _ _ => True := by
  have hsend : ∀ {α : Type} (calls) (p : SessionM α),
      Methods.Keeps consents (.handleFriendAdd s sequence body) calls (Methods.outside p)
        fun _ calls' => calls ⊆ calls' :=
    fun _ p => keeps_calm (calm_outside p)
  have hlast : ∀ (calls) (p : SessionM Unit),
      Methods.Keeps consents (.handleFriendAdd s sequence body) calls (Methods.outside p)
        fun _ _ => True :=
    fun calls p => Prog.Follows.mono (hsend calls p) fun _ _ _ => trivial
  refine Methods.keeps_ite (fun _ => ?_) fun _ => hlast _ _
  refine Methods.keeps_bind (hsend _ _) (fun friendId _ _ => ?_) fun _ _ _ => trivial
  refine Methods.keeps_ite (fun _ => hlast _ _) fun _ => ?_
  refine Methods.keeps_bind keeps_addFriendRequest (fun r calls hadd => ?_) fun _ _ _ => trivial
  cases r with
  | error message => exact hlast _ _
  | ok u =>
    refine Methods.keeps_bind (hsend _ _) (fun _ calls' hsub => ?_) fun _ _ _ => trivial
    exact keeps_afterFriendAdd (hsub (hadd rfl))

theorem consents_kept : consents.KeptBy FriendTask.body := by
  have hcalm : ∀ {op : FriendTask}, Prog.CallsOnly Calm op.body →
      Prog.Follows (consents.protocol op) consents.initial op.body (consents.done op) :=
    fun h => Prog.Follows.mono (keeps_calm h) fun _ _ _ => trivial
  intro op
  cases op with
  | add a b => exact hcalm (calm_addFriendRequest a b)
  | accept a b => exact keeps_acceptFriendRequest
  | reject a b => exact hcalm (calm_rejectFriendRequest a b)
  | remove a b => exact hcalm (calm_removeFriend a b)
  | list a => exact hcalm (Prog.callsOnly_bindE (Methods.callsOnly_call trivial) fun _ => trivial)
  | requests a => exact hcalm (calm_getFriendRequests a)
  | isFriend a b => exact hcalm (Methods.callsOnly_call trivial)
  | setRemark a b remark => exact hcalm (calm_setFriendRemark a b remark)
  | handleFriendAdd s sequence body => exact keeps_handleFriendAdd s sequence body

end

/-! ## Every interleaving -/

abbrev FriendWorkers (θ : Type) :=
  Workers friendMethods.interface FriendDb θ FriendTask fun op => Except Stop op.Result

/-- Whoever is a friend has asked or was asked, and the other accepted after that. -/
theorem bothActed {θ : Type} [DecidableEq θ] (users : Users)
    {ls : List (WorkerStep θ FriendTask Occasion)} {w : FriendWorkers θ}
    (h : Run (Workers.step FriendTask.body reply) anyStep (Workers.init (.fresh users)) ls w)
    {a b : Nat} (hab : w.state.status a b = some .accepted) :
    Befriended w.log a b ∨ Befriended w.log b a :=
  befriended_of_accepted (Workers.journal_any consents_kept h) hab

/-- Every statement gets through. -/
def calmly : Occasion := ⟨⟨0, true, fun _ => true⟩, fun _ => default⟩

/-- User 2 accepts twice at once what user 1 asks. -/
theorem bothActed_twice : ∃ w : FriendWorkers Nat,
    w.state.status 1 2 = some .accepted ∧ (Befriended w.log 1 2 ∨ Befriended w.log 2 1) := by
  have hrun : ((exec (Workers.step FriendTask.body reply)
      (Workers.init (.fresh twoUsers) : FriendWorkers Nat)
      ([.start 0 (.add 1 2), .call 0 calmly, .call 0 calmly, .call 0 calmly, .call 0 calmly,
        .finish 0, .start 1 (.accept 2 1), .start 2 (.accept 2 1), .call 1 calmly, .call 2 calmly,
        .call 1 calmly, .call 2 calmly])).map fun w => w.state.status 1 2) =
          some (some .accepted) := by
    decide
  obtain ⟨w, hw, hstatus⟩ := Option.map_eq_some_iff.1 hrun
  exact ⟨w, hstatus, bothActed twoUsers (exec_run hw) hstatus⟩

end ChatApp.Friends
