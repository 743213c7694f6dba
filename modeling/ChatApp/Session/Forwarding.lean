/-
  Who is told of a GROUP_MESSAGE. `pushes` reads the frames and notifications off the log of a
  handler, each with the user it is for: `send_to_user` looks up the session of a user and sends
  to it, and the handler sends to its own session without a look-up. `forwards` says what a member
  gets, and that nobody else gets anything.

  While the handler runs, the sessions and the push managers stay as they are, the connection is
  alive, and a call of a push service returns (`Undisturbed`): `JPushManager` and `FcmManager`
  report a request that fails by their result. Whether a member is active is decided at his turn.
-/
import ChatApp.Session.Receipts
import ChatApp.Session.Recall

namespace ChatApp.Session

open ChatApp.Lib ChatApp.Lib.Prog ChatApp.Database ChatApp.Protocol
open ChatApp.Server (ServerState)

/-- A call with its answer -/
abbrev Logged := (c : Call) × c.Answer

inductive Push
  | frame (x : SessionId) (frame : Frame)
  | jpush (title body : String)
  | fcm (title body : String)

/-- The frames and notifications, with the users they are for. A frame is for the user whose
    session was looked up for it; `none` is a frame without a look-up. -/
def pushes : Option Nat → List Logged → List (Option Nat × Push)
  | _, [] => []
  | _, ⟨.getSession userId, found⟩ :: cs => pushes (found.map fun _ => userId) cs
  | user, ⟨.send x frame, _⟩ :: cs => (user, .frame x frame) :: pushes none cs
  | user, ⟨.notifyJpush userId title body, _⟩ :: cs =>
    (some userId, .jpush title body) :: pushes user cs
  | user, ⟨.notifyFcm userId title body, _⟩ :: cs =>
    (some userId, .fcm title body) :: pushes user cs
  | user, _ :: cs => pushes user cs

/-- What `is_user_active` answered, and about whom. -/
def activity (log : List Logged) : List (Nat × Bool) :=
  log.filterMap fun
    | ⟨.isUserActive userId, active⟩ => some (userId, active)
    | _ => none

/-- What is for the user. -/
def pushesTo (user : Option Nat) (log : List Logged) : List Push :=
  ((pushes none log).filter fun x => decide (x.1 = user)).map Prod.snd

/-- What `is_user_active` answered about the user. -/
def activityOf (userId : Nat) (log : List Logged) : List Bool :=
  ((activity log).filter fun x => decide (x.1 = userId)).map Prod.snd

/-- The server while the handler runs -/
structure Outside.Undisturbed {ρ : Type} (o : Outside ρ) (server : ServerState) (jpush fcm : Bool) :
    Prop where
  healthy : o.Healthy
  active : ∀ r userId, (o.answer r (.isUserActive userId)).1 = true →
    (server.sessions.get? userId).isSome
  hasJpush : ∀ r, (o.answer r .hasJpush).1 = jpush
  hasFcm : ∀ r, (o.answer r .hasFcm).1 = fcm
  jpushReturns : ∀ r userId title body, (o.answer r (.notifyJpush userId title body)).1 = true
  fcmReturns : ∀ r userId title body, (o.answer r (.notifyFcm userId title body)).1 = true

variable {ρ : Type} {o : Outside ρ} {server : ServerState} {jpush fcm : Bool}

/-- The notifications of a user, one for each service that is configured. -/
def notifications (jpush fcm : Bool) (title body : String) : List Push :=
  (if jpush then [.jpush title body] else []) ++ if fcm then [.fcm title body] else []

/-- What a member gets who is active or not. -/
def share (server : ServerState) (jpush fcm : Bool) (frame : Frame) (title body : String)
    (member : Nat × Bool) : List Push :=
  if member.2 then (server.sessions.get? member.1).toList.map fun x => .frame x frame
  else notifications jpush fcm title body

/-! ## Parts of a log -/

section
variable {user : Option Nat} {xs ys : List Logged}

/-- The calls of the database are nothing to a user. -/
def Inward : Call → Prop
  | .db _ => True
  | _ => False

theorem pushes_inward (h : ∀ x ∈ xs, Inward x.1) : pushes user (xs ++ ys) = pushes user ys := by
  induction xs with
  | nil => rfl
  | cons x xs ih =>
    obtain ⟨hx, hxs⟩ := List.forall_mem_cons.1 h
    obtain ⟨c, a⟩ := x
    cases c with
    | db c => exact ih hxs
    | _ => exact hx.elim

theorem activity_inward (h : ∀ x ∈ xs, Inward x.1) : activity xs = [] := by
  refine List.filterMap_eq_nil_iff.2 fun x hx => ?_
  have hinward := h x hx
  obtain ⟨c, a⟩ := x
  cases c with
  | db c => rfl
  | _ => exact hinward.elim

theorem activity_append : activity (xs ++ ys) = activity xs ++ activity ys := List.filterMap_append

end

namespace Outside

variable {α β : Type} {p : SessionM α} {f : α → SessionM β} {e e' : ρ × Connected} {a : α}

/-- The log of a handler, or of a part of it -/
def logOf (o : Outside ρ) (p : SessionM α) (e : ρ × Connected) : List Logged :=
  Prog.log o.env p.run e

theorem logOf_bind (h : o.run p e = (.ok a, e')) :
    o.logOf (p >>= f) e = o.logOf p e ++ o.logOf (f a) e' := by
  have hrun : Prog.run o.env p.run e = (.ok a, e') := h
  rw [logOf, log_bindM, hrun]
  rfl

theorem run_bind_ok (h : o.run p e = (.ok a, e')) : o.run (p >>= f) e = o.run (f a) e' := by
  rw [run_bind, h]

/-- A part of a handler that runs to its end, what it tells the users, and whom it asks about. -/
def Tells (o : Outside ρ) (p : SessionM α) (e : ρ × Connected) (a : α) (e' : ρ × Connected)
    (told : List (Option Nat × Push)) (asked : List (Nat × Bool)) : Prop :=
  o.run p e = (.ok a, e') ∧
    (∀ ys, pushes none (o.logOf p e ++ ys) = told ++ pushes none ys) ∧
    activity (o.logOf p e) = asked

section
variable {b : β} {e₁ e₂ : ρ × Connected} {told told' : List (Option Nat × Push)}
  {asked asked' : List (Nat × Bool)}

theorem tells_pure : o.Tells (pure a) e a e [] [] := ⟨rfl, fun _ => rfl, rfl⟩

theorem Tells.bind (hp : o.Tells p e a e₁ told asked) (hf : o.Tells (f a) e₁ b e₂ told' asked') :
    o.Tells (p >>= f) e b e₂ (told ++ told') (asked ++ asked') := by
  obtain ⟨hrun, htold, hasked⟩ := hp
  obtain ⟨hrun', htold', hasked'⟩ := hf
  refine ⟨(run_bind_ok hrun).trans hrun', fun ys => ?_, ?_⟩
  · rw [logOf_bind hrun, List.append_assoc, htold, htold', List.append_assoc]
  · rw [logOf_bind hrun, activity_append, hasked, hasked']

/-- A part that calls only the database, and what follows it. -/
theorem Tells.after (hp : CallsOnly Inward p.run) (hrun : o.run p e = (.ok a, e₁))
    (hf : o.Tells (f a) e₁ b e₂ told asked) : o.Tells (p >>= f) e b e₂ told asked := by
  have hp' : o.Tells p e a e₁ [] [] :=
    ⟨hrun, fun _ => pushes_inward (hp.log _ _), activity_inward (hp.log _ _)⟩
  exact hp'.bind hf

end

/-- A call with its answer, and what follows it -/
theorem logOf_request {c : Call} {f : c.Answer → SessionM β} :
    o.logOf (request c >>= f) e = ⟨c, (o.env e c).1⟩ :: o.logOf (f (o.env e c).1) (o.env e c).2 :=
  rfl

/-! ## One member -/

variable {userId : Nat} {frame : Frame} {title body : String}

theorem tells_sendToUser {x : SessionId} (hx : server.sessions.get? userId = some x) :
    ∃ e', (o.serving server).Tells (sendToUser userId frame) e () e'
      [(some userId, .frame x frame)] [] := by
  have hfound : ((o.serving server).env e (.getSession userId)).1 = some x := hx
  have hlog : (o.serving server).logOf (sendToUser userId frame) e =
      [⟨.getSession userId, some x⟩, ⟨.send x frame, ()⟩] := by
    rw [sendToUser, logOf_request, hfound]
    rfl
  refine ⟨((o.serving server).env ((o.serving server).env e (.getSession userId)).2
    (.send x frame)).2, ?_, fun ys => ?_, ?_⟩
  · rw [sendToUser, run_bind, run_request]
    simp only [hfound]
    rfl
  · rw [hlog]
    rfl
  · rw [hlog]
    rfl

section
variable {b : β} {c : Call} {a : c.Answer} {f : c.Answer → SessionM β}
  {told : List (Option Nat × Push)} {asked : List (Nat × Bool)}

/-- A question that is no push -/
theorem Tells.ask (ha : (o.env e c).1 = a)
    (hpush : ∀ ys, pushes none (⟨c, a⟩ :: ys) = pushes none ys)
    (hf : o.Tells (f a) (o.env e c).2 b e' told asked) :
    o.Tells (request c >>= f) e b e' told (activity [⟨c, a⟩] ++ asked) := by
  have hc : o.Tells (request c) e a (o.env e c).2 [] (activity [⟨c, a⟩]) := by
    subst ha
    exact ⟨rfl, hpush, rfl⟩
  exact hc.bind hf

/-- A push -/
theorem Tells.push {x : Option Nat × Push} (ha : (o.env e c).1 = a)
    (hpush : ∀ ys, pushes none (⟨c, a⟩ :: ys) = x :: pushes none ys)
    (hf : o.Tells (f a) (o.env e c).2 b e' told asked) :
    o.Tells (request c >>= f) e b e' (x :: told) (activity [⟨c, a⟩] ++ asked) := by
  have hc : o.Tells (request c) e a (o.env e c).2 [x] (activity [⟨c, a⟩]) := by
    subst ha
    exact ⟨rfl, hpush, rfl⟩
  exact hc.bind hf

end

variable (h : o.Undisturbed server jpush fcm)
include h

/-- One notification through FCM, if it is configured -/
theorem tells_fcm : ∃ e', (o.serving server).Tells (do
    if ← request .hasFcm then
      Session.checkPush (← request (.notifyFcm userId title body)) : SessionM Unit) e () e'
      (if fcm then [(some userId, .fcm title body)] else []) [] := by
  have hhas : ((o.serving server).env e .hasFcm).1 = fcm := h.hasFcm _
  have hreturns : ∀ e, ((o.serving server).env e (.notifyFcm userId title body)).1 = true :=
    fun e => h.fcmReturns _ _ _ _
  cases fcm with
  | false => exact ⟨_, Tells.ask hhas (fun _ => rfl) tells_pure⟩
  | true =>
    exact ⟨_, Tells.ask hhas (fun _ => rfl) (Tells.push (hreturns _) (fun _ => rfl) tells_pure)⟩

theorem tells_pushNotification :
    ∃ e', (o.serving server).Tells (Session.pushNotification userId title body) e () e'
      ((notifications jpush fcm title body).map (some userId, ·)) [] := by
  have hhas : ((o.serving server).env e .hasJpush).1 = jpush := h.hasJpush _
  have hreturns : ∀ e, ((o.serving server).env e (.notifyJpush userId title body)).1 = true :=
    fun e => h.jpushReturns _ _ _ _
  have hmap : (notifications jpush fcm title body).map (some userId, ·) =
      (if jpush then [(some userId, Push.jpush title body)] else []) ++
        if fcm then [(some userId, Push.fcm title body)] else [] := by
    cases jpush <;> cases fcm <;> rfl
  rw [hmap]
  cases jpush with
  | false =>
    obtain ⟨e', hfcm⟩ := tells_fcm h
    exact ⟨e', Tells.ask hhas (fun _ => rfl) hfcm⟩
  | true =>
    obtain ⟨e', hfcm⟩ := tells_fcm h
    exact ⟨e', Tells.ask hhas (fun _ => rfl) (Tells.push (hreturns _) (fun _ => rfl) hfcm)⟩

/-- The share of a member, whose activity is asked for once -/
theorem tells_forwardToMember {s : Session} {message : Message} (hne : userId ≠ s.userId) :
    ∃ active e', (o.serving server).Tells
      (Session.forwardToMember s message title body userId) e () e'
      ((share server jpush fcm ⟨.groupMessage, 0, messageJson message⟩ title body
        (userId, active)).map (some userId, ·)) [(userId, active)] ∧
      (active = true → (server.sessions.get? userId).isSome) := by
  rw [Session.forwardToMember, if_neg hne]
  cases hactive : ((o.serving server).env e (.isUserActive userId)).1 with
  | true =>
    obtain ⟨x, hx⟩ := Option.isSome_iff_exists.1 (h.active _ _ hactive)
    obtain ⟨e', hsend⟩ := tells_sendToUser (o := o) hx
    have hshare : share server jpush fcm ⟨.groupMessage, 0, messageJson message⟩ title body
        (userId, true) = [.frame x ⟨.groupMessage, 0, messageJson message⟩] := by
      simp [share, hx]
    refine ⟨true, e', ?_, fun _ => Option.isSome_of_eq_some hx⟩
    rw [hshare]
    exact Tells.ask hactive (fun _ => rfl) hsend
  | false =>
    obtain ⟨e', hpush⟩ := tells_pushNotification h
    exact ⟨false, e', Tells.ask hactive (fun _ => rfl) hpush,
      fun hfalse => absurd hfalse Bool.false_ne_true⟩

/-- The loop over the members: `asked` are the members it comes to, without the sender. -/
theorem tells_loop {s : Session} {message : Message} (members : List Nat) :
    ∃ asked e', (o.serving server).Tells
      (forEach (Session.forwardToMember s message title body) members) e () e'
      (asked.flatMap fun member => (share server jpush fcm
        ⟨.groupMessage, 0, messageJson message⟩ title body member).map (some member.1, ·)) asked ∧
      asked.map Prod.fst = members.filter (fun userId => decide (userId ≠ s.userId)) ∧
      ∀ member ∈ asked, member.2 = true → (server.sessions.get? member.1).isSome := by
  induction members generalizing e with
  | nil => exact ⟨[], e, tells_pure, rfl, List.forall_mem_nil _⟩
  | cons userId members ih =>
    by_cases hown : userId = s.userId
    · have hskip : Session.forwardToMember s message title body userId = pure () := if_pos hown
      obtain ⟨asked, e', htells, hasked, hsession⟩ := ih (e := e)
      refine ⟨asked, e', ?_, ?_, hsession⟩
      · rw [forEach, hskip]
        exact htells
      · rw [List.filter_cons_of_neg (by simp [hown])]
        exact hasked
    · obtain ⟨active, e₁, hmember, hactive⟩ := tells_forwardToMember (e := e) h hown
      obtain ⟨asked, e', htells, hasked, hsession⟩ := ih (e := e₁)
      refine ⟨(userId, active) :: asked, e', hmember.bind htells, ?_,
        List.forall_mem_cons.2 ⟨hactive, hsession⟩⟩
      rw [List.filter_cons_of_pos (by simp [hown]), List.map_cons, hasked]

omit h in
theorem healthy_serving (ho : o.Healthy) : (o.serving server).Healthy :=
  ⟨ho.query, ho.hasConnection, ho.ping⟩

omit h in
/-- A method of the database ends with what its triple says. -/
theorem run_of_triple {α : Type} {p : SessionM α} {d : Tables} {A : α → Tables → Prop}
    (htriple : o.Triple d p fun r d' _ => ∃ a, r = .ok a ∧ A a d') (he : e.2.db = d) :
    ∃ a e', o.run p e = (.ok a, e') ∧ A a e'.2.db := by
  obtain ⟨a, hr, ha⟩ := htriple e he
  exact ⟨a, (o.run p e).2, Prod.ext hr rfl, ha⟩

omit h in
theorem inward_db {α : Type} (q : DbProg α) : CallsOnly Inward (db q).run :=
  callsOnly_db (fun _ => trivial) q

omit h in
theorem inward_getGroupMembers (groupId : Nat) :
    CallsOnly Inward (GroupManager.getGroupMembers groupId).run :=
  callsOnly_bindM (inward_db _) fun _ => callsOnly_pureM _

omit h in
theorem inward_senderName (s : Session) : CallsOnly Inward (Session.senderName s).run := by
  refine callsOnly_bindM (inward_db _) fun user => ?_
  cases user
  · exact callsOnly_pureM _
  · exact callsOnly_pureM _

omit h in
theorem run_getGroupMembers (ho : o.Healthy) (groupId : Nat) (e : ρ × Connected) :
    ∃ e', o.run (GroupManager.getGroupMembers groupId) e =
      (.ok (memberIds e.2.db groupId), e') ∧ e'.2.db = e.2.db := by
  have htriple : o.Triple e.2.db (GroupManager.getGroupMembers groupId) fun r d' _ =>
      ∃ a, r = .ok a ∧ a = memberIds e.2.db groupId ∧ d' = e.2.db := by
    refine triple_bind (triple_db ?_ ((dbTriple_getGroupMembers ho groupId).mono ?_))
    · exact fun e => ((paired_getGroupMembers groupId).lock.obeys _ _).mono fun _ _ _ _ => trivial
    · rintro members d' ⟨rfl, rfl⟩
      exact then_ok (triple_pure ⟨_, rfl, rfl, rfl⟩)
  obtain ⟨a, e', hrun, rfl, hdb⟩ := run_of_triple htriple rfl
  exact ⟨e', hrun, hdb⟩

omit h in
theorem run_getGroupById (ho : o.Healthy) (groupId : Nat) (e : ρ × Connected) :
    ∃ group e', o.run (db (getGroupById groupId)) e = (.ok group, e') ∧ e'.2.db = e.2.db := by
  have htriple : o.Triple e.2.db (db (getGroupById groupId)) fun r d' _ =>
      ∃ group, r = .ok group ∧ d' = e.2.db := by
    refine triple_locked (paired_groupWithMembers groupId)
      ((dbTriple_getGroupById ho groupId).mono ?_)
    rintro group d' ⟨-, rfl⟩
    exact ⟨group, rfl, rfl⟩
  exact run_of_triple htriple rfl

omit h in
theorem run_senderName (ho : o.Healthy) (s : Session) (e : ρ × Connected) :
    ∃ name e', o.run (Session.senderName s) e = (.ok name, e') ∧ e'.2.db = e.2.db := by
  have htriple : o.Triple e.2.db (Session.senderName s) fun r d' _ =>
      ∃ name, r = .ok name ∧ d' = e.2.db := by
    refine triple_bind (triple_ensured ho (paired_fetchFirst rfl)
      ((dbTriple_getUserById ho s.userId).mono ?_))
    rintro user d' ⟨rfl, rfl⟩
    cases e.2.db.users.find? s.userId with
    | none => exact then_ok (triple_pure ⟨_, rfl, rfl⟩)
    | some user => exact then_ok (triple_pure ⟨_, rfl, rfl⟩)
  exact run_of_triple htriple rfl

/-- The loop with its notifications, after the name of the group is known -/
theorem tells_forwardAll {s : Session} {message : Message} (title : String) (mediaType : Int)
    (members : List Nat) (e : ρ × Connected) :
    ∃ body asked e', (o.serving server).Tells (do
        let sender ← Session.senderName s
        forEach (Session.forwardToMember s message title
          (sender ++ ": " ++ Session.notificationBody mediaType message.content)) members) e () e'
      (asked.flatMap fun member => (share server jpush fcm
        ⟨.groupMessage, 0, messageJson message⟩ title body member).map (some member.1, ·)) asked ∧
      asked.map Prod.fst = members.filter (fun userId => decide (userId ≠ s.userId)) ∧
      ∀ member ∈ asked, member.2 = true → (server.sessions.get? member.1).isSome := by
  obtain ⟨name, e₁, hname, -⟩ := run_senderName (healthy_serving h.healthy) s e
  obtain ⟨asked, e', hloop, hasked⟩ := @tells_loop _ o server jpush fcm e₁ title
    (name ++ ": " ++ Session.notificationBody mediaType message.content) h s message members
  exact ⟨_, asked, e', Tells.after (inward_senderName s) hname hloop, hasked⟩

/-- What follows the response -/
theorem tells_afterGroupMessage {s : Session} {message : Message} (groupId : Nat)
    (mediaType : Int) (e : ρ × Connected) :
    ∃ title body asked e', (o.serving server).Tells
      (Session.afterGroupMessage s groupId message mediaType) e () e'
      (asked.flatMap fun member => (share server jpush fcm
        ⟨.groupMessage, 0, messageJson message⟩ title body member).map (some member.1, ·)) asked ∧
      asked.map Prod.fst =
        (memberIds e.2.db groupId).filter (fun userId => decide (userId ≠ s.userId)) ∧
      ∀ member ∈ asked, member.2 = true → (server.sessions.get? member.1).isSome := by
  have ho : (o.serving server).Healthy := healthy_serving h.healthy
  obtain ⟨e₁, hmembers, -⟩ := run_getGroupMembers ho groupId e
  obtain ⟨group, e₂, hgroup, -⟩ := run_getGroupById ho groupId e₁
  cases group with
  | none =>
    obtain ⟨body, asked, e', hall, hasked⟩ :=
      @tells_forwardAll _ o server jpush fcm h s message "群聊" mediaType
        (memberIds e.2.db groupId) e₂
    exact ⟨_, body, asked, e', Tells.after (inward_getGroupMembers groupId) hmembers
      (Tells.after (inward_db _) hgroup hall), hasked⟩
  | some group =>
    obtain ⟨body, asked, e', hall, hasked⟩ :=
      @tells_forwardAll _ o server jpush fcm h s message group.groupName mediaType
        (memberIds e.2.db groupId) e₂
    exact ⟨_, body, asked, e', Tells.after (inward_getGroupMembers groupId) hmembers
      (Tells.after (inward_db _) hgroup hall), hasked⟩

end Outside

/-! ## Up to the response -/

/-- An INSERT of a group message got through. -/
def Stored (log : List Logged) : Prop :=
  ∃ x ∈ log, Sending.groupMessage.insertAnswer x.1 x.2 = some true

section
variable {log log' : List Logged}

theorem stored_append : Stored (log ++ log') ↔ Stored log ∨ Stored log' := by
  simp only [Stored, List.mem_append, or_and_right, exists_or]

/-- Calls that insert no message -/
theorem not_stored_calm (h : ∀ x ∈ log, Sending.groupMessage.Calm x.1) : ¬ Stored log := by
  rintro ⟨x, hx, hinsert⟩
  rw [(h x hx).insertAnswer] at hinsert
  cases hinsert

theorem not_stored_send {x : SessionId} {frame : Frame} : ¬ Stored [⟨.send x frame, ()⟩] := by
  rintro ⟨y, hy, hinsert⟩
  rw [List.mem_singleton.1 hy] at hinsert
  cases hinsert

end

namespace Outside

variable {α : Type} {e : ρ × Connected} {s : Session} {sequence : UInt32} {body : Json}

theorem stored_read {x : Except JsonError α} {f : α → SessionM Unit}
    (h : Stored (o.logOf (read x >>= f) e)) : ∃ a, x = .ok a ∧ Stored (o.logOf (f a) e) := by
  cases x with
  | ok a => exact ⟨a, rfl, h⟩
  | error stop =>
    obtain ⟨y, hy, -⟩ := h
    cases hy

/-- The membership test returns. -/
theorem run_isGroupMember (groupId userId : Nat) (e : ρ × Connected) :
    ∃ member e', o.run (db (isGroupMember groupId userId)) e = (.ok member, e') ∧
      e'.2.db = e.2.db := by
  have htriple : o.Triple e.2.db (db (isGroupMember groupId userId)) fun r d' _ =>
      ∃ member, r = .ok member ∧ d' = e.2.db := by
    refine triple_locked (paired_fetchFirst rfl) ((dbTriple_isGroupMember groupId userId).mono ?_)
    rintro member d' ⟨-, -, rfl⟩
    exact ⟨member, rfl, rfl⟩
  exact run_of_triple htriple rfl

theorem members_insertGroup {d d' : Tables} {r : Nat → MessageRow}
    {hr : ∀ n, (r n).messageId = n} (h : d.insertGroup r hr = some d') :
    d'.members = d.members := by
  unfold Tables.insertGroup at h
  split at h
  · cases h
    rfl
  · cases h

/-- Saving a message leaves the members as they are. -/
theorem members_saveGroupMessage (m : Message) (e : ρ × Connected) :
    (o.run (db (saveGroupMessage m)) e).2.2.db.members = e.2.db.members := by
  have htriple : o.Triple e.2.db (db (saveGroupMessage m)) fun _ d' _ =>
      d'.members = e.2.db.members := by
    refine triple_locked (paired_stamped fun _ => paired_insert rfl (paired_pure _) fun _ =>
      paired_pure _) (dbTriple_locked (dbTriple_bind (dbTriple_getCurrentTimestamp fun now => ?_)))
    exact dbTriple_insert rfl (fun _ => rfl) (dbTriple_pure rfl) fun d' hd' =>
      dbTriple_pure (members_insertGroup hd')
  exact htriple e rfl

/-- The message is saved, or no INSERT gets through. -/
theorem save_cases (m : Message) (e : ρ × Connected) :
    (o.run (db (saveGroupMessage m)) e).1 = .ok none ∧
        ¬ Stored (o.logOf (db (saveGroupMessage m)) e) ∨
      ∃ messageId createdAt, (o.run (db (saveGroupMessage m)) e).1 =
        .ok (some { m with messageId, createdAt }) := by
  have hsaving := @Sending.saved_cases Sending.groupMessage _ _
    (fun id now => { m with messageId := id, createdAt := now }) _ o (Sending.inserts_group m) e
  obtain ⟨xs, x, zs, hsteps, hxs, hzs, ⟨hx, hrun⟩ | ⟨id, now, -, -, hrun⟩⟩ := hsaving
  · refine .inl ⟨hrun, ?_⟩
    have hlog : o.logOf (db (saveGroupMessage m)) e =
        (xs ++ x :: zs).map fun x => ⟨x.call, x.answer⟩ := by
      rw [← hsteps]
      exact log_eq_steps _ _ _
    rintro ⟨y, hy, hinsert⟩
    rw [hlog] at hy
    obtain ⟨z, hz, rfl⟩ := List.mem_map.1 hy
    rcases List.mem_append.1 hz with hz | hz
    · rw [(hxs z hz).insertAnswer] at hinsert
      cases hinsert
    rcases List.mem_cons.1 hz with rfl | hz
    · rw [hx] at hinsert
      cases hinsert
    · rw [(hzs z hz).insertAnswer] at hinsert
      cases hinsert
  · exact .inr ⟨id, now, hrun⟩

/-- The whole handler, for a message that is stored -/
theorem tells_handleGroupMessage (h : o.Undisturbed server jpush fcm)
    (hstored : Stored ((o.serving server).logOf (s.handleGroupMessage sequence body) e)) :
    ∃ groupId message title text asked e', body.valueId "group_id" = .ok groupId ∧
      message.senderId = s.userId ∧ message.groupId = groupId ∧
      (o.serving server).Tells (s.handleGroupMessage sequence body) e () e'
        ((none, .frame s.id
          (createResponse .groupMessageResponse sequence (messageJson message))) ::
          asked.flatMap fun member => (share server jpush fcm
            ⟨.groupMessage, 0, messageJson message⟩ title text member).map (some member.1, ·))
            asked ∧
      asked.map Prod.fst =
        (memberIds e.2.db groupId).filter (fun userId => decide (userId ≠ s.userId)) ∧
      ∀ member ∈ asked, member.2 = true → (server.sessions.get? member.1).isSome := by
  unfold Session.handleGroupMessage Session.authenticatedOnly at hstored ⊢
  by_cases hs : s.authenticated = true
  case neg =>
    rw [if_neg hs] at hstored
    exact absurd hstored not_stored_send
  rw [if_pos hs] at hstored ⊢
  obtain ⟨groupId, hgroup, hstored⟩ := stored_read hstored
  obtain ⟨content, hcontent, hstored⟩ := stored_read hstored
  obtain ⟨mediaType, hmediaType, hstored⟩ := stored_read hstored
  obtain ⟨mediaUrl, hmediaUrl, hstored⟩ := stored_read hstored
  obtain ⟨extra, hextra, hstored⟩ := stored_read hstored
  rw [read_bind hgroup, read_bind hcontent, read_bind hmediaType, read_bind hmediaUrl,
    read_bind hextra]
  by_cases hzero : groupId = 0
  case pos =>
    rw [if_pos hzero] at hstored
    exact absurd hstored not_stored_send
  rw [if_neg hzero] at hstored ⊢
  rw [MessageManager.sendGroupMessage, bind_assoc] at hstored ⊢
  obtain ⟨member, e₁, hmember, hdb⟩ := run_isGroupMember (o := o.serving server) groupId s.userId e
  rw [logOf_bind hmember, stored_append] at hstored
  replace hstored := hstored.resolve_left
    (not_stored_calm ((Sending.calm_isGroupMember groupId s.userId).log _ _))
  cases member with
  | false => exact absurd hstored not_stored_send
  | true =>
  rw [if_neg (by decide), bind_assoc] at hstored
  let m : Message := ⟨0, s.userId, groupId, groupId, Session.toMediaType mediaType, content,
    mediaUrl, extra, .sent, 0⟩
  rcases hrun : (o.serving server).run (db (saveGroupMessage m)) e₁ with ⟨r, e₂⟩
  have hmembers : memberIds e₂.2.db groupId = memberIds e.2.db groupId := by
    have hsaved := members_saveGroupMessage (o := o.serving server) m e₁
    rw [hrun, hdb] at hsaved
    unfold memberIds
    rw [hsaved]
  rcases save_cases (o := o.serving server) m e₁ with ⟨hnone, hfailed⟩
    | ⟨messageId, createdAt, hsome⟩
  · rw [hrun] at hnone
    cases hnone
    rw [logOf_bind hrun, stored_append] at hstored
    exact absurd (hstored.resolve_left hfailed) not_stored_send
  · rw [hrun] at hsome
    cases hsome
    let message : Message := { m with messageId, createdAt }
    let e₃ := ((o.serving server).env e₂ (.send s.id
      (createResponse .groupMessageResponse sequence (messageJson message)))).2
    obtain ⟨title, text, asked, e', hafter, hasked⟩ :=
      @tells_afterGroupMessage _ o server jpush fcm h s message groupId mediaType e₃
    have hdb₃ : e₃.2.db = e₂.2.db := rfl
    rw [hdb₃, hmembers] at hasked
    refine ⟨groupId, message, title, text, asked, e', hgroup, rfl, rfl, ?_, hasked⟩
    refine Tells.after (inward_db _) hmember ?_
    rw [if_neg (by decide), bind_assoc]
    exact Tells.after (inward_db _) hrun (Tells.push rfl (fun _ => rfl) hafter)

end Outside

/-! ## What each user gets -/

section
variable {α : Type} {asked : List (Nat × Bool)} {userId : Nat} {active : Bool}

theorem filter_keys (hasked : (asked.map Prod.fst).Nodup) (hmem : (userId, active) ∈ asked) :
    asked.filter (fun member => decide (member.1 = userId)) = [(userId, active)] := by
  induction asked with
  | nil => cases hmem
  | cons member asked ih =>
    obtain ⟨hnew, hnodup⟩ := List.nodup_cons.1 hasked
    rcases List.mem_cons.1 hmem with rfl | hmem
    · rw [List.filter_cons_of_pos (by simp), List.filter_eq_nil_iff.2]
      intro other hother
      have hne : other.1 ≠ userId := fun heq => hnew (List.mem_map.2 ⟨other, hother, heq⟩)
      simpa using hne
    · have hne : member.1 ≠ userId := fun heq => hnew (List.mem_map.2 ⟨_, hmem, heq.symm⟩)
      rw [List.filter_cons_of_neg (by simpa using hne)]
      exact ih hnodup hmem

theorem filter_keys_none (hmem : userId ∉ asked.map Prod.fst) :
    asked.filter (fun member => decide (member.1 = userId)) = [] := by
  refine List.filter_eq_nil_iff.2 fun member hmember => ?_
  have hne : member.1 ≠ userId := fun heq => hmem (List.mem_map.2 ⟨member, hmember, heq⟩)
  simpa using hne

/-- The shares of the members are told apart by the users they are for. -/
theorem shares_of (share : Nat × Bool → List Push) :
    ((asked.flatMap fun member => (share member).map (some member.1, ·)).filter fun x =>
      decide (x.1 = some userId)).map Prod.snd =
        (asked.filter fun member => decide (member.1 = userId)).flatMap share := by
  induction asked with
  | nil => rfl
  | cons member asked ih =>
    rw [List.flatMap_cons, List.filter_append, List.map_append, ih]
    by_cases hmember : member.1 = userId
    · rw [List.filter_cons_of_pos (by simpa using hmember), List.flatMap_cons]
      congr 1
      simp [List.filter_map, Function.comp_def, hmember]
    · rw [List.filter_cons_of_neg (by simpa using hmember)]
      simp [List.filter_map, Function.comp_def, hmember]

/-- No share is for nobody. -/
theorem shares_none (share : Nat × Bool → List Push) :
    (asked.flatMap fun member => (share member).map (some member.1, ·)).filter (fun x =>
      decide (x.1 = none)) = [] := by
  refine List.filter_eq_nil_iff.2 fun x hx => ?_
  obtain ⟨member, -, hx⟩ := List.mem_flatMap.1 hx
  obtain ⟨push, -, rfl⟩ := List.mem_map.1 hx
  simp

/-- UNIQUE (group_id, user_id) -/
theorem nodup_memberIds (d : Tables) (groupId : Nat) : (memberIds d groupId).Nodup := by
  have hkeys : (memberIds d groupId).map (groupId, ·) =
      (d.members.rows.filter (·.groupId = groupId)).map MemberRow.key := by
    rw [memberIds, List.map_map]
    refine List.map_congr_left fun m hm => ?_
    have hgroup : m.groupId = groupId := by simpa using (List.mem_filter.1 hm).2
    rw [MemberRow.key, hgroup]
    rfl
  have hnodup : ((d.members.rows.filter (·.groupId = groupId)).map MemberRow.key).Nodup :=
    d.members.unique.sublist (List.filter_sublist.map _)
  rw [← hkeys] at hnodup
  exact hnodup.of_map _

end

/-- Ann, Bob and Eve in a group. -/
def trio : Tables where
  users := ⟨[⟨1, "ann", "Ann", "", "", .online, 0, 0⟩, ⟨2, "bob", "Bob", "", "", .online, 0, 0⟩,
    ⟨3, "eve", "Eve", "", "", .offline, 0, 0⟩], by decide⟩
  groups := ⟨[⟨7, "chess", "", "", 1, 0, 0⟩], List.nodup_singleton _⟩
  members := ⟨[⟨7, 1, true, 0⟩, ⟨7, 2, false, 0⟩, ⟨7, 3, false, 0⟩], by decide⟩
  privateMessages := ⟨.empty, 1, SerialTable.none_below⟩
  groupMessages := ⟨.empty, 1, SerialTable.none_below⟩
  owners := by decide
  memberships := by decide
  correspondents := fun _ h => by cases h
  posters := fun _ h => by cases h

/-- Bob has a session that is active, and JPush is configured. -/
def bobActive : Outside Unit where
  answer r c := (match c with
    | .isUserActive userId => decide (userId = 2)
    | .hasJpush | .notifyJpush .. | .notifyFcm .. => true
    | c => quietAnswer c, r)
  order := quiet.order
  perm := quiet.perm
  sorted := quiet.sorted

theorem undisturbed_bobActive : bobActive.Undisturbed Session.bothOnline true false where
  healthy := ⟨fun _ _ => rfl, fun _ => rfl, fun _ => rfl⟩
  active r userId h := by
    have hbob : userId = 2 := of_decide_eq_true h
    rw [hbob]
    rfl
  hasJpush _ := rfl
  hasFcm _ := rfl
  jpushReturns _ _ _ _ := rfl
  fcmReturns _ _ _ _ := rfl

/-- A message of Ann -/
def trioLog : List Logged :=
  Prog.log (bobActive.serving Session.bothOnline).env
    (Session.task ⟨1, 1, true⟩ 5 (.object [("group_id", .number 7), ("content", .string "hi")])
      MessageType.groupMessage.code) ((), .idle trio)

end ChatApp.Session
