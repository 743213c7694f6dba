/-
  Who is told that a message was recalled. `handle_message_recall` asks `get_message_sender` about
  a private message; that method first names a column that `private_messages` does not have, and
  then finds the group message with the same id, if there is one. In that case everybody who is
  logged in is told, otherwise nobody. A group recall never succeeds: `recall_group_message` locks
  `mutex_` twice when it finds the message.
-/
import ChatApp.Server.Sessions
import ChatApp.Session.Anonymous

namespace ChatApp.Session

open ChatApp.Lib ChatApp.Lib.Prog ChatApp.Database ChatApp.Protocol
open ChatApp.Server (ServerState)

variable {ρ : Type}

/-- The sessions that `broadcast` sends to. -/
def loggedIn (server : ServerState) : List SessionId :=
  server.sessions.values.filter fun x => (server.session x).authenticated

namespace Outside

/-- The world, with the session table of a server. -/
def serving (o : Outside ρ) (server : ServerState) : Outside ρ :=
  { o with
    answer := fun r c =>
      match c with
      | .getSession userId => (server.sessions.get? userId, (o.answer r (.getSession userId)).2)
      | .authenticatedSessions =>
        (loggedIn server, (o.answer r .authenticatedSessions).2)
      | c => o.answer r c }

/-- The SELECT of `get_message_sender` on `group_messages` -/
abbrev lookup (messageId : Nat) : Call := .db (.query (.groupMessages (.senderAndGroup messageId)))

/-- There is a group message with the id, and the SELECT of the program gets through. -/
def Finds {α : Type} (o : Outside ρ) (messageId : Nat) (p : Prog interface α)
    (e : ρ × Connected) : Prop :=
  (e.2.db.groupMessages.find? messageId).isSome ∧ ⟨lookup messageId, true⟩ ∈ Prog.log o.env p e

end Outside

/-- A session of the user is in the table, and logged in. -/
def Online (server : ServerState) (userId : Nat) : Prop :=
  ∃ x ∈ loggedIn server, (server.session x).userId = userId

/-- The users to whose sessions a recall notification is sent. -/
def told (server : ServerState) (frames : List (SessionId × Frame)) : List Nat :=
  (frames.filter fun x => x.2.type = .messageRecall).map fun x => (server.session x.1).userId

namespace Session

variable (s : Session) (sequence : UInt32) (body : Json)

/-- The response to a recall. -/
def recallResponse (messageId : Nat) (recalled : Bool) : SessionId × Frame :=
  (s.id, createResponse .messageRecallResponse sequence (.object (
    if recalled then [("message_id", .number messageId), ("success", .bool true)]
    else [("message_id", .number messageId), ("success", .bool false), ("error",
      .string "Failed to recall message (not found, no permission, or time expired)")])))

/-- The frames that a recall sends. -/
def recallFrames (o : Outside ρ) (server : ServerState) (e : ρ × Connected) :
    List (SessionId × Frame) :=
  ((o.serving server).handle s sequence body MessageType.messageRecall.code e).1

/-- The right users are told of a recall that succeeds. -/
def NotifiesRight (o : Outside ρ) (server : ServerState) (e : ρ × Connected) : Prop :=
  ∀ messageId, body.valueUInt64 "message_id" = .ok messageId →
    s.recallResponse sequence messageId true ∈ s.recallFrames sequence body o server e →
    (body.valueBool "is_group" false = .ok false →
      ∀ m, e.2.db.privateMessages.find? messageId = some m →
        (∀ u ∈ told server (s.recallFrames sequence body o server e),
          u = m.senderId ∨ u = m.targetId) ∧
        (Online server m.targetId →
          m.targetId ∈ told server (s.recallFrames sequence body o server e))) ∧
    (body.valueBool "is_group" false = .ok true →
      ∀ m, e.2.db.groupMessages.find? messageId = some m →
        ∀ u, u ∈ told server (s.recallFrames sequence body o server e) ↔
          u ∈ memberIds e.2.db m.targetId ∧ Online server u)

/-- `get_message_sender` finds a group message with the id. -/
def FindsGroupMessage (o : Outside ρ) (server : ServerState) (e : ρ × Connected)
    (messageId : Nat) : Prop :=
  (o.serving server).Finds messageId (s.task sequence body MessageType.messageRecall.code) e

end Session

namespace Outside

variable {o : Outside ρ} {e : ρ × Connected} {α : Type}

/-! ## The methods of the database -/

/-- The log of a method that never locks `mutex_` twice. -/
theorem log_lift {held : Bool} {q : DbProg α}
    (h : Obeys lockProtocol o.dbEnv held e q fun _ _ _ => True) :
    Prog.log o.env (lift held q).run e =
      (Prog.log o.dbEnv q e).map fun x => ⟨.db x.1, x.2⟩ := by
  induction q generalizing held e with
  | ret a => rfl
  | call c k ih =>
    obtain ⟨hlock, hk⟩ := h
    have hnext : lockProtocol.next held c (o.dbEnv e c).1 = holds held c := by
      cases c <;> rfl
    rw [hnext] at hk
    have hcall : Prog.log o.env (dbCall held c).run e = [⟨.db c, (o.dbEnv e c).1⟩] := by
      cases held with
      | false => cases c <;> rfl
      | true =>
        cases c
        case lock => cases hlock rfl
        all_goals rfl
    have hrun : Prog.run o.env (dbCall held c).run e = _ := run_dbCall hlock
    rw [lift, log_bindM, hcall, hrun]
    exact congrArg (_ :: ·) (ih _ hk)

theorem mem_db {c : Database.Call} {a : c.Answer}
    {xs : List ((c : Database.Call) × c.Answer)} :
    (⟨.db c, a⟩ : (c : Call) × c.Answer) ∈
        xs.map (fun x => (⟨.db x.1, x.2⟩ : (c : Call) × c.Answer)) ↔ ⟨c, a⟩ ∈ xs := by
  refine ⟨fun h => ?_, fun h => List.mem_map.2 ⟨_, h, rfl⟩⟩
  obtain ⟨⟨c', a'⟩, hx, heq⟩ := List.mem_map.1 h
  cases heq
  exact hx

/-- A statement that is an error leaves the tables alone. -/
theorem query_error {stmt : Stmt} (h : ∀ order d, Tables.exec order d stmt = .error) :
    (o.dbEnv e (.query stmt)).1 = false ∧ (o.dbEnv e (.query stmt)).2.2.db = e.2.db := by
  obtain ⟨r, c⟩ := e
  simp only [dbEnv, env, query, h]
  split <;> exact ⟨rfl, rfl⟩

/-- The run of a method: its result, the state it ends in, and its calls with their answers. -/
def Runs (o : Outside ρ) (q : DbProg α) (e : ρ × Connected) (a : α) (e' : ρ × Connected)
    (xs : List ((c : Database.Call) × c.Answer)) : Prop :=
  Prog.run o.dbEnv q e = (a, e') ∧ Prog.log o.dbEnv q e = xs

section
variable {β : Type} {q : DbProg α} {k : α → DbProg β} {a : α} {b : β} {e₁ e₂ : ρ × Connected}
  {xs ys : List ((c : Database.Call) × c.Answer)}

theorem runs_pure : o.Runs (pure a) e a e [] := ⟨rfl, rfl⟩

theorem Runs.bind (hq : o.Runs q e a e₁ xs) (hk : o.Runs (k a) e₁ b e₂ ys) :
    o.Runs (q >>= k) e b e₂ (xs ++ ys) := by
  constructor
  · rw [Prog.run_bind, hq.1]
    exact hk.1
  · rw [log_bind, hq.1, hq.2, hk.2]

theorem Runs.locked (hq : o.Runs q (o.dbEnv e .lock).2 a e₁ xs) :
    o.Runs (locked q) e a (o.dbEnv e₁ .unlock).2
      ([⟨.lock, (o.dbEnv e .lock).1⟩] ++ (xs ++ [⟨.unlock, (o.dbEnv e₁ .unlock).1⟩])) :=
  Runs.bind ⟨rfl, rfl⟩ (hq.bind ⟨rfl, rfl⟩)

/-- A SELECT that fails. -/
theorem runs_select_fails {stmt : Stmt} (h : (o.dbEnv e (.query stmt)).1 = false) :
    o.Runs (select stmt) e none (o.dbEnv e (.query stmt)).2 [⟨.query stmt, false⟩] := by
  have hquery : o.Runs (mysqlQuery stmt) e false (o.dbEnv e (.query stmt)).2
      [⟨.query stmt, false⟩] := by
    constructor
    · rw [run_mysqlQuery, ← h]
    · show [(⟨.query stmt, (o.dbEnv e (.query stmt)).1⟩ : (c : Database.Call) × c.Answer)] = _
      rw [h]
  exact hquery.bind runs_pure

/-- A SELECT that gets through. -/
theorem runs_select {stmt : Stmt} {rows : List Row} (hselect : stmt.isSelect = true)
    (hexec : ∀ order, e.2.db.exec order stmt = .select e.2.db (some rows))
    (h : (o.dbEnv e (.query stmt)).1 = true) : ∃ e',
    o.Runs (select stmt) e (some rows) e' [⟨.query stmt, true⟩, ⟨.storeResult, some rows⟩] := by
  have hafter : ∃ r, (o.dbEnv e (.query stmt)).2 = (r, ⟨e.2.db, some rows, none⟩) := by
    obtain ⟨r, c⟩ := e
    simp only [dbEnv, env, query, hexec, Tables.Outcome.select, hselect] at h ⊢
    split at h
    case isTrue hok => exact ⟨_, by rw [if_pos hok]; rfl⟩
    case isFalse => cases h
  obtain ⟨r, hr⟩ := hafter
  have hquery : o.Runs (mysqlQuery stmt) e true (r, ⟨e.2.db, some rows, none⟩)
      [⟨.query stmt, true⟩] := by
    constructor
    · rw [run_mysqlQuery, ← h, ← hr]
    · show [(⟨.query stmt, (o.dbEnv e (.query stmt)).1⟩ : (c : Database.Call) × c.Answer)] = _
      rw [h]
  exact ⟨_, hquery.bind ⟨rfl, rfl⟩⟩

end

/-- `get_message_sender` finds something exactly if the id is that of a group message, and the
    SELECT on `group_messages` gets through. -/
theorem run_getMessageSender (o : Outside ρ) (messageId : Nat) (e : ρ × Connected) :
    ∃ found e', o.run (db (getMessageSender messageId)) e = (.ok found, e') ∧
      (found.isSome = true ↔ o.Finds messageId (db (getMessageSender messageId)).run e) := by
  have hpaired : Obeys lockProtocol o.dbEnv false e (getMessageSender messageId)
      fun _ _ _ => True := by
    refine obeys_paired (paired_bind (paired_selectFirst rfl) fun row => ?_) e
    cases row with
    | none => exact paired_fetchFirst rfl
    | some row => exact paired_pure _
  have herror : ∀ order (d : Tables),
      d.exec order (.privateMessages (.senderAndGroup messageId)) = .error := fun _ _ => rfl
  obtain ⟨hfalse, hdb⟩ := @query_error _ o (o.dbEnv e .lock).2 _ herror
  -- the first SELECT fails
  have hfirst : o.Runs (selectFirst (.privateMessages (.senderAndGroup messageId)))
      (o.dbEnv e .lock).2 none _ _ := (runs_select_fails hfalse).bind runs_pure
  -- what a run of the second one gives
  have hruns : ∀ {row e₁ xs}, o.Runs (selectFirst (.groupMessages (.senderAndGroup messageId)))
      (o.dbEnv (o.dbEnv e .lock).2
        (.query (.privateMessages (.senderAndGroup messageId)))).2 row e₁ xs →
      (row.isSome = true ↔ (e.2.db.groupMessages.find? messageId).isSome ∧
        ⟨.query (.groupMessages (.senderAndGroup messageId)), true⟩ ∈ xs) →
      ∃ found e', o.run (db (getMessageSender messageId)) e = (.ok found, e') ∧
        (found.isSome = true ↔ o.Finds messageId (db (getMessageSender messageId)).run e) := by
    intro row e₁ xs hrow hiff
    have hmethod : o.Runs (getMessageSender messageId) e _ _ _ :=
      Runs.locked (Runs.bind hfirst (Runs.bind hrow runs_pure))
    refine ⟨_, _, run_lift hpaired, ?_⟩
    rw [Finds, db, log_lift hpaired, hmethod.1, hmethod.2, mem_db]
    simpa using hiff
  cases hok : (o.dbEnv (o.dbEnv (o.dbEnv e .lock).2 (.query (.privateMessages
      (.senderAndGroup messageId)))).2 (.query (.groupMessages (.senderAndGroup messageId)))).1 with
  | false =>
    have hsecond : o.Runs (selectFirst (.groupMessages (.senderAndGroup messageId))) _ none _ _ :=
      (runs_select_fails hok).bind runs_pure
    exact hruns hsecond (by simp)
  | true =>
    obtain ⟨e', hselect⟩ := runs_select rfl (fun _ => rfl) hok
    have hsecond : o.Runs (selectFirst (.groupMessages (.senderAndGroup messageId))) _ _ _ _ :=
      hselect.bind runs_pure
    refine hruns hsecond ?_
    have hlock : (o.dbEnv e .lock).2.2.db = e.2.db := rfl
    rw [hdb, hlock]
    cases e.2.db.groupMessages.find? messageId <;> simp

/-- `recall_private_message` returns, and leaves `group_messages` alone. -/
theorem run_recallPrivateMessage (o : Outside ρ) (messageId userId : Nat) (e : ρ × Connected) :
    ∃ recalled e', o.run (db (recallPrivateMessage messageId userId)) e = (.ok recalled, e') ∧
      e'.2.db.groupMessages = e.2.db.groupMessages := by
  have hpaired := obeys_paired (o := o) (paired_recallPrivateMessage messageId userId) e
  refine ⟨_, _, run_lift hpaired, ?_⟩
  have hspec : o.DbTriple e.2.db (recallPrivateMessage messageId userId) fun _ d' =>
      d'.groupMessages = e.2.db.groupMessages := by
    refine dbTriple_locked (dbTriple_bind (dbTriple_selectFirst
      ((e.2.db.privateMessages.find? messageId).toList.map fun m =>
        [.num m.senderId, .num m.createdAt]) rfl (fun _ => rfl) (.inl (dbTriple_pure rfl)) ?_))
    cases e.2.db.privateMessages.find? messageId with
    | none => exact dbTriple_pure rfl
    | some m =>
      have hrecall : o.DbTriple e.2.db (execute (.privateMessages (.recall messageId)))
          fun _ d' => d'.groupMessages = e.2.db.groupMessages :=
        dbTriple_mysqlQuery (.inl rfl) fun _ => rfl
      refine dbTriple_ite (dbTriple_pure rfl) (dbTriple_bind (dbTriple_getCurrentTimestamp
        fun now => ?_))
      exact dbTriple_ite (dbTriple_pure rfl) hrecall
  exact hspec e rfl

/-- `recall_group_message` returns only if it does not find the message. -/
theorem recallGroupMessage_never (o : Outside ρ) (messageId userId : Nat) (e : ρ × Connected) :
    (o.run (db (recallGroupMessage messageId userId)) e).1 ≠ .ok true := by
  have hnever : Follows (⟨fun _ _ => True, fun _ _ _ => ()⟩ : Protocol interface Unit) ()
      (db (recallGroupMessage messageId userId)).run fun r _ => r ≠ .ok true := by
    refine ⟨trivial, fun _ => ⟨trivial, fun ok => ?_⟩⟩
    cases ok with
    | false => exact ⟨trivial, fun _ h => by cases h⟩
    | true =>
      refine ⟨trivial, fun rows => ?_⟩
      rcases rows with _ | _ | ⟨row, rows⟩
      · exact ⟨trivial, fun _ h => by cases h⟩
      · exact ⟨trivial, fun _ h => by cases h⟩
      · -- the message is found, and `is_group_admin` locks
        exact fun h => by cases h
  exact Follows.log hnever o.env e

/-! ## The notifications -/

theorem run_forEach_send (o : Outside ρ) (frame : Frame) (xs : List SessionId)
    (e : ρ × Connected) : ∃ e', o.run (forEach (fun x => request (.send x frame)) xs) e =
      (.ok (), e') ∧
      o.frames (forEach (fun x => request (.send x frame)) xs) e = xs.map fun x => (x, frame) := by
  induction xs generalizing e with
  | nil => exact ⟨e, rfl, rfl⟩
  | cons x xs ih =>
    obtain ⟨e', hrun, hframes⟩ := ih (o.env e (.send x frame)).2
    refine ⟨e', ?_, ?_⟩
    · rw [forEach, run_bind, run_request]
      exact hrun
    · rw [forEach, frames_bind, run_request, frames_send]
      exact congrArg (_ :: ·) hframes

theorem run_broadcast (o : Outside ρ) (server : ServerState) (frame : Frame) (e : ρ × Connected) :
    ∃ e', (o.serving server).run (broadcast frame) e = (.ok (), e') ∧
      (o.serving server).frames (broadcast frame) e = (loggedIn server).map fun x => (x, frame) :=
  (o.serving server).run_forEach_send frame (loggedIn server) _

end Outside

namespace Session

variable {s : Session} {sequence : UInt32} {body : Json} {o : Outside ρ} {server : ServerState}
  {e : ρ × Connected} {messageId : Nat} {α β : Type}

/-- The notification that a private message was recalled. -/
def notice (s : Session) (sequence : UInt32) (messageId : Nat) (timestamp : Int) : Frame :=
  ⟨.messageRecall, sequence, recallJson s messageId none timestamp⟩

/-- A part of a handler that makes other calls, and what follows it. -/
theorem finds_bind {p : SessionM α} {f : α → SessionM β} {a : α} {e' : ρ × Connected}
    (hp : CallsOnly (· ≠ Outside.lookup messageId) p.run) (hrun : o.run p e = (.ok a, e'))
    (hdb : e'.2.db.groupMessages = e.2.db.groupMessages) :
    o.Finds messageId (p >>= f).run e ↔ o.Finds messageId (f a).run e' := by
  have hrun' : Prog.run o.env p.run e = (.ok a, e') := hrun
  have hnot : (⟨Outside.lookup messageId, true⟩ : (c : Call) × c.Answer) ∉ Prog.log o.env p.run e :=
    fun h => hp.log _ _ _ h rfl
  unfold Outside.Finds
  rw [log_bindM, hrun', hdb, List.mem_append, or_iff_right hnot]

/-- The other way round. -/
theorem finds_bind_left {p : SessionM α} {f : α → SessionM β}
    (hf : ∀ a, CallsOnly (· ≠ Outside.lookup messageId) (f a).run) :
    o.Finds messageId (p >>= f).run e ↔ o.Finds messageId p.run e := by
  unfold Outside.Finds
  rw [log_bindM, List.mem_append, or_iff_left]
  intro h
  split at h
  next a e' _ => exact (hf a).log _ _ _ h rfl
  next => cases h

theorem calls_recallPrivateMessage (messageId' userId : Nat) :
    CallsOnly (· ≠ Outside.lookup messageId) (db (recallPrivateMessage messageId' userId)).run := by
  have hcall : ∀ {c : Database.Call}, (∀ stmt, c ≠ .query stmt) →
      CallsOnly (fun c => Call.db c ≠ Outside.lookup messageId) (Database.request c) :=
    fun hc => ⟨fun h => hc _ (by injection h), fun _ => trivial⟩
  have hquery : ∀ stmt : PrivateMessageStmt, CallsOnly
      (fun c => Call.db c ≠ Outside.lookup messageId) (mysqlQuery (.privateMessages stmt)) :=
    fun stmt => ⟨fun h => (by cases h), fun _ => trivial⟩
  refine callsOnly_lift ?_ false
  refine callsOnly_bind (hcall fun _ h => by cases h) fun _ => callsOnly_bind ?_ fun _ =>
    callsOnly_bind (hcall fun _ h => by cases h) fun _ => trivial
  refine callsOnly_bind (callsOnly_bind (callsOnly_bind (hquery _) fun ok => callsOnly_ite trivial
    (hcall fun _ h => by cases h)) fun _ => trivial) fun row => ?_
  cases row with
  | none => trivial
  | some row =>
    exact callsOnly_ite trivial (callsOnly_bind (hcall fun _ h => by cases h) fun now =>
      callsOnly_ite trivial (hquery _))

theorem calls_broadcast (frame : Frame) :
    CallsOnly (· ≠ Outside.lookup messageId) (broadcast frame).run := by
  refine callsOnly_bindM (callsOnly_requestM fun h => by cases h) fun xs => ?_
  induction xs with
  | nil => exact callsOnly_pureM _
  | cons x xs ih => exact callsOnly_bindM (callsOnly_requestM fun h => by cases h) fun _ => ih

/-- The private branch: if it succeeds, everybody who is logged in is told, or nobody. -/
theorem recallPrivate_cases (o : Outside ρ) (server : ServerState) (messageId : Nat)
    (e : ρ × Connected) : ∃ recalled e',
    (o.serving server).run (recallPrivate s sequence messageId) e = (.ok recalled, e') ∧
    (recalled = false → (o.serving server).frames (recallPrivate s sequence messageId) e = []) ∧
    (recalled = true →
      ((o.serving server).Finds messageId (recallPrivate s sequence messageId).run e ∧
        ∃ timestamp, (o.serving server).frames (recallPrivate s sequence messageId) e =
          (loggedIn server).map fun x => (x, notice s sequence messageId timestamp)) ∨
      (¬ (o.serving server).Finds messageId (recallPrivate s sequence messageId).run e ∧
        (o.serving server).frames (recallPrivate s sequence messageId) e = [])) := by
  obtain ⟨recalled, e₁, hrecall, hgroups⟩ :=
    (o.serving server).run_recallPrivateMessage messageId s.userId e
  cases recalled with
  | false =>
    unfold recallPrivate
    rw [Outside.run_bind, Outside.frames_bind, hrecall, Outside.frames_db]
    exact ⟨false, e₁, rfl, fun _ => rfl, fun h => by cases h⟩
  | true =>
  obtain ⟨found, e₂, hfound, hiff⟩ := (o.serving server).run_getMessageSender messageId e₁
  -- the handler goes on after the recall
  have hfinds : (o.serving server).Finds messageId (recallPrivate s sequence messageId).run e ↔
      found.isSome = true := by
    refine (finds_bind (calls_recallPrivateMessage _ _) hrecall hgroups).trans ?_
    refine (finds_bind_left fun found => ?_).trans hiff.symm
    refine callsOnly_iteM ?_ (callsOnly_pureM _)
    refine callsOnly_bindM (callsOnly_requestM fun h => by cases h) fun _ => ?_
    exact callsOnly_bindM (calls_broadcast _) fun _ => callsOnly_pureM _
  rw [hfinds]
  unfold recallPrivate
  rw [Outside.run_bind, Outside.frames_bind, hrecall, Outside.frames_db]
  simp only [if_true, List.nil_append]
  rw [Outside.run_bind, Outside.frames_bind, hfound, Outside.frames_db]
  cases found with
  | none => exact ⟨true, e₂, rfl, fun h => (by cases h), fun _ => .inr ⟨by simp, rfl⟩⟩
  | some sender =>
    let e₃ := ((o.serving server).env e₂ .systemClock).2
    let frame := notice s sequence messageId ((o.serving server).env e₂ .systemClock).1
    obtain ⟨e₄, hbroadcast, hframes⟩ := o.run_broadcast server frame e₃
    have hrun : (o.serving server).run (broadcast frame >>= fun _ => pure true) e₃ =
        (.ok true, e₄) := by
      rw [Outside.run_bind, hbroadcast]
      rfl
    have hsent : (o.serving server).frames (broadcast frame >>= fun _ => pure true) e₃ =
        (loggedIn server).map fun x => (x, frame) := by
      rw [Outside.frames_bind, hbroadcast, hframes]
      exact List.append_nil _
    exact ⟨true, e₄, hrun, fun h => (by cases h), fun _ => .inl ⟨rfl, _, hsent⟩⟩

/-- The group branch never succeeds, and tells nobody. -/
theorem recallGroup_never (o : Outside ρ) (groupId : Nat) (e : ρ × Connected) :
    (o.run (recallGroup s sequence messageId groupId) e).1 ≠ .ok true ∧
      o.frames (recallGroup s sequence messageId groupId) e = [] := by
  have hresult := o.recallGroupMessage_never messageId s.userId e
  unfold recallGroup
  rw [Outside.run_bind, Outside.frames_bind, Outside.frames_db]
  cases hrun : o.run (db (recallGroupMessage messageId s.userId)) e with
  | mk r e' =>
    rw [hrun] at hresult
    cases r with
    | error stop => exact ⟨fun h => (by cases h), rfl⟩
    | ok recalled =>
      cases recalled with
      | false => exact ⟨fun h => (by cases h), rfl⟩
      | true => exact absurd rfl hresult

/-! ## The request -/

theorem recallFrames_eq : s.recallFrames sequence body o server e =
    (o.serving server).frames (s.handleMessageRecall sequence body) e :=
  congrArg Prod.fst ((o.serving server).handle_eq s sequence body MessageType.messageRecall.code e)

theorem findsGroupMessage_iff : s.FindsGroupMessage sequence body o server e messageId ↔
    (o.serving server).Finds messageId (s.handleMessageRecall sequence body).run e := by
  have hlog : Prog.log (o.serving server).env
      (s.task sequence body MessageType.messageRecall.code) e =
      Prog.log (o.serving server).env (s.handleMessageRecall sequence body).run e ++ [] :=
    log_bind _ _ _ _
  unfold FindsGroupMessage Outside.Finds
  rw [hlog, List.append_nil]

theorem response_ne (s : Session) (sequence : UInt32) (messageId : Nat) :
    s.recallResponse sequence messageId true ≠ s.recallResponse sequence messageId false := by
  simp [recallResponse, createResponse]

/-- The handler of a recall that succeeds gets as far as the recall. -/
theorem handleMessageRecall_cases {isGroup : Bool}
    (hid : body.valueUInt64 "message_id" = .ok messageId)
    (hgroup : body.valueBool "is_group" false = .ok isGroup)
    (hsucceeds : s.recallResponse sequence messageId true ∈
      s.recallFrames sequence body o server e) :
    ∃ groupId, s.handleMessageRecall sequence body =
      (if isGroup then recallGroup s sequence messageId groupId
        else recallPrivate s sequence messageId) >>= fun recalled =>
      request (.send s.id (s.recallResponse sequence messageId recalled).2) := by
  -- an ERROR is not the response
  have herror : ∀ code message, s.recallResponse sequence messageId true ∉
      (o.serving server).frames (s.sendError sequence code message) e := by
    intro code message h
    have heq : s.recallResponse sequence messageId true =
        (s.id, createError sequence code message) :=
      List.mem_singleton.1 h
    cases heq
  rw [recallFrames_eq] at hsucceeds
  unfold handleMessageRecall authenticatedOnly at hsucceeds ⊢
  cases hauth : s.authenticated with
  | false =>
    simp only [hauth] at hsucceeds
    exact absurd hsucceeds (herror _ _)
  | true =>
  simp only [hauth, if_true, read_bind hid, read_bind hgroup] at hsucceeds ⊢
  cases hgid : body.valueUInt64 "group_id" with
  | error err =>
    rw [hgid] at hsucceeds
    cases hsucceeds
  | ok groupId =>
  rw [read_bind hgid] at hsucceeds
  rw [read_bind rfl]
  by_cases hzero : messageId = 0
  · rw [if_pos hzero] at hsucceeds
    exact absurd hsucceeds (herror _ _)
  · rw [if_neg hzero]
    exact ⟨groupId, by cases isGroup <;> rfl⟩

/-- A recall that succeeds is a private one, and everybody who is logged in is told, or nobody. -/
theorem recallFrames_cases {isGroup : Bool}
    (hid : body.valueUInt64 "message_id" = .ok messageId)
    (hgroup : body.valueBool "is_group" false = .ok isGroup)
    (hsucceeds : s.recallResponse sequence messageId true ∈
      s.recallFrames sequence body o server e) :
    isGroup = false ∧
    ((s.FindsGroupMessage sequence body o server e messageId ∧ ∃ timestamp,
        s.recallFrames sequence body o server e =
          ((loggedIn server).map fun x => (x, notice s sequence messageId timestamp)) ++
            [s.recallResponse sequence messageId true]) ∨
      (¬ s.FindsGroupMessage sequence body o server e messageId ∧
        s.recallFrames sequence body o server e = [s.recallResponse sequence messageId true])) := by
  obtain ⟨groupId, hhandler⟩ := handleMessageRecall_cases hid hgroup hsucceeds
  have hfinds : s.FindsGroupMessage sequence body o server e messageId ↔
      (o.serving server).Finds messageId (s.handleMessageRecall sequence body).run e :=
    findsGroupMessage_iff
  rw [recallFrames_eq] at hsucceeds ⊢
  rw [hhandler] at hsucceeds hfinds ⊢
  cases isGroup with
  | true =>
    obtain ⟨hnever, hnone⟩ :
        ((o.serving server).run (recallGroup s sequence messageId groupId) e).1 ≠ .ok true ∧
          (o.serving server).frames (recallGroup s sequence messageId groupId) e = [] :=
      recallGroup_never (o.serving server) groupId e
    simp only [if_true] at hsucceeds
    rw [Outside.frames_bind, hnone] at hsucceeds
    split at hsucceeds
    next recalled e₁ hrun =>
      cases recalled with
      | true => exact absurd (congrArg Prod.fst hrun) hnever
      | false => exact absurd (List.mem_singleton.1 hsucceeds) (response_ne s sequence messageId)
    next => cases hsucceeds
  | false =>
  refine ⟨rfl, ?_⟩
  simp only [Bool.false_eq_true, if_false] at hsucceeds hfinds ⊢
  have hprivate := @recallPrivate_cases _ s sequence o server messageId e
  obtain ⟨recalled, e₁, hrun, hnone, hcases⟩ := hprivate
  have hlast : ∀ e, (o.serving server).frames (request (.send s.id
      (s.recallResponse sequence messageId recalled).2)) e =
        [s.recallResponse sequence messageId recalled] :=
    fun _ => rfl
  have hfinds' : s.FindsGroupMessage sequence body o server e messageId ↔
      (o.serving server).Finds messageId (recallPrivate s sequence messageId).run e :=
    hfinds.trans (finds_bind_left fun _ => callsOnly_requestM fun h => by cases h)
  rw [Outside.frames_bind, hrun] at hsucceeds ⊢
  simp only [hlast] at hsucceeds ⊢
  cases recalled with
  | false =>
    rw [hnone rfl] at hsucceeds
    exact absurd (List.mem_singleton.1 hsucceeds) (response_ne s sequence messageId)
  | true =>
    rw [hfinds']
    rcases hcases rfl with ⟨hfound, timestamp, hframes⟩ | ⟨hfound, hframes⟩
    · exact .inl ⟨hfound, timestamp, by rw [hframes]⟩
    · exact .inr ⟨hfound, by rw [hframes]; rfl⟩

theorem told_response : told server [s.recallResponse sequence messageId true] = [] := rfl

theorem mem_told_notices {timestamp : Int} {u : Nat} :
    u ∈ told server (((loggedIn server).map fun x => (x, notice s sequence messageId timestamp)) ++
      [s.recallResponse sequence messageId true]) ↔ Online server u := by
  have hnotices : (((loggedIn server).map fun x =>
      (x, notice s sequence messageId timestamp)).filter fun x => x.2.type = .messageRecall) =
        (loggedIn server).map fun x => (x, notice s sequence messageId timestamp) := by
    refine List.filter_eq_self.2 fun x hx => ?_
    obtain ⟨y, -, rfl⟩ := List.mem_map.1 hx
    rfl
  have hresponse : [s.recallResponse sequence messageId true].filter
      (fun x => x.2.type = .messageRecall) = [] := rfl
  unfold told
  rw [List.filter_append, hnotices, hresponse, List.append_nil]
  simp [Online]

/-- The right users are told of a successful recall exactly if nobody else is logged in, where
    `get_message_sender` finds a group message with the id, and the receiver is not online, where
    it does not. -/
theorem notifiesRight_iff (o : Outside ρ) (server : ServerState) (e : ρ × Connected) :
    s.NotifiesRight sequence body o server e ↔
      ∀ messageId m, body.valueUInt64 "message_id" = .ok messageId →
        body.valueBool "is_group" false = .ok false →
        s.recallResponse sequence messageId true ∈ s.recallFrames sequence body o server e →
        e.2.db.privateMessages.find? messageId = some m →
        (s.FindsGroupMessage sequence body o server e messageId →
          ∀ u, Online server u → u = m.senderId ∨ u = m.targetId) ∧
        (¬ s.FindsGroupMessage sequence body o server e messageId →
          ¬ Online server m.targetId) := by
  constructor
  · intro h messageId m hid hprivate hsucceeds hm
    obtain ⟨honly, hreceiver⟩ := (h messageId hid hsucceeds).1 hprivate m hm
    obtain ⟨-, ⟨hfound, timestamp, hframes⟩ | ⟨hfound, hframes⟩⟩ :=
      recallFrames_cases hid hprivate hsucceeds
    · rw [hframes] at honly
      exact ⟨fun _ u hu => honly u (mem_told_notices.2 hu), fun hnot => absurd hfound hnot⟩
    · rw [hframes, told_response] at hreceiver
      exact ⟨fun hyes => absurd hyes hfound, fun _ honline => by cases hreceiver honline⟩
  · intro h messageId hid hsucceeds
    refine ⟨fun hprivate m hm => ?_, fun hgroup m hm => ?_⟩
    · obtain ⟨honly, hreceiver⟩ := h messageId m hid hprivate hsucceeds hm
      obtain ⟨-, ⟨hfound, timestamp, hframes⟩ | ⟨hfound, hframes⟩⟩ :=
        recallFrames_cases hid hprivate hsucceeds
      · rw [hframes]
        exact ⟨fun u hu => honly hfound u (mem_told_notices.1 hu), mem_told_notices.2⟩
      · rw [hframes, told_response]
        exact ⟨fun u hu => (by cases hu), fun honline => absurd honline (hreceiver hfound)⟩
    · cases (recallFrames_cases hid hgroup hsucceeds).1

/-- Users 1 and 2, and a private message from 1 to 2. -/
def correspondence : Tables :=
  twoUsers ⟨⟨[⟨1, 1, 2, ⟨0⟩, "hello", "", "", .sent, 0⟩], List.nodup_singleton _⟩, 2, by decide⟩
    (by decide)

/-- Both are logged in. -/
def bothOnline : ServerState where
  sessions := (SortedMap.empty.insert 1 1).insert 2 2
  tempId := 0
  locked := false
  running := true
  session x := ⟨x, true, 0, true, true⟩
  created := 3
  accepting := none
  now := 0
  sent := []

/-- The receiver is online, and is not told. -/
theorem not_notifiesRight : ¬ Session.NotifiesRight ⟨1, 1, true⟩ 5
    (.object [("message_id", .number 1)]) quiet bothOnline ((), .idle correspondence) := by
  intro h
  have hframes : Session.recallFrames ⟨1, 1, true⟩ 5 (.object [("message_id", .number 1)]) quiet
      bothOnline ((), .idle correspondence) = [Session.recallResponse ⟨1, 1, true⟩ 5 1 true] := rfl
  have hmem : Session.recallResponse ⟨1, 1, true⟩ 5 1 true ∈ Session.recallFrames ⟨1, 1, true⟩ 5
      (.object [("message_id", .number 1)]) quiet bothOnline ((), .idle correspondence) := by
    rw [hframes]
    exact List.mem_singleton_self _
  have honline : Online bothOnline 2 := ⟨2, by decide, rfl⟩
  have htold := ((h 1 rfl hmem).1 rfl _ rfl).2 honline
  rw [hframes] at htold
  cases htold

end Session

end ChatApp.Session
