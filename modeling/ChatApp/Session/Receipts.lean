/-
  Store before acknowledge: PRIVATE_MESSAGE, GROUP_MESSAGE and ENCRYPTED_MESSAGE. A request is
  honest if every frame that tells of its message, to the sender or to anyone else, is sent after
  a row with that message was inserted, and if a rejected INSERT leaves the sender with one ERROR
  and nobody else with anything. `honest_iff` says when it is: `handle_encrypted_message` does not
  look at the result of the INSERT, and the numbers of a request are cast before they are stored.
-/
import ChatApp.Session.Anonymous

namespace ChatApp.Session

open ChatApp.Lib ChatApp.Lib.Prog ChatApp.Database ChatApp.Protocol

/-- The requests that send a message. -/
inductive Sending
  | privateMessage | groupMessage | encryptedMessage
  deriving DecidableEq

/-- `value(key, 0)` before the cast to the type of the variable -/
def number (body : Json) (key : String) : Except JsonError Int :=
  body.valueWith Json.getNumber key 0

namespace Sending

def type : Sending → MessageType
  | privateMessage => .privateMessage
  | groupMessage => .groupMessage
  | encryptedMessage => .encryptedMessage

def response : Sending → MessageType
  | privateMessage => .privateMessageResponse
  | groupMessage => .groupMessageResponse
  | encryptedMessage => .encryptedMessageResponse

/-- The member that names the receiver. -/
def key : Sending → String
  | groupMessage => "group_id"
  | _ => "receiver_id"

/-- The receiver as the handler casts it. -/
def cast : Sending → Int → Nat
  | encryptedMessage, n => toUInt64 n
  | _, n => toUInt64 (toInt32 n)

/-- The table of the message. -/
def rows : Sending → Tables → List MessageRow
  | groupMessage, d => d.groupMessages.rows
  | _, d => d.privateMessages.rows

/-- The sequence of the forwarded frame. -/
def forwardSequence (sequence : UInt32) : Sending → UInt32
  | encryptedMessage => sequence
  | _ => 0

/-- The answer to an INSERT into the table of the message. -/
def insertAnswer (k : Sending) : (c : Call) → c.Answer → Option Bool
  | .db (.query (.privateMessages (.insert ..))), ok => if k = groupMessage then none else some ok
  | .db (.query (.groupMessages (.insert ..))), ok => if k = groupMessage then some ok else none
  | _, _ => none

variable (k : Sending)

/-- The message that the frames carry for a row. -/
def message (row : MessageRow) : Message where
  messageId := row.messageId
  senderId := row.senderId
  receiverId := row.targetId
  groupId := if k = groupMessage then row.targetId else 0
  mediaType := row.mediaType
  content := row.content
  mediaUrl := row.mediaUrl
  extra := row.extra
  status := row.status
  createdAt := row.createdAt

variable (s : Session) (sequence : UInt32) (body : Json)

/-- The row has the sender, the receiver and the payload of the request. -/
structure Stores (row : MessageRow) : Prop where
  sender : row.senderId = s.userId
  receiver : number body k.key = .ok row.targetId
  mediaType : number body "media_type" = .ok row.mediaType.code.toNat
  mediaUrl : body.valueString "media_url" "" = .ok row.mediaUrl
  text : if k = encryptedMessage then
      ∃ encryptedKey encryptedContent iv,
        body.valueString "encrypted_key" "" = .ok encryptedKey ∧
        body.valueString "encrypted_content" "" = .ok encryptedContent ∧
        body.valueString "iv" "" = .ok iv ∧
        row.extra = Session.encryptedExtra encryptedKey encryptedContent iv
    else body.valueString "content" "" = .ok row.content ∧
      body.valueString "extra" "" = .ok row.extra

/-- The success response for the row, or its forwarded frame. -/
def Carries (row : MessageRow) (x : SessionId) (frame : Frame) : Prop :=
  (x = s.id ∧ frame = createResponse k.response sequence (messageJson (k.message row))) ∨
    frame = ⟨k.type, k.forwardSequence sequence, messageJson (k.message row)⟩

/-- A message of the bot to the sender. -/
def BotReply (frame : Frame) : Prop :=
  ∃ message : Message, message.receiverId = s.userId ∧
    frame = ⟨.privateMessage, 0, messageJson message⟩

/-- What may happen once the rows are inserted: an ERROR to the sender at any time, and everything
    else only with a row of the request. -/
def Allowed (stored : List MessageRow) : Call → Prop
  | .send x frame => (x = s.id ∧ frame.type = .error) ∨
      ∃ row ∈ stored, k.Stores s body row ∧ (k.Carries s sequence row x frame ∨ BotReply s frame)
  | .notifyJpush .. | .notifyFcm .. => ∃ row ∈ stored, k.Stores s body row
  | _ => True

variable {ρ : Type}

/-- The rows that a step inserts. -/
def inserted (x : Step interface (ρ × Connected)) : List MessageRow :=
  if k.insertAnswer x.call x.answer = some true then
    (k.rows x.after.2.db).filter fun row => decide (row ∉ k.rows x.before.2.db)
  else []

/-- Every step is allowed by the rows inserted before it. -/
def Honoured : List MessageRow → List (Step interface (ρ × Connected)) → Prop
  | _, [] => True
  | stored, x :: xs => k.Allowed s sequence body stored x.call ∧
      Honoured (stored ++ k.inserted x) xs

/-- The answer to the first INSERT of the message. -/
def outcome (xs : List (Step interface (ρ × Connected))) : Option Bool :=
  xs.findSome? fun x => k.insertAnswer x.call x.answer

/-- After a rejected INSERT the sender gets one ERROR, and nobody else gets a frame. -/
def Refused (xs : List (Step interface (ρ × Connected))) : Prop :=
  k.outcome xs = some false →
    ∃ frame : Frame, frame.type = .error ∧ sent (xs.map (·.call)) = [(s.id, frame)]

/-- The steps of the request. -/
def steps (o : Outside ρ) (e : ρ × Connected) : List (Step interface (ρ × Connected)) :=
  Prog.steps o.env (s.task sequence body k.type.code) e

def Honest (o : Outside ρ) (e : ρ × Connected) : Prop :=
  k.Honoured s sequence body [] (k.steps s sequence body o e) ∧
    k.Refused s (k.steps s sequence body o e)

/-- The casts keep the receiver and the media type of the request. -/
def Fits : Prop :=
  (∃ n, number body k.key = .ok n ∧ (k.cast n : Int) = n) ∧
    ∃ n, number body "media_type" = .ok n ∧ 0 ≤ n ∧ n < 256

/-! ## Steps before and after the INSERT -/

/-- A call that tells nobody anything and inserts no message. -/
def Calm : Call → Prop
  | .send .. | .notifyJpush .. | .notifyFcm .. => False
  | c => ∀ a, k.insertAnswer c a = none

/-- What `honest_iff` says, of a list of steps. -/
def Settled (xs : List (Step interface (ρ × Connected))) : Prop :=
  k.Honoured s sequence body [] xs ∧ k.Refused s xs ↔
    (k = encryptedMessage → k.outcome xs ≠ some false) ∧ (k.outcome xs = some true → k.Fits body)

section
variable {k s sequence body} {xs ys zs : List (Step interface (ρ × Connected))}
  {stored : List MessageRow}

theorem Calm.allowed {c : Call} (h : k.Calm c) : k.Allowed s sequence body stored c := by
  cases c <;> trivial

theorem Calm.insertAnswer {c : Call} (h : k.Calm c) (a : c.Answer) :
    k.insertAnswer c a = none := by
  cases c <;> first | exact h a | exact h.elim

theorem Calm.sent {c : Call} (h : k.Calm c) : sent [c] = [] := by
  cases c <;> first | rfl | exact h.elim

theorem sent_calm (h : ∀ x ∈ xs, k.Calm x.call) : sent (xs.map (·.call)) = [] := by
  induction xs with
  | nil => rfl
  | cons x xs ih =>
    obtain ⟨hx, hxs⟩ := List.forall_mem_cons.1 h
    rw [List.map_cons, ← List.singleton_append, sent_append, hx.sent, ih hxs]
    rfl

theorem outcome_calm (h : ∀ x ∈ xs, k.Calm x.call) : k.outcome xs = none :=
  List.findSome?_eq_none_iff.2 fun x hx => (h x hx).insertAnswer _

theorem outcome_append : k.outcome (xs ++ ys) = (k.outcome xs).or (k.outcome ys) :=
  List.findSome?_append

theorem honoured_calm (h : ∀ x ∈ xs, k.Calm x.call) :
    k.Honoured s sequence body stored (xs ++ ys) ↔ k.Honoured s sequence body stored ys := by
  induction xs with
  | nil => rfl
  | cons x xs ih =>
    obtain ⟨hx, hxs⟩ := List.forall_mem_cons.1 h
    have hnone : k.inserted x = [] := by
      unfold inserted
      rw [hx.insertAnswer]
      rfl
    show k.Allowed s sequence body stored x.call ∧
      k.Honoured s sequence body (stored ++ k.inserted x) (xs ++ ys) ↔ _
    rw [hnone, List.append_nil, and_iff_right hx.allowed]
    exact ih hxs

theorem settled_calm (h : ∀ x ∈ xs, k.Calm x.call) (hys : k.Settled s sequence body ys) :
    k.Settled s sequence body (xs ++ ys) := by
  unfold Settled Refused at hys ⊢
  rw [honoured_calm h, outcome_append, outcome_calm h, List.map_append, sent_append, sent_calm h]
  exact hys

/-- One ERROR, without an INSERT. -/
theorem settled_error {x : Step interface (ρ × Connected)} {frame : Frame}
    (hx : x.call = .send s.id frame) (hframe : frame.type = .error) :
    k.Settled s sequence body [x] := by
  obtain ⟨before, c, a, after⟩ := x
  cases hx
  have hnone : k.outcome [(⟨before, .send s.id frame, a, after⟩ : Step interface _)] = none := rfl
  unfold Settled Refused
  simp [hnone, Honoured, Allowed, hframe]

theorem settled_nil : k.Settled s sequence body ([] : List (Step interface (ρ × Connected))) := by
  unfold Settled Refused
  simp [outcome, Honoured]

/-- More rows allow more. -/
theorem Allowed.mono {more : List MessageRow} {c : Call} (h : k.Allowed s sequence body stored c) :
    k.Allowed s sequence body (stored ++ more) c := by
  cases c
  case send x frame =>
    refine h.imp_right ?_
    rintro ⟨row, hrow, h⟩
    exact ⟨row, List.mem_append_left _ hrow, h⟩
  case notifyJpush | notifyFcm =>
    obtain ⟨row, hrow, h⟩ := h
    exact ⟨row, List.mem_append_left _ hrow, h⟩
  all_goals trivial

theorem insertAnswer_query {c : Call} {a : c.Answer} {ok : Bool}
    (h : k.insertAnswer c a = some ok) :
    ∃ stmt, c = .db (.query stmt) := by
  cases c
  case db c =>
    cases c
    case query stmt => exact ⟨stmt, rfl⟩
    all_goals cases h
  all_goals cases h

theorem sent_insert {x : Step interface (ρ × Connected)} {ok : Bool}
    (hx : k.insertAnswer x.call x.answer = some ok) (hxs : ∀ x ∈ xs, k.Calm x.call)
    (hzs : ∀ x ∈ zs, k.Calm x.call) :
    sent ((xs ++ x :: zs ++ ys).map (·.call)) = sent (ys.map (·.call)) := by
  obtain ⟨stmt, hstmt⟩ := insertAnswer_query hx
  have hcons : sent ((x :: zs).map (·.call)) = sent (zs.map (·.call)) := by
    rw [List.map_cons, hstmt]
    rfl
  rw [List.map_append, List.map_append, sent_append, sent_append, sent_calm hxs, hcons,
    sent_calm hzs]
  rfl

theorem outcome_insert {x : Step interface (ρ × Connected)} {ok : Bool}
    (hx : k.insertAnswer x.call x.answer = some ok) (hxs : ∀ x ∈ xs, k.Calm x.call) :
    k.outcome (xs ++ x :: zs ++ ys) = some ok := by
  rw [List.append_assoc, outcome_append, outcome_calm hxs, Option.none_or]
  show List.findSome? _ (x :: (zs ++ ys)) = _
  rw [List.findSome?_cons, hx]

theorem honoured_insert {x : Step interface (ρ × Connected)} {ok : Bool}
    (hx : k.insertAnswer x.call x.answer = some ok) (hxs : ∀ x ∈ xs, k.Calm x.call)
    (hzs : ∀ x ∈ zs, k.Calm x.call) :
    k.Honoured s sequence body [] (xs ++ x :: zs ++ ys) ↔
      k.Honoured s sequence body (k.inserted x) ys := by
  obtain ⟨stmt, hstmt⟩ := insertAnswer_query hx
  have hallowed : k.Allowed s sequence body [] x.call := by
    rw [hstmt]
    trivial
  rw [List.append_assoc, honoured_calm hxs]
  show k.Allowed s sequence body [] x.call ∧
    k.Honoured s sequence body ([] ++ k.inserted x) (zs ++ ys) ↔ _
  rw [and_iff_right hallowed, honoured_calm hzs, List.nil_append]

/-- After a rejected INSERT. -/
theorem settled_rejected {x : Step interface (ρ × Connected)}
    (hx : k.insertAnswer x.call x.answer = some false) (hxs : ∀ x ∈ xs, k.Calm x.call)
    (hzs : ∀ x ∈ zs, k.Calm x.call)
    (h : k.Honoured s sequence body [] ys ∧
        (∃ frame : Frame, frame.type = .error ∧ sent (ys.map (·.call)) = [(s.id, frame)]) ↔
      k ≠ encryptedMessage) :
    k.Settled s sequence body (xs ++ x :: zs ++ ys) := by
  have hnone : k.inserted x = [] := by
    unfold inserted
    rw [hx]
    rfl
  unfold Settled Refused
  rw [honoured_insert hx hxs hzs, outcome_insert hx hxs, sent_insert hx hxs hzs, hnone]
  simpa using h

/-- After the INSERT of a row. -/
theorem settled_inserted {x : Step interface (ρ × Connected)} {row : MessageRow}
    (hx : k.insertAnswer x.call x.answer = some true) (hxs : ∀ x ∈ xs, k.Calm x.call)
    (hzs : ∀ x ∈ zs, k.Calm x.call) (hrow : k.inserted x = [row])
    (h : k.Honoured s sequence body [row] ys ↔ k.Fits body) :
    k.Settled s sequence body (xs ++ x :: zs ++ ys) := by
  unfold Settled Refused
  rw [honoured_insert hx hxs hzs, outcome_insert hx hxs, hrow]
  simpa using h

theorem honoured_of_allowed (h : ∀ x ∈ xs, k.Allowed s sequence body stored x.call) :
    k.Honoured s sequence body stored xs := by
  induction xs generalizing stored with
  | nil => trivial
  | cons x xs ih =>
    obtain ⟨hx, hxs⟩ := List.forall_mem_cons.1 h
    exact ⟨hx, ih fun y hy => (hxs y hy).mono⟩

end

/-! ## Saving the message -/

/-- `save_private_message` and `save_group_message`: the INSERT and the message it makes. -/
def saving (stmt : Int → Stmt) (message : Nat → Int → Message) : DbProg (Option Message) :=
  locked do
    let now ← getCurrentTimestamp
    if !(← mysqlQuery (stmt now)) then return none
    let messageId ← getLastInsertId
    return some (message messageId now)

/-- The statement inserts a row into the table of the message. -/
structure Inserts (stmt : Int → Stmt) (row : Nat → Int → MessageRow) : Prop where
  select : ∀ now, (stmt now).isSelect = false
  answer : ∀ now ok, k.insertAnswer (.db (.query (stmt now))) ok = some ok
  exec : ∀ order d now, ∃ id db?, Tables.exec order d (stmt now) = .insert id db? ∧
    ∀ d', db? = some d' → k.rows d' = k.rows d ++ [row id now] ∧ row id now ∉ k.rows d

section
variable {k} {stmt : Int → Stmt} {message : Nat → Int → Message} {row : Nat → Int → MessageRow}

theorem saved_cases (o : Outside ρ) (h : k.Inserts stmt row) (e : ρ × Connected) :
    ∃ xs x zs, Prog.steps o.env (db (saving stmt message)).run e = xs ++ x :: zs ∧
      (∀ y ∈ xs, k.Calm y.call) ∧ (∀ y ∈ zs, k.Calm y.call) ∧
      ((k.insertAnswer x.call x.answer = some false ∧
          (o.run (db (saving stmt message)) e).1 = .ok none) ∨
        ∃ id now, k.insertAnswer x.call x.answer = some true ∧ k.inserted x = [row id now] ∧
          (o.run (db (saving stmt message)) e).1 = .ok (some (message id now))) := by
  -- what is left of the method after the INSERT
  let rest (ok : Bool) (now : Int) : DbProg (Option Message) :=
    (if !ok then pure none else do
      let messageId ← getLastInsertId
      return some (message messageId now)) >>= fun a => unlockMutex >>= fun _ => pure a
  let e₁ := (o.env e (.db .lock)).2
  let now : Int := (o.env e₁ (.db .timestamp)).1
  let e₂ := (o.env e₁ (.db .timestamp)).2
  let c : Call := .db (.query (stmt now))
  let x : Step interface (ρ × Connected) := ⟨e₂, c, (o.env e₂ c).1, (o.env e₂ c).2⟩
  have hsteps : Prog.steps o.env (db (saving stmt message)).run e =
      [⟨e, .db .lock, (o.env e (.db .lock)).1, e₁⟩, ⟨e₁, .db .timestamp, now, e₂⟩] ++ x ::
        Prog.steps o.env (lift true (rest (o.env e₂ c).1 now)).run (o.env e₂ c).2 := rfl
  have hrun : o.run (db (saving stmt message)) e =
      o.run (lift true (rest (o.env e₂ c).1 now)) (o.env e₂ c).2 := rfl
  have hanswer : k.insertAnswer x.call x.answer = some (o.env e₂ c).1 := h.answer now _
  have hbefore : ∀ y ∈ ([⟨e, .db .lock, (o.env e (.db .lock)).1, e₁⟩,
      ⟨e₁, .db .timestamp, now, e₂⟩] : List (Step interface (ρ × Connected))), k.Calm y.call := by
    simp [Calm, insertAnswer]
  refine ⟨_, x, _, hsteps, hbefore, ?_⟩
  cases hok : (o.env e₂ c).1 with
  | false =>
    rw [hok] at hanswer hrun
    have hafter : ∀ y ∈ Prog.steps o.env (lift true (rest false now)).run (o.env e₂ c).2,
        k.Calm y.call := by
      intro y hy
      rw [List.mem_singleton.1 hy]
      exact fun _ => rfl
    exact ⟨hafter, .inl ⟨hanswer, by rw [hrun]; rfl⟩⟩
  | true =>
    rw [hok] at hanswer hrun
    obtain ⟨id, db?, hexec, hrows⟩ := h.exec (o.order e₂.1) e₂.2.db now
    obtain ⟨r', d', hd', henv⟩ := Outside.env_insert (h.select now) hexec hok
    obtain ⟨hnew, hfresh⟩ := hrows d' hd'
    have hafter : ∀ y ∈ Prog.steps o.env (lift true (rest true now)).run (o.env e₂ c).2,
        k.Calm y.call := by
      intro y hy
      rcases List.mem_pair.1 hy with rfl | rfl
      · exact fun _ => rfl
      · exact fun _ => rfl
    have hinserted : k.inserted x = [row id now] := by
      have hx : x.after = (r', ⟨d', none, some id⟩) := henv
      unfold inserted
      rw [if_pos hanswer, hx, hnew]
      simp [x, List.filter_append, hfresh]
    refine ⟨hafter, .inr ⟨id, now, hanswer, hinserted, ?_⟩⟩
    rw [hrun, henv]
    rfl

theorem callsOnly_saving {A : Call → Prop} {α : Type} {f : Option Message → SessionM α}
    (hA : ∀ c, A (.db c)) (hnone : CallsOnly A (f none).run)
    (hsome : ∀ id now, CallsOnly A (f (some (message id now))).run) :
    CallsOnly A (db (saving stmt message) >>= f).run := by
  refine ⟨hA _, fun _ => ⟨hA _, fun now => ⟨hA _, fun ok => ?_⟩⟩⟩
  cases ok with
  | false => exact ⟨hA _, fun _ => hnone⟩
  | true => exact ⟨hA _, fun id => ⟨hA _, fun _ => hsome id now⟩⟩

end

/-- The row of a message, for the receiver or the group `targetId`. -/
def rowOf (m : Message) (targetId id : Nat) (now : Int) : MessageRow :=
  ⟨id, m.senderId, targetId, m.mediaType, m.content, m.mediaUrl, m.extra, m.status, now⟩

theorem rows_insertPrivate {d d' : Tables} {r : Nat → MessageRow} {hr : ∀ n, (r n).messageId = n}
    (h : d.insertPrivate r hr = some d') :
    d'.privateMessages.rows = d.privateMessages.rows ++ [r d.privateMessages.next] := by
  unfold Tables.insertPrivate at h
  split at h
  · cases h
    rfl
  · cases h

theorem rows_insertGroup {d d' : Tables} {r : Nat → MessageRow} {hr : ∀ n, (r n).messageId = n}
    (h : d.insertGroup r hr = some d') :
    d'.groupMessages.rows = d.groupMessages.rows ++ [r d.groupMessages.next] := by
  unfold Tables.insertGroup at h
  split at h
  · cases h
    rfl
  · cases h

theorem fresh_row {t : SerialTable MessageRow.messageId} {row : MessageRow}
    (h : row.messageId = t.next) : row ∉ t.rows := by
  intro hmem
  have hlt := t.below row hmem
  omega

theorem inserts_private {k : Sending} (hk : k ≠ groupMessage) (m : Message) :
    k.Inserts (fun now => .privateMessages (.insert m.senderId m.receiverId m.mediaType m.content
      m.mediaUrl m.extra m.status now)) (rowOf m m.receiverId) where
  select _ := rfl
  answer now ok := if_neg hk
  exec order d now := by
    refine ⟨_, _, rfl, fun d' hd' => ?_⟩
    have hrows := rows_insertPrivate hd'
    have hk : ∀ d, k.rows d = d.privateMessages.rows := by
      cases k <;> first | exact fun _ => rfl | exact absurd rfl hk
    rw [hk, hk]
    exact ⟨hrows, fresh_row rfl⟩

theorem inserts_group (m : Message) :
    groupMessage.Inserts (fun now => .groupMessages (.insert m.groupId m.senderId m.mediaType
      m.content m.mediaUrl m.extra m.status now)) (rowOf m m.groupId) where
  select _ := rfl
  answer _ _ := rfl
  exec order d now := by
    refine ⟨_, _, rfl, fun d' hd' => ?_⟩
    exact ⟨rows_insertGroup hd', fresh_row rfl⟩

/-! ## What tells of the message -/

/-- A call that tells of the row, or of a message of the bot. -/
def Spreads (row : MessageRow) : Call → Prop
  | .send x frame => k.Carries s sequence row x frame ∨ BotReply s frame
  | _ => True

section
variable {k s sequence body} {row : MessageRow}

theorem Spreads.allowed {c : Call} (h : k.Spreads s sequence row c)
    (hrow : k.Stores s body row) : k.Allowed s sequence body [row] c := by
  cases c
  case send x frame => exact .inr ⟨row, List.mem_singleton_self _, hrow, h⟩
  case notifyJpush | notifyFcm => exact ⟨row, List.mem_singleton_self _, hrow⟩
  all_goals trivial

/-- The response, and what the handler does after it. -/
theorem honoured_respond (o : Outside ρ) {tail : SessionM Unit}
    (htail : CallsOnly (k.Spreads s sequence row) tail.run) (e : ρ × Connected) :
    k.Honoured s sequence body [row] (Prog.steps o.env (do
        s.respond sequence k.response (messageJson (k.message row))
        tail : SessionM Unit).run e) ↔ k.Stores s body row := by
  let response := createResponse k.response sequence (messageJson (k.message row))
  constructor
  · intro h
    rcases h.1 with ⟨-, htype⟩ | ⟨row', hrow', hstores, -⟩
    · cases k <;> cases htype
    · rwa [← List.mem_singleton.1 hrow']
  · intro hstores
    refine honoured_of_allowed fun x hx => ?_
    rw [steps_bindM] at hx
    rcases List.mem_append.1 hx with hx | hx
    · rw [List.mem_singleton.1 hx]
      have hcarries : k.Carries s sequence row s.id response := .inl ⟨rfl, rfl⟩
      exact Spreads.allowed (c := .send s.id response) (.inl hcarries) hstores
    · exact (htail.steps _ _ x hx).allowed hstores

theorem spreads_db {α : Type} (p : DbProg α) :
    CallsOnly (k.Spreads s sequence row) (db p).run := callsOnly_db (fun _ => trivial) p

theorem spreads_sendToUser {userId : Nat} {frame : Frame}
    (h : ∀ x, k.Carries s sequence row x frame ∨ BotReply s frame) :
    CallsOnly (k.Spreads s sequence row) (sendToUser userId frame).run := by
  refine callsOnly_bindM (callsOnly_requestM trivial) fun x => ?_
  cases x with
  | none => exact callsOnly_pureM _
  | some x => exact callsOnly_requestM (h x)

theorem spreads_senderName : CallsOnly (k.Spreads s sequence row) (Session.senderName s).run := by
  refine callsOnly_bindM (spreads_db _) fun user => ?_
  cases user
  · exact callsOnly_pureM _
  · exact callsOnly_pureM _

theorem spreads_checkPush (returned : Bool) :
    CallsOnly (k.Spreads s sequence row) (Session.checkPush returned).run := by
  cases returned <;> trivial

theorem spreads_pushNotification (receiverId : Nat) (title text : String) :
    CallsOnly (k.Spreads s sequence row) (Session.pushNotification receiverId title text).run := by
  have hfcm : CallsOnly (k.Spreads s sequence row) (do
      if ← request .hasFcm then
        Session.checkPush (← request (.notifyFcm receiverId title text)) : SessionM Unit).run :=
    callsOnly_bindM (callsOnly_requestM trivial) fun _ => callsOnly_iteM
      (callsOnly_bindM (callsOnly_requestM trivial) spreads_checkPush) (callsOnly_pureM _)
  refine callsOnly_bindM (callsOnly_requestM trivial) fun _ => callsOnly_iteM ?_ hfcm
  exact callsOnly_bindM (callsOnly_requestM trivial) fun _ =>
    callsOnly_bindM (spreads_checkPush _) fun _ => hfcm

theorem spreads_reply (config : BotConfig) (content : String) :
    CallsOnly (k.Spreads s sequence row) (BotManager.reply config s.userId content).run := by
  refine callsOnly_bindM (callsOnly_requestM trivial) fun blank => ?_
  refine callsOnly_bindM (callsOnly_requestM trivial) fun now => ?_
  refine callsOnly_saving (fun _ => trivial) ?_ fun id now => ?_
  · exact spreads_sendToUser fun _ => .inr ⟨_, rfl, rfl⟩
  · exact spreads_sendToUser fun _ => .inr ⟨_, rfl, rfl⟩

theorem spreads_sessionLines (userId : Nat) (sessions : List String) :
    CallsOnly (k.Spreads s sequence row) (BotManager.sessionLines userId sessions).run := by
  induction sessions with
  | nil => exact callsOnly_pureM _
  | cons session sessions ih =>
    exact callsOnly_bindM (spreads_db _) fun _ => callsOnly_bindM ih fun _ => callsOnly_pureM _

theorem spreads_handleBotMessage (config : BotConfig) (content : String) (messageId : Nat) :
    CallsOnly (k.Spreads s sequence row)
      (BotManager.handleBotMessage config s.userId content messageId).run := by
  refine callsOnly_iteM (callsOnly_pureM _) (callsOnly_bindM (callsOnly_requestM trivial)
    fun entered => ?_)
  refine callsOnly_iteM (callsOnly_pureM _) (callsOnly_bindM (callsOnly_requestM trivial)
    fun conversation => ?_)
  refine callsOnly_bindM (spreads_db _) fun charCount => callsOnly_iteM (spreads_reply _ _) ?_
  refine callsOnly_iteM ?_ (callsOnly_iteM ?_ ?_)
  · refine callsOnly_bindM (spreads_db _) fun newSession => ?_
    exact callsOnly_bindM (callsOnly_requestM trivial) fun _ => spreads_reply _ _
  · refine callsOnly_bindM (spreads_db _) fun sessions => ?_
    exact callsOnly_bindM (spreads_sessionLines _ _) fun _ => spreads_reply _ _
  · refine callsOnly_bindM (spreads_db _) fun _ => callsOnly_bindM (spreads_db _) fun _ => ?_
    exact callsOnly_requestM trivial

/-- The push notification, and the answer of the bot. -/
theorem spreads_privatePush (mediaType : Int) :
    CallsOnly (privateMessage.Spreads s sequence row) (do
      let title ← Session.senderName s
      Session.pushNotification row.targetId title (Session.notificationBody mediaType row.content)
      match ← request .bot with
      | some config =>
        if row.targetId = config.botUserId then
          BotManager.handleBotMessage config s.userId row.content row.messageId
      | none => pure () : SessionM Unit).run := by
  refine callsOnly_bindM spreads_senderName fun _ => ?_
  refine callsOnly_bindM (spreads_pushNotification _ _ _) fun _ => ?_
  refine callsOnly_bindM (callsOnly_requestM trivial) fun config => ?_
  cases config with
  | none => exact callsOnly_pureM _
  | some config => exact callsOnly_iteM (spreads_handleBotMessage _ _ _) (callsOnly_pureM _)

/-- What `handle_private_message` does after the response to the row. -/
theorem spreads_afterPrivateMessage (mediaType : Int) :
    CallsOnly (privateMessage.Spreads s sequence row)
      (Session.afterPrivateMessage s (privateMessage.message row) mediaType).run := by
  have hpush := @spreads_privatePush s sequence row mediaType
  refine callsOnly_bindM (callsOnly_requestM trivial) fun active => callsOnly_iteM ?_ hpush
  exact callsOnly_bindM (spreads_sendToUser fun _ => .inl (.inr rfl)) fun _ => hpush

/-- What `handle_group_message` does after the response to the row. -/
theorem spreads_afterGroupMessage (groupId : Nat) (mediaType : Int) :
    CallsOnly (groupMessage.Spreads s sequence row)
      (Session.afterGroupMessage s groupId (groupMessage.message row) mediaType).run := by
  have hloop : ∀ (groupName text : String) (memberIds : List Nat),
      CallsOnly (groupMessage.Spreads s sequence row) (forEach
        (Session.forwardToMember s (groupMessage.message row) groupName text) memberIds).run := by
    intro groupName text memberIds
    induction memberIds with
    | nil => exact callsOnly_pureM _
    | cons memberId memberIds ih =>
      refine callsOnly_bindM (callsOnly_iteM (callsOnly_pureM _) ?_) fun _ => ih
      refine callsOnly_bindM (callsOnly_requestM trivial) fun active => callsOnly_iteM ?_ ?_
      · exact spreads_sendToUser fun _ => .inl (.inr rfl)
      · exact spreads_pushNotification _ _ _
  refine callsOnly_bindM (callsOnly_bindM (spreads_db _) fun _ => callsOnly_pureM _)
    fun members => ?_
  refine callsOnly_bindM (spreads_db _) fun group => ?_
  cases group
  · exact callsOnly_bindM spreads_senderName fun _ => hloop _ _ _
  · exact callsOnly_bindM spreads_senderName fun _ => hloop _ _ _

end

/-! ## The numbers of a request -/

section
variable {k s body} {key : String} {row : MessageRow}

/-- A cast of the number is a cast of what `value` returns. -/
theorem valueWith_map {α : Type} (f : Int → α) :
    body.valueWith (fun member => f <$> member.getNumber) key (f 0) = f <$> number body key := by
  unfold number Json.valueWith
  cases body.isObject with
  | false => rfl
  | true => cases body.find? key <;> rfl

theorem valueId_eq : body.valueId key = (fun n => toUInt64 (toInt32 n)) <$> number body key := by
  have h : body.valueInt key 0 = toInt32 <$> number body key := valueWith_map toInt32
  unfold Json.valueId
  rw [h]
  cases number body key <;> rfl

theorem valueUInt64_eq : body.valueUInt64 key = toUInt64 <$> number body key :=
  valueWith_map toUInt64

theorem mediaType_eq {n : Int} :
    ((Session.toMediaType (toInt32 n)).code.toNat : Int) = n ↔ 0 ≤ n ∧ n < 256 := by
  have hcode : ((Session.toMediaType (toInt32 n)).code.toNat : Int) = n % 256 := by
    unfold Session.toMediaType toInt32 UInt8.ofInt
    have hmod : Int.bmod n (2 ^ 32) % 2 ^ 8 = n % 2 ^ 8 := by
      rw [Int.bmod_def]
      split <;> omega
    rw [hmod, UInt8.toNat_ofNat']
    omega
  rw [hcode]
  omega

/-- The row keeps what the handler read, if the casts do. -/
theorem stores_iff {receiverId : Nat} {mediaType : Int}
    (hreceiver : (k.cast · : Int → Nat) <$> number body k.key = .ok receiverId)
    (hmediaType : body.valueInt "media_type" 0 = .ok mediaType)
    (hsender : row.senderId = s.userId) (htarget : row.targetId = receiverId)
    (hcode : row.mediaType = Session.toMediaType mediaType)
    (hurl : body.valueString "media_url" "" = .ok row.mediaUrl)
    (htext : if k = encryptedMessage then
        ∃ encryptedKey encryptedContent iv,
          body.valueString "encrypted_key" "" = .ok encryptedKey ∧
          body.valueString "encrypted_content" "" = .ok encryptedContent ∧
          body.valueString "iv" "" = .ok iv ∧
          row.extra = Session.encryptedExtra encryptedKey encryptedContent iv
      else body.valueString "content" "" = .ok row.content ∧
        body.valueString "extra" "" = .ok row.extra) :
    k.Stores s body row ↔ k.Fits body := by
  have hmedia : body.valueInt "media_type" 0 = toInt32 <$> number body "media_type" :=
    valueWith_map toInt32
  rw [hmedia] at hmediaType
  cases hr : number body k.key with
  | error e =>
    rw [hr] at hreceiver
    cases hreceiver
  | ok r =>
  cases hm : number body "media_type" with
  | error e =>
    rw [hm] at hmediaType
    cases hmediaType
  | ok m =>
  rw [hr] at hreceiver
  rw [hm] at hmediaType
  cases hreceiver
  cases hmediaType
  have hstores : k.Stores s body row ↔ r = k.cast r ∧ m = (row.mediaType.code.toNat : Int) := by
    constructor
    · rintro ⟨-, h₁, h₂, -, -⟩
      rw [hr, htarget] at h₁
      rw [hm] at h₂
      exact ⟨by injection h₁, by injection h₂⟩
    · rintro ⟨h₁, h₂⟩
      exact ⟨hsender, by rw [hr, htarget, ← h₁], by rw [hm, ← h₂], hurl, htext⟩
  have hfits : k.Fits body ↔ (k.cast r : Int) = r ∧ 0 ≤ m ∧ m < 256 := by
    unfold Fits
    rw [hr, hm]
    simp
  rw [hstores, hfits, hcode, eq_comm, @eq_comm _ m, mediaType_eq]

end

/-! ## The handlers -/

/-- What `honest_iff` says, of the runs of a handler or of its rest before the INSERT. -/
def Settles (o : Outside ρ) (p : SessionM Unit) : Prop :=
  ∀ e, k.Settled s sequence body (Prog.steps o.env p.run e)

section
variable {k s sequence body} {o : Outside ρ} {α : Type}

theorem settles_sendError (code : Int) (message : String) :
    k.Settles s sequence body o (s.sendError sequence code message) :=
  fun _ => settled_error rfl rfl

theorem settles_read {x : Except JsonError α} {f : α → SessionM Unit}
    (h : ∀ a, x = .ok a → k.Settles s sequence body o (f a)) :
    k.Settles s sequence body o (read x >>= f) := by
  cases x with
  | ok a => exact h a rfl
  | error e => exact fun _ => settled_nil

theorem settles_ite {b : Prop} [Decidable b] {p q : SessionM Unit}
    (hp : k.Settles s sequence body o p) (hq : k.Settles s sequence body o q) :
    k.Settles s sequence body o (if b then p else q) := by
  split
  · exact hp
  · exact hq

theorem settles_authenticatedOnly {p : SessionM Unit} (hp : k.Settles s sequence body o p) :
    k.Settles s sequence body o (s.authenticatedOnly sequence p) :=
  settles_ite hp (settles_sendError _ _)

/-- What comes before the INSERT. -/
theorem settles_calm {p : SessionM α} {f : α → SessionM Unit} (hp : CallsOnly k.Calm p.run)
    (hf : ∀ a, k.Settles s sequence body o (f a)) : k.Settles s sequence body o (p >>= f) := by
  intro e
  rw [steps_bindM]
  refine settled_calm (hp.steps _ _) ?_
  split
  next a e' _ => exact hf a e'
  next => exact settled_nil

/-- The INSERT, and what the handler does with its result. -/
theorem settles_saving {stmt : Int → Stmt} {message : Nat → Int → Message}
    {row : Nat → Int → MessageRow} {f : Option Message → SessionM Unit} (h : k.Inserts stmt row)
    (hnone : ∀ e, let ys := Prog.steps o.env (f none).run e
      k.Honoured s sequence body [] ys ∧
          (∃ frame : Frame, frame.type = .error ∧ sent (ys.map (·.call)) = [(s.id, frame)]) ↔
        k ≠ encryptedMessage)
    (hsome : ∀ id now e, k.Honoured s sequence body [row id now]
      (Prog.steps o.env (f (some (message id now))).run e) ↔ k.Fits body) :
    k.Settles s sequence body o (db (saving stmt message) >>= f) := by
  intro e
  have hsaved := @saved_cases _ _ _ message _ o h e
  obtain ⟨xs, x, zs, hsteps, hxs, hzs, hcases⟩ := hsaved
  rw [steps_bindM, hsteps]
  have hrun : Prog.run o.env (db (saving stmt message)).run e =
      o.run (db (saving stmt message)) e := rfl
  rw [hrun]
  rcases hr : o.run (db (saving stmt message)) e with ⟨r, e'⟩
  rw [hr] at hcases
  rcases hcases with ⟨hx, hresult⟩ | ⟨id, now, hx, hrow, hresult⟩
  · cases hresult
    exact settled_rejected hx hxs hzs (hnone e')
  · cases hresult
    exact settled_inserted hx hxs hzs hrow (hsome id now e')

/-- An ERROR after a rejected INSERT. -/
theorem refused_error (hk : k ≠ encryptedMessage) (code : Int) (message : String)
    (e : ρ × Connected) : let ys := Prog.steps o.env (s.sendError sequence code message).run e
    k.Honoured s sequence body [] ys ∧
        (∃ frame : Frame, frame.type = .error ∧ sent (ys.map (·.call)) = [(s.id, frame)]) ↔
      k ≠ encryptedMessage :=
  iff_of_true ⟨⟨.inl ⟨rfl, rfl⟩, trivial⟩, createError sequence code message, rfl, rfl⟩ hk

theorem settles_privateMessage :
    privateMessage.Settles s sequence body o (s.handlePrivateMessage sequence body) := by
  refine settles_authenticatedOnly (settles_read fun receiverId hreceiver => settles_read fun
    content hcontent => settles_read fun mediaType hmediaType => settles_read fun mediaUrl hurl =>
    settles_read fun extra hextra => settles_ite (settles_sendError _ _) ?_)
  let m : Message := ⟨0, s.userId, receiverId, 0, Session.toMediaType mediaType, content, mediaUrl,
    extra, .sent, 0⟩
  unfold MessageManager.sendPrivateMessage
  rw [bind_assoc]
  refine settles_saving (inserts_private (by decide) m) (refused_error (by decide) _ _) ?_
  intro id now e
  let row := rowOf m receiverId id now
  have htail : CallsOnly (privateMessage.Spreads s sequence row)
      (Session.afterPrivateMessage s (privateMessage.message row) mediaType).run :=
    spreads_afterPrivateMessage mediaType
  refine (honoured_respond o htail e).trans ?_
  exact stores_iff (valueId_eq.symm.trans hreceiver) hmediaType rfl rfl rfl hurl
    ⟨hcontent, hextra⟩

/-- The membership test inserts no message. -/
theorem calm_isGroupMember (groupId userId : Nat) :
    CallsOnly groupMessage.Calm (db (isGroupMember groupId userId)).run := by
  refine ⟨fun _ => rfl, fun _ => ⟨fun _ => rfl, fun ok => ?_⟩⟩
  cases ok with
  | false => exact ⟨fun _ => rfl, fun _ => trivial⟩
  | true => exact ⟨fun _ => rfl, fun _ => ⟨fun _ => rfl, fun _ => trivial⟩⟩

theorem settles_groupMessage :
    groupMessage.Settles s sequence body o (s.handleGroupMessage sequence body) := by
  refine settles_authenticatedOnly (settles_read fun groupId hgroup => settles_read fun
    content hcontent => settles_read fun mediaType hmediaType => settles_read fun mediaUrl hurl =>
    settles_read fun extra hextra => settles_ite (settles_sendError _ _) ?_)
  let m : Message := ⟨0, s.userId, groupId, groupId, Session.toMediaType mediaType, content,
    mediaUrl, extra, .sent, 0⟩
  unfold MessageManager.sendGroupMessage
  rw [bind_assoc]
  refine settles_calm (calm_isGroupMember groupId s.userId) fun member => ?_
  cases member with
  | false => exact settles_sendError _ _
  | true =>
  rw [if_neg (by decide), bind_assoc]
  refine settles_saving (inserts_group m) (refused_error (by decide) _ _) ?_
  intro id now e
  let row := rowOf m groupId id now
  have htail : CallsOnly (groupMessage.Spreads s sequence row)
      (Session.afterGroupMessage s groupId (groupMessage.message row) mediaType).run :=
    spreads_afterGroupMessage groupId mediaType
  refine (honoured_respond o htail e).trans ?_
  exact stores_iff (valueId_eq.symm.trans hgroup) hmediaType rfl rfl rfl hurl ⟨hcontent, hextra⟩

theorem settles_encryptedMessage :
    encryptedMessage.Settles s sequence body o (s.handleEncryptedMessage sequence body) := by
  refine settles_authenticatedOnly (settles_read fun receiverId hreceiver => settles_read fun
    key hkey => settles_read fun content hcontent => settles_read fun iv hiv =>
    settles_read fun mediaType hmediaType => settles_read fun mediaUrl hurl =>
    settles_ite (settles_sendError _ _) ?_)
  refine settles_calm (callsOnly_requestM fun _ => rfl) fun blank => ?_
  refine settles_calm (callsOnly_requestM fun _ => rfl) fun createdAt => ?_
  let m : Message := ⟨blank.messageId, s.userId, receiverId, 0, Session.toMediaType mediaType,
    "[加密消息]", mediaUrl, Session.encryptedExtra key content iv, .sent, createdAt⟩
  refine settles_saving (inserts_private (by decide) m) (fun e => ?_) ?_
  · -- the response is not allowed
    refine iff_of_false ?_ (by simp)
    rintro ⟨⟨⟨-, htype⟩ | ⟨row, hrow, -⟩, -⟩, -⟩
    · cases htype
    · cases hrow
  · intro id now e
    let row := rowOf m receiverId id now
    have htail : CallsOnly (encryptedMessage.Spreads s sequence row)
        (sendToUser receiverId ⟨.encryptedMessage, sequence,
          messageJson (encryptedMessage.message row)⟩).run :=
      spreads_sendToUser fun _ => .inl (.inr rfl)
    refine (honoured_respond o htail e).trans ?_
    exact stores_iff (valueUInt64_eq.symm.trans hreceiver) hmediaType rfl rfl rfl hurl
      ⟨key, content, iv, hkey, hcontent, hiv, rfl⟩

end

/-! ## When the receipt is honest -/

variable {s sequence body} in
theorem settled_steps {o : Outside ρ} {p : SessionM Unit}
    (hp : s.handleMessage sequence body k.type.code = p) (h : k.Settles s sequence body o p)
    (e : ρ × Connected) : k.Settled s sequence body (k.steps s sequence body o e) := by
  have hnil : ∀ e, Prog.steps o.env (pure () : Prog interface Unit) e = [] := fun _ => rfl
  unfold steps Session.task
  rw [Prog.steps_bind, hp, hnil, List.append_nil]
  exact h e

/-- A request is honest exactly if the database does not reject the INSERT of an
    ENCRYPTED_MESSAGE and, when the INSERT goes through, the casts keep the numbers. -/
theorem honest_iff (o : Outside ρ) (e : ρ × Connected) :
    k.Honest s sequence body o e ↔
      (k = encryptedMessage → k.outcome (k.steps s sequence body o e) ≠ some false) ∧
      (k.outcome (k.steps s sequence body o e) = some true → k.Fits body) := by
  cases k with
  | privateMessage => exact settled_steps _ rfl settles_privateMessage e
  | groupMessage => exact settled_steps _ rfl settles_groupMessage e
  | encryptedMessage => exact settled_steps _ rfl settles_encryptedMessage e

/-- An ENCRYPTED_MESSAGE to a user that does not exist is acknowledged. -/
theorem not_honest_encryptedMessage :
    ¬ encryptedMessage.Honest ⟨1, 1, true⟩ 7 (.object [("receiver_id", .number 2),
        ("encrypted_key", .string "k"), ("encrypted_content", .string "c")])
      quiet ((), .idle (loneUser 1)) := by
  intro h
  have hrejected : encryptedMessage.outcome (encryptedMessage.steps ⟨1, 1, true⟩ 7 (.object
      [("receiver_id", .number 2), ("encrypted_key", .string "k"),
        ("encrypted_content", .string "c")]) quiet ((), .idle (loneUser 1))) = some false := by
    rfl
  exact ((settled_steps _ rfl settles_encryptedMessage _).1 h).1 rfl hrejected

end Sending

end ChatApp.Session
