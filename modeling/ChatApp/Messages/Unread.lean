/-
  What is unread. `MessageManager` and `Database` derive it from the column `status`: a message is
  saved as SENT, `mark_messages_read` sets READ in one direction of a conversation, and a recall
  leaves the column alone. `sinceMark` counts the messages of a history instead, and
  `unread_since_mark` says that the two agree after every run.

  A call of `Database` is one step on the tables, with circumstances of its own (`Moment`). The
  history has what succeeded: a message that was not saved and a mark that failed are not in it.
-/
import ChatApp.Database.Atomic
import ChatApp.Database.Tables
import ChatApp.Session.Managers

namespace ChatApp.Messages

open ChatApp.Lib ChatApp.Database

/-! ## Statements -/

/-- sender_id, receiver_id and status < 3 -/
def unreadFrom (senderId receiverId : Nat) (m : MessageRow) : Bool :=
  decide (m.senderId = senderId ∧ m.targetId = receiverId ∧ m.status.code < 3)

/-- UPDATE status = 3 -/
def readFrom (senderId receiverId : Nat) (m : MessageRow) : MessageRow :=
  if unreadFrom senderId receiverId m then { m with status := .read } else m

section
variable (senderId receiverId : Nat) (m : MessageRow)

@[simp] theorem messageId_readFrom : (readFrom senderId receiverId m).messageId = m.messageId := by
  unfold readFrom
  split <;> rfl

@[simp] theorem senderId_readFrom : (readFrom senderId receiverId m).senderId = m.senderId := by
  unfold readFrom
  split <;> rfl

@[simp] theorem targetId_readFrom : (readFrom senderId receiverId m).targetId = m.targetId := by
  unfold readFrom
  split <;> rfl

end

def markRead (db : Tables) (senderId receiverId : Nat) : Tables :=
  { db with
    privateMessages := db.privateMessages.update (readFrom senderId receiverId) (by simp)
    correspondents := by
      intro m hm
      obtain ⟨m', hm', rfl⟩ := List.mem_map.1 hm
      simpa using db.correspondents m' hm' }

/-- SELECT COUNT(*) -/
def countUnread (db : Tables) (senderId receiverId : Nat) : Nat :=
  db.privateMessages.rows.countP (unreadFrom senderId receiverId)

def exec (order : List MessageRow → List MessageRow) : Exec Tables
  | db, .privateMessages (.markRead senderId receiverId) =>
    some (markRead db senderId receiverId, [], 0)
  | db, .privateMessages (.countUnread senderId receiverId) =>
    some (db, [[.num (countUnread db senderId receiverId)]], 0)
  | db, stmt =>
    match db.exec order stmt with
    | .ok db rows insertId => some (db, rows, insertId)
    | _ => none

/-! ## Calls and operations -/

inductive Call
  | savePrivateMessage (message : Message)
  | markMessagesRead (userId peerId : Nat)
  | getUnreadCount (userId peerId : Nat)
  | recallPrivateMessage (messageId userId : Nat)

abbrev Call.Answer : Call → Type
  | savePrivateMessage _ => Option Message
  | getUnreadCount .. => Int
  | markMessagesRead .. | recallPrivateMessage .. => Bool

def Call.method : (c : Call) → DbProg c.Answer
  | savePrivateMessage message => Database.savePrivateMessage message
  | markMessagesRead userId peerId => Database.markMessagesRead userId peerId
  | getUnreadCount userId peerId => Database.getUnreadCount userId peerId
  | recallPrivateMessage messageId userId => Database.recallPrivateMessage messageId userId

abbrev interface : Interface := ⟨Call, Call.Answer⟩

abbrev MessageProg := Prog interface

def request (c : Call) : MessageProg c.Answer := Prog.perform (I := interface) c

/-- What a call answers at a moment, and the tables after it. -/
def reply (order : List MessageRow → List MessageRow) (m : Moment) (db : Tables) (c : Call) :
    c.Answer × Tables :=
  atomically (exec order) m c.method db

namespace MessageManager

def sendPrivateMessage (senderId receiverId : Nat) (content : String) (mediaType : MediaType)
    (mediaUrl extra : String) : MessageProg (Except String Message) := do
  match ← request (.savePrivateMessage {
      messageId := 0, senderId, receiverId, groupId := 0, mediaType, content, mediaUrl, extra,
      status := .sent, createdAt := 0 }) with
  | none => return .error "Failed to save message"
  | some message => return .ok message

def markMessagesRead (userId peerId : Nat) : MessageProg Bool :=
  request (.markMessagesRead userId peerId)

def getUnreadCount (userId peerId : Nat) : MessageProg Int :=
  request (.getUnreadCount userId peerId)

/-- The operation of a request handler, with the statements of the method put back. -/
theorem expand_sendPrivateMessage (senderId receiverId : Nat) (content : String)
    (mediaType : MediaType) (mediaUrl extra : String) :
    Prog.interpret (fun c : Call => Session.db c.method)
      (sendPrivateMessage senderId receiverId content mediaType mediaUrl extra) =
      Session.MessageManager.sendPrivateMessage senderId receiverId content mediaType mediaUrl
        extra := by
  rw [sendPrivateMessage, Session.MessageManager.sendPrivateMessage, Prog.interpret_bind,
    request, Prog.interpret_perform]
  congr 1
  funext saved
  cases saved <;> rfl

end MessageManager

/-- An operation with its arguments; `recall_private_message` is called by the handler itself. -/
inductive MessageOp
  | send (senderId receiverId : Nat) (content : String) (mediaType : MediaType)
      (mediaUrl extra : String)
  | markRead (userId peerId : Nat)
  | recallMessage (messageId userId : Nat)
  deriving DecidableEq

namespace MessageOp

abbrev Result : MessageOp → Type
  | send .. => Except String Message
  | markRead .. | recallMessage .. => Bool

def prog : (op : MessageOp) → MessageProg op.Result
  | send senderId receiverId content mediaType mediaUrl extra =>
    MessageManager.sendPrivateMessage senderId receiverId content mediaType mediaUrl extra
  | markRead userId peerId => MessageManager.markMessagesRead userId peerId
  | recallMessage messageId userId => request (.recallPrivateMessage messageId userId)

end MessageOp

/-! ## What a call does -/

section
variable {order : List MessageRow → List MessageRow} {m : Moment} {db : Tables}
  {userId peerId senderId receiverId messageId : Nat}

theorem reply_markMessagesRead : reply order m db (.markMessagesRead userId peerId) =
    (m.through 0, if m.through 0 then markRead db peerId userId else db) := by
  refine (atomically_execute rfl).trans ?_
  cases m.through 0 <;> rfl

theorem reply_getUnreadCount (hm : m.through 0 = true) :
    reply order m db (.getUnreadCount userId peerId) =
      ((countUnread db peerId userId : Int), db) := by
  have h : reply order m db (.getUnreadCount userId peerId) = _ := atomically_selectFirst
    (fun row => (row.map (Row.stoll · 0)).getD 0) rfl
    (show exec order db (.privateMessages (.countUnread peerId userId)) = some (db, _, 0) from rfl)
  rw [h, hm]
  rfl

/-- The row of a message. -/
def rowOf (message : Message) (now : Int) (messageId : Nat) : MessageRow :=
  ⟨messageId, message.senderId, message.receiverId, message.mediaType, message.content,
    message.mediaUrl, message.extra, message.status, now⟩

theorem reply_savePrivateMessage {message : Message} :
    reply order m db (.savePrivateMessage message) =
      match (if m.through 0 then db.insertPrivate (rowOf message m.now) fun _ => rfl else none) with
      | none => (none, db)
      | some db' =>
        (some { message with messageId := db.privateMessages.next, createdAt := m.now }, db') := by
  cases h0 : m.through 0 with
  | false =>
    simp [reply, Call.method, atomically, savePrivateMessage, serve, Moment.send, h0]
  | true =>
    have hexec : Tables.exec order db (.privateMessages (.insert message.senderId
        message.receiverId message.mediaType message.content message.mediaUrl message.extra
        message.status m.now)) = .insert db.privateMessages.next
          (db.insertPrivate (rowOf message m.now) fun _ => rfl) := rfl
    cases hg : db.insertPrivate (rowOf message m.now) fun _ => rfl with
    | none =>
      simp [reply, Call.method, atomically, savePrivateMessage, serve, Moment.send, exec, hexec,
        h0, hg, Tables.Outcome.insert]
    | some db' =>
      simp [reply, Call.method, atomically, savePrivateMessage, serve, Moment.send, exec, hexec,
        h0, hg, Tables.Outcome.insert, Stmt.isSelect]

/-- A recall makes its UPDATE or nothing. -/
theorem reply_recallPrivateMessage :
    (reply order m db (.recallPrivateMessage messageId userId)).2 = db ∨
      (reply order m db (.recallPrivateMessage messageId userId)).2 =
        db.recallPrivate messageId := by
  have hselect : exec order db (.privateMessages (.senderAndTime messageId)) = some (db, _, 0) :=
    rfl
  obtain ⟨s, hrun, htables, -⟩ := serve_selectFirst (m := m) (s := ⟨db, none, 0, 0⟩) rfl hselect
  simp only [reply, Call.method, atomically, recallPrivateMessage, serve_locked, Prog.run_bind,
    hrun]
  split
  next => exact .inl htables
  next =>
    split
    · exact .inl htables
    · rw [Prog.run_bind, serve_getCurrentTimestamp]
      simp only
      split
      · exact .inl htables
      · rw [execute, serve_mysqlQuery rfl, Moment.send, htables]
        cases m.through s.sent with
        | false => exact .inl rfl
        | true => exact .inr rfl

end

/-! ## What the statements do to the count -/

section
variable {db db' : Tables} {a b senderId receiverId : Nat}

theorem countUnread_insertPrivate {r : Nat → MessageRow} {hr : ∀ n, (r n).messageId = n}
    (h : db.insertPrivate r hr = some db') : countUnread db' senderId receiverId =
      countUnread db senderId receiverId +
        if unreadFrom senderId receiverId (r db.privateMessages.next) then 1 else 0 := by
  unfold Tables.insertPrivate at h
  split at h
  case isTrue =>
    cases h
    rw [countUnread, SerialTable.rows_insert, List.countP_append, List.countP_singleton]
    rfl
  case isFalse => cases h

theorem unreadFrom_readFrom (m : MessageRow) : unreadFrom senderId receiverId (readFrom a b m) =
    (unreadFrom senderId receiverId m && !decide (a = senderId ∧ b = receiverId)) := by
  have hread : ¬ MessageStatus.read.code < 3 := by decide
  unfold readFrom
  split
  next h =>
    obtain ⟨ha, hb, -⟩ := of_decide_eq_true h
    have hsame : unreadFrom senderId receiverId m → a = senderId ∧ b = receiverId := by
      intro hunread
      obtain ⟨hs, hr, -⟩ := of_decide_eq_true hunread
      exact ⟨ha.symm.trans hs, hb.symm.trans hr⟩
    have hleft : unreadFrom senderId receiverId { m with status := .read } = false :=
      decide_eq_false fun hunread => hread hunread.2.2
    rw [hleft]
    cases hunread : unreadFrom senderId receiverId m with
    | false => rfl
    | true => simp [hsame hunread]
  next h =>
    have hother : unreadFrom senderId receiverId m → ¬ (a = senderId ∧ b = receiverId) := by
      rintro hunread ⟨rfl, rfl⟩
      exact h hunread
    cases hunread : unreadFrom senderId receiverId m with
    | false => rfl
    | true => simp [hother hunread]

theorem countUnread_markRead : countUnread (markRead db a b) senderId receiverId =
    if a = senderId ∧ b = receiverId then 0 else countUnread db senderId receiverId := by
  have hrows : (markRead db a b).privateMessages.rows =
      db.privateMessages.rows.map (readFrom a b) := rfl
  rw [countUnread, hrows, List.countP_map]
  split
  next h => simp [Function.comp_def, unreadFrom_readFrom, h]
  next h => simp [Function.comp_def, unreadFrom_readFrom, h, countUnread]

theorem countUnread_recallPrivate (messageId : Nat) :
    countUnread (db.recallPrivate messageId) senderId receiverId =
      countUnread db senderId receiverId := by
  have hrows : (db.recallPrivate messageId).privateMessages.rows =
      db.privateMessages.rows.map (·.recallAt messageId) := rfl
  have hsame : ∀ m : MessageRow, unreadFrom senderId receiverId (m.recallAt messageId) =
      unreadFrom senderId receiverId m := by
    intro m
    unfold MessageRow.recallAt
    split <;> rfl
  rw [countUnread, hrows, List.countP_map]
  simp only [Function.comp_def, hsame]
  rfl

end

/-! ## Histories -/

/-- What an operation that succeeded is for the count. -/
inductive Event
  | saved (senderId receiverId : Nat)
  | marked (userId peerId : Nat)
  deriving DecidableEq

/-- The messages from the peer to the user after the last mark, or all if there is none. -/
def sinceMark (userId peerId : Nat) (es : List Event) : Nat :=
  (es.reverse.takeWhile (· ≠ .marked userId peerId)).count (.saved peerId userId)

section
variable {userId peerId a b : Nat} {es : List Event}

theorem sinceMark_saved : sinceMark userId peerId (es ++ [.saved a b]) =
    sinceMark userId peerId es + if a = peerId ∧ b = userId then 1 else 0 := by
  simp [sinceMark, List.count_cons]

theorem sinceMark_marked : sinceMark userId peerId (es ++ [.marked a b]) =
    if a = userId ∧ b = peerId then 0 else sinceMark userId peerId es := by
  by_cases h : a = userId ∧ b = peerId
  · simp [sinceMark, h]
  · simp [sinceMark, h]

end

/-! ## Runs -/

namespace MessageOp

def event : (op : MessageOp) → op.Result → Option Event
  | send senderId receiverId .., .ok _ => some (.saved senderId receiverId)
  | markRead userId peerId, true => some (.marked userId peerId)
  | send .., .error _ | markRead .., false | recallMessage .., _ => none

end MessageOp

/-- The tables and the history. -/
structure State where
  db : Tables
  events : List Event

/-- The server with some users and no group and no message. -/
def State.start (users : UniqueTable UserInfo.userId) : State where
  db := {
    users
    groups := .empty
    members := .empty
    privateMessages := ⟨.empty, 1, SerialTable.none_below⟩
    groupMessages := ⟨.empty, 1, SerialTable.none_below⟩
    owners _ h := by cases h
    memberships _ h := by cases h
    correspondents _ h := by cases h
    posters _ h := by cases h }
  events := []

section
variable (order : List MessageRow → List MessageRow)

/-- What an operation returns, and the tables after it. -/
def perform (m : Moment) (db : Tables) (op : MessageOp) : op.Result × Tables :=
  op.prog.run (reply order m) db

/-- The next operation of a run. -/
def State.next (s : State) (e : Moment × MessageOp) : State :=
  let r := perform order e.1 s.db e.2
  ⟨r.2, s.events ++ (e.2.event r.1).toList⟩

/-- Operations one after the other. -/
def State.after (s : State) (run : List (Moment × MessageOp)) : State := run.foldl (.next order) s

/-- `get_unread_count` -/
def unreadCount (m : Moment) (db : Tables) (userId peerId : Nat) : Int :=
  ((MessageManager.getUnreadCount userId peerId).run (reply order m) db).1

end

/-- The column `status` has what the history says. -/
def Counts (s : State) : Prop :=
  ∀ userId peerId, countUnread s.db peerId userId = sinceMark userId peerId s.events

section
variable {order : List MessageRow → List MessageRow} {s : State} {m : Moment} {db : Tables}
  {op : MessageOp} {userId peerId : Nat}

theorem run_request {c : Call} :
    (request c).run (reply order m) db = reply order m db c := rfl

/-- A message that is saved is unread in its own direction. -/
theorem perform_send (order : List MessageRow → List MessageRow) (m : Moment) (db : Tables)
    (senderId receiverId : Nat) (content : String) (mediaType : MediaType)
    (mediaUrl extra : String) :
    let r := perform order m db (.send senderId receiverId content mediaType mediaUrl extra)
    r = (.error "Failed to save message", db) ∨
      ∃ message db', r = (.ok message, db') ∧ ∀ a b, countUnread db' a b =
        countUnread db a b + if senderId = a ∧ receiverId = b then 1 else 0 := by
  let message : Message := {
    messageId := 0, senderId, receiverId, groupId := 0, mediaType, content, mediaUrl, extra,
    status := .sent, createdAt := 0 }
  have hsave : (request (.savePrivateMessage message)).run (reply order m) db = _ :=
    reply_savePrivateMessage
  simp only [perform, MessageOp.prog, MessageManager.sendPrivateMessage]
  rw [Prog.run_bind, hsave]
  cases hinsert : (if m.through 0 then db.insertPrivate (rowOf message m.now) fun _ => rfl
      else none) with
  | none => exact .inl rfl
  | some db' =>
    refine .inr ⟨_, db', rfl, fun a b => ?_⟩
    rw [Option.ite_none_right_eq_some] at hinsert
    rw [countUnread_insertPrivate hinsert.2]
    have hsent : MessageStatus.sent.code < 3 := by decide
    simp [unreadFrom, rowOf, message, hsent]

theorem perform_markRead : perform order m db (.markRead userId peerId) =
    (m.through 0, if m.through 0 then markRead db peerId userId else db) :=
  reply_markMessagesRead

/-- What an operation changes in the count is what its event changes in the history. -/
theorem Counts.next (h : Counts s) (e : Moment × MessageOp) : Counts (s.next order e) := by
  obtain ⟨m, op⟩ := e
  intro userId peerId
  rw [State.next]
  cases op with
  | send senderId receiverId content mediaType mediaUrl extra =>
    rcases perform_send order m s.db senderId receiverId content mediaType mediaUrl
      extra with hperform | ⟨message, db', hperform, hcount⟩
    · rw [hperform]
      simp only [MessageOp.event, Option.toList_none, List.append_nil]
      exact h userId peerId
    · rw [hperform]
      simp only [MessageOp.event, Option.toList_some]
      rw [hcount, sinceMark_saved, h]
  | markRead a b =>
    rw [perform_markRead]
    cases m.through 0 with
    | false =>
      simp only [MessageOp.event, Option.toList_none, List.append_nil]
      exact h userId peerId
    | true =>
      simp only [MessageOp.event, Option.toList_some]
      rw [if_pos trivial, countUnread_markRead, sinceMark_marked, h]
      exact if_congr and_comm rfl rfl
  | recallMessage messageId a =>
    have hevent : ∀ r, MessageOp.event (.recallMessage messageId a) r = none :=
      fun r => by cases r <;> rfl
    simp only [hevent, Option.toList_none, List.append_nil]
    have hkeeps : countUnread (perform order m s.db (.recallMessage messageId a)).2 peerId userId =
        countUnread s.db peerId userId := by
      have hrun : (perform order m s.db (.recallMessage messageId a)).2 = _ :=
        congrArg Prod.snd (run_request (c := .recallPrivateMessage messageId a))
      rw [hrun]
      rcases reply_recallPrivateMessage with hdb | hdb <;> rw [hdb]
      exact countUnread_recallPrivate messageId
    rw [hkeeps]
    exact h userId peerId

theorem counts_after (h : Counts s) (run : List (Moment × MessageOp)) :
    Counts (s.after order run) := by
  induction run generalizing s with
  | nil => exact h
  | cons e run ih => exact ih (h.next e)

theorem unreadCount_eq (hm : m.through 0 = true) :
    unreadCount order m db userId peerId = countUnread db peerId userId :=
  congrArg Prod.fst (reply_getUnreadCount hm)

/-- After every run of operations, the count is that of the history, and fits into an `int`. To
    mark one conversation leaves the count of every other one as it is. -/
theorem unread_since_mark {users : UniqueTable UserInfo.userId} {run : List (Moment × MessageOp)}
    (userId peerId : Nat) (hs : (State.start users).after order run = s)
    (hfew : s.db.privateMessages.rows.length < 2 ^ 31) (hm : m.through 0 = true) :
    unreadCount order m s.db userId peerId = sinceMark userId peerId s.events ∧
      sinceMark userId peerId s.events < 2 ^ 31 ∧
      ∀ m' userId' peerId', (userId', peerId') ≠ (userId, peerId) →
        unreadCount order m (perform order m' s.db (.markRead userId' peerId')).2 userId peerId =
          unreadCount order m s.db userId peerId := by
  have hstart : Counts (State.start users) := fun _ _ => rfl
  have hcounts : Counts s := hs ▸ counts_after hstart run
  refine ⟨?_, ?_, fun m' userId' peerId' hne => ?_⟩
  · rw [unreadCount_eq hm, hcounts]
  · rw [← hcounts]
    exact Nat.lt_of_le_of_lt List.countP_le_length hfew
  · rw [unreadCount_eq hm, unreadCount_eq hm, perform_markRead]
    cases m'.through 0 with
    | false => rfl
    | true =>
      have hother : ¬ (peerId' = peerId ∧ userId' = userId) :=
        fun h => hne (Prod.ext h.2 h.1)
      rw [if_pos rfl, countUnread_markRead, if_neg hother]

end

/-- Users 1 and 2. -/
def pair : UniqueTable UserInfo.userId :=
  ⟨[⟨1, "one", "", "", "", .offline, 0, 0⟩, ⟨2, "two", "", "", "", .offline, 0, 0⟩], by decide⟩

/-- Every statement gets through. -/
def quiet : Moment := ⟨0, true, fun _ => true⟩

/-- Two messages that are read, and one that is recalled. -/
def threeMessages : List (Moment × MessageOp) :=
  [(quiet, .send 1 2 "a" ⟨0⟩ "" ""), (quiet, .send 1 2 "b" ⟨0⟩ "" ""), (quiet, .markRead 2 1),
    (quiet, .send 1 2 "c" ⟨0⟩ "" ""), (quiet, .recallMessage 3 1)]

theorem unread_since_mark_three :
    let s := (State.start pair).after id threeMessages
    s.db.privateMessages.rows.length < 2 ^ 31 ∧ unreadCount id quiet s.db 2 1 = 1 ∧
      unreadCount id quiet (perform id quiet s.db (.markRead 1 2)).2 2 1 = 1 := by
  have hfew : ((State.start pair).after id threeMessages).db.privateMessages.rows.length <
      2 ^ 31 := by decide
  obtain ⟨hcount, -, hother⟩ := unread_since_mark 2 1
    (rfl : (State.start pair).after id threeMessages = _) hfew (rfl : quiet.through 0 = true)
  have hone : unreadCount id quiet ((State.start pair).after id threeMessages).db 2 1 = 1 :=
    hcount.trans (by decide)
  exact ⟨hfew, hone, (hother quiet 1 2 (by decide)).trans hone⟩

end ChatApp.Messages
