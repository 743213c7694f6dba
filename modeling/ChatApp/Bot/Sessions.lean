/-
  The sessions of a user with the bot, and the messages that are stored for them. A message of a
  session over the limit is answered with the advice to send /new, but the limit is checked before
  the commands are, so /new gets the same answer. A new session has its name from the clock, in
  seconds, and nobody asks whether there are messages under it.

  What `handle_bot_message` does after the call of `chat` is `answered`, and may come at any time.
  A restart keeps the table only. Beyond the range of `int`, the sum of the counts throws; as
  `max_char_count` is an `int`, the state is then the one after a refusal.
-/
import ChatApp.Bot.Memory
import ChatApp.Lib.Text
import Mathlib.Algebra.GroupWithZero.Nat

namespace ChatApp.Bot

open ChatApp.Lib

/-- A row of `bot_conversations`. -/
structure BotRow where
  userId : Nat
  conversationId : String
  role : String
  content : String
  deriving DecidableEq

/-- `char_count`, the bytes of the content. -/
def BotRow.charCount (row : BotRow) : Nat := row.content.utf8ByteSize

/-- A call of `chat` that has not returned. -/
structure PendingAnswer where
  senderId : Nat
  messageId : Nat
  conversationId : String
  deriving DecidableEq

structure BotServer where
  manager : BotManager
  rows : List BotRow
  pending : List PendingAnswer

/-- What happens to the statements of a message: whether the count and the insertion succeed. -/
structure BotQueries where
  counted : Bool
  saved : Bool

inductive BotServerEvent
  /-- a message at a time of the clock -/
  | message (m : BotMessage) (q : BotQueries) (timestamp : Int)
  | answered (answer : PendingAnswer) (response : Option String) (saved : Bool)
  | restart

/-- `create_new_bot_session` -/
def createNewBotSession (userId : Nat) (timestamp : Int) : String :=
  "user_" ++ toString userId ++ "_" ++ toString timestamp

namespace BotServer

def init : BotServer := ⟨.init, [], []⟩

/-- The sum in `get_bot_conversation_char_count`. -/
def charCount (s : BotServer) (userId : Nat) (conversationId : String) : Nat :=
  ((s.rows.filter fun row => row.userId = userId ∧ row.conversationId = conversationId).map
    BotRow.charCount).sum

/-- The session of the user. -/
def session (s : BotServer) (userId : Nat) : String := s.manager.getUserSessionId userId

/-- `get_bot_conversation_char_count` of the current session, 0 if the query fails. -/
def currentCount (s : BotServer) (userId : Nat) (q : BotQueries) : Int :=
  if q.counted then s.charCount userId (s.session userId) else 0

/-- `is_session_over_limit` of the current session. -/
def OverLimit (cfg : BotConfig) (s : BotServer) (userId : Nat) (q : BotQueries) : Prop :=
  cfg.maxCharCount ≤ s.currentCount userId q

instance (cfg : BotConfig) (s : BotServer) (userId : Nat) (q : BotQueries) :
    Decidable (s.OverLimit cfg userId q) := inferInstanceAs (Decidable (_ ≤ _))

def saveBotConversation (s : BotServer) (row : BotRow) (saved : Bool) : BotServer :=
  if saved then { s with rows := s.rows ++ [row] } else s

/-- The message with what the database answers for it. -/
def asked (s : BotServer) (m : BotMessage) (q : BotQueries) (timestamp : Int) : BotMessage :=
  { m with
    charCount := s.currentCount m.senderId q
    newSessionId := createNewBotSession m.senderId timestamp }

/-- `handle_bot_message`, up to the call of `chat`. -/
def handleBotMessage (cfg : BotConfig) (s : BotServer) (m : BotMessage) (q : BotQueries)
    (timestamp : Int) : BotServer :=
  match s.manager.handleBotMessage cfg (s.asked m q timestamp) with
  | (manager, none) => { s with manager }
  | (manager, some conversationId) =>
    let s : BotServer :=
      ⟨manager, s.rows, s.pending ++ [⟨m.senderId, m.messageId, conversationId⟩]⟩
    s.saveBotConversation ⟨m.senderId, conversationId, "user", m.content⟩ q.saved

/-- The callback of `chat`. -/
def answered (s : BotServer) (a : PendingAnswer) (response : Option String) (saved : Bool) :
    BotServer :=
  let s : BotServer := { s with
    manager := { s.manager with processing := s.manager.processing.erase a.messageId }
    pending := s.pending.erase a }
  match response with
  | some content => s.saveBotConversation ⟨a.senderId, a.conversationId, "assistant", content⟩ saved
  | none => s

def step (cfg : BotConfig) (s : BotServer) : BotServerEvent → Option BotServer
  | .message m q timestamp => some (s.handleBotMessage cfg m q timestamp)
  | .answered a response saved => if a ∈ s.pending then some (s.answered a response saved) else none
  | .restart => some ⟨.init, s.rows, []⟩

/-- The session of the user has no messages, and the next message is not refused, whether its query
    succeeds or not. -/
structure Fresh (cfg : BotConfig) (s : BotServer) (userId : Nat) : Prop where
  unused : ∀ row ∈ s.rows, row.conversationId ≠ s.session userId
  empty : s.charCount userId (s.session userId) = 0
  accepted : ∀ q, ¬ s.OverLimit cfg userId q

end BotServer

open BotServer

variable {cfg : BotConfig} {s : BotServer} {m : BotMessage} {q : BotQueries} {timestamp : Int}
variable {userId : Nat} {events : List BotServerEvent}

/-! ## The command -/

theorem charCount_of_unused {conversationId : String}
    (h : ∀ row ∈ s.rows, row.conversationId ≠ conversationId) :
    s.charCount userId conversationId = 0 := by
  have hnone : s.rows.filter (fun row => row.userId = userId ∧ row.conversationId = conversationId) =
      [] := List.filter_eq_nil_iff.2 fun row hrow hsame => h row hrow (of_decide_eq_true hsame).2
  unfold BotServer.charCount
  rw [hnone]
  rfl

theorem session_setUserSessionId {b : BotManager} {sessionId : String} :
    (b.setUserSessionId userId sessionId).getUserSessionId userId = sessionId := by
  simp [BotManager.setUserSessionId, BotManager.getUserSessionId]

variable (timestamp) in
/-- A command that is refused leaves the session. -/
theorem handle_refused (henabled : cfg.isEnabled = true)
    (hfirst : m.messageId ∉ s.manager.processing) (h : s.OverLimit cfg m.senderId q) :
    (s.handleBotMessage cfg m q timestamp).session m.senderId = s.session m.senderId ∧
      (s.handleBotMessage cfg m q timestamp).rows = s.rows := by
  have hhandle : s.manager.handleBotMessage cfg (s.asked m q timestamp) =
      (s.manager.setUserSessionId m.senderId (s.session m.senderId), none) := by
    have hlimit : cfg.maxCharCount ≤ (s.asked m q timestamp).charCount := h
    unfold BotManager.handleBotMessage
    simp only [henabled, Bool.not_true, Bool.false_eq_true, if_false]
    rw [if_neg (by exact hfirst), if_pos hlimit]
    rfl
  unfold BotServer.handleBotMessage
  rw [hhandle]
  exact ⟨session_setUserSessionId, rfl⟩

variable (timestamp) in
/-- A command that is accepted makes a session with the name of the second. -/
theorem handle_new (henabled : cfg.isEnabled = true) (hcommand : m.content = "/new")
    (hfirst : m.messageId ∉ s.manager.processing) (h : ¬ s.OverLimit cfg m.senderId q) :
    (s.handleBotMessage cfg m q timestamp).session m.senderId =
        createNewBotSession m.senderId timestamp ∧
      (s.handleBotMessage cfg m q timestamp).rows = s.rows := by
  have hhandle : s.manager.handleBotMessage cfg (s.asked m q timestamp) =
      ((s.manager.setUserSessionId m.senderId (s.session m.senderId)).setUserSessionId m.senderId
        (createNewBotSession m.senderId timestamp), none) := by
    have hlimit : ¬ cfg.maxCharCount ≤ (s.asked m q timestamp).charCount := h
    unfold BotManager.handleBotMessage
    simp only [henabled, Bool.not_true, Bool.false_eq_true, if_false]
    rw [if_neg (by exact hfirst), if_neg hlimit, if_pos (by exact hcommand)]
    rfl
  unfold BotServer.handleBotMessage
  rw [hhandle]
  exact ⟨session_setUserSessionId, rfl⟩

variable (cfg s m q timestamp) in
/-- A message that is no command is stored for the session. -/
theorem handle_ordinary (henabled : cfg.isEnabled = true)
    (hfirst : m.messageId ∉ s.manager.processing) (h : ¬ s.OverLimit cfg m.senderId q)
    (hnew : m.content ≠ "/new") (hsessions : m.content ≠ "/sessions") (hsaved : q.saved = true) :
    (s.handleBotMessage cfg m q timestamp).session m.senderId = s.session m.senderId ∧
      (s.handleBotMessage cfg m q timestamp).rows =
        s.rows ++ [⟨m.senderId, s.session m.senderId, "user", m.content⟩] ∧
      (s.handleBotMessage cfg m q timestamp).manager.processing =
        m.messageId :: s.manager.processing := by
  have hhandle : s.manager.handleBotMessage cfg (s.asked m q timestamp) =
      ({ s.manager.setUserSessionId m.senderId (s.session m.senderId) with
        processing := m.messageId :: s.manager.processing
        conversations := s.manager.conversations.clearConversation (s.session m.senderId) },
        some (s.session m.senderId)) := by
    have hlimit : ¬ cfg.maxCharCount ≤ (s.asked m q timestamp).charCount := h
    unfold BotManager.handleBotMessage
    simp only [henabled, Bool.not_true, Bool.false_eq_true, if_false]
    rw [if_neg (by exact hfirst), if_neg hlimit, if_neg (by exact hnew),
      if_neg (by exact hsessions)]
    rfl
  unfold BotServer.handleBotMessage saveBotConversation
  rw [hhandle, hsaved]
  exact ⟨session_setUserSessionId, rfl, rfl⟩

theorem fresh_iff (henabled : cfg.isEnabled = true) (hcommand : m.content = "/new")
    (hfirst : m.messageId ∉ s.manager.processing) :
    Fresh cfg (s.handleBotMessage cfg m q timestamp) m.senderId ↔ ¬ s.OverLimit cfg m.senderId q ∧
      ∀ row ∈ s.rows, row.conversationId ≠ createNewBotSession m.senderId timestamp := by
  by_cases hlimit : s.OverLimit cfg m.senderId q
  · obtain ⟨hsession, hrows⟩ := handle_refused timestamp henabled hfirst hlimit
    refine iff_of_false (fun h => h.accepted q ?_) fun h => h.1 hlimit
    unfold OverLimit currentCount charCount
    rw [hsession, hrows]
    exact hlimit
  · obtain ⟨hsession, hrows⟩ :=
      handle_new timestamp henabled hcommand hfirst hlimit
    refine ⟨fun h => ⟨hlimit, ?_⟩, fun ⟨_, hunused⟩ => ?_⟩
    · have hunused := h.unused
      rwa [hsession, hrows] at hunused
    · rw [← hrows, ← hsession] at hunused
      have hempty : (s.handleBotMessage cfg m q timestamp).charCount m.senderId _ = 0 :=
        charCount_of_unused hunused
      refine ⟨hunused, hempty, fun q' hover => hlimit ?_⟩
      -- the count of the new session is 0, which no other is below
      have hzero : (s.handleBotMessage cfg m q timestamp).currentCount m.senderId q' = 0 := by
        unfold currentCount
        rw [hempty]
        split <;> rfl
      have hmax : cfg.maxCharCount ≤ 0 := hzero ▸ hover
      have hcount : 0 ≤ s.currentCount m.senderId q := by
        unfold currentCount
        split <;> omega
      exact Int.le_trans hmax hcount

/-! ## Names -/

section
variable {u v : Nat} {t t' : Int} {x y : String} {xs ys : List Char} {id : String}

theorem session_name_inj (hx : x.toList = '_' :: xs) (hy : y.toList = '_' :: ys)
    (h : "user_" ++ toString u ++ x = "user_" ++ toString v ++ y) : u = v ∧ xs = ys := by
  have hdigits : ∀ n : Nat, '_' ∉ (toString n).toList := fun n hmem =>
    absurd (Text.isDigit_of_mem_toString hmem) (by decide)
  have hlist := congrArg String.toList h
  rw [String.toList_append, String.toList_append, String.toList_append, String.toList_append, hx, hy,
    List.append_assoc, List.append_assoc] at hlist
  obtain ⟨huser, hrest⟩ :=
    Text.append_cons_inj (hdigits u) (hdigits v) (List.append_cancel_left hlist)
  exact ⟨Text.toString_nat_inj.1 (String.toList_inj.1 huser), hrest⟩

theorem toList_time (t : Int) : ("_" ++ toString t).toList = '_' :: (toString t).toList := by
  have hline : "_".toList = ['_'] := by decide
  rw [String.toList_append, hline]
  rfl

theorem createNewBotSession_eq : createNewBotSession u t =
    "user_" ++ toString u ++ ("_" ++ toString t) := String.append_assoc ..

theorem createNewBotSession_inj (h : createNewBotSession u t = createNewBotSession v t') :
    u = v ∧ t = t' := by
  rw [createNewBotSession_eq, createNewBotSession_eq] at h
  obtain ⟨huser, htime⟩ := session_name_inj (toList_time t) (toList_time t') h
  exact ⟨huser, Text.toString_int_inj.1 (String.toList_inj.1 htime)⟩

theorem createNewBotSession_ne_default :
    createNewBotSession u t ≠ "user_" ++ toString v ++ "_default" := by
  intro h
  have hdefault : "_default".toList = '_' :: ['d', 'e', 'f', 'a', 'u', 'l', 't'] := by decide
  rw [createNewBotSession_eq] at h
  obtain ⟨-, htime⟩ := session_name_inj (toList_time t) hdefault h
  rcases Text.mem_toString_int (i := t) (c := 'd') (htime ▸ List.mem_cons_self) with hd | hd
  · exact absurd hd (by decide)
  · exact absurd hd (by decide)

/-- The default name of the user, or one that a command of the user has made. -/
def Known (events : List BotServerEvent) (userId : Nat) (id : String) : Prop :=
  id = "user_" ++ toString userId ++ "_default" ∨ ∃ m q t, .message m q t ∈ events ∧
    m.senderId = userId ∧ m.content = "/new" ∧ id = createNewBotSession userId t

theorem Known.mono (h : Known events userId id) (e : BotServerEvent) :
    Known (events ++ [e]) userId id :=
  h.imp_right fun ⟨m, q, t, hmem, hrest⟩ => ⟨m, q, t, List.mem_append_left _ hmem, hrest⟩

/-- All names in the state are known. -/
structure Named (events : List BotServerEvent) (s : BotServer) : Prop where
  sessions : ∀ userId id, s.manager.userSessions userId = some id → Known events userId id
  rows : ∀ row ∈ s.rows, Known events row.userId row.conversationId
  pending : ∀ a ∈ s.pending, Known events a.senderId a.conversationId

theorem Named.mono (h : Named events s) (e : BotServerEvent) : Named (events ++ [e]) s :=
  ⟨fun u id hu => (h.sessions u id hu).mono e, fun row hrow => (h.rows row hrow).mono e,
    fun a ha => (h.pending a ha).mono e⟩

theorem Named.session (h : Named events s) (userId : Nat) :
    Known events userId (s.session userId) := by
  unfold BotServer.session BotManager.getUserSessionId
  cases hsession : s.manager.userSessions userId with
  | none => exact .inl rfl
  | some id => exact h.sessions userId id hsession

theorem Named.save (h : Named events s) (row : BotRow) (saved : Bool)
    (hrow : Known events row.userId row.conversationId) :
    Named events (s.saveBotConversation row saved) := by
  unfold saveBotConversation
  split
  · refine ⟨h.sessions, fun r hr => ?_, h.pending⟩
    rcases List.mem_append.1 hr with hr | hr
    · exact h.rows r hr
    · exact List.mem_singleton.1 hr ▸ hrow
  · exact h

end

/-! ## Runs -/

section
variable {b b' : BotManager} {u : Nat} {id name : String} {o : Option String}

theorem setUserSessionId_cases (h : (b.setUserSessionId userId name).userSessions u = some id) :
    (u = userId ∧ id = name) ∨ b.userSessions u = some id := by
  by_cases hu : u = userId
  · subst hu
    simp only [BotManager.setUserSessionId, Function.update_self, Option.some.injEq] at h
    exact .inl ⟨rfl, h.symm⟩
  · simp only [BotManager.setUserSessionId, Function.update_of_ne hu] at h
    exact .inr h

/-- The sessions that a message can set, and the one it is stored for. -/
theorem handleBotMessage_sessions (h : b.handleBotMessage cfg m = (b', o)) :
    (∀ u id, b'.userSessions u = some id → b.userSessions u = some id ∨ u = m.senderId ∧
      (id = b.getUserSessionId u ∨ m.content = "/new" ∧ id = m.newSessionId)) ∧
    ∀ id ∈ o, id = b.getUserSessionId m.senderId := by
  have hset : ∀ u id, (b.setUserSessionId m.senderId
      (b.getUserSessionId m.senderId)).userSessions u = some id → b.userSessions u = some id ∨
        u = m.senderId ∧ (id = b.getUserSessionId u ∨ m.content = "/new" ∧ id = m.newSessionId) := by
    intro u id hid
    rcases setUserSessionId_cases hid with ⟨rfl, hname⟩ | hold
    · exact .inr ⟨rfl, .inl hname⟩
    · exact .inl hold
  have hnone : ∀ id ∈ (none : Option String), id = b.getUserSessionId m.senderId :=
    fun id hid => absurd hid.symm (Option.some_ne_none id)
  unfold BotManager.handleBotMessage at h
  dsimp only at h
  split at h
  · obtain ⟨rfl, rfl⟩ := Prod.mk.inj h
    exact ⟨fun u id => .inl, hnone⟩
  split at h
  · obtain ⟨rfl, rfl⟩ := Prod.mk.inj h
    exact ⟨fun u id => .inl, hnone⟩
  split at h
  · obtain ⟨rfl, rfl⟩ := Prod.mk.inj h
    exact ⟨hset, hnone⟩
  split at h
  next hcommand =>
    obtain ⟨rfl, rfl⟩ := Prod.mk.inj h
    refine ⟨fun u id hid => ?_, hnone⟩
    rcases setUserSessionId_cases hid with ⟨rfl, hname⟩ | hold
    · exact .inr ⟨rfl, .inr ⟨hcommand, hname⟩⟩
    · exact hset u id hold
  split at h
  · obtain ⟨rfl, rfl⟩ := Prod.mk.inj h
    exact ⟨hset, hnone⟩
  · obtain ⟨rfl, rfl⟩ := Prod.mk.inj h
    exact ⟨hset, fun id hid => (Option.some.inj hid).symm⟩

end

theorem named_message (h : Named events s) :
    Named (events ++ [.message m q timestamp]) (s.handleBotMessage cfg m q timestamp) := by
  have hlater := h.mono (.message m q timestamp)
  unfold BotServer.handleBotMessage
  obtain ⟨⟨b, o⟩, hhandle⟩ :
      ∃ x, s.manager.handleBotMessage cfg (s.asked m q timestamp) = x := ⟨_, rfl⟩
  obtain ⟨hsessions, hstored⟩ := handleBotMessage_sessions hhandle
  have hsession := hlater.session m.senderId
  have hnamed : ∀ u id, b.userSessions u = some id →
      Known (events ++ [.message m q timestamp]) u id := by
    intro u id hid
    rcases hsessions u id hid with hold | ⟨rfl, rfl | ⟨hcommand, rfl⟩⟩
    · exact hlater.sessions u id hold
    · exact hsession
    · exact .inr ⟨m, q, timestamp, by simp, rfl, hcommand, rfl⟩
  rw [hhandle]
  cases o with
  | none => exact ⟨hnamed, hlater.rows, hlater.pending⟩
  | some id =>
    have hknown : Known (events ++ [.message m q timestamp]) m.senderId id := by
      rw [hstored id (Option.mem_some_self id)]
      exact hsession
    have hasked : Named (events ++ [.message m q timestamp])
        ⟨b, s.rows, s.pending ++ [⟨m.senderId, m.messageId, id⟩]⟩ := by
      refine ⟨hnamed, hlater.rows, fun a ha => ?_⟩
      rcases List.mem_append.1 ha with ha | ha
      · exact hlater.pending a ha
      · rw [List.mem_singleton.1 ha]
        exact hknown
    exact hasked.save ⟨m.senderId, id, "user", m.content⟩ q.saved hknown

theorem named_answered {a : PendingAnswer} {response : Option String} {saved : Bool}
    (h : Named events s) (ha : a ∈ s.pending) : Named events (s.answered a response saved) := by
  have herased : Named events { s with
      manager := { s.manager with processing := s.manager.processing.erase a.messageId }
      pending := s.pending.erase a } :=
    ⟨h.sessions, h.rows, fun a' ha' => h.pending a' (List.mem_of_mem_erase ha')⟩
  unfold BotServer.answered
  cases response with
  | none => exact herased
  | some content =>
    exact herased.save ⟨a.senderId, a.conversationId, "assistant", content⟩ _ (h.pending a ha)

theorem run_named (h : Run (BotServer.step cfg) anyStep .init events s) : Named events s := by
  induction h with
  | nil =>
    refine ⟨fun u id hid => ?_, fun row hrow => ?_, fun a ha => ?_⟩
    · exact absurd hid.symm (Option.some_ne_none id)
    · exact absurd hrow List.not_mem_nil
    · exact absurd ha List.not_mem_nil
  | @snoc events s t e _ _ hstep ih =>
    cases e with
    | message m q timestamp => exact Option.some.inj hstep ▸ named_message ih
    | answered a response saved =>
      obtain ⟨ha, hstep⟩ := Option.ite_none_right_eq_some.1 hstep
      exact Option.some.inj hstep ▸ (named_answered ih ha).mono _
    | restart =>
      have hlater := ih.mono .restart
      refine Option.some.inj hstep ▸ ⟨fun u id hid => ?_, hlater.rows, fun a ha => ?_⟩
      · exact absurd hid.symm (Option.some_ne_none id)
      · exact absurd ha List.not_mem_nil

/-- A name of a second in which the user has made no session is not in use. -/
theorem unused_of_first (h : Named events s)
    (hfirst : ∀ m q, .message m q timestamp ∈ events → m.senderId = userId → m.content ≠ "/new") :
    ∀ row ∈ s.rows, row.conversationId ≠ createNewBotSession userId timestamp := by
  intro row hrow hname
  rcases h.rows row hrow with hdefault | ⟨m, q, t, hmem, huser, hcommand, hnew⟩
  · exact createNewBotSession_ne_default (hname.symm.trans hdefault)
  · obtain ⟨hsame, rfl⟩ := createNewBotSession_inj (hname.symm.trans hnew)
    exact hfirst m q hmem (huser.trans hsame.symm) hcommand

/-- In every state that the server reaches, the command /new that an enabled bot processes leaves the
    user in a session without messages, in which the next one is accepted, if and only if the old
    session is not over the limit and no message is stored under the name that the clock gives. The
    latter holds unless the user has sent the command twice in a second. -/
theorem new_session_iff (henabled : cfg.isEnabled = true)
    (h : Run (BotServer.step cfg) anyStep .init events s) (hcommand : m.content = "/new")
    (hfirst : m.messageId ∉ s.manager.processing) :
    (Fresh cfg (s.handleBotMessage cfg m q timestamp) m.senderId ↔
      ¬ s.OverLimit cfg m.senderId q ∧
        ∀ row ∈ s.rows, row.conversationId ≠ createNewBotSession m.senderId timestamp) ∧
    ((∀ m' q', .message m' q' timestamp ∈ events → m'.senderId = m.senderId →
        m'.content ≠ "/new") →
      ∀ row ∈ s.rows, row.conversationId ≠ createNewBotSession m.senderId timestamp) :=
  ⟨fresh_iff henabled hcommand hfirst, unused_of_first (run_named h)⟩

/-- The first command of a user. -/
theorem new_session_iff_first : Fresh defaultConfig
    (BotServer.init.handleBotMessage defaultConfig (message "/new" 1) ⟨true, true⟩ 7) 1 := by
  refine (new_session_iff (by decide) .nil rfl (by decide)).1.2 ⟨by decide, ?_⟩
  exact fun row hrow => absurd hrow List.not_mem_nil

/-- A message of ten thousand characters uses up the session. -/
def longMessage : BotMessage := message (Text.ofBytes (List.replicate 10000 97)) 1

theorem longMessage_size : longMessage.content.utf8ByteSize = 10000 := by
  have hascii : ∀ b ∈ List.replicate 10000 (97 : UInt8), b.toNat < 128 := fun b hb =>
    List.eq_of_mem_replicate hb ▸ by decide
  exact (Text.utf8ByteSize_ofBytes hascii).trans List.length_replicate

def usedUp : BotServer :=
  BotServer.init.handleBotMessage defaultConfig longMessage ⟨true, true⟩ 7

theorem usedUp_eq : usedUp.session 1 = BotServer.init.session 1 ∧
    usedUp.rows = [⟨1, BotServer.init.session 1, "user", longMessage.content⟩] ∧
    usedUp.manager.processing = [1] := by
  have hother : ∀ text : String, text.utf8ByteSize ≠ 10000 → longMessage.content ≠ text :=
    fun text hsize heq => hsize (heq ▸ longMessage_size)
  have hsender : longMessage.senderId = 1 := rfl
  have hid : longMessage.messageId = 1 := rfl
  have hordinary := handle_ordinary defaultConfig .init longMessage ⟨true, true⟩ 7 (by decide)
    List.not_mem_nil (by decide) (hother _ (by decide)) (hother _ (by decide)) rfl
  rw [hsender, hid] at hordinary
  unfold usedUp
  exact hordinary

theorem charCount_singleton {row : BotRow} (h : s.rows = [row]) :
    s.charCount row.userId row.conversationId = row.charCount := by
  unfold charCount
  rw [h]
  simp

theorem usedUp_count : usedUp.charCount 1 (usedUp.session 1) = 10000 := by
  obtain ⟨hsession, hrows, -⟩ := usedUp_eq
  rw [hsession]
  exact (charCount_singleton hrows).trans longMessage_size

/-- In the session that is used up, /new is refused, as all messages are. -/
theorem new_refused : ¬ ∀ events s m q timestamp,
    Run (BotServer.step defaultConfig) anyStep .init events s → m.content = "/new" →
    m.messageId ∉ s.manager.processing →
    Fresh defaultConfig (s.handleBotMessage defaultConfig m q timestamp) m.senderId := by
  intro h
  have hrun : Run (BotServer.step defaultConfig) anyStep .init
      [.message longMessage ⟨true, true⟩ 7] usedUp := .snoc .nil trivial rfl
  have hnot : (message "/new" 2).messageId ∉ usedUp.manager.processing := by
    rw [usedUp_eq.2.2]
    decide
  have hfresh := h _ _ (message "/new" 2) ⟨true, true⟩ 8 hrun rfl hnot
  rw [fresh_iff (by decide) rfl hnot] at hfresh
  refine hfresh.1 ?_
  have hcount : usedUp.currentCount 1 ⟨true, true⟩ = 10000 :=
    (if_pos rfl).trans (congrArg Int.ofNat usedUp_count)
  exact Int.le_of_eq hcount.symm

end ChatApp.Bot
