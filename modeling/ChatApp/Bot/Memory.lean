/-
  What the bot remembers. `handle_bot_message` calls `clear_conversation` before `chat`, to set the
  context from the history that it has loaded, but the loop over the history is empty. So every
  request has the system prompt and the new message only (`turn_request`).

  One message at a time: a message is handled, sent to the API and answered before the next event.
  What the database answers, and what time it is, comes with the message; `Session.BotManager` has
  the calls of the database and the replies.
-/
import ChatApp.Bot.DeepSeekClient
import ChatApp.Lib.Run

namespace ChatApp.Bot

open ChatApp.Lib ChatApp.Protocol

structure BotConfig where
  enabled : Bool
  maxCharCount : Int
  client : DeepSeekConfig

/-- `is_enabled` -/
def BotConfig.isEnabled (cfg : BotConfig) : Bool := cfg.enabled && !cfg.client.apiKey.isEmpty

/-- A message that was answered. -/
structure Exchange where
  conversationId : String
  message : String
  reply : String

structure BotManager where
  conversations : Conversations
  userSessions : Nat → Option String
  processing : List Nat
  calls : Nat
  /-- of all sessions, in order -/
  exchanges : List Exchange

structure BotMessage where
  senderId : Nat
  content : String
  messageId : Nat
  /-- what `get_bot_conversation_char_count` and `create_new_bot_session` answer -/
  charCount : Int
  newSessionId : String
  now : Int
  /-- the entry that is evicted, if one is -/
  victim : Nat
  post : Json → Option (Option Json)

inductive BotEvent
  | message (m : BotMessage)
  | cleanup (now maxAgeSeconds : Int)
  | clearAll

namespace BotManager

def init : BotManager := ⟨⟨[], fun _ => ⟨[], 0⟩, 0⟩, fun _ => none, [], 0, []⟩

/-- `get_user_session_id` -/
def getUserSessionId (b : BotManager) (userId : Nat) : String :=
  (b.userSessions userId).getD ("user_" ++ toString userId ++ "_default")

def setUserSessionId (b : BotManager) (userId : Nat) (sessionId : String) : BotManager :=
  { b with userSessions := Function.update b.userSessions userId (some sessionId) }

/-- Up to `chat`, and the conversation for which it is called. -/
def handleBotMessage (cfg : BotConfig) (b : BotManager) (m : BotMessage) :
    BotManager × Option String :=
  if !cfg.isEnabled then (b, none)
  else if m.messageId ∈ b.processing then (b, none)
  else
    let conversationId := b.getUserSessionId m.senderId
    let b := b.setUserSessionId m.senderId conversationId
    if cfg.maxCharCount ≤ m.charCount then (b, none)
    else if m.content = "/new" then (b.setUserSessionId m.senderId m.newSessionId, none)
    else if m.content = "/sessions" then (b, none)
    else
      ({ b with
        processing := m.messageId :: b.processing
        conversations := b.conversations.clearConversation conversationId }, some conversationId)

/-- The callback of `chat`. -/
def answered (b : BotManager) (m : BotMessage) (conversationId : String)
    (response : Option String) : BotManager :=
  { b with
    processing := b.processing.erase m.messageId
    calls := b.calls + 1
    exchanges := b.exchanges ++
      response.toList.map fun reply => ⟨conversationId, m.content, reply⟩ }

/-- A message from its arrival to the reply, and the request that is made for it. -/
def turn (cfg : BotConfig) (b : BotManager) (m : BotMessage) : Option (BotManager × Option Json) :=
  match b.handleBotMessage cfg m with
  | (b, none) => some (b, none)
  | (b, some conversationId) => do
    let (conversations, request, response) ← b.conversations.chatSync cfg.client b.calls m.content
      conversationId m.now m.victim m.post
    return ({ b with conversations := conversations }.answered m conversationId response,
      some request)

def step (cfg : BotConfig) (b : BotManager) : BotEvent → Option BotManager
  | .message m => (b.turn cfg m).map (·.1)
  | .cleanup now maxAgeSeconds => some { b with
      conversations := b.conversations.cleanupExpiredConversations now maxAgeSeconds }
  | .clearAll => some { b with conversations := b.conversations.clearAllConversations }

/-- The exchanges of the session that a message of the user belongs to. -/
def sessionExchanges (b : BotManager) (userId : Nat) : List Exchange :=
  b.exchanges.filter (·.conversationId = b.getUserSessionId userId)

/-- The most recent of the messages, at most `max_context_messages_`. -/
def recent (cfg : BotConfig) (exchanges : List Exchange) : List DeepSeekMessage :=
  let messages := exchanges.flatMap fun x => [⟨"user", x.message⟩, ⟨"assistant", x.reply⟩]
  messages.drop (messages.length - cfg.client.maxContextMessages.toNat)

/-- The request that continues the session. -/
def expected (cfg : BotConfig) (b : BotManager) (m : BotMessage) : Json :=
  buildRequest cfg.client (Conversations.systemMessages cfg.client ++
    recent cfg (b.sessionExchanges m.senderId) ++ [⟨"user", m.content⟩])

end BotManager

/-! ## The request -/

section
variable {cfg : DeepSeekConfig} {s t : Conversations} {id : String} {e : Nat}

theorem toJson_inj (m m' : DeepSeekMessage) (h : m.toJson = m'.toJson) : m = m' := by
  obtain ⟨role, content⟩ := m
  obtain ⟨role', content'⟩ := m'
  simpa [DeepSeekMessage.toJson] using h

theorem buildRequest_inj {messages messages' : List DeepSeekMessage} :
    buildRequest cfg messages = buildRequest cfg messages' ↔ messages = messages' := by
  rw [← List.map_inj_right toJson_inj]
  simp [buildRequest]

theorem find_clearConversation : (s.clearConversation id).find id = none := by
  refine List.lookup_eq_none_iff.2 fun x hx => ?_
  have hne : x.1 ≠ id := by simpa using (List.mem_filter.1 hx).2
  simpa using hne.symm

/-- A new entry has the system prompt only. -/
theorem getConversation_fresh {now : Int} {victim : Nat} (hfind : s.find id = none)
    (h : s.getConversation cfg id now victim = some (t, e)) :
    (t.entries e).messages.map (·.1) = Conversations.systemMessages cfg := by
  have hcreate : ∀ u : Conversations,
      ((u.create cfg id now).entries u.created).messages.map (·.1) =
        Conversations.systemMessages cfg := by
    intro u
    simp [Conversations.create, Function.comp_def]
  unfold Conversations.getConversation at h
  rw [hfind] at h
  dsimp only at h
  split at h
  · split at h
    · obtain ⟨rfl, rfl⟩ := Prod.mk.inj (Option.some.inj h)
      exact hcreate _
    · exact absurd h.symm (Option.some_ne_none _)
  · obtain ⟨rfl, rfl⟩ := Prod.mk.inj (Option.some.inj h)
    exact hcreate _

theorem request_addUserMessage {call : Nat} {userMessage : String} :
    (s.addUserMessage e call userMessage).request cfg e =
      buildRequest cfg ((s.entries e).messages.map (·.1) ++ [⟨"user", userMessage⟩]) := by
  simp [Conversations.request, Conversations.addUserMessage, Conversations.setMessages,
    Conversations.setEntry]

theorem chatSync_request {call victim : Nat} {userMessage : String} {now : Int}
    {post : Json → Option (Option Json)} {request : Json} {response : Option String}
    (hfind : s.find id = none)
    (h : s.chatSync cfg call userMessage id now victim post = some (t, request, response)) :
    request = buildRequest cfg (Conversations.systemMessages cfg ++ [⟨"user", userMessage⟩]) := by
  obtain ⟨⟨u, e⟩, hget, h⟩ := Option.bind_eq_some_iff.1 h
  obtain ⟨-, h⟩ := Prod.mk.inj (Option.some.inj h)
  obtain ⟨rfl, -⟩ := Prod.mk.inj h
  rw [request_addUserMessage, getConversation_fresh hfind hget]

end

variable {cfg : BotConfig} {b b' : BotManager} {m : BotMessage} {request : Json}

/-- A message for which `chat` is called: its conversation has just been cleared. -/
theorem handleBotMessage_chat {conversationId : String}
    (h : b.handleBotMessage cfg m = (b', some conversationId)) :
    b'.conversations = b.conversations.clearConversation conversationId := by
  unfold BotManager.handleBotMessage at h
  dsimp only at h
  split at h
  · exact absurd (Prod.mk.inj h).2.symm (Option.some_ne_none _)
  split at h
  · exact absurd (Prod.mk.inj h).2.symm (Option.some_ne_none _)
  split at h
  · exact absurd (Prod.mk.inj h).2.symm (Option.some_ne_none _)
  split at h
  · exact absurd (Prod.mk.inj h).2.symm (Option.some_ne_none _)
  split at h
  · exact absurd (Prod.mk.inj h).2.symm (Option.some_ne_none _)
  obtain ⟨rfl, hid⟩ := Prod.mk.inj h
  rw [Option.some.inj hid]
  rfl

/-- Whatever the session was about, the request has the system prompt and the message. -/
theorem turn_request (h : b.turn cfg m = some (b', some request)) :
    request = buildRequest cfg.client
      (Conversations.systemMessages cfg.client ++ [⟨"user", m.content⟩]) := by
  unfold BotManager.turn at h
  split at h
  next => cases h
  next b₁ conversationId hhandle =>
    have hfind : b₁.conversations.find conversationId = none := by
      rw [handleBotMessage_chat hhandle]
      exact find_clearConversation
    obtain ⟨⟨t, r, response⟩, hchat, h⟩ := Option.bind_eq_some_iff.1 h
    obtain rfl := Option.some.inj (Prod.mk.inj (Option.some.inj h)).2
    exact chatSync_request hfind hchat

/-! ## Memory -/

theorem recent_eq_nil {exchanges : List Exchange} : BotManager.recent cfg exchanges = [] ↔
    exchanges = [] ∨ cfg.client.maxContextMessages ≤ 0 := by
  have hlength : (exchanges.flatMap fun x => [DeepSeekMessage.mk "user" x.message,
      ⟨"assistant", x.reply⟩]).length = 2 * exchanges.length := by
    induction exchanges with
    | nil => rfl
    | cons x exchanges ih =>
      rw [List.flatMap_cons, List.length_append, ih, List.length_cons]
      simp only [List.length_cons, List.length_nil]
      omega
  unfold BotManager.recent
  dsimp only
  rw [List.drop_eq_nil_iff, hlength, ← List.length_eq_zero_iff]
  omega

/-- The request continues the session if and only if there is nothing to remember. -/
theorem turn_expected_iff (h : b.turn cfg m = some (b', some request)) :
    request = b.expected cfg m ↔
      b.sessionExchanges m.senderId = [] ∨ cfg.client.maxContextMessages ≤ 0 := by
  rw [turn_request h, BotManager.expected, buildRequest_inj, ← recent_eq_nil]
  simp

/-- The settings of a fresh `DeepSeekClient` with a key. -/
def defaultConfig : BotConfig :=
  ⟨true, 10000, ⟨"key", "deepseek-chat", "你是一个友好的聊天助手。请用简洁、自然的方式回复用户的消息。", 10, 100⟩⟩

/-- The API always answers "hi". -/
def message (content : String) (messageId : Nat) : BotMessage :=
  ⟨1, content, messageId, 0, "", 0, 0, fun _ => some (some (.object [("choices", .array
    [.object [("message", .object [("content", .string "hi")])]])]))⟩

/-- The first message of a user. -/
theorem turn_expected_first : ∃ b' request,
    BotManager.init.turn defaultConfig (message "hello" 1) = some (b', some request) ∧
      request = BotManager.init.expected defaultConfig (message "hello" 1) :=
  ⟨_, _, rfl, (turn_expected_iff rfl).2 (.inl rfl)⟩

/-- The second message is sent without the first one and its answer. -/
theorem second_message_alone :
    ¬ ∀ (es : List BotEvent) (b b' : BotManager) (m : BotMessage) (request : Json),
      Run (BotManager.step defaultConfig) anyStep .init es b →
      b.turn defaultConfig m = some (b', some request) → request = b.expected defaultConfig m := by
  intro h
  obtain ⟨b, hrun, hexchanges, b', request, hturn⟩ : ∃ b,
      Run (BotManager.step defaultConfig) anyStep .init [.message (message "hello" 1)] b ∧
      (b.sessionExchanges 1).length = 1 ∧
      ∃ b' request, b.turn defaultConfig (message "again" 2) = some (b', some request) :=
    ⟨_, exec_run rfl, rfl, _, _, rfl⟩
  have hrequest := h _ b b' _ request hrun hturn
  rw [turn_request hturn, BotManager.expected, buildRequest_inj] at hrequest
  have hrecent : BotManager.recent defaultConfig
      (b.sessionExchanges (message "again" 2).senderId) = [] := by simpa using hrequest
  rcases recent_eq_nil.1 hrecent with hnil | hmax
  · exact absurd (hexchanges.symm.trans (congrArg List.length hnil)) (by decide)
  · exact absurd hmax (by decide)

end ChatApp.Bot
