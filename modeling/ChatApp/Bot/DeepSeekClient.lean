/-
  `DeepSeekClient`: the conversations, and what `chat_sync` does to an entry. `get_conversation`
  returns a reference that is used when the lock is free again; here it is the number of the entry,
  which no other entry ever gets. With each message of an entry goes the number of the call that
  has added it.

  The iteration order of the map is unspecified, so the entry that is evicted is an argument, one
  whose last access is as old as that of any other. The texts of errors, which are only logged, are
  left out.
-/
import ChatApp.Protocol.Json
import Mathlib.Logic.Function.Iterate

namespace ChatApp.Bot

open ChatApp.Protocol

structure DeepSeekMessage where
  role : String
  content : String
  deriving DecidableEq

structure ConversationEntry where
  messages : List (DeepSeekMessage × Option Nat)
  lastAccess : Int

/-- The settings of a client. -/
structure DeepSeekConfig where
  apiKey : String
  model : String
  systemPrompt : String
  maxContextMessages : Int
  maxConversations : Nat

/-- `conversations_`, and the entries that its references lead to. -/
structure Conversations where
  ids : List (String × Nat)
  entries : Nat → ConversationEntry
  created : Nat

def DeepSeekMessage.toJson (m : DeepSeekMessage) : Json :=
  .object [("role", .string m.role), ("content", .string m.content)]

def buildRequest (cfg : DeepSeekConfig) (messages : List DeepSeekMessage) : Json := .object [
  ("model", .string cfg.model),
  ("messages", .array (messages.map DeepSeekMessage.toJson)),
  ("max_tokens", .number 1000),
  -- 0.7 as a `float`
  ("temperature", .float 11744051 (-24)),
  ("stream", .bool false)]

/-- The content of a successful response. What is no JSON, or not of the expected form, throws. -/
def parseResponse (text : Option Json) : Option String := do
  let resp ← text
  if resp.contains "error" then none
  else
    match resp.find? "choices" with
    | some (.array (choice :: _)) =>
      let message ← choice.find? "message"
      let content ← (message.valueString "content" "").toOption
      match resp.find? "usage" with
      | some usage => (usage.valueInt "total_tokens" 0).toOption.map fun _ => content
      | none => some content
    | _ => none

namespace Conversations

def find (s : Conversations) (id : String) : Option Nat := s.ids.lookup id

def setEntry (s : Conversations) (e : Nat) (entry : ConversationEntry) : Conversations :=
  { s with entries := Function.update s.entries e entry }

def eraseWhere (s : Conversations) (p : String × Nat → Bool) : Conversations :=
  { s with ids := s.ids.filter fun x => !p x }

/-- The messages of a new entry. -/
def systemMessages (cfg : DeepSeekConfig) : List DeepSeekMessage :=
  if cfg.systemPrompt.isEmpty then [] else [⟨"system", cfg.systemPrompt⟩]

def create (cfg : DeepSeekConfig) (s : Conversations) (id : String) (now : Int) :
    Conversations where
  ids := s.ids ++ [(id, s.created)]
  entries := Function.update s.entries s.created
    ⟨(systemMessages cfg).map fun m => (m, none), now⟩
  created := s.created + 1

/-- The loop of an eviction can end with `victim`. -/
def Oldest (s : Conversations) (victim : Nat) : Prop :=
  victim ∈ s.ids.map (·.2) ∧
    ∀ x ∈ s.ids, (s.entries victim).lastAccess ≤ (s.entries x.2).lastAccess

instance (s : Conversations) (victim : Nat) : Decidable (s.Oldest victim) :=
  inferInstanceAs (Decidable (_ ∧ ∀ x ∈ _, _))

/-- Whether the call makes room for a new entry. -/
def Evicts (cfg : DeepSeekConfig) (s : Conversations) (id : String) : Prop :=
  s.find id = none ∧ cfg.maxConversations ≤ s.ids.length

instance (cfg : DeepSeekConfig) (s : Conversations) (id : String) : Decidable (s.Evicts cfg id) :=
  inferInstanceAs (Decidable (_ ∧ _))

/-- With no entry to erase, the behaviour is undefined. -/
def getConversation (cfg : DeepSeekConfig) (s : Conversations) (id : String) (now : Int)
    (victim : Nat) : Option (Conversations × Nat) :=
  match s.find id with
  | some e => some (s.setEntry e { s.entries e with lastAccess := now }, e)
  | none =>
    if cfg.maxConversations ≤ s.ids.length then
      if s.Oldest victim then
        some ((s.eraseWhere (·.2 = victim)).create cfg id now, s.created)
      else none
    else some (s.create cfg id now, s.created)

def clearConversation (s : Conversations) (id : String) : Conversations := s.eraseWhere (·.1 = id)

def clearAllConversations (s : Conversations) : Conversations := s.eraseWhere fun _ => true

/-- Seconds of a difference of nanoseconds; `duration_cast` truncates. -/
def seconds (nanoseconds : Int) : Int := nanoseconds.tdiv (10 ^ 9)

def cleanupExpiredConversations (s : Conversations) (now : Int) (maxAgeSeconds : Int) :
    Conversations :=
  s.eraseWhere fun x => maxAgeSeconds < seconds (now - (s.entries x.2).lastAccess)

/-! ## An entry in `chat_sync` -/

def setMessages (s : Conversations) (e : Nat) (messages : List (DeepSeekMessage × Option Nat)) :
    Conversations :=
  s.setEntry e { s.entries e with messages := messages }

def addUserMessage (s : Conversations) (e call : Nat) (userMessage : String) : Conversations :=
  s.setMessages e ((s.entries e).messages ++ [(⟨"user", userMessage⟩, some call)])

/-- The loop that keeps the first message and the last `max_context_messages_`; each round takes one
    message away. -/
def trim (cfg : DeepSeekConfig) (messages : List (DeepSeekMessage × Option Nat)) :
    List (DeepSeekMessage × Option Nat) :=
  let rounds := messages.length - toUInt64 (cfg.maxContextMessages + 1)
  Nat.iterate (List.eraseIdx · 1) rounds messages

/-- `chat_sync` after the response. -/
def finish (cfg : DeepSeekConfig) (s : Conversations) (e call : Nat) :
    Option String → Conversations
  | some content =>
    s.setMessages e (trim cfg ((s.entries e).messages ++ [(⟨"assistant", content⟩, some call)]))
  | none => s.setMessages e (s.entries e).messages.dropLast

def request (cfg : DeepSeekConfig) (s : Conversations) (e : Nat) : Json :=
  buildRequest cfg ((s.entries e).messages.map (·.1))

/-- `chat_sync` of a configured client that nothing comes between, with its request. `post` gives
    the body of the answer, none for an empty one. -/
def chatSync (cfg : DeepSeekConfig) (s : Conversations) (call : Nat) (userMessage id : String)
    (now : Int) (victim : Nat) (post : Json → Option (Option Json)) :
    Option (Conversations × Json × Option String) := do
  let (s, e) ← s.getConversation cfg id now victim
  let s := s.addUserMessage e call userMessage
  let request := s.request cfg e
  let response := (post request).bind parseResponse
  return (s.finish cfg e call response, request, response)

end Conversations

end ChatApp.Bot
