/-
  What a conversation holds after calls of `chat_sync` that come one at a time: the system prompt
  and the latest messages of the calls that succeeded. The conversation is not evicted or cleared;
  everything else may happen to the other ones in between.
-/
import ChatApp.Bot.LeastRecent

namespace ChatApp.Bot

open ChatApp.Lib ChatApp.Protocol Conversations

inductive TalkCall
  | chatSync (id userMessage : String) (call : Nat) (now : Int) (victim : Nat)
      (post : Json → Option (Option Json))
  | table (l : TableCall)

/-- The conversations, and what was said in the successful calls for one of them. -/
structure Talk where
  conversations : Conversations
  said : List DeepSeekMessage

/-- The two messages of a successful call. -/
def exchanged (userMessage : String) : Option String → List DeepSeekMessage
  | some content => [⟨"user", userMessage⟩, ⟨"assistant", content⟩]
  | none => []

namespace Talk

def step (cfg : DeepSeekConfig) (id : String) (t : Talk) : TalkCall → Option Talk
  | .chatSync id' userMessage call now victim post =>
    (t.conversations.chatSync cfg call userMessage id' now victim post).map fun x =>
      ⟨x.1, if id' = id then t.said ++ exchanged userMessage x.2.2 else t.said⟩
  | .table l => (t.conversations.call cfg l).map fun c => ⟨c, t.said⟩

/-- The call leaves the conversation in the table. -/
def Keeps (cfg : DeepSeekConfig) (id : String) (t : Talk) (l : TalkCall) : Prop :=
  ∀ t' ∈ t.step cfg id l, (t.conversations.find id).isSome → (t'.conversations.find id).isSome

instance (cfg : DeepSeekConfig) (id : String) (t : Talk) (l : TalkCall) :
    Decidable (t.Keeps cfg id l) := inferInstanceAs (Decidable (∀ t' ∈ _, _))

/-- The system prompt and the latest of the messages. -/
def context (cfg : DeepSeekConfig) (said : List DeepSeekMessage) : List DeepSeekMessage :=
  ⟨"system", cfg.systemPrompt⟩ :: said.rtake cfg.maxContextMessages.toNat

end Talk

/-- A call of `chat_sync` for the conversation. -/
def TalkCall.IsChat (id : String) : TalkCall → Prop
  | chatSync id' .. => id' = id
  | table _ => False

namespace Conversations

/-- The messages of the conversation, or those with which it would begin. -/
def stored (cfg : DeepSeekConfig) (c : Conversations) (id : String) : List DeepSeekMessage :=
  ((c.entry id).elim ((systemMessages cfg).map fun m => (m, none)) (·.messages)).map (·.1)

end Conversations

open Talk

variable {cfg : DeepSeekConfig} {c c' : Conversations} {id id' userMessage : String}
variable {t t' : Talk} {l : TalkCall} {calls : List TalkCall} {now : Int} {call victim e : Nat}
variable {post : Json → Option (Option Json)} {request : Json} {response : Option String}
variable {messages : List (DeepSeekMessage × Option Nat)} {m : DeepSeekMessage × Option Nat}

/-! ## Trimming -/

theorem trim_cons (hmax : 0 ≤ cfg.maxContextMessages) (hint : cfg.maxContextMessages < 2 ^ 31) :
    trim cfg (m :: messages) = m :: messages.rtake cfg.maxContextMessages.toNat := by
  have hcast : toUInt64 (cfg.maxContextMessages + 1) = cfg.maxContextMessages.toNat + 1 := by
    unfold toUInt64
    omega
  unfold trim
  rw [hcast, iterate_eraseIdx]
  unfold List.rtake
  congr 2
  rw [List.length_cons]
  omega

/-! ## One call -/

/-- The messages after a response, from those before the call. -/
def afterCall (cfg : DeepSeekConfig) (call : Nat) (userMessage : String)
    (messages : List (DeepSeekMessage × Option Nat)) :
    Option String → List (DeepSeekMessage × Option Nat)
  | some content =>
    trim cfg (messages ++ [(⟨"user", userMessage⟩, some call), (⟨"assistant", content⟩, some call)])
  | none => messages

theorem finish_addUserMessage : (c.addUserMessage e call userMessage).finish cfg e call response =
    c.setMessages e (afterCall cfg call userMessage (c.entries e).messages response) := by
  cases response <;> simp [finish, addUserMessage, setMessages, setEntry, afterCall]

theorem chatSync_eq
    (h : c.chatSync cfg call userMessage id now victim post = some (c', request, response)) :
    ∃ u e, c.getConversation cfg id now victim = some (u, e) ∧
      c' = u.setMessages e (afterCall cfg call userMessage (u.entries e).messages response) := by
  obtain ⟨⟨u, e⟩, hget, hrest⟩ := Option.bind_eq_some_iff.1 h
  obtain ⟨hfinish, hpair⟩ := Prod.mk.inj (Option.some.inj hrest)
  obtain ⟨-, rfl⟩ := Prod.mk.inj hpair
  exact ⟨u, e, hget, hfinish.symm.trans finish_addUserMessage⟩

theorem map_afterCall {said : List DeepSeekMessage} (hmax : 0 ≤ cfg.maxContextMessages)
    (hint : cfg.maxContextMessages < 2 ^ 31) (h : messages.map (·.1) = context cfg said) :
    (afterCall cfg call userMessage messages response).map (·.1) =
      context cfg (said ++ exchanged userMessage response) := by
  cases response with
  | none =>
    show messages.map (·.1) = context cfg (said ++ [])
    rw [h, List.append_nil]
  | some content =>
    obtain ⟨m, rest, rfl, hm, hrest⟩ := List.map_eq_cons_iff.1 h
    show (trim cfg (m :: (rest ++ [_, _]))).map (·.1) = _
    rw [trim_cons hmax hint, List.map_cons, hm, map_rtake, List.map_append, hrest,
      rtake_rtake_append]
    rfl

theorem stored_of_entry (h : c'.entry id = c.entry id) : stored cfg c' id = stored cfg c id := by
  unfold stored
  rw [h]

theorem stored_of_find (h : c.find id = some e) :
    stored cfg c id = (c.entries e).messages.map (·.1) := by
  unfold stored Conversations.entry
  rw [h]
  rfl

theorem stored_setMessages (h : c.find id = some e) :
    stored cfg (c.setMessages e messages) id = messages.map (·.1) := by
  rw [stored_of_find (c := c.setMessages e messages) h]
  simp [setMessages, setEntry]

/-- The entry of another conversation. -/
theorem entry_setMessages_of_ne (h : WellFormed cfg c) (hfind : c.find id' = some e)
    (hne : id ≠ id') : (c.setMessages e messages).entry id = c.entry id :=
  entry_congr rfl fun _ hk =>
    Function.update_of_ne (fun heq => hne (h.number_inj (heq ▸ hk) hfind)) ..

theorem entry_getConversation_of_ne (h : WellFormed cfg c)
    (hget : c.getConversation cfg id' now victim = some (c', e)) (hne : id ≠ id')
    (hkeeps : (c.find id).isSome → (c'.find id).isSome) : c'.entry id = c.entry id := by
  obtain ⟨-, -, gone, hothers, hgone⟩ := getConversation_touched h hget
  refine hothers id hne fun heq => ?_
  obtain ⟨-, -, -, hnone, old, hold, -⟩ := hgone id heq
  obtain ⟨k, hk, -⟩ := Option.map_eq_some_iff.1 hold
  have hsome := hkeeps (hk ▸ rfl)
  rw [entry_eq_none.1 hnone] at hsome
  exact absurd hsome (by simp)

theorem entry_eraseWhere {p : String × Nat → Bool} (h : WellFormed cfg c)
    (hkeeps : (c.find id).isSome → ((c.eraseWhere p).find id).isSome) :
    (c.eraseWhere p).entry id = c.entry id := by
  refine entry_congr ?_ fun _ _ => rfl
  cases hfind : c.find id with
  | none =>
    refine lookup_eq_none_iff_not_mem.2 fun hmem => ?_
    exact lookup_eq_none_iff_not_mem.1 hfind ((List.filter_sublist.map _).subset hmem)
  | some k =>
    obtain ⟨k', hk'⟩ := Option.isSome_iff_exists.1 (hkeeps (hfind ▸ rfl))
    have hmem := List.mem_of_mem_filter (h.eraseWhere.find_iff.1 hk')
    rw [hk', ← h.find_iff.2 hmem, hfind]

/-! ## All calls -/

/-- What every call preserves. -/
def Good (cfg : DeepSeekConfig) (id : String) (t : Talk) : Prop :=
  WellFormed cfg t.conversations ∧ stored cfg t.conversations id = context cfg t.said

theorem good_chatSync (hmax : 0 ≤ cfg.maxContextMessages) (hint : cfg.maxContextMessages < 2 ^ 31)
    (h : Good cfg id t) (hkeeps : t.Keeps cfg id (.chatSync id' userMessage call now victim post))
    (hstep : t.step cfg id (.chatSync id' userMessage call now victim post) = some t') :
    Good cfg id t' ∧ (id' = id → (t'.conversations.find id).isSome) := by
  have hleft := hkeeps t' hstep
  obtain ⟨⟨c', request, response⟩, hchat, rfl⟩ := Option.map_eq_some_iff.1 hstep
  obtain ⟨u, e, hget, rfl⟩ := chatSync_eq hchat
  have hu := getConversation_wellFormed h.1 hget
  have htouched := getConversation_touched h.1 hget
  by_cases hid : id' = id
  · subst hid
    have hfind := htouched.present.1
    refine ⟨⟨hu.setEntry, ?_⟩, fun _ => Option.isSome_iff_exists.2 ⟨e, hfind⟩⟩
    have hbefore : (u.entries e).messages.map (·.1) = context cfg t.said := by
      rw [htouched.messages, ← h.2]
      rfl
    rw [if_pos rfl]
    exact (stored_setMessages hfind).trans (map_afterCall hmax hint hbefore)
  · refine ⟨⟨hu.setEntry, ?_⟩, fun heq => absurd heq hid⟩
    rw [if_neg hid, ← h.2]
    refine stored_of_entry ?_
    rw [entry_setMessages_of_ne hu htouched.present.1 (Ne.symm hid)]
    exact entry_getConversation_of_ne h.1 hget (Ne.symm hid) hleft

theorem good_table {l : TableCall} (h : Good cfg id t) (hkeeps : t.Keeps cfg id (.table l))
    (hstep : t.step cfg id (.table l) = some t') : Good cfg id t' := by
  have hleft := hkeeps t' hstep
  obtain ⟨c', hcall, rfl⟩ := Option.map_eq_some_iff.1 hstep
  have herase : ∀ p, c' = t.conversations.eraseWhere p → Good cfg id ⟨c', t.said⟩ := by
    intro p hp
    subst hp
    exact ⟨h.1.eraseWhere, (stored_of_entry (entry_eraseWhere h.1 hleft)).trans h.2⟩
  cases l with
  | getConversation id' now victim =>
    obtain ⟨⟨u, e⟩, hget, rfl⟩ := Option.map_eq_some_iff.1 hcall
    refine ⟨getConversation_wellFormed h.1 hget, ?_⟩
    by_cases hid : id' = id
    · subst hid
      have htouched := getConversation_touched h.1 hget
      rw [stored_of_find htouched.present.1, htouched.messages]
      exact h.2
    · exact (stored_of_entry (entry_getConversation_of_ne h.1 hget (Ne.symm hid) hleft)).trans h.2
  | clearConversation id' => exact herase _ (Option.some.inj hcall).symm
  | clearAllConversations => exact herase _ (Option.some.inj hcall).symm
  | cleanupExpiredConversations now maxAgeSeconds => exact herase _ (Option.some.inj hcall).symm

theorem run_good (hprompt : cfg.systemPrompt ≠ "") (hmax : 0 ≤ cfg.maxContextMessages)
    (hint : cfg.maxContextMessages < 2 ^ 31)
    (h : Run (Talk.step cfg id) (Talk.Keeps cfg id) ⟨Conversations.empty, []⟩ calls t) :
    Good cfg id t ∧ ((∃ l ∈ calls, l.IsChat id) → (t.conversations.find id).isSome) := by
  induction h with
  | nil =>
    refine ⟨⟨wellFormed_empty, ?_⟩, fun ⟨l, hl, _⟩ => absurd hl List.not_mem_nil⟩
    have hsystem : systemMessages cfg = [⟨"system", cfg.systemPrompt⟩] :=
      if_neg (by simpa using hprompt)
    show ((systemMessages cfg).map fun m => (m, none)).map (·.1) = context cfg []
    unfold context
    rw [hsystem, List.rtake_nil]
    rfl
  | @snoc calls t t' l _ hkeeps hstep ih =>
    obtain ⟨hgood, hpresent⟩ := ih
    have hstays : (t.conversations.find id).isSome → (t'.conversations.find id).isSome :=
      hkeeps t' hstep
    cases l with
    | chatSync id' userMessage call now victim post =>
      obtain ⟨hgood', hnow⟩ := good_chatSync hmax hint hgood hkeeps hstep
      refine ⟨hgood', fun ⟨l, hl, hchat⟩ => ?_⟩
      rcases List.mem_append.1 hl with hl | hl
      · exact hstays (hpresent ⟨l, hl, hchat⟩)
      · obtain rfl := List.mem_singleton.1 hl
        exact hnow hchat
    | table l =>
      refine ⟨good_table hgood hkeeps hstep, fun ⟨k, hk, hchat⟩ => ?_⟩
      rcases List.mem_append.1 hk with hk | hk
      · exact hstays (hpresent ⟨k, hk, hchat⟩)
      · obtain rfl := List.mem_singleton.1 hk
        exact hchat.elim

/-- After calls of `chat_sync` for a conversation that stays in the table, whatever they were
    answered, it has the system prompt and the last `max_context_messages_` messages of those that
    succeeded. -/
theorem conversation_context (hprompt : cfg.systemPrompt ≠ "")
    (hmax : 0 ≤ cfg.maxContextMessages) (hint : cfg.maxContextMessages < 2 ^ 31)
    (h : Run (Talk.step cfg id) (Talk.Keeps cfg id) ⟨Conversations.empty, []⟩ calls t)
    (hchat : ∃ l ∈ calls, l.IsChat id) :
    ∃ entry, t.conversations.entry id = some entry ∧
      entry.messages.map (·.1) = context cfg t.said := by
  obtain ⟨hgood, hpresent⟩ := run_good hprompt hmax hint h
  obtain ⟨e, he⟩ := Option.isSome_iff_exists.1 (hpresent hchat)
  refine ⟨t.conversations.entries e, ?_, ?_⟩
  · unfold Conversations.entry
    rw [he]
    rfl
  · have hstored : stored cfg t.conversations id = _ := stored_of_find he
    exact hstored.symm.trans hgood.2

/-- A client that keeps three messages, and an API that answers "hi". -/
def shortConfig : DeepSeekConfig := ⟨"key", "deepseek-chat", "Be brief.", 3, 100⟩

def sayHi (_ : Json) : Option (Option Json) :=
  some (some (.object [("choices", .array
    [.object [("message", .object [("content", .string "hi")])]])]))

/-- Two answers, and a call without one. -/
theorem conversation_context_two :
    ∃ t : Talk, ∃ entry, t.conversations.entry "a" = some entry ∧
      entry.messages.map (·.1) = [⟨"system", "Be brief."⟩, ⟨"assistant", "hi"⟩, ⟨"user", "bye"⟩,
        ⟨"assistant", "hi"⟩] := by
  have hrun : Run (Talk.step shortConfig "a") (Talk.Keeps shortConfig "a")
      ⟨Conversations.empty, []⟩ [.chatSync "a" "hello" 0 1 0 sayHi,
        .chatSync "a" "lost" 1 2 0 fun _ => none, .chatSync "a" "bye" 2 3 0 sayHi] _ :=
    run_iff_exec.2 rfl
  exact ⟨_, conversation_context (by decide) (by decide) (by decide) hrun
    ⟨_, List.mem_cons_self, rfl⟩⟩

end ChatApp.Bot
