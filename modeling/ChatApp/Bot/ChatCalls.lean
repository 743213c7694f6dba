/-
  `chat_sync` on the worker threads of the client. The reference that `get_conversation` returns is
  used until the call returns, and nobody asks whether it is used: an eviction, `clear_conversation`
  (which the bot calls for each new message) and the clean-ups erase the entry, and a second call
  for the conversation gets the same one.

  The condition on a run (`Unshared`): an entry that a call has obtained is not erased, and not
  obtained by another call, before the call has returned. After any other step an unsound state is
  at most two steps away (`unsound_of_shared`).

  Granularity. What happens under `conversations_mutex_` is one step. A change of the messages
  begins in one step and ends, with its effect, in another one. A call goes on with an entry only
  while the entry is there; else its behaviour is undefined.
-/
import ChatApp.Bot.Memory
import ChatApp.Lib.Run
import Mathlib.Data.List.Nodup

namespace ChatApp.Bot

open ChatApp.Lib

inductive CallPhase
  | started
  | obtained (e : Nat)
  /-- in `emplace_back` of the user message -/
  | adding (e : Nat)
  /-- in `build_request` and `http_post` -/
  | sending (e : Nat)
  /-- in the changes after the response, none if it has failed -/
  | finishing (e : Nat) (response : Option String)
  | returned

/-- The entry to which a call has a reference. -/
def CallPhase.entry : CallPhase → Option Nat
  | obtained e | adding e | sending e | finishing e _ => some e
  | started | returned => none

/-- The entry whose messages a call is changing. -/
def CallPhase.modifies : CallPhase → Option Nat
  | adding e | finishing e _ => some e
  | started | obtained _ | sending _ | returned => none

/-- The entry whose last message is to be that of the call. -/
def CallPhase.asks : CallPhase → Option Nat
  | sending e | finishing e _ => some e
  | started | obtained _ | adding _ | returned => none

/-- A call of `chat_sync` in a worker. -/
structure ChatCall where
  userMessage : String
  conversationId : String
  phase : CallPhase

structure ClientState where
  conversations : Conversations
  calls : List ChatCall
  /-- the failed calls, each with what it has removed -/
  removed : List (Nat × Option (DeepSeekMessage × Option Nat))

inductive ClientLabel
  /-- a worker takes a task of `chat` -/
  | start (userMessage conversationId : String)
  | obtain (n : Nat) (now : Int) (victim : Nat)
  | add (n : Nat)
  | added (n : Nat)
  | respond (n : Nat) (response : Option String)
  | finish (n : Nat)
  | clear (conversationId : String)
  | clearAll
  | cleanup (now maxAgeSeconds : Int)

namespace ClientState

def init : ClientState := ⟨⟨[], fun _ => ⟨[], 0⟩, 0⟩, [], []⟩

/-- The entry is in the map. -/
def Alive (s : ClientState) (e : Nat) : Prop := e ∈ s.conversations.ids.map (·.2)

instance (s : ClientState) (e : Nat) : Decidable (s.Alive e) := inferInstanceAs (Decidable (_ ∈ _))

/-- The entries to which calls have references. -/
def held (s : ClientState) : List Nat := s.calls.filterMap (·.phase.entry)

def setPhase (s : ClientState) (n : Nat) (call : ChatCall) (phase : CallPhase) : ClientState :=
  { s with calls := s.calls.set n { call with phase := phase } }

/-- One step of a call in its phase. -/
def advance (cfg : DeepSeekConfig) (s : ClientState) (n : Nat) (call : ChatCall) :
    ClientLabel → CallPhase → Option ClientState
  | .obtain _ now victim, .started =>
    (s.conversations.getConversation cfg call.conversationId now victim).map fun x =>
      { s with conversations := x.1 }.setPhase n call (.obtained x.2)
  | .add _, .obtained e => if s.Alive e then some (s.setPhase n call (.adding e)) else none
  | .added _, .adding e =>
    if s.Alive e then
      some ({ s with
        conversations := s.conversations.addUserMessage e n call.userMessage }.setPhase n call
          (.sending e))
    else none
  | .respond _ response, .sending e => some (s.setPhase n call (.finishing e response))
  | .finish _, .finishing e response =>
    if s.Alive e then
      some ({ s with
        conversations := s.conversations.finish cfg e n response
        removed := if response = none then
            s.removed ++ [(n, (s.conversations.entries e).messages.getLast?)]
          else s.removed }.setPhase n call .returned)
    else none
  | _, _ => none

def step (cfg : DeepSeekConfig) (s : ClientState) (l : ClientLabel) : Option ClientState :=
  match l with
  | .start userMessage conversationId =>
    -- four workers
    if s.calls.countP (fun call => call.phase matches .returned) + 4 ≤ s.calls.length then none
    else
      -- without a key it returns at once
      let phase := if cfg.apiKey.isEmpty then .returned else .started
      some { s with calls := s.calls ++ [⟨userMessage, conversationId, phase⟩] }
  | .obtain n _ _ | .add n | .added n | .respond n _ | .finish n =>
    s.calls[n]?.bind fun call => s.advance cfg n call l call.phase
  | .clear conversationId =>
    some { s with conversations := s.conversations.clearConversation conversationId }
  | .clearAll => some { s with conversations := s.conversations.clearAllConversations }
  | .cleanup now maxAgeSeconds => some { s with
      conversations := s.conversations.cleanupExpiredConversations now maxAgeSeconds }

/-- Whether the step erases this entry of the map. -/
def erases (cfg : DeepSeekConfig) (s : ClientState) : ClientLabel → String × Nat → Bool
  | .obtain n _ victim, x =>
    x.2 = victim && s.calls[n]?.any fun call => s.conversations.Evicts cfg call.conversationId
  | .clear conversationId, x => x.1 = conversationId
  | .clearAll, _ => true
  | .cleanup now maxAgeSeconds, x =>
    maxAgeSeconds < Conversations.seconds (now - (s.conversations.entries x.2).lastAccess)
  | .start .., _ | .add _, _ | .added _, _ | .respond .., _ | .finish _, _ => false

/-- The entry that a call finds in the map. -/
def finds (s : ClientState) : ClientLabel → Option Nat
  | .obtain n _ _ => s.calls[n]?.bind fun call => s.conversations.find call.conversationId
  | .start .. | .add _ | .added _ | .respond .. | .finish _ | .clear _ | .clearAll
  | .cleanup .. => none

/-- The step erases no entry that a call has, and gives no such entry to another call. -/
def Unshared (cfg : DeepSeekConfig) (s : ClientState) (l : ClientLabel) : Prop :=
  (∀ x ∈ s.conversations.ids, s.erases cfg l x → x.2 ∉ s.held) ∧ ∀ e ∈ s.finds l, e ∉ s.held

instance (cfg : DeepSeekConfig) (s : ClientState) (l : ClientLabel) :
    Decidable (s.Unshared cfg l) :=
  inferInstanceAs (Decidable ((∀ x ∈ _, _ → _) ∧ ∀ e ∈ _, _))

/-- What the calls may rely on. -/
structure Sound (s : ClientState) : Prop where
  /-- What a call has is in the map. -/
  alive : ∀ e ∈ s.held, s.Alive e
  /-- Two calls are not changing the same messages. -/
  exclusive : ∀ (n m : Nat) (call call' : ChatCall) e, s.calls[n]? = some call →
    s.calls[m]? = some call' →
    call.phase.modifies = some e → call'.phase.modifies = some e → n = m
  /-- What a failed call has removed is its own message. -/
  own : ∀ x ∈ s.removed, ∃ call, s.calls[x.1]? = some call ∧
    x.2 = some (⟨"user", call.userMessage⟩, some x.1)

/-- What keeps a state sound. -/
structure Tidy (s : ClientState) : Prop where
  alive : ∀ e ∈ s.held, s.Alive e
  single : ∀ (n m : Nat) (call call' : ChatCall) e, s.calls[n]? = some call →
    s.calls[m]? = some call' →
    call.phase.entry = some e → call'.phase.entry = some e → n = m
  created : ∀ x ∈ s.conversations.ids, x.2 < s.conversations.created
  distinct : (s.conversations.ids.map (·.2)).Nodup
  last : ∀ (n : Nat) (call : ChatCall) e, s.calls[n]? = some call → call.phase.asks = some e →
    (s.conversations.entries e).messages.getLast? = some (⟨"user", call.userMessage⟩, some n)
  own : ∀ x ∈ s.removed, ∃ call, s.calls[x.1]? = some call ∧
    x.2 = some (⟨"user", call.userMessage⟩, some x.1)

end ClientState

open ClientState

variable {cfg : DeepSeekConfig} {s t : ClientState} {l : ClientLabel} {ls : List ClientLabel}
variable {call call' : ChatCall} {n m e : Nat}

/-! ## One step -/

theorem entry_of_modifies {phase : CallPhase} (h : phase.modifies = some e) :
    phase.entry = some e := by
  cases phase <;> first | exact h | exact absurd h (Option.some_ne_none e).symm

theorem entry_of_asks {phase : CallPhase} (h : phase.asks = some e) : phase.entry = some e := by
  cases phase <;> first | exact h | exact absurd h (Option.some_ne_none e).symm

theorem mem_held : e ∈ s.held ↔ ∃ (n : Nat) (call : ChatCall),
    s.calls[n]? = some call ∧ call.phase.entry = some e := by
  unfold ClientState.held
  rw [List.mem_filterMap]
  constructor
  · rintro ⟨call, hcall, he⟩
    obtain ⟨n, hn⟩ := List.mem_iff_getElem?.1 hcall
    exact ⟨n, call, hn, he⟩
  · rintro ⟨n, call, hn, he⟩
    exact ⟨call, List.mem_of_getElem? hn, he⟩

theorem setPhase_calls {phase : CallPhase} (h : (s.setPhase n call phase).calls[m]? = some call') :
    (m = n ∧ call' = { call with phase := phase }) ∨ (m ≠ n ∧ s.calls[m]? = some call') := by
  unfold ClientState.setPhase at h
  rw [List.getElem?_set] at h
  split at h
  next heq =>
    split at h
    · exact .inl ⟨heq.symm, (Option.some.inj h).symm⟩
    · exact absurd h.symm (Option.some_ne_none call')
  next hne => exact .inr ⟨fun heq => hne heq.symm, h⟩

theorem setPhase_self {phase : CallPhase} (h : s.calls[n]? = some call) :
    (s.setPhase n call phase).calls[n]? = some { call with phase := phase } :=
  List.getElem?_set_self (List.getElem?_eq_some_iff.1 h).1

theorem setPhase_ne {phase : CallPhase} (hne : n ≠ m) :
    (s.setPhase n call phase).calls[m]? = s.calls[m]? :=
  List.getElem?_set_ne hne

theorem append_calls (h : (s.calls ++ [call])[m]? = some call') :
    s.calls[m]? = some call' ∨ call' = call := by
  rw [List.getElem?_append] at h
  split at h
  · exact .inl h
  · rw [List.getElem?_singleton, Option.ite_none_right_eq_some] at h
    exact .inr (Option.some.inj h.2).symm

theorem step_start {userMessage conversationId : String}
    (h : s.step cfg (.start userMessage conversationId) = some t) :
    ∃ call, call.phase.entry = none ∧ t = { s with calls := s.calls ++ [call] } := by
  simp only [ClientState.step, Option.ite_none_left_eq_some] at h
  refine ⟨_, ?_, (Option.some.inj h.2).symm⟩
  dsimp only
  split <;> rfl

theorem step_obtain {now : Int} {victim : Nat} (h : s.step cfg (.obtain n now victim) = some t) :
    ∃ call c e, s.calls[n]? = some call ∧ call.phase = .started ∧
      s.conversations.getConversation cfg call.conversationId now victim = some (c, e) ∧
      t = { s with conversations := c }.setPhase n call (.obtained e) := by
  obtain ⟨call, hn, h⟩ := Option.bind_eq_some_iff.1 h
  unfold ClientState.advance at h
  split at h
  next heq hphase =>
    obtain ⟨⟨c, e⟩, hget, rfl⟩ := Option.map_eq_some_iff.1 h
    obtain ⟨-, rfl, rfl⟩ := ClientLabel.obtain.inj heq
    exact ⟨call, c, e, hn, hphase, hget, rfl⟩
  all_goals simp_all

theorem step_add (h : s.step cfg (.add n) = some t) :
    ∃ call e, s.calls[n]? = some call ∧ call.phase = .obtained e ∧
      t = s.setPhase n call (.adding e) := by
  obtain ⟨call, hn, h⟩ := Option.bind_eq_some_iff.1 h
  unfold ClientState.advance at h
  split at h
  all_goals simp_all

theorem step_added (h : s.step cfg (.added n) = some t) :
    ∃ call e, s.calls[n]? = some call ∧ call.phase = .adding e ∧
      t = { s with
        conversations := s.conversations.addUserMessage e n call.userMessage }.setPhase n call
          (.sending e) := by
  obtain ⟨call, hn, h⟩ := Option.bind_eq_some_iff.1 h
  unfold ClientState.advance at h
  split at h
  all_goals simp_all

theorem step_respond {response : Option String} (h : s.step cfg (.respond n response) = some t) :
    ∃ call e, s.calls[n]? = some call ∧ call.phase = .sending e ∧
      t = s.setPhase n call (.finishing e response) := by
  obtain ⟨call, hn, h⟩ := Option.bind_eq_some_iff.1 h
  unfold ClientState.advance at h
  split at h
  all_goals simp_all

theorem step_finish (h : s.step cfg (.finish n) = some t) :
    ∃ call e response, s.calls[n]? = some call ∧ call.phase = .finishing e response ∧
      t = { s with
        conversations := s.conversations.finish cfg e n response
        removed := if response = none then
            s.removed ++ [(n, (s.conversations.entries e).messages.getLast?)]
          else s.removed }.setPhase n call .returned := by
  obtain ⟨call, hn, h⟩ := Option.bind_eq_some_iff.1 h
  unfold ClientState.advance at h
  split at h
  all_goals simp_all

/-! ## The map -/

section
variable {c c' : Conversations} {conversationId : String} {now : Int} {victim : Nat}

/-- The entry is either found, or a new one. -/
theorem getConversation_cases
    (h : c.getConversation cfg conversationId now victim = some (c', e)) :
    (c.find conversationId = some e ∧ c'.ids = c.ids ∧ c'.created = c.created) ∨
    (c.find conversationId = none ∧ e = c.created ∧ c'.created = c.created + 1 ∧
      c'.ids = c.ids.filter (fun x => !(x.2 = victim && c.Evicts cfg conversationId)) ++
        [(conversationId, e)]) := by
  unfold Conversations.getConversation at h
  split at h
  next e' hfind =>
    obtain ⟨rfl, rfl⟩ := Prod.mk.inj (Option.some.inj h)
    exact .inl ⟨hfind, rfl, rfl⟩
  next hfind =>
    refine .inr ⟨hfind, ?_⟩
    split at h
    next hfull =>
      have hevicts : c.Evicts cfg conversationId := ⟨hfind, hfull⟩
      split at h
      · obtain ⟨rfl, rfl⟩ := Prod.mk.inj (Option.some.inj h)
        exact ⟨rfl, rfl, by simp [Conversations.create, Conversations.eraseWhere, hevicts]⟩
      · exact absurd h.symm (Option.some_ne_none _)
    next hroom =>
      have hevicts : ¬ c.Evicts cfg conversationId := fun hevicts => hroom hevicts.2
      obtain ⟨rfl, rfl⟩ := Prod.mk.inj (Option.some.inj h)
      refine ⟨rfl, rfl, ?_⟩
      simp only [Conversations.create, hevicts, decide_false, Bool.and_false, Bool.not_false,
        List.filter_true]

theorem getConversation_messages
    (h : c.getConversation cfg conversationId now victim = some (c', e)) {k : Nat}
    (hk : k < c.created) : (c'.entries k).messages = (c.entries k).messages := by
  have hcreate : ∀ u : Conversations, u.created = c.created → u.entries = c.entries →
      ((u.create cfg conversationId now).entries k).messages = (c.entries k).messages := by
    intro u hcreated hentries
    have hne : k ≠ u.created := by omega
    simp [Conversations.create, Function.update_of_ne hne, hentries]
  unfold Conversations.getConversation at h
  split at h
  next e' hfind =>
    obtain ⟨rfl, -⟩ := Prod.mk.inj (Option.some.inj h)
    by_cases heq : k = e'
    · subst heq
      simp [Conversations.setEntry]
    · simp [Conversations.setEntry, Function.update_of_ne heq]
  next =>
    split at h
    · split at h
      · obtain ⟨rfl, -⟩ := Prod.mk.inj (Option.some.inj h)
        exact hcreate _ rfl rfl
      · exact absurd h.symm (Option.some_ne_none _)
    · obtain ⟨rfl, -⟩ := Prod.mk.inj (Option.some.inj h)
      exact hcreate _ rfl rfl

theorem mem_of_find (h : c.find conversationId = some e) : (conversationId, e) ∈ c.ids := by
  unfold Conversations.find at h
  obtain ⟨l₁, l₂, hids, -⟩ := List.lookup_eq_some_iff.1 h
  simp [hids]

end

/-- A step erases entries, and adds at most one. -/
theorem step_ids (h : s.step cfg l = some t) :
    (t.conversations.ids = s.conversations.ids.filter (fun x => !s.erases cfg l x) ∧
      t.conversations.created = s.conversations.created) ∨
    (∃ id, t.conversations.ids = s.conversations.ids.filter (fun x => !s.erases cfg l x) ++
        [(id, s.conversations.created)] ∧
      t.conversations.created = s.conversations.created + 1) := by
  cases l with
  | start userMessage conversationId =>
    obtain ⟨call, -, rfl⟩ := step_start h
    exact .inl ⟨(List.filter_true _).symm, rfl⟩
  | obtain n now victim =>
    obtain ⟨call, c, e, hn, -, hget, rfl⟩ := step_obtain h
    have herases : ∀ x, s.erases cfg (.obtain n now victim) x =
        (decide (x.2 = victim) && decide (s.conversations.Evicts cfg call.conversationId)) := by
      intro x
      simp [ClientState.erases, hn]
    simp only [herases]
    rcases getConversation_cases hget with ⟨hfind, hids, hcreated⟩ | ⟨-, rfl, hcreated, hids⟩
    · have hevicts : ¬ s.conversations.Evicts cfg call.conversationId := by
        simp [Conversations.Evicts, hfind]
      refine .inl ⟨?_, hcreated⟩
      simp only [hevicts, decide_false, Bool.and_false, Bool.not_false, List.filter_true]
      exact hids
    · exact .inr ⟨_, hids, hcreated⟩
  | add n =>
    obtain ⟨call, e, -, -, rfl⟩ := step_add h
    exact .inl ⟨(List.filter_true _).symm, rfl⟩
  | added n =>
    obtain ⟨call, e, -, -, rfl⟩ := step_added h
    exact .inl ⟨(List.filter_true _).symm, rfl⟩
  | respond n response =>
    obtain ⟨call, e, -, -, rfl⟩ := step_respond h
    exact .inl ⟨(List.filter_true _).symm, rfl⟩
  | finish n =>
    obtain ⟨call, e, response, -, -, rfl⟩ := step_finish h
    cases response <;> exact .inl ⟨(List.filter_true _).symm, rfl⟩
  | clear conversationId =>
    obtain rfl := Option.some.inj h
    exact .inl ⟨rfl, rfl⟩
  | clearAll =>
    obtain rfl := Option.some.inj h
    exact .inl ⟨rfl, rfl⟩
  | cleanup now maxAgeSeconds =>
    obtain rfl := Option.some.inj h
    exact .inl ⟨rfl, rfl⟩

/-- An entry that a step does not erase stays in the map. -/
theorem step_alive (h : s.step cfg l = some t) {x : String × Nat} (hx : x ∈ s.conversations.ids)
    (hkept : s.erases cfg l x = false) : t.Alive x.2 := by
  have hmem : x ∈ s.conversations.ids.filter fun x => !s.erases cfg l x :=
    List.mem_filter.2 ⟨hx, by simp [hkept]⟩
  refine List.mem_map_of_mem ?_
  rcases step_ids h with ⟨hids, -⟩ | ⟨id, hids, -⟩
  · exact hids ▸ hmem
  · exact hids ▸ List.mem_append_left _ hmem

/-- The entry of a call is the one that it had, or what it gets from the map. -/
theorem step_entry (h : s.step cfg l = some t) (hm : t.calls[m]? = some call')
    (he : call'.phase.entry = some e) :
    (∃ call, s.calls[m]? = some call ∧ call.phase.entry = some e) ∨
    ((s.finds l = some e ∨ e = s.conversations.created) ∧ t.Alive e ∧
      ∃ now victim, l = .obtain m now victim) := by
  cases l with
  | start userMessage conversationId =>
    obtain ⟨call, hphase, rfl⟩ := step_start h
    rcases append_calls hm with hm | rfl
    · exact .inl ⟨call', hm, he⟩
    · exact absurd (he.symm.trans hphase) (Option.some_ne_none e)
  | obtain n now victim =>
    obtain ⟨call, c, e', hn, -, hget, rfl⟩ := step_obtain h
    rcases setPhase_calls hm with ⟨rfl, rfl⟩ | ⟨-, hm⟩
    · obtain rfl := Option.some.inj he
      refine .inr ⟨?_, ?_, now, victim, rfl⟩
      · rcases getConversation_cases hget with ⟨hfind, -⟩ | ⟨-, rfl, -⟩
        · exact .inl (by simp [ClientState.finds, hn, hfind])
        · exact .inr rfl
      · rcases getConversation_cases hget with ⟨hfind, hids, -⟩ | ⟨-, -, -, hids⟩
        · exact List.mem_map.2 ⟨_, hids ▸ mem_of_find hfind, rfl⟩
        · exact List.mem_map.2 ⟨_, hids ▸ List.mem_append_right _ List.mem_cons_self, rfl⟩
    · exact .inl ⟨call', hm, he⟩
  | add n =>
    obtain ⟨call, e', hn, hphase, rfl⟩ := step_add h
    rcases setPhase_calls hm with ⟨rfl, rfl⟩ | ⟨-, hm⟩
    · exact .inl ⟨call, hn, hphase ▸ he⟩
    · exact .inl ⟨call', hm, he⟩
  | added n =>
    obtain ⟨call, e', hn, hphase, rfl⟩ := step_added h
    rcases setPhase_calls hm with ⟨rfl, rfl⟩ | ⟨-, hm⟩
    · exact .inl ⟨call, hn, hphase ▸ he⟩
    · exact .inl ⟨call', hm, he⟩
  | respond n response =>
    obtain ⟨call, e', hn, hphase, rfl⟩ := step_respond h
    rcases setPhase_calls hm with ⟨rfl, rfl⟩ | ⟨-, hm⟩
    · exact .inl ⟨call, hn, hphase ▸ he⟩
    · exact .inl ⟨call', hm, he⟩
  | finish n =>
    obtain ⟨call, e', response, hn, hphase, rfl⟩ := step_finish h
    rcases setPhase_calls hm with ⟨rfl, rfl⟩ | ⟨-, hm⟩
    · exact absurd he (Option.some_ne_none e).symm
    · exact .inl ⟨call', hm, he⟩
  | clear conversationId | clearAll | cleanup now maxAgeSeconds =>
    obtain rfl := Option.some.inj h
    exact .inl ⟨call', hm, he⟩

theorem setMessages_other {c : Conversations} {k : Nat}
    {messages : List (DeepSeekMessage × Option Nat)} (hne : k ≠ e) :
    ((c.setMessages e messages).entries k).messages = (c.entries k).messages := by
  simp [Conversations.setMessages, Conversations.setEntry, Function.update_of_ne hne]

/-- Messages are changed by calls that have their entry. -/
theorem step_messages (h : s.step cfg l = some t) (hcreated : e < s.conversations.created)
    (hother : ∀ n call, l = .added n ∨ l = .finish n → s.calls[n]? = some call →
      call.phase.entry ≠ some e) :
    (t.conversations.entries e).messages = (s.conversations.entries e).messages := by
  cases l with
  | start userMessage conversationId =>
    obtain ⟨call, -, rfl⟩ := step_start h
    rfl
  | obtain n now victim =>
    obtain ⟨call, c, e', hn, -, hget, rfl⟩ := step_obtain h
    exact getConversation_messages hget hcreated
  | add n =>
    obtain ⟨call, e', hn, hphase, rfl⟩ := step_add h
    rfl
  | added n =>
    obtain ⟨call, e', hn, hphase, rfl⟩ := step_added h
    refine setMessages_other fun heq => hother n call (.inl rfl) hn ?_
    rw [hphase, heq]
    rfl
  | respond n response =>
    obtain ⟨call, e', hn, hphase, rfl⟩ := step_respond h
    rfl
  | finish n =>
    obtain ⟨call, e', response, hn, hphase, rfl⟩ := step_finish h
    have hne : e ≠ e' := fun heq => hother n call (.inr rfl) hn (by rw [hphase, heq]; rfl)
    cases response <;> exact setMessages_other hne
  | clear conversationId | clearAll | cleanup now maxAgeSeconds =>
    obtain rfl := Option.some.inj h
    rfl

/-! ## Tidy states -/

theorem ClientState.Tidy.lt_created (hs : s.Tidy) (he : e ∈ s.held) :
    e < s.conversations.created := by
  obtain ⟨x, hx, rfl⟩ := List.mem_map.1 (hs.alive e he)
  exact hs.created x hx

theorem ClientState.Tidy.sound (hs : s.Tidy) : s.Sound where
  alive := hs.alive
  exclusive n m call call' e hn hm he he' :=
    hs.single n m call call' e hn hm (entry_of_modifies he) (entry_of_modifies he')
  own := hs.own

theorem tidy_init : Tidy .init where
  alive := by simp [ClientState.init, ClientState.held]
  single := by simp [ClientState.init]
  created := by simp [ClientState.init]
  distinct := List.nodup_nil
  last := by simp [ClientState.init]
  own := by simp [ClientState.init]

theorem step_created (hs : s.Tidy) (h : s.step cfg l = some t) :
    ∀ x ∈ t.conversations.ids, x.2 < t.conversations.created := by
  have hold : ∀ x ∈ s.conversations.ids.filter fun x => !s.erases cfg l x,
      x.2 < s.conversations.created := fun x hx => hs.created x (List.mem_of_mem_filter hx)
  rcases step_ids h with ⟨hids, hcreated⟩ | ⟨id, hids, hcreated⟩
  · rw [hids, hcreated]
    exact hold
  · rw [hids, hcreated]
    intro x hx
    rcases List.mem_append.1 hx with hx | hx
    · exact Nat.lt_succ_of_lt (hold x hx)
    · obtain rfl := List.mem_singleton.1 hx
      exact Nat.lt_succ_self _

theorem step_distinct (hs : s.Tidy) (h : s.step cfg l = some t) :
    (t.conversations.ids.map (·.2)).Nodup := by
  have hsub : ((s.conversations.ids.filter fun x => !s.erases cfg l x).map (·.2)).Sublist
      (s.conversations.ids.map (·.2)) := List.filter_sublist.map _
  rcases step_ids h with ⟨hids, -⟩ | ⟨id, hids, -⟩
  · rw [hids]
    exact hs.distinct.sublist hsub
  · rw [hids, List.map_append, List.nodup_append]
    refine ⟨hs.distinct.sublist hsub, List.nodup_singleton _, ?_⟩
    intro k hk k' hk' heq
    obtain ⟨x, hx, rfl⟩ := List.mem_map.1 (hsub.subset hk)
    obtain rfl := List.mem_singleton.1 hk'
    exact Nat.ne_of_lt (hs.created x hx) heq

/-- A call that waits has its message at the end of its entry. -/
theorem step_last (hs : s.Tidy) (h : s.step cfg l = some t) (hm : t.calls[m]? = some call')
    (he : call'.phase.asks = some e) :
    (t.conversations.entries e).messages.getLast? = some (⟨"user", call'.userMessage⟩, some m) := by
  -- nobody else has the entry
  have hkept : s.calls[m]? = some call' → (∀ call, l = .added m ∨ l = .finish m →
      s.calls[m]? = some call → call.phase.entry ≠ some e) →
      (t.conversations.entries e).messages.getLast? =
        some (⟨"user", call'.userMessage⟩, some m) := by
    intro hcall hself
    have hentry : call'.phase.entry = some e := entry_of_asks he
    rw [step_messages h (hs.lt_created (mem_held.2 ⟨m, call', hcall, hentry⟩)) ?_]
    · exact hs.last m call' e hcall he
    · intro n call hl hn hcallentry
      obtain rfl := hs.single n m call call' e hn hcall hcallentry hentry
      exact hself call hl hn hcallentry
  cases l with
  | start userMessage conversationId =>
    obtain ⟨call, hphase, rfl⟩ := step_start h
    rcases append_calls hm with hm | rfl
    · exact hkept hm fun _ hl => by simp at hl
    · exact absurd ((entry_of_asks he).symm.trans hphase) (Option.some_ne_none e)
  | obtain n now victim =>
    obtain ⟨call, c, e', hn, -, hget, rfl⟩ := step_obtain h
    rcases setPhase_calls hm with ⟨rfl, rfl⟩ | ⟨-, hm⟩
    · exact absurd he (Option.some_ne_none e).symm
    · exact hkept hm fun _ hl => by simp at hl
  | add n =>
    obtain ⟨call, e', hn, hphase, rfl⟩ := step_add h
    rcases setPhase_calls hm with ⟨rfl, rfl⟩ | ⟨-, hm⟩
    · exact absurd he (Option.some_ne_none e).symm
    · exact hkept hm fun _ hl => by simp at hl
  | added n =>
    obtain ⟨call, e', hn, hphase, rfl⟩ := step_added h
    rcases setPhase_calls hm with ⟨rfl, rfl⟩ | ⟨hne, hm⟩
    · obtain rfl := Option.some.inj he
      simp [ClientState.setPhase, Conversations.addUserMessage, Conversations.setMessages,
        Conversations.setEntry]
    · exact hkept hm fun _ hl => by simp [Ne.symm hne] at hl
  | respond n response =>
    obtain ⟨call, e', hn, hphase, rfl⟩ := step_respond h
    rcases setPhase_calls hm with ⟨rfl, rfl⟩ | ⟨-, hm⟩
    · refine hs.last m call e hn ?_
      rw [hphase]
      exact he
    · exact hkept hm fun _ hl => by simp at hl
  | finish n =>
    obtain ⟨call, e', response, hn, hphase, rfl⟩ := step_finish h
    rcases setPhase_calls hm with ⟨rfl, rfl⟩ | ⟨hne, hm⟩
    · exact absurd he (Option.some_ne_none e).symm
    · exact hkept hm fun _ hl => by simp [Ne.symm hne] at hl
  | clear conversationId | clearAll | cleanup now maxAgeSeconds =>
    obtain rfl := Option.some.inj h
    exact hkept hm fun _ hl => by simp at hl

/-- A call keeps its place and its message. -/
theorem step_userMessage (h : s.step cfg l = some t) (hn : s.calls[n]? = some call) :
    ∃ call', t.calls[n]? = some call' ∧ call'.userMessage = call.userMessage := by
  have hset : ∀ {k : Nat} {c : ChatCall} {conversations : Conversations} {removed} {phase},
      s.calls[k]? = some c → ∃ call',
        ((⟨conversations, s.calls, removed⟩ : ClientState).setPhase k c phase).calls[n]? =
          some call' ∧ call'.userMessage = call.userMessage := by
    intro k c conversations removed phase hk
    by_cases heq : k = n
    · subst heq
      obtain rfl := Option.some.inj (hn.symm.trans hk)
      exact ⟨_, setPhase_self hk, rfl⟩
    · exact ⟨call, (setPhase_ne heq).trans hn, rfl⟩
  cases l with
  | start userMessage conversationId =>
    obtain ⟨call', -, rfl⟩ := step_start h
    obtain ⟨hlt, -⟩ := List.getElem?_eq_some_iff.1 hn
    exact ⟨call, (List.getElem?_append_left hlt).trans hn, rfl⟩
  | obtain k now victim =>
    obtain ⟨call', c, e', hk, -, hget, rfl⟩ := step_obtain h
    exact hset hk
  | add k =>
    obtain ⟨call', e', hk, hphase, rfl⟩ := step_add h
    exact hset hk
  | added k =>
    obtain ⟨call', e', hk, hphase, rfl⟩ := step_added h
    exact hset hk
  | respond k response =>
    obtain ⟨call', e', hk, hphase, rfl⟩ := step_respond h
    exact hset hk
  | finish k =>
    obtain ⟨call', e', response, hk, hphase, rfl⟩ := step_finish h
    exact hset hk
  | clear conversationId | clearAll | cleanup now maxAgeSeconds =>
    obtain rfl := Option.some.inj h
    exact ⟨call, hn, rfl⟩

theorem step_removed (hs : s.Tidy) (h : s.step cfg l = some t) :
    ∀ x ∈ t.removed, x ∈ s.removed ∨ ∃ call, s.calls[x.1]? = some call ∧
      x.2 = some (⟨"user", call.userMessage⟩, some x.1) := by
  intro x hx
  cases l with
  | start userMessage conversationId =>
    obtain ⟨call, -, rfl⟩ := step_start h
    exact .inl hx
  | obtain n now victim =>
    obtain ⟨call, c, e, hn, -, hget, rfl⟩ := step_obtain h
    exact .inl hx
  | add n =>
    obtain ⟨call, e, hn, hphase, rfl⟩ := step_add h
    exact .inl hx
  | added n =>
    obtain ⟨call, e, hn, hphase, rfl⟩ := step_added h
    exact .inl hx
  | respond n response =>
    obtain ⟨call, e, hn, hphase, rfl⟩ := step_respond h
    exact .inl hx
  | finish n =>
    obtain ⟨call, e, response, hn, hphase, rfl⟩ := step_finish h
    dsimp only [ClientState.setPhase] at hx
    split at hx
    · rcases List.mem_append.1 hx with hx | hx
      · exact .inl hx
      · obtain rfl := List.mem_singleton.1 hx
        exact .inr ⟨call, hn, hs.last n call e hn (by rw [hphase]; rfl)⟩
    · exact .inl hx
  | clear conversationId | clearAll | cleanup now maxAgeSeconds =>
    obtain rfl := Option.some.inj h
    exact .inl hx

theorem step_tidy (hs : s.Tidy) (hok : s.Unshared cfg l) (h : s.step cfg l = some t) : t.Tidy where
  alive e he := by
    obtain ⟨n, call, hn, hentry⟩ := mem_held.1 he
    rcases step_entry h hn hentry with ⟨call, hn, hentry⟩ | ⟨-, halive, -⟩
    · have hheld : e ∈ s.held := mem_held.2 ⟨n, call, hn, hentry⟩
      obtain ⟨x, hx, rfl⟩ := List.mem_map.1 (hs.alive e hheld)
      exact step_alive h hx (Bool.eq_false_iff.2 fun herases => hok.1 x hx herases hheld)
    · exact halive
  single n m call call' e hn hm he he' := by
    -- an entry that a call gets now is none of those the calls had
    have hnew : ∀ {k : Nat} {call : ChatCall}, s.calls[k]? = some call →
        call.phase.entry = some e → ¬ (s.finds l = some e ∨ e = s.conversations.created) := by
      intro k call hk hentry
      have hheld : e ∈ s.held := mem_held.2 ⟨k, call, hk, hentry⟩
      rintro (hfinds | rfl)
      · exact hok.2 e hfinds hheld
      · exact Nat.lt_irrefl _ (hs.lt_created hheld)
    rcases step_entry h hn he with ⟨c, hc, hentry⟩ | ⟨hgot, -, now, victim, rfl⟩
    · rcases step_entry h hm he' with ⟨c', hc', hentry'⟩ | ⟨hgot, -⟩
      · exact hs.single n m c c' e hc hc' hentry hentry'
      · exact absurd hgot (hnew hc hentry)
    · rcases step_entry h hm he' with ⟨c', hc', hentry'⟩ | ⟨-, -, now', victim', heq⟩
      · exact absurd hgot (hnew hc' hentry')
      · exact (ClientLabel.obtain.inj heq).1
  created := step_created hs h
  distinct := step_distinct hs h
  last _ _ _ hm he := step_last hs h hm he
  own x hx := by
    have hown : ∃ call, s.calls[x.1]? = some call ∧
        x.2 = some (⟨"user", call.userMessage⟩, some x.1) :=
      (step_removed hs h x hx).elim (hs.own x) id
    obtain ⟨call, hcall, hx⟩ := hown
    obtain ⟨call', hcall', hsame⟩ := step_userMessage h hcall
    exact ⟨call', hcall', hsame ▸ hx⟩

/-! ## Steps that break the condition -/

/-- What a step erases is not in the map after it. -/
theorem not_alive_of_erases (hs : s.Tidy) (h : s.step cfg l = some t) {x : String × Nat}
    (hx : x ∈ s.conversations.ids) (herases : s.erases cfg l x) : ¬ t.Alive x.2 := by
  intro halive
  obtain ⟨y, hy, heq⟩ := List.mem_map.1 halive
  have hold : y ∉ s.conversations.ids.filter fun x => !s.erases cfg l x := by
    intro hy
    obtain ⟨hy, hkept⟩ := List.mem_filter.1 hy
    obtain rfl := List.inj_on_of_nodup_map hs.distinct hy hx heq
    simp [herases] at hkept
  rcases step_ids h with ⟨hids, -⟩ | ⟨id, hids, -⟩
  · exact hold (hids ▸ hy)
  · rcases List.mem_append.1 (hids ▸ hy) with hy | hy
    · exact hold hy
    · obtain rfl := List.mem_singleton.1 hy
      exact Nat.ne_of_lt (hs.created x hx) heq.symm

theorem held_of_erases (h : s.step cfg l = some t) {x : String × Nat} (herases : s.erases cfg l x)
    (he : e ∈ s.held) : e ∈ t.held := by
  obtain ⟨m, call', hm, hentry⟩ := mem_held.1 he
  cases l with
  | obtain n now victim =>
    obtain ⟨call, c, e', hn, hphase, hget, rfl⟩ := step_obtain h
    have hne : n ≠ m := by
      rintro rfl
      obtain rfl := Option.some.inj (hn.symm.trans hm)
      rw [hphase] at hentry
      exact absurd hentry (Option.some_ne_none e).symm
    exact mem_held.2 ⟨m, call', (setPhase_ne hne).trans hm, hentry⟩
  | clear conversationId | clearAll | cleanup now maxAgeSeconds =>
    obtain rfl := Option.some.inj h
    exact he
  | start userMessage conversationId => exact absurd herases Bool.false_ne_true
  | add n | added n | finish n => exact absurd herases Bool.false_ne_true
  | respond n response => exact absurd herases Bool.false_ne_true

theorem step_of_obtained (hn : s.calls[n]? = some call) (hphase : call.phase = .obtained e)
    (halive : s.Alive e) : s.step cfg (.add n) = some (s.setPhase n call (.adding e)) := by
  simp [ClientState.step, ClientState.advance, hn, hphase, halive]

theorem step_of_sending (hn : s.calls[n]? = some call) (hphase : call.phase = .sending e)
    {response : Option String} :
    s.step cfg (.respond n response) = some (s.setPhase n call (.finishing e response)) := by
  simp [ClientState.step, ClientState.advance, hn, hphase]

theorem unsound_of_both (hne : n ≠ m) (hn : s.calls[n]? = some call)
    (hm : s.calls[m]? = some call') (he : call.phase.modifies = some e)
    (he' : call'.phase.modifies = some e) : ¬ s.Sound :=
  fun hs => hne (hs.exclusive n m call call' e hn hm he he')

/-- A call that has an entry can come to change it. -/
theorem run_modifies (hm : s.calls[m]? = some call') (he : call'.phase.entry = some e)
    (halive : s.Alive e) :
    ∃ ls phase, Run (step cfg) anyStep s ls (s.setPhase m call' phase) ∧
      phase.modifies = some e := by
  have hself : s = s.setPhase m call' call'.phase := by
    obtain ⟨hlt, rfl⟩ := List.getElem?_eq_some_iff.1 hm
    unfold ClientState.setPhase
    rw [List.set_getElem_self hlt]
  cases hphase : call'.phase with
  | started => rw [hphase] at he; exact absurd he (Option.some_ne_none e).symm
  | returned => rw [hphase] at he; exact absurd he (Option.some_ne_none e).symm
  | obtained e' =>
    rw [hphase] at he
    obtain rfl := Option.some.inj he
    exact ⟨[.add m], .adding e', .snoc .nil trivial (step_of_obtained hm hphase halive), rfl⟩
  | sending e' =>
    rw [hphase] at he
    obtain rfl := Option.some.inj he
    exact ⟨[.respond m none], .finishing e' none,
      .snoc .nil trivial (step_of_sending hm hphase), rfl⟩
  | adding e' =>
    rw [hphase] at hself he
    exact ⟨[], .adding e', hself ▸ .nil, he⟩
  | finishing e' response =>
    rw [hphase] at hself he
    exact ⟨[], .finishing e' response, hself ▸ .nil, he⟩

/-- Two calls with one entry: the new one adds its message, and the other one goes on. -/
theorem unsound_of_obtained (hne : n ≠ m) (hn : s.calls[n]? = some call)
    (hphase : call.phase = .obtained e) (hm : s.calls[m]? = some call')
    (hentry : call'.phase.entry = some e) (halive : s.Alive e) :
    ∃ ls u, Run (step cfg) anyStep s ls u ∧ ¬ u.Sound := by
  have hm' : (s.setPhase n call (.adding e)).calls[m]? = some call' := (setPhase_ne hne).trans hm
  obtain ⟨ls, phase, hrun, hmodifies⟩ := run_modifies hm' hentry halive
  have hn' : ((s.setPhase n call (.adding e)).setPhase m call' phase).calls[n]? =
      some { call with phase := .adding e } := (setPhase_ne hne.symm).trans (setPhase_self hn)
  exact ⟨_, _, .cons trivial (step_of_obtained hn hphase halive) hrun,
    unsound_of_both hne hn' (setPhase_self hm') rfl hmodifies⟩

/-- After any other step a state is near in which calls collide. -/
theorem unsound_of_shared (hs : s.Tidy) (h : s.step cfg l = some t) (hok : ¬ s.Unshared cfg l) :
    ∃ ls u, Run (step cfg) anyStep t ls u ∧ ¬ u.Sound := by
  by_cases hkept : ∀ x ∈ s.conversations.ids, s.erases cfg l x → x.2 ∉ s.held
  · have hfound : ∃ e ∈ s.finds l, e ∈ s.held := by
      by_contra hnone
      exact hok ⟨hkept, fun e he hheld => hnone ⟨e, he, hheld⟩⟩
    obtain ⟨e, hfinds, hheld⟩ := hfound
    cases l with
    | obtain n now victim =>
      obtain ⟨call, c, e', hn, hphase, hget, rfl⟩ := step_obtain h
      have hfind : s.conversations.find call.conversationId = some e := by
        simpa [ClientState.finds, hn] using hfinds
      obtain ⟨heq, hids, -⟩ : s.conversations.find call.conversationId = some e' ∧
          c.ids = s.conversations.ids ∧ c.created = s.conversations.created := by
        rcases getConversation_cases hget with hfound | ⟨hnone, -⟩
        · exact hfound
        · exact absurd (hnone.symm.trans hfind) (Option.some_ne_none e).symm
      obtain rfl := Option.some.inj (hfind.symm.trans heq)
      obtain ⟨m, call', hm, hentry⟩ := mem_held.1 hheld
      have hne : n ≠ m := by
        rintro rfl
        obtain rfl := Option.some.inj (hn.symm.trans hm)
        rw [hphase] at hentry
        exact absurd hentry (Option.some_ne_none e).symm
      have halive : e ∈ c.ids.map (·.2) := hids ▸ hs.alive e hheld
      exact unsound_of_obtained hne (setPhase_self hn) rfl ((setPhase_ne hne).trans hm) hentry
        halive
    | start userMessage conversationId => exact absurd hfinds (Option.not_mem_none e)
    | add k | added k | finish k | clear k => exact absurd hfinds (Option.not_mem_none e)
    | respond k response => exact absurd hfinds (Option.not_mem_none e)
    | clearAll => exact absurd hfinds (Option.not_mem_none e)
    | cleanup now maxAgeSeconds => exact absurd hfinds (Option.not_mem_none e)
  · simp only [Classical.not_forall, Classical.not_not] at hkept
    obtain ⟨x, hx, herases, hheld⟩ := hkept
    refine ⟨[], t, .nil, fun hsound => ?_⟩
    exact not_alive_of_erases hs h hx herases
      (hsound.alive x.2 (held_of_erases h herases hheld))

/-! ## Runs -/

theorem run_tidy (h : Run (step cfg) (Unshared cfg) .init ls s) : s.Tidy :=
  h.invariant tidy_init fun _ _ _ => step_tidy

/-- In every run whose steps leave the entries of the running calls to them, calls have entries of
    the map only, nobody else changes these, and a failed call removes its own message. After the
    first step that does not, an unsound state can be reached. -/
theorem calls_sound (h : Run (step cfg) (Unshared cfg) .init ls s) :
    s.Sound ∧ ∀ l t, s.step cfg l = some t → ¬ s.Unshared cfg l →
      ∃ ls u, Run (step cfg) anyStep t ls u ∧ ¬ u.Sound :=
  ⟨(run_tidy h).sound, fun _ _ => unsound_of_shared (run_tidy h)⟩

/-- Two users at once, and the request of the first one fails. -/
theorem calls_sound_two_users : ∃ s : ClientState, s.removed.map (·.1) = [0] ∧ s.Sound := by
  have hrun : Run (step defaultConfig.client) (Unshared defaultConfig.client) .init
      [.start "hello" "user_1_default", .start "hi" "user_2_default", .obtain 0 0 0, .add 0,
        .obtain 1 0 0, .added 0, .add 1, .added 1, .respond 0 none, .finish 0,
        .respond 1 (some "hi"), .finish 1] _ := run_iff_exec.2 rfl
  exact ⟨_, rfl, (calls_sound hrun).1⟩

/-- The bot clears the conversation for the second message of a user, and the first one is still
    being answered. -/
theorem second_message_erases :
    ¬ ∀ (ls : List ClientLabel) (s : ClientState),
      Run (step defaultConfig.client) anyStep .init ls s → s.Sound := by
  intro h
  have hrun : Run (step defaultConfig.client) anyStep .init
      [.start "hello" "user_1_default", .obtain 0 0 0, .add 0, .added 0,
        .clear "user_1_default"] _ := exec_run rfl
  have halive := (h _ _ hrun).alive 0 (by decide)
  exact absurd halive (by decide)

end ChatApp.Bot
