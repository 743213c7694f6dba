/-
  The conversations as a table of bounded size: whatever is called, it has at most
  `max_conversations_` entries, and a new one takes the place of one that was not used for the
  longest time.
-/
import ChatApp.Bot.DeepSeekClient
import ChatApp.Lib.Lists
import ChatApp.Lib.Run
import Mathlib.Data.List.MinMax

namespace ChatApp.Bot

open ChatApp.Lib

/-- A call that changes the table, at a time of the steady clock. -/
inductive TableCall
  | getConversation (id : String) (now : Int) (victim : Nat)
  | clearConversation (id : String)
  | clearAllConversations
  | cleanupExpiredConversations (now maxAgeSeconds : Int)

namespace Conversations

def empty : Conversations := ⟨[], fun _ => ⟨[], 0⟩, 0⟩

def call (cfg : DeepSeekConfig) (c : Conversations) : TableCall → Option Conversations
  | .getConversation id now victim => (c.getConversation cfg id now victim).map (·.1)
  | .clearConversation id => some (c.clearConversation id)
  | .clearAllConversations => some c.clearAllConversations
  | .cleanupExpiredConversations now maxAgeSeconds =>
    some (c.cleanupExpiredConversations now maxAgeSeconds)

/-- The conversation with the id. -/
def entry (c : Conversations) (id : String) : Option ConversationEntry := (c.find id).map c.entries

/-- What `get_conversation` returns and leaves. -/
structure Touched (cfg : DeepSeekConfig) (c c' : Conversations) (id : String) (now : Int)
    (e : Nat) : Prop where
  present : c'.find id = some e ∧ (c'.entries e).lastAccess = now
  messages : (c'.entries e).messages = (c.entry id).elim
    ((systemMessages cfg).map fun m => (m, none)) (·.messages)
  /-- at most one other conversation changes, and it is gone -/
  others : ∃ gone : Option String,
    (∀ id', id' ≠ id → gone ≠ some id' → c'.entry id' = c.entry id') ∧
    ∀ id', gone = some id' → id' ≠ id ∧ c.entry id = none ∧ c.ids.length = cfg.maxConversations ∧
      c'.entry id' = none ∧ ∃ old, c.entry id' = some old ∧
        ∀ id'' other, c.entry id'' = some other → old.lastAccess ≤ other.lastAccess

structure WellFormed (cfg : DeepSeekConfig) (c : Conversations) : Prop where
  names : (c.ids.map Prod.fst).Nodup
  numbers : (c.ids.map Prod.snd).Nodup
  created : ∀ x ∈ c.ids, x.2 < c.created
  bounded : c.ids.length ≤ cfg.maxConversations

end Conversations

open Conversations

variable {cfg : DeepSeekConfig} {c c' : Conversations} {id id' : String} {now : Int}
variable {victim e k : Nat} {calls : List TableCall} {p : String × Nat → Bool}

/-! ## Entries -/

theorem wellFormed_empty : WellFormed cfg Conversations.empty :=
  ⟨List.nodup_nil, List.nodup_nil, fun _ hx => absurd hx List.not_mem_nil, Nat.zero_le _⟩

namespace Conversations.WellFormed

theorem find_iff (h : WellFormed cfg c) : c.find id = some e ↔ (id, e) ∈ c.ids :=
  lookup_iff_mem h.names

theorem eraseWhere (h : WellFormed cfg c) : WellFormed cfg (c.eraseWhere p) where
  names := h.names.sublist (List.filter_sublist.map _)
  numbers := h.numbers.sublist (List.filter_sublist.map _)
  created x hx := h.created x (List.mem_of_mem_filter hx)
  bounded := Nat.le_trans (List.length_filter_le ..) h.bounded

theorem setEntry (h : WellFormed cfg c) {entry : ConversationEntry} :
    WellFormed cfg (c.setEntry e entry) := ⟨h.names, h.numbers, h.created, h.bounded⟩

theorem create (h : WellFormed cfg c) (hfind : c.find id = none)
    (hroom : c.ids.length < cfg.maxConversations) : WellFormed cfg (c.create cfg id now) := by
  have hid : id ∉ c.ids.map Prod.fst := lookup_eq_none_iff_not_mem.1 hfind
  have hnumber : c.created ∉ c.ids.map Prod.snd := by
    intro hmem
    obtain ⟨x, hx, heq⟩ := List.mem_map.1 hmem
    exact absurd (h.created x hx) (by omega)
  refine ⟨nodup_map_snoc.2 ⟨h.names, hid⟩, nodup_map_snoc.2 ⟨h.numbers, hnumber⟩, ?_, ?_⟩
  · intro x hx
    show x.2 < c.created + 1
    rcases List.mem_append.1 hx with hx | hx
    · exact Nat.lt_succ_of_lt (h.created x hx)
    · rw [List.mem_singleton.1 hx]
      exact Nat.lt_succ_self _
  · show (c.ids ++ [_]).length ≤ _
    rw [List.length_append, List.length_singleton]
    omega

/-- Two conversations have two entries. -/
theorem number_inj (h : WellFormed cfg c) (hid : c.find id = some e) (hid' : c.find id' = some e) :
    id = id' := by
  have heq := List.inj_on_of_nodup_map h.numbers (h.find_iff.1 hid) (h.find_iff.1 hid') rfl
  exact congrArg Prod.fst heq

end Conversations.WellFormed

/-! ## One call -/

theorem entry_congr (hfind : c'.find id = c.find id)
    (hentries : ∀ e, c.find id = some e → c'.entries e = c.entries e) :
    c'.entry id = c.entry id := by
  unfold Conversations.entry
  rw [hfind]
  exact Option.map_congr hentries

theorem entry_eq_none : c.entry id = none ↔ c.find id = none := Option.map_eq_none_iff

theorem find_create : (c.create cfg id now).find id' =
    (c.find id').or (if id' = id then some c.created else none) := by
  show List.lookup id' (c.ids ++ [(id, c.created)]) = _
  rw [List.lookup_append, List.lookup_cons, List.lookup_nil]
  by_cases heq : id' = id
  · rw [beq_iff_eq.2 heq, if_pos heq]
    rfl
  · rw [beq_eq_false_iff_ne.2 heq, if_neg heq]
    rfl

/-- A new entry, in a table that may have lost one. -/
theorem entry_create (h : WellFormed cfg c) (hne : id' ≠ id) :
    (c.create cfg id now).entry id' = c.entry id' := by
  refine entry_congr ?_ fun e he => ?_
  · rw [find_create, if_neg hne, Option.or_none]
  · have hlt := h.created _ (h.find_iff.1 he)
    exact Function.update_of_ne (Nat.ne_of_lt hlt) ..

variable (cfg now) in
theorem create_touched (hfind : c.find id = none) :
    ((c.create cfg id now).find id = some c.created ∧
      ((c.create cfg id now).entries c.created).lastAccess = now) ∧
    ((c.create cfg id now).entries c.created).messages =
      (systemMessages cfg).map fun m => (m, none) := by
  have hentry : (c.create cfg id now).entries c.created =
      ⟨(systemMessages cfg).map fun m => (m, none), now⟩ := Function.update_self ..
  rw [hentry, find_create, hfind, if_pos rfl]
  exact ⟨⟨rfl, rfl⟩, rfl⟩

theorem find_eraseWhere (h : WellFormed cfg c) (hp : ∀ x ∈ c.ids, x.1 = id → p x = false) :
    (c.eraseWhere p).find id = c.find id := by
  refine Option.ext fun e => ?_
  rw [h.eraseWhere.find_iff, h.find_iff]
  refine List.mem_filter.trans (and_iff_left_of_imp fun hmem => ?_)
  rw [hp _ hmem rfl]
  rfl

theorem touched_found (h : WellFormed cfg c) (hfind : c.find id = some e) :
    Touched cfg c (c.setEntry e { c.entries e with lastAccess := now }) id now e := by
  have hentry : c.entry id = some (c.entries e) := by
    unfold Conversations.entry
    rw [hfind]
    rfl
  refine ⟨⟨hfind, ?_⟩, ?_, none, fun id' hne _ => entry_congr rfl fun e' he' => ?_, ?_⟩
  · simp [Conversations.setEntry]
  · simp [Conversations.setEntry, hentry]
  · exact Function.update_of_ne (fun heq => hne (h.number_inj (heq ▸ he') hfind)) ..
  · exact fun id' hgone => absurd hgone.symm (Option.some_ne_none id')

theorem touched_created (h : WellFormed cfg c) (hfind : c.find id = none) :
    Touched cfg c (c.create cfg id now) id now c.created := by
  obtain ⟨hpresent, hmessages⟩ := create_touched cfg now hfind
  refine ⟨hpresent, ?_, none, fun id' hne _ => entry_create h hne, ?_⟩
  · rw [hmessages, entry_eq_none.2 hfind]
    rfl
  · exact fun id' hgone => absurd hgone.symm (Option.some_ne_none id')

theorem touched_evicted (h : WellFormed cfg c) (hfind : c.find id = none)
    (hfull : cfg.maxConversations ≤ c.ids.length) (holdest : c.Oldest victim) :
    Touched cfg c ((c.eraseWhere (·.2 = victim)).create cfg id now) id now c.created := by
  obtain ⟨⟨old, number⟩, hold, rfl⟩ := List.mem_map.1 holdest.1
  have hne : old ≠ id := fun heq =>
    lookup_eq_none_iff_not_mem.1 hfind (List.mem_map.2 ⟨_, hold, heq⟩)
  have hrest := h.eraseWhere (p := (·.2 = number))
  have hkept : ∀ id', id' ≠ old →
      (c.eraseWhere (·.2 = number)).find id' = c.find id' := by
    refine fun id' hother => find_eraseWhere h fun x hx hid => decide_eq_false fun hnumber => ?_
    have heq := List.inj_on_of_nodup_map h.numbers hx hold hnumber
    exact hother (hid.symm.trans (congrArg Prod.fst heq))
  have hgone : (c.eraseWhere (·.2 = number)).find old = none := by
    refine Option.eq_none_iff_forall_ne_some.2 fun e he => ?_
    obtain ⟨hmem, hleft⟩ := List.mem_filter.1 (hrest.find_iff.1 he)
    have heq := List.inj_on_of_nodup_map h.names hmem hold rfl
    exact absurd (congrArg Prod.snd heq) (by simpa using hleft)
  have hfind' := (hkept id hne.symm).trans hfind
  obtain ⟨hpresent, hmessages⟩ := create_touched cfg now hfind'
  refine ⟨hpresent, ?_, some old, fun id' hid' hother => ?_, ?_⟩
  · rw [entry_eq_none.2 hfind]
    exact hmessages
  · rw [entry_create hrest hid']
    exact entry_congr (hkept id' fun heq => hother (heq ▸ rfl)) fun _ _ => rfl
  · intro id' heq
    obtain rfl := Option.some.inj heq
    refine ⟨hne, entry_eq_none.2 hfind, Nat.le_antisymm h.bounded hfull, ?_, c.entries number,
      ?_, fun id'' other hother => ?_⟩
    · rw [entry_create hrest hne]
      exact entry_eq_none.2 hgone
    · unfold Conversations.entry
      rw [h.find_iff.2 hold]
      rfl
    · obtain ⟨e, he, rfl⟩ := Option.map_eq_some_iff.1 hother
      exact holdest.2 _ (h.find_iff.1 he)

theorem getConversation_touched (h : WellFormed cfg c)
    (hget : c.getConversation cfg id now victim = some (c', e)) :
    Touched cfg c c' id now e := by
  unfold getConversation at hget
  split at hget
  next e' hfind =>
    obtain ⟨rfl, rfl⟩ := Prod.mk.inj (Option.some.inj hget)
    exact touched_found h hfind
  next hfind =>
    split at hget
    next hfull =>
      split at hget
      next holdest =>
        obtain ⟨rfl, rfl⟩ := Prod.mk.inj (Option.some.inj hget)
        exact touched_evicted h hfind hfull holdest
      next => exact absurd hget.symm (Option.some_ne_none _)
    next =>
      obtain ⟨rfl, rfl⟩ := Prod.mk.inj (Option.some.inj hget)
      exact touched_created h hfind

/-! ## All calls -/

/-- An eviction makes room for the new entry. -/
theorem length_eraseWhere_lt (hmem : ∃ x ∈ c.ids, p x = true) :
    (c.eraseWhere p).ids.length < c.ids.length := by
  obtain ⟨x, hx, hp⟩ := hmem
  exact List.length_filter_lt_length_iff_exists.2 ⟨x, hx, by simp [hp]⟩

theorem getConversation_wellFormed (h : WellFormed cfg c)
    (hget : c.getConversation cfg id now victim = some (c', e)) : WellFormed cfg c' := by
  unfold getConversation at hget
  split at hget
  next e' hfind =>
    obtain ⟨rfl, rfl⟩ := Prod.mk.inj (Option.some.inj hget)
    exact h.setEntry
  next hfind =>
    split at hget
    next hfull =>
      split at hget
      next holdest =>
        obtain ⟨rfl, rfl⟩ := Prod.mk.inj (Option.some.inj hget)
        obtain ⟨x, hx, hvictim⟩ := List.mem_map.1 holdest.1
        have hlt := length_eraseWhere_lt (c := c) (p := (·.2 = victim))
          ⟨x, hx, decide_eq_true hvictim⟩
        have hnone : (c.eraseWhere (·.2 = victim)).find id = none := by
          refine lookup_eq_none_iff_not_mem.2 fun hmem => ?_
          exact lookup_eq_none_iff_not_mem.1 hfind ((List.filter_sublist.map _).subset hmem)
        exact h.eraseWhere.create hnone (Nat.lt_of_lt_of_le hlt h.bounded)
      next => exact absurd hget.symm (Option.some_ne_none _)
    next hroom =>
      obtain ⟨rfl, rfl⟩ := Prod.mk.inj (Option.some.inj hget)
      exact h.create hfind (by omega)

/-- In a table that is not empty there is an entry to erase. -/
theorem exists_oldest (h : c.ids ≠ []) : ∃ victim, c.Oldest victim := by
  obtain ⟨x, hx⟩ := Option.ne_none_iff_exists'.1 (mt List.argmin_eq_none.1 h :
    c.ids.argmin (fun x => (c.entries x.2).lastAccess) ≠ none)
  refine ⟨x.2, List.mem_map_of_mem (List.argmin_mem hx), fun y hy => ?_⟩
  exact List.le_of_mem_argmin (f := fun x : String × Nat => (c.entries x.2).lastAccess) hy hx

theorem exists_getConversation (hmax : 0 < cfg.maxConversations) (id : String) (now : Int) :
    ∃ victim c' e, c.getConversation cfg id now victim = some (c', e) := by
  unfold getConversation
  cases hfind : c.find id with
  | some e => exact ⟨0, _, _, rfl⟩
  | none =>
    by_cases hfull : cfg.maxConversations ≤ c.ids.length
    · have hne : c.ids ≠ [] := List.ne_nil_of_length_pos (by omega)
      obtain ⟨victim, holdest⟩ := exists_oldest hne
      exact ⟨victim, _, _, (if_pos hfull).trans (if_pos holdest)⟩
    · exact ⟨0, _, _, if_neg hfull⟩

theorem run_wellFormed (h : Run (call cfg) anyStep Conversations.empty calls c) :
    WellFormed cfg c := by
  refine h.invariant wellFormed_empty fun c l c' hc _ hstep => ?_
  cases l with
  | getConversation id now victim =>
    obtain ⟨⟨c'', e⟩, hget, rfl⟩ := Option.map_eq_some_iff.1 hstep
    exact getConversation_wellFormed hc hget
  | clearConversation id => exact Option.some.inj hstep ▸ hc.eraseWhere
  | clearAllConversations => exact Option.some.inj hstep ▸ hc.eraseWhere
  | cleanupExpiredConversations now maxAgeSeconds => exact Option.some.inj hstep ▸ hc.eraseWhere

/-- After any calls the table is not larger than it may be, and `get_conversation` returns, evicts at
    most one conversation, which was used least recently, and leaves the others. The clock may
    even run backwards. -/
theorem conversations_bounded (hmax : 0 < cfg.maxConversations)
    (h : Run (call cfg) anyStep Conversations.empty calls c) :
    (c.ids.map Prod.fst).Nodup ∧ c.ids.length ≤ cfg.maxConversations ∧ ∀ id now,
      (∃ victim c' e, c.getConversation cfg id now victim = some (c', e)) ∧
      ∀ victim c' e, c.getConversation cfg id now victim = some (c', e) →
        Touched cfg c c' id now e :=
  ⟨(run_wellFormed h).names, (run_wellFormed h).bounded, fun id now =>
    ⟨exists_getConversation hmax id now, fun _ _ _ => getConversation_touched (run_wellFormed h)⟩⟩

/-- Room for two conversations, and three of them. -/
theorem conversations_bounded_three :
    ∃ c : Conversations, c.ids.length ≤ 2 ∧ c.ids.map Prod.fst = ["b", "d"] := by
  let cfg : DeepSeekConfig := ⟨"key", "deepseek-chat", "", 10, 2⟩
  have hrun : Run (call cfg) anyStep Conversations.empty [.getConversation "a" 1 0,
    .getConversation "b" 2 0, .getConversation "d" 3 0] _ := exec_run rfl
  exact ⟨_, (conversations_bounded (by decide) hrun).2.1, by decide⟩

end ChatApp.Bot
