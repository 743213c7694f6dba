/-
  The lists in the box of the messages, over all calls that write or clear one. `saveMessage` puts
  its message in the place of one with the same id, and `saveMessages` leaves out the messages
  whose id is there. The ids are positive, as those of the server are: `saveMessage` appends a
  message without one each time.
-/
import ChatApp.Client.SavedMessages
import Mathlib.Data.List.Induction

namespace ChatApp.Client

open ChatApp.Lib ChatApp.Protocol

def Box.clearMessages (box : Box) (peerId : Int) (isGroup : Bool) : Box :=
  Function.update box (getMessageKey peerId isGroup) none

/-- A call that changes the box. -/
inductive Change
  | save (save : Save)
  | clearMessages (peerId : Int) (isGroup : Bool)
  | clearAllMessages

namespace Change

def apply (sorting : Sorting Message.NotAfter) (box : Box) : Change → Box
  | save call => call.apply sorting box
  | clearMessages peerId isGroup => box.clearMessages peerId isGroup
  | clearAllMessages => fun _ => none

/-- The call takes the key out of the box. -/
def Clears (peerId : Int) (isGroup : Bool) : Change → Prop
  | save _ => False
  | clearMessages p g => p = peerId ∧ g = isGroup
  | clearAllMessages => True

/-- The call saves a message with the id under the key. -/
def Saves (peerId : Int) (isGroup : Bool) (id : Int) : Change → Prop
  | save call => call.target = (peerId, isGroup) ∧ ∃ m ∈ call.messages, m.messageId = id
  | clearMessages .. | clearAllMessages => False

/-- The messages that are saved have positive ids, and numbers of 64 bits. -/
def Proper : Change → Prop
  | save call => ∀ m ∈ call.messages, 0 < m.messageId ∧ m.Fits
  | clearMessages .. | clearAllMessages => True

instance : (c : Change) → Decidable c.Proper
  | save _ => inferInstanceAs (Decidable (∀ m ∈ _, _))
  | clearMessages .. | clearAllMessages => inferInstanceAs (Decidable True)

end Change

section
variable (sorting : Sorting Message.NotAfter) (changes : List Change) (box : Box)

/-- The box after the calls, each awaited before the next one. -/
def changeAll : Box := changes.foldl (Change.apply sorting) fun _ => none

/-- The id was saved under the key, and the key was not cleared since. -/
def Saved (peerId : Int) (isGroup : Bool) (id : Int) : Prop :=
  ∃ before c after, changes = before ++ c :: after ∧ c.Saves peerId isGroup id ∧
    ∀ d ∈ after, ¬ d.Clears peerId isGroup

/-- The list under a key. -/
structure Tidy (peerId : Int) (isGroup : Bool) : Prop where
  readable : ∀ value, box (getMessageKey peerId isGroup) = some value →
    value = .array ((getMessages box peerId isGroup).map Message.toJson)
  sorted : (getMessages box peerId isGroup).Pairwise Message.NotAfter
  unique : ((getMessages box peerId isGroup).map (·.messageId)).Nodup
  saved : ∀ id, (∃ m ∈ getMessages box peerId isGroup, m.messageId = id) ↔
    Saved changes peerId isGroup id

/-- What the next `saveMessage` does. -/
def Replaces : Prop :=
  ∀ m, (Change.save (.message m)).Proper → ∀ x,
    x ∈ (Save.message m).existing ((Save.message m).apply sorting box) ↔
      x = m ∨ x ∈ (Save.message m).existing box ∧ x.messageId ≠ m.messageId

/-- What the next `saveMessages` does. -/
def Keeps : Prop :=
  ∀ p g ms, (Change.save (.batch p g ms)).Proper → ∀ x,
    x ∈ getMessages ((Save.batch p g ms).apply sorting box) p g ↔
      x ∈ getMessages box p g ∨ x.messageId ∉ (getMessages box p g).map (·.messageId) ∧
        ms.find? (fun m => m.messageId = x.messageId) = some x

end

variable {sorting : Sorting Message.NotAfter} {changes : List Change} {c : Change} {box : Box}
variable {ms xs : List Message} {m x : Message} {save : Save} {p : Int} {g : Bool} {id : Int}

/-! ## Merging -/

theorem map_id_withMessage (hid : 0 < m.messageId) (hms : (ms.map (·.messageId)).Nodup) :
    ((withMessage ms m).map (·.messageId)).Nodup := by
  unfold withMessage
  dsimp only
  split
  next =>
    rw [map_updateFirst fun y hy => (of_decide_eq_true hy).1.symm]
    exact hms
  next hany =>
    refine nodup_map_snoc.2 ⟨hms, fun hmem => hany ?_⟩
    obtain ⟨x, hx, heq⟩ := List.mem_map.1 hmem
    exact List.any_eq_true.2 ⟨x, hx, decide_eq_true ⟨heq, hid⟩⟩

theorem mem_withMessage_iff (hid : 0 < m.messageId) (hms : (ms.map (·.messageId)).Nodup) :
    x ∈ withMessage ms m ↔ x = m ∨ x ∈ ms ∧ x.messageId ≠ m.messageId := by
  unfold withMessage
  dsimp only
  split
  next hany =>
    obtain ⟨y, hy⟩ := Option.isSome_iff_exists.1 (List.find?_isSome.2 (List.any_eq_true.1 hany))
    exact mem_updateFirst_iff hms (fun z hz => (of_decide_eq_true hz).1) hy
  next hany =>
    rw [List.mem_append, List.mem_singleton, or_comm]
    refine or_congr_right ⟨fun hx => ⟨hx, fun hsame => hany ?_⟩, And.left⟩
    exact List.any_eq_true.2 ⟨x, hx, decide_eq_true ⟨hsame, hid⟩⟩

theorem addMessage_of_mem {acc : List Message × List Int} (h : m.messageId ∈ acc.2) :
    addMessage acc m = acc := if_pos h

theorem addMessage_of_not_mem {acc : List Message × List Int} (h : m.messageId ∉ acc.2) :
    addMessage acc m = (acc.1 ++ [m], m.messageId :: acc.2) := if_neg h

theorem map_id_foldl_addMessage (acc : List Message × List Int)
    (hacc : ∀ id, id ∈ acc.2 ↔ id ∈ acc.1.map (·.messageId))
    (h : (acc.1.map (·.messageId)).Nodup) :
    ((xs.foldl addMessage acc).1.map (·.messageId)).Nodup := by
  induction xs generalizing acc with
  | nil => exact h
  | cons m xs ih =>
    rw [List.foldl_cons]
    by_cases hm : m.messageId ∈ acc.2
    · rw [addMessage_of_mem hm]
      exact ih acc hacc h
    · rw [addMessage_of_not_mem hm]
      refine ih _ (fun id => ?_) (nodup_map_snoc.2 ⟨h, fun hmem => hm ((hacc _).2 hmem)⟩)
      simp [hacc, or_comm]

/-- The first message of the batch with a new id comes in. -/
theorem mem_foldl_addMessage (acc : List Message × List Int) :
    x ∈ (xs.foldl addMessage acc).1 ↔ x ∈ acc.1 ∨
      x.messageId ∉ acc.2 ∧ xs.find? (fun m => m.messageId = x.messageId) = some x := by
  induction xs generalizing acc with
  | nil => simp
  | cons m xs ih =>
    rw [List.foldl_cons]
    by_cases hsame : m.messageId = x.messageId
    · rw [List.find?_cons_of_pos (by simpa using hsame), ← hsame]
      by_cases hm : m.messageId ∈ acc.2
      · rw [addMessage_of_mem hm, ih]
        simp [← hsame, hm]
      · rw [addMessage_of_not_mem hm, ih]
        simp [← hsame, hm, eq_comm]
    · have hne : x ≠ m := fun heq => hsame (heq ▸ rfl)
      rw [List.find?_cons_of_neg (by simpa using hsame)]
      by_cases hm : m.messageId ∈ acc.2
      · rw [addMessage_of_mem hm, ih]
      · rw [addMessage_of_not_mem hm, ih]
        simp [hne, Ne.symm hsame]

/-! ## One call -/

theorem map_id_merge (hsave : (Change.save save).Proper) (hms : (ms.map (·.messageId)).Nodup) :
    ((save.merge ms).map (·.messageId)).Nodup := by
  cases save with
  | message m => exact map_id_withMessage (hsave m List.mem_cons_self).1 hms
  | batch peerId isGroup xs => exact map_id_foldl_addMessage _ (fun _ => Iff.rfl) hms

theorem fits_of_save (hsave : (Change.save save).Proper) : save.Fits := fun m hm => (hsave m hm).2

/-- A call adds the ids of its messages. -/
theorem exists_merge (hsave : (Change.save save).Proper) (hms : (ms.map (·.messageId)).Nodup) :
    (∃ x ∈ save.merge ms, x.messageId = id) ↔
      (∃ x ∈ ms, x.messageId = id) ∨ ∃ x ∈ save.messages, x.messageId = id := by
  cases save with
  | message m =>
    have hmem : ∀ x, x ∈ (Save.message m).merge ms ↔ x = m ∨ x ∈ ms ∧ x.messageId ≠ m.messageId :=
      fun x => mem_withMessage_iff (hsave m List.mem_cons_self).1 hms
    constructor
    · rintro ⟨x, hx, hid⟩
      rcases (hmem x).1 hx with rfl | ⟨hx, -⟩
      · exact .inr ⟨x, List.mem_cons_self, hid⟩
      · exact .inl ⟨x, hx, hid⟩
    · rintro (⟨x, hx, hid⟩ | ⟨x, hx, hid⟩)
      · by_cases hsame : x.messageId = m.messageId
        · exact ⟨m, (hmem m).2 (.inl rfl), hsame.symm.trans hid⟩
        · exact ⟨x, (hmem x).2 (.inr ⟨hx, hsame⟩), hid⟩
      · exact ⟨x, (hmem x).2 (.inl (List.mem_singleton.1 hx)), hid⟩
  | batch peerId isGroup xs =>
    have hids : id ∈ (withMessages ms xs).map (·.messageId) ↔
        id ∈ ms.map (·.messageId) ∨ id ∈ xs.map (·.messageId) :=
      (foldl_addMessage _ fun _ => Iff.rfl).2 id
    simp only [List.mem_map] at hids
    exact hids

theorem getMessages_of_none (h : box (getMessageKey p g) = none) : getMessages box p g = [] := by
  unfold getMessages
  rw [h]

/-- A call that clears the key empties the list. -/
theorem getMessages_of_clears (h : c.Clears p g) :
    c.apply sorting box (getMessageKey p g) = none := by
  cases c with
  | save save => exact h.elim
  | clearMessages q h' =>
    obtain ⟨rfl, rfl⟩ := h
    exact Function.update_self ..
  | clearAllMessages => rfl

/-- A call for another key leaves the value. -/
theorem apply_of_ne (hclears : ¬ c.Clears p g)
    (hsave : ∀ save, c = .save save → save.target ≠ (p, g)) :
    c.apply sorting box (getMessageKey p g) = box (getMessageKey p g) := by
  cases c with
  | save save =>
    refine Function.update_of_ne (fun heq => hsave save rfl ?_) ..
    obtain ⟨rfl, rfl⟩ := getMessageKey_inj.1 heq
    rfl
  | clearMessages q h' =>
    refine Function.update_of_ne (fun heq => hclears ?_) ..
    obtain ⟨rfl, rfl⟩ := getMessageKey_inj.1 heq
    exact ⟨rfl, rfl⟩
  | clearAllMessages => exact (hclears trivial).elim

theorem saved_snoc : Saved (changes ++ [c]) p g id ↔
    c.Saves p g id ∨ Saved changes p g id ∧ ¬ c.Clears p g := by
  constructor
  · rintro ⟨before, d, after, hchanges, hsaves, hafter⟩
    rcases snoc_eq_append_cons.1 hchanges with ⟨-, rfl, -⟩ | ⟨rest, rfl, rfl⟩
    · exact .inl hsaves
    · refine .inr ⟨⟨before, d, rest, rfl, hsaves, fun e he => ?_⟩, ?_⟩
      · exact hafter e (by simp [he])
      · exact hafter c (by simp)
  · rintro (hsaves | ⟨⟨before, d, after, rfl, hsaves, hafter⟩, hclears⟩)
    · exact ⟨changes, c, [], rfl, hsaves, fun e he => absurd he List.not_mem_nil⟩
    · refine ⟨before, d, after ++ [c], by simp, hsaves, fun e he => ?_⟩
      rcases List.mem_append.1 he with he | he
      · exact hafter e he
      · exact List.mem_singleton.1 he ▸ hclears

theorem tidy_clears (h : c.Clears p g) : Tidy (changes ++ [c]) (c.apply sorting box) p g := by
  have hnone : c.apply sorting box (getMessageKey p g) = none := getMessages_of_clears h
  have hempty := getMessages_of_none hnone
  refine ⟨fun value hvalue => ?_, ?_, ?_, fun id => ?_⟩
  · exact absurd (hnone.symm.trans hvalue) (Option.some_ne_none value).symm
  · exact hempty ▸ .nil
  · rw [hempty]
    exact List.nodup_nil
  · have hsaves : ¬ c.Saves p g id := by
      cases c with
      | save call => exact h.elim
      | clearMessages q h' => exact fun h => h
      | clearAllMessages => exact fun h => h
    rw [saved_snoc, hempty]
    simp [hsaves, h]

theorem tidy_save (hc : (Change.save save).Proper) (htarget : save.target = (p, g))
    (h : Tidy changes box p g) : Tidy (changes ++ [.save save]) (save.apply sorting box) p g := by
  have hlist : getMessages (save.apply sorting box) p g =
      sorting.sort (save.merge (getMessages box p g)) := by
    rw [getMessages_apply (fits_of_save hc), if_pos htarget]
  have hperm := sorting.perm (save.merge (getMessages box p g))
  have hkey : save.key = getMessageKey p g := by
    unfold Save.key
    rw [htarget]
  refine ⟨fun value hvalue => ?_, ?_, ?_, fun id => ?_⟩
  · have hput : save.apply sorting box (getMessageKey p g) =
        some (.array ((sorting.sort (save.merge (save.existing box))).map Message.toJson)) := by
      rw [← hkey]
      exact Function.update_self ..
    have hexisting : save.existing box = getMessages box p g := by
      unfold Save.existing
      rw [htarget]
    rw [hlist, ← hexisting]
    exact Option.some.inj (hvalue.symm.trans hput)
  · rw [hlist]
    exact sorting.sorted _
  · rw [hlist]
    exact (hperm.map _).nodup_iff.2 (map_id_merge hc h.unique)
  · rw [hlist, saved_snoc, ← h.saved id]
    simp only [hperm.mem_iff]
    rw [exists_merge hc h.unique, or_comm]
    simp [Change.Saves, Change.Clears, htarget]

theorem tidy_other (hclears : ¬ c.Clears p g)
    (hsave : ∀ save, c = .save save → save.target ≠ (p, g)) (h : Tidy changes box p g) :
    Tidy (changes ++ [c]) (c.apply sorting box) p g := by
  have hvalue : c.apply sorting box (getMessageKey p g) = box (getMessageKey p g) :=
    apply_of_ne hclears hsave
  have hlist : getMessages (c.apply sorting box) p g = getMessages box p g := by
    unfold getMessages
    rw [hvalue]
  have hsaves : ∀ id, ¬ c.Saves p g id := by
    intro id
    cases c with
    | save call => exact fun h => hsave call rfl h.1
    | clearMessages q h' => exact fun h => h
    | clearAllMessages => exact fun h => h
  refine ⟨fun value => ?_, ?_, ?_, fun id => ?_⟩
  · rw [hvalue, hlist]
    exact h.readable value
  · exact hlist.symm ▸ h.sorted
  · exact hlist.symm ▸ h.unique
  · rw [hlist, saved_snoc, h.saved id]
    simp [hsaves id, hclears]

theorem tidy_apply (hc : c.Proper) (h : Tidy changes box p g) :
    Tidy (changes ++ [c]) (c.apply sorting box) p g := by
  by_cases hclears : c.Clears p g
  · exact tidy_clears hclears
  · by_cases hsave : ∃ save, c = .save save ∧ save.target = (p, g)
    · obtain ⟨save, rfl, htarget⟩ := hsave
      exact tidy_save hc htarget h
    · exact tidy_other hclears (fun save heq htarget => hsave ⟨save, heq, htarget⟩) h

/-! ## All calls -/

theorem tidy_nil : Tidy [] (fun _ => none) p g := by
  have hempty : getMessages (fun _ => none) p g = [] := getMessages_of_none rfl
  refine ⟨fun value hvalue => absurd hvalue (Option.some_ne_none value).symm, ?_, ?_, fun id => ?_⟩
  · exact hempty ▸ .nil
  · rw [hempty]
    exact List.nodup_nil
  · rw [hempty]
    refine iff_of_false (by simp) fun ⟨before, c, after, heq, _⟩ => ?_
    exact absurd heq.symm (by simp)

theorem tidy_changeAll (h : ∀ c ∈ changes, c.Proper) :
    Tidy changes (changeAll sorting changes) p g := by
  induction changes using List.reverseRecOn with
  | nil => exact tidy_nil
  | append_singleton changes c ih =>
    unfold changeAll
    rw [List.foldl_append]
    refine tidy_apply (h c (by simp)) (ih fun d hd => h d (by simp [hd]))

theorem replaces_of_tidy (h : ∀ p g, Tidy changes box p g) : Replaces sorting box := by
  intro m hm x
  have hlist : (Save.message m).existing ((Save.message m).apply sorting box) =
      sorting.sort (withMessage ((Save.message m).existing box) m) := by
    unfold Save.existing
    rw [getMessages_apply (fits_of_save hm), if_pos rfl]
    rfl
  rw [hlist, sorting.mem_sort]
  exact mem_withMessage_iff (hm m List.mem_cons_self).1 (h _ _).unique

theorem keeps (box : Box) : Keeps sorting box := by
  intro p g ms hms x
  have htarget : (Save.batch p g ms).target = (p, g) := rfl
  rw [getMessages_apply (fits_of_save hms), if_pos htarget, sorting.mem_sort]
  exact mem_foldl_addMessage _

/-- After any calls every list is in order, without an id twice, and has the ids that were saved
    since the key was cleared; the next `saveMessage` replaces, the next `saveMessages` does not. -/
theorem stored_tidy (h : ∀ c ∈ changes, c.Proper) :
    (∀ p g, Tidy changes (changeAll sorting changes) p g) ∧
      Replaces sorting (changeAll sorting changes) ∧ Keeps sorting (changeAll sorting changes) :=
  ⟨fun _ _ => tidy_changeAll h, replaces_of_tidy fun _ _ => tidy_changeAll h, keeps _⟩

/-- A history with user 2 of which one message comes twice, an answer, and a clearing. -/
theorem stored_tidy_answer :
    Tidy [.save (.batch 2 false [received, received]),
        .save (.message ⟨2, 1, 2, 0, 0, "hi", "", "", 1, 8⟩), .clearMessages 3 false]
      (changeAll (.insertion Message.NotAfter) [.save (.batch 2 false [received, received]),
        .save (.message ⟨2, 1, 2, 0, 0, "hi", "", "", 1, 8⟩), .clearMessages 3 false]) 2 false :=
  (stored_tidy (by decide)).1 2 false

end ChatApp.Client
