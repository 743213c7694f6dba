/-
  Saves that come one after another. What is read for a chat afterwards has the ids of all calls
  that went to its key, and nothing else that is new (`saveAll_has`, `mem_saveAll`). So every
  message is found in its chat if and only if `saveMessage` never gets a private message that the
  current user has received.
-/
import ChatApp.Client.MessageDatabase

namespace ChatApp.Client

open ChatApp.Lib

/-- The arguments with which the chat of a message is read: its group, or the other side. -/
def Message.chat (m : Message) (currentUserId : Int) : Int × Bool :=
  if 0 < m.groupId then (m.groupId, true)
  else (if m.senderId = currentUserId then m.receiverId else m.senderId, false)

/-- A private message is from or to the current user, and a batch is for its chat. -/
def Save.Proper (currentUserId : Int) : Save → Prop
  | .message m =>
    m.Fits ∧ (¬ 0 < m.groupId → m.senderId = currentUserId ∨ m.receiverId = currentUserId)
  | .batch peerId isGroup ms =>
    ∀ m ∈ ms, m.Fits ∧ m.chat currentUserId = (peerId, isGroup)

instance (currentUserId : Int) : (save : Save) → Decidable (save.Proper currentUserId)
  | .message _ => inferInstanceAs (Decidable (_ ∧ _))
  | .batch .. => inferInstanceAs (Decidable (∀ m ∈ _, _))

section
variable (sorting : Sorting Message.NotAfter) (currentUserId : Int) (box : Box) (saves : List Save)

/-- The saves, each awaited before the next one. -/
def saveAll : Box := saves.foldl (Save.apply sorting) box

structure Found : Prop where
  /-- in the chat of a saved message is a message with its id, which was saved or there before -/
  returned : ∀ save ∈ saves, ∀ m ∈ save.messages, 0 < m.messageId →
    ∃ x ∈ getMessages (saveAll sorting box saves) (m.chat currentUserId).1
        (m.chat currentUserId).2,
      x.messageId = m.messageId ∧
        (x ∈ getMessages box (m.chat currentUserId).1 (m.chat currentUserId).2 ∨
          ∃ save ∈ saves, x ∈ save.messages)
  sameKey : ∀ m, .message m ∈ saves →
    (Save.message m).key = getMessageKey (m.chat currentUserId).1 (m.chat currentUserId).2

end

variable {sorting : Sorting Message.NotAfter} {currentUserId : Int} {box : Box} {saves : List Save}
variable {save : Save} {m x : Message} {p : Int} {g : Bool}

theorem fits_of_proper (h : save.Proper currentUserId) : save.Fits := by
  cases save with
  | message m => exact fun x hx => List.mem_singleton.1 hx ▸ h.1
  | batch peerId isGroup ms => exact fun x hx => (h x hx).1

theorem getMessages_apply (hfits : save.Fits) :
    getMessages (save.apply sorting box) p g =
      if save.target = (p, g) then sorting.sort (save.merge (getMessages box p g))
      else getMessages box p g := by
  have hread : ∀ m ∈ save.existing box, m.Fits := fits_getMessages
  unfold Save.apply
  rw [getMessages_write hread hfits]
  split
  next heq =>
    unfold Save.existing
    rw [heq]
  next => rfl

/-- The ids under a key: those from before, and those of the calls that go to the key. -/
theorem saveAll_has (hfits : ∀ save ∈ saves, save.Fits) {id : Int} :
    Has (getMessages (saveAll sorting box saves) p g) id ↔
      Has (getMessages box p g) id ∨
        ∃ save ∈ saves, save.target = (p, g) ∧ Has save.messages id := by
  induction saves generalizing box with
  | nil => simp [saveAll]
  | cons save saves ih =>
    obtain ⟨hsave, hsaves⟩ := List.forall_mem_cons.1 hfits
    have hstep : Has (getMessages (save.apply sorting box) p g) id ↔
        Has (getMessages box p g) id ∨ save.target = (p, g) ∧ Has save.messages id := by
      rw [getMessages_apply hsave]
      split
      next heq => rw [has_sort, has_merge, and_iff_right heq]
      next hne => simp [hne]
    refine (ih hsaves).trans ?_
    rw [hstep, or_assoc]
    simp

theorem mem_saveAll (hfits : ∀ save ∈ saves, save.Fits)
    (h : x ∈ getMessages (saveAll sorting box saves) p g) :
    x ∈ getMessages box p g ∨ ∃ save ∈ saves, x ∈ save.messages := by
  induction saves generalizing box with
  | nil => exact .inl h
  | cons save saves ih =>
    obtain ⟨hsave, hsaves⟩ := List.forall_mem_cons.1 hfits
    rcases ih hsaves h with hbox | ⟨later, hlater, hx⟩
    · rw [getMessages_apply hsave] at hbox
      split at hbox
      · rcases mem_merge (sorting.mem_sort.1 hbox) with hbox | hx
        · exact .inl hbox
        · exact .inr ⟨save, List.mem_cons_self, hx⟩
      · exact .inl hbox
    · exact .inr ⟨later, List.mem_cons_of_mem save hlater, hx⟩

/-- `saveMessage` takes the key of the chat, unless the message is a private one of someone else. -/
theorem target_iff_chat (h : (Save.message m).Proper currentUserId) :
    (Save.message m).target = m.chat currentUserId ↔
      0 < m.groupId ∨ m.senderId = currentUserId := by
  unfold Save.target Message.chat
  by_cases hgroup : 0 < m.groupId
  · simp [hgroup]
  · by_cases hsender : m.senderId = currentUserId
    · simp [hgroup, hsender]
    · have hreceiver := (h.2 hgroup).resolve_left hsender
      simp [hgroup, hsender, hreceiver, Ne.symm hsender]

/-- The two ways of saving agree, and every saved message is found in its chat, if and only if no
    private message that the current user has received is saved alone. -/
theorem found_iff (hproper : ∀ save ∈ saves, save.Proper currentUserId) :
    Found sorting currentUserId box saves ↔
      ∀ m, .message m ∈ saves → 0 < m.groupId ∨ m.senderId = currentUserId := by
  have hkey : ∀ m, .message m ∈ saves →
      ((Save.message m).key = getMessageKey (m.chat currentUserId).1 (m.chat currentUserId).2 ↔
        0 < m.groupId ∨ m.senderId = currentUserId) := by
    intro m hm
    rw [← target_iff_chat (hproper _ hm), Save.key, getMessageKey_inj, Prod.ext_iff]
  refine ⟨fun h m hm => (hkey m hm).1 (h.sameKey m hm), fun h => ⟨?_, ?_⟩⟩
  rotate_left
  · exact fun m hm => (hkey m hm).2 (h m hm)
  intro save hsave m hm hid
  have hfits : ∀ save ∈ saves, save.Fits := fun save hsave => fits_of_proper (hproper save hsave)
  have htarget : save.target = m.chat currentUserId := by
    cases save with
    | message m' =>
      obtain rfl := List.mem_singleton.1 hm
      exact (target_iff_chat (hproper _ hsave)).2 (h m hsave)
    | batch peerId isGroup ms => exact (hproper _ hsave m hm).2.symm
  obtain ⟨-, x, hx, hsame⟩ : Has _ m.messageId :=
    (saveAll_has hfits).2 (.inr ⟨save, hsave, htarget, hid, m, hm, rfl⟩)
  exact ⟨x, hx, hsame, mem_saveAll hfits hx⟩

/-- A message of user 2 to user 1. -/
def received : Message := ⟨1, 2, 1, 0, 0, "hello", "", "", 1, 7⟩

/-- User 1 saves the history with user 2, and then an answer. -/
theorem found_iff_answer :
    Found (.insertion Message.NotAfter) 1 (fun _ => none)
      [.batch 2 false [received], .message ⟨2, 1, 2, 0, 0, "hi", "", "", 1, 8⟩] :=
  (found_iff (by decide)).2 (by simp)

/-- A received message is saved for user 1, and looked for in the chat with user 2. -/
theorem received_not_found :
    ¬ Found (.insertion Message.NotAfter) 1 (fun _ => none) [.message received] := by
  intro h
  have hempty : getMessages (saveAll (.insertion Message.NotAfter) (fun _ => none)
      [.message received]) 2 false = [] := by decide
  obtain ⟨x, hx, -⟩ := h.returned _ List.mem_cons_self received List.mem_cons_self (by decide)
  exact absurd (hempty ▸ hx) List.not_mem_nil

end ChatApp.Client
