/-
  The order of the conversation list. `_updateConversation` and `toggleConversationPin` sort, the
  other operations keep what the order depends on: the pin and the time of the last message.
-/
import ChatApp.Client.Conversations

namespace ChatApp.Client

open ChatApp.Lib

variable {User Group : Type}

/-- The pinned conversations come first, and in both parts those with the latest messages. -/
structure Ordered (cs : List (Conversation User Group)) : Prop where
  pinned : cs.Pairwise fun a b => b.isPinned = true → a.isPinned = true
  times : cs.Pairwise fun a b => a.isPinned = b.isPinned → b.time ≤ a.time

/-- The list after the operations. -/
def performAll (sorting : Sorting (@Conversation.Before User Group))
    (ops : List (Operation User Group)) : List (Conversation User Group) :=
  ops.foldl (perform sorting) []

/-- What the order depends on. -/
def Conversation.rank (c : Conversation User Group) : Bool × Int := (c.isPinned, c.time)

/-- A rank that need not stand behind the other one. -/
def rankBefore (a b : Bool × Int) : Prop := (b.1 = true → a.1 = true) ∧ (a.1 = b.1 → b.2 ≤ a.2)

variable {sorting : Sorting (@Conversation.Before User Group)}
variable {ops : List (Operation User Group)} {op : Operation User Group}
variable {cs : List (Conversation User Group)} {c a b : Conversation User Group} {id : Int}
variable {isGroup : Bool}

/-- The comparison of `_sortConversations` compares the ranks. -/
theorem before_iff : a.Before b ↔ rankBefore a.rank b.rank := by
  unfold Conversation.Before rankBefore Conversation.rank
  cases a.isPinned <;> cases b.isPinned <;> simp

theorem ordered_iff : Ordered cs ↔ cs.Pairwise fun a b => rankBefore a.rank b.rank := by
  unfold rankBefore
  rw [List.pairwise_and_iff]
  exact ⟨fun h => ⟨h.pinned, h.times⟩, fun h => ⟨h.1, h.2⟩⟩

theorem ordered_sort : Ordered (sorting.sort cs) :=
  ordered_iff.2 ((sorting.sorted cs).imp before_iff.1)

/-- Changing other fields of the conversation that an operation finds. -/
theorem ordered_updateFirst {f : Conversation User Group → Conversation User Group}
    (hf : ∀ c, (f c).rank = c.rank) (h : Ordered cs) :
    Ordered (updateFirst (named id isGroup) f cs) :=
  ordered_iff.2 ((pairwise_updateFirst fun c _ => hf c).2 (ordered_iff.1 h))

theorem ordered_togglePin (h : Ordered cs) :
    Ordered (toggleConversationPin sorting cs id isGroup) := by
  unfold toggleConversationPin
  split
  · exact ordered_sort
  · exact h

theorem ordered_delete (h : Ordered cs) : Ordered (deleteConversation cs id isGroup) :=
  ⟨h.pinned.filter _, h.times.filter _⟩

theorem perform_ordered (h : Ordered cs) : Ordered (perform sorting cs op) := by
  cases op with
  | message v m => exact ordered_sort
  | togglePin id isGroup => exact ordered_togglePin h
  | toggleMute id isGroup => exact ordered_updateFirst (fun _ => rfl) h
  | markRead id isGroup => exact ordered_updateFirst (fun _ => rfl) h
  | delete id isGroup => exact ordered_delete h

theorem foldl_perform_ordered (h : Ordered cs) : Ordered (ops.foldl (perform sorting) cs) := by
  induction ops generalizing cs with
  | nil => exact h
  | cons op ops ih => exact ih (perform_ordered h)

/-- After every call the list is in order, however the operations follow one another. -/
theorem performAll_ordered (sorting : Sorting (@Conversation.Before User Group))
    (ops : List (Operation User Group)) : Ordered (performAll sorting ops) :=
  foldl_perform_ordered ⟨.nil, .nil⟩

end ChatApp.Client
