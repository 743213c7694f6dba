/-
  The conversation list of `ChatService`. A conversation of a group has the sender of its last
  message as `peerId`, the field that names the other side of a private one. Messages and the
  operations with `isGroup` false look for `peerId` and do not ask whether the conversation is
  private, so a message in a group can take out the private conversation with its sender, and an
  operation on a private conversation can find a group. `Apart` leaves these steps out.
-/
import ChatApp.Client.PrivateMessages
import ChatApp.Lib.Lists
import ChatApp.Lib.Run

namespace ChatApp.Client

open ChatApp.Lib

structure Conversation (User Group : Type) where
  peerId : Int
  groupId : Int
  peer : Option User
  group : Option Group
  lastMessage : Option Message
  unreadCount : Int
  isPinned : Bool
  isMuted : Bool

/-- Whom a conversation is with. -/
inductive Side
  | user (peerId : Int)
  | group (groupId : Int)
  deriving DecidableEq

/-- What `ChatService` knows when a message arrives. -/
structure Screen (User Group : Type) where
  currentUserId : Int
  currentChatPeerId : Int
  users : Int → Option User
  groups : Int → Option Group

variable {User Group : Type}

namespace Conversation

def isGroup (c : Conversation User Group) : Bool := 0 < c.groupId

def side (c : Conversation User Group) : Side :=
  if 0 < c.groupId then .group c.groupId else .user c.peerId

def time (c : Conversation User Group) : Int := c.lastMessage.elim 0 (·.createdAt)

/-- The comparison of `_sortConversations` is not positive. -/
def Before (a b : Conversation User Group) : Prop :=
  if a.isPinned && !b.isPinned then True
  else if !a.isPinned && b.isPinned then False
  else b.time ≤ a.time

instance (a b : Conversation User Group) : Decidable (Before a b) := by
  unfold Before
  infer_instance

instance : Std.Total (@Before User Group) where
  total a b := by
    unfold Before
    cases a.isPinned <;> cases b.isPinned <;> simp <;> omega

instance : IsTrans (Conversation User Group) Before where
  trans a b c := by
    unfold Before
    cases a.isPinned <;> cases b.isPinned <;> cases c.isPinned <;> simp <;> omega

end Conversation

/-- The other side of the conversation, or the sender of a message in a group. -/
def Message.peerId (m : Message) (currentUserId : Int) : Int :=
  if 0 < m.groupId then m.senderId
  else if m.senderId = currentUserId then m.receiverId else m.senderId

def Message.side (m : Message) (currentUserId : Int) : Side :=
  if 0 < m.groupId then .group m.groupId else .user (m.peerId currentUserId)

section
variable (sorting : Sorting (@Conversation.Before User Group))
variable (cs : List (Conversation User Group))

/-- The test that `_updateConversation` finds the conversation of a message with. -/
def holds (groupId peerId : Int) (c : Conversation User Group) : Bool :=
  if 0 < c.groupId then c.groupId = groupId else c.peerId = peerId

def updateConversation (v : Screen User Group) (message : Message) :
    List (Conversation User Group) :=
  let peerId := message.peerId v.currentUserId
  let groupId := message.groupId
  let found := holds groupId peerId
  let existingConv := cs.find? found
  let isCurrentChat :=
    if 0 < groupId then v.currentChatPeerId = groupId else v.currentChatPeerId = peerId
  let unreadCount := existingConv.elim 0 (·.unreadCount)
  let newConv := {
    peerId, groupId
    peer := v.users peerId
    group := if 0 < groupId then v.groups groupId else none
    lastMessage := some message
    unreadCount := if message.senderId ≠ v.currentUserId ∧ ¬ isCurrentChat then unreadCount + 1
      else unreadCount
    isPinned := existingConv.elim false (·.isPinned)
    isMuted := existingConv.elim false (·.isMuted) }
  sorting.sort (newConv :: cs.eraseP found)

/-- The test of the other operations. -/
def named (id : Int) (isGroup : Bool) (c : Conversation User Group) : Bool :=
  if isGroup then c.groupId = id else c.peerId = id

def toggleConversationPin (id : Int) (isGroup : Bool) : List (Conversation User Group) :=
  if cs.any (named id isGroup) then
    sorting.sort (updateFirst (named id isGroup) (fun c => { c with isPinned := !c.isPinned }) cs)
  else cs

def toggleConversationMute (id : Int) (isGroup : Bool) : List (Conversation User Group) :=
  updateFirst (named id isGroup) (fun c => { c with isMuted := !c.isMuted }) cs

def markConversationRead (id : Int) (isGroup : Bool) : List (Conversation User Group) :=
  updateFirst (named id isGroup) (fun c => { c with unreadCount := 0 }) cs

def deleteConversation (id : Int) (isGroup : Bool) : List (Conversation User Group) :=
  cs.filter fun c => !named id isGroup c

/-! ## Operations -/

variable (User Group) in
inductive Operation
  | message (v : Screen User Group) (message : Message)
  | togglePin (id : Int) (isGroup : Bool)
  | toggleMute (id : Int) (isGroup : Bool)
  | markRead (id : Int) (isGroup : Bool)
  | delete (id : Int) (isGroup : Bool)

def Operation.isGroup : Operation User Group → Bool
  | .message _ m => 0 < m.groupId
  | .togglePin _ isGroup | .toggleMute _ isGroup | .markRead _ isGroup | .delete _ isGroup =>
    isGroup

def perform : Operation User Group → List (Conversation User Group)
  | .message v message => updateConversation sorting cs v message
  | .togglePin id isGroup => toggleConversationPin sorting cs id isGroup
  | .toggleMute id isGroup => toggleConversationMute cs id isGroup
  | .markRead id isGroup => markConversationRead cs id isGroup
  | .delete id isGroup => deleteConversation cs id isGroup

end

/-! ## What the list should be -/

section
variable (sorting : Sorting (@Conversation.Before User Group))
variable (ops : List (Operation User Group)) (op : Operation User Group)
variable (cs : List (Conversation User Group))

/-- A message of the conversation arrived, and the conversation was not deleted since. -/
def Arrived (side : Side) : Prop :=
  ∃ before v m after, ops = before ++ .message v m :: after ∧ m.side v.currentUserId = side ∧
    ∀ id isGroup, .delete id isGroup ∈ after → (if isGroup then .group id else .user id) ≠ side

/-- The conversations of the other kind. -/
def others (isGroup : Bool) : List (Conversation User Group) := cs.filter (·.isGroup != isGroup)

/-- The operation neither changes nor removes a conversation of the other kind. -/
def KeepsOthers : Prop :=
  (others (perform sorting cs op) op.isGroup).Perm (others cs op.isGroup)

structure Kept : Prop where
  unique : (cs.map Conversation.side).Nodup
  present : ∀ side, Arrived ops side → side ∈ cs.map Conversation.side
  keepsOthers : ∀ op, KeepsOthers sorting op cs

/-- The operation finds conversations of its own kind. -/
def Apart : Operation User Group → Prop
  | .message v m =>
    0 < m.groupId → ∀ c, cs.find? (holds m.groupId (m.peerId v.currentUserId)) = some c → c.isGroup
  | .togglePin id isGroup | .toggleMute id isGroup =>
    ∀ c, cs.find? (named id isGroup) = some c → c.isGroup = isGroup
  -- a conversation without unread messages stays as it is
  | .markRead id isGroup =>
    ∀ c, cs.find? (named id isGroup) = some c → c.isGroup = isGroup ∨ c.unreadCount = 0
  | .delete id isGroup => ∀ c ∈ cs, named id isGroup c → c.isGroup = isGroup

instance : (op : Operation User Group) → Decidable (Apart cs op)
  | .message .. => inferInstanceAs (Decidable (_ → ∀ c ∈ cs.find? _, _))
  | .togglePin .. | .toggleMute .. | .markRead .. =>
    inferInstanceAs (Decidable (∀ c ∈ cs.find? _, _))
  | .delete .. => inferInstanceAs (Decidable (∀ c ∈ cs, _))

/-- A step of the list. -/
def update (cs : List (Conversation User Group)) (op : Operation User Group) :
    Option (List (Conversation User Group)) := some (perform sorting cs op)

end

variable {sorting : Sorting (@Conversation.Before User Group)}
variable {ops : List (Operation User Group)} {op : Operation User Group}
variable {cs : List (Conversation User Group)} {c : Conversation User Group} {id : Int}
variable {isGroup : Bool} {v : Screen User Group} {m : Message}

/-! ## One operation -/

theorem kind_beq : (c.isGroup != isGroup) = false ↔ c.isGroup = isGroup := by simp

theorem side_of_named (h : named id isGroup c = true) (hkind : c.isGroup = isGroup) :
    c.side = if isGroup then .group id else .user id := by
  unfold named at h
  unfold Conversation.isGroup at hkind
  unfold Conversation.side
  cases isGroup with
  | true =>
    rw [if_pos (of_decide_eq_true hkind)]
    exact congrArg Side.group (of_decide_eq_true h)
  | false =>
    rw [if_neg (of_decide_eq_false hkind)]
    exact congrArg Side.user (of_decide_eq_true h)

theorem side_of_holds (h : holds m.groupId (m.peerId v.currentUserId) c = true)
    (hkind : 0 < m.groupId → c.isGroup = true) : c.side = m.side v.currentUserId := by
  unfold holds at h
  unfold Conversation.isGroup at hkind
  unfold Conversation.side Message.side
  by_cases hc : 0 < c.groupId
  · rw [if_pos hc] at h ⊢
    have hgroup := of_decide_eq_true h
    rw [if_pos (hgroup ▸ hc), hgroup]
  · rw [if_neg hc] at h ⊢
    rw [if_neg fun hm => hc (of_decide_eq_true (hkind hm)), of_decide_eq_true h]

/-- A message finds every conversation that it belongs to. -/
theorem holds_of_side (h : c.side = m.side v.currentUserId) :
    holds m.groupId (m.peerId v.currentUserId) c = true := by
  unfold Conversation.side Message.side at h
  unfold holds
  by_cases hc : 0 < c.groupId
  · rw [if_pos hc] at h ⊢
    split at h
    · exact decide_eq_true (Side.group.inj h)
    · cases h
  · rw [if_neg hc] at h ⊢
    split at h
    · cases h
    · exact decide_eq_true (Side.user.inj h)

theorem others_sort (xs : List (Conversation User Group)) :
    (others (sorting.sort xs) isGroup).Perm (others xs isGroup) := (sorting.perm xs).filter _

/-- Rewriting the first conversation with a name. -/
theorem others_updateFirst {f : Conversation User Group → Conversation User Group}
    (hf : ∀ c, (f c).isGroup = c.isGroup) :
    (others (updateFirst (named id isGroup) f cs) isGroup).Perm (others cs isGroup) ↔
      ∀ c, cs.find? (named id isGroup) = some c → c.isGroup = isGroup ∨ f c = c := by
  cases hfind : cs.find? (named id isGroup) with
  | none =>
    rw [updateFirst_of_find?_eq_none hfind]
    simp
  | some c =>
    unfold others
    rw [filter_updateFirst (q := (·.isGroup != isGroup)) hfind (by rw [hf])]
    simp only [Option.some.injEq, forall_eq']
    by_cases hkind : c.isGroup = isGroup <;> simp [hkind]

theorem keepsOthers_message : KeepsOthers sorting (.message v m) cs ↔ Apart cs (.message v m) := by
  unfold KeepsOthers perform updateConversation
  rw [(others_sort _).congr_left]
  unfold others
  rw [List.filter_cons_of_neg (by simp [Conversation.isGroup, Operation.isGroup])]
  cases hfind : cs.find? (holds m.groupId (m.peerId v.currentUserId)) with
  | none =>
    rw [eraseP_of_find?_eq_none hfind]
    simp [Apart, hfind]
  | some c =>
    rw [filter_eraseP (q := (·.isGroup != (Operation.message v m).isGroup)) hfind, kind_beq]
    have hc := List.find?_some hfind
    simp only [Apart, hfind, Option.some.injEq, forall_eq', Operation.isGroup]
    by_cases hm : 0 < m.groupId
    · simp [hm]
    · -- a message between users finds no group
      have hgroup : ¬ 0 < c.groupId := by
        intro hpos
        unfold holds at hc
        rw [if_pos hpos] at hc
        exact hm (of_decide_eq_true hc ▸ hpos)
      simp [hm, Conversation.isGroup, hgroup]

variable (cs id isGroup) in
/-- A toggle changes what it finds. -/
theorem others_toggle {f : Conversation User Group → Conversation User Group}
    (hf : ∀ c, (f c).isGroup = c.isGroup) (hne : ∀ c, f c ≠ c) :
    (others (updateFirst (named id isGroup) f cs) isGroup).Perm (others cs isGroup) ↔
      ∀ c, cs.find? (named id isGroup) = some c → c.isGroup = isGroup :=
  (others_updateFirst hf).trans
    (forall₂_congr fun c _ => ⟨fun h => h.resolve_right (hne c), .inl⟩)

theorem keepsOthers_togglePin :
    KeepsOthers sorting (.togglePin id isGroup) cs ↔ Apart cs (.togglePin id isGroup) := by
  have htoggle := others_toggle cs id isGroup (f := fun c => { c with isPinned := !c.isPinned })
    (fun _ => rfl) fun c h => by
      have hpinned := congrArg Conversation.isPinned h
      exact absurd hpinned (by simp)
  show (others (toggleConversationPin sorting cs id isGroup) isGroup).Perm _ ↔ _
  unfold toggleConversationPin
  split
  next => exact (others_sort _).congr_left _ |>.trans htoggle
  next hany =>
    have hnone : cs.find? (named id isGroup) = none := by simpa using hany
    refine iff_of_true (.refl _) fun c hc => ?_
    rw [hnone] at hc
    exact absurd hc.symm (Option.some_ne_none c)

theorem keepsOthers_toggleMute :
    KeepsOthers sorting (.toggleMute id isGroup) cs ↔ Apart cs (.toggleMute id isGroup) :=
  others_toggle cs id isGroup (fun _ => rfl) fun c h => by
    have hmuted := congrArg Conversation.isMuted h
    exact absurd hmuted (by simp)

theorem keepsOthers_markRead :
    KeepsOthers sorting (.markRead id isGroup) cs ↔ Apart cs (.markRead id isGroup) := by
  refine (others_updateFirst (f := fun c => { c with unreadCount := 0 }) fun _ => rfl).trans
    (forall₂_congr fun c _ => or_congr_right ⟨fun h => ?_, fun h => ?_⟩)
  · exact (congrArg Conversation.unreadCount h).symm
  · rw [← h]

theorem keepsOthers_delete :
    KeepsOthers sorting (.delete id isGroup) cs ↔ Apart cs (.delete id isGroup) := by
  show ((cs.filter fun c => !named id isGroup c).filter _).Perm (cs.filter _) ↔ _
  rw [List.filter_comm]
  constructor
  · intro h c hc hnamed
    by_contra hkind
    have hmem : c ∈ cs.filter (·.isGroup != isGroup) := List.mem_filter.2 ⟨hc, by simpa using hkind⟩
    have hkept := (List.mem_filter.1 (h.mem_iff.2 hmem)).2
    simp [hnamed] at hkept
  · intro h
    rw [List.filter_eq_self.2 fun c hc => ?_]
    obtain ⟨hc, hkind⟩ := List.mem_filter.1 hc
    by_contra hnamed
    have hname : named id isGroup c = true := by simpa using hnamed
    simp [h c hc hname, Operation.isGroup] at hkind

theorem keepsOthers_iff : KeepsOthers sorting op cs ↔ Apart cs op := by
  cases op with
  | message v m => exact keepsOthers_message
  | togglePin id isGroup => exact keepsOthers_togglePin
  | toggleMute id isGroup => exact keepsOthers_toggleMute
  | markRead id isGroup => exact keepsOthers_markRead
  | delete id isGroup => exact keepsOthers_delete

/-! ## Runs -/

/-- The operation takes the conversation out. -/
def Operation.Deletes (side : Side) : Operation User Group → Prop
  | .delete id isGroup => (if isGroup then .group id else .user id) = side
  | _ => False

def Operation.Brings (side : Side) : Operation User Group → Prop
  | .message v m => m.side v.currentUserId = side
  | _ => False

theorem map_side_sort (xs : List (Conversation User Group)) :
    ((sorting.sort xs).map Conversation.side).Perm (xs.map Conversation.side) :=
  (sorting.perm xs).map _

/-- The conversations after a message. -/
theorem map_side_message (hunique : (cs.map Conversation.side).Nodup)
    (hok : Apart cs (.message v m)) :
    ∃ sides, ((updateConversation sorting cs v m).map Conversation.side).Perm
        (m.side v.currentUserId :: sides) ∧ (m.side v.currentUserId :: sides).Nodup ∧
      ∀ side, side ≠ m.side v.currentUserId → side ∈ cs.map Conversation.side → side ∈ sides := by
  obtain ⟨hfresh, hkept⟩ := map_eraseP_of_nodup (k := m.side v.currentUserId) hunique
    (fun c hc => side_of_holds (List.find?_some hc) fun hm => hok hm c hc)
    fun c _ hc => holds_of_side hc
  exact ⟨_, map_side_sort _,
    List.nodup_cons.2 ⟨hfresh, hunique.sublist (List.eraseP_sublist.map _)⟩, hkept⟩

theorem map_side_togglePin : ((toggleConversationPin sorting cs id isGroup).map
    Conversation.side).Perm (cs.map Conversation.side) := by
  unfold toggleConversationPin
  split
  · exact (map_side_sort _).trans (.of_eq (map_updateFirst fun _ _ => rfl))
  · exact .refl _

theorem map_side_toggleMute : (toggleConversationMute cs id isGroup).map Conversation.side =
    cs.map Conversation.side := map_updateFirst fun _ _ => rfl

theorem map_side_markRead : (markConversationRead cs id isGroup).map Conversation.side =
    cs.map Conversation.side := map_updateFirst fun _ _ => rfl

theorem perform_unique (hunique : (cs.map Conversation.side).Nodup) (hok : Apart cs op) :
    ((perform sorting cs op).map Conversation.side).Nodup := by
  cases op with
  | message v m =>
    obtain ⟨sides, hperm, hnodup, -⟩ := map_side_message hunique hok
    exact hperm.nodup_iff.2 hnodup
  | togglePin id isGroup => exact map_side_togglePin.nodup_iff.2 hunique
  | toggleMute id isGroup => exact (congrArg List.Nodup map_side_toggleMute).mpr hunique
  | markRead id isGroup => exact (congrArg List.Nodup map_side_markRead).mpr hunique
  | delete id isGroup => exact hunique.sublist (List.filter_sublist.map _)

theorem perform_present {side : Side} (hunique : (cs.map Conversation.side).Nodup)
    (hok : Apart cs op)
    (h : op.Brings side ∨ side ∈ cs.map Conversation.side ∧ ¬ op.Deletes side) :
    side ∈ (perform sorting cs op).map Conversation.side := by
  cases op with
  | message v m =>
    obtain ⟨sides, hperm, -, hkept⟩ := map_side_message hunique hok
    refine hperm.mem_iff.2 ?_
    rcases h with rfl | ⟨hmem, -⟩
    · exact List.mem_cons_self
    · by_cases hside : side = m.side v.currentUserId
      · exact hside ▸ List.mem_cons_self
      · exact List.mem_cons_of_mem _ (hkept side hside hmem)
  | togglePin id isGroup => exact map_side_togglePin.mem_iff.2 (h.resolve_left fun h => h).1
  | toggleMute id isGroup =>
    exact (congrArg (side ∈ ·) map_side_toggleMute).mpr (h.resolve_left fun h => h).1
  | markRead id isGroup =>
    exact (congrArg (side ∈ ·) map_side_markRead).mpr (h.resolve_left fun h => h).1
  | delete id isGroup =>
    obtain ⟨hmem, hdeletes⟩ := h.resolve_left fun h => h
    obtain ⟨c, hc, rfl⟩ := List.mem_map.1 hmem
    refine List.mem_map_of_mem (List.mem_filter.2 ⟨hc, ?_⟩)
    by_contra hnamed
    have hname : named id isGroup c = true := by simpa using hnamed
    exact hdeletes (side_of_named hname (hok c hc hname)).symm

theorem arrived_snoc {side : Side} (h : Arrived (ops ++ [op]) side) :
    op.Brings side ∨ Arrived ops side ∧ ¬ op.Deletes side := by
  obtain ⟨before, v, m, after, hops, hside, hafter⟩ := h
  rcases snoc_eq_append_cons.1 hops with ⟨-, rfl, -⟩ | ⟨rest, rfl, rfl⟩
  · exact .inl hside
  · refine .inr ⟨⟨before, v, m, rest, rfl, hside, fun id isGroup hmem => ?_⟩, fun hdeletes => ?_⟩
    · exact hafter id isGroup (by simp [hmem])
    · cases op with
      | delete id isGroup => exact hafter id isGroup (by simp) hdeletes
      | _ => exact hdeletes

theorem run_kept (h : Run (update sorting) Apart [] ops cs) :
    (cs.map Conversation.side).Nodup ∧
      ∀ side, Arrived ops side → side ∈ cs.map Conversation.side := by
  induction h with
  | nil =>
    refine ⟨List.nodup_nil, fun side ⟨before, v, m, after, hops, _⟩ => ?_⟩
    exact absurd hops.symm (by simp)
  | @snoc ops cs cs' op _ hok hstep ih =>
    obtain rfl := Option.some.inj hstep
    obtain ⟨hunique, hpresent⟩ := ih
    refine ⟨perform_unique hunique hok, fun side hside => ?_⟩
    exact perform_present hunique hok
      ((arrived_snoc hside).imp_right (And.imp_left (hpresent side)))

/-- In every run whose operations find conversations of their own kind, the list has one
    conversation for every peer and group, and has those of all messages that arrived since. The
    next operation keeps the conversations of the other kind if and only if it is one of these. -/
theorem conversations_kept (h : Run (update sorting) Apart [] ops cs) :
    (cs.map Conversation.side).Nodup ∧
    (∀ side, Arrived ops side → side ∈ cs.map Conversation.side) ∧
    ∀ op, KeepsOthers sorting op cs ↔ Apart cs op :=
  ⟨(run_kept h).1, (run_kept h).2, fun _ => keepsOthers_iff⟩

/-- User 1 and no chat on the screen. -/
def homeScreen : Screen Unit Unit := ⟨1, 0, fun _ => none, fun _ => none⟩

def messageFrom (senderId groupId : Int) : Message :=
  ⟨1, senderId, if 0 < groupId then 0 else 1, groupId, 0, "hello", "", "", 1, 7⟩

/-- User 2 writes to user 1, user 3 in group 5, the group is pinned, and the chat with user 2 is
    deleted. -/
theorem conversations_kept_mixed :
    ∃ cs : List (Conversation Unit Unit), (cs.map Conversation.side).Nodup ∧
      Side.group 5 ∈ cs.map Conversation.side ∧
      KeepsOthers (.insertion Conversation.Before) (.markRead 5 true) cs := by
  have hrun : Run (update (.insertion (@Conversation.Before Unit Unit))) Apart
      [] [.message homeScreen (messageFrom 2 0), .message homeScreen (messageFrom 3 5),
        .togglePin 5 true, .delete 2 false] _ := run_iff_exec.2 rfl
  obtain ⟨hunique, hpresent, hkeeps⟩ := conversations_kept hrun
  refine ⟨_, hunique, hpresent _ ?_, (hkeeps _).2 (by decide)⟩
  refine ⟨[.message homeScreen (messageFrom 2 0)], homeScreen, messageFrom 3 5, _, rfl,
    by decide, ?_⟩
  simp

/-- A message of user 2 in group 5 takes out the conversation with user 2. -/
theorem private_conversation_lost : ¬ ∀ (ops : List (Operation Unit Unit)) cs,
    Run (update (.insertion Conversation.Before)) anyStep [] ops cs →
    Kept (.insertion Conversation.Before) ops cs := by
  intro h
  have hrun : Run (update (.insertion (@Conversation.Before Unit Unit))) anyStep
    [] [.message homeScreen (messageFrom 2 0), .message homeScreen (messageFrom 2 5)] _ :=
    exec_run rfl
  have hkept := (h _ _ hrun).present (.user 2)
    ⟨[], homeScreen, messageFrom 2 0, _, rfl, by decide, by simp⟩
  revert hkept
  decide

end ChatApp.Client
