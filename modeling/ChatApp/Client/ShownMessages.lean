/-
  The lists of messages in the memory of `ChatService`. A message that is received, and the answer
  to one that was sent, goes to the end of its list; the messages of a page of the history go to
  the front, one by one, those that are there already left out; what is loaded from the store
  takes the place of the list. Nothing is sorted.

  `messages_iff`: a list stays in order and without a number twice as long as what is put at its
  end is new and not older, and what a page puts at its front is not newer (`Fits`).
-/
import ChatApp.Client.RecalledMessages
import ChatApp.Client.StoredMessages
import ChatApp.Lib.Run

namespace ChatApp.Client

open ChatApp.Lib ChatApp.Protocol

/-! ## Handlers -/

/-- `as int? ?? fallback` -/
def asIntOr (fallback : Int) (json : Option Json) : Option Int :=
  (asIntOrNull json).map (·.getD fallback)

namespace ChatService

/-- `_messages[key]`, or no messages. -/
def shown (c : ChatService) (key : Int) : List Message := (c.messages key).getD []

def setShown (c : ChatService) (key : Int) (messages : List Message) : ChatService :=
  { c with messages := Function.update c.messages key (some messages) }

/-- `_messageDb.saveMessage` -/
def save (c : ChatService) (message : Message) : ChatService :=
  { c with saves := c.saves ++ [.message message] }

/-- `_handlePrivateMessage` -/
def handlePrivateMessage (c : ChatService) (body : Json) : ChatService :=
  match Message.fromJson body with
  | none => c
  | some message =>
    let key := if 0 < message.groupId then -message.groupId else c.otherSide message
    (c.setShown key (c.shown key ++ [message])).save message

/-- The message of `_handlePrivateMessageResponse`, if the response has one. -/
def responseMessage (currentUserId : Int) (body : Json) : Option Message := do
  let messageId ← (← asIntOrNull (body.find? "message_id"))
  if ¬ 0 < messageId then none
  let senderId ← asIntOr currentUserId (body.find? "sender_id")
  let receiverId ← asInt (body.find? "receiver_id")
  let mediaType ← asInt (body.find? "message_type")
  let content ← asString (body.find? "content")
  let mediaUrl ← asString (body.find? "media_url")
  let createdAt ← asInt (body.find? "created_at")
  return ⟨messageId, senderId, receiverId, 0, mediaType, content, mediaUrl, "", 1, createdAt⟩

/-- A message that waits for its number. -/
def waitsFor (message m : Message) : Bool :=
  m.senderId = message.senderId ∧ m.receiverId = message.receiverId ∧ m.messageId = 0

/-- `_handlePrivateMessageResponse` -/
def handlePrivateMessageResponse (c : ChatService) (body : Json) : ChatService :=
  match responseMessage c.currentUserId body with
  | none => c
  | some message =>
    let messages := c.shown message.receiverId
    let messages := if messages.any (waitsFor message)
      then updateFirst (waitsFor message) (fun _ => message) messages
      else messages ++ [message]
    (c.setShown message.receiverId messages).save message

/-- `_handleGroupMessage` -/
def handleGroupMessage (c : ChatService) (body : Json) : ChatService :=
  match Message.fromJson body with
  | none => c
  | some message =>
    (c.setShown (-message.groupId) (c.shown (-message.groupId) ++ [message])).save message

/-- `loadLocalMessages`, when the store has been read. -/
def loadLocalMessages (c : ChatService) (box : Box) (peerId : Int) (isGroup : Bool) : ChatService :=
  let messages := getMessages box peerId isGroup
  if messages = [] then c else c.setShown (if isGroup then -peerId else peerId) messages

end ChatService

/-- What comes to the client, from the server or from its store. -/
inductive Arrival
  | privateMessage (body : Json)
  | privateMessageResponse (body : Json)
  | privateHistoryResponse (body : Json)
  | groupMessage (body : Json)
  | localMessages (box : Box) (peerId : Int) (isGroup : Bool)

namespace ChatService

def receive (c : ChatService) : Arrival → ChatService
  | .privateMessage body => c.handlePrivateMessage body
  | .privateMessageResponse body => c.handlePrivateMessageResponse body
  | .privateHistoryResponse body => c.handlePrivateHistoryResponse body
  | .groupMessage body => c.handleGroupMessage body
  | .localMessages box peerId isGroup => c.loadLocalMessages box peerId isGroup

/-- A client on which the user has logged in, after the arrivals. -/
def receiveAll (currentUserId : Int) (arrivals : List Arrival) : ChatService :=
  arrivals.foldl receive (.init currentUserId)

end ChatService

/-! ## What the lists should be -/

/-- A positive number comes once, and nothing is newer than what follows. -/
structure InOrder (messages : List Message) : Prop where
  once : messages.Pairwise fun a b => 0 < a.messageId → a.messageId ≠ b.messageId
  sorted : messages.Pairwise Message.NotAfter

def ChatService.InOrder (c : ChatService) : Prop := ∀ key, Client.InOrder (c.shown key)

/-- The message can stand behind the other. -/
def Follows (a b : Message) : Prop :=
  (0 < a.messageId → a.messageId ≠ b.messageId) ∧ a.NotAfter b

/-- The messages of a page up to the first item that is none. -/
def decoded : List Json → List Message
  | [] => []
  | item :: items =>
    match (asMap (some item)).bind Message.fromJson with
    | none => []
    | some message => message :: decoded items

/-- The messages of a response with a page. -/
def historyMessages (body : Json) : List Message :=
  if ChatService.isZero ((body.find? "code").getD (.number (-1))) then
    match asMap (body.find? "data") with
    | none => []
    | some data =>
      match asList (data.find? "messages") with
      | none => []
      | some messagesJson => decoded (messagesJson.getD [])
  else []

/-- The message that the server sends when it has been stored. -/
def Arrival.live (currentUserId : Int) : Arrival → Option Message
  | privateMessage body | groupMessage body => Message.fromJson body
  | privateMessageResponse body => ChatService.responseMessage currentUserId body
  | privateHistoryResponse _ | localMessages .. => none

/-- A server that stores the messages of `log` one after another, and a store of messages that have
    come before. Private messages and those of groups are numbered apart. -/
structure Consistent (currentUserId : Int) (log : List Message) (arrivals : List Arrival) :
    Prop where
  numbered : ∀ m ∈ log, 0 < m.messageId
  once : log.Pairwise fun a b => a.isGroupMessage = b.isGroupMessage → a.messageId ≠ b.messageId
  sorted : log.Pairwise Message.NotAfter
  live : (arrivals.filterMap (Arrival.live currentUserId)).Sublist log
  /-- the newest messages with one user, of those that were stored at some time -/
  page : ∀ body, .privateHistoryResponse body ∈ arrivals → ∃ stored peerId limit, stored <+: log ∧
    historyMessages body =
      (stored.filter (·.chat currentUserId = (peerId, false))).reverse.take limit
  store : ∀ box peerId isGroup, .localMessages box peerId isGroup ∈ arrivals →
    (∃ sorting changes, (∀ change ∈ changes, Change.Proper change) ∧
      box = changeAll sorting changes) ∧
    ∀ m ∈ getMessages box peerId isGroup, m ∈ log ∧ m.chat currentUserId = (peerId, isGroup)

/-- A page has the newest messages first, and a store is one that messages of the server have been
    saved in. -/
def Arrival.Proper : Arrival → Prop
  | privateHistoryResponse body => (historyMessages body).Pairwise fun a b => b.NotAfter a
  | localMessages box _ _ => ∃ sorting changes,
    (∀ change ∈ changes, Change.Proper change) ∧ box = changeAll sorting changes
  | privateMessage _ | privateMessageResponse _ | groupMessage _ => True

namespace ChatService

/-- Where the answer puts its message: in the place of one that waits, or at the end. -/
def FitsAt (messages : List Message) (message : Message) : Prop :=
  if messages.any (waitsFor message) then
    (∀ a ∈ messages.takeWhile (fun m => !waitsFor message m), Follows a message) ∧
      ∀ b ∈ (messages.dropWhile (fun m => !waitsFor message m)).tail, Follows message b
  else ∀ a ∈ messages, Follows a message

/-- What a page puts at the front, a message that the list does not have, is not newer than the
    list. -/
def FitsFront (c : ChatService) (message : Message) : Prop :=
  message.messageId ∉ (c.shown (c.otherSide message)).map (·.messageId) →
    ∀ b ∈ c.shown (c.otherSide message), message.NotAfter b

/-- What goes to the end is new and not older than the list, and a page fits at the front. -/
def Fits (c : ChatService) : Arrival → Prop
  | .privateMessage body => ∀ message, Message.fromJson body = some message →
    ∀ a ∈ c.shown (if 0 < message.groupId then -message.groupId else c.otherSide message),
      Follows a message
  | .privateMessageResponse body => ∀ message, responseMessage c.currentUserId body = some message →
    FitsAt (c.shown message.receiverId) message
  | .privateHistoryResponse body => ∀ message ∈ historyMessages body, c.FitsFront message
  | .groupMessage body => ∀ message, Message.fromJson body = some message →
    ∀ a ∈ c.shown (-message.groupId), Follows a message
  | .localMessages .. => True

end ChatService

/-! ## Lists in order -/

variable {messages rest : List Message} {m : Message} {c : ChatService} {a : Arrival} {key : Int}
variable {arrivals : List Arrival} {currentUserId : Int}

theorem inOrder_iff : InOrder messages ↔ messages.Pairwise Follows := by
  unfold Follows
  rw [List.pairwise_and_iff]
  exact ⟨fun h => ⟨h.once, h.sorted⟩, fun h => ⟨h.1, h.2⟩⟩

theorem inOrder_snoc (h : InOrder messages) :
    InOrder (messages ++ [m]) ↔ ∀ a ∈ messages, Follows a m := by
  rw [inOrder_iff] at h ⊢
  rw [List.pairwise_append]
  simp [h]

theorem inOrder_cons (h : InOrder messages) (hnew : m.messageId ∉ messages.map (·.messageId)) :
    InOrder (m :: messages) ↔ ∀ b ∈ messages, m.NotAfter b := by
  rw [inOrder_iff] at h ⊢
  rw [List.pairwise_cons, and_iff_left h]
  refine forall₂_congr fun b hb => and_iff_right fun _ hsame => hnew ?_
  exact hsame ▸ List.mem_map_of_mem hb

theorem InOrder.sublist (h : InOrder messages) (hsub : rest.Sublist messages) : InOrder rest :=
  ⟨h.once.sublist hsub, h.sorted.sublist hsub⟩

/-- A message in the place of one that waits. -/
theorem inOrder_updateFirst {p : Message → Bool} (h : InOrder messages)
    (hany : messages.any p = true) : InOrder (updateFirst p (fun _ => m) messages) ↔
      (∀ a ∈ messages.takeWhile (fun x => !p x), Follows a m) ∧
        ∀ b ∈ (messages.dropWhile (fun x => !p x)).tail, Follows m b := by
  rw [inOrder_iff] at h ⊢
  induction messages with
  | nil => cases hany
  | cons x xs ih =>
    rw [List.pairwise_cons] at h
    by_cases hx : p x = true
    · rw [updateFirst, if_pos hx, List.takeWhile_cons_of_neg (by simp [hx]),
        List.dropWhile_cons_of_neg (by simp [hx]), List.pairwise_cons, and_iff_left h.2]
      simp
    · have hrest : xs.any p = true := by simpa [hx] using hany
      have hmem : m ∈ updateFirst p (fun _ => m) xs := by
        have hfound := List.find?_isSome.2 (List.any_eq_true.1 hrest)
        obtain ⟨y, hy⟩ := Option.isSome_iff_exists.1 hfound
        obtain ⟨_, -, hperm⟩ := perm_updateFirst (f := fun _ => m) hy
        exact hperm.mem_iff.2 List.mem_cons_self
      rw [updateFirst, if_neg hx, List.takeWhile_cons_of_pos (by simp [hx]),
        List.dropWhile_cons_of_pos (by simp [hx]), List.pairwise_cons, ih h.2 hrest,
        List.forall_mem_cons, and_assoc]
      refine and_congr_left fun _ => ⟨fun hall => hall m hmem, fun hxm y hy => ?_⟩
      rcases mem_updateFirst hy with hy | ⟨_, -, rfl⟩
      · exact h.1 y hy
      · exact hxm

/-! ## The client -/

theorem inOrder_of_messages {d : ChatService} (h : c.messages = d.messages) :
    c.InOrder ↔ d.InOrder := by
  unfold ChatService.InOrder ChatService.shown
  rw [h]

theorem shown_setShown (k : Int) :
    (c.setShown key messages).shown k = if k = key then messages else c.shown k := by
  unfold ChatService.shown ChatService.setShown
  dsimp only
  rw [Function.update_apply]
  split <;> rfl

theorem inOrder_setShown (hc : c.InOrder) :
    (c.setShown key messages).InOrder ↔ InOrder messages := by
  unfold ChatService.InOrder
  simp only [shown_setShown]
  refine ⟨fun h => ?_, fun h k => ?_⟩
  · simpa using h key
  · split
    · exact h
    · exact hc k

/-- A message is put at the end of a list, and saved. -/
theorem inOrder_append (hc : c.InOrder) :
    ((c.setShown key (c.shown key ++ [m])).save m).InOrder ↔ ∀ a ∈ c.shown key, Follows a m := by
  have hsave : ((c.setShown key (c.shown key ++ [m])).save m).InOrder ↔
      (c.setShown key (c.shown key ++ [m])).InOrder := inOrder_of_messages rfl
  rw [hsave, inOrder_setShown hc, inOrder_snoc (hc key)]

/-! ## Pages of the history -/

/-- What a page puts at the front of the list. -/
def insertNew (messages : List Message) (message : Message) : List Message :=
  if messages.any (·.messageId = message.messageId) then messages else message :: messages

theorem insertMessage_eq :
    c.insertMessage m = c.setShown (c.otherSide m) (insertNew (c.shown (c.otherSide m)) m) := rfl

theorem insertNew_of_mem (h : m.messageId ∈ messages.map (·.messageId)) :
    insertNew messages m = messages := by
  refine if_pos (List.any_eq_true.2 ?_)
  obtain ⟨x, hx, hid⟩ := List.mem_map.1 h
  exact ⟨x, hx, decide_eq_true hid⟩

theorem insertNew_of_not_mem (h : m.messageId ∉ messages.map (·.messageId)) :
    insertNew messages m = m :: messages := by
  refine if_neg fun hany => h ?_
  obtain ⟨x, hx, hid⟩ := List.any_eq_true.1 hany
  exact List.mem_map.2 ⟨x, hx, of_decide_eq_true hid⟩

theorem inOrder_insertMessage (hc : c.InOrder) : (c.insertMessage m).InOrder ↔ c.FitsFront m := by
  rw [insertMessage_eq, inOrder_setShown hc]
  unfold ChatService.FitsFront
  by_cases hmem : m.messageId ∈ (c.shown (c.otherSide m)).map (·.messageId)
  · rw [insertNew_of_mem hmem]
    exact iff_of_true (hc _) fun hnew => absurd hmem hnew
  · rw [insertNew_of_not_mem hmem, inOrder_cons (hc _) hmem, forall_prop_of_true hmem]

/-- A page does not take out messages. -/
theorem sublist_insertMessage : (c.shown key).Sublist ((c.insertMessage m).shown key) := by
  rw [insertMessage_eq, shown_setShown]
  split
  next hkey =>
    rw [hkey]
    unfold insertNew
    split
    · exact .refl _
    · exact List.sublist_cons_self ..
  next => exact .refl _

theorem sublist_foldl_insertMessage :
    (c.shown key).Sublist ((messages.foldl ChatService.insertMessage c).shown key) := by
  induction messages generalizing c with
  | nil => exact .refl _
  | cons x xs ih => exact sublist_insertMessage.trans ih

/-- A message that is not newer than the one before it in the page fits in front of that one if and
    only if it did before. -/
theorem fitsFront_insertMessage {x : Message} (hx : c.FitsFront x) (hnot : m.NotAfter x) :
    (c.insertMessage x).FitsFront m ↔ c.FitsFront m := by
  have hside : (c.insertMessage x).otherSide m = c.otherSide m := rfl
  unfold ChatService.FitsFront at hx ⊢
  rw [hside, insertMessage_eq, shown_setShown]
  split
  next hsame =>
    rw [hsame]
    by_cases hmem : x.messageId ∈ (c.shown (c.otherSide x)).map (·.messageId)
    · rw [insertNew_of_mem hmem]
    · rw [insertNew_of_not_mem hmem, List.map_cons, List.forall_mem_cons]
      constructor
      · intro h hnew b hb
        by_cases hid : m.messageId = x.messageId
        · exact Int.le_trans hnot (hx hmem b hb)
        · exact (h (List.not_mem_cons_of_ne_of_not_mem hid hnew)).2 b hb
      · intro h hnew
        exact ⟨hnot, h fun hm => hnew (List.mem_cons_of_mem _ hm)⟩
  next => exact Iff.rfl

/-- A page with the newest messages first. -/
theorem inOrder_foldl_insertMessage (hc : c.InOrder)
    (hpage : messages.Pairwise fun a b => b.NotAfter a) :
    (messages.foldl ChatService.insertMessage c).InOrder ↔ ∀ x ∈ messages, c.FitsFront x := by
  induction messages generalizing c with
  | nil => exact iff_of_true hc fun x hx => absurd hx List.not_mem_nil
  | cons x xs ih =>
    rw [List.pairwise_cons] at hpage
    rw [List.foldl_cons, List.forall_mem_cons]
    by_cases hx : c.FitsFront x
    · rw [ih ((inOrder_insertMessage hc).2 hx) hpage.2, and_iff_right hx]
      exact forall₂_congr fun m hm => fitsFront_insertMessage hx (hpage.1 m hm)
    · refine iff_of_false (fun h => hx ?_) fun h => hx h.1
      exact (inOrder_insertMessage hc).1 fun key => (h key).sublist sublist_foldl_insertMessage

/-- The loop inserts the messages up to the first item that is none. -/
theorem messages_addHistory {serverMessages : List Message} {peerId : Int} {items : List Json} :
    (c.addHistory serverMessages peerId items).messages =
      ((decoded items).foldl ChatService.insertMessage c).messages := by
  induction items generalizing c serverMessages peerId with
  | nil =>
    unfold ChatService.addHistory
    split <;> rfl
  | cons item items ih =>
    unfold ChatService.addHistory decoded
    cases (asMap (some item)).bind Message.fromJson with
    | none => rfl
    | some message => exact ih

theorem messages_privateHistory {body : Json} : (c.handlePrivateHistoryResponse body).messages =
    ((historyMessages body).foldl ChatService.insertMessage c).messages := by
  unfold ChatService.handlePrivateHistoryResponse historyMessages
  split
  · cases asMap (body.find? "data") with
    | none => rfl
    | some data =>
      dsimp only
      cases asList (data.find? "messages") with
      | none => rfl
      | some messagesJson => exact messages_addHistory
  · rfl

/-! ## Arrivals -/

theorem inOrder_init : (ChatService.init currentUserId).InOrder := by
  intro key
  exact ⟨.nil, .nil⟩

/-- A list from the store is in order. -/
theorem inOrder_getMessages {box : Box} {peerId : Int} {isGroup : Bool}
    (h : (Arrival.localMessages box peerId isGroup).Proper) :
    InOrder (getMessages box peerId isGroup) := by
  obtain ⟨sorting, changes, hproper, rfl⟩ := h
  have htidy : Tidy changes (changeAll sorting changes) peerId isGroup := tidy_changeAll hproper
  have hids := List.pairwise_map.1 htidy.unique
  exact ⟨hids.imp fun {x y} (hne : x.messageId ≠ y.messageId) _ => hne, htidy.sorted⟩

theorem inOrder_privateMessage {body : Json} (hc : c.InOrder) :
    (c.handlePrivateMessage body).InOrder ↔ c.Fits (.privateMessage body) := by
  unfold ChatService.handlePrivateMessage ChatService.Fits
  dsimp only
  cases Message.fromJson body with
  | none => simp [hc]
  | some message => simpa using inOrder_append hc

theorem inOrder_groupMessage {body : Json} (hc : c.InOrder) :
    (c.handleGroupMessage body).InOrder ↔ c.Fits (.groupMessage body) := by
  unfold ChatService.handleGroupMessage ChatService.Fits
  dsimp only
  cases Message.fromJson body with
  | none => simp [hc]
  | some message => simpa using inOrder_append hc

theorem inOrder_privateMessageResponse {body : Json} (hc : c.InOrder) :
    (c.handlePrivateMessageResponse body).InOrder ↔ c.Fits (.privateMessageResponse body) := by
  unfold ChatService.handlePrivateMessageResponse ChatService.Fits
  dsimp only
  cases ChatService.responseMessage c.currentUserId body with
  | none => simp [hc]
  | some message =>
    simp only [Option.some.injEq, forall_eq']
    unfold ChatService.FitsAt
    split
    next hany =>
      have hsave : ((c.setShown message.receiverId (updateFirst (ChatService.waitsFor message)
          (fun _ => message) (c.shown message.receiverId))).save message).InOrder ↔
            InOrder (updateFirst (ChatService.waitsFor message) (fun _ => message)
              (c.shown message.receiverId)) :=
        (inOrder_of_messages rfl).trans (inOrder_setShown hc)
      rw [hsave, inOrder_updateFirst (hc _) hany]
    next => exact inOrder_append hc

theorem inOrder_loadLocalMessages {box : Box} {peerId : Int} {isGroup : Bool} (hc : c.InOrder)
    (h : (Arrival.localMessages box peerId isGroup).Proper) :
    (c.loadLocalMessages box peerId isGroup).InOrder := by
  unfold ChatService.loadLocalMessages
  dsimp only
  split
  · exact hc
  · exact (inOrder_setShown hc).2 (inOrder_getMessages h)

theorem receive_inOrder_iff (hc : c.InOrder) (ha : a.Proper) :
    (c.receive a).InOrder ↔ c.Fits a := by
  cases a with
  | privateMessage body => exact inOrder_privateMessage hc
  | privateMessageResponse body => exact inOrder_privateMessageResponse hc
  | privateHistoryResponse body =>
    exact (inOrder_of_messages messages_privateHistory).trans (inOrder_foldl_insertMessage hc ha)
  | groupMessage body => exact inOrder_groupMessage hc
  | localMessages box peerId isGroup =>
    exact iff_of_true (inOrder_loadLocalMessages hc ha) trivial

/-- What comes from a consistent server and store is proper. -/
theorem proper_of_consistent {log : List Message} (h : Consistent currentUserId log arrivals) :
    ∀ a ∈ arrivals, a.Proper := by
  intro a ha
  cases a with
  | privateHistoryResponse body =>
    obtain ⟨stored, peerId, limit, hstored, hpage⟩ := h.page body ha
    have hsub : (stored.filter (·.chat currentUserId = (peerId, false))).Sublist log :=
      List.filter_sublist.trans hstored.sublist
    have hnewest := List.pairwise_reverse.2 (h.sorted.sublist hsub)
    have hnewestFirst : (historyMessages body).Pairwise fun a b => b.NotAfter a := by
      rw [hpage]
      exact hnewest.sublist (List.take_sublist ..)
    exact hnewestFirst
  | localMessages box peerId isGroup => exact (h.store box peerId isGroup ha).1
  | privateMessage body => trivial
  | privateMessageResponse body => trivial
  | groupMessage body => trivial

/-! ## Runs -/

/-- In a run the lists are in order all the time if and only if every arrival fits. -/
theorem messages_iff (h : ∀ a ∈ arrivals, a.Proper) :
    (∀ pre, pre <+: arrivals → (ChatService.receiveAll currentUserId pre).InOrder) ↔
      ∀ pre a, pre ++ [a] <+: arrivals → (ChatService.receiveAll currentUserId pre).Fits a := by
  refine forall_prefix_iff_of inOrder_init fun pre a hpre hc => ?_
  have ha : a ∈ arrivals := hpre.subset (by simp)
  unfold ChatService.receiveAll at hc ⊢
  rw [List.foldl_append]
  exact receive_inOrder_iff hc (h a ha)

/-- The next message of user 2. -/
def next : Message := ⟨2, 2, 1, 0, 0, "there?", "", "", 1, 8⟩

/-- A store in which `received` was saved, when the history was shown. -/
def cached : Box := changeAll (.insertion Message.NotAfter) [.save (.batch 2 false [received])]

theorem getMessages_cached : getMessages cached 2 false = [received] := by decide

theorem cached_proper : (Arrival.localMessages cached 2 false).Proper := ⟨_, _, by decide, rfl⟩

theorem next_fits : (ChatService.receiveAll 1 [.localMessages cached 2 false]).Fits
    (.privateMessage next.toJson) := by
  have hnext : Message.fromJson next.toJson = some next := by decide
  have hshown : (ChatService.receiveAll 1 [.localMessages cached 2 false]).shown 2 =
      [received] := by decide
  intro message hmessage
  obtain rfl := Option.some.inj (hnext.symm.trans hmessage)
  have hkey : (if 0 < next.groupId then -next.groupId
      else (ChatService.receiveAll 1 [.localMessages cached 2 false]).otherSide next) = 2 := by
    decide
  rw [hkey, hshown, List.forall_mem_singleton]
  exact ⟨by decide, by decide⟩

/-- The stored list is loaded, and the next message is received. -/
theorem messages_iff_next : (ChatService.receiveAll 1
    [.localMessages cached 2 false, .privateMessage next.toJson]).InOrder := by
  have hproper : ∀ a ∈ [Arrival.localMessages cached 2 false, .privateMessage next.toJson],
      a.Proper := List.forall_mem_cons.2 ⟨cached_proper, by simp [Arrival.Proper]⟩
  refine (messages_iff hproper).2 (fun pre a h => ?_) _ List.prefix_rfl
  rcases List.prefix_cons_iff.1 h with hnil | ⟨t, hpre, ht⟩
  · exact absurd hnil (by simp)
  · rcases List.append_eq_cons_iff.1 hpre with ⟨rfl, hfirst⟩ | ⟨as, rfl, rfl⟩
    · obtain ⟨rfl, -⟩ := List.cons.inj hfirst
      trivial
    · obtain ⟨rfl, rfl⟩ : as = [] ∧ a = .privateMessage next.toJson := by
        simpa [List.prefix_cons_iff, List.append_eq_cons_iff] using ht
      exact next_fits

/-- The history with user 2, with both messages. -/
def newest : Json := .object [("code", .number 0),
  ("data", .object [("messages", .array [next.toJson, received.toJson])])]

/-- The stored list is loaded, and the history comes. -/
def reopened : List Arrival := [.localMessages cached 2 false, .privateHistoryResponse newest]

theorem reopened_consistent : Consistent 1 [received, next] reopened := by
  have hpage : historyMessages newest = [next, received] := by decide
  refine ⟨by decide, by decide, by decide, List.nil_sublist _, fun body hbody => ?_,
    fun box peerId isGroup hbox => ?_⟩
  · obtain rfl : body = newest := by simpa [reopened] using hbody
    exact ⟨[received, next], 2, 20, List.prefix_rfl, hpage.trans (by decide)⟩
  · obtain ⟨rfl, rfl, rfl⟩ : box = cached ∧ peerId = 2 ∧ isGroup = false := by
      simpa [reopened] using hbox
    refine ⟨cached_proper, ?_⟩
    rw [getMessages_cached]
    decide

/-- The message that the store does not have goes in front of the one that it has. -/
theorem next_before_received : ¬ ∀ currentUserId log arrivals,
    Consistent currentUserId log arrivals →
      (ChatService.receiveAll currentUserId arrivals).InOrder := by
  intro h
  have hshown : (ChatService.receiveAll 1 reopened).shown 2 = [next, received] := by decide
  have hsorted := (h 1 _ reopened reopened_consistent 2).sorted
  rw [hshown] at hsorted
  exact absurd hsorted (by decide)

end ChatApp.Client
