/-
  Recalled messages in the lists that `ChatService` holds. Private messages and those of groups are
  numbered apart, but `_updateRecalledMessage` looks for a number only. It stops at the first
  message that has it, in the order of the map, so it can replace a message of the other kind, and
  a second copy of the right one stays.
-/
import ChatApp.Client.Responses
import ChatApp.Lib.Lists

namespace ChatApp.Client

open ChatApp.Lib ChatApp.Protocol

/-- `as int?`; the outer `none` is an exception. -/
def asIntOrNull (json : Option Json) : Option (Option Int) :=
  if isNull json then some none else (asInt json).map some

/-- `as Map<String, dynamic>?` -/
def asMapOrNull (json : Option Json) : Option (Option Json) :=
  if isNull json then some none else (asMap json).map some

/-- `as bool? ?? false` -/
def asBool : Option Json → Option Bool
  | none => some false
  | some .null => some false
  | some (.bool b) => some b
  | some _ => none

/-- `as String? ?? fallback` -/
def asStringOr (fallback : String) (json : Option Json) : Option String :=
  if isNull json then some fallback else asString json

def Message.isGroupMessage (m : Message) : Bool := 0 < m.groupId

/-- The message that `_updateRecalledMessage` puts in the place of one. -/
def Message.recalled (m : Message) : Message :=
  { m with mediaType := 0, content := "[消息已撤回]", mediaUrl := "", extra := "" }

/-- `_messages`, in the order of its keys. -/
abbrev Entries := List (Int × List Message)

def hasId (messageId : Int) (m : Message) : Bool := m.messageId = messageId

/-- `_updateRecalledMessage` on the lists, with the message that it saves. The kind of the message
    is only printed. -/
def updateRecalledMessage (messageId : Int) (isGroup : Bool) : Entries → Entries × Option Message
  | [] => ([], none)
  | (key, messages) :: entries =>
    match messages.find? (hasId messageId) with
    | some m =>
      ((key, updateFirst (hasId messageId) Message.recalled messages) :: entries, some m.recalled)
    | none =>
      let rest := updateRecalledMessage messageId isGroup entries
      ((key, messages) :: rest.1, rest.2)

/-- What a recall changes. -/
structure Recalls where
  messages : Entries
  recallSuccess : Bool
  recallError : Option String
  /-- the calls of `_messageDb.saveMessage` -/
  saves : List Message

namespace Recalls

def updateRecalled (c : Recalls) (messageId : Int) (isGroup : Bool) : Recalls :=
  let updated := updateRecalledMessage messageId isGroup c.messages
  { c with messages := updated.1, saves := c.saves ++ updated.2.toList }

/-- `_handleMessageRecall` -/
def handleMessageRecall (c : Recalls) (body : Json) : Recalls :=
  match asIntOrNull (body.find? "message_id"), asBool (body.find? "is_group") with
  | some (some messageId), some isGroup => c.updateRecalled messageId isGroup
  | _, _ => c

/-- The part of `_handleMessageRecallResponse` for a response with data. -/
def handleRecallData (c : Recalls) (data : Json) : Recalls :=
  match asBool (data.find? "success") with
  | none => c
  | some true =>
    match asIntOrNull (data.find? "message_id") with
    | some (some messageId) => { c with recallSuccess := true }.updateRecalled messageId false
    | _ => { c with recallSuccess := true }
  | some false =>
    match asStringOr "Failed to recall message" (data.find? "error") with
    | none => c
    | some error => { c with recallError := some error }

/-- `_handleMessageRecallResponse` -/
def handleMessageRecallResponse (c : Recalls) (body : Json) : Recalls :=
  match asIntOrNull (body.find? "code") with
  | none => c
  | some code =>
    if code.getD 0 ≠ 0 then
      match asStringOr "Failed to recall message" (body.find? "message") with
      | none => c
      | some error => { c with recallError := some error }
    else
      match asMapOrNull (body.find? "data") with
      | none => c
      | some none => { c with recallError := some "Invalid response format" }
      | some (some data) => c.handleRecallData data

end Recalls

/-- A body for one of the two handlers. -/
inductive Recall
  | notification (body : Json)
  | response (body : Json)

def Recalls.handle (c : Recalls) : Recall → Recalls
  | .notification body => c.handleMessageRecall body
  | .response body => c.handleMessageRecallResponse body

/-- The body is about a message of the kind. A response does not say the kind, which is that of the
    request. -/
def Recall.IsOf (messageId : Int) (isGroup : Bool) : Recall → Prop
  | notification body =>
    asIntOrNull (body.find? "message_id") = some (some messageId) ∧
      asBool (body.find? "is_group") = some isGroup
  | response body =>
    (asIntOrNull (body.find? "code")).map (·.getD 0) = some 0 ∧
      ∃ data, asMapOrNull (body.find? "data") = some (some data) ∧
        asBool (data.find? "success") = some true ∧
        asIntOrNull (data.find? "message_id") = some (some messageId)

section
variable (messageId : Int) (isGroup : Bool) (entries : Entries)

/-- The message is one of the copies. -/
def IsCopy (m : Message) : Prop := m.messageId = messageId ∧ m.isGroupMessage = isGroup

instance (m : Message) : Decidable (IsCopy messageId isGroup m) :=
  inferInstanceAs (Decidable (_ ∧ _))

def replaceCopy (m : Message) : Message := if IsCopy messageId isGroup m then m.recalled else m

/-- Exactly the copies replaced. -/
def replaceCopies : Entries := entries.map fun e => (e.1, e.2.map (replaceCopy messageId isGroup))

/-- All messages in the order of the search. -/
def listed : List Message := entries.flatMap (·.2)

/-- The search finds a message of the right kind, and what else is a copy has been replaced
    before. -/
def FoundRight : Prop :=
  (∀ m, (listed entries).find? (hasId messageId) = some m →
    m.isGroupMessage = isGroup ∨ m.recalled = m) ∧
  ∀ m ∈ (listed entries).eraseP (hasId messageId), IsCopy messageId isGroup m → m.recalled = m

instance : Decidable (FoundRight messageId isGroup entries) :=
  inferInstanceAs (Decidable ((∀ m ∈ List.find? _ _, _) ∧ ∀ m ∈ _, _))

end

variable {messageId : Int} {isGroup : Bool} {entries : Entries} {c : Recalls} {r : Recall}
variable {m : Message} {ms : List Message}

/-! ## The search -/

theorem replaceCopy_of_not_hasId (h : hasId messageId m = false) :
    replaceCopy messageId isGroup m = m :=
  if_neg fun hcopy => of_decide_eq_false h hcopy.1

theorem replaceCopy_of_hasId (h : hasId messageId m = true) :
    m.recalled = replaceCopy messageId isGroup m ↔
      m.isGroupMessage = isGroup ∨ m.recalled = m := by
  have hid : m.messageId = messageId := of_decide_eq_true h
  by_cases hkind : m.isGroupMessage = isGroup
  · exact iff_of_true (if_pos ⟨hid, hkind⟩).symm (.inl hkind)
  · have hother : replaceCopy messageId isGroup m = m := if_neg fun hcopy => hkind hcopy.2
    rw [hother, or_iff_right hkind]

theorem replaceCopy_eq_self : replaceCopy messageId isGroup m = m ↔
    (IsCopy messageId isGroup m → m.recalled = m) := by
  by_cases hcopy : IsCopy messageId isGroup m
  · have hreplaced : replaceCopy messageId isGroup m = m.recalled := if_pos hcopy
    rw [hreplaced, forall_prop_of_true hcopy]
  · exact iff_of_true (if_neg hcopy) fun h => absurd h hcopy

/-- What the search finds is replaced as it should be, and nothing else has to be. -/
theorem foundRight_iff : FoundRight messageId isGroup entries ↔
    (∀ m, (listed entries).find? (hasId messageId) = some m →
      m.recalled = replaceCopy messageId isGroup m) ∧
    ∀ m ∈ (listed entries).eraseP (hasId messageId), replaceCopy messageId isGroup m = m :=
  and_congr
    (forall₂_congr fun _ hm => (replaceCopy_of_hasId (List.find?_some hm)).symm)
    (forall₂_congr fun _ _ => replaceCopy_eq_self.symm)

theorem replaceCopies_eq_self : entries = replaceCopies messageId isGroup entries ↔
    ∀ m ∈ listed entries, replaceCopy messageId isGroup m = m := by
  unfold replaceCopies listed
  rw [eq_comm, map_eq_self]
  simp only [Prod.ext_iff, true_and, map_eq_self, List.mem_flatMap]
  exact ⟨fun h m ⟨e, he, hm⟩ => h e he m hm, fun h e he m hm => h m ⟨e, he, hm⟩⟩

variable (entries) in
/-- A list without the number is passed over. -/
theorem listed_of_none (h : ms.find? (hasId messageId) = none) (key : Int) :
    (listed ((key, ms) :: entries)).find? (hasId messageId) =
        (listed entries).find? (hasId messageId) ∧
      (listed ((key, ms) :: entries)).eraseP (hasId messageId) =
        ms ++ (listed entries).eraseP (hasId messageId) := by
  have hnone := List.find?_eq_none.1 h
  unfold listed
  rw [List.flatMap_cons, List.find?_append, h, Option.none_or, List.eraseP_append_right _ hnone]
  exact ⟨rfl, rfl⟩

variable (entries) in
/-- The search ends in the first list that has the number. -/
theorem listed_of_some (h : ms.find? (hasId messageId) = some m) (key : Int) :
    (listed ((key, ms) :: entries)).find? (hasId messageId) = some m ∧
      (listed ((key, ms) :: entries)).eraseP (hasId messageId) =
        ms.eraseP (hasId messageId) ++ listed entries := by
  unfold listed
  rw [List.flatMap_cons, List.find?_append, h, Option.some_or,
    List.eraseP_append_left (List.find?_some h) _ (List.mem_of_find?_eq_some h)]
  exact ⟨rfl, rfl⟩

theorem updateRecalledMessage_iff :
    (updateRecalledMessage messageId isGroup entries).1 = replaceCopies messageId isGroup entries ↔
      FoundRight messageId isGroup entries := by
  rw [foundRight_iff]
  induction entries with
  | nil => simp [updateRecalledMessage, replaceCopies, listed]
  | cons e entries ih =>
    obtain ⟨key, ms⟩ := e
    have hcons : replaceCopies messageId isGroup ((key, ms) :: entries) =
      (key, ms.map (replaceCopy messageId isGroup)) ::
        replaceCopies messageId isGroup entries := rfl
    unfold updateRecalledMessage
    rw [hcons]
    cases hfind : ms.find? (hasId messageId) with
    | none =>
      obtain ⟨hfirst, herase⟩ := listed_of_none entries hfind key
      have hsame : ms.map (replaceCopy messageId isGroup) = ms :=
        map_eq_self.2 fun m hm => replaceCopy_of_not_hasId (by
          simpa using List.find?_eq_none.1 hfind m hm)
      rw [hfirst, herase, hsame, List.forall_mem_append,
        and_iff_right fun m hm => map_eq_self.1 hsame m hm, ← ih]
      simp
    | some m =>
      obtain ⟨hfirst, herase⟩ := listed_of_some entries hfind key
      rw [hfirst, herase, List.forall_mem_append, ← and_assoc, List.cons.injEq, Prod.mk.injEq,
        and_iff_right rfl, updateFirst_eq_map fun m hm => replaceCopy_of_not_hasId hm, hfind,
        replaceCopies_eq_self]

/-! ## The handlers -/

theorem updateRecalledMessage_kind (isGroup isGroup' : Bool) :
    updateRecalledMessage messageId isGroup entries =
      updateRecalledMessage messageId isGroup' entries := by
  induction entries with
  | nil => rfl
  | cons e entries ih =>
    unfold updateRecalledMessage
    rw [ih]

theorem handle_messages (h : r.IsOf messageId isGroup) :
    (c.handle r).messages = (updateRecalledMessage messageId isGroup c.messages).1 := by
  cases r with
  | notification body =>
    obtain ⟨hid, hkind⟩ := h
    show (c.handleMessageRecall body).messages = _
    unfold Recalls.handleMessageRecall
    rw [hid, hkind]
    rfl
  | response body =>
    obtain ⟨hcode, data, hdata, hsuccess, hid⟩ := h
    obtain ⟨code, hbody, hzero⟩ := Option.map_eq_some_iff.1 hcode
    show (c.handleMessageRecallResponse body).messages = _
    unfold Recalls.handleMessageRecallResponse Recalls.handleRecallData
    simp only [hbody, hzero, hdata, hsuccess, hid]
    exact congrArg Prod.fst (updateRecalledMessage_kind false isGroup)

/-- A notification or a response about a message replaces exactly its copies if and only if the
    search finds one of them first, and there is no other, except for what stays as it is. -/
theorem recalled_iff (h : r.IsOf messageId isGroup) :
    (c.handle r).messages = replaceCopies messageId isGroup c.messages ↔
      FoundRight messageId isGroup c.messages := by
  rw [handle_messages h]
  exact updateRecalledMessage_iff

/-- User 2 writes a private message, which has the number 5 as one in group 7 has. -/
def twoFives : Recalls :=
  ⟨[(2, [⟨5, 2, 1, 0, 0, "hello", "", "", 1, 7⟩]), (-7, [⟨5, 3, 0, 7, 0, "hi all", "", "", 1, 8⟩])],
    false, none, []⟩

def recallNotification (messageId : Int) (isGroup : Bool) : Recall :=
  .notification (.object [("message_id", .number messageId), ("is_group", .bool isGroup)])

/-- The private message is recalled. -/
theorem recalled_iff_private : (twoFives.handle (recallNotification 5 false)).messages =
    replaceCopies 5 false twoFives.messages :=
  (recalled_iff (by exact ⟨rfl, rfl⟩)).2 (by decide)

/-- The message in the group is recalled, and the private one is replaced. -/
theorem private_replaced : ¬ ∀ (c : Recalls) (r : Recall) messageId isGroup,
    r.IsOf messageId isGroup →
    (c.handle r).messages = replaceCopies messageId isGroup c.messages := by
  intro h
  have hreplaced := h twoFives (recallNotification 5 true) 5 true ⟨rfl, rfl⟩
  revert hreplaced
  decide

end ChatApp.Client
