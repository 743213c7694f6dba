/-
  `MessageDatabase`: the messages of a chat are a list under one key. `saveMessage` takes the key
  from the message, the receiver for a private one; `saveMessages` and `getMessages` are given the
  other side of the chat. So a private message that is received is saved where no one looks for it.

  The boxes are open, and `jsonDecode` reads the values that `jsonEncode` has written.
-/
import ChatApp.Client.PrivateMessages
import ChatApp.Lib.Lists
import ChatApp.Lib.Text

namespace ChatApp.Client

open ChatApp.Lib ChatApp.Protocol

/-! ## Messages as JSON -/

/-- `_$MessageToJson` -/
def Message.toJson (m : Message) : Json := .object [
  ("message_id", .number m.messageId),
  ("sender_id", .number m.senderId),
  ("receiver_id", .number m.receiverId),
  ("group_id", .number m.groupId),
  ("media_type", .number m.mediaType),
  ("content", .string m.content),
  ("media_url", .string m.mediaUrl),
  ("extra", .string m.extra),
  ("status", .number m.status),
  ("created_at", .number m.createdAt)]

/-- An `int` has 64 bits. -/
def fitsInt (n : Int) : Prop := -2 ^ 63 ≤ n ∧ n < 2 ^ 63

instance (n : Int) : Decidable (fitsInt n) := inferInstanceAs (Decidable (_ ∧ _))

def Message.Fits (m : Message) : Prop :=
  ∀ n ∈ [m.messageId, m.senderId, m.receiverId, m.groupId, m.mediaType, m.status, m.createdAt],
    fitsInt n

instance (m : Message) : Decidable m.Fits := inferInstanceAs (Decidable (∀ n ∈ _, _))

theorem asInt_number {n : Int} (h : fitsInt n) : asInt (some (.number n)) = some n := if_pos h

theorem asInt_fits {x : Option Json} {n : Int} (h : asInt x = some n) : fitsInt n := by
  unfold asInt at h
  split at h
  · exact Option.some.inj h ▸ ⟨by decide, by decide⟩
  · exact Option.some.inj h ▸ ⟨by decide, by decide⟩
  · split at h
    next hn => exact Option.some.inj h ▸ hn
    next => exact absurd h.symm (Option.some_ne_none n)
  · exact absurd h.symm (Option.some_ne_none n)

theorem fromJson_toJson {m : Message} (h : m.Fits) : Message.fromJson m.toJson = some m := by
  simp only [Message.Fits, List.forall_mem_cons] at h
  obtain ⟨hid, hsender, hreceiver, hgroup, hmedia, hstatus, htime, -⟩ := h
  have hfind : m.toJson.find? "message_id" = some (.number m.messageId) ∧
      m.toJson.find? "sender_id" = some (.number m.senderId) ∧
      m.toJson.find? "receiver_id" = some (.number m.receiverId) ∧
      m.toJson.find? "group_id" = some (.number m.groupId) ∧
      m.toJson.find? "media_type" = some (.number m.mediaType) ∧
      m.toJson.find? "content" = some (.string m.content) ∧
      m.toJson.find? "media_url" = some (.string m.mediaUrl) ∧
      m.toJson.find? "extra" = some (.string m.extra) ∧
      m.toJson.find? "status" = some (.number m.status) ∧
      m.toJson.find? "created_at" = some (.number m.createdAt) :=
    ⟨rfl, rfl, rfl, rfl, rfl, rfl, rfl, rfl, rfl, rfl⟩
  simp only [Message.fromJson, hfind, isNull, asString, asInt_number, hid, hsender, hreceiver,
    hgroup, hmedia, hstatus, htime]
  rfl

/-- A decoded message has the numbers of an `int`. -/
theorem fits_fromJson {json : Json} {m : Message} (h : Message.fromJson json = some m) :
    m.Fits := by
  unfold Message.fromJson at h
  by_cases hnull : isNull (json.find? "sender_id") = true
  · simp [hnull] at h
  simp only [hnull, Bool.false_eq_true, if_false, Option.bind_eq_bind, Option.bind_eq_some_iff,
    Option.pure_def, Option.some.injEq] at h
  obtain ⟨_, hid, _, hsender, _, hreceiver, _, hgroup, _, hmedia, _, -, _, -, _, -, _, hstatus, _,
    htime, rfl⟩ := h
  intro n hn
  simp only [List.mem_cons, List.not_mem_nil, or_false] at hn
  rcases hn with rfl | rfl | rfl | rfl | rfl | rfl | rfl
  · exact asInt_fits hid
  · exact asInt_fits hsender
  · exact asInt_fits hreceiver
  · exact asInt_fits hgroup
  · exact asInt_fits hmedia
  · exact asInt_fits hstatus
  · exact asInt_fits htime

/-! ## The store -/

/-- `_getMessageKey` -/
def getMessageKey (peerId : Int) (isGroup : Bool) : String :=
  if isGroup then "g_" ++ toString peerId else "p_" ++ toString peerId

/-- `_messagesBox` -/
abbrev Box := String → Option Json

def Box.put (box : Box) (key : String) (messages : List Message) : Box :=
  Function.update box key (some (.array (messages.map Message.toJson)))

/-- A list that cannot be decoded is empty. -/
def getMessages (box : Box) (peerId : Int) (isGroup : Bool) : List Message :=
  match box (getMessageKey peerId isGroup) with
  | some (.array jsonList) => (jsonList.mapM Message.fromJson).getD []
  | _ => []

/-- `a.createdAt.compareTo(b.createdAt)` is not positive. -/
def Message.NotAfter (a b : Message) : Prop := a.createdAt ≤ b.createdAt

instance (a b : Message) : Decidable (a.NotAfter b) := inferInstanceAs (Decidable (_ ≤ _))

instance : Std.Total Message.NotAfter := ⟨fun a b => Int.le_total a.createdAt b.createdAt⟩

instance : IsTrans Message Message.NotAfter := ⟨fun _ _ _ => Int.le_trans⟩

/-- The list with the message, in `saveMessage`. -/
def withMessage (messages : List Message) (message : Message) : List Message :=
  let existing := fun m => decide (m.messageId = message.messageId ∧ 0 < message.messageId)
  if messages.any existing then updateFirst existing (fun _ => message) messages
  else messages ++ [message]

/-- One round of the loop in `saveMessages`, on the list and the set of its ids. -/
def addMessage (x : List Message × List Int) (message : Message) : List Message × List Int :=
  if message.messageId ∈ x.2 then x else (x.1 ++ [message], message.messageId :: x.2)

/-- The list with the messages, in `saveMessages`. -/
def withMessages (existingMessages messages : List Message) : List Message :=
  (messages.foldl addMessage (existingMessages, existingMessages.map (·.messageId))).1

/-- A call of `saveMessage` or `saveMessages`. -/
inductive Save
  | message (m : Message)
  | batch (peerId : Int) (isGroup : Bool) (ms : List Message)

namespace Save

def messages : Save → List Message
  | message m => [m]
  | batch _ _ ms => ms

/-- The arguments of `_getMessageKey` -/
def target : Save → Int × Bool
  | message m => (if 0 < m.groupId then m.groupId else m.receiverId, decide (0 < m.groupId))
  | batch peerId isGroup _ => (peerId, isGroup)

def key (save : Save) : String := getMessageKey save.target.1 save.target.2

/-- What is there when the call reads. -/
def existing (save : Save) (box : Box) : List Message :=
  getMessages box save.target.1 save.target.2

def merge (existingMessages : List Message) : Save → List Message
  | message m => withMessage existingMessages m
  | batch _ _ ms => withMessages existingMessages ms

def write (sorting : Sorting Message.NotAfter) (box : Box) (existingMessages : List Message)
    (save : Save) : Box :=
  box.put save.key (sorting.sort (save.merge existingMessages))

/-- A call that nothing comes between. -/
def apply (sorting : Sorting Message.NotAfter) (box : Box) (save : Save) : Box :=
  save.write sorting box (save.existing box)

end Save

variable {box : Box} {ms xs : List Message} {m x : Message} {save : Save} {p q : Int} {g h : Bool}
variable {sorting : Sorting Message.NotAfter}

/-! ## Keys and values -/

theorem getMessageKey_inj : getMessageKey p g = getMessageKey q h ↔ p = q ∧ g = h := by
  refine ⟨fun heq => ?_, by rintro ⟨rfl, rfl⟩; rfl⟩
  have hlist := congrArg String.toList heq
  unfold getMessageKey at hlist
  cases g <;> cases h <;>
    simp only [Bool.false_eq_true, if_true, if_false, String.toList_append] at hlist
  · exact ⟨Text.toString_int_inj.1 (String.toList_inj.1 (List.append_cancel_left hlist)), rfl⟩
  · exact absurd (congrArg List.head? hlist) (by simp)
  · exact absurd (congrArg List.head? hlist) (by simp)
  · exact ⟨Text.toString_int_inj.1 (String.toList_inj.1 (List.append_cancel_left hlist)), rfl⟩

theorem mapM_fromJson (h : ∀ m ∈ ms, m.Fits) :
    (ms.map Message.toJson).mapM Message.fromJson = some ms := by
  induction ms with
  | nil => rfl
  | cons m ms ih =>
    have hms := ih fun x hx => h x (List.mem_cons_of_mem m hx)
    rw [List.map_cons, List.mapM_cons, fromJson_toJson (h m List.mem_cons_self), hms]
    rfl

theorem getMessages_put (hfits : ∀ m ∈ ms, m.Fits) :
    getMessages (box.put (getMessageKey p g) ms) p g = ms := by
  simp [getMessages, Box.put, mapM_fromJson hfits]

theorem getMessages_put_of_ne (hne : ¬ (p = q ∧ g = h)) :
    getMessages (box.put (getMessageKey p g) ms) q h = getMessages box q h := by
  have hkey : getMessageKey q h ≠ getMessageKey p g := fun heq =>
    hne (getMessageKey_inj.1 heq.symm)
  simp [getMessages, Box.put, hkey]

theorem fits_mapM {jsonList : List Json} (h : jsonList.mapM Message.fromJson = some ms) :
    ∀ m ∈ ms, m.Fits := by
  induction jsonList generalizing ms with
  | nil =>
    obtain rfl := Option.some.inj h
    exact fun m hm => absurd hm List.not_mem_nil
  | cons json jsonList ih =>
    simp only [List.mapM_cons, Option.bind_eq_bind, Option.bind_eq_some_iff, Option.pure_def,
      Option.some.injEq] at h
    obtain ⟨m, hm, ms, hms, rfl⟩ := h
    exact List.forall_mem_cons.2 ⟨fits_fromJson hm, ih hms⟩

theorem fits_getMessages : ∀ m ∈ getMessages box p g, m.Fits := by
  unfold getMessages
  split
  next jsonList _ =>
    cases hms : jsonList.mapM Message.fromJson with
    | none => exact fun m hm => absurd hm List.not_mem_nil
    | some ms => exact fits_mapM hms
  next => exact fun m hm => absurd hm List.not_mem_nil

/-! ## Merging -/

/-- The positive ids of a list. -/
def Has (ms : List Message) (id : Int) : Prop := 0 < id ∧ ∃ m ∈ ms, m.messageId = id

theorem has_iff_mem_map {id : Int} : Has ms id ↔ 0 < id ∧ id ∈ ms.map (·.messageId) := by
  simp [Has]

theorem mem_withMessage (h : x ∈ withMessage ms m) : x ∈ ms ∨ x = m := by
  unfold withMessage at h
  dsimp only at h
  split at h
  · exact (mem_updateFirst h).imp_right fun ⟨_, _, hx⟩ => hx
  · simpa using h

theorem has_withMessage {id : Int} : Has (withMessage ms m) id ↔ Has ms id ∨ Has [m] id := by
  rw [has_iff_mem_map, has_iff_mem_map, has_iff_mem_map, ← and_or_left]
  refine and_congr_right fun hid => ?_
  unfold withMessage
  dsimp only
  split
  next hany =>
    obtain ⟨x, hx, hsame⟩ := List.any_eq_true.1 hany
    have hmem : m.messageId ∈ ms.map (·.messageId) :=
      (of_decide_eq_true hsame).1 ▸ List.mem_map_of_mem hx
    rw [map_updateFirst fun y hy => (of_decide_eq_true hy).1.symm]
    refine ⟨.inl, fun hor => hor.elim (fun hleft => hleft) fun hright => ?_⟩
    exact List.mem_singleton.1 hright ▸ hmem
  next => simp

/-- The loop of `saveMessages` keeps the set of ids. -/
theorem foldl_addMessage (acc : List Message × List Int)
    (hacc : ∀ id, id ∈ acc.2 ↔ id ∈ acc.1.map (·.messageId)) :
    (∀ x ∈ (xs.foldl addMessage acc).1, x ∈ acc.1 ∨ x ∈ xs) ∧
    ∀ id, id ∈ (xs.foldl addMessage acc).1.map (·.messageId) ↔
      id ∈ acc.1.map (·.messageId) ∨ id ∈ xs.map (·.messageId) := by
  induction xs generalizing acc with
  | nil => exact ⟨fun x hx => .inl hx, fun id => by simp⟩
  | cons m xs ih =>
    rw [List.foldl_cons]
    by_cases hm : m.messageId ∈ acc.2
    · have hadd : addMessage acc m = acc := if_pos hm
      rw [hadd]
      obtain ⟨hmem, hids⟩ := ih acc hacc
      refine ⟨fun x hx => (hmem x hx).imp_right (List.mem_cons_of_mem m), fun id => ?_⟩
      rw [hids, List.map_cons, List.mem_cons]
      have hthere : id = m.messageId → id ∈ acc.1.map (·.messageId) := by
        rintro rfl
        exact (hacc _).1 hm
      tauto
    · have hadd : addMessage acc m = (acc.1 ++ [m], m.messageId :: acc.2) := if_neg hm
      rw [hadd]
      obtain ⟨hmem, hids⟩ := ih (acc.1 ++ [m], m.messageId :: acc.2) fun id => by
        simp only [List.map_append, List.mem_append, List.mem_cons, hacc, List.map_cons,
          List.map_nil, List.not_mem_nil, or_false]
        exact or_comm
      refine ⟨fun x hx => ?_, fun id => ?_⟩
      · have hx' := hmem x hx
        simp only [List.mem_append, List.mem_singleton] at hx'
        rcases hx' with (hx' | rfl) | hx'
        · exact .inl hx'
        · exact .inr List.mem_cons_self
        · exact .inr (List.mem_cons_of_mem m hx')
      · rw [hids]
        simp [or_assoc]

theorem mem_merge (h : x ∈ save.merge ms) : x ∈ ms ∨ x ∈ save.messages := by
  cases save with
  | message m => exact (mem_withMessage h).imp_right List.mem_singleton.2
  | batch peerId isGroup xs => exact (foldl_addMessage _ fun _ => Iff.rfl).1 x h

/-- A call adds the positive ids of its messages, and loses none of those it has read. -/
theorem has_merge {id : Int} : Has (save.merge ms) id ↔ Has ms id ∨ Has save.messages id := by
  cases save with
  | message m => exact has_withMessage
  | batch peerId isGroup xs =>
    rw [has_iff_mem_map, has_iff_mem_map, has_iff_mem_map, ← and_or_left]
    exact and_congr_right fun _ => (foldl_addMessage _ fun _ => Iff.rfl).2 id

/-! ## Writing -/

def Save.Fits (save : Save) : Prop := ∀ m ∈ save.messages, m.Fits

instance (save : Save) : Decidable save.Fits := inferInstanceAs (Decidable (∀ m ∈ _, _))

theorem fits_merge (hms : ∀ m ∈ ms, m.Fits) (hsave : save.Fits) :
    ∀ m ∈ sorting.sort (save.merge ms), m.Fits := by
  intro m hm
  rcases mem_merge (sorting.mem_sort.1 hm) with hm | hm
  · exact hms m hm
  · exact hsave m hm

theorem getMessages_write (hms : ∀ m ∈ ms, m.Fits) (hsave : save.Fits) :
    getMessages (save.write sorting box ms) p g =
      if save.target = (p, g) then sorting.sort (save.merge ms) else getMessages box p g := by
  unfold Save.write Save.key
  split
  next heq =>
    obtain ⟨rfl, rfl⟩ := Prod.mk.inj heq
    exact getMessages_put (fits_merge hms hsave)
  next hne =>
    refine getMessages_put_of_ne fun heq => hne ?_
    exact Prod.ext heq.1 heq.2

theorem has_sort {id : Int} : Has (sorting.sort ms) id ↔ Has ms id := by
  simp [Has]

end ChatApp.Client
