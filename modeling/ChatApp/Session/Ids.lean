/-
  The ids in a request. Most handlers read an id with `body.value(key, 0)`, whose default makes it
  an `int`, and widen it to a `uint64_t` (`narrow`); the later ones have the default 0ULL. An id
  is passed if the program of the handler begins with the operation on this very id (`Passes`).

  `passes_iff` says which ids are passed whoever asks. For the other direction a program is run
  against a database that finds what it is asked for (`obliging`): the first statements name the
  ids that an operation was given.
-/
import ChatApp.Session.Bodies
import ChatApp.Session.Receipts

namespace ChatApp.Session

open ChatApp.Lib ChatApp.Lib.Prog ChatApp.Database ChatApp.Protocol

/-- The ids that are read as an `int`. -/
def intIds : MessageType → List String
  | .userInfo => ["user_id"]
  | .friendAdd | .friendAccept | .friendReject | .friendRemove | .friendRemark => ["friend_id"]
  | .privateMessage => ["receiver_id"]
  | .privateHistory => ["peer_id"]
  | .groupJoin | .groupLeave | .groupDismiss | .groupInfo | .groupMembers | .groupMessage
  | .groupHistory => ["group_id"]
  | .groupAddMember | .groupRemoveMember | .groupSetAdmin => ["group_id", "user_id"]
  | .groupTransferOwner => ["group_id", "new_owner_id"]
  | _ => []

/-- The ids that are read as a `uint64_t`. -/
def wideIds : MessageType → List String
  | .keyRequest => ["user_id"]
  | .encryptedMessage => ["receiver_id"]
  | .messageRecall => ["message_id", "group_id"]
  | .favoriteAdd => ["message_id", "sender_id"]
  | .favoriteRemove => ["message_id"]
  | _ => []

-- the equations are made here, before the proofs that rewrite with them
attribute [local grind =] intIds wideIds

/-- The ids that must not be 0: all but the group of a recall and the sender of a favorite. -/
def required (type : MessageType) : List String := intIds type ++ (wideIds type).take 1

/-- The texts that the handler insists on. -/
def Complete (type : MessageType) (body : Json) : Prop :=
  match type with
  | .encryptedMessage => ∀ key ∈ ["encrypted_key", "encrypted_content"],
      body.valueString key "" ≠ .ok ""
  | .favoriteAdd => body.valueString "message_type" "" = .ok "private" ∨
      body.valueString "message_type" "" = .ok "group"
  | .favoriteRemove => body.valueString "message_type" "" ≠ .ok ""
  | _ => True

/-- A request whose body the handler accepts, with the ids it reads. -/
structure Decoded (type : MessageType) (body : Json) (ids : String → Nat) : Prop where
  int : ∀ key ∈ intIds type, body.valueId key = .ok (ids key)
  wide : ∀ key ∈ wideIds type, body.valueUInt64 key = .ok (ids key)
  required : ∀ key ∈ required type, ids key ≠ 0
  readable : bodyReadable type body = true
  complete : Complete type body

/-- The ids that the body of such a request names. -/
structure Named (type : MessageType) (body : Json) (ids : String → UInt64) : Prop where
  numbers : ∀ key ∈ intIds type ++ wideIds type, number body key = .ok (ids key).toNat
  required : ∀ key ∈ required type, (ids key).toNat ≠ 0
  readable : bodyReadable type body = true
  complete : Complete type body

/-! ## What a handler does with them -/

/-- The first thing that `p` does is `q`. -/
def Begins {α : Type} (p : SessionM Unit) (q : SessionM α) : Prop :=
  ∃ f : α → SessionM Unit, p = q >>= f

/-- The handler calls its manager, or the database, with the ids. -/
def Passes (s : Session) (sequence : UInt32) (type : MessageType) (ids : String → Nat)
    (p : SessionM Unit) : Prop :=
  match type with
  | .userInfo => Begins p (db (getUserById (ids "user_id")))
  | .friendAdd => Begins p (db (Friends.FriendManager.addFriendRequest s.userId (ids "friend_id")))
  | .friendAccept =>
    Begins p (db (Friends.FriendManager.acceptFriendRequest s.userId (ids "friend_id")))
  | .friendReject =>
    Begins p (db (Friends.FriendManager.rejectFriendRequest s.userId (ids "friend_id")))
  | .friendRemove => Begins p (db (Friends.FriendManager.removeFriend s.userId (ids "friend_id")))
  | .friendRemark => ∃ remark,
    Begins p (db (Friends.FriendManager.setFriendRemark s.userId (ids "friend_id") remark))
  | .privateMessage => ∃ content mediaType mediaUrl extra, Begins p
    (MessageManager.sendPrivateMessage s.userId (ids "receiver_id") content mediaType
      mediaUrl extra)
  | .privateHistory => ∃ beforeTime limit,
    Begins p (MessageManager.getPrivateHistory s.userId (ids "peer_id") beforeTime limit)
  | .groupJoin => Begins p (GroupManager.joinGroup (ids "group_id") s.userId)
  | .groupLeave => Begins p (GroupManager.leaveGroup (ids "group_id") s.userId)
  | .groupDismiss => Begins p (GroupManager.dismissGroup s.userId (ids "group_id"))
  | .groupInfo => Begins p (db (getGroupById (ids "group_id")))
  | .groupMembers => Begins p (GroupManager.getGroupMembers (ids "group_id"))
  | .groupAddMember => Begins p (GroupManager.joinGroup (ids "group_id") (ids "user_id"))
  | .groupRemoveMember =>
    Begins p (GroupManager.removeMember s.userId (ids "group_id") (ids "user_id"))
  | .groupSetAdmin => ∃ isAdmin,
    Begins p (GroupManager.setAdmin s.userId (ids "group_id") (ids "user_id") isAdmin)
  | .groupTransferOwner =>
    Begins p (GroupManager.transferOwner s.userId (ids "group_id") (ids "new_owner_id"))
  | .groupMessage => ∃ content mediaType mediaUrl extra, Begins p
    (MessageManager.sendGroupMessage s.userId (ids "group_id") content mediaType mediaUrl extra)
  | .groupHistory => ∃ beforeTime limit,
    Begins p (MessageManager.getGroupHistory (ids "group_id") beforeTime limit)
  | .keyRequest => Begins p (db (getUserPublicKey (ids "user_id")))
  | .encryptedMessage => ∃ message : Message → Int → Message,
    (∀ blank createdAt, (message blank createdAt).receiverId = ids "receiver_id") ∧
    Begins p (do
      let blank ← request .uninitialisedMessage
      let createdAt ← request .systemClock
      let saved ← db (savePrivateMessage (message blank createdAt))
      return (message blank createdAt, saved))
  | .messageRecall => ∃ isGroup : Bool, Begins p
    (if isGroup then Session.recallGroup s sequence (ids "message_id") (ids "group_id")
      else Session.recallPrivate s sequence (ids "message_id"))
  | .favoriteAdd => ∃ messageType content mediaType mediaUrl, Begins p
    (db (addFavorite s.userId (ids "message_id") messageType (ids "sender_id") content mediaType
      mediaUrl))
  | .favoriteRemove => ∃ messageType,
    Begins p (db (removeFavorite s.userId (ids "message_id") messageType))
  | _ => True

section
variable {s : Session} {sequence : UInt32} {body : Json} {type : MessageType} {ids : String → Nat}

theorem ok_of_toBool {α : Type} {x : Except JsonError α} (h : x.toBool = true) :
    ∃ a, x = .ok a := by
  cases x with
  | ok a => exact ⟨a, rfl⟩
  | error e => cases h

section
variable (hreadable : bodyReadable type body = true)
include hreadable

theorem reads_of_readable {field : String × Kind} (hfield : field ∈ fields type) :
    reads body field = true :=
  List.all_eq_true.1 (Bool.and_eq_true_iff.1 hreadable).1 field hfield

theorem text_of_readable (key : String) (hkey : (key, .text) ∈ fields type) :
    ∃ text, body.valueString key "" = .ok text :=
  ok_of_toBool (by rw [toBool_valueString, reads_of_readable hreadable hkey])

theorem flag_of_readable (key : String) (default : Bool) (hkey : (key, .boolean) ∈ fields type) :
    ∃ b, body.valueBool key default = .ok b :=
  ok_of_toBool (by rw [toBool_valueBool, reads_of_readable hreadable hkey])

theorem int_of_readable (key : String) (default : Int) (hkey : (key, .number) ∈ fields type) :
    ∃ n, body.valueInt key default = .ok n :=
  ok_of_toBool (by rw [toBool_valueInt, reads_of_readable hreadable hkey])

/-- What the two handlers of a message read besides the id -/
theorem message_of_readable (htype : type = .privateMessage ∨ type = .groupMessage) :
    ∃ content mediaType mediaUrl extra, body.valueString "content" "" = .ok content ∧
      body.valueInt "media_type" 0 = .ok mediaType ∧
      body.valueString "media_url" "" = .ok mediaUrl ∧ body.valueString "extra" "" = .ok extra := by
  have hfields : ∀ field ∈ [("content", Kind.text), ("media_type", .number), ("media_url", .text),
      ("extra", .text)], field ∈ fields type := by
    rcases htype with rfl | rfl <;> exact fun _ => List.mem_cons_of_mem _
  obtain ⟨content, hcontent⟩ := text_of_readable hreadable "content" (hfields _ (by simp))
  obtain ⟨mediaType, hmediaType⟩ := int_of_readable hreadable "media_type" 0 (hfields _ (by simp))
  obtain ⟨mediaUrl, hmediaUrl⟩ := text_of_readable hreadable "media_url" (hfields _ (by simp))
  obtain ⟨extra, hextra⟩ := text_of_readable hreadable "extra" (hfields _ (by simp))
  exact ⟨content, mediaType, mediaUrl, extra, hcontent, hmediaType, hmediaUrl, hextra⟩

/-- What the two handlers of a history read besides the id -/
theorem history_of_readable (htype : type = .privateHistory ∨ type = .groupHistory) :
    ∃ beforeTime limit, body.valueInt "before_time" 0 = .ok beforeTime ∧
      body.valueInt "limit" 50 = .ok limit := by
  have hfields : ∀ field ∈ [("before_time", Kind.number), ("limit", .number)],
      field ∈ fields type := by
    rcases htype with rfl | rfl <;> exact fun _ => List.mem_cons_of_mem _
  obtain ⟨beforeTime, hbeforeTime⟩ :=
    int_of_readable hreadable "before_time" 0 (hfields _ (by simp))
  obtain ⟨limit, hlimit⟩ := int_of_readable hreadable "limit" 50 (hfields _ (by simp))
  exact ⟨beforeTime, limit, hbeforeTime, hlimit⟩

end

/-- A request with one id that is read as an `int` -/
theorem Decoded.one {key : String} (h : Decoded type body ids) (htype : intIds type = [key]) :
    body.valueId key = .ok (ids key) ∧ ids key ≠ 0 := by
  have hkey : key ∈ intIds type := by
    rw [htype]
    exact List.mem_singleton_self key
  exact ⟨h.int key hkey, h.required key (List.mem_append_left _ hkey)⟩

/-- A request with two -/
theorem Decoded.two {key other : String} (h : Decoded type body ids)
    (htype : intIds type = [key, other]) : body.valueId key = .ok (ids key) ∧
      body.valueId other = .ok (ids other) ∧ ¬ (ids key = 0 || ids other = 0) = true := by
  have hkey : key ∈ intIds type := by
    rw [htype]
    exact List.mem_cons_self
  have hother : other ∈ intIds type := by
    rw [htype]
    exact List.mem_cons_of_mem _ List.mem_cons_self
  refine ⟨h.int key hkey, h.int other hother, ?_⟩
  simp [h.required key (List.mem_append_left _ hkey),
    h.required other (List.mem_append_left _ hother)]

/-- A handler that answers with an error if an id is missing, and else begins with `q`. -/
def Asks {α : Type} (s : Session) (sequence : UInt32) (p : SessionM Unit) (missing : Prop)
    [Decidable missing] (q : SessionM α) : Prop :=
  ∃ message f, p = if missing then s.sendError sequence 400 message else q >>= f

section
variable {α : Type} {p : SessionM Unit} {missing : Prop} [Decidable missing] {q : SessionM α}

theorem Asks.begins (h : Asks s sequence p missing q) (hthere : ¬ missing) : Begins p q := by
  obtain ⟨message, f, rfl⟩ := h
  rw [if_neg hthere]
  exact ⟨f, rfl⟩

theorem Asks.refuses (h : Asks s sequence p missing q) (hmissing : missing) :
    ∃ message, p = s.sendError sequence 400 message := by
  obtain ⟨message, f, rfl⟩ := h
  exact ⟨message, if_pos hmissing⟩

end

theorem authenticatedOnly_eq (hs : s.authenticated = true) (handler : SessionM Unit) :
    s.authenticatedOnly sequence handler = handler := if_pos hs

theorem either_zero {a b key : String} (hkey : key ∈ [a, b]) (hzero : ids key = 0) :
    (ids a = 0 || ids b = 0) = true := by
  rcases List.mem_pair.1 hkey with rfl | rfl
  · simp [hzero]
  · simp [hzero]

section
variable {id other : Nat} (hs : s.authenticated = true)
include hs

theorem asks_friendAction (hid : body.valueId "friend_id" = .ok id)
    (operation : Nat → SessionM (Except String Unit)) (response : MessageType)
    (after : Nat → SessionM Unit) :
    Asks s sequence (s.friendAction sequence body operation response after) (id = 0)
      (operation id) := by
  rw [Session.friendAction, authenticatedOnly_eq hs, read_bind hid]
  exact ⟨_, _, rfl⟩

theorem asks_groupAction (hid : body.valueId "group_id" = .ok id)
    (operation : Nat → SessionM (Except String Unit)) (response : MessageType) :
    Asks s sequence (s.groupAction sequence body operation response) (id = 0) (operation id) := by
  rw [Session.groupAction, authenticatedOnly_eq hs, read_bind hid]
  exact ⟨_, _, rfl⟩

theorem asks_friendRemark (hid : body.valueId "friend_id" = .ok id)
    (hreadable : bodyReadable .friendRemark body = true) : ∃ remark,
    Asks s sequence (s.handleFriendRemark sequence body) (id = 0)
      (db (Friends.FriendManager.setFriendRemark s.userId id remark)) := by
  obtain ⟨remark, hremark⟩ := text_of_readable hreadable "remark" (by simp [fields])
  rw [Session.handleFriendRemark, authenticatedOnly_eq hs, read_bind hid, read_bind hremark]
  exact ⟨remark, _, _, rfl⟩

theorem asks_privateMessage (hid : body.valueId "receiver_id" = .ok id)
    (hreadable : bodyReadable .privateMessage body = true) :
    ∃ content mediaType mediaUrl extra,
    Asks s sequence (s.handlePrivateMessage sequence body) (id = 0)
      (MessageManager.sendPrivateMessage s.userId id content mediaType mediaUrl extra) := by
  obtain ⟨content, mediaType, mediaUrl, extra, hcontent, hmediaType, hmediaUrl, hextra⟩ :=
    message_of_readable hreadable (.inl rfl)
  rw [Session.handlePrivateMessage, authenticatedOnly_eq hs, read_bind hid, read_bind hcontent,
    read_bind hmediaType, read_bind hmediaUrl, read_bind hextra]
  exact ⟨content, Session.toMediaType mediaType, mediaUrl, extra, _, _, rfl⟩

theorem asks_privateHistory (hid : body.valueId "peer_id" = .ok id)
    (hreadable : bodyReadable .privateHistory body = true) : ∃ beforeTime limit,
    Asks s sequence (s.handlePrivateHistory sequence body) (id = 0)
      (MessageManager.getPrivateHistory s.userId id beforeTime limit) := by
  obtain ⟨beforeTime, limit, hbeforeTime, hlimit⟩ :=
    history_of_readable hreadable (.inl rfl)
  rw [Session.handlePrivateHistory, authenticatedOnly_eq hs, read_bind hid, read_bind hbeforeTime,
    read_bind hlimit]
  exact ⟨beforeTime, limit, _, _, rfl⟩

omit hs in
theorem asks_groupInfo (hid : body.valueId "group_id" = .ok id) :
    Asks s sequence (s.handleGroupInfo sequence body) (id = 0) (db (getGroupById id)) := by
  rw [Session.handleGroupInfo, read_bind hid]
  exact ⟨_, _, rfl⟩

omit hs in
theorem asks_groupMembers (hid : body.valueId "group_id" = .ok id) :
    Asks s sequence (s.handleGroupMembers sequence body) (id = 0)
      (GroupManager.getGroupMembers id) := by
  rw [Session.handleGroupMembers, read_bind hid]
  exact ⟨_, _, rfl⟩

theorem asks_groupAddMember (hid : body.valueId "group_id" = .ok id)
    (hother : body.valueId "user_id" = .ok other) :
    Asks s sequence (s.handleGroupAddMember sequence body) ((id = 0 || other = 0) = true)
      (GroupManager.joinGroup id other) := by
  rw [Session.handleGroupAddMember, authenticatedOnly_eq hs, read_bind hid, read_bind hother]
  exact ⟨_, _, rfl⟩

theorem asks_groupRemoveMember (hid : body.valueId "group_id" = .ok id)
    (hother : body.valueId "user_id" = .ok other) :
    Asks s sequence (s.handleGroupRemoveMember sequence body) ((id = 0 || other = 0) = true)
      (GroupManager.removeMember s.userId id other) := by
  rw [Session.handleGroupRemoveMember, authenticatedOnly_eq hs, read_bind hid, read_bind hother]
  exact ⟨_, _, rfl⟩

theorem asks_groupSetAdmin (hid : body.valueId "group_id" = .ok id)
    (hother : body.valueId "user_id" = .ok other)
    (hreadable : bodyReadable .groupSetAdmin body = true) : ∃ isAdmin,
    Asks s sequence (s.handleGroupSetAdmin sequence body) ((id = 0 || other = 0) = true)
      (GroupManager.setAdmin s.userId id other isAdmin) := by
  obtain ⟨isAdmin, hisAdmin⟩ := flag_of_readable hreadable "is_admin" true (by simp [fields])
  rw [Session.handleGroupSetAdmin, authenticatedOnly_eq hs, read_bind hid, read_bind hother,
    read_bind hisAdmin]
  exact ⟨isAdmin, _, _, rfl⟩

theorem asks_groupTransferOwner (hid : body.valueId "group_id" = .ok id)
    (hother : body.valueId "new_owner_id" = .ok other) :
    Asks s sequence (s.handleGroupTransferOwner sequence body) ((id = 0 || other = 0) = true)
      (GroupManager.transferOwner s.userId id other) := by
  rw [Session.handleGroupTransferOwner, authenticatedOnly_eq hs, read_bind hid, read_bind hother]
  exact ⟨_, _, rfl⟩

theorem asks_groupMessage (hid : body.valueId "group_id" = .ok id)
    (hreadable : bodyReadable .groupMessage body = true) :
    ∃ content mediaType mediaUrl extra,
    Asks s sequence (s.handleGroupMessage sequence body) (id = 0)
      (MessageManager.sendGroupMessage s.userId id content mediaType mediaUrl extra) := by
  obtain ⟨content, mediaType, mediaUrl, extra, hcontent, hmediaType, hmediaUrl, hextra⟩ :=
    message_of_readable hreadable (.inr rfl)
  rw [Session.handleGroupMessage, authenticatedOnly_eq hs, read_bind hid, read_bind hcontent,
    read_bind hmediaType, read_bind hmediaUrl, read_bind hextra]
  exact ⟨content, Session.toMediaType mediaType, mediaUrl, extra, _, _, rfl⟩

theorem asks_groupHistory (hid : body.valueId "group_id" = .ok id)
    (hreadable : bodyReadable .groupHistory body = true) : ∃ beforeTime limit,
    Asks s sequence (s.handleGroupHistory sequence body) (id = 0)
      (MessageManager.getGroupHistory id beforeTime limit) := by
  obtain ⟨beforeTime, limit, hbeforeTime, hlimit⟩ :=
    history_of_readable hreadable (.inr rfl)
  rw [Session.handleGroupHistory, authenticatedOnly_eq hs, read_bind hid, read_bind hbeforeTime,
    read_bind hlimit]
  exact ⟨beforeTime, limit, _, _, rfl⟩

theorem asks_keyRequest (hid : body.valueUInt64 "user_id" = .ok id) :
    Asks s sequence (s.handleKeyRequest sequence body) (id = 0) (db (getUserPublicKey id)) := by
  rw [Session.handleKeyRequest, authenticatedOnly_eq hs, read_bind hid]
  exact ⟨_, _, rfl⟩

theorem passes_encryptedMessage (h : Decoded .encryptedMessage body ids) :
    Passes s sequence .encryptedMessage ids (s.handleEncryptedMessage sequence body) := by
  obtain ⟨encryptedKey, hkey⟩ := text_of_readable h.readable "encrypted_key" (by simp [fields])
  obtain ⟨encryptedContent, hcontent⟩ :=
    text_of_readable h.readable "encrypted_content" (by simp [fields])
  obtain ⟨iv, hiv⟩ := text_of_readable h.readable "iv" (by simp [fields])
  obtain ⟨mediaType, hmediaType⟩ := int_of_readable h.readable "media_type" 0 (by simp [fields])
  obtain ⟨mediaUrl, hmediaUrl⟩ := text_of_readable h.readable "media_url" (by simp [fields])
  have hkey' : encryptedKey ≠ "" := fun h0 => h.complete "encrypted_key" (by simp) (h0 ▸ hkey)
  have hcontent' : encryptedContent ≠ "" := fun h0 =>
    h.complete "encrypted_content" (by simp) (h0 ▸ hcontent)
  have hall : ¬ (ids "receiver_id" = 0 || encryptedKey.isEmpty || encryptedContent.isEmpty)
      = true := by
    simp [h.required "receiver_id" (by simp [required, intIds, wideIds]), hkey', hcontent']
  refine ⟨fun blank createdAt => {
    messageId := blank.messageId, senderId := s.userId, receiverId := ids "receiver_id",
    groupId := 0, mediaType := Session.toMediaType mediaType, content := "[加密消息]", mediaUrl,
    extra := Session.encryptedExtra encryptedKey encryptedContent iv, status := .sent, createdAt },
    fun _ _ => rfl, ?_⟩
  rw [Session.handleEncryptedMessage, authenticatedOnly_eq hs,
    read_bind (h.wide "receiver_id" (by simp [wideIds])), read_bind hkey, read_bind hcontent,
    read_bind hiv, read_bind hmediaType, read_bind hmediaUrl, if_neg hall]
  simp only [Begins, bind_assoc, pure_bind]
  exact ⟨fun x => do
    s.respond sequence .encryptedMessageResponse (messageJson (x.2.getD x.1))
    sendToUser (ids "receiver_id") ⟨.encryptedMessage, sequence, messageJson (x.2.getD x.1)⟩, rfl⟩

theorem passes_messageRecall (h : Decoded .messageRecall body ids) :
    Passes s sequence .messageRecall ids (s.handleMessageRecall sequence body) := by
  obtain ⟨isGroup, hisGroup⟩ := flag_of_readable h.readable "is_group" false (by simp [fields])
  refine ⟨isGroup, ?_⟩
  rw [Session.handleMessageRecall, authenticatedOnly_eq hs,
    read_bind (h.wide "message_id" (by simp [wideIds])), read_bind hisGroup,
    read_bind (h.wide "group_id" (by simp [wideIds])),
    if_neg (h.required "message_id" (by simp [required, intIds, wideIds]))]
  cases isGroup
  · exact ⟨_, rfl⟩
  · exact ⟨_, rfl⟩

theorem passes_favoriteAdd (h : Decoded .favoriteAdd body ids) :
    Passes s sequence .favoriteAdd ids (s.handleFavoriteAdd sequence body) := by
  obtain ⟨content, hcontent⟩ := text_of_readable h.readable "content" (by simp [fields])
  obtain ⟨mediaType, hmediaType⟩ := int_of_readable h.readable "media_type" 0 (by simp [fields])
  obtain ⟨mediaUrl, hmediaUrl⟩ := text_of_readable h.readable "media_url" (by simp [fields])
  obtain ⟨messageType, htype, hkind⟩ : ∃ messageType,
      body.valueString "message_type" "" = .ok messageType ∧
        (messageType = "private" ∨ messageType = "group") := by
    rcases h.complete with htype | htype
    · exact ⟨_, htype, .inl rfl⟩
    · exact ⟨_, htype, .inr rfl⟩
  have hid := h.required "message_id" (by simp [required, intIds, wideIds])
  have hthere : ¬ (ids "message_id" = 0 || messageType.isEmpty) = true := by
    rcases hkind with rfl | rfl <;> simp [hid]
  have hknown : ¬ (messageType ≠ "private" && messageType ≠ "group") = true := by
    rcases hkind with rfl | rfl <;> simp
  refine ⟨messageType, content, Session.toMediaType mediaType, mediaUrl, ?_⟩
  rw [Session.handleFavoriteAdd, authenticatedOnly_eq hs,
    read_bind (h.wide "message_id" (by simp [wideIds])), read_bind htype,
    read_bind (h.wide "sender_id" (by simp [wideIds])), read_bind hcontent, read_bind hmediaType,
    read_bind hmediaUrl, if_neg hthere, if_neg hknown]
  exact ⟨_, rfl⟩

theorem passes_favoriteRemove (h : Decoded .favoriteRemove body ids) :
    Passes s sequence .favoriteRemove ids (s.handleFavoriteRemove sequence body) := by
  obtain ⟨messageType, htype⟩ := text_of_readable h.readable "message_type" (by simp [fields])
  have hid := h.required "message_id" (by simp [required, intIds, wideIds])
  have hempty : messageType ≠ "" := fun h0 => h.complete (h0 ▸ htype)
  have hthere : ¬ (ids "message_id" = 0 || messageType.isEmpty) = true := by
    simp [hid, hempty]
  refine ⟨messageType, ?_⟩
  rw [Session.handleFavoriteRemove, authenticatedOnly_eq hs,
    read_bind (h.wide "message_id" (by simp [wideIds])), read_bind htype, if_neg hthere]
  exact ⟨_, rfl⟩

/-- The operation of every handler is called with the ids as they were read. -/
theorem passes_of_decoded (h : Decoded type body ids) :
    Passes s sequence type ids (s.handleMessage sequence body type.code) := by
  unfold Session.handleMessage
  rw [MessageType.ofCode_code]
  cases type with
  | userInfo =>
    obtain ⟨hread, hthere⟩ := h.one rfl
    show Passes s sequence .userInfo ids (s.handleUserInfo sequence body)
    rw [Session.handleUserInfo, read_bind hread, if_neg (by simp [hthere])]
    simp only [hthere, if_false]
    exact ⟨_, rfl⟩
  | friendAdd | friendAccept | friendReject | friendRemove =>
    obtain ⟨hread, hthere⟩ := h.one rfl
    exact (asks_friendAction hs hread _ _ _).begins hthere
  | groupJoin | groupLeave | groupDismiss =>
    obtain ⟨hread, hthere⟩ := h.one rfl
    exact (asks_groupAction hs hread _ _).begins hthere
  | friendRemark =>
    obtain ⟨hread, hthere⟩ := h.one rfl
    obtain ⟨remark, hasks⟩ := asks_friendRemark hs hread h.readable
    exact ⟨remark, hasks.begins hthere⟩
  | privateMessage =>
    obtain ⟨hread, hthere⟩ := h.one rfl
    obtain ⟨content, mediaType, mediaUrl, extra, hasks⟩ := asks_privateMessage hs hread h.readable
    exact ⟨content, mediaType, mediaUrl, extra, hasks.begins hthere⟩
  | privateHistory =>
    obtain ⟨hread, hthere⟩ := h.one rfl
    obtain ⟨beforeTime, limit, hasks⟩ := asks_privateHistory hs hread h.readable
    exact ⟨beforeTime, limit, hasks.begins hthere⟩
  | groupInfo =>
    obtain ⟨hread, hthere⟩ := h.one rfl
    exact (asks_groupInfo hread).begins hthere
  | groupMembers =>
    obtain ⟨hread, hthere⟩ := h.one rfl
    exact (asks_groupMembers hread).begins hthere
  | groupAddMember =>
    obtain ⟨hid, hother, hthere⟩ := h.two rfl
    exact (asks_groupAddMember hs hid hother).begins hthere
  | groupRemoveMember =>
    obtain ⟨hid, hother, hthere⟩ := h.two rfl
    exact (asks_groupRemoveMember hs hid hother).begins hthere
  | groupSetAdmin =>
    obtain ⟨hid, hother, hthere⟩ := h.two rfl
    obtain ⟨isAdmin, hasks⟩ := asks_groupSetAdmin hs hid hother h.readable
    exact ⟨isAdmin, hasks.begins hthere⟩
  | groupTransferOwner =>
    obtain ⟨hid, hother, hthere⟩ := h.two rfl
    exact (asks_groupTransferOwner hs hid hother).begins hthere
  | groupMessage =>
    obtain ⟨hread, hthere⟩ := h.one rfl
    obtain ⟨content, mediaType, mediaUrl, extra, hasks⟩ := asks_groupMessage hs hread h.readable
    exact ⟨content, mediaType, mediaUrl, extra, hasks.begins hthere⟩
  | groupHistory =>
    obtain ⟨hread, hthere⟩ := h.one rfl
    obtain ⟨beforeTime, limit, hasks⟩ := asks_groupHistory hs hread h.readable
    exact ⟨beforeTime, limit, hasks.begins hthere⟩
  | keyRequest =>
    exact (asks_keyRequest hs (h.wide "user_id" (by simp [wideIds]))).begins
      (h.required "user_id" (by simp [required, intIds, wideIds]))
  | encryptedMessage => exact passes_encryptedMessage hs h
  | messageRecall => exact passes_messageRecall hs h
  | favoriteAdd => exact passes_favoriteAdd hs h
  | favoriteRemove => exact passes_favoriteRemove hs h
  | _ => trivial

/-- An id that is read as 0 is missing, except that of the profile asked for. -/
theorem refuses_of_zero (hread : ∀ key ∈ intIds type, body.valueId key = .ok (ids key))
    (hreadable : bodyReadable type body = true) {key : String} (hkey : key ∈ intIds type)
    (hzero : ids key = 0) (htype : type ≠ .userInfo) :
    ∃ message, s.handleMessage sequence body type.code = s.sendError sequence 400 message := by
  unfold Session.handleMessage
  rw [MessageType.ofCode_code]
  cases type with
  | userInfo => exact absurd rfl htype
  | friendAdd | friendAccept | friendReject | friendRemove =>
    cases List.mem_singleton.1 hkey
    exact (asks_friendAction hs (hread _ hkey) _ _ _).refuses hzero
  | groupJoin | groupLeave | groupDismiss =>
    cases List.mem_singleton.1 hkey
    exact (asks_groupAction hs (hread _ hkey) _ _).refuses hzero
  | friendRemark =>
    cases List.mem_singleton.1 hkey
    obtain ⟨_, hasks⟩ := asks_friendRemark (s := s) hs (hread _ hkey) hreadable
    exact hasks.refuses hzero
  | privateMessage =>
    cases List.mem_singleton.1 hkey
    obtain ⟨_, _, _, _, hasks⟩ := asks_privateMessage (s := s) hs (hread _ hkey) hreadable
    exact hasks.refuses hzero
  | privateHistory =>
    cases List.mem_singleton.1 hkey
    obtain ⟨_, _, hasks⟩ := asks_privateHistory (s := s) hs (hread _ hkey) hreadable
    exact hasks.refuses hzero
  | groupInfo =>
    cases List.mem_singleton.1 hkey
    exact (asks_groupInfo (hread _ hkey)).refuses hzero
  | groupMembers =>
    cases List.mem_singleton.1 hkey
    exact (asks_groupMembers (hread _ hkey)).refuses hzero
  | groupMessage =>
    cases List.mem_singleton.1 hkey
    obtain ⟨_, _, _, _, hasks⟩ := asks_groupMessage (s := s) hs (hread _ hkey) hreadable
    exact hasks.refuses hzero
  | groupHistory =>
    cases List.mem_singleton.1 hkey
    obtain ⟨_, _, hasks⟩ := asks_groupHistory (s := s) hs (hread _ hkey) hreadable
    exact hasks.refuses hzero
  | groupAddMember =>
    refine (asks_groupAddMember hs (hread "group_id" (by simp [intIds]))
      (hread "user_id" (by simp [intIds]))).refuses (either_zero hkey hzero)
  | groupRemoveMember =>
    refine (asks_groupRemoveMember hs (hread "group_id" (by simp [intIds]))
      (hread "user_id" (by simp [intIds]))).refuses (either_zero hkey hzero)
  | groupSetAdmin =>
    obtain ⟨_, hasks⟩ := asks_groupSetAdmin (s := s) hs (hread "group_id" (by simp [intIds]))
      (hread "user_id" (by simp [intIds])) hreadable
    exact hasks.refuses (either_zero hkey hzero)
  | groupTransferOwner =>
    exact (asks_groupTransferOwner hs (hread "group_id" (by simp [intIds]))
      (hread "new_owner_id" (by simp [intIds]))).refuses (either_zero hkey hzero)
  | _ => cases hkey

end

end

/-! ## What an operation asks -/

/-- A database that finds `rows` whatever it is asked for. -/
def obliging (rows : List Row) : Unit → (c : Call) → c.Answer × Unit
  | _, .db .hasConnection | _, .db .ping | _, .db (.query _) => (true, ())
  | _, .db .storeResult => (some rows, ())
  | _, _ => (default, ())

/-- The statements that a program issues against it. -/
def statements {α : Type} (rows : List Row) (p : SessionM α) : List Stmt :=
  (p.run.trace (obliging rows) ()).filterMap fun c =>
    match c with
    | .db (.query stmt) => some stmt
    | _ => none

/-- The ids in the statement that the operation of a handler names them with. -/
def asked : MessageType → List Stmt → Option (List Nat)
  | .userInfo, .users (.byId userId) :: _ => some [userId]
  | .friendAdd, .users (.byId userId) :: _ => some [userId]
  | .friendAccept, _ :: .friends (.setStatus friendId _ _ _) :: _ => some [friendId]
  | .friendReject, .friends (.setStatus friendId _ _ _) :: _ => some [friendId]
  | .friendRemove, .friends (.countAccepted _ friendId) :: _ => some [friendId]
  | .friendRemark, .friends (.countAccepted _ friendId) :: _ => some [friendId]
  | .privateMessage, .privateMessages (.insert _ receiverId _ _ _ _ _ _) :: _ => some [receiverId]
  | .privateHistory, .privateMessages (.history _ peerId _ _) :: _ => some [peerId]
  | .groupJoin, .groups (.byId groupId) :: _ => some [groupId]
  | .groupLeave, .groups (.owner groupId) :: _ => some [groupId]
  | .groupDismiss, .groups (.owner groupId) :: _ => some [groupId]
  | .groupInfo, .groups (.byId groupId) :: _ => some [groupId]
  | .groupMembers, .groupMembers (.ofGroup groupId) :: _ => some [groupId]
  | .groupAddMember, _ :: _ :: .groupMembers (.count groupId userId) :: _ => some [groupId, userId]
  | .groupRemoveMember, _ :: _ :: .groupMembers (.isAdmin groupId userId) :: _ =>
    some [groupId, userId]
  | .groupSetAdmin, _ :: .groupMembers (.count groupId userId) :: _ => some [groupId, userId]
  | .groupTransferOwner, _ :: .groupMembers (.count groupId userId) :: _ =>
    some [groupId, userId]
  | .groupMessage, .groupMembers (.count groupId _) :: _ => some [groupId]
  | .groupHistory, .groupMessages (.history groupId _ _) :: _ => some [groupId]
  | _, _ => none

section
variable {s : Session} {sequence : UInt32} {type : MessageType} {ids : String → Nat}
  {rows : List Row} {p : SessionM Unit}

theorem statements_isOwner {α : Type} {r : Row} (groupId userId : Nat)
    (f : Bool → SessionM α) :
    statements (r :: rows) (GroupManager.isOwner groupId userId >>= f) =
      .groups (.owner groupId) :: statements (r :: rows) (f (decide (r.stoull 0 = userId))) := rfl

theorem statements_getFriendRequests {α β : Type} (userId : Nat)
    (k : List (UserInfo × FriendRelation) → DbProg α) (f : α → SessionM β) :
    statements rows (db (Friends.FriendManager.getFriendRequests userId >>= k) >>= f) =
      .friends (.listRequests userId) :: statements rows (db (k (rows.map fun row =>
        (row.user, relationOf row.user.userId userId row))) >>= f) := rfl

theorem stoull_num (n : Nat) : Row.stoull [.num n] 0 = n := rfl

theorem asked_addFriendRequest {u v : Nat} (huv : u ≠ v) (f : Except String Unit → SessionM Unit) :
    asked .friendAdd (statements rows (db (Friends.FriendManager.addFriendRequest u v) >>= f)) =
      some [v] := by
  rw [Friends.FriendManager.addFriendRequest, if_neg huv]
  rfl

theorem asked_acceptFriendRequest {u v : Nat} (hv : ([.num v] : Row) ∈ rows)
    (f : Except String Unit → SessionM Unit) :
    asked .friendAccept
      (statements rows (db (Friends.FriendManager.acceptFriendRequest u v) >>= f)) = some [v] := by
  have hrequested : Friends.FriendManager.requestedBy (rows.map fun row =>
      (row.user, relationOf row.user.userId u row)) v = true :=
    List.any_eq_true.2 ⟨_, List.mem_map_of_mem hv, decide_eq_true rfl⟩
  rw [Friends.FriendManager.acceptFriendRequest, statements_getFriendRequests, hrequested]
  rfl

theorem asked_removeMember {u g v : Nat} (huv : u ≠ v) (f : Except String Unit → SessionM Unit) :
    asked .groupRemoveMember (statements (([.num u] : Row) :: rows)
      (GroupManager.removeMember u g v >>= f)) = some [g, v] := by
  rw [GroupManager.removeMember, bind_assoc, statements_isOwner, stoull_num]
  simp only [decide_true, Bool.not_true, Bool.false_eq_true, if_false, bind_assoc]
  rw [statements_isOwner, stoull_num]
  simp only [huv, decide_false, Bool.false_eq_true, if_false]
  rfl

theorem asked_setAdmin {u g v : Nat} {isAdmin : Bool} (f : Except String Unit → SessionM Unit) :
    asked .groupSetAdmin (statements (([.num u] : Row) :: rows)
      (GroupManager.setAdmin u g v isAdmin >>= f)) = some [g, v] := by
  rw [GroupManager.setAdmin, bind_assoc, statements_isOwner, stoull_num, decide_eq_true rfl]
  rfl

theorem asked_transferOwner {u g v : Nat} (huv : u ≠ v) (f : Except String Unit → SessionM Unit) :
    asked .groupTransferOwner (statements (([.num u] : Row) :: rows)
      (GroupManager.transferOwner u g v >>= f)) = some [g, v] := by
  rw [GroupManager.transferOwner, bind_assoc, statements_isOwner, stoull_num, decide_eq_true rfl,
    Bool.not_true, if_neg Bool.false_ne_true, if_neg huv]
  rfl

theorem asked_of_passes (h : Passes s sequence type ids p) (htype : intIds type ≠ [])
    (hown : ∀ key ∈ intIds type, s.userId ≠ ids key)
    (hrow : ([.num (ids "friend_id")] : Row) ∈ rows) :
    asked type (statements (([.num s.userId] : Row) :: rows) p) = some ((intIds type).map ids) := by
  cases type with
  | friendAdd =>
    obtain ⟨f, rfl⟩ := h
    exact asked_addFriendRequest (hown "friend_id" (by simp [intIds])) f
  | friendAccept =>
    obtain ⟨f, rfl⟩ := h
    exact asked_acceptFriendRequest (List.mem_cons_of_mem _ hrow) f
  | groupRemoveMember =>
    obtain ⟨f, rfl⟩ := h
    exact asked_removeMember (hown "user_id" (by simp [intIds])) f
  | groupSetAdmin =>
    obtain ⟨isAdmin, f, rfl⟩ := h
    exact asked_setAdmin f
  | groupTransferOwner =>
    obtain ⟨f, rfl⟩ := h
    exact asked_transferOwner (hown "new_owner_id" (by simp [intIds])) f
  | userInfo | friendReject | friendRemove | groupJoin | groupLeave | groupDismiss | groupInfo
  | groupMembers | groupAddMember =>
    obtain ⟨f, rfl⟩ := h
    rfl
  | friendRemark =>
    obtain ⟨remark, f, rfl⟩ := h
    rfl
  | privateHistory | groupHistory =>
    obtain ⟨beforeTime, limit, f, rfl⟩ := h
    rfl
  | privateMessage | groupMessage =>
    obtain ⟨content, mediaType, mediaUrl, extra, f, rfl⟩ := h
    rfl
  | _ => exact absurd rfl htype

end

/-! ## Which ids are passed -/

/-- What becomes of an id between the JSON number and the variable. -/
def narrow (n : Nat) : Nat := toUInt64 (toInt32 n)

theorem narrow_eq_self_iff {n : Nat} (hn : n < 2 ^ 64) :
    narrow n = n ↔ n < 2 ^ 31 ∨ 2 ^ 64 - 2 ^ 31 ≤ n := by
  unfold narrow toUInt64 toInt32
  rw [Int.bmod_def]
  split <;> omega

section
variable {type : MessageType} {ids : String → UInt64} {body : Json} {key : String}

theorem valueId_of_number {n : Nat} (h : number body key = .ok n) :
    body.valueId key = .ok (narrow n) := by
  rw [Sending.valueId_eq, h]
  rfl

theorem valueUInt64_of_number {n : UInt64} (h : number body key = .ok n.toNat) :
    body.valueUInt64 key = .ok n.toNat := by
  have hn : toUInt64 n.toNat = n.toNat := by
    have hlt := n.toNat_lt
    rw [toUInt64]
    omega
  rw [Sending.valueUInt64_eq, h]
  exact congrArg Except.ok hn

/-! A request with ids that are read as an `int` has none that are read otherwise, and no other
    member is needed. -/

theorem wideIds_eq_nil (h : intIds type ≠ []) : wideIds type = [] := by
  cases type <;> first | rfl | exact absurd rfl h

theorem complete_of_intIds (h : intIds type ≠ []) : Complete type body := by
  have hwide := wideIds_eq_nil h
  cases type with
  | encryptedMessage | favoriteAdd | favoriteRemove => cases hwide
  | _ => trivial

theorem bodyReadable_of_intIds (h : intIds type ≠ []) :
    bodyReadable type body = (fields type).all (reads body) := by
  cases type with
  | userUpdate | fcmTokenRegister => exact absurd rfl h
  | _ => exact Bool.and_true _

theorem kind_of_intIds : ∀ field ∈ fields type, field.1 ∈ intIds type → field.2 = .number := by
  cases type <;> decide

/-- A body with the ids and nothing else. -/
def idBody (type : MessageType) (ids : String → UInt64) : Json :=
  .object ((intIds type).map fun key => (key, .number (ids key).toNat))

theorem lookup_map {α : Type} (f : String → α) (keys : List String) :
    (keys.map fun key => (key, f key)).lookup key = if key ∈ keys then some (f key) else none := by
  induction keys with
  | nil => rfl
  | cons other keys ih =>
    rw [List.map_cons, List.lookup_cons, ih]
    by_cases hkey : key = other
    · simp [hkey]
    · have hne : (key == other) = false := beq_false_of_ne hkey
      simp [hne, hkey]

theorem find?_idBody : (idBody type ids).find? key =
    if key ∈ intIds type then some (.number (ids key).toNat) else none :=
  lookup_map _ _

theorem named_idBody (htype : intIds type ≠ [])
    (hids : ∀ key ∈ required type, (ids key).toNat ≠ 0) : Named type (idBody type ids) ids where
  numbers key hkey := by
    rw [wideIds_eq_nil htype, List.append_nil] at hkey
    rw [number, Json.valueWith, find?_idBody, if_pos hkey]
    rfl
  required := hids
  readable := by
    rw [bodyReadable_of_intIds htype, List.all_eq_true]
    intro field hfield
    show (true && ((idBody type ids).find? field.1).all field.2.fits) = true
    rw [find?_idBody]
    split
    next hkey =>
      rw [kind_of_intIds field hfield hkey]
      rfl
    next => rfl
  complete := complete_of_intIds htype

/-- The ids as the handler has them -/
theorem Named.decoded {ids' : String → Nat} (h : Named type body ids)
    (hint : ∀ key ∈ intIds type, ids' key = narrow (ids key).toNat)
    (hwide : ∀ key ∈ wideIds type, ids' key = (ids key).toNat)
    (hthere : ∀ key ∈ intIds type, ids' key ≠ 0) : Decoded type body ids' where
  int key hkey := by
    rw [hint key hkey]
    exact valueId_of_number (h.numbers key (List.mem_append_left _ hkey))
  wide key hkey := by
    rw [hwide key hkey]
    exact valueUInt64_of_number (h.numbers key (List.mem_append_right _ hkey))
  required key hkey := by
    rcases List.mem_append.1 hkey with hkey' | hkey'
    · exact hthere key hkey'
    · rw [hwide key (List.mem_of_mem_take hkey')]
      exact h.required key hkey
  readable := h.readable
  complete := h.complete

/-- Some small number is not among a few others. -/
theorem exists_fresh {l : List Nat} (hl : l.length < 5) : ∃ n ∈ [1, 2, 3, 4, 5], n ∉ l := by
  by_contra h
  have hsubset : [1, 2, 3, 4, 5] ⊆ l := fun n hn => by
    by_contra hfresh
    exact h ⟨n, hn, hfresh⟩
  have hlength := List.Nodup.length_le_of_subset (by decide) hsubset
  exact absurd hlength (Nat.not_le.2 hl)

theorem length_intIds (type : MessageType) : (intIds type).length ≤ 2 := by
  cases type <;> decide

/-- The session of a user who is not meant -/
theorem exists_stranger (type : MessageType) (f g : String → Nat) :
    ∃ s : Session, s.authenticated = true ∧
      (∀ key ∈ intIds type, s.userId ≠ f key) ∧ ∀ key ∈ intIds type, s.userId ≠ g key := by
  have hlength : ((intIds type).map f ++ (intIds type).map g).length < 5 := by
    have hids := length_intIds type
    simp only [List.length_append, List.length_map]
    omega
  obtain ⟨n, -, hfresh⟩ := exists_fresh hlength
  rw [List.mem_append, not_or] at hfresh
  exact ⟨⟨0, n, true⟩, rfl,
    fun key hkey h => hfresh.1 (List.mem_map.2 ⟨key, hkey, h.symm⟩),
    fun key hkey h => hfresh.2 (List.mem_map.2 ⟨key, hkey, h.symm⟩)⟩

/-- If a handler passes the ids of a bare request to whoever sends it, none of them was changed. -/
theorem narrow_of_passes (hids : ∀ key ∈ required type, (ids key).toNat ≠ 0)
    (h : ∀ (s : Session) (sequence : UInt32), s.authenticated = true →
      Passes s sequence type (fun key => (ids key).toNat)
        (s.handleMessage sequence (idBody type ids) type.code)) :
    ∀ key ∈ intIds type, narrow (ids key).toNat = (ids key).toNat := by
  intro key hkey
  have htype : intIds type ≠ [] := List.ne_nil_of_mem hkey
  have hnamed := named_idBody htype hids
  obtain ⟨s, hs, hown, hown'⟩ :=
    exists_stranger type (fun key => (ids key).toNat) fun key => narrow (ids key).toNat
  let rows : List Row :=
    [[.num (ids "friend_id").toNat], [.num (narrow (ids "friend_id").toNat)]]
  have hrow : [.num (ids "friend_id").toNat] ∈ rows := List.mem_cons_self
  have hrow' : [.num (narrow (ids "friend_id").toNat)] ∈ rows :=
    List.mem_cons_of_mem _ List.mem_cons_self
  have hasked := asked_of_passes (h s 0 hs) htype hown hrow
  by_cases hzero : ∃ other ∈ intIds type, narrow (ids other).toNat = 0
  · -- the request is refused, or is taken to be about the own profile
    obtain ⟨other, hother, hzero⟩ := hzero
    have hread : ∀ key ∈ intIds type,
        (idBody type ids).valueId key = .ok (narrow (ids key).toNat) := fun key hkey =>
      valueId_of_number (hnamed.numbers key (List.mem_append_left _ hkey))
    by_cases huser : type = .userInfo
    · subst huser
      rw [List.mem_singleton.1 hother] at hzero
      have hprofile : s.handleMessage 0 (idBody .userInfo ids) MessageType.userInfo.code =
          s.handleUserInfo 0 (idBody .userInfo ids) := rfl
      have hnone : ¬ (0 = 0 && !s.authenticated) = true := by
        rw [hs]
        exact Bool.false_ne_true
      rw [hprofile, Session.handleUserInfo, read_bind (hread "user_id" (by simp [intIds])), hzero,
        if_neg hnone] at hasked
      have hself : [s.userId] = [(ids "user_id").toNat] := Option.some_inj.1 hasked
      exact absurd (List.cons.inj hself).1 (hown "user_id" (by simp [intIds]))
    · have hrefuses : ∃ message, s.handleMessage 0 (idBody type ids) type.code =
          s.sendError 0 400 message :=
        refuses_of_zero hs hread hnamed.readable hother hzero huser
      obtain ⟨message, hrefused⟩ := hrefuses
      have hnone : asked type [] = none := by cases type <;> rfl
      rw [hrefused] at hasked
      exact absurd (hnone.symm.trans hasked) (Option.some_ne_none _).symm
  · have hdecoded : Decoded type (idBody type ids) fun key => narrow (ids key).toNat :=
      hnamed.decoded (fun _ _ => rfl)
        (fun key hkey => by rw [wideIds_eq_nil htype] at hkey; cases hkey)
        fun other hother h0 => hzero ⟨other, hother, h0⟩
    have hpasses : Passes s 0 type (fun key => narrow (ids key).toNat)
        (s.handleMessage 0 (idBody type ids) type.code) := passes_of_decoded hs hdecoded
    have hasked' := asked_of_passes hpasses htype hown' hrow'
    rw [hasked, Option.some_inj] at hasked'
    exact (List.map_inj_left.1 hasked' key hkey).symm

/-- Every handler passes the ids of every request to its manager or the database just if those
    that are read as an `int` are one, or come back from the widening. -/
theorem passes_iff (type : MessageType) (ids : String → UInt64)
    (hids : ∀ key ∈ required type, (ids key).toNat ≠ 0) :
    (∀ (s : Session) (sequence : UInt32) (body : Json), s.authenticated = true →
      Named type body ids → Passes s sequence type (fun key => (ids key).toNat)
        (s.handleMessage sequence body type.code)) ↔
    ∀ key ∈ intIds type, (ids key).toNat < 2 ^ 31 ∨ 2 ^ 64 - 2 ^ 31 ≤ (ids key).toNat := by
  constructor
  · intro h key hkey
    rw [← narrow_eq_self_iff (ids key).toNat_lt]
    refine narrow_of_passes hids (fun s sequence hs => h s sequence _ hs ?_) key hkey
    exact named_idBody (List.ne_nil_of_mem hkey) hids
  · intro h s sequence body hs hnamed
    refine passes_of_decoded hs (hnamed.decoded (fun key hkey => ?_) (fun _ _ => rfl) ?_)
    · exact ((narrow_eq_self_iff (ids key).toNat_lt).2 (h key hkey)).symm
    · exact fun key hkey => hids key (List.mem_append_left _ hkey)

theorem passes_iff_seven : Passes ⟨0, 3, true⟩ 0 .friendAdd (fun _ => 7)
    (Session.handleMessage ⟨0, 3, true⟩ 0 (idBody .friendAdd fun _ => 7)
      MessageType.friendAdd.code) :=
  (passes_iff .friendAdd (fun _ => 7) (fun _ _ => by decide)).2 (fun _ _ => .inl (by decide))
    ⟨0, 3, true⟩ 0 _ rfl (named_idBody (List.cons_ne_nil _ _) fun _ _ => by decide)

/-- A friend request to the user 2 ^ 32 + 7 goes to the user 7. -/
theorem friend_narrowed : ∃ (s : Session) (body : Json), s.authenticated = true ∧
    Named .friendAdd body (fun _ => 4294967303) ∧
    Passes s 0 .friendAdd (fun _ => 7) (s.handleMessage 0 body MessageType.friendAdd.code) ∧
    ¬ Passes s 0 .friendAdd (fun _ => 4294967303)
      (s.handleMessage 0 body MessageType.friendAdd.code) := by
  have hnamed : Named .friendAdd (idBody .friendAdd fun _ => 4294967303) fun _ => 4294967303 :=
    named_idBody (List.cons_ne_nil _ _) fun _ _ => by decide
  have hseven : Passes ⟨0, 3, true⟩ 0 .friendAdd (fun _ => 7) (Session.handleMessage ⟨0, 3, true⟩ 0
      (idBody .friendAdd fun _ => 4294967303) MessageType.friendAdd.code) :=
    passes_of_decoded rfl (hnamed.decoded (fun _ _ => by decide) (fun _ h => by cases h)
      fun _ _ => by decide)
  refine ⟨⟨0, 3, true⟩, _, rfl, hnamed, hseven, fun h => ?_⟩
  let rows : List Row := [[.num 7], [.num 4294967303]]
  have hrow : [.num 4294967303] ∈ rows := List.mem_cons_of_mem _ List.mem_cons_self
  have hrow' : [.num 7] ∈ rows := List.mem_cons_self
  have hasked := asked_of_passes h (List.cons_ne_nil _ _) (fun _ _ => by decide) hrow
  have hasked' := asked_of_passes hseven (List.cons_ne_nil _ _) (fun _ _ => by decide) hrow'
  exact absurd (hasked.symm.trans hasked') (by decide)

end

end ChatApp.Session
