/-
  What a message to the gateway may bring about. The managers keep to the policy of
  `Session.Policy`, on behalf of the user of the connection or of one who has just logged in on it
  (`Acts`). What another user is told names the user who has caused it, and comes after the answer
  that gives him the right to it (`Notice`): a message is forwarded only after it has been stored
  for its receiver.
-/
import ChatApp.Gateway.Handlers
import ChatApp.Session.Policy

namespace ChatApp.Gateway.Handlers

open ChatApp.Database ChatApp.Protocol
open ChatApp.Session (Session LoggedIn Belongs AskedBy Owns Administers Answered)

/-- A call with its answer. -/
abbrev Event := (c : Call) × c.Answer

def Event.told : Event → Option Session.Event
  | ⟨.manager c, a⟩ => some ⟨c, a⟩
  | _ => none

/-- The calls of the managers. -/
def told (l : List Event) : List Session.Event := l.filterMap Event.told

/-- The connection that `get_connection` has found. -/
def Found (l : List Event) (userId : Nat) (peer : Peer) : Prop :=
  (⟨.getConnection userId, some peer⟩ : Event) ∈ l

/-- The statement has stored the text for the receiver. -/
def StoredFor (l : List Session.Event) (senderId receiverId : Nat) (content : String) : Prop :=
  ∃ mediaType mediaUrl extra status now, (⟨.db (.query (.privateMessages (.insert senderId
    receiverId mediaType content mediaUrl extra status now))), true⟩ : Session.Event) ∈ l

/-- The statement has stored the text for the group. -/
def StoredIn (l : List Session.Event) (senderId groupId : Nat) (content : String) : Prop :=
  ∃ mediaType mediaUrl extra status now, (⟨.db (.query (.groupMessages (.insert groupId senderId
    mediaType content mediaUrl extra status now))), true⟩ : Session.Event) ∈ l

/-- The user was listed as a member of the group. -/
def Listed (l : List Session.Event) (groupId userId : Nat) : Prop :=
  ∃ rows, Answered l (.groupMembers (.ofGroup groupId)) rows ∧ ∃ row ∈ rows, row.stoull 0 = userId

section
variable (s : Session) (msg : Json) (l : List Event)

def Acts (t : Session) : Prop :=
  t = s ∨ ∃ userId, LoggedIn msg (told l) userId ∧ t = ⟨s.id, userId, true⟩

def HasType (text : Json) (type : String) : Prop := text.find? "type" = some (.string type)

def HasId (text : Json) (key : String) (id : Nat) : Prop := text.find? key = some (.number id)

/-- The user may be told the text. -/
inductive Notice (userId : Nat) (text : Json) : Prop
  | kicked (htype : HasType text "kicked") (hlogin : LoggedIn msg (told l) userId)
  | privateMessage (content : String) (htype : HasType text "privateMessage")
      (hsender : HasId text "sender_id" s.userId)
      (hcontent : text.find? "content" = some (.string content))
      (hstored : StoredFor (told l) s.userId userId content)
  | groupMessage (groupId : Nat) (content : String) (htype : HasType text "groupMessage")
      (hsender : HasId text "sender_id" s.userId) (hgroup : HasId text "group_id" groupId)
      (hcontent : text.find? "content" = some (.string content))
      (hmember : Belongs (told l) groupId s.userId) (hlisted : Listed (told l) groupId userId)
      (hstored : StoredIn (told l) s.userId groupId content)
  | friendRequest (htype : HasType text "friendRequestNotification")
      (hfrom : HasId text "from_user_id" s.userId)
  | friendAccept (htype : HasType text "friendAcceptNotification")
      (huser : HasId text "user_id" s.userId) (hasked : AskedBy (told l) s.userId userId)
  | groupInvite (htype : HasType text "groupInviteNotification")
      (hinviter : HasId text "inviter_id" s.userId)
  | groupKicked (groupId : Nat) (htype : HasType text "groupKickedNotification")
      (hgroup : HasId text "group_id" groupId)
      (hright : Owns (told l) groupId s.userId ∨ Administers (told l) groupId s.userId)

/-- A push notification is for a user who has no connection. -/
def Allowed : Call → Prop
  | .manager c => ∃ t, Acts s msg l t ∧ t.Allowed msg (told l) c
  | .sendText _ | .time => True
  | .getConnection userId => s.authenticated = true ∨ LoggedIn msg (told l) userId
  | .sendTextTo peer text => ∃ userId, Found l userId peer ∧ Notice s msg l userId text ∧
    (s.authenticated = true ∨ LoggedIn msg (told l) userId)
  | .close peer => ∃ userId, Found l userId peer ∧ LoggedIn msg (told l) userId
  | .setUserId userId => LoggedIn msg (told l) userId
  | .setAuthenticated auth => auth = true ∧
    ∃ userId, LoggedIn msg (told l) userId ∧ (⟨.setUserId userId, ()⟩ : Event) ∈ l
  | .addConnection =>
    ∃ userId, LoggedIn msg (told l) userId ∧ (⟨.setUserId userId, ()⟩ : Event) ∈ l
  | .hasJpush | .hasFcm => s.authenticated = true
  | .notifyJpush receiverId .. | .notifyFcm receiverId .. =>
    s.authenticated = true ∧ (⟨.getConnection receiverId, none⟩ : Event) ∈ l

end

/-! ## More answers, more rights -/

section
variable {l l' : List Event} (hl : l <+: l')
include hl

theorem told_mono : told l <+: told l' := by
  obtain ⟨rest, rfl⟩ := hl
  unfold told
  rw [List.filterMap_append]
  exact List.prefix_append _ _

theorem Found.mono {userId : Nat} {peer : Peer} (h : Found l userId peer) :
    Found l' userId peer := hl.subset h

theorem Acts.mono {s : Session} {msg : Json} {t : Session} (h : Acts s msg l t) :
    Acts s msg l' t :=
  h.imp_right fun h => h.imp fun _ h => ⟨h.1.mono (told_mono hl), h.2⟩

end

section
variable {l l' : List Session.Event} (hl : l <+: l')
include hl

theorem StoredFor.mono {senderId receiverId : Nat} {content : String}
    (h : StoredFor l senderId receiverId content) : StoredFor l' senderId receiverId content := by
  obtain ⟨mediaType, mediaUrl, extra, status, now, hmem⟩ := h
  exact ⟨mediaType, mediaUrl, extra, status, now, hl.subset hmem⟩

theorem StoredIn.mono {senderId groupId : Nat} {content : String}
    (h : StoredIn l senderId groupId content) : StoredIn l' senderId groupId content := by
  obtain ⟨mediaType, mediaUrl, extra, status, now, hmem⟩ := h
  exact ⟨mediaType, mediaUrl, extra, status, now, hl.subset hmem⟩

theorem Listed.mono {groupId userId : Nat} (h : Listed l groupId userId) :
    Listed l' groupId userId :=
  h.imp fun _ hrows => ⟨hrows.1.mono hl, hrows.2⟩

end

end ChatApp.Gateway.Handlers
