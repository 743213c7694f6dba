/-
  What a message is answered with: the texts that its own connection is given (`ownTexts`).
  `handle_ws_message` answers each message of a type it knows with one text, of a type that belongs
  to the type of the message (`Replies`); only a login may be followed by more. What may come
  instead, or after it, is the text for a JSON exception. Whether the text says success is left
  open here, and so is what goes out through `get_connection` (see `Gateway.Policy`), also where
  that is the own connection once more.
-/
import ChatApp.Gateway.Policy
import ChatApp.Lib.Lists

namespace ChatApp.Gateway.Handlers

open ChatApp.Lib ChatApp.Lib.Prog ChatApp.Database ChatApp.Protocol ChatApp.Gateway.Messages
open ChatApp.Session (Session SessionM)

def Call.ownText : Call → Option Json
  | .sendText text => some text
  | _ => none

/-- The texts to the own connection. -/
def ownTexts (l : List Event) : List Json := l.filterMap fun x => x.1.ownText

def invalidJson : Json := errorText "Invalid JSON"

/-- The types an answer may have. -/
def answerTypes : MessageKind → List String
  | .privateMessage => ["privateMessageResponse", "error"]
  | .groupMessage => ["groupMessageResponse", "error"]
  | .friendList => ["friendListResponse"]
  | .friendRequests => ["friendRequestsResponse"]
  | .groupList => ["groupListResponse"]
  | .groupMembers => ["groupMembersResponse"]
  | .userSearch => ["userSearchResponse"]
  | .privateHistory => ["privateHistoryResponse"]
  | .groupHistory => ["groupHistoryResponse"]
  | .friendRequest => ["friendAddResponse"]
  | .friendAccept => ["friendAcceptResponse"]
  | .friendReject => ["friendRejectResponse"]
  | .friendRemove => ["friendRemoveResponse"]
  | .createGroup => ["createGroupResponse"]
  | .inviteGroupMembers => ["inviteGroupMembersResponse"]
  | .groupKick => ["groupKickResponse"]
  | .groupQuit => ["groupQuitResponse"]
  | .groupDismiss => ["groupDismissResponse"]
  | .groupSetAdmin => ["groupSetAdminResponse"]
  | .groupTransferOwner => ["groupTransferOwnerResponse"]
  | .heartbeat => ["heartbeatResponse"]
  | .fcmTokenRegister => ["fcmTokenRegisterResponse"]
  | .favoriteAdd => ["favoriteAddResponse"]
  | .favoriteRemove => ["favoriteRemoveResponse"]
  | .favoriteList => ["favoriteListResponse"]
  | .passwordUpdate => ["passwordUpdateResponse"]

def IsAnswer (kind : MessageKind) (text : Json) : Prop :=
  ∃ type ∈ answerTypes kind, HasType text type

/-- The answer to a login. The requests that wait come after one that has succeeded only. -/
def Greets (texts : List Json) : Prop :=
  ∃ first rest, texts = first :: rest ∧ HasType first "loginResponse" ∧
    (∀ text ∈ rest, HasType text "friendRequestNotification") ∧
      (rest ≠ [] → first.find? "success" = some (.bool true))

/-- What a message of the type is answered with. -/
def RepliesTo (s : Session) (type : String) (texts : List Json) : Prop :=
  if type = "login" then Greets texts
  else if type = "register" then ∃ text, texts = [text] ∧ HasType text "registerResponse"
  else if !s.authenticated then texts = [errorText "Not authenticated"]
  else
    match messageKinds.lookup type with
    | some kind => ∃ text, texts = [text] ∧ IsAnswer kind text
    | none => texts = []

/-- After a JSON exception, `part` is what was sent before it: nothing, or the answer to a private
    message whose notification could not be built. -/
def RepliesFailed (s : Session) (type : String) (texts : List Json) : Prop :=
  ∃ part, texts = part ++ [invalidJson] ∧
    (part = [] ∨ type = "privateMessage" ∧ RepliesTo s type part)

/-- What is answered to a text, after what `json::parse` makes of it. -/
def Replies (s : Session) (parsed : Except JsonException Json) (texts : List Json) : Prop :=
  match parsed with
  | .error _ => texts = [invalidJson]
  | .ok msg =>
    match msg.find? "type" with
    | none => texts = []
    | some (.string type) => RepliesTo s type texts ∨ RepliesFailed s type texts
    | some _ => texts = [invalidJson]

/-- How a message ends: no JSON exception goes on, and one that leaves the thread or an undefined
    `operator[]` may come before the answer. -/
def Answered (s : Session) (parsed : Except JsonException Json) (r : Except Failure Unit)
    (texts : List Json) : Prop :=
  match r with
  | .ok _ => Replies s parsed texts
  | .error (.json _) => False
  | .error _ => texts = [] ∨ Replies s parsed texts

def answering : Protocol interface (List Json) where
  allows _ _ := True
  next texts c _ := texts ++ c.ownText.toList

theorem after_answering (texts : List Json) (l : List Event) :
    Protocol.after answering texts l = texts ++ ownTexts l := by
  induction l generalizing texts with
  | nil => exact (List.append_nil texts).symm
  | cons x l ih =>
    have hcons : ownTexts (x :: l) = x.1.ownText.toList ++ ownTexts l := by
      rw [ownTexts, List.filterMap_cons]
      cases x.1.ownText <;> rfl
    rw [hcons, ← List.append_assoc]
    exact ih _

/-- After the texts before it, `p` ends with `Q` of its result and the texts. -/
abbrev Tells {α : Type} (texts : List Json) (p : GatewayM α)
    (Q : Except Failure α → List Json → Prop) : Prop := Follows answering texts p.run Q

/-- The exception of nlohmann json -/
def IsJson {α : Type} (r : Except Failure α) : Prop := ∃ e, r = .error (.json e)

/-- No text to the own connection -/
def Silent {α : Type} (p : GatewayM α) : Prop :=
  ∀ texts, Tells texts p fun _ texts' => texts' = texts

/-- Nor a JSON exception -/
def Calm {α : Type} (p : GatewayM α) : Prop :=
  ∀ texts, Tells texts p fun r texts' => texts' = texts ∧ ¬ IsJson r

/-- One text with `T`, or an end before it; an exception after it is a `late` one. -/
def Once (late : Prop) (T : Json → Prop) (p : GatewayM Unit) : Prop :=
  ∀ texts, Tells texts p fun r texts' => (texts' = texts ∧ ∃ e, r = .error e) ∨
    ∃ text, T text ∧ texts' = texts ++ [text] ∧ (IsJson r → late)

section
variable {α β : Type} {p : GatewayM α} {f : α → GatewayM β} {late : Prop} {T : Json → Prop}

theorem Calm.silent (h : Calm p) : Silent p := fun texts => (h texts).mono fun _ _ h => h.1

theorem calm_pure (a : α) : Calm (pure a : GatewayM α) := fun _ => ⟨rfl, fun ⟨_, h⟩ => by cases h⟩

theorem calm_bind (hp : Calm p) (hf : ∀ a, Calm (f a)) : Calm (p >>= f) := by
  refine fun texts => follows_bindE.2 ((hp texts).mono fun r texts' ⟨htexts, hr⟩ => ?_)
  subst htexts
  cases r with
  | ok a => exact hf a texts'
  | error e => exact ⟨rfl, fun ⟨x, h⟩ => hr ⟨x, by cases h; rfl⟩⟩

theorem calm_ite {b : Prop} [Decidable b] {q : GatewayM α} (hp : Calm p) (hq : Calm q) :
    Calm (if b then p else q) := by
  split
  · exact hp
  · exact hq

theorem calm_request {c : Call} (hc : c.ownText = none) : Calm (request c) := by
  refine fun texts => ⟨trivial, fun a => ⟨?_, fun ⟨_, h⟩ => by cases h⟩⟩
  show texts ++ c.ownText.toList = texts
  rw [hc]
  exact List.append_nil texts

theorem calm_managed (q : SessionM α) : Calm (managed q) := by
  intro texts
  show Follows answering texts (Prog.interpret (fun c => Prog.perform (I := interface) (.manager c))
    q.run >>= fun r => pure (r.mapError Failure.escaped)) _
  refine follows_bind.2 ?_
  have hmanagers (q : Prog Session.interface (Except Session.Stop α)) : Follows answering texts
      (Prog.interpret (fun c => Prog.perform (I := interface) (.manager c)) q)
        fun _ texts' => texts' = texts := by
    induction q with
    | ret r => rfl
    | call c k ih =>
      refine ⟨trivial, fun a => ?_⟩
      show Follows answering (texts ++ []) _ _
      rw [List.append_nil]
      exact ih a
  refine (hmanagers q.run).mono fun r texts' htexts => ⟨htexts, ?_⟩
  rintro ⟨e, h⟩
  cases r <;> cases h

theorem calm_forEach {g : α → GatewayM Unit} (hg : ∀ a, Calm (g a)) (xs : List α) :
    Calm (forEach g xs) := by
  induction xs with
  | nil => exact calm_pure ()
  | cons x xs ih => exact calm_bind (hg x) fun _ => ih

theorem calm_notify {userId : Nat} {text : GatewayM Json} (h : Calm text) :
    Calm (notify userId text) := by
  refine calm_bind (calm_request rfl) fun found => ?_
  cases found with
  | none => exact calm_pure ()
  | some peer => exact calm_bind h fun _ => calm_request rfl

theorem silent_request {c : Call} (hc : c.ownText = none) : Silent (request c) :=
  (calm_request hc).silent

theorem silent_managed (q : SessionM α) : Silent (managed q) := (calm_managed q).silent

theorem silent_read (r : Run α) : Silent (read r) := by
  intro texts
  unfold read
  cases r.result <;> rfl

theorem silent_bind (hp : Silent p) (hf : ∀ a, Silent (f a)) : Silent (p >>= f) := by
  refine fun texts => follows_bindE.2 ((hp texts).mono fun r texts' htexts => ?_)
  subst htexts
  cases r with
  | ok a => exact hf a texts'
  | error e => rfl

theorem silent_ite {b : Prop} [Decidable b] {q : GatewayM α} (hp : Silent p) (hq : Silent q) :
    Silent (if b then p else q) := by
  split
  · exact hp
  · exact hq

theorem once_bind {f : α → GatewayM Unit} (hp : Silent p) (hf : ∀ a, Once late T (f a)) :
    Once late T (p >>= f) := by
  refine fun texts => follows_bindE.2 ((hp texts).mono fun r texts' htexts => ?_)
  subst htexts
  cases r with
  | ok a => exact hf a texts'
  | error e => exact .inl ⟨rfl, e, rfl⟩

theorem once_read {r : Run α} {f : α → GatewayM Unit} (hf : ∀ a, Once late T (f a)) :
    Once late T (read r >>= f) := once_bind (silent_read r) hf

theorem once_managed {q : SessionM α} {f : α → GatewayM Unit} (hf : ∀ a, Once late T (f a)) :
    Once late T (managed q >>= f) := once_bind (silent_managed q) hf

theorem once_ite {b : Prop} [Decidable b] {p q : GatewayM Unit} (hp : Once late T p)
    (hq : Once late T q) : Once late T (if b then p else q) := by
  split
  · exact hp
  · exact hq

theorem once_sendText {text : Json} (h : T text) : Once late T (sendText text) :=
  fun _ => ⟨trivial, fun _ => .inr ⟨text, h, rfl, fun ⟨_, hr⟩ => by cases hr⟩⟩

theorem once_then {text : Json} {q : GatewayM Unit} (h : T text) (hq : Calm q) :
    Once late T (sendText text >>= fun _ => q) :=
  fun _ => ⟨trivial, fun _ => (hq _).mono fun _ _ hend =>
    .inr ⟨text, h, hend.1, fun hr => absurd hr hend.2⟩⟩

theorem once_thenLate {text : Json} {q : GatewayM Unit} (h : T text) (hq : Silent q)
    (hlate : late) : Once late T (sendText text >>= fun _ => q) :=
  fun _ => ⟨trivial, fun _ => (hq _).mono fun _ _ hend => .inr ⟨text, h, hend, fun _ => hlate⟩⟩

theorem once_flagged {type : String} {operation : SessionM (Except String Unit)}
    {after : GatewayM Unit} (h : ∀ success, T (outcome type success [])) (hafter : Calm after) :
    Once late T (flagged type operation after) := by
  refine once_managed fun r => ?_
  cases r with
  | ok u => exact once_then (h true) hafter
  | error message => exact once_sendText (h false)

end

/-! ## The handlers -/

section
variable {s : Session} {msg : Json} {late : Prop}

theorem isAnswer_outcome (kind : MessageKind) {type : String} (h : type ∈ answerTypes kind)
    (success : Bool) (members : List (String × Json)) :
    IsAnswer kind (outcome type success members) := ⟨type, h, rfl⟩

theorem silent_pushFcm (receiverId : Nat) (title content : String)
    (data : List (String × String)) : Silent (pushFcm receiverId title content data) := by
  refine silent_bind (silent_request rfl) fun _ => silent_ite ?_ (calm_pure ()).silent
  exact silent_bind (silent_request rfl) fun _ => silent_ite (calm_pure ()).silent
    fun _ => rfl

theorem silent_forwardPrivateMessage (m : PrivateMessage) (message : Message)
    (sender : Option UserInfo) : Silent (forwardPrivateMessage s m message sender) := by
  refine silent_bind (silent_request rfl) fun found => ?_
  cases found with
  | some peer => exact Calm.silent (calm_bind (calm_request rfl) fun _ => calm_request rfl)
  | none =>
    exact silent_bind (silent_request rfl) fun _ => silent_ite (silent_request rfl)
      (silent_pushFcm _ _ _ _)

theorem once_privateMessage (hlate : late) :
    Once late (IsAnswer .privateMessage) (handlePrivateMessage s msg) := by
  refine once_read fun m => once_managed fun saved => ?_
  cases saved with
  | none => exact once_sendText ⟨"error", by simp [answerTypes], rfl⟩
  | some x =>
    refine once_bind (silent_request rfl) fun now => once_thenLate ?_
      (silent_forwardPrivateMessage m x.1 x.2) hlate
    exact ⟨"privateMessageResponse", by simp [answerTypes], rfl⟩

theorem calm_forwardGroupMessage (m : GroupMessage) (message : Message) (sender : Option UserInfo)
    (group : Option GroupInfo) (memberId : Nat) :
    Calm (forwardGroupMessage s m message sender group memberId) := by
  refine calm_ite (calm_pure ()) (calm_bind (calm_request rfl) fun found => ?_)
  cases found with
  | some peer => exact calm_bind (calm_request rfl) fun _ => calm_request rfl
  | none =>
    exact calm_bind (calm_request rfl) fun _ => calm_ite (calm_request rfl) (calm_pure ())

theorem once_groupMessage : Once late (IsAnswer .groupMessage) (handleGroupMessage s msg) := by
  have herror (message : String) : IsAnswer .groupMessage (errorText message) :=
    ⟨"error", by simp [answerTypes], rfl⟩
  refine once_read fun m => once_managed fun member => once_ite (once_sendText (herror _))
    (once_managed fun saved => ?_)
  cases saved with
  | none => exact once_sendText (herror _)
  | some message =>
    refine once_managed fun sender => once_managed fun group => once_managed fun ids =>
      once_bind (silent_request rfl) fun now => once_then ?_
        (calm_forEach (calm_forwardGroupMessage m message sender group) ids)
    exact ⟨"groupMessageResponse", by simp [answerTypes], rfl⟩

theorem once_groupMembers : Once late (IsAnswer .groupMembers) (handleGroupMembers msg) := by
  refine once_read fun groupId => once_managed fun found => ?_
  cases found with
  | none => exact once_sendText ⟨_, List.mem_singleton.2 rfl, rfl⟩
  | some group => exact once_managed fun members =>
      once_sendText (isAnswer_outcome .groupMembers (List.mem_singleton.2 rfl) _ _)

theorem once_groupHistory : Once late (IsAnswer .groupHistory) (handleGroupHistory s msg) :=
  once_read fun _ => once_read fun _ => once_read fun _ => once_managed fun _ => once_ite
    (once_sendText ⟨_, List.mem_singleton.2 rfl, rfl⟩)
    (once_managed fun _ => once_sendText ⟨_, List.mem_singleton.2 rfl, rfl⟩)

theorem once_friendRequest : Once late (IsAnswer .friendRequest) (handleFriendRequest s msg) := by
  have hanswer := isAnswer_outcome .friendRequest (List.mem_singleton.2 rfl)
  refine once_read fun toUserId => once_read fun message => once_managed fun r => ?_
  cases r with
  | error error => exact once_sendText (hanswer _ _)
  | ok u =>
    exact once_managed fun fromUser => once_then (hanswer _ _)
      (calm_notify (calm_bind (calm_request rfl) fun _ => calm_pure _))

theorem once_friendAccept : Once late (IsAnswer .friendAccept) (handleFriendAccept s msg) := by
  have hanswer := isAnswer_outcome .friendAccept (List.mem_singleton.2 rfl)
  refine once_read fun fromUserId => once_managed fun r => ?_
  cases r with
  | error error => exact once_sendText (hanswer _ _)
  | ok u =>
    exact once_then (hanswer _ _) (calm_notify (calm_bind (calm_managed _) fun _ => calm_pure _))

theorem once_createGroup : Once late (IsAnswer .createGroup) (handleCreateGroup s msg) := by
  have hanswer := isAnswer_outcome .createGroup (List.mem_singleton.2 rfl)
  refine once_read fun name => once_read fun description => once_managed fun r => ?_
  cases r with
  | ok groupId => exact once_sendText (hanswer _ _)
  | error message => exact once_sendText (hanswer _ _)

theorem calm_joinAll (groupId : Nat) (userIds : List Nat) (allSuccess : Bool) :
    Calm (joinAll groupId allSuccess userIds) := by
  induction userIds generalizing allSuccess with
  | nil => exact calm_pure _
  | cons userId userIds ih =>
    refine calm_bind (calm_managed _) fun r => ?_
    cases r with
    | ok u => exact ih allSuccess
    | error message => exact ih false

theorem once_invite :
    Once late (IsAnswer .inviteGroupMembers) (handleInviteGroupMembers s msg) := by
  have hanswer := isAnswer_outcome .inviteGroupMembers (List.mem_singleton.2 rfl)
  refine once_read fun groupId => once_read fun userIds =>
    once_bind (calm_joinAll groupId userIds true).silent fun _ =>
      once_ite (once_then (hanswer _ _) ?_) (once_sendText (hanswer _ _))
  exact calm_forEach (fun _ => calm_notify (calm_bind (calm_managed _) fun _ => calm_pure _)) _

theorem once_groupKick : Once late (IsAnswer .groupKick) (handleGroupKick s msg) :=
  once_read fun _ => once_read fun _ =>
    once_flagged (isAnswer_outcome .groupKick (List.mem_singleton.2 rfl) · [])
      (calm_notify (calm_bind (calm_managed _) fun _ => calm_pure _))

theorem once_passwordUpdate :
    Once late (IsAnswer .passwordUpdate) (handlePasswordUpdate s msg) := by
  have hanswer := isAnswer_outcome .passwordUpdate (List.mem_singleton.2 rfl)
  refine once_read fun _ => once_read fun _ => once_ite (once_sendText (hanswer _ _))
    (once_managed fun r => ?_)
  cases r with
  | ok u => exact once_sendText (hanswer _ _)
  | error message => exact once_sendText (hanswer _ _)

theorem once_handle (kind : MessageKind) :
    Once (kind = .privateMessage) (IsAnswer kind) (handle s msg kind) := by
  cases kind with
  | privateMessage => exact once_privateMessage rfl
  | groupMessage => exact once_groupMessage
  | groupMembers => exact once_groupMembers
  | groupHistory => exact once_groupHistory
  | friendRequest => exact once_friendRequest
  | friendAccept => exact once_friendAccept
  | createGroup => exact once_createGroup
  | inviteGroupMembers => exact once_invite
  | groupKick => exact once_groupKick
  | passwordUpdate => exact once_passwordUpdate
  | friendReject =>
    exact once_read fun _ => once_flagged
      (isAnswer_outcome .friendReject (List.mem_singleton.2 rfl) · []) (calm_pure ())
  | friendRemove =>
    exact once_read fun _ => once_flagged
      (isAnswer_outcome .friendRemove (List.mem_singleton.2 rfl) · []) (calm_pure ())
  | groupQuit =>
    exact once_read fun _ => once_flagged
      (isAnswer_outcome .groupQuit (List.mem_singleton.2 rfl) · []) (calm_pure ())
  | groupDismiss =>
    exact once_read fun _ => once_flagged
      (isAnswer_outcome .groupDismiss (List.mem_singleton.2 rfl) · []) (calm_pure ())
  | groupSetAdmin =>
    exact once_read fun _ => once_read fun _ => once_read fun _ => once_flagged
      (isAnswer_outcome .groupSetAdmin (List.mem_singleton.2 rfl) · []) (calm_pure ())
  | groupTransferOwner =>
    exact once_read fun _ => once_read fun _ => once_flagged
      (isAnswer_outcome .groupTransferOwner (List.mem_singleton.2 rfl) · []) (calm_pure ())
  | friendList | friendRequests | groupList =>
    exact once_managed fun _ => once_sendText ⟨_, List.mem_singleton.2 rfl, rfl⟩
  | userSearch =>
    exact once_read fun _ => once_managed fun _ => once_sendText ⟨_, List.mem_singleton.2 rfl, rfl⟩
  | privateHistory =>
    exact once_read fun _ => once_read fun _ => once_read fun _ => once_managed fun _ =>
      once_sendText ⟨_, List.mem_singleton.2 rfl, rfl⟩
  | heartbeat =>
    exact once_bind (silent_request rfl) fun _ =>
      once_sendText ⟨_, List.mem_singleton.2 rfl, rfl⟩
  | fcmTokenRegister =>
    exact once_read fun _ => once_managed fun _ =>
      once_sendText (isAnswer_outcome .fcmTokenRegister (List.mem_singleton.2 rfl) _ _)
  | favoriteAdd =>
    exact once_read fun _ => once_read fun _ => once_read fun _ => once_read fun _ =>
      once_read fun _ => once_read fun _ => once_managed fun _ =>
        once_sendText (isAnswer_outcome .favoriteAdd (List.mem_singleton.2 rfl) _ _)
  | favoriteRemove =>
    exact once_read fun _ => once_read fun _ => once_managed fun _ =>
      once_sendText (isAnswer_outcome .favoriteRemove (List.mem_singleton.2 rfl) _ _)
  | favoriteList =>
    exact once_read fun _ => once_read fun _ => once_managed fun _ =>
      once_sendText ⟨_, List.mem_singleton.2 rfl, rfl⟩

theorem once_register :
    Once late (HasType · "registerResponse") (handleRegister msg) := by
  refine once_ite (once_sendText rfl) (once_read fun username => once_read fun password =>
    once_read fun nickname => once_ite (once_sendText rfl) (once_ite (once_sendText rfl)
      (once_managed fun r => ?_)))
  cases r with
  | error message => exact once_sendText rfl
  | ok userId => exact once_sendText rfl

/-! ## A login -/

/-- The texts after a login that has succeeded -/
def Welcomes (texts : List Json) : Prop :=
  ∃ first rest, texts = first :: rest ∧ HasType first "loginResponse" ∧
    (∀ text ∈ rest, HasType text "friendRequestNotification") ∧
      first.find? "success" = some (.bool true)

theorem Welcomes.greets {texts : List Json} (h : Welcomes texts) : Greets texts := by
  obtain ⟨first, rest, htexts, hfirst, hrest, hsuccess⟩ := h
  exact ⟨first, rest, htexts, hfirst, hrest, fun _ => hsuccess⟩

theorem greets_one {text : Json} (h : HasType text "loginResponse") : Greets [text] :=
  ⟨text, [], rfl, h, fun _ hmem => absurd hmem List.not_mem_nil, fun hrest => absurd rfl hrest⟩

theorem tells_notifyPending {texts : List Json} (htexts : Welcomes texts)
    (requests : List (UserInfo × FriendRelation)) :
    Tells texts (notifyPending requests) fun r texts' => Welcomes texts' ∧ ¬ IsJson r := by
  induction requests generalizing texts with
  | nil => exact ⟨htexts, fun ⟨_, h⟩ => by cases h⟩
  | cons x requests ih =>
    have hstep : Tells texts (if x.2.status = .pending then
        sendText (requestNotification x.1.userId x.1 [("created_at", .number x.2.createdAt)])
        else pure ()) fun r texts' => Welcomes texts' ∧ ¬ IsJson r := by
      split
      · refine ⟨trivial, fun _ => ⟨?_, fun ⟨_, h⟩ => by cases h⟩⟩
        obtain ⟨first, rest, rfl, hfirst, hrest, hsuccess⟩ := htexts
        refine ⟨first, rest ++ [_], rfl, hfirst, fun text hmem => ?_, hsuccess⟩
        rcases List.mem_append.1 hmem with hmem | hmem
        · exact hrest text hmem
        · rw [List.mem_singleton.1 hmem]
          rfl
      · exact ⟨htexts, fun ⟨_, h⟩ => by cases h⟩
    refine follows_bindE.2 (hstep.mono fun r texts' ⟨hwelcomes, hr⟩ => ?_)
    cases r with
    | ok u => exact ih hwelcomes
    | error e => exact ⟨hwelcomes, fun ⟨x, h⟩ => hr ⟨x, by cases h; rfl⟩⟩

/-- A login ends with its answer, or before it. -/
abbrev EndsLogin (r : Except Failure Unit) (texts : List Json) : Prop :=
  (texts = [] ∧ ∃ e, r = .error e) ∨ Greets texts ∧ ¬ IsJson r

theorem login_bind {α : Type} {p : GatewayM α} {f : α → GatewayM Unit} (hp : Silent p)
    (hf : ∀ a, Tells [] (f a) EndsLogin) : Tells [] (p >>= f) EndsLogin := by
  refine follows_bindE.2 ((hp []).mono fun r texts' htexts => ?_)
  subst htexts
  cases r with
  | ok a => exact hf a
  | error e => exact .inl ⟨rfl, e, rfl⟩

theorem login_refused (error : String) :
    Tells [] (sendText (failure "loginResponse" error)) EndsLogin :=
  ⟨trivial, fun _ => .inr ⟨greets_one rfl, fun ⟨_, h⟩ => by cases h⟩⟩

theorem tells_welcome {text : Json} {q : GatewayM Unit} (htype : HasType text "loginResponse")
    (hsuccess : text.find? "success" = some (.bool true))
    (hq : ∀ texts, Welcomes texts → Tells texts q EndsLogin) :
    Tells [] (sendText text >>= fun _ => q) EndsLogin :=
  ⟨trivial, fun _ => hq [text]
    ⟨text, [], rfl, htype, fun _ hmem => absurd hmem List.not_mem_nil, hsuccess⟩⟩

/-- What follows a login that succeeds -/
theorem tells_enter (user : UserInfo) : Tells [] (do
    request (.setUserId user.userId)
    request (.setAuthenticated true)
    request .addConnection
    let _ ← db (updateUserOnlineStatus user.userId .online)
    sendText (outcome "loginResponse" true [
      ("user_id", .number user.userId),
      ("user_info", .object [
        ("user_id", .number user.userId),
        ("username", .string user.username),
        ("nickname", .string user.nickname),
        ("avatar_url", .string user.avatarUrl),
        ("status", .string "ONLINE")])])
    notifyPending (← db (Friends.FriendManager.getFriendRequests user.userId))) EndsLogin := by
  refine login_bind (silent_request rfl) fun _ => login_bind (silent_request rfl) fun _ =>
    login_bind (silent_request rfl) fun _ => login_bind (silent_managed _) fun _ => ?_
  exact tells_welcome rfl rfl fun texts hwelcomes => follows_bindE.2 <|
    (calm_managed _ texts).mono fun r texts' ⟨htexts, hr⟩ => by
      subst htexts
      cases r with
      | error e => exact .inr ⟨hwelcomes.greets, fun ⟨x, h⟩ => hr ⟨x, by cases h; rfl⟩⟩
      | ok requests =>
        exact (tells_notifyPending hwelcomes requests).mono fun _ _ h => .inr ⟨h.1.greets, h.2⟩

theorem tells_login : Tells [] (handleLogin msg) EndsLogin := by
  refine follows_ite.2 ⟨fun _ => login_refused _, fun _ => ?_⟩
  refine login_bind (silent_read _) fun username => login_bind (silent_read _) fun password =>
    login_bind (silent_managed _) fun r => ?_
  cases r with
  | error message => exact login_refused _
  | ok user =>
    refine login_bind (silent_request rfl) fun found => ?_
    have henter := tells_enter user
    cases found with
    | none => exact henter
    | some existing =>
      exact login_bind (silent_request rfl) fun _ =>
        login_bind (silent_request rfl) fun _ => henter

/-! ## Every message -/

theorem IsAnswer.replies {kind : MessageKind} {type : String} (hlogin : type ≠ "login")
    (hregister : type ≠ "register") (hauth : s.authenticated = true)
    (hkind : messageKinds.lookup type = some kind) {text : Json} (h : IsAnswer kind text) :
    RepliesTo s type [text] := by
  unfold RepliesTo
  rw [if_neg hlogin, if_neg hregister, if_neg (by simp [hauth]), hkind]
  exact ⟨text, rfl, h⟩

theorem lookup_privateMessage {type : String}
    (h : messageKinds.lookup type = some .privateMessage) : type = "privateMessage" := by
  have hmem := (lookup_iff_mem (by decide)).1 h
  simpa [messageKinds] using hmem

theorem tells_dispatch {type : String} (htype : msg.find? "type" = some (.string type)) :
    Tells [] (dispatch s msg) fun r texts => (texts = [] ∧ ∃ e, r = .error e) ∨
      RepliesTo s type texts ∧ (IsJson r → type = "privateMessage") := by
  have hread : read (Run.ofExcept (Json.string type).getString) = pure type := rfl
  unfold dispatch
  rw [htype]
  simp only [hread, pure_bind]
  by_cases hlogin : type = "login"
  · rw [if_pos hlogin]
    refine tells_login.mono fun r texts h => h.imp_right fun h => ⟨?_, fun hr => absurd hr h.2⟩
    rw [RepliesTo, if_pos hlogin]
    exact h.1
  by_cases hregister : type = "register"
  · rw [if_neg hlogin, if_pos hregister]
    refine (once_register []).mono fun r texts h => h.imp_right fun ⟨text, htext, htexts, hr⟩ =>
      ⟨?_, hr⟩
    rw [RepliesTo, if_neg hlogin, if_pos hregister]
    exact ⟨text, htexts, htext⟩
  rw [if_neg hlogin, if_neg hregister]
  by_cases hauth : s.authenticated = true
  · rw [if_neg (by simp [hauth])]
    cases hkind : messageKinds.lookup type with
    | none =>
      refine .inr ⟨?_, fun ⟨_, h⟩ => by cases h⟩
      rw [RepliesTo, if_neg hlogin, if_neg hregister, if_neg (by simp [hauth]), hkind]
    | some kind =>
      refine (once_handle kind []).mono fun r texts h => h.imp_right
        fun ⟨text, htext, htexts, hr⟩ => ⟨?_, fun hjson => ?_⟩
      · rw [htexts]
        exact htext.replies hlogin hregister hauth hkind
      · obtain rfl := hr hjson
        exact lookup_privateMessage hkind
  · rw [if_pos (by simp [hauth])]
    refine ⟨trivial, fun _ => .inr ⟨?_, fun ⟨_, h⟩ => by cases h⟩⟩
    rw [RepliesTo, if_neg hlogin, if_neg hregister, if_pos (by simp [hauth])]
    rfl

theorem tells_caught {p : GatewayM Unit} {Q R : Except Failure Unit → List Json → Prop}
    (hp : Tells [] p Q) (hjson : ∀ e texts, Q (.error (.json e)) texts →
      R (.ok ()) (texts ++ [invalidJson]))
    (hother : ∀ r texts, Q r texts → ¬ IsJson r → R r texts) : Tells [] (caught p) R := by
  refine follows_bind.2 (hp.mono fun r texts h => ?_)
  rcases r with (e | - | stop) | u
  · exact ⟨trivial, fun _ => hjson e texts h⟩
  · exact hother _ _ h fun ⟨_, hr⟩ => by cases hr
  · exact hother _ _ h fun ⟨_, hr⟩ => by cases hr
  · exact hother _ _ h fun ⟨_, hr⟩ => by cases hr

/-- A type that is no string -/
theorem tells_badType {member : Json} (htype : msg.find? "type" = some member)
    {e : JsonError} (hstring : member.getString = .error e) :
    Tells [] (dispatch s msg) fun r texts => IsJson r ∧ texts = [] := by
  have hread : read (Run.ofExcept member.getString) = throw (.json (.typeError e)) := by
    rw [hstring]
    rfl
  unfold dispatch
  rw [htype]
  simp only [hread]
  exact ⟨⟨_, rfl⟩, rfl⟩

theorem tells_message (parsed : Except JsonException Json) :
    Tells [] (handleWsMessage s parsed) (Answered s parsed) := by
  cases parsed with
  | error e => exact ⟨trivial, fun _ => rfl⟩
  | ok msg =>
  cases htype : msg.find? "type" with
  | none =>
    have hnone : handleWsMessage s (.ok msg) = caught (pure ()) := by
      rw [handleWsMessage, dispatch, htype]
    rw [hnone]
    show Answered s (.ok msg) (.ok ()) []
    rw [Answered, Replies, htype]
  | some member =>
  cases hstring : member.getString with
  | error e =>
    refine tells_caught (tells_badType htype hstring) (fun _ texts h => ?_)
      fun _ _ h hr => absurd h.1 hr
    rw [h.2, Answered, Replies, htype]
    cases member with
    | string type => cases hstring
    | _ => rfl
  | ok type =>
    obtain rfl : member = .string type := by
      cases member with
      | string type => rw [Except.ok.inj hstring]
      | _ => cases hstring
    have hreplies (texts : List Json) : Replies s (.ok msg) texts =
        (RepliesTo s type texts ∨ RepliesFailed s type texts) := by
      rw [Replies, htype]
    refine tells_caught (tells_dispatch htype) (fun e texts h => ?_) fun r texts h hr => ?_
    · rw [Answered, hreplies]
      refine .inr ⟨texts, rfl, ?_⟩
      exact h.imp (·.1) fun h => ⟨h.2 ⟨e, rfl⟩, h.1⟩
    · rcases r with (e | - | stop) | u
      · exact absurd ⟨e, rfl⟩ hr
      · exact h.imp (·.1) fun h => (hreplies texts).mpr (.inl h.1)
      · exact h.imp (·.1) fun h => (hreplies texts).mpr (.inl h.1)
      · rcases h with ⟨-, e, he⟩ | h
        · cases he
        · exact (hreplies texts).mpr (.inl h.1)

end

end ChatApp.Gateway.Handlers
