/-
  Every message to the gateway keeps to the policy of `Gateway.Policy`, whatever the managers, the
  table of connections, the clock and the push services answer. The managers have been followed in
  `Session.Rights`; what they have shown there is known here (`guarded_managed`).
-/
import ChatApp.Gateway.Policy
import ChatApp.Session.Rights

namespace ChatApp.Gateway.Handlers

open ChatApp.Lib ChatApp.Lib.Prog ChatApp.Database ChatApp.Protocol ChatApp.Gateway.Messages
open ChatApp.Session

def audit (s : Session) (msg : Json) : Audit interface Event := ⟨Allowed s msg, Sigma.mk⟩

abbrev Guarded {α : Type} (s : Session) (msg : Json) (l : List Event) (p : GatewayM α)
    (Q : α → List Event → Prop) : Prop := Prog.Guarded (audit s msg) l p Q

abbrev Safe {α : Type} (s : Session) (msg : Json) (p : GatewayM α) : Prop :=
  Prog.Safe (audit s msg) p

variable {s t : Session} {msg : Json} {l : List Event} {α β : Type} {p : GatewayM α}
  {f : α → GatewayM β} {R : β → List Event → Prop}

/-! ## Programs -/

theorem guarded_request {c : Call} {Q : c.Answer → List Event → Prop} (hc : Allowed s msg l c)
    (hQ : ∀ a, Q a (l ++ [⟨c, a⟩])) : Guarded s msg l (request c) Q := Prog.guarded_lift hc hQ

/-- A call, and what is done with its answer. -/
theorem guarded_ask {c : Call} {g : c.Answer → GatewayM β} (hc : Allowed s msg l c)
    (hg : ∀ a, Guarded s msg (l ++ [⟨c, a⟩]) (g a) R) : Guarded s msg l (request c >>= g) R :=
  guarded_bind (guarded_request (Q := fun a l' => l' = l ++ [⟨c, a⟩]) hc fun _ => rfl)
    fun a _ _ h => h ▸ hg a

theorem guarded_read {r : Run α} (hf : ∀ a, r.result = .value a → Guarded s msg l (f a) R) :
    Guarded s msg l (read r >>= f) R := by
  have hstop (e : Failure) : Guarded s msg l ((throw e : GatewayM α) >>= f) R :=
    guarded_bind (guarded_throw (Q := fun _ _ => False) e) fun _ _ _ h => h.elim
  unfold read
  cases h : r.result with
  | value a =>
    rw [pure_bind]
    exact hf a h
  | threw e => exact hstop _
  | undefined => exact hstop _

theorem safe_read {r : Run α} (hf : ∀ a, Safe s msg (f a)) : Safe s msg (read r >>= f) :=
  fun l => guarded_read fun a _ => hf a l

theorem guarded_forEach {g : α → GatewayM Unit} (xs : List α)
    (hg : ∀ x ∈ xs, ∀ l', l <+: l' → Guarded s msg l' (g x) fun _ _ => True) :
    Guarded s msg l (forEach g xs) fun _ _ => True := by
  induction xs generalizing l with
  | nil => exact guarded_pure trivial
  | cons x xs ih =>
    refine guarded_bind (hg x List.mem_cons_self l List.prefix_rfl) fun _ l₁ hl₁ _ => ih ?_
    exact fun y hy l' hl' => hg y (List.mem_cons_of_mem _ hy) l' (hl₁.trans hl')

theorem safe_sendText (text : Json) : Safe s msg (sendText text) :=
  fun _ => guarded_request trivial fun _ => trivial

/-! ## Managers -/

theorem told_append_manager (l : List Event) (c : Session.Call) (a : c.Answer) :
    told (l ++ [⟨.manager c, a⟩]) = told l ++ [⟨c, a⟩] := by
  simp [told, Event.told]

theorem audited_managed {q : Prog Session.interface α} {Q : α → List Session.Event → Prop}
    (ht : Acts s msg l t) (h : Follows (t.audit msg).protocol (told l) q Q) :
    Audited (audit s msg) l (Prog.interpret (fun c => Prog.perform (I := interface) (.manager c)) q)
      fun r l' => Q r (told l') := by
  induction q generalizing l with
  | ret a => exact audited_ret h
  | call c k ih =>
    refine audited_call ⟨t, ht, h.1⟩ fun a => ih a (ht.mono (List.prefix_append _ _)) ?_
    have hnext := h.2 a
    rw [show (audit s msg).record (.manager c) a = ⟨.manager c, a⟩ from rfl, told_append_manager]
    exact hnext

theorem guarded_managed {q : SessionM α} {Q : α → List Session.Event → Prop}
    (ht : Acts s msg l t) (h : Session.Guarded t msg (told l) q Q) :
    Guarded s msg l (managed q) fun a l' => Q a (told l') := by
  refine audited_bind (audited_managed ht h) fun r l' _ hr => audited_ret fun a ha => ?_
  cases r with
  | error stop => cases ha
  | ok b =>
    obtain rfl : b = a := Except.ok.inj ha
    exact hr.2 b rfl

theorem acts_self : Acts s msg l s := .inl rfl

theorem safe_managed {q : SessionM α} (h : Session.Safe s msg q) : Safe s msg (managed q) :=
  fun l => (guarded_managed acts_self (h (told l))).any

theorem guarded_db {q : DbProg α} {Q : α → List Session.Event → Prop} (ht : Acts s msg l t)
    (h : Audited (t.dbAudit msg) (told l) q Q) :
    Guarded s msg l (db q) fun a l' => Q a (told l') :=
  guarded_managed ht (Session.guarded_db h)

theorem safe_db {q : DbProg α} (h : ∀ l, Session.Permitted s msg l q) : Safe s msg (db q) :=
  safe_managed (Session.safe_db h)

theorem safe_ask {q : SessionM α} (hq : Session.Safe s msg q) (hf : ∀ a, Safe s msg (f a)) :
    Safe s msg (managed q >>= f) :=
  safe_bind (safe_managed hq) hf

theorem safe_fetch {q : DbProg α} (h : ∀ l, Session.Permitted s msg l q)
    (hf : ∀ a, Safe s msg (f a)) : Safe s msg (db q >>= f) :=
  safe_bind (safe_db h) hf

/-- A user is told what he may be told then. -/
theorem guarded_notify (hauth : s.authenticated = true) {userId : Nat} {text : GatewayM Json}
    (htext : ∀ l', l <+: l' → Guarded s msg l' text fun text l'' => Notice s msg l'' userId text) :
    Guarded s msg l (notify userId text) fun _ _ => True := by
  refine guarded_ask (.inl hauth) fun found => ?_
  cases found with
  | none => exact guarded_pure trivial
  | some peer =>
    refine guarded_bind (htext _ (List.prefix_append _ _)) fun text l' hl hnotice => ?_
    have hfound : Found (l ++ [⟨.getConnection userId, some peer⟩]) userId peer :=
      List.mem_append_right _ (List.mem_singleton.2 rfl)
    exact guarded_request ⟨userId, hfound.mono hl, hnotice, .inl hauth⟩ fun _ => trivial

theorem guarded_flagged {type : String} {operation : SessionM (Except String Unit)}
    {after : GatewayM Unit} {F : List Session.Event → Prop}
    (hop : Session.Guarded s msg (told l) operation fun r l' => r = .ok () → F l')
    (hF : ∀ l l', l <+: l' → F l → F l')
    (hafter : ∀ l', F (told l') → Guarded s msg l' after fun _ _ => True) :
    Guarded s msg l (flagged type operation after) fun _ _ => True := by
  refine guarded_bind (guarded_managed acts_self hop) fun r l₁ _ hr => ?_
  cases r with
  | error message => exact safe_sendText _ l₁
  | ok u =>
    refine guarded_bind (safe_sendText _ l₁) fun _ l₂ hl₂ _ => hafter l₂ ?_
    exact hF _ _ (told_mono hl₂) (hr rfl)

theorem safe_flagged {type : String} {operation : SessionM (Except String Unit)}
    (hop : Session.Safe s msg operation) : Safe s msg (flagged type operation (pure ())) :=
  fun l => guarded_flagged (F := fun _ => True) ((hop (told l)).mono fun _ _ _ _ _ => trivial)
    (fun _ _ _ _ => trivial) fun _ _ => guarded_pure trivial

theorem safe_flaggedDb {type : String} {q : DbProg Bool} (h : ∀ l, Session.Permitted s msg l q) :
    Safe s msg (flaggedDb type q) :=
  safe_fetch h fun _ => safe_sendText _

/-! ## Users -/

theorem result_bind {r : Run α} {g : α → Run β} {x : β} (h : (r >>= g).result = .value x) :
    ∃ a, r.result = .value a ∧ (g a).result = .value x := by
  have h : (Run.andThen r g).result = .value x := h
  unfold Run.andThen at h
  cases hr : r.result with
  | value a =>
    rw [hr] at h
    exact ⟨a, rfl, h⟩
  | threw e =>
    rw [hr] at h
    cases h
  | undefined =>
    rw [hr] at h
    cases h

theorem find?_of_index {key : String} {member : Json}
    (h : (index msg key).result = .value member) :
    msg.isObject = true ∧ msg.find? key = some member := by
  unfold index at h
  cases hobj : msg.isObject with
  | false => simp [hobj] at h
  | true =>
    cases hfind : msg.find? key with
    | none => simp [hobj, hfind] at h
    | some found =>
      simp only [hobj, hfind, if_true, Result.value.injEq] at h
      exact ⟨rfl, congrArg some h⟩

theorem valueString_of_index {key x : String} (h : (indexString msg key).result = .value x) :
    msg.valueString key "" = .ok x := by
  obtain ⟨member, hmember, hget⟩ := result_bind h
  obtain ⟨hobj, hfind⟩ := find?_of_index hmember
  unfold Json.valueString Json.valueWith
  simp only [hobj, hfind, if_true]
  cases hstring : member.getString with
  | error e =>
    rw [hstring] at hget
    cases hget
  | ok y =>
    rw [hstring] at hget
    exact congrArg Except.ok (Result.value.inj hget)

theorem safe_register : Safe s msg (handleRegister msg) := by
  refine safe_ite (safe_sendText _) (safe_read fun username => safe_read fun password =>
    safe_read fun nickname => safe_ite (safe_sendText _) (safe_ite (safe_sendText _) ?_))
  refine safe_ask (Session.safe_registerUser _ _ _) fun r => ?_
  cases r with
  | error message => exact safe_sendText _
  | ok userId => exact safe_sendText _

theorem safe_userSearch (hauth : s.authenticated = true) : Safe s msg (handleUserSearch msg) :=
  safe_read fun _ => safe_fetch (fun _ => permitted_rows hauth) fun _ => safe_sendText _

theorem safe_passwordUpdate (hauth : s.authenticated = true) :
    Safe s msg (handlePasswordUpdate s msg) := by
  refine fun l => guarded_read fun oldPassword hold => guarded_read fun newPassword _ =>
    guarded_ite (fun _ => safe_sendText _ l) fun _ => ?_
  refine guarded_bind (guarded_managed acts_self
    (guarded_updatePassword hauth (valueString_of_index hold) newPassword)) fun r l₁ _ _ => ?_
  cases r with
  | ok u => exact safe_sendText _ l₁
  | error message => exact safe_sendText _ l₁

theorem safe_notifyPending (requests : List (UserInfo × FriendRelation)) :
    Safe s msg (notifyPending requests) :=
  fun _ => guarded_forEach requests fun _ _ l' _ =>
    guarded_ite (fun _ => safe_sendText _ l') fun _ => guarded_pure trivial

/-- What follows a login that succeeds -/
theorem guarded_enter {user : UserInfo} (h : LoggedIn msg (told l) user.userId) :
    Guarded s msg l (do
      request (.setUserId user.userId)
      request (.setAuthenticated true)
      request .addConnection
      let _ ← db (updateUserOnlineStatus user.userId .online)
      sendText (outcome "loginResponse" true [
        ("user_id", .number user.userId),
        ("user_info", .object [
          ("user_id", .number user.userId),
          ("username", .string user.username),
          ("nickname", .string user.nickname),
          ("avatar_url", .string user.avatarUrl),
          ("status", .string "ONLINE")])])
      notifyPending (← db (Friends.FriendManager.getFriendRequests user.userId)))
      fun _ _ => True := by
  refine guarded_bind (Q := fun _ l' => (⟨.setUserId user.userId, ()⟩ : Event) ∈ l')
    (guarded_request h fun _ => List.mem_append_right _ (List.mem_singleton.2 rfl))
    fun _ l₁ hl₁ hset => ?_
  have h := h.mono (told_mono hl₁)
  have hauth : Allowed s msg l₁ (.setAuthenticated true) := ⟨rfl, user.userId, h, hset⟩
  refine guarded_bind (guarded_request (Q := fun _ _ => True) hauth fun _ => trivial)
    fun _ l₂ hl₂ _ => ?_
  have h := h.mono (told_mono hl₂)
  have hadd : Allowed s msg l₂ .addConnection := ⟨user.userId, h, hl₂.subset hset⟩
  refine guarded_bind (guarded_request (Q := fun _ _ => True) hadd fun _ => trivial)
    fun _ l₃ hl₃ _ => ?_
  have h := h.mono (told_mono hl₃)
  have honline : s.Permits msg (told l₃) (.users (.updateOnlineStatus user.userId .online)) :=
    .inl ⟨h, rfl⟩
  have hupdate := permitted_locked (permitted_query honline)
  refine guarded_bind (guarded_db acts_self hupdate.audited) fun _ l₄ hl₄ _ => ?_
  have h := h.mono (told_mono hl₄)
  refine guarded_bind (safe_sendText _ l₄) fun _ l₅ hl₅ _ => ?_
  -- the requests are read for the user who has just logged in
  have hacts : Acts s msg l₅ ⟨s.id, user.userId, true⟩ :=
    .inr ⟨user.userId, h.mono (told_mono hl₅), rfl⟩
  have hread : Permitted ⟨s.id, user.userId, true⟩ msg (told l₅)
      (Friends.FriendManager.getFriendRequests user.userId) :=
    permitted_bind (permitted_rows (by exact rfl)) fun _ => permitted_pure _
  exact guarded_then (guarded_db hacts hread.audited) fun _ => safe_notifyPending _

theorem safe_login : Safe s msg (handleLogin msg) := by
  refine fun l => guarded_ite (fun _ => safe_sendText _ l) fun _ =>
    guarded_read fun username hname => guarded_read fun password hpassword => ?_
  refine guarded_bind (guarded_managed acts_self (guarded_login (valueString_of_index hname)
    (valueString_of_index hpassword))) fun r l₁ _ hr => ?_
  cases r with
  | error message => exact safe_sendText _ l₁
  | ok user =>
  have h := hr user rfl
  refine guarded_bind (Q := fun found l' => ∀ peer, found = some peer → Found l' user.userId peer)
    (guarded_request (.inr h) fun found peer hfound => ?_) fun found l₂ hl₂ hfound => ?_
  · subst hfound
    exact List.mem_append_right _ (List.mem_singleton.2 rfl)
  have h := h.mono (told_mono hl₂)
  cases found with
  | none => exact guarded_enter h
  | some existing =>
  have hfound := hfound existing rfl
  have htext : Allowed s msg l₂ (.sendTextTo existing kickedText) :=
    ⟨user.userId, hfound, .kicked rfl h, .inr h⟩
  refine guarded_bind (guarded_request (Q := fun _ _ => True) htext fun _ => trivial)
    fun _ l₃ hl₃ _ => ?_
  have h := h.mono (told_mono hl₃)
  have hclose : Allowed s msg l₃ (.close existing) := ⟨user.userId, hfound.mono hl₃, h⟩
  refine guarded_bind (guarded_request (Q := fun _ _ => True) hclose fun _ => trivial)
    fun _ l₄ hl₄ _ => ?_
  exact guarded_enter (h.mono (told_mono hl₄))

/-! ## Messages -/

theorem guarded_pushJpush (hauth : s.authenticated = true) {receiverId : Nat}
    (hnone : (⟨.getConnection receiverId, none⟩ : Event) ∈ l) (title content : String)
    (data : List (String × String)) {otherwise : GatewayM Unit}
    (hother : ∀ l', l <+: l' → Guarded s msg l' otherwise fun _ _ => True) :
    Guarded s msg l (pushJpush receiverId title content data otherwise) fun _ _ => True := by
  refine guarded_bind (Q := fun _ _ => True) (guarded_request hauth fun _ => trivial)
    fun hasJpush l₁ hl₁ _ => guarded_ite (fun _ => ?_) fun _ => hother l₁ hl₁
  exact guarded_request ⟨hauth, hl₁.subset hnone⟩ fun _ => trivial

theorem guarded_pushFcm (hauth : s.authenticated = true) {receiverId : Nat}
    (hnone : (⟨.getConnection receiverId, none⟩ : Event) ∈ l) (title content : String)
    (data : List (String × String)) :
    Guarded s msg l (pushFcm receiverId title content data) fun _ _ => True := by
  refine guarded_bind (Q := fun _ _ => True) (guarded_request hauth fun _ => trivial)
    fun hasFcm l₁ hl₁ _ => guarded_ite (fun _ => ?_) fun _ => guarded_pure trivial
  refine guarded_bind (Q := fun _ _ => True)
    (guarded_request ⟨hauth, hl₁.subset hnone⟩ fun _ => trivial) fun sent l₂ _ _ => ?_
  exact guarded_ite (fun _ => guarded_pure trivial) fun _ => guarded_throw _

theorem guarded_storePrivateMessage {l : List Session.Event} (hauth : s.authenticated = true)
    (m : PrivateMessage) :
    Session.Guarded s msg l (storePrivateMessage s.userId m) fun r l' =>
      r.isSome = true → StoredFor l' s.userId m.receiverId m.content := by
  have hpermits (now : Int) : s.Permits msg l (.privateMessages (.insert s.userId m.receiverId
      ⟨UInt8.ofInt m.messageType⟩ m.content m.mediaUrl "" .sent now)) := .inl ⟨hauth, rfl⟩
  refine guarded_bind (Session.guarded_db (audited_saving hpermits)) fun saved l₁ _ hsaved => ?_
  cases saved with
  | none => exact guarded_pure fun h => by cases h
  | some message =>
    obtain ⟨now, hstored⟩ := hsaved rfl
    refine guarded_bind (guarded_getUserById s.userId) fun sender l₂ hl₂ _ => guarded_pure ?_
    exact fun _ => ⟨_, _, _, _, now, hl₂.subset hstored⟩

theorem guarded_forwardPrivateMessage (hauth : s.authenticated = true) {m : PrivateMessage}
    (hstored : StoredFor (told l) s.userId m.receiverId m.content) (message : Message)
    (sender : Option UserInfo) :
    Guarded s msg l (forwardPrivateMessage s m message sender) fun _ _ => True := by
  refine guarded_ask (.inl hauth) fun found => ?_
  cases found with
  | some peer =>
    have hfound : Found (l ++ [⟨.getConnection m.receiverId, some peer⟩]) m.receiverId peer :=
      List.mem_append_right _ (List.mem_singleton.2 rfl)
    refine guarded_bind (Q := fun _ _ => True) (guarded_request trivial fun _ => trivial)
      fun now l₁ hl₁ _ => ?_
    have hstored := hstored.mono (told_mono ((List.prefix_append _ _).trans hl₁))
    have hnotice : Notice s msg l₁ m.receiverId
        (privateMessageNotification s.userId m message now sender) :=
      .privateMessage m.content rfl rfl rfl hstored
    exact guarded_request ⟨m.receiverId, hfound.mono hl₁, hnotice, .inl hauth⟩ fun _ => trivial
  | none =>
    have hnone : (⟨.getConnection m.receiverId, none⟩ : Event) ∈
        l ++ [⟨.getConnection m.receiverId, none⟩] :=
      List.mem_append_right _ (List.mem_singleton.2 rfl)
    exact guarded_pushJpush hauth hnone _ _ _ fun l' hl =>
      guarded_pushFcm hauth (hl.subset hnone) _ _ _

theorem safe_privateMessage (hauth : s.authenticated = true) :
    Safe s msg (handlePrivateMessage s msg) := by
  refine safe_read fun m l => guarded_bind
    (guarded_managed acts_self (guarded_storePrivateMessage hauth m)) fun saved l₁ _ hsaved => ?_
  cases saved with
  | none => exact safe_sendText _ l₁
  | some x =>
    have hstored := hsaved rfl
    refine guarded_bind (Q := fun _ _ => True) (guarded_request trivial fun _ => trivial)
      fun now l₂ hl₂ _ => guarded_bind (safe_sendText _ l₂) fun _ l₃ hl₃ _ => ?_
    exact guarded_forwardPrivateMessage hauth
      (hstored.mono (told_mono (hl₂.trans hl₃))) x.1 x.2

theorem guarded_getGroupMembers {l : List Session.Event} (groupId : Nat) :
    Session.Guarded s msg l (GroupManager.getGroupMembers groupId) fun ids l' =>
      ∀ userId ∈ ids, Listed l' groupId userId := by
  have hread : Audited (s.dbAudit msg) l (Database.getGroupMembers groupId) fun r l' =>
      ∀ userId ∈ r.2, Listed l' groupId userId := by
    have hpermits : s.Permits msg l (.groupMembers (.ofGroup groupId)) := trivial
    refine audited_bind (audited_select hpermits)
      fun rows l' _ hrows => audited_ret fun userId hmem => ?_
    cases rows with
    | none => cases hmem
    | some rows =>
      obtain ⟨row, hrow, rfl⟩ := List.mem_map.1 hmem
      exact ⟨rows, hrows rows rfl, row, hrow, rfl⟩
  exact guarded_bind (Session.guarded_db hread) fun r l' _ hr => guarded_pure hr

theorem guarded_forwardGroupMessage (hauth : s.authenticated = true) {m : GroupMessage}
    {memberId : Nat} (hmember : Belongs (told l) m.groupId s.userId)
    (hlisted : Listed (told l) m.groupId memberId)
    (hstored : StoredIn (told l) s.userId m.groupId m.content) (message : Message)
    (sender : Option UserInfo) (group : Option GroupInfo) :
    Guarded s msg l (forwardGroupMessage s m message sender group memberId) fun _ _ => True := by
  refine guarded_ite (fun _ => guarded_pure trivial) fun _ => guarded_ask (.inl hauth)
    fun found => ?_
  cases found with
  | some peer =>
    have hfound : Found (l ++ [⟨.getConnection memberId, some peer⟩]) memberId peer :=
      List.mem_append_right _ (List.mem_singleton.2 rfl)
    refine guarded_bind (Q := fun _ _ => True) (guarded_request trivial fun _ => trivial)
      fun now l₁ hl₁ _ => ?_
    have hl := told_mono ((List.prefix_append l [⟨.getConnection memberId, some peer⟩]).trans hl₁)
    have hnotice : Notice s msg l₁ memberId
        (groupMessageNotification s m message sender group now) :=
      .groupMessage m.groupId m.content rfl rfl rfl rfl (hmember.mono hl) (hlisted.mono hl)
        (hstored.mono hl)
    exact guarded_request ⟨memberId, hfound.mono hl₁, hnotice, .inl hauth⟩ fun _ => trivial
  | none =>
    exact guarded_pushJpush hauth (List.mem_append_right _ (List.mem_singleton.2 rfl)) _ _ _
      fun _ _ => guarded_pure trivial

theorem safe_groupMessage (hauth : s.authenticated = true) :
    Safe s msg (handleGroupMessage s msg) := by
  refine safe_read fun m l => guarded_bind
    (guarded_managed acts_self (guarded_isMember m.groupId s.userId)) fun member l₁ _ hmember => ?_
  refine guarded_ite (fun _ => safe_sendText _ l₁) fun hnot => ?_
  have hmember := hmember (by simpa using hnot)
  have hpermits (now : Int) : s.Permits msg (told l₁) (.groupMessages (.insert m.groupId s.userId
      ⟨UInt8.ofInt m.messageType⟩ m.content m.mediaUrl "" .sent now)) := ⟨⟨hauth, rfl⟩, hmember⟩
  refine guarded_bind (guarded_db acts_self (audited_saving hpermits)) fun saved l₂ hl₂ hsaved => ?_
  cases saved with
  | none => exact safe_sendText _ l₂
  | some message =>
  obtain ⟨now, hstored⟩ := hsaved rfl
  have hstored : StoredIn (told l₂) s.userId m.groupId m.content := ⟨_, _, _, _, now, hstored⟩
  have hmember := hmember.mono (told_mono hl₂)
  refine guarded_bind (guarded_db acts_self (permitted_getUserById _).audited)
    fun sender l₃ hl₃ _ => guarded_bind (guarded_db acts_self (permitted_getGroupById _).audited)
      fun group l₄ hl₄ _ => guarded_bind (guarded_managed acts_self (guarded_getGroupMembers _))
        fun ids l₅ hl₅ hlisted => guarded_bind (Q := fun _ _ => True)
          (guarded_request trivial fun _ => trivial) fun time l₆ hl₆ _ =>
            guarded_bind (safe_sendText _ l₆) fun _ l₇ hl₇ _ => ?_
  refine guarded_forEach ids fun memberId hmem l' hl => ?_
  have hl₅ := told_mono ((hl₆.trans hl₇).trans hl)
  have hl := (told_mono ((hl₃.trans hl₄).trans ‹l₄ <+: l₅›)).trans hl₅
  exact guarded_forwardGroupMessage hauth (hmember.mono hl) ((hlisted memberId hmem).mono hl₅)
    (hstored.mono hl) _ _ _

theorem safe_privateHistory (hauth : s.authenticated = true) :
    Safe s msg (handlePrivateHistory s msg) := by
  refine safe_read fun _ => safe_read fun _ => safe_read fun _ => safe_ask ?_ fun _ =>
    safe_sendText _
  exact Session.safe_fetch (fun _ => permitted_rows ⟨hauth, rfl⟩) fun _ => safe_pure _

theorem safe_groupHistory (hauth : s.authenticated = true) :
    Safe s msg (handleGroupHistory s msg) := by
  refine safe_read fun groupId => safe_read fun _ => safe_read fun _ => safe_bind
    (fun _ => (guarded_managed acts_self (guarded_isMember groupId s.userId)).any) fun member =>
      safe_ite (safe_sendText _) (safe_ask ?_ fun _ => safe_sendText _)
  exact Session.safe_fetch (fun _ => permitted_rows hauth) fun _ => safe_pure _

/-! ## Friends -/

theorem guarded_friendNotice (hauth : s.authenticated = true) (toUserId : Nat)
    (fromUser : Option UserInfo) (message : String) :
    Guarded s msg l (notify toUserId do
      let now ← request .time
      return requestNotification s.userId fromUser [
        ("message", .string message), ("created_at", .number now)]) fun _ _ => True :=
  guarded_notify hauth fun l' _ => guarded_ask trivial fun _ =>
    guarded_pure (.friendRequest rfl rfl)

theorem safe_friendRequest (hauth : s.authenticated = true) :
    Safe s msg (handleFriendRequest s msg) := by
  refine safe_read fun toUserId => safe_read fun message =>
    safe_fetch (fun _ => permitted_addFriendRequest ⟨hauth, rfl⟩ toUserId) fun r => ?_
  cases r with
  | error error => exact safe_sendText _
  | ok u =>
    exact safe_fetch (fun _ => permitted_getUserById _) fun fromUser =>
      safe_bind (safe_sendText _) fun _ l => guarded_friendNotice hauth toUserId fromUser message

/-- The user who has asked is told, and he only. -/
theorem guarded_acceptNotice (hauth : s.authenticated = true) {fromUserId : Nat}
    (hasked : AskedBy (told l) s.userId fromUserId) :
    Guarded s msg l (notify fromUserId do
      let accepter ← db (getUserById s.userId)
      return acceptNotification s accepter) fun _ _ => True := by
  refine guarded_notify hauth fun l' hl => guarded_bind
    (guarded_db acts_self (permitted_getUserById _).audited) fun accepter l'' hl' _ => ?_
  exact guarded_pure (.friendAccept rfl rfl (hasked.mono (told_mono (hl.trans hl'))))

theorem safe_friendAccept (hauth : s.authenticated = true) :
    Safe s msg (handleFriendAccept s msg) := by
  refine safe_read fun fromUserId l => guarded_bind (guarded_db acts_self
    (audited_acceptFriendRequest ⟨hauth, rfl⟩ fromUserId)) fun r l₁ _ hasked => ?_
  cases r with
  | error error => exact safe_sendText _ l₁
  | ok u =>
    refine guarded_bind (safe_sendText _ l₁) fun _ l₂ hl₂ _ => ?_
    exact guarded_acceptNotice hauth ((hasked rfl).mono (told_mono hl₂))

theorem safe_friendReject (hauth : s.authenticated = true) :
    Safe s msg (handleFriendReject s msg) :=
  safe_read fun fromUserId => safe_flagged (Session.safe_db fun _ =>
    permitted_rejectFriendRequest ⟨hauth, rfl⟩ fromUserId)

theorem safe_friendRemove (hauth : s.authenticated = true) :
    Safe s msg (handleFriendRemove s msg) :=
  safe_read fun _ => safe_flagged fun _ => Session.guarded_db (audited_forFriends ⟨hauth, rfl⟩
    fun _ hfriend => permitted_locked (permitted_query ⟨⟨hauth, rfl⟩, hfriend⟩))

theorem safe_friendList (hauth : s.authenticated = true) : Safe s msg (handleFriendList s) :=
  safe_fetch (fun _ => permitted_rows ⟨hauth, rfl⟩) fun _ => safe_sendText _

theorem safe_friendRequests (hauth : s.authenticated = true) :
    Safe s msg (handleFriendRequests s) :=
  safe_fetch (fun _ => permitted_bind (permitted_rows hauth) fun _ => permitted_pure _) fun _ =>
    safe_sendText _

/-! ## Groups -/

theorem safe_createGroup (hauth : s.authenticated = true) :
    Safe s msg (handleCreateGroup s msg) := by
  refine safe_read fun name => safe_read fun description => safe_ask ?_ fun r => ?_
  · refine safe_ite (safe_pure _) (safe_bind
      (fun _ => Session.guarded_db (audited_createGroup ⟨hauth, rfl⟩ _ _)) fun created => ?_)
    split
    · exact safe_pure _
    · exact safe_pure _
  · cases r with
    | ok groupId => exact safe_sendText _
    | error message => exact safe_sendText _

theorem safe_joinAll (hauth : s.authenticated = true) (groupId : Nat) (userIds : List Nat)
    (allSuccess : Bool) : Safe s msg (joinAll groupId allSuccess userIds) := by
  induction userIds generalizing allSuccess with
  | nil => exact safe_pure _
  | cons userId userIds ih =>
    refine safe_ask (safe_joinGroup hauth groupId userId) fun r => ?_
    cases r with
    | ok u => exact ih allSuccess
    | error message => exact ih false

theorem safe_invite (hauth : s.authenticated = true) :
    Safe s msg (handleInviteGroupMembers s msg) := by
  refine safe_read fun groupId => safe_read fun userIds =>
    safe_bind (safe_joinAll hauth groupId userIds true) fun _ => safe_ite
      (safe_bind (safe_sendText _) fun _ _ => ?_) (safe_sendText _)
  refine guarded_forEach userIds fun userId _ l' _ => guarded_notify hauth fun l'' _ => ?_
  exact guarded_bind (guarded_db acts_self (permitted_getGroupById _).audited) fun group _ _ _ =>
    guarded_pure (.groupInvite rfl rfl)

theorem safe_groupKick (hauth : s.authenticated = true) : Safe s msg (handleGroupKick s msg) := by
  refine safe_read fun groupId => safe_read fun userId l => guarded_flagged
    (guarded_removeMember hauth groupId userId)
    (fun _ _ hl h => h.imp (·.mono hl) (·.mono hl)) fun l₁ hright => ?_
  refine guarded_notify hauth fun l₂ hl₂ => guarded_bind
    (guarded_db acts_self (permitted_getGroupById _).audited) fun group l₃ hl₃ _ => ?_
  have hl := told_mono (hl₂.trans hl₃)
  exact guarded_pure (.groupKicked groupId rfl rfl (hright.imp (·.mono hl) (·.mono hl)))

theorem safe_groupQuit (hauth : s.authenticated = true) : Safe s msg (handleGroupQuit s msg) :=
  safe_read fun groupId => safe_flagged (safe_leaveGroup hauth groupId)

theorem safe_groupDismiss (hauth : s.authenticated = true) :
    Safe s msg (handleGroupDismiss s msg) :=
  safe_read fun groupId => safe_flagged (safe_dismissGroup hauth groupId)

theorem safe_groupSetAdmin (hauth : s.authenticated = true) :
    Safe s msg (handleGroupSetAdmin s msg) :=
  safe_read fun groupId => safe_read fun userId => safe_read fun isAdmin =>
    safe_flagged (safe_setAdmin hauth groupId userId isAdmin)

theorem safe_groupTransferOwner (hauth : s.authenticated = true) :
    Safe s msg (handleGroupTransferOwner s msg) :=
  safe_read fun groupId => safe_read fun newOwnerId =>
    safe_flagged (safe_transferOwner hauth groupId newOwnerId)

theorem safe_groupList (hauth : s.authenticated = true) : Safe s msg (handleGroupList s) :=
  safe_ask (Session.safe_fetch (fun _ => permitted_getUserGroups ⟨hauth, rfl⟩) fun _ =>
    safe_pure _) fun _ => safe_sendText _

theorem safe_membersJson (group : GroupInfo) (memberIds : List Nat) :
    Session.Safe s msg (GroupMembers.membersJson group memberIds) := by
  induction memberIds with
  | nil => exact safe_pure _
  | cons memberId memberIds ih =>
    refine Session.safe_fetch (fun _ => permitted_getUserById _) fun found => ?_
    cases found with
    | none => exact ih
    | some user => exact safe_bind ih fun _ => safe_pure _

theorem safe_groupMembers : Safe s msg (handleGroupMembers msg) := by
  refine safe_read fun groupId => safe_fetch (fun _ => permitted_getGroupById _) fun found => ?_
  cases found with
  | none => exact safe_sendText _
  | some group => exact safe_ask (safe_membersJson group _) fun _ => safe_sendText _

/-! ## Heartbeat, tokens and favorites -/

theorem safe_heartbeat : Safe s msg handleHeartbeat :=
  fun _ => guarded_ask trivial fun _ => safe_sendText _ _

theorem safe_fcmTokenRegister (hauth : s.authenticated = true) :
    Safe s msg (handleFcmTokenRegister s msg) :=
  safe_read fun fcmToken => safe_flaggedDb fun _ => permitted_saveFcmToken hauth fcmToken

theorem safe_favoriteAdd (hauth : s.authenticated = true) :
    Safe s msg (handleFavoriteAdd s msg) :=
  safe_read fun _ => safe_read fun _ => safe_read fun _ => safe_read fun _ => safe_read fun _ =>
    safe_read fun _ => safe_flaggedDb fun _ => permitted_addFavorite hauth _ _ _ _ _ _

theorem safe_favoriteRemove (hauth : s.authenticated = true) :
    Safe s msg (handleFavoriteRemove s msg) :=
  safe_read fun _ => safe_read fun _ => safe_flaggedDb fun _ =>
    permitted_locked (permitted_query ⟨hauth, rfl⟩)

theorem safe_favoriteList (hauth : s.authenticated = true) :
    Safe s msg (handleFavoriteList s msg) :=
  safe_read fun limit => safe_read fun offset =>
    safe_fetch (fun _ => permitted_getFavorites hauth limit offset) fun _ => safe_sendText _

/-! ## Every message -/

theorem safe_handle (hauth : s.authenticated = true) (kind : MessageKind) :
    Safe s msg (handle s msg kind) := by
  cases kind with
  | privateMessage => exact safe_privateMessage hauth
  | groupMessage => exact safe_groupMessage hauth
  | friendList => exact safe_friendList hauth
  | friendRequests => exact safe_friendRequests hauth
  | groupList => exact safe_groupList hauth
  | groupMembers => exact safe_groupMembers
  | userSearch => exact safe_userSearch hauth
  | privateHistory => exact safe_privateHistory hauth
  | groupHistory => exact safe_groupHistory hauth
  | friendRequest => exact safe_friendRequest hauth
  | friendAccept => exact safe_friendAccept hauth
  | friendReject => exact safe_friendReject hauth
  | friendRemove => exact safe_friendRemove hauth
  | createGroup => exact safe_createGroup hauth
  | inviteGroupMembers => exact safe_invite hauth
  | groupKick => exact safe_groupKick hauth
  | groupQuit => exact safe_groupQuit hauth
  | groupDismiss => exact safe_groupDismiss hauth
  | groupSetAdmin => exact safe_groupSetAdmin hauth
  | groupTransferOwner => exact safe_groupTransferOwner hauth
  | heartbeat => exact safe_heartbeat
  | fcmTokenRegister => exact safe_fcmTokenRegister hauth
  | favoriteAdd => exact safe_favoriteAdd hauth
  | favoriteRemove => exact safe_favoriteRemove hauth
  | favoriteList => exact safe_favoriteList hauth
  | passwordUpdate => exact safe_passwordUpdate hauth

theorem safe_dispatch (s : Session) (msg : Json) : Safe s msg (dispatch s msg) := by
  unfold dispatch
  cases msg.find? "type" with
  | none => exact safe_pure _
  | some member =>
  refine safe_read fun type => safe_ite safe_login (safe_ite safe_register fun l => ?_)
  refine guarded_ite (fun _ => safe_sendText _ l) fun hnot => ?_
  have hauth : s.authenticated = true := by simpa using hnot
  cases messageKinds.lookup type with
  | none => exact guarded_pure trivial
  | some kind => exact safe_handle hauth kind l

theorem safe_caught {p : GatewayM Unit} (hp : Safe s msg p) : Safe s msg (caught p) := by
  intro l
  refine audited_bind (hp l) fun r l' _ _ => ?_
  rcases r with (e | - | stop) | u
  · exact safe_sendText _ l'
  all_goals exact audited_ret fun _ _ => trivial

/-- Each call that a message brings about is allowed by what the message and the answers before it
    show, whatever the answers are. -/
theorem messages_allowed {ε : Type} (env : ε → (c : Call) → c.Answer × ε) (e : ε)
    (s : Session) (msg : Json) {before after : List Event} {c : Call} {a : c.Answer}
    (h : Prog.log env (handleWsMessage s (.ok msg)).run e = before ++ ⟨c, a⟩ :: after) :
    Allowed s msg before c := by
  have hallowed := (safe_caught (safe_dispatch s msg) []).audit_log env e h
  have hrecord : before.map (fun x => (audit s msg).record x.1 x.2) = before := List.map_id _
  rwa [List.nil_append, hrecord] at hallowed

/-- User 7 writes to user 8. -/
def greeting : Json := .object [
  ("type", .string "privateMessage"), ("receiver_id", .number 8), ("content", .string "hi")]

/-- The text is stored, user 8 has a connection, and the rest fails. -/
def connected (u : Unit) (c : Call) : c.Answer × Unit :=
  match c with
  | .manager (.db (.query _)) => (true, u)
  | .getConnection _ => (some 2, u)
  | _ => (default, u)

theorem messages_allowed_greeting : Allowed ⟨1, 7, true⟩ greeting
    [⟨.manager (.db .lock), ()⟩, ⟨.manager (.db .timestamp), (0 : Int)⟩,
      ⟨.manager (.db (.query (.privateMessages (.insert 7 8 ⟨0⟩ "hi" "" "" .sent 0)))), true⟩,
      ⟨.manager (.db .insertId), (0 : Nat)⟩, ⟨.manager (.db .unlock), ()⟩,
      ⟨.manager (.db .lock), ()⟩, ⟨.manager (.db .hasConnection), false⟩,
      ⟨.manager (.db .unlock), ()⟩, ⟨.time, (0 : Int)⟩,
      ⟨.sendText (privateMessageResponse 7 ⟨8, "hi", 0, "", ""⟩
        ⟨0, 7, 8, 0, ⟨0⟩, "hi", "", "", .sent, 0⟩ 0), ()⟩,
      ⟨.getConnection 8, some 2⟩, ⟨.time, (0 : Int)⟩]
    (.sendTextTo 2 (privateMessageNotification 7 ⟨8, "hi", 0, "", ""⟩
      ⟨0, 7, 8, 0, ⟨0⟩, "hi", "", "", .sent, 0⟩ 0 none)) :=
  messages_allowed connected () _ _ (a := ()) rfl

end ChatApp.Gateway.Handlers
