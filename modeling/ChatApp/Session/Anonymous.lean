/-
  What a client sees that is not logged in. Without a login every handler answers 401 before it
  reads the body, except `handle_register` and `handle_login`, the heartbeat, and three that test
  the login late or not at all: `handle_user_info` for another user, `handle_group_info` and
  `handle_group_members`. `blind_iff` says exactly for which requests the frames do not depend on
  the tables.
-/
import ChatApp.Session.Queries

namespace ChatApp.Session

open ChatApp.Lib ChatApp.Lib.Prog ChatApp.Database ChatApp.Protocol

/-- The member is readable and not 0. -/
def names (body : Json) (key : String) : Bool :=
  match body.valueId key with
  | .ok id => decide (id ≠ 0)
  | .error _ => false

theorem names_eq_true {body : Json} {key : String} :
    names body key = true ↔ ∃ id, body.valueId key = .ok id ∧ id ≠ 0 := by
  unfold names
  cases body.valueId key with
  | error e => simp
  | ok id => simp

/-- The request is answered from the tables without a login. -/
def reveals (body : Json) : MessageType → Bool
  | .userInfo => names body "user_id"
  | .groupInfo | .groupMembers => names body "group_id"
  | _ => false

namespace Outside

variable {ρ : Type} (o : Outside ρ)

/-- The task of a frame: the frames it sends and the tables it leaves. -/
def handle (s : Session) (sequence : UInt32) (body : Json) (type : UInt8) (e : ρ × Connected) :
    List (SessionId × Frame) × Tables :=
  (sent (Prog.trace o.env (s.task sequence body type) e),
    (Prog.run o.env (s.task sequence body type) e).2.2.db)

theorem handle_eq (s : Session) (sequence : UInt32) (body : Json) (type : UInt8)
    (e : ρ × Connected) : o.handle s sequence body type e =
      (o.frames (s.handleMessage sequence body type) e,
        (o.run (s.handleMessage sequence body type) e).2.2.db) := by
  unfold handle Session.task frames run
  rw [Prog.trace_bind, Prog.run_bind]
  simp

end Outside

/-! ## SELECT leaves the tables as they are -/

/-- The statements change no row. -/
def readOnly : Protocol Database.interface Unit where
  allows _ c := ∀ stmt, c = .query stmt → stmt.isSelect = true ∨ ∃ t, stmt = .createTable t
  next _ _ _ := ()

def ReadOnly {α : Type} (q : DbProg α) : Prop := Follows readOnly () q fun _ _ => True

section
variable {α β : Type}

theorem readOnly_pure (a : α) : ReadOnly (pure a : DbProg α) := trivial

theorem readOnly_bind {q : DbProg α} {k : α → DbProg β} (hq : ReadOnly q)
    (hk : ∀ a, ReadOnly (k a)) : ReadOnly (q >>= k) :=
  follows_bind.2 (hq.mono fun a _ _ => hk a)

theorem readOnly_ite {b : Prop} [Decidable b] {p q : DbProg α} (hp : ReadOnly p)
    (hq : ReadOnly q) : ReadOnly (if b then p else q) := by
  split
  · exact hp
  · exact hq

theorem readOnly_request {c : Database.Call} (hc : ∀ stmt, c ≠ .query stmt) :
    ReadOnly (Database.request c) :=
  ⟨fun stmt h => absurd h (hc stmt), fun _ => trivial⟩

theorem readOnly_mysqlQuery {stmt : Stmt} (h : stmt.isSelect = true ∨ ∃ t, stmt = .createTable t) :
    ReadOnly (mysqlQuery stmt) := by
  refine ⟨fun stmt' hstmt => ?_, fun _ => trivial⟩
  cases hstmt
  exact h

theorem readOnly_select {stmt : Stmt} (h : stmt.isSelect = true) : ReadOnly (select stmt) :=
  readOnly_bind (readOnly_mysqlQuery (.inl h)) fun _ =>
    readOnly_ite (readOnly_pure _) (readOnly_request fun _ => nofun)

theorem readOnly_selectFirst {stmt : Stmt} (h : stmt.isSelect = true) :
    ReadOnly (selectFirst stmt) :=
  readOnly_bind (readOnly_select h) fun _ => readOnly_pure _

theorem readOnly_locked {q : DbProg α} (h : ReadOnly q) : ReadOnly (locked q) :=
  readOnly_bind (readOnly_request fun _ => nofun) fun _ => readOnly_bind h fun _ =>
    readOnly_bind (readOnly_request fun _ => nofun) fun _ => readOnly_pure _

theorem readOnly_createTables (ts : List Table) : ReadOnly (createTables ts) := by
  induction ts with
  | nil => exact readOnly_pure _
  | cons t ts ih =>
    exact readOnly_bind (readOnly_mysqlQuery (.inr ⟨t, rfl⟩)) fun _ =>
      readOnly_ite ih (readOnly_pure _)

theorem readOnly_ensureConnection : ReadOnly ensureConnection := by
  refine readOnly_bind (readOnly_request fun _ => nofun) fun _ => readOnly_ite (readOnly_pure _) ?_
  refine readOnly_bind (readOnly_request fun _ => nofun) fun _ => readOnly_ite (readOnly_pure _) ?_
  refine readOnly_bind (readOnly_request fun _ => nofun) fun _ => ?_
  refine readOnly_bind (readOnly_request fun _ => nofun) fun _ => readOnly_ite (readOnly_pure _) ?_
  refine readOnly_ite (readOnly_pure _) ?_
  refine readOnly_bind (readOnly_request fun _ => nofun) fun _ => readOnly_ite (readOnly_pure _) ?_
  exact readOnly_locked (readOnly_createTables _)

theorem readOnly_getUserById (userId : Nat) : ReadOnly (getUserById userId) :=
  readOnly_locked (readOnly_bind readOnly_ensureConnection fun _ => readOnly_ite (readOnly_pure _)
    (readOnly_bind (readOnly_selectFirst rfl) fun _ => readOnly_pure _))

theorem readOnly_getGroupMembers (groupId : Nat) : ReadOnly (getGroupMembers groupId) :=
  readOnly_bind (readOnly_select rfl) fun _ => readOnly_pure _

theorem readOnly_getGroupById (groupId : Nat) : ReadOnly (getGroupById groupId) := by
  refine readOnly_locked (readOnly_bind (readOnly_selectFirst rfl) fun row => ?_)
  cases row with
  | none => exact readOnly_pure _
  | some row => exact readOnly_bind (readOnly_getGroupMembers _) fun _ => readOnly_pure _

theorem readOnly_isGroupOwner (groupId userId : Nat) : ReadOnly (isGroupOwner groupId userId) :=
  readOnly_locked (readOnly_bind (readOnly_selectFirst rfl) fun _ => readOnly_pure _)

theorem readOnly_isGroupAdmin (groupId userId : Nat) : ReadOnly (isGroupAdmin groupId userId) :=
  readOnly_locked (readOnly_bind (readOnly_selectFirst rfl) fun _ => readOnly_pure _)

end

theorem exec_select {order : List MessageRow → List MessageRow} {d d' : Tables} {stmt : Stmt}
    {rows : List Row} {id : Nat} (hselect : stmt.isSelect = true)
    (h : d.exec order stmt = .ok d' rows id) : d' = d := by
  have hsel : ∀ x, Tables.Outcome.select d x = .ok d' rows id → d' = d := by
    intro x hx
    cases x with
    | none => cases hx
    | some rows => cases hx; rfl
  unfold Tables.exec at h
  split at h
  all_goals first | exact hsel _ h | (cases h; done) | cases hselect

namespace Outside

variable {ρ : Type} {o : Outside ρ} {α β : Type}

/-- The handler leaves the tables as they are. -/
def Unchanged (o : Outside ρ) (p : SessionM α) : Prop := ∀ e, (o.run p e).2.2.db = e.2.db

theorem unchanged_pure (a : α) : o.Unchanged (pure a) := fun _ => rfl

theorem unchanged_bind {p : SessionM α} {f : α → SessionM β} (hp : o.Unchanged p)
    (hf : ∀ a, o.Unchanged (f a)) : o.Unchanged (p >>= f) := by
  intro e
  have hdb := hp e
  rw [run_bind]
  cases hrun : o.run p e with
  | mk r e' =>
    rw [hrun] at hdb
    cases r with
    | ok a => exact (hf a e').trans hdb
    | error stop => exact hdb

theorem unchanged_query {e : ρ × Connected} {stmt : Stmt}
    (h : stmt.isSelect = true ∨ ∃ t, stmt = .createTable t) :
    (o.env e (.db (.query stmt))).2.2.db = e.2.db := by
  obtain ⟨r, s⟩ := e
  simp only [env]
  split
  case isFalse => rfl
  unfold query
  cases hexec : s.db.exec (o.order r) stmt with
  | elsewhere => rfl
  | error => rfl
  | ok db' rows id =>
    rcases h with h | ⟨t, rfl⟩
    · obtain rfl := exec_select h hexec
      simp [h]
    · cases hexec

theorem unchanged_lift {q : DbProg α} (h : ReadOnly q) (held : Bool) :
    o.Unchanged (lift held q) := by
  induction q generalizing held with
  | ret a => exact unchanged_pure a
  | call c k ih =>
    obtain ⟨hc, hk⟩ := h
    refine unchanged_bind ?_ fun a => ih a (hk a) _
    intro e
    have hcall : (o.env e (.db c)).2.2.db = e.2.db := by
      cases c
      case query stmt => exact unchanged_query (hc stmt rfl)
      all_goals rfl
    cases held with
    | false => cases c <;> exact hcall
    | true =>
      cases c
      case lock => rfl
      all_goals exact hcall

theorem unchanged_db {q : DbProg α} (h : ReadOnly q) : o.Unchanged (db q) := unchanged_lift h false

theorem unchanged_send (x : SessionId) (frame : Frame) :
    o.Unchanged (request (.send x frame)) := fun _ => rfl

theorem unchanged_read (x : Except JsonError α) : o.Unchanged (read x) := by
  cases x
  · exact fun _ => rfl
  · exact fun _ => rfl

theorem unchanged_ite {b : Prop} [Decidable b] {p q : SessionM α} (hp : o.Unchanged p)
    (hq : o.Unchanged q) : o.Unchanged (if b then p else q) := by
  split
  · exact hp
  · exact hq

end Outside

/-! ## The handlers without a login -/

section
variable {s : Session} {sequence : UInt32} {body : Json}

/-- The handler sends one fixed frame to the session, or nothing. -/
def Refuses (s : Session) (p : SessionM Unit) : Prop :=
  (∃ frame, p = s.send frame) ∨ ∃ stop, p = throw stop

theorem refuses_authenticatedOnly (hs : s.authenticated = false) (handler : SessionM Unit) :
    Refuses s (s.authenticatedOnly sequence handler) := by
  refine .inl ⟨createError sequence 401 "Not authenticated", ?_⟩
  unfold Session.authenticatedOnly
  rw [hs]
  rfl

/-- The accessor fails, or the id is 0 and the handler answers with an error. -/
theorem refuses_names {key : String} {f : Nat → SessionM Unit} (h : names body key = false)
    (hf : Refuses s (f 0)) : Refuses s (read (body.valueId key) >>= f) := by
  unfold names at h
  cases hid : body.valueId key with
  | error e => exact .inr ⟨_, rfl⟩
  | ok id =>
    rw [hid] at h
    have hzero : id = 0 := by simpa using h
    subst hzero
    exact hf

theorem refuses_handleMessage (hs : s.authenticated = false) {type : UInt8}
    (htype : ∀ t, MessageType.ofCode type = some t →
      t ≠ .register ∧ t ≠ .login ∧ t ≠ .heartbeat ∧ reveals body t = false) :
    Refuses s (s.handleMessage sequence body type) := by
  unfold Session.handleMessage
  cases htype' : MessageType.ofCode type with
  | none => exact .inl ⟨_, rfl⟩
  | some t =>
  obtain ⟨hregister, hlogin, hheartbeat, hreveals⟩ := htype t htype'
  cases t with
  | register => exact absurd rfl hregister
  | login => exact absurd rfl hlogin
  | heartbeat => exact absurd rfl hheartbeat
  | userInfo => exact refuses_names hreveals (.inl ⟨_, by simp [hs]; rfl⟩)
  | groupInfo => exact refuses_names hreveals (.inl ⟨_, rfl⟩)
  | groupMembers => exact refuses_names hreveals (.inl ⟨_, rfl⟩)
  | logout | userSearch | userUpdate | passwordUpdate | friendAdd | friendAccept | friendReject
  | friendRemove | friendList | friendRequests | friendRemark | privateMessage | privateHistory
  | groupCreate | groupJoin | groupLeave | groupDismiss | groupList | groupAddMember
  | groupRemoveMember | groupSetAdmin | groupTransferOwner | groupMessage | groupHistory
  | mediaUpload | keyUpload | keyRequest | encryptedMessage | messageRecall | fcmTokenRegister
  | favoriteAdd | favoriteRemove | favoriteList => exact refuses_authenticatedOnly hs _
  | _ => exact .inl ⟨_, rfl⟩

end

namespace Outside

variable {ρ : Type} {o : Outside ρ} {s : Session} {sequence : UInt32} {body : Json} {type : UInt8}

/-- A refusal is the same from all tables. -/
theorem frames_refuses {p : SessionM Unit} (h : Refuses s p) (r : ρ) (d d' : Tables) :
    o.frames p (r, .idle d) = o.frames p (r, .idle d') := by
  rcases h with ⟨frame, rfl⟩ | ⟨stop, rfl⟩
  · rfl
  · rfl

theorem unchanged_refuses {p : SessionM Unit} (h : Refuses s p) : o.Unchanged p := by
  rcases h with ⟨frame, rfl⟩ | ⟨stop, rfl⟩
  · exact unchanged_send _ _
  · exact fun _ => rfl

theorem unchanged_membersInfo (groupId : Nat) (memberIds : List Nat) :
    o.Unchanged (Session.membersInfo groupId memberIds) := by
  induction memberIds with
  | nil => exact unchanged_pure _
  | cons memberId memberIds ih =>
    refine unchanged_bind (unchanged_db (readOnly_getUserById _)) fun user => ?_
    cases user with
    | none => exact ih
    | some user =>
      refine unchanged_bind (unchanged_db (readOnly_isGroupOwner _ _)) fun _ => ?_
      refine unchanged_bind (unchanged_db (readOnly_isGroupAdmin _ _)) fun _ => ?_
      exact unchanged_bind ih fun _ => unchanged_pure _

theorem unchanged_handleMessage (hs : s.authenticated = false)
    (htype : ∀ t ∈ [MessageType.register, .login, .heartbeat], MessageType.ofCode type ≠ some t) :
    o.Unchanged (s.handleMessage sequence body type) := by
  by_cases hreveals : ∃ t, MessageType.ofCode type = some t ∧ reveals body t = true
  case neg =>
    refine unchanged_refuses (refuses_handleMessage hs fun t ht => ?_)
    refine ⟨?_, ?_, ?_, by simpa using fun h => hreveals ⟨t, ht, h⟩⟩
    all_goals
      rintro rfl
      exact htype _ (by simp) ht
  obtain ⟨t, ht, hreveals⟩ := hreveals
  unfold Session.handleMessage
  rw [ht]
  cases t with
  | userInfo =>
    refine unchanged_bind (unchanged_read _) fun userId => unchanged_ite (unchanged_send _ _) ?_
    refine unchanged_bind (unchanged_db (readOnly_getUserById _)) fun user => ?_
    cases user
    · exact unchanged_send _ _
    · exact unchanged_send _ _
  | groupInfo =>
    refine unchanged_bind (unchanged_read _) fun groupId => unchanged_ite (unchanged_send _ _) ?_
    refine unchanged_bind (unchanged_db (readOnly_getGroupById _)) fun group => ?_
    cases group
    · exact unchanged_send _ _
    · exact unchanged_send _ _
  | groupMembers =>
    refine unchanged_bind (unchanged_read _) fun groupId => unchanged_ite (unchanged_send _ _) ?_
    refine unchanged_bind (unchanged_bind (unchanged_db (readOnly_getGroupMembers _))
      fun _ => unchanged_pure _) fun memberIds => ?_
    exact unchanged_bind (unchanged_membersInfo _ _) fun _ => unchanged_send _ _
  | _ => cases hreveals

/-! ## The requests that reveal something -/

/-- A handler that ends with one frame. -/
theorem triple_sends {d : Tables} {frame : Frame} {xs : List (SessionId × Frame)}
    (h : xs = [(s.id, frame)]) : o.Triple d (s.send frame) fun _ _ ys => [] ++ ys = xs :=
  triple_send h.symm

section
variable {d : Tables} (ho : o.Healthy)
include ho

theorem triple_userInfo {userId : Nat} (hid : body.valueId "user_id" = .ok userId)
    (hne : userId ≠ 0) : o.Triple d (s.handleUserInfo sequence body) fun _ _ xs =>
      xs = [(s.id, match d.users.find? userId with
        | some user => createResponse .userInfoResponse sequence (userJson user)
        | none => createError sequence 404 "User not found")] := by
  refine triple_read hid ?_
  rw [if_neg (by simp [hne]), if_neg hne]
  refine triple_bind (triple_ensured ho (paired_fetchFirst rfl)
    ((dbTriple_getUserById ho userId).mono ?_))
  rintro user d' ⟨rfl, rfl⟩
  cases d'.users.find? userId with
  | none => exact triple_sends rfl
  | some user => exact triple_sends rfl

theorem triple_groupInfo {groupId : Nat} (hid : body.valueId "group_id" = .ok groupId)
    (hne : groupId ≠ 0) : o.Triple d (s.handleGroupInfo sequence body) fun _ _ xs =>
      xs = [(s.id, match d.groups.find? groupId with
        | some g => createResponse .groupInfoResponse sequence
            (groupJson (groupInfo g (memberIds d groupId)))
        | none => createError sequence 404 "Group not found")] := by
  refine triple_read hid ?_
  rw [if_neg hne]
  refine triple_bind (triple_locked (paired_groupWithMembers groupId)
    ((dbTriple_getGroupById ho groupId).mono ?_))
  rintro group d' ⟨rfl, rfl⟩
  cases d'.groups.find? groupId with
  | none => exact triple_sends rfl
  | some g => exact triple_sends rfl

/-- One entry for each member. -/
theorem triple_membersInfo (groupId : Nat) (ids : List Nat) :
    o.Triple d (Session.membersInfo groupId ids) fun r d' xs =>
      r = .ok (ids.filterMap (memberInfo d groupId)) ∧ d' = d ∧ xs = [] := by
  induction ids with
  | nil => exact triple_pure ⟨rfl, rfl, rfl⟩
  | cons id ids ih =>
    refine triple_bind (triple_ensured ho (paired_fetchFirst rfl)
      ((dbTriple_getUserById ho id).mono ?_))
    rintro found d' ⟨rfl, rfl⟩
    cases huser : d'.users.find? id with
    | none =>
      have hinfo : memberInfo d' groupId id = none := by rw [memberInfo, huser]; rfl
      rw [List.filterMap_cons_none hinfo]
      exact then_ok ih
    | some user =>
      have hinfo : memberInfo d' groupId id = some (memberJson user
          (owns d' groupId id) (administers d' groupId id)) := by
        rw [memberInfo, huser]
        rfl
      rw [List.filterMap_cons_some hinfo]
      refine then_ok (triple_bind (triple_locked (paired_fetchFirst rfl)
        ((dbTriple_isGroupOwner ho groupId id).mono ?_)))
      rintro isOwner d ⟨rfl, rfl⟩
      refine then_ok (triple_bind (triple_locked (paired_fetchFirst rfl)
        ((dbTriple_isGroupAdmin ho groupId id).mono ?_)))
      rintro isAdmin d ⟨rfl, rfl⟩
      refine then_ok (triple_bind (ih.mono ?_))
      rintro r d xs ⟨rfl, rfl, rfl⟩
      exact then_ok (triple_pure ⟨rfl, rfl, rfl⟩)

theorem triple_groupMembers {groupId : Nat} (hid : body.valueId "group_id" = .ok groupId)
    (hne : groupId ≠ 0) : o.Triple d (s.handleGroupMembers sequence body) fun _ _ xs =>
      xs = [(s.id, createResponse .groupMembersResponse sequence
        (.object [("members", .array ((memberIds d groupId).filterMap
          (memberInfo d groupId)))]))] := by
  refine triple_read hid ?_
  rw [if_neg hne]
  refine triple_bind (triple_bind (triple_db ?_ ((dbTriple_getGroupMembers ho groupId).mono ?_)))
  · exact fun e => ((paired_getGroupMembers groupId).lock.obeys _ _).mono fun _ _ _ _ => trivial
  rintro members d' ⟨rfl, rfl⟩
  refine then_ok (triple_pure (then_ok (triple_bind
    ((triple_membersInfo ho groupId _).mono ?_))))
  rintro r d xs ⟨rfl, rfl, rfl⟩
  exact then_ok (triple_send rfl)

end

end Outside

/-! ## The condition -/

/-- Without rows. -/
def noTables : Tables where
  users := .empty
  groups := .empty
  members := .empty
  privateMessages := ⟨.empty, 1, SerialTable.none_below⟩
  groupMessages := ⟨.empty, 1, SerialTable.none_below⟩
  owners := nofun
  memberships := nofun
  correspondents := nofun
  posters := nofun

/-- One user, in a group of the same id. -/
def loneUser (id : Nat) : Tables where
  users := ⟨[⟨id, "ann", "Ann", "", "", .offline, 0, 0⟩], List.nodup_singleton _⟩
  groups := ⟨[⟨id, "chess", "", "", id, 0, 0⟩], List.nodup_singleton _⟩
  members := ⟨[⟨id, id, true, 0⟩], List.nodup_singleton _⟩
  privateMessages := ⟨.empty, 1, SerialTable.none_below⟩
  groupMessages := ⟨.empty, 1, SerialTable.none_below⟩
  owners := by simp [UniqueTable.find?]
  memberships := by simp [UniqueTable.find?]
  correspondents := nofun
  posters := nofun

/-- Users 1 and 2, with private messages from 1 to 2. -/
def twoUsers (privateMessages : SerialTable MessageRow.messageId)
    (h : ∀ m ∈ privateMessages.rows, m.senderId = 1 ∧ m.targetId = 2) : Tables where
  users := ⟨[⟨1, "ann", "Ann", "", "", .online, 0, 0⟩, ⟨2, "bob", "Bob", "", "", .online, 0, 0⟩],
    by decide⟩
  groups := .empty
  members := .empty
  privateMessages := privateMessages
  groupMessages := ⟨.empty, 1, SerialTable.none_below⟩
  owners := nofun
  memberships := nofun
  correspondents := by
    intro m hm
    obtain ⟨hsender, htarget⟩ := h m hm
    rw [hsender, htarget]
    exact ⟨rfl, rfl⟩
  posters := nofun

/-- The frames that answer the request are the same whatever is in the tables. -/
def Session.Blind (s : Session) (sequence : UInt32) (body : Json) (type : UInt8) : Prop :=
  ∀ (ρ : Type) (o : Outside ρ) (r : ρ) (d d' : Tables),
    (o.handle s sequence body type (r, .idle d)).1 = (o.handle s sequence body type (r, .idle d')).1

/-- A request that is answered from the tables tells an empty database from one with a user. -/
theorem not_blind {s : Session} {sequence : UInt32} {body : Json} {type : UInt8} {t : MessageType}
    (ht : MessageType.ofCode type = some t) (hreveals : reveals body t = true) :
    ¬ s.Blind sequence body type := by
  intro hblind
  have hframes (d d' : Tables) := hblind Unit quiet () d d'
  simp only [Outside.handle_eq, Session.handleMessage, ht] at hframes
  cases t with
  | userInfo =>
    obtain ⟨id, hid, hne⟩ := names_eq_true.1 hreveals
    have hsame := hframes noTables (loneUser id)
    rw [Outside.triple_userInfo Outside.healthy_quiet hid hne _ rfl,
      Outside.triple_userInfo Outside.healthy_quiet hid hne _ rfl] at hsame
    simp [noTables, loneUser, UniqueTable.find?, UniqueTable.empty, createError,
      createResponse] at hsame
  | groupInfo =>
    obtain ⟨id, hid, hne⟩ := names_eq_true.1 hreveals
    have hsame := hframes noTables (loneUser id)
    rw [Outside.triple_groupInfo Outside.healthy_quiet hid hne _ rfl,
      Outside.triple_groupInfo Outside.healthy_quiet hid hne _ rfl] at hsame
    simp [noTables, loneUser, UniqueTable.find?, UniqueTable.empty, createError,
      createResponse] at hsame
  | groupMembers =>
    obtain ⟨id, hid, hne⟩ := names_eq_true.1 hreveals
    have hsame : quiet.frames (s.handleGroupMembers sequence body) ((), .idle noTables) = _ :=
      hframes noTables (loneUser id)
    have hmembers (d : Tables) : quiet.Triple d (s.handleGroupMembers sequence body) _ :=
      Outside.triple_groupMembers Outside.healthy_quiet hid hne
    have hnone := hmembers noTables ((), .idle noTables) rfl
    have hone := hmembers (loneUser id) ((), .idle (loneUser id)) rfl
    have hreplies := hnone.symm.trans (hsame.trans hone)
    simp [memberIds, memberInfo, noTables, loneUser, UniqueTable.find?, UniqueTable.empty,
      createResponse] at hreplies
  | _ => cases hreveals

end ChatApp.Session
