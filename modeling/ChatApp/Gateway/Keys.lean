/-
  The keys that the gateway takes for granted. Only `login` and `register` ask whether a member is
  there before they index it; the other handlers index what `required` lists, so a message of a user
  who is logged in has to have these members, one after another as long as the values before them
  can be converted.
-/
import ChatApp.Gateway.Messages

namespace ChatApp.Gateway.Messages

open ChatApp.Protocol

variable {α β : Type} {msg : Json} {key : String} {bodies : Bodies}

/-! ## Safe runs -/

/-- `operator[]` is applied to objects that have the key. -/
def Run.Safe (r : Run α) : Prop := ∀ p ∈ r.applied, p.1.isObject = true ∧ p.1.contains p.2 = true

theorem safe_bind (r : Run α) (f : α → Run β) :
    (r >>= f).Safe ↔ r.Safe ∧ ∀ a, r.result = .value a → (f a).Safe := by
  show (r.andThen f).Safe ↔ _
  obtain ⟨applied, sent, result⟩ := r
  cases result with
  | value a =>
    simp only [Run.andThen, Run.Safe, List.mem_append, Result.value.injEq, forall_eq']
    constructor
    · exact fun h => ⟨fun p hp => h p (.inl hp), fun p hp => h p (.inr hp)⟩
    · exact fun h p hp => hp.elim (h.1 p) (h.2 p)
  | threw e => exact ⟨fun h => ⟨h, nofun⟩, And.left⟩
  | undefined => exact ⟨fun h => ⟨h, nofun⟩, And.left⟩

theorem safe_of_applied {r : Run α} (h : r.applied = []) : r.Safe := by
  intro p hp
  rw [h] at hp
  exact absurd hp List.not_mem_nil

theorem applied_ofExcept (e : Except JsonError α) : (Run.ofExcept e).applied = [] := by
  cases e <;> rfl

theorem safe_body (b : Body) : b.run.Safe := safe_of_applied rfl

theorem safe_sendText (text : String) : (sendText text).Safe := safe_of_applied rfl

theorem safe_index (hobj : msg.isObject = true) :
    (index msg key).Safe ↔ (msg.find? key).isSome = true := by
  simp [Run.Safe, index, hobj, Json.contains]

theorem isObject_of_find? {member : Json} (h : msg.find? key = some member) :
    msg.isObject = true := by
  cases msg with
  | object => rfl
  | _ => exact absurd h.symm (Option.some_ne_none _)

theorem result_index {member : Json} (h : msg.find? key = some member) :
    (index msg key).result = .value member := by
  simp [index, isObject_of_find? h, h]

/-- Reading an optional member. -/
theorem safe_ofExcept_bind {e : Except JsonError α} {f : α → Run β} (hf : ∀ a, (f a).Safe) :
    (Run.ofExcept e >>= f).Safe :=
  (safe_bind _ _).2 ⟨safe_of_applied (applied_ofExcept e), fun a _ => hf a⟩

/-! ## Required members -/

def isNumber : Json → Bool
  | .number _ => true
  | .float _ _ => true
  | _ => false

def isNumbers : Json → Bool
  | .array xs => xs.all isNumber
  | _ => false

def isBool : Json → Bool
  | .bool _ => true
  | _ => false

def isString : Json → Bool
  | .string _ => true
  | _ => false

/-- Each member is there, as long as the values before it can be converted. -/
def Answers (msg : Json) : List (String × (Json → Bool)) → Prop
  | [] => True
  | (key, fits) :: rest =>
    ∃ member, msg.find? key = some member ∧ (fits member = true → Answers msg rest)

/-- The members that a handler indexes. -/
def MessageKind.required : MessageKind → List (String × (Json → Bool))
  | .privateMessage => [("receiver_id", isNumber), ("content", isString)]
  | .groupMessage => [("group_id", isNumber), ("content", isString)]
  | .friendList => []
  | .friendRequests => []
  | .groupList => []
  | .groupMembers => [("group_id", isNumber)]
  | .userSearch => [("keyword", isString)]
  | .privateHistory => [("peer_id", isNumber)]
  | .groupHistory => [("group_id", isNumber)]
  | .friendRequest => [("to_user_id", isNumber)]
  | .friendAccept => [("from_user_id", isNumber)]
  | .friendReject => [("from_user_id", isNumber)]
  | .friendRemove => [("friend_id", isNumber)]
  | .createGroup => [("name", isString)]
  | .inviteGroupMembers => [("group_id", isNumber), ("user_ids", isNumbers)]
  | .groupKick => [("group_id", isNumber), ("user_id", isNumber)]
  | .groupQuit => [("group_id", isNumber)]
  | .groupDismiss => [("group_id", isNumber)]
  | .groupSetAdmin => [("group_id", isNumber), ("user_id", isNumber), ("is_admin", isBool)]
  | .groupTransferOwner => [("group_id", isNumber), ("new_owner_id", isNumber)]
  | .heartbeat => []
  | .fcmTokenRegister => [("fcm_token", isString)]
  | .favoriteAdd => [("message_id", isNumber), ("message_type", isString),
      ("sender_id", isNumber), ("content", isString)]
  | .favoriteRemove => [("message_id", isNumber), ("message_type", isString)]
  | .favoriteList => []
  | .passwordUpdate => [("old_password", isString), ("new_password", isString)]

theorem getUInt64_isOk (v : Json) : (getUInt64 v).isOk = isNumber v := by cases v <;> rfl

theorem getBool_isOk (v : Json) : v.getBool.isOk = isBool v := by cases v <;> rfl

theorem getString_isOk (v : Json) : v.getString.isOk = isString v := by cases v <;> rfl

theorem mapM_isOk {f : Json → Except JsonError α} {p : Json → Bool} (h : ∀ v, (f v).isOk = p v)
    (xs : List Json) : (xs.mapM f).isOk = xs.all p := by
  induction xs with
  | nil => rfl
  | cons x xs ih =>
    rw [List.mapM_cons, List.all_cons, ← h, ← ih]
    cases f x with
    | error e => rfl
    | ok a => cases xs.mapM f <;> rfl

theorem getUInt64s_isOk (v : Json) : (getUInt64s v).isOk = isNumbers v := by
  cases v with
  | array xs => exact mapM_isOk getUInt64_isOk xs
  | _ => rfl

/-- One read of a member that is taken for granted. -/
theorem safe_read {get : Json → Except JsonError α} {fits : Json → Bool}
    (hget : ∀ v, (get v).isOk = fits v) (hobj : msg.isObject = true) {f : α → Run β}
    {rest : List (String × (Json → Bool))} (hf : ∀ a, (f a).Safe ↔ Answers msg rest) :
    ((index msg key >>= fun member => Run.ofExcept (get member)) >>= f).Safe ↔
      Answers msg ((key, fits) :: rest) := by
  rw [safe_bind, safe_bind, safe_index hobj, Option.isSome_iff_exists]
  constructor
  · rintro ⟨⟨⟨member, hmember⟩, -⟩, hrest⟩
    refine ⟨member, hmember, fun hfits => ?_⟩
    rw [← hget] at hfits
    cases hvalue : get member with
    | error e => simp [hvalue, Except.isOk, Except.toBool] at hfits
    | ok a =>
      refine (hf a).1 (hrest a ?_)
      show ((index msg key).andThen _).result = _
      simp [Run.andThen, result_index hmember, hvalue, Run.ofExcept, Run.ret]
  · rintro ⟨member, hmember, hrest⟩
    refine ⟨⟨⟨member, hmember⟩, fun _ _ => safe_of_applied (applied_ofExcept _)⟩, fun a ha => ?_⟩
    have hresult : (Run.ofExcept (get member)).result = .value a := by
      have ha' : ((index msg key).andThen fun v => Run.ofExcept (get v)).result = .value a := ha
      simpa [Run.andThen, result_index hmember] using ha'
    refine (hf a).2 (hrest ?_)
    rw [← hget]
    cases hvalue : get member with
    | error e =>
      rw [hvalue] at hresult
      cases hresult
    | ok => rfl

theorem safe_handle (hobj : msg.isObject = true) (kind : MessageKind) :
    (kind.handle bodies msg).Safe ↔ Answers msg kind.required := by
  have hnumber : ∀ {key : String} {f : Nat → Run Unit} {rest : List (String × (Json → Bool))},
      (∀ n, (f n).Safe ↔ Answers msg rest) →
      ((indexUInt64 msg key >>= f).Safe ↔ Answers msg ((key, isNumber) :: rest)) := fun hf =>
    safe_read getUInt64_isOk hobj hf
  have hstring : ∀ {key : String} {f : String → Run Unit} {rest : List (String × (Json → Bool))},
      (∀ text, (f text).Safe ↔ Answers msg rest) →
      ((indexString msg key >>= f).Safe ↔ Answers msg ((key, isString) :: rest)) := fun hf =>
    safe_read getString_isOk hobj hf
  -- nothing is indexed any more
  have hbody : ∀ b : Body, b.run.Safe ↔ Answers msg [] := fun b => iff_of_true (safe_body b) trivial
  have hoptional : ∀ {α : Type} {e : Except JsonError α} {f : α → Run Unit},
      (∀ a, (f a).Safe ↔ Answers msg []) → ((Run.ofExcept e >>= f).Safe ↔ Answers msg []) :=
    fun hf => iff_of_true (safe_ofExcept_bind fun a => (hf a).2 trivial) trivial
  cases kind with
  | privateMessage =>
    exact hnumber fun _ => hstring fun _ => hoptional fun _ => hoptional fun _ => hoptional fun _ =>
      hbody _
  | groupMessage =>
    exact hnumber fun _ => hstring fun _ => hoptional fun _ => hoptional fun _ => hoptional fun _ =>
      hbody _
  | friendList => exact hbody _
  | friendRequests => exact hbody _
  | groupList => exact hbody _
  | groupMembers => exact hnumber fun _ => hbody _
  | userSearch => exact hstring fun _ => hbody _
  | privateHistory => exact hnumber fun _ => hoptional fun _ => hoptional fun _ => hbody _
  | groupHistory => exact hnumber fun _ => hoptional fun _ => hoptional fun _ => hbody _
  | friendRequest => exact hnumber fun _ => hoptional fun _ => hbody _
  | friendAccept => exact hnumber fun _ => hbody _
  | friendReject => exact hnumber fun _ => hbody _
  | friendRemove => exact hnumber fun _ => hbody _
  | createGroup => exact hstring fun _ => hoptional fun _ => hbody _
  | inviteGroupMembers => exact hnumber fun _ => safe_read getUInt64s_isOk hobj fun _ => hbody _
  | groupKick => exact hnumber fun _ => hnumber fun _ => hbody _
  | groupQuit => exact hnumber fun _ => hbody _
  | groupDismiss => exact hnumber fun _ => hbody _
  | groupSetAdmin =>
    exact hnumber fun _ => hnumber fun _ => safe_read getBool_isOk hobj fun _ => hbody _
  | groupTransferOwner => exact hnumber fun _ => hnumber fun _ => hbody _
  | heartbeat => exact hbody _
  | fcmTokenRegister => exact hstring fun _ => hbody _
  | favoriteAdd =>
    exact hnumber fun _ => hstring fun _ => hnumber fun _ => hstring fun _ => hoptional fun _ =>
      hoptional fun _ => hbody _
  | favoriteRemove => exact hnumber fun _ => hstring fun _ => hbody _
  | favoriteList => exact hoptional fun _ => hoptional fun _ => hbody _
  | passwordUpdate =>
    refine hstring fun _ => hstring fun text => ?_
    refine iff_of_true ?_ trivial
    split
    · exact safe_sendText _
    · exact safe_body _

/-! ## Messages -/

/-- `login` and `register` have asked for the members that they index. -/
theorem answers_credentials (h : ¬ (!msg.contains "username" || !msg.contains "password") = true) :
    msg.isObject = true ∧ Answers msg [("username", isString), ("password", isString)] := by
  simp only [Bool.or_eq_true, Bool.not_eq_true', not_or, Bool.not_eq_false] at h
  obtain ⟨username, husername⟩ := Option.isSome_iff_exists.1 h.1
  obtain ⟨password, hpassword⟩ := Option.isSome_iff_exists.1 h.2
  exact ⟨isObject_of_find? husername, username, husername, fun _ => ⟨password, hpassword,
    fun _ => trivial⟩⟩

theorem safe_login : (handleLogin bodies msg).Safe := by
  unfold handleLogin
  split
  next => exact safe_sendText _
  next h =>
    obtain ⟨hobj, hanswers⟩ := answers_credentials h
    refine (safe_read getString_isOk hobj fun _ => safe_read getString_isOk hobj fun _ => ?_).2
      hanswers
    exact iff_of_true (safe_body _) trivial

theorem safe_register : (handleRegister bodies msg).Safe := by
  unfold handleRegister
  split
  next => exact safe_sendText _
  next h =>
    obtain ⟨hobj, hanswers⟩ := answers_credentials h
    refine (safe_read getString_isOk hobj fun _ => safe_read getString_isOk hobj fun _ => ?_).2
      hanswers
    refine iff_of_true (safe_ofExcept_bind fun _ => ?_) trivial
    split
    · exact safe_sendText _
    split
    · exact safe_sendText _
    · exact safe_body _

/-- The message has the members that its handler takes for granted. -/
def Complete (authenticated : Bool) (msg : Json) : Prop :=
  ∀ type, msg.find? "type" = some (.string type) → authenticated = true →
    ∀ kind, messageKinds.lookup type = some kind → Answers msg kind.required

theorem safe_dispatch (authenticated : Bool) :
    (dispatch bodies authenticated msg).Safe ↔ Complete authenticated msg := by
  unfold dispatch Complete
  cases hfind : msg.find? "type" with
  | none => exact iff_of_true (safe_of_applied rfl) nofun
  | some member =>
    have hobj := isObject_of_find? hfind
    rw [safe_bind, and_iff_right (safe_of_applied (applied_ofExcept _))]
    cases member with
    | string type =>
      have hlookup : ∀ kind, messageKinds.lookup type = some kind →
          type ≠ "login" ∧ type ≠ "register" := by
        rintro kind h
        constructor <;> rintro rfl <;> exact absurd h.symm (Option.some_ne_none _)
      simp only [Json.getString, Run.ofExcept, Run.ret, Result.value.injEq, forall_eq',
        Option.some.injEq, Json.string.injEq]
      split
      next hlogin =>
        exact iff_of_true safe_login fun _ kind h => absurd hlogin (hlookup kind h).1
      split
      next hregister =>
        exact iff_of_true safe_register fun _ kind h => absurd hregister (hlookup kind h).2
      split
      next hanonymous =>
        refine iff_of_true (safe_sendText _) fun hyes => ?_
        simp [hyes] at hanonymous
      next hyes =>
        rw [Bool.not_eq_true', Bool.not_eq_false] at hyes
        cases hkind : messageKinds.lookup type with
        | none =>
          exact iff_of_true (safe_of_applied rfl) fun _ _ h => absurd h.symm (Option.some_ne_none _)
        | some kind =>
          refine (safe_handle hobj kind).trans ?_
          simp [hyes]
    | _ => exact iff_of_true nofun nofun

/-- `operator[]` is safe, and no exception leaves `handle_ws_message`. -/
def Guarded (r : Run Unit) : Prop := r.Safe ∧ ∀ e, r.result ≠ .threw e

theorem guarded_caught (r : Run Unit) : Guarded r.caught ↔ r.Safe := by
  obtain ⟨applied, sent, result⟩ := r
  cases result with
  | threw e => exact ⟨And.left, fun h => ⟨h, nofun⟩⟩
  | _ => exact ⟨And.left, fun h => ⟨h, nofun⟩⟩

/-- Exactly the messages with the members that their handlers index are handled safely. -/
theorem guarded_iff (parse : List UInt8 → Except JsonException Json) (bodies : Bodies)
    (authenticated : Bool) (message : List UInt8) :
    Guarded (handleWsMessage parse bodies authenticated message) ↔
      ∀ msg, parse message = .ok msg → Complete authenticated msg := by
  unfold handleWsMessage
  rw [guarded_caught]
  cases hparse : parse message with
  | error e => exact iff_of_true (safe_of_applied rfl) nofun
  | ok msg => simp [safe_dispatch]

/-- A friend request to nobody. -/
theorem friendRequest_unguarded :
    ¬ Guarded (handleWsMessage (fun _ => .ok (.object [("type", .string "friendRequest")])) default
      true "\x7b\"type\":\"friendRequest\"\x7d".toUTF8.toList) := by
  rw [guarded_iff]
  intro h
  obtain ⟨member, hmember, -⟩ := h _ rfl "friendRequest" rfl rfl .friendRequest rfl
  exact Option.some_ne_none _ hmember.symm

end ChatApp.Gateway.Messages
