/-
  The members of a request body. `fields` lists, for every message type, the members that its
  handler reads with `value` and the type it reads each of them with; a member of another type
  makes the accessor throw. `bodyReadable` is the body on which no accessor of the handler throws.
-/
import ChatApp.Session.Handlers

namespace ChatApp.Session

open ChatApp.Protocol

/-- The type a member is read with. -/
inductive Kind
  | number | boolean | text
  deriving DecidableEq

/-- `get` converts the member. -/
def Kind.fits : Kind → Json → Bool
  | number, .number _ | number, .float _ _ | number, .bool _ => true
  | boolean, .bool _ => true
  | text, .string _ => true
  | _, _ => false

/-- `value(key, default)` returns. -/
def reads (body : Json) (field : String × Kind) : Bool :=
  body.isObject && (body.find? field.1).all field.2.fits

/-- What a handler reads with `value` once the user is known. -/
def fields : MessageType → List (String × Kind)
  | .register => [("username", .text), ("password", .text), ("nickname", .text)]
  | .login => [("username", .text), ("password", .text)]
  | .userInfo => [("user_id", .number)]
  | .userSearch => [("keyword", .text), ("limit", .number)]
  | .passwordUpdate => [("old_password", .text), ("new_password", .text)]
  | .friendAdd | .friendAccept | .friendReject | .friendRemove => [("friend_id", .number)]
  | .friendRemark => [("friend_id", .number), ("remark", .text)]
  | .privateMessage => [("receiver_id", .number), ("content", .text), ("media_type", .number),
      ("media_url", .text), ("extra", .text)]
  | .privateHistory => [("peer_id", .number), ("before_time", .number), ("limit", .number)]
  | .groupCreate => [("group_name", .text), ("description", .text)]
  | .groupJoin | .groupLeave | .groupDismiss | .groupInfo | .groupMembers =>
    [("group_id", .number)]
  | .groupAddMember | .groupRemoveMember => [("group_id", .number), ("user_id", .number)]
  | .groupSetAdmin => [("group_id", .number), ("user_id", .number), ("is_admin", .boolean)]
  | .groupTransferOwner => [("group_id", .number), ("new_owner_id", .number)]
  | .groupMessage => [("group_id", .number), ("content", .text), ("media_type", .number),
      ("media_url", .text), ("extra", .text)]
  | .groupHistory => [("group_id", .number), ("before_time", .number), ("limit", .number)]
  | .mediaUpload => [("file_name", .text), ("file_data", .text), ("media_type", .number)]
  | .keyUpload => [("public_key", .text)]
  | .keyRequest => [("user_id", .number)]
  | .encryptedMessage => [("receiver_id", .number), ("encrypted_key", .text),
      ("encrypted_content", .text), ("iv", .text), ("media_type", .number), ("media_url", .text)]
  | .messageRecall => [("message_id", .number), ("is_group", .boolean), ("group_id", .number)]
  | .fcmTokenRegister => [("fcm_token", .text)]
  | .favoriteAdd => [("message_id", .number), ("message_type", .text), ("sender_id", .number),
      ("content", .text), ("media_type", .number), ("media_url", .text)]
  | .favoriteRemove => [("message_id", .number), ("message_type", .text)]
  | .favoriteList => [("limit", .number), ("offset", .number)]
  | _ => []

/-- The accessors of the handler do not throw. `handle_user_update` reads only members that are
    there, and also takes a body that is not an object; `handle_fcm_token_register` reads the type
    of a token that is not empty. -/
def bodyReadable (type : MessageType) (body : Json) : Bool :=
  (fields type).all (reads body) &&
  match type with
  | .userUpdate => ["nickname", "avatar_url", "signature"].all fun key =>
      (body.find? key).all Kind.text.fits
  | .fcmTokenRegister =>
    match body.valueString "fcm_token" "" with
    | .ok token => token.isEmpty || reads body ("token_type", .text)
    | .error _ => true
  | _ => true

/-- The types whose handlers read the body whoever asks. -/
def anonymous : MessageType → Bool
  | .register | .login | .userInfo | .groupInfo | .groupMembers | .heartbeat => true
  | _ => false

/-- A session that is not logged in gets a 401 before the body is read. -/
def Session.Readable (s : Session) (type : MessageType) (body : Json) : Prop :=
  s.authenticated = true ∨ anonymous type = true → bodyReadable type body = true

instance (s : Session) (type : MessageType) (body : Json) : Decidable (s.Readable type body) :=
  inferInstanceAs (Decidable (_ → _))

section
variable {body : Json} {key : String}

@[simp] theorem toBool_map {α β : Type} (f : α → β) (x : Except JsonError α) :
    (f <$> x).toBool = x.toBool := by
  cases x <;> rfl

theorem toBool_valueWith {α : Type} {get : Json → Except JsonError α} {kind : Kind} {default : α}
    (hget : ∀ member, (get member).toBool = kind.fits member) :
    (body.valueWith get key default).toBool = reads body (key, kind) := by
  unfold Json.valueWith reads
  cases body.isObject with
  | false => rfl
  | true =>
    cases body.find? key with
    | none => rfl
    | some member => exact hget member

theorem toBool_getNumber (member : Json) : member.getNumber.toBool = Kind.number.fits member := by
  cases member <;> rfl

@[simp] theorem toBool_valueString (default : String) :
    (body.valueString key default).toBool = reads body (key, .text) :=
  toBool_valueWith fun member => by cases member <;> rfl

@[simp] theorem toBool_valueBool (default : Bool) :
    (body.valueBool key default).toBool = reads body (key, .boolean) :=
  toBool_valueWith fun member => by cases member <;> rfl

@[simp] theorem toBool_valueInt (default : Int) :
    (body.valueInt key default).toBool = reads body (key, .number) :=
  toBool_valueWith fun member => (toBool_map _ _).trans (toBool_getNumber member)

@[simp] theorem toBool_valueUInt64 :
    (body.valueUInt64 key).toBool = reads body (key, .number) :=
  toBool_valueWith fun member => (toBool_map _ _).trans (toBool_getNumber member)

@[simp] theorem toBool_valueId : (body.valueId key).toBool = reads body (key, .number) :=
  (toBool_map _ _).trans (toBool_valueInt 0)

@[simp] theorem toBool_updateField (field : String) :
    (Session.updateField body key field).toBool = (body.find? key).all Kind.text.fits := by
  unfold Session.updateField
  cases body.find? key with
  | none => rfl
  | some member => cases member <;> rfl

end

attribute [simp] fields anonymous bodyReadable Session.Readable

end ChatApp.Session
