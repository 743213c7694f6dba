/-
  A private message from the client through the gateway to the client of the receiver. The texts on
  the wire are the values that `jsonEncode` and `dump` write, and `json::parse` and `jsonDecode`
  read again. The client writes `media_type` as a number, and no `message_type`; the gateway reads
  `media_type` as a string, and the type of the medium from `message_type`; its notification has
  `media_type` as a string again, which the client reads as a number, and no `receiver_id`.
-/
import ChatApp.Gateway.Keys
import ChatApp.Gateway.PrivateMessages
import ChatApp.Session.Erasure

namespace ChatApp.Client

open ChatApp.Database ChatApp.Gateway.Messages ChatApp.Protocol ChatApp.Session

/-! ## The client -/

/-- `WebSocketService.send` -/
def send (type : String) (body : List (String × Json)) : Json :=
  .object (("type", .string type) :: body)

/-- `ChatService.sendPrivateMessage` -/
def sendPrivateMessage (receiverId : Int) (content : String) (mediaType : Int)
    (mediaUrl : String) : Json := send "privateMessage" [
  ("receiver_id", .number receiverId),
  ("content", .string content),
  ("media_type", .number mediaType),
  ("media_url", .string mediaUrl)]

structure Message where
  messageId : Int
  senderId : Int
  receiverId : Int
  groupId : Int
  mediaType : Int
  content : String
  mediaUrl : String
  extra : String
  status : Int
  createdAt : Int
  deriving DecidableEq, Repr

/-- `as int? ?? 0`, which throws a TypeError for a value of another type; a number of more than 64
    bits is a double. -/
def asInt : Option Json → Option Int
  | none => some 0
  | some .null => some 0
  | some (.number n) => if -2 ^ 63 ≤ n ∧ n < 2 ^ 63 then some n else none
  | some _ => none

/-- `as String? ?? ''` -/
def asString : Option Json → Option String
  | none => some ""
  | some .null => some ""
  | some (.string s) => some s
  | some _ => none

def isNull : Option Json → Bool
  | none => true
  | some .null => true
  | some _ => false

/-- `_$MessageFromJson`; `sender_id` is required. -/
def Message.fromJson (json : Json) : Option Message := do
  let messageId ← asInt (json.find? "message_id")
  let senderId ← if isNull (json.find? "sender_id") then none else asInt (json.find? "sender_id")
  let receiverId ← asInt (json.find? "receiver_id")
  let groupId ← asInt (json.find? "group_id")
  let mediaType ← asInt (json.find? "media_type")
  let content ← asString (json.find? "content")
  let mediaUrl ← asString (json.find? "media_url")
  let extra ← asString (json.find? "extra")
  let status ← asInt (json.find? "status")
  let createdAt ← asInt (json.find? "created_at")
  return ⟨messageId, senderId, receiverId, groupId, mediaType, content, mediaUrl, extra, status,
    createdAt⟩

/-! ## Agreement -/

section
variable {ρ : Type} (o : Outside ρ) (e : ρ × Connected) (senderId : Nat)
variable (receiverId : Int) (content : String) (mediaType : Int) (mediaUrl : String)

/-- The gateway accepts the message and stores it, and the client decodes its notification. -/
def Agrees : Prop :=
  ∃ m message sender e',
    (readPrivateMessage (sendPrivateMessage receiverId content mediaType mediaUrl)).result =
      .value m ∧
    o.run (storePrivateMessage senderId m) e = (.ok (some (message, sender)), e') ∧
    (∃ row ∈ e'.2.db.privateMessages.rows, row.messageId = message.messageId ∧
      row.senderId = senderId ∧ row.targetId = receiverId ∧ row.content = content ∧
      row.mediaType.code.toNat = mediaType ∧ row.mediaUrl = mediaUrl) ∧
    ∀ now, ∃ received,
      Message.fromJson (privateMessageNotification senderId m message now sender) = some received ∧
      received.messageId = message.messageId ∧ received.senderId = senderId ∧
      received.receiverId = receiverId ∧ received.content = content ∧
      received.mediaType = mediaType ∧ received.mediaUrl = mediaUrl

end

theorem readPrivateMessage_sendPrivateMessage (receiverId : Int) (content : String)
    (mediaType : Int) (mediaUrl : String) :
    (readPrivateMessage (sendPrivateMessage receiverId content mediaType mediaUrl)).result =
      .threw (.typeError .typeMismatch) := rfl

/-- The sender gets an error, whatever the handler would do with the message. -/
theorem sendPrivateMessage_refused (parse : List UInt8 → Except JsonException Json)
    (bodies : Bodies) (text : List UInt8) (receiverId : Int) (content : String) (mediaType : Int)
    (mediaUrl : String)
    (h : parse text = .ok (sendPrivateMessage receiverId content mediaType mediaUrl)) :
    (handleWsMessage parse bodies true text).sent =
      ["\x7b\"type\":\"error\",\"message\":\"Invalid JSON\"\x7d"] := by
  rw [handleWsMessage, h]
  rfl

/-- No notification of the gateway is decoded. -/
theorem fromJson_notification (senderId : Nat) (m : PrivateMessage) (message : Database.Message)
    (now : Int) (sender : Option UserInfo) :
    Message.fromJson (privateMessageNotification senderId m message now sender) = none := by
  have hmedia : asInt ((privateMessageNotification senderId m message now sender).find?
      "media_type") = none := rfl
  unfold Message.fromJson
  simp only [hmedia, Option.bind_eq_bind, Option.bind_none, Option.bind_fun_none, ite_self]

/-- The gateway accepts no message of the client, and the client decodes no notification of the
    gateway. -/
theorem never_agrees {ρ : Type} (o : Outside ρ) (e : ρ × Connected) (senderId : Nat)
    (receiverId : Int) (content : String) (mediaType : Int) (mediaUrl : String) :
    ¬ Agrees o e senderId receiverId content mediaType mediaUrl ∧
    (∀ m, (readPrivateMessage (sendPrivateMessage receiverId content mediaType mediaUrl)).result ≠
      .value m) ∧
    ∀ m message now sender,
      Message.fromJson (privateMessageNotification senderId m message now sender) = none := by
  have hrefused : ∀ m,
      (readPrivateMessage (sendPrivateMessage receiverId content mediaType mediaUrl)).result ≠
        .value m := by
    intro m hm
    rw [readPrivateMessage_sendPrivateMessage] at hm
    cases hm
  refine ⟨?_, hrefused, fun m message now sender =>
    fromJson_notification senderId m message now sender⟩
  rintro ⟨m, -, -, -, haccepted, -⟩
  exact hrefused m haccepted

/-- A text from user 1 to user 2. -/
theorem text_disagrees :
    ¬ Agrees quiet ((), .idle (History.oneMessage "hello" "")) 1 2 "hi" 0 "" := by
  rintro ⟨m, -, -, -, haccepted, -⟩
  cases haccepted

end ChatApp.Client
