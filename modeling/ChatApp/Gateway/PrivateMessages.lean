/-
  `handle_private_message` of the gateway: what it reads from the message, the row that it stores,
  and the texts for the sender and for a receiver who is connected.
-/
import ChatApp.Gateway.Messages
import ChatApp.Session.Handlers

namespace ChatApp.Gateway.Messages

open ChatApp.Database ChatApp.Protocol ChatApp.Session

structure PrivateMessage where
  receiverId : Nat
  content : String
  messageType : Int
  mediaUrl : String
  mediaType : String
  deriving DecidableEq, Repr

def readPrivateMessage (msg : Json) : Run PrivateMessage := do
  let receiverId ← indexUInt64 msg "receiver_id"
  let content ← indexString msg "content"
  let messageType ← valueInt msg "message_type" 0
  let mediaUrl ← valueString msg "media_url" ""
  let mediaType ← valueString msg "media_type" ""
  return ⟨receiverId, content, messageType, mediaUrl, mediaType⟩

/-- The message saved, and its sender. -/
def storePrivateMessage (senderId : Nat) (m : PrivateMessage) :
    SessionM (Option (Message × Option UserInfo)) := do
  match ← db (savePrivateMessage {
      messageId := 0, senderId, receiverId := m.receiverId, groupId := 0,
      mediaType := ⟨UInt8.ofInt m.messageType⟩, content := m.content, mediaUrl := m.mediaUrl,
      extra := "", status := .sent, createdAt := 0 }) with
  | none => return none
  | some message =>
    let sender ← db (getUserById senderId)
    return some (message, sender)

section
variable (senderId : Nat) (m : PrivateMessage) (message : Message) (now : Int)

def privateMessageResponse : Json := .object [
  ("type", .string "privateMessageResponse"),
  ("message_id", .number message.messageId),
  ("sender_id", .number senderId),
  ("receiver_id", .number m.receiverId),
  ("content", .string m.content),
  ("message_type", .number m.messageType),
  ("media_url", .string m.mediaUrl),
  ("media_type", .string m.mediaType),
  ("created_at", .number now)]

/-- The names of a sender who is not found are empty. -/
def privateMessageNotification (sender : Option UserInfo) : Json := .object [
  ("type", .string "privateMessage"),
  ("message_id", .number message.messageId),
  ("sender_id", .number senderId),
  ("sender_username", .string (sender.elim "" (·.username))),
  ("sender_nickname", .string (sender.elim "" (·.nickname))),
  ("sender_avatar", .string (sender.elim "" (·.avatarUrl))),
  ("content", .string m.content),
  ("message_type", .number m.messageType),
  ("media_url", .string m.mediaUrl),
  ("media_type", .string m.mediaType),
  ("created_at", .number now)]

end

instance lawful : LawfulMonad Run := LawfulMonad.mk' Run
  (fun {α} r => by
    obtain ⟨applied, sent, result⟩ := r
    cases result <;> simp [Functor.map, Run.andThen, Run.ret])
  (fun {α β} a f => by simp [bind, Run.andThen, pure, Run.ret])
  (fun {α β γ} r f g => by
    obtain ⟨applied, sent, result⟩ := r
    cases result with
    | value a =>
      simp only [bind, Run.andThen]
      cases (f a).result <;> simp
    | _ => simp [bind, Run.andThen])

/-- The handler passes on what it reads. -/
theorem handlePrivateMessage_eq (bodies : Bodies) (msg : Json) :
    handlePrivateMessage bodies msg = readPrivateMessage msg >>= fun m =>
      (bodies.privateMessage m.receiverId m.content m.messageType m.mediaUrl m.mediaType).run := by
  simp [handlePrivateMessage, readPrivateMessage]

end ChatApp.Gateway.Messages
