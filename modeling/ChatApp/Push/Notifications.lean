/-
  What Firebase reads in the request for a notification: `readMessage` takes apart what `requestBody`
  writes, for all texts. So a notification arrives with the token of its receiver, its title, its
  text and its data if and only if its text is UTF-8; for another one `dump` throws, and nothing is
  sent.
-/
import ChatApp.Push.AccessTokens

namespace ChatApp.Push.Fcm

open ChatApp.Lib ChatApp.Lib.JsonText ChatApp.Database

/-! ## Reading -/

structure Received where
  token : List Char
  title : List Char
  body : List Char
  data : List (List Char × List Char)

def string? : Value → Option (List Char)
  | .string s => some s
  | _ => none

/-- An object of strings -/
def strings? : Value → Option (List (List Char × List Char))
  | .object members => members.mapM fun e => (string? e.2).map fun s => (e.1, s)
  | _ => none

/-- The notification in a request -/
def readMessage (request : List UInt8) : Option Received := do
  let value ← (Utf8.decode request).bind parse
  let message ← value.member? "message"
  let token ← (message.member? "token").bind string?
  let notification ← message.member? "notification"
  let title ← (notification.member? "title").bind string?
  let body ← (notification.member? "body").bind string?
  let data ← match message.member? "data" with
    | none => some []
    | some data => strings? data
  return ⟨token, title, body, data⟩

section
variable {fcmToken title : String} {body : List Char} {data : List (String × String)}

/-- The map in the request -/
def texts (data : List (String × String)) : List (List Char × List Char) :=
  data.map fun e => (e.1.toList, e.2.toList)

theorem strings?_texts (data : List (String × String)) :
    strings? (.object (data.map fun e => (e.1.toList, .string e.2.toList))) =
      some (texts data) := by
  show (data.map _).mapM _ = _
  induction data with
  | nil => rfl
  | cons e data ih =>
    rw [List.map_cons, List.mapM_cons, ih]
    rfl

theorem membersIntegral_texts (data : List (String × String)) :
    MembersIntegral (data.map fun e => (e.1.toList, .string e.2.toList)) := by
  induction data with
  | nil => trivial
  | cons e data ih => exact ⟨trivial, ih⟩

theorem integral_android : Integral android := by
  unfold android
  exact ⟨⟨trivial, trivial, trivial, trivial, trivial⟩, trivial, trivial⟩

theorem integral_apns : Integral (apns title body) :=
  ⟨⟨⟨⟨trivial, trivial, trivial⟩, rfl, trivial, trivial⟩, trivial⟩, trivial⟩

theorem integral_message : Integral (message fcmToken title body data) := by
  unfold message dataMember
  refine ⟨?_, trivial⟩
  split
  · exact ⟨integral_android, integral_apns, ⟨trivial, trivial, trivial⟩, trivial, trivial⟩
  · exact ⟨integral_android, integral_apns, membersIntegral_texts data,
      ⟨trivial, trivial, trivial⟩, trivial, trivial⟩

/-- All strings come through, whatever they are. -/
theorem readMessage_dump : readMessage (utf8 (dump (message fcmToken title body data))) =
    some ⟨fcmToken.toList, title.toList, body, texts data⟩ := by
  unfold readMessage
  rw [Utf8.decode_utf8, Option.bind_some, parse_dump integral_message]
  unfold message dataMember
  cases data with
  | nil => rfl
  | cons e data =>
    have hdata := strings?_texts (e :: data)
    show ((strings? (.object ((e :: data).map _))).bind _) = _
    rw [hdata]
    rfl

end

/-! ## Sending -/

variable {w : World} {t : Moment} {o : Outside} {n : Notification}

/-- The push token that the notification goes to -/
def World.receiver (w : World) (t : Moment) (n : Notification) : String :=
  (FcmManager.getToken t n.userId w.server).1

/-- There is a project, a push token of the receiver and an access token. -/
structure Ready (w : World) (t : Moment) (o : Outside) (n : Notification) : Prop where
  configured : w.manager.projectId ≠ ""
  registered : w.receiver t n ≠ ""
  authorised : (w.manager.getAccessToken o).1 ≠ ""
  curl : o.notifyCurl = true

/-- The last request of the call is the notification, and Firebase reads in it what was asked for. -/
def Delivers (w : World) (t : Moment) (o : Outside) (n : Notification) : Prop :=
  ∃ requests bearer body text,
    (w.sendNotification t o n).2.sent =
      w.sent ++ requests ++ [.notify o.now (notifyUrl w.manager.projectId) bearer body] ∧
    utf8 text = n.body ∧
    readMessage body = some ⟨(w.receiver t n).toList, n.title.toList, text, texts n.data⟩

theorem takeAnswer_projectId (m : Manager) (now : Int) (answer : Answer) :
    (m.takeAnswer now answer).2.projectId = m.projectId := by
  unfold Manager.takeAnswer
  split <;> try rfl
  split <;> try rfl
  split <;> rfl

theorem getAccessToken_projectId (m : Manager) (o : Outside) :
    (m.getAccessToken o).2.1.projectId = m.projectId := by
  unfold Manager.getAccessToken
  split
  · rfl
  split
  · rfl
  split
  · rfl
  split
  · exact takeAnswer_projectId m o.now o.token
  · rfl

/-- Only for an access token is anything else sent. -/
theorem getAccessToken_requests (m : Manager) (o : Outside) :
    ∀ r ∈ (m.getAccessToken o).2.2, ∃ url body, r = .token o.now url body o.token := by
  unfold Manager.getAccessToken
  intro r hr
  split at hr
  · exact absurd hr List.not_mem_nil
  split at hr
  · exact absurd hr List.not_mem_nil
  split at hr
  · exact absurd hr List.not_mem_nil
  split at hr
  · obtain rfl := List.mem_singleton.1 hr
    exact ⟨_, _, rfl⟩
  · exact absurd hr List.not_mem_nil

/-- Where everything is there, the text decides. -/
theorem sendNotification_ready (h : Ready w t o n) :
    (∃ text, Utf8.decode n.body = some text ∧
      w.sendNotification t o n = (some (o.status.any (· < 400)),
        ⟨(w.manager.getAccessToken o).2.1, (FcmManager.getToken t n.userId w.server).2,
          w.sent ++ ((w.manager.getAccessToken o).2.2 ++
            [.notify o.now (notifyUrl w.manager.projectId) (w.manager.getAccessToken o).1
              (utf8 (dump (message (w.receiver t n) n.title text n.data)))])⟩)) ∨
    Utf8.decode n.body = none ∧ w.sendNotification t o n = (none,
      ⟨(w.manager.getAccessToken o).2.1, (FcmManager.getToken t n.userId w.server).2,
        w.sent ++ (w.manager.getAccessToken o).2.2⟩) := by
  have hempty : ∀ s : String, s ≠ "" → ¬ s.isEmpty = true := fun s hs => by
    rwa [String.isEmpty_iff]
  have hregistered : ¬ (FcmManager.getToken t n.userId w.server).1.isEmpty = true :=
    hempty _ h.registered
  unfold World.sendNotification Manager.sendFcmRequest requestBody
  dsimp only
  rw [if_neg (hempty _ h.configured), if_neg hregistered, if_neg (hempty _ h.authorised)]
  cases htext : Utf8.decode n.body with
  | none => exact .inr ⟨rfl, rfl⟩
  | some text =>
    refine .inl ⟨text, rfl, ?_⟩
    rw [Option.map_some]
    dsimp only
    rw [if_pos h.curl, getAccessToken_projectId]
    rfl

/-- No notification is the last request of a call that sends none. -/
theorem not_delivers {requests : List Request}
    (hsent : (w.sendNotification t o n).2.sent = w.sent ++ requests)
    (hrequests : ∀ r ∈ requests, ∃ url body, r = .token o.now url body o.token) :
    ¬ Delivers w t o n := by
  rintro ⟨rs, bearer, body, text, heq, -⟩
  rw [hsent, List.append_assoc, List.append_cancel_left_eq] at heq
  obtain ⟨url, body', hr⟩ := hrequests _ (heq ▸ List.mem_append_right rs List.mem_cons_self)
  exact Request.noConfusion hr

/-- A notification reaches its receiver as it is, or, if its text is no UTF-8, the call throws. -/
theorem delivers_iff (h : Ready w t o n) :
    (Delivers w t o n ↔ ∃ text, n.body = utf8 text) ∧
    ((w.sendNotification t o n).1 = none ↔ ¬ ∃ text, n.body = utf8 text) := by
  rcases sendNotification_ready h with ⟨text, htext, heq⟩ | ⟨hnone, heq⟩
  · have hbody : utf8 text = n.body := Utf8.decode_eq_some_iff.1 htext
    refine ⟨iff_of_true ?_ ⟨text, hbody.symm⟩, iff_of_false ?_ fun hno => hno ⟨text, hbody.symm⟩⟩
    · refine ⟨(w.manager.getAccessToken o).2.2, (w.manager.getAccessToken o).1,
        utf8 (dump (message (w.receiver t n) n.title text n.data)), text, ?_, hbody,
        readMessage_dump⟩
      rw [heq, List.append_assoc]
    · rw [heq]
      exact Option.some_ne_none _
  · have hno : ¬ ∃ text, n.body = utf8 text := by
      rintro ⟨text, hbody⟩
      rw [Utf8.decode_eq_some_iff.2 hbody.symm] at hnone
      exact Option.some_ne_none _ hnone
    refine ⟨iff_of_false (not_delivers ?_ (getAccessToken_requests w.manager o)) hno,
      iff_of_true ?_ hno⟩
    · rw [heq]
    · rw [heq]

/-! ## Messages -/

theorem notifier_valid_iff (k : Notifier) (senderName content : List Char) :
    (∃ text, k.body (utf8 senderName) (utf8 content) = utf8 text) ↔
      Aligned k.limit k.cut (k.text senderName content) := by
  rw [body_eq]
  exact shorten_valid_iff (by cases k <;> decide)

/-- With a token of its receiver and an access token, the notification of a message arrives, with the
    name of its sender as the title and the ids in its data, if and only if the message is short or
    is cut between two of its characters; otherwise the call throws. -/
theorem pushes_delivered_iff (w : World) (t : Moment) (o : Outside) (n : Notification)
    (groupName senderName messageContent : String) (receiverId messageId groupId senderId : Nat)
    (hn : n = messageNotification receiverId senderName messageContent messageId senderId ∨
      n = groupMessageNotification receiverId groupName senderName messageContent messageId groupId
        senderId)
    (h : Ready w t o n) :
    (Delivers w t o n ↔ Aligned 100 97 messageContent.toList) ∧
    ((w.sendNotification t o n).1 = none ↔ ¬ Aligned 100 97 messageContent.toList) := by
  have hvalid : (∃ text, n.body = utf8 text) ↔ Aligned 100 97 messageContent.toList := by
    rcases hn with rfl | rfl
    · exact notifier_valid_iff .fcmMessageNotification senderName.toList messageContent.toList
    · exact notifier_valid_iff .fcmGroupMessageNotification senderName.toList messageContent.toList
  rw [← hvalid]
  exact delivers_iff h

/-- The phone of a user is registered. -/
def phoned : World := ⟨keyed, (FcmManager.registerToken inReach 7 Told.start.server "phone").2, []⟩

theorem ready_phoned (senderName messageContent : String) (messageId senderId : Nat) :
    Ready phoned inReach (hourly 1000)
      (messageNotification 7 senderName messageContent messageId senderId) where
  configured := by decide
  registered := by
    show "phone" ≠ ""
    decide
  authorised := by
    show "key" ≠ ""
    decide
  curl := rfl

/-- A short text, and thirty-four characters of three bytes -/
theorem pushes_delivered_iff_phoned :
    Delivers phoned inReach (hourly 1000) (messageNotification 7 "alice" "hi" 1 6) ∧
    (phoned.sendNotification inReach (hourly 1000) (messageNotification 7 "alice"
      "中中中中中中中中中中中中中中中中中中中中中中中中中中中中中中中中中中" 2 6)).1 = none :=
  ⟨(pushes_delivered_iff phoned inReach (hourly 1000) _ "" "alice" "hi" 7 1 0 6 (.inl rfl)
      (ready_phoned "alice" "hi" 1 6)).1.2 (by decide),
    (pushes_delivered_iff phoned inReach (hourly 1000) _ "" "alice" _ 7 2 0 6 (.inl rfl)
      (ready_phoned "alice" _ 2 6)).2.2 (by decide +kernel)⟩

end ChatApp.Push.Fcm
