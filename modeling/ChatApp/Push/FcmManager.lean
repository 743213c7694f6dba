/-
  The part of `FcmManager` that talks to Google: the key of the service account, the cached access
  token and its expiry, and the notifications that are sent with it. What the endpoints answer, the
  clock and OpenSSL are given with each call. `sent` lists the requests that go out, oldest first.

  No lock is held around the cached token; a call is one step here.
-/
import ChatApp.Protocol.Json
import ChatApp.Push.Assertion
import ChatApp.Push.Shorten
import ChatApp.Push.Tokens

namespace ChatApp.Push.Fcm

open ChatApp.Lib ChatApp.Lib.JsonText ChatApp.Database ChatApp.Protocol

/-! ## The configuration -/

structure Manager where
  projectId : String
  account : ServiceAccount
  cachedAccessToken : String
  tokenExpiryTime : Int

/-- The constructor -/
def Manager.start : Manager := ⟨"", ⟨"", "", ""⟩, "", 0⟩

/-- The file with the key, as it is found -/
inductive KeyFile
  | closed
  /-- `json::parse` throws. -/
  | malformed
  | parsed (key : Json)

/-- The loop over `private_key_`: a backslash and an `n` become a line break. -/
def unescapeNewlines : List Char → List Char
  | '\\' :: 'n' :: s => '\n' :: unescapeNewlines s
  | c :: s => c :: unescapeNewlines s
  | [] => []

/-- Of a key that is no object, or has a member of another type, the members before are kept. -/
def ServiceAccount.loadServiceAccountKey (a : ServiceAccount) : KeyFile → Bool × ServiceAccount
  | .closed | .malformed => (false, a)
  | .parsed key =>
    match key.valueString "client_email" "" with
    | .error _ => (false, a)
    | .ok clientEmail =>
      let a := { a with clientEmail := clientEmail }
      match key.valueString "private_key" "" with
      | .error _ => (false, a)
      | .ok privateKey =>
        let a := { a with privateKey := privateKey }
        match key.valueString "token_uri" "https://oauth2.googleapis.com/token" with
        | .error _ => (false, a)
        | .ok tokenUri =>
          let a := { a with
            tokenUri := tokenUri
            privateKey := .ofList (unescapeNewlines privateKey.toList) }
          (!a.clientEmail.isEmpty && !a.privateKey.isEmpty, a)

def Manager.setConfig (m : Manager) (projectId path : String) (file : KeyFile) : Manager :=
  let m := { m with projectId := projectId }
  if path.isEmpty then m else { m with account := (m.account.loadServiceAccountKey file).2 }

/-! ## The access token -/

/-- What the token endpoint answers -/
inductive Answer
  /-- `curl_easy_perform` fails. -/
  | failed
  /-- `json::parse` throws. -/
  | malformed
  | answered (response : Json)

/-- What a call finds outside. -/
structure Outside where
  /-- in seconds -/
  now : Int
  /-- the signature with a private key, if this can be read -/
  sign : String → List UInt8 → Option (List UInt8)
  /-- `curl_easy_init` succeeds, for the token and for the notification. -/
  tokenCurl : Bool
  notifyCurl : Bool
  token : Answer
  /-- the HTTP status of the notification; `none` if `curl_easy_perform` fails -/
  status : Option Nat

inductive Request
  /-- for an access token -/
  | token (now : Int) (url : String) (body : List UInt8) (answer : Answer)
  /-- with a notification -/
  | notify (now : Int) (url bearer : String) (body : List UInt8)

/-- The end of `get_access_token`. `cached_access_token_` is assigned before `expires_in` is read,
    which may throw. -/
def Manager.takeAnswer (m : Manager) (now : Int) : Answer → String × Manager
  | .failed | .malformed => ("", m)
  | .answered response =>
    match response.valueString "access_token" "" with
    | .error _ => ("", m)
    | .ok token =>
      match response.valueInt "expires_in" 3600 with
      | .error _ => ("", { m with cachedAccessToken := token })
      | .ok expiresIn =>
        (token, { m with cachedAccessToken := token, tokenExpiryTime := now + expiresIn })

def Manager.getAccessToken (m : Manager) (o : Outside) : String × Manager × List Request :=
  if !m.cachedAccessToken.isEmpty && o.now + 60 < m.tokenExpiryTime then
    (m.cachedAccessToken, m, [])
  else if m.account.privateKey.isEmpty || m.account.clientEmail.isEmpty then ("", m, [])
  else
    match o.sign m.account.privateKey (signInput m.account o.now) with
    | none => ("", m, [])
    | some signature =>
      if o.tokenCurl then
        let (token, m') := m.takeAnswer o.now o.token
        (token, m', [.token o.now m.account.tokenUri (postData (jwt m.account o.now signature))
          o.token])
      else ("", m, [])

/-! ## Notifications -/

/-- What is sent on to the devices of Apple -/
def apns (title : String) (body : List Char) : Value := .object [
  ("payload".toList, .object [
    ("aps".toList, .object [
      ("alert".toList, .object [
        ("body".toList, .string body), ("title".toList, .string title.toList)]),
      ("badge".toList, .number 1 0), ("sound".toList, .string "default".toList)])])]

def android : Value := .object [
  ("notification".toList, .object [
    ("channel_id".toList, .string "messages".toList),
    ("icon".toList, .string "@mipmap/ic_launcher".toList),
    ("priority".toList, .string "high".toList), ("sound".toList, .string "default".toList)]),
  ("priority".toList, .string "high".toList)]

/-- `data_json`, of a map that is not empty -/
def dataMember (data : List (String × String)) : List (List Char × Value) :=
  if data.isEmpty then []
  else [("data".toList, .object (data.map fun e => (e.1.toList, .string e.2.toList)))]

/-- `message`; `json` keeps the members in the order of their names. -/
def message (fcmToken title : String) (body : List Char) (data : List (String × String)) : Value :=
  .object [("message".toList, .object (
    [("android".toList, android), ("apns".toList, apns title body)] ++ dataMember data ++
    [("notification".toList, .object [
        ("body".toList, .string body), ("title".toList, .string title.toList)]),
      ("token".toList, .string fcmToken.toList)]))]

/-- `dump` throws for a text that is no UTF-8. -/
def requestBody (fcmToken title : String) (body : List UInt8) (data : List (String × String)) :
    Option (List UInt8) :=
  (Utf8.decode body).map fun text => utf8 (dump (message fcmToken title text data))

def notifyUrl (projectId : String) : String :=
  "https://fcm.googleapis.com/v1/projects/" ++ projectId ++ "/messages:send"

/-- `none` is the exception of `dump`. -/
def Manager.sendFcmRequest (m : Manager) (o : Outside) (fcmToken title : String)
    (body : List UInt8) (data : List (String × String)) : Option Bool × Manager × List Request :=
  let (accessToken, m, requests) := m.getAccessToken o
  if accessToken.isEmpty then (some false, m, requests)
  else
    match requestBody fcmToken title body data with
    | none => (none, m, requests)
    | some text =>
      if o.notifyCurl then
        (some (o.status.any (· < 400)), m,
          requests ++ [.notify o.now (notifyUrl m.projectId) accessToken text])
      else (some false, m, requests)

/-! ## The server -/

/-- The manager with the table and the caches of the push tokens -/
structure World where
  manager : Manager
  server : TokenServer
  sent : List Request

def World.start : World := ⟨.start, Told.start.server, []⟩

/-- A notification for one user, as the gateway or the two functions below ask for it -/
structure Notification where
  userId : Nat
  title : String
  body : List UInt8
  data : List (String × String)

def World.sendNotification (w : World) (t : Moment) (o : Outside) (n : Notification) :
    Option Bool × World :=
  if w.manager.projectId.isEmpty then (some false, w)
  else
    let (fcmToken, server) := FcmManager.getToken t n.userId w.server
    if fcmToken.isEmpty then (some false, { w with server := server })
    else
      let (sent, manager, requests) := w.manager.sendFcmRequest o fcmToken n.title n.body n.data
      (sent, ⟨manager, server, w.sent ++ requests⟩)

def messageNotification (receiverId : Nat) (senderName messageContent : String)
    (messageId senderId : Nat) : Notification where
  userId := receiverId
  title := senderName
  body := Notifier.fcmMessageNotification.body (utf8 senderName.toList) (utf8 messageContent.toList)
  data := [("message_id", toString messageId), ("sender_id", toString senderId),
    ("sender_name", senderName), ("type", "private_message")]

def groupMessageNotification (receiverId : Nat) (groupName senderName messageContent : String)
    (messageId groupId senderId : Nat) : Notification where
  userId := receiverId
  title := groupName ++ " - " ++ senderName
  body := Notifier.fcmGroupMessageNotification.body (utf8 senderName.toList)
    (utf8 messageContent.toList)
  data := [("group_id", toString groupId), ("group_name", groupName),
    ("message_id", toString messageId), ("sender_id", toString senderId),
    ("sender_name", senderName), ("type", "group_message")]

inductive Call
  | setConfig (projectId path : String) (file : KeyFile)
  | registerToken (t : Moment) (userId : Nat) (fcmToken : String)
  /-- The gateway writes past the manager. -/
  | fcmTokenRegister (t : Moment) (userId : Nat) (fcmToken : String)
  | removeToken (t : Moment) (userId : Nat)
  | sendNotification (t : Moment) (o : Outside) (n : Notification)
  | sendMessageNotification (t : Moment) (o : Outside) (receiverId : Nat)
      (senderName messageContent : String) (messageId senderId : Nat)
  | sendGroupMessageNotification (t : Moment) (o : Outside) (receiverId : Nat)
      (groupName senderName messageContent : String) (messageId groupId senderId : Nat)

/-- An exception leaves the call, and is caught above it. -/
def World.perform (w : World) : Call → World
  | .setConfig projectId path file =>
    { w with manager := w.manager.setConfig projectId path file }
  | .registerToken t userId fcmToken =>
    { w with server := (FcmManager.registerToken t userId w.server fcmToken).2 }
  | .fcmTokenRegister t userId fcmToken =>
    { w with server := (handleFcmTokenRegister t userId w.server fcmToken).2 }
  | .removeToken t userId => { w with server := FcmManager.removeToken t userId w.server }
  | .sendNotification t o n => (w.sendNotification t o n).2
  | .sendMessageNotification t o receiverId senderName messageContent messageId senderId =>
    (w.sendNotification t o
      (messageNotification receiverId senderName messageContent messageId senderId)).2
  | .sendGroupMessageNotification t o receiverId groupName senderName messageContent messageId
      groupId senderId =>
    (w.sendNotification t o (groupMessageNotification receiverId groupName senderName
      messageContent messageId groupId senderId)).2

def World.after (calls : List Call) : World := calls.foldl World.perform .start

end ChatApp.Push.Fcm
