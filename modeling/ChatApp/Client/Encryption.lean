/-
  End-to-end encryption of the client against the gateway: the part of `ChatService` and
  `E2EEService` that asks for public keys, keeps them, and encrypts with them.

  The gateway takes part as a whole: `gateway` is what any message on any connection makes it send,
  to the own connection or to another, and the client may receive any of these texts at any time,
  more than once and in any order. A piece of code up to the next `await` is one step. `_initE2EE`
  is one at its end, wherever it was called; its keys and ciphers are given from outside.

  Handlers of other types do not touch what is modelled here. `clearKeys` is called nowhere.
-/
import ChatApp.Client.PrivateMessages
import ChatApp.Gateway.Access
import ChatApp.Gateway.Answers
import ChatApp.Lib.Run

namespace ChatApp.Client

open ChatApp.Lib ChatApp.Lib.Prog ChatApp.Protocol ChatApp.Gateway.Messages
open ChatApp.Gateway.Handlers (HasType Event)

namespace Encryption

/-! ## What the gateway sends -/

/-- The texts to any connection -/
def callText : Gateway.Handlers.Call → Option Json
  | .sendText text => some text
  | .sendTextTo _ text => some text
  | _ => none

/-- What some message makes the gateway send. -/
def GatewaySends (texts : List Json) : Prop :=
  ∃ (ε : Type) (env : ε → (c : Gateway.Handlers.Call) → c.Answer × ε) (e : ε)
    (s : Session.Session) (parsed : Except JsonException Json),
    texts = (Prog.log env (Gateway.Handlers.handleWsMessage s parsed).run e).filterMap
      fun x => callText x.1

def typeOf (text : Json) : Option String :=
  match text.find? "type" with
  | some (.string type) => some type
  | _ => none

/-- All types of its texts -/
def textTypes : List String :=
  ["error", "loginResponse", "registerResponse", "friendRequestNotification", "kicked",
    "privateMessage", "groupMessage", "friendAcceptNotification", "groupInviteNotification",
    "groupKickedNotification"] ++ messageKinds.flatMap fun x => Gateway.Handlers.answerTypes x.2

def Typed (text : Json) : Prop := ∃ type ∈ textTypes, HasType text type

theorem typed_answer {kind : MessageKind} {type : String} {text : Json}
    (hkind : messageKinds.lookup type = some kind) (h : Gateway.Handlers.IsAnswer kind text) :
    Typed text := by
  obtain ⟨answer, hanswer, htype⟩ := h
  have hmem := (lookup_iff_mem (by decide)).1 hkind
  exact ⟨answer, List.mem_append_right _ (List.mem_flatMap.2 ⟨_, hmem, hanswer⟩), htype⟩

theorem typed_repliesTo {s : Session.Session} {type : String} {texts : List Json}
    (h : Gateway.Handlers.RepliesTo s type texts) : ∀ text ∈ texts, Typed text := by
  have hone {text : Json} {answer : String} (hmem : answer ∈ textTypes)
      (htype : HasType text answer) : ∀ y ∈ [text], Typed y := by
    intro y hy
    rw [List.mem_singleton.1 hy]
    exact ⟨answer, hmem, htype⟩
  unfold Gateway.Handlers.RepliesTo at h
  split at h
  · obtain ⟨first, rest, rfl, hfirst, hrest, -⟩ := h
    intro text hmem
    rcases List.mem_cons.1 hmem with rfl | hmem
    · exact ⟨_, by simp [textTypes], hfirst⟩
    · exact ⟨_, by simp [textTypes], hrest text hmem⟩
  split at h
  · obtain ⟨text, rfl, htype⟩ := h
    exact hone (by simp [textTypes]) htype
  split at h
  · rw [h]
    exact hone (by simp [textTypes]) rfl
  split at h
  · rename_i kind hkind
    obtain ⟨text, rfl, hanswer⟩ := h
    intro y hy
    rw [List.mem_singleton.1 hy]
    exact typed_answer hkind hanswer
  · rw [h]
    exact fun _ hmem => absurd hmem List.not_mem_nil

theorem typed_replies {s : Session.Session} {parsed : Except JsonException Json}
    {texts : List Json} (h : Gateway.Handlers.Replies s parsed texts) :
    ∀ text ∈ texts, Typed text := by
  have hinvalid : Typed Gateway.Handlers.invalidJson := ⟨"error", by simp [textTypes], rfl⟩
  have hone : ∀ y ∈ [Gateway.Handlers.invalidJson], Typed y := by
    intro y hy
    rw [List.mem_singleton.1 hy]
    exact hinvalid
  unfold Gateway.Handlers.Replies at h
  split at h
  · exact h ▸ hone
  split at h
  · rw [h]
    exact fun _ hmem => absurd hmem List.not_mem_nil
  · rcases h with h | ⟨part, rfl, h⟩
    · exact typed_repliesTo h
    · intro text hmem
      rcases List.mem_append.1 hmem with hmem | hmem
      · rcases h with rfl | ⟨-, h⟩
        · exact absurd hmem List.not_mem_nil
        · exact typed_repliesTo h text hmem
      · exact hone text hmem
  · exact h ▸ hone

theorem typed_answered {s : Session.Session} {parsed : Except JsonException Json}
    {r : Except Gateway.Handlers.Failure Unit} {texts : List Json}
    (h : Gateway.Handlers.Answered s parsed r texts) : ∀ text ∈ texts, Typed text := by
  have hended (h : texts = [] ∨ Gateway.Handlers.Replies s parsed texts) :
      ∀ text ∈ texts, Typed text := by
    rcases h with rfl | h
    · exact fun _ hmem => absurd hmem List.not_mem_nil
    · exact typed_replies h
  rcases r with (e | - | stop) | u
  · exact h.elim
  · exact hended h
  · exact hended h
  · exact typed_replies h

theorem typed_notice {s : Session.Session} {msg : Json} {l : List Event} {userId : Nat}
    {text : Json} (h : Gateway.Handlers.Notice s msg l userId text) : Typed text := by
  have htyped {type : String} (htype : HasType text type) (hmem : type ∈ textTypes) :
      Typed text := ⟨type, hmem, htype⟩
  cases h with
  | kicked htype => exact htyped htype (by simp [textTypes])
  | privateMessage content htype => exact htyped htype (by simp [textTypes])
  | groupMessage groupId content htype => exact htyped htype (by simp [textTypes])
  | friendRequest htype => exact htyped htype (by simp [textTypes])
  | friendAccept htype => exact htyped htype (by simp [textTypes])
  | groupInvite htype => exact htyped htype (by simp [textTypes])
  | groupKicked groupId htype => exact htyped htype (by simp [textTypes])

/-- The calls that send to another connection -/
theorem notices_typed (s : Session.Session) (parsed : Except JsonException Json) :
    CallsOnly (fun c : Gateway.Handlers.Call => ∀ peer text, c = .sendTextTo peer text → Typed text)
      (Gateway.Handlers.handleWsMessage s parsed).run := by
  cases parsed with
  | error e =>
    refine ⟨fun peer text h => ?_, fun _ => trivial⟩
    cases h
  | ok msg =>
    refine (Gateway.Handlers.safe_caught (Gateway.Handlers.safe_dispatch s msg) []).callsOnly ?_
    intro l c hallowed peer text hc
    subst hc
    obtain ⟨userId, -, hnotice, -⟩ := hallowed
    exact typed_notice hnotice

theorem typed_sends {texts : List Json} (h : GatewaySends texts) : ∀ text ∈ texts, Typed text := by
  obtain ⟨ε, env, e, s, parsed, rfl⟩ := h
  have hown : ∀ text ∈ Gateway.Handlers.ownTexts
      (Prog.log env (Gateway.Handlers.handleWsMessage s parsed).run e), Typed text := by
    have hlog := (Gateway.Handlers.tells_message (s := s) parsed).log env e
    rw [Gateway.Handlers.after_answering, List.nil_append] at hlog
    exact typed_answered hlog
  intro text hmem
  obtain ⟨⟨c, a⟩, hx, hcall⟩ := List.mem_filterMap.1 hmem
  cases c with
  | sendText own =>
    obtain rfl : own = text := Option.some.inj hcall
    exact hown own (List.mem_filterMap.2 ⟨_, hx, rfl⟩)
  | sendTextTo peer other =>
    obtain rfl : other = text := Option.some.inj hcall
    exact (notices_typed s parsed).log env e _ hx peer other rfl
  | _ => cases hcall

/-! ## The client -/

/-- What `encryptMessage` returns. -/
structure Ciphertext where
  encryptedKey : String
  iv : String
  encryptedContent : String

structure ChatService where
  isConnected : Bool
  e2eeEnabled : Bool
  /-- `E2EEService._publicKeyCache` -/
  publicKeyCache : List (Int × String)
  /-- the calls of `sendEncryptedPrivateMessage` that wait for `encryptMessage` -/
  encrypting : List (Int × String)

namespace ChatService

variable (c : ChatService)

/-- `_network.send` -/
def sends (text : Json) : List Json := if c.isConnected then [text] else []

/-- The end of `_initE2EE`: the own public key, or an exception. -/
def initE2EE : Option String → ChatService × List Json
  | some publicKey => ({ c with e2eeEnabled := true },
      c.sends (send "keyUpload" [("public_key", .string publicKey)]))
  | none => ({ c with e2eeEnabled := false }, [])

def keyRequest (userId : Int) : List Json :=
  c.sends (send "keyRequest" [("user_id", .number userId)])

def getUserPublicKey (userId : Int) : List Json :=
  match c.publicKeyCache.lookup userId with
  | some _ => []
  | none => c.keyRequest userId

def sendPlain (receiverId : Int) (content : String) : List Json :=
  c.sends (sendPrivateMessage receiverId content 0 "")

/-- Up to the `await` of `encryptMessage` -/
def sendEncryptedPrivateMessage (receiverId : Int) (content : String) : ChatService × List Json :=
  if !c.e2eeEnabled then (c, c.sendPlain receiverId content)
  else
    match c.publicKeyCache.lookup receiverId with
    | none => (c, c.keyRequest receiverId ++ c.sendPlain receiverId content)
    | some _ => ({ c with encrypting := c.encrypting ++ [(receiverId, content)] }, [])

/-- The rest of the call: the message encrypted, or an exception. -/
def encrypted (receiverId : Int) (content : String) : Option Ciphertext → List Json
  | some x => c.sends (send "encryptedMessage" [
      ("receiver_id", .number receiverId),
      ("encrypted_key", .string x.encryptedKey),
      ("iv", .string x.iv),
      ("encrypted_content", .string x.encryptedContent),
      ("media_type", .number 0),
      ("media_url", .string "")])
  | none => c.sendPlain receiverId content

/-- `== 0` of an int or a double -/
def isZero : Option Json → Bool
  | some (.number n) => n = 0
  | some (.float mantissa _) => mantissa = 0
  | _ => false

/-- `_handleKeyResponse`; a TypeError leaves the cache as it is. -/
def handleKeyResponse (body : Json) : ChatService :=
  if !isZero (body.find? "code") then c
  else
    match body.find? "data" with
    | some (.object members) =>
      match members.lookup "user_id", members.lookup "public_key" with
      | some (.number userId), some (.string publicKey) =>
        if -2 ^ 63 ≤ userId ∧ userId < 2 ^ 63 then
          { c with publicKeyCache := (userId, publicKey) :: c.publicKeyCache }
        else c
      | _, _ => c
    | _ => c

/-- `_handleData` and `_handleWsMessage` -/
def handleData (body : Json) : ChatService :=
  match body.find? "type" with
  | some (.string type) => if type = "keyResponse" then c.handleKeyResponse body else c
  | _ => c

end ChatService

/-! ## Client and gateway -/

structure State where
  client : ChatService
  /-- what the client has sent -/
  sent : List Json
  /-- what the gateway has sent to any connection -/
  texts : List Json

inductive Label
  | connection (up : Bool)
  | initE2EE (publicKey : Option String)
  | getUserPublicKey (userId : Int)
  | sendEncryptedPrivateMessage (receiverId : Int) (content : String)
  /-- a call that waits goes on -/
  | encrypted (i : Nat) (result : Option Ciphertext)
  | gateway (texts : List Json)
  | receive (i : Nat)

def State.sends (x : State) (texts : List Json) : State := { x with sent := x.sent ++ texts }

def step (x : State) : Label → Option State
  | .connection up => some { x with client := { x.client with isConnected := up } }
  | .initE2EE publicKey =>
    let r := x.client.initE2EE publicKey
    some { x with client := r.1, sent := x.sent ++ r.2 }
  | .getUserPublicKey userId => some (x.sends (x.client.getUserPublicKey userId))
  | .sendEncryptedPrivateMessage receiverId content =>
    let r := x.client.sendEncryptedPrivateMessage receiverId content
    some { x with client := r.1, sent := x.sent ++ r.2 }
  | .encrypted i result =>
    x.client.encrypting[i]?.map fun m =>
      { x with
        client := { x.client with encrypting := x.client.encrypting.eraseIdx i }
        sent := x.sent ++ x.client.encrypted m.1 m.2 result }
  | .gateway texts => some { x with texts := x.texts ++ texts }
  | .receive i => x.texts[i]?.map fun text => { x with client := x.client.handleData text }

def start : State := ⟨⟨false, false, [], []⟩, [], []⟩

/-- A run whose texts come from the gateway -/
def fromGateway (_ : State) : Label → Prop
  | .gateway texts => GatewaySends texts
  | _ => True

/-! ## Runs -/

/-- Is there a connection, and the messages that were to be encrypted while there was one -/
def askedStep (y : Bool × List Json) : Label → Bool × List Json
  | .connection up => (up, y.2)
  | .sendEncryptedPrivateMessage receiverId content =>
    if y.1 then (true, y.2 ++ [sendPrivateMessage receiverId content 0 ""]) else y
  | _ => y

def asked (ls : List Label) : Bool × List Json := ls.foldl askedStep (false, [])

/-- The messages that anyone can read -/
def plainTexts (texts : List Json) : List Json :=
  texts.filter fun text => typeOf text = some "privateMessage"

structure Unencrypted (ls : List Label) (x : State) : Prop where
  noKey : x.client.publicKeyCache = []
  noneWaits : x.client.encrypting = []
  connected : x.client.isConnected = (asked ls).1
  sent : ∀ text ∈ x.sent, typeOf text ≠ some "encryptedMessage"
  plain : plainTexts x.sent = (asked ls).2
  typed : ∀ text ∈ x.texts, Typed text

theorem unencrypted_start : Unencrypted [] start :=
  ⟨rfl, rfl, rfl, fun _ h => absurd h List.not_mem_nil, rfl, fun _ h => absurd h List.not_mem_nil⟩

theorem asked_append (ls : List Label) (l : Label) :
    asked (ls ++ [l]) = askedStep (asked ls) l := List.foldl_concat ..

/-- A text that is no key response leaves the client as it is. -/
theorem handleData_typed (c : ChatService) {text : Json} (h : Typed text) :
    c.handleData text = c := by
  obtain ⟨type, hmem, htype⟩ := h
  have hother : type ≠ "keyResponse" := by
    rintro rfl
    exact absurd hmem (by decide)
  unfold ChatService.handleData
  rw [htype]
  exact if_neg hother

section
variable {ls : List Label} {x y : State} {l : Label}

/-- What a step of the client adds -/
theorem Unencrypted.sends (h : Unencrypted ls x) {c : ChatService} {texts : List Json}
    (hkey : c.publicKeyCache = []) (hnone : c.encrypting = [])
    (hconnected : c.isConnected = (askedStep (asked ls) l).1)
    (hsent : ∀ text ∈ texts, typeOf text ≠ some "encryptedMessage")
    (hplain : (asked ls).2 ++ plainTexts texts = (askedStep (asked ls) l).2) :
    Unencrypted (ls ++ [l]) { x with client := c, sent := x.sent ++ texts } where
  noKey := hkey
  noneWaits := hnone
  connected := by rw [asked_append, hconnected]
  sent text hmem := (List.mem_append.1 hmem).elim (h.sent text) (hsent text)
  plain := by
    rw [asked_append, ← hplain, ← h.plain]
    exact List.filter_append ..
  typed := h.typed

theorem Unencrypted.sendsOther (h : Unencrypted ls x) {c : ChatService} {texts : List Json}
    (hkey : c.publicKeyCache = []) (hnone : c.encrypting = [])
    (hconnected : c.isConnected = x.client.isConnected)
    (hasked : askedStep (asked ls) l = asked ls)
    (hother : (∀ text ∈ texts, typeOf text ≠ some "encryptedMessage") ∧ plainTexts texts = []) :
    Unencrypted (ls ++ [l]) { x with client := c, sent := x.sent ++ texts } := by
  refine h.sends hkey hnone ?_ hother.1 ?_
  · rw [hasked, hconnected, h.connected]
  · rw [hasked, hother.2, List.append_nil]

theorem sends_other (c : ChatService) (text : Json) {type : String}
    (htype : typeOf text = some type) (h : type ≠ "encryptedMessage" ∧ type ≠ "privateMessage") :
    (∀ y ∈ c.sends text, typeOf y ≠ some "encryptedMessage") ∧ plainTexts (c.sends text) = [] := by
  unfold ChatService.sends
  split
  · refine ⟨fun y hy => ?_, ?_⟩
    · rw [List.mem_singleton.1 hy, htype]
      exact fun hsome => h.1 (Option.some.inj hsome)
    · rw [plainTexts, List.filter_singleton, htype]
      simp [h.2]
  · exact ⟨fun _ hy => absurd hy List.not_mem_nil, rfl⟩

theorem sendPlain_plain (c : ChatService) (receiverId : Int) (content : String) :
    (∀ y ∈ c.sendPlain receiverId content, typeOf y ≠ some "encryptedMessage") ∧
      plainTexts (c.sendPlain receiverId content) =
        if c.isConnected then [sendPrivateMessage receiverId content 0 ""] else [] := by
  have htype : typeOf (sendPrivateMessage receiverId content 0 "") = some "privateMessage" := rfl
  unfold ChatService.sendPlain ChatService.sends
  split
  · refine ⟨fun y hy => ?_, ?_⟩
    · rw [List.mem_singleton.1 hy, htype]
      decide
    · rw [plainTexts, List.filter_singleton, htype]
      rfl
  · exact ⟨fun _ hy => absurd hy List.not_mem_nil, rfl⟩

theorem unencrypted_keyRequest (c : ChatService) (userId : Int) :
    (∀ y ∈ c.keyRequest userId, typeOf y ≠ some "encryptedMessage") ∧
      plainTexts (c.keyRequest userId) = [] :=
  sends_other c _ rfl (by decide)

/-- Nothing is encrypted: a call sends the message as it is. -/
theorem unencrypted_sendEncrypted (h : Unencrypted ls x) (receiverId : Int) (content : String) :
    ∃ texts, x.client.sendEncryptedPrivateMessage receiverId content = (x.client, texts) ∧
      (∀ y ∈ texts, typeOf y ≠ some "encryptedMessage") ∧ plainTexts texts =
        if x.client.isConnected then [sendPrivateMessage receiverId content 0 ""] else [] := by
  obtain ⟨hplain, hasked⟩ := sendPlain_plain x.client receiverId content
  obtain ⟨hrequest, hnone⟩ := unencrypted_keyRequest x.client receiverId
  unfold ChatService.sendEncryptedPrivateMessage
  split
  · exact ⟨_, rfl, hplain, hasked⟩
  · rw [h.noKey]
    refine ⟨_, rfl, fun y hy => (List.mem_append.1 hy).elim (hrequest y) (hplain y), ?_⟩
    rw [plainTexts, List.filter_append, ← plainTexts, ← plainTexts, hnone, hasked, List.nil_append]

theorem unencrypted_step (h : Unencrypted ls x) (hok : fromGateway x l)
    (hstep : step x l = some y) : Unencrypted (ls ++ [l]) y := by
  cases l with
  | connection up =>
    obtain rfl := Option.some.inj hstep
    refine ⟨h.noKey, h.noneWaits, ?_, h.sent, ?_, h.typed⟩
    · rw [asked_append]
      rfl
    · rw [asked_append]
      exact h.plain
  | initE2EE publicKey =>
    obtain rfl := Option.some.inj hstep
    cases publicKey with
    | none =>
      exact h.sendsOther h.noKey h.noneWaits rfl rfl
        ⟨fun _ hmem => absurd hmem List.not_mem_nil, rfl⟩
    | some publicKey =>
      exact h.sendsOther h.noKey h.noneWaits rfl rfl (sends_other x.client _ rfl (by decide))
  | getUserPublicKey userId =>
    obtain rfl := Option.some.inj hstep
    have hget : x.client.getUserPublicKey userId = x.client.keyRequest userId := by
      rw [ChatService.getUserPublicKey, h.noKey]
      rfl
    rw [State.sends, hget]
    exact h.sendsOther h.noKey h.noneWaits rfl rfl (unencrypted_keyRequest x.client userId)
  | sendEncryptedPrivateMessage receiverId content =>
    obtain rfl := Option.some.inj hstep
    obtain ⟨texts, hcall, hsent, hplain⟩ := unencrypted_sendEncrypted h receiverId content
    rw [hcall]
    have hasked : askedStep (asked ls) (.sendEncryptedPrivateMessage receiverId content) =
        ((asked ls).1, (asked ls).2 ++ plainTexts texts) := by
      rw [hplain, h.connected]
      show (if (asked ls).1 then _ else asked ls) = _
      split
      · rw [‹(asked ls).1 = true›]
      · rw [List.append_nil]
    exact h.sends h.noKey h.noneWaits (by rw [hasked, h.connected]) hsent (by rw [hasked])
  | encrypted i result =>
    rw [step, h.noneWaits] at hstep
    cases hstep
  | gateway texts =>
    obtain rfl := Option.some.inj hstep
    refine ⟨h.noKey, h.noneWaits, ?_, h.sent, ?_, fun text hmem => ?_⟩
    · rw [asked_append]
      exact h.connected
    · rw [asked_append]
      exact h.plain
    · exact (List.mem_append.1 hmem).elim (h.typed text) (typed_sends hok text)
  | receive i =>
    obtain ⟨text, htext, rfl⟩ := Option.map_eq_some_iff.1 hstep
    rw [handleData_typed x.client (h.typed text (List.mem_of_getElem? htext))]
    refine ⟨h.noKey, h.noneWaits, ?_, h.sent, ?_, h.typed⟩
    · rw [asked_append]
      exact h.connected
    · rw [asked_append]
      exact h.plain

end

/-- Whatever the gateway sends, no key is ever kept, nothing is ever sent encrypted, and what was to
    be encrypted goes out for anyone to read. -/
theorem never_encrypted {ls : List Label} {x : State} (h : Run step fromGateway start ls x) :
    x.client.publicKeyCache = [] ∧ (∀ text ∈ x.sent, typeOf text ≠ some "encryptedMessage") ∧
      plainTexts x.sent = (asked ls).2 := by
  have hall : Unencrypted ls x := by
    induction h with
    | nil => exact unencrypted_start
    | snoc _ hok hstep ih => exact unencrypted_step ih hok hstep
  exact ⟨hall.noKey, hall.sent, hall.plain⟩

/-- The client logs in and wants to send "hi" to user 2 encrypted. -/
def hi : List Label :=
  [.connection true, .initE2EE (some "key"), .sendEncryptedPrivateMessage 2 "hi"]

theorem hi_fromGateway : ∀ l ∈ hi, ∀ x, fromGateway x l := by
  intro l hl x
  rcases List.mem_cons.1 hl with rfl | hl
  · trivial
  rcases List.mem_cons.1 hl with rfl | hl
  · trivial
  rw [List.mem_singleton.1 hl]
  trivial

theorem never_encrypted_hi : plainTexts [send "keyUpload" [("public_key", .string "key")],
    send "keyRequest" [("user_id", .number 2)], sendPrivateMessage 2 "hi" 0 ""] =
      [sendPrivateMessage 2 "hi" 0 ""] :=
  (never_encrypted (exec_run_of hi_fromGateway rfl)).2.2

end Encryption

end ChatApp.Client
