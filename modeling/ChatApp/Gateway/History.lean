/-
  The history of a group on the two front ends. The gateway's `handle_group_history` asks
  `is_member` before it reads the history; `Session::handle_group_history` does not ask.
  `history_iff` says exactly when a request for a group leaks nothing to a user who is no member
  and is refused by both or by neither.
-/
import ChatApp.Session.Anonymous

namespace ChatApp.Gateway.History

open ChatApp.Lib ChatApp.Database ChatApp.Protocol ChatApp.Session

/-! ## The handler of the gateway -/

/-- `msg[key].get<uint64_t>()`; without the member the behaviour is undefined, here it throws. -/
def memberUInt64 (msg : Json) (key : String) : Except JsonError Nat :=
  match msg.find? key with
  | some member => toUInt64 <$> member.getNumber
  | none => .error .typeMismatch

def historyJson (message : Message) : Json := .object [
  ("message_id", .number message.messageId),
  ("sender_id", .number message.senderId),
  ("group_id", .number message.groupId),
  ("content", .string message.content),
  ("message_type", .number message.mediaType.code.toNat),
  ("media_url", .string message.mediaUrl),
  ("created_at", .number message.createdAt)]

def refusal : Json := .object [("type", .string "groupHistoryResponse"),
  ("success", .bool false), ("error", .string "Not a group member")]

/-- `handle_group_history` of a connection of the user; the result is the text it sends. -/
def handleGroupHistory (userId : Nat) (msg : Json) : SessionM Json := do
  let groupId ← read (memberUInt64 msg "group_id")
  let beforeTime ← read (msg.valueInt "before_time" 0)
  let limit ← read (msg.valueInt "limit" 50)
  if !(← GroupManager.isMember groupId userId) then return refusal
  let messages ← MessageManager.getGroupHistory groupId beforeTime limit
  return .object [("type", .string "groupHistoryResponse"), ("group_id", .number groupId),
    ("messages", .array (messages.map historyJson))]

/-! ## Requests -/

/-- A frame to the server and a message to the gateway ask for the history of the group. -/
structure Asks (body msg : Json) (groupId : Nat) (beforeTime limit : Int) : Prop where
  frame : body.valueId "group_id" = .ok groupId
  frameTime : body.valueInt "before_time" 0 = .ok beforeTime
  frameLimit : body.valueInt "limit" 50 = .ok limit
  message : memberUInt64 msg "group_id" = .ok groupId
  messageTime : msg.valueInt "before_time" 0 = .ok beforeTime
  messageLimit : msg.valueInt "limit" 50 = .ok limit

/-- The tables differ at most in the messages of the group. -/
structure AgreeBut (groupId : Nat) (d d' : Tables) : Prop where
  users : d'.users = d.users
  groups : d'.groups = d.groups
  members : d'.members = d.members
  privateMessages : d'.privateMessages = d.privateMessages
  groupMessages : d'.groupMessages.rows.filter (·.targetId ≠ groupId) =
    d.groupMessages.rows.filter (·.targetId ≠ groupId)

/-- The frames with which the server answers a GROUP_HISTORY. -/
def serverReply {ρ : Type} (o : Outside ρ) (s : Session) (sequence : UInt32) (body : Json) (r : ρ)
    (d : Tables) : List (SessionId × Frame) :=
  (o.handle s sequence body MessageType.groupHistory.code (r, .idle d)).1

def gatewayReply {ρ : Type} (o : Outside ρ) (userId : Nat) (msg : Json) (r : ρ) (d : Tables) :
    Except Stop Json :=
  (o.run (handleGroupHistory userId msg) (r, .idle d)).1

/-- No message of the group shows in the replies to a user who is no member. -/
def Silent (s : Session) (sequence : UInt32) (body msg : Json) (groupId : Nat)
    (d : Tables) : Prop :=
  ¬ isMember d groupId s.userId → ∀ (ρ : Type) (o : Outside ρ) (r : ρ) (d' : Tables),
    AgreeBut groupId d d' →
      serverReply o s sequence body r d' = serverReply o s sequence body r d ∧
      gatewayReply o s.userId msg r d' = gatewayReply o s.userId msg r d

/-- The reply is an error. -/
def ServerRefuses (reply : List (SessionId × Frame)) : Prop := ∀ x ∈ reply, x.2.type = .error

def GatewayRefuses (reply : Except Stop Json) : Prop := reply = .ok refusal

/-- Over a healthy connection the two front ends refuse the same requests. -/
def SameRefusal (s : Session) (sequence : UInt32) (body msg : Json) (d : Tables) : Prop :=
  ∀ (ρ : Type) (o : Outside ρ) (r : ρ), o.Healthy →
    (ServerRefuses (serverReply o s sequence body r d) ↔
      GatewayRefuses (gatewayReply o s.userId msg r d))

/-! ## The replies -/

section
variable {ρ : Type} {o : Outside ρ} {d : Tables} {s : Session} {sequence : UInt32}
variable {body msg : Json} {groupId : Nat} {beforeTime limit : Int}

theorem serverReply_eq {r : ρ} : serverReply o s sequence body r d =
    o.frames (s.handleGroupHistory sequence body) (r, .idle d) := by
  unfold serverReply
  rw [Outside.handle_eq]
  rfl

/-- The server answers every logged-in user. -/
theorem server_answers (hs : s.authenticated = true) (h : Asks body msg groupId beforeTime limit)
    (hne : groupId ≠ 0) (r : ρ) : ∃ data, serverReply o s sequence body r d =
      [(s.id, createResponse .groupHistoryResponse sequence data)] := by
  have htriple : o.Triple d (s.handleGroupHistory sequence body) fun _ _ xs =>
      ∃ data, xs = [(s.id, createResponse .groupHistoryResponse sequence data)] := by
    unfold Session.handleGroupHistory Session.authenticatedOnly
    rw [if_pos hs]
    refine Outside.triple_read h.frame (Outside.triple_read h.frameTime
      (Outside.triple_read h.frameLimit ?_))
    rw [if_neg hne]
    refine Outside.triple_bind (Outside.triple_bind (Outside.triple_locked (paired_fetch rfl)
      fun e he => ?_))
    exact Outside.then_ok (Outside.triple_pure (Outside.then_ok (Outside.triple_send ⟨_, rfl⟩)))
  rw [serverReply_eq]
  exact htriple _ rfl

theorem server_zero (hs : s.authenticated = true) (h : Asks body msg 0 beforeTime limit) (r : ρ) :
    serverReply o s sequence body r d =
      [(s.id, createError sequence 400 "Group ID is required")] := by
  have htriple : o.Triple d (s.handleGroupHistory sequence body) fun _ _ xs =>
      xs = [(s.id, createError sequence 400 "Group ID is required")] := by
    unfold Session.handleGroupHistory Session.authenticatedOnly
    rw [if_pos hs]
    refine Outside.triple_read h.frame (Outside.triple_read h.frameTime
      (Outside.triple_read h.frameLimit ?_))
    exact Outside.triple_send rfl
  rw [serverReply_eq]
  exact htriple _ rfl

theorem gateway_refuses (h : Asks body msg groupId beforeTime limit)
    (hmember : ¬ isMember d groupId s.userId) (r : ρ) :
    gatewayReply o s.userId msg r d = .ok refusal := by
  have htriple : o.Triple d (handleGroupHistory s.userId msg) fun reply _ _ =>
      reply = .ok refusal := by
    refine Outside.triple_read h.message (Outside.triple_read h.messageTime
      (Outside.triple_read h.messageLimit (Outside.triple_bind (Outside.triple_locked
        (paired_fetchFirst rfl) ((Outside.dbTriple_isGroupMember groupId s.userId).mono ?_)))))
    rintro member d' ⟨hyes, -, rfl⟩
    have hno : member = false := Bool.eq_false_iff.2 fun h => hmember (hyes h)
    subst hno
    exact Outside.then_ok (Outside.triple_pure rfl)
  exact htriple _ rfl

theorem gateway_answers (ho : o.Healthy) (h : Asks body msg groupId beforeTime limit)
    (hmember : isMember d groupId s.userId) (r : ρ) :
    gatewayReply o s.userId msg r d ≠ .ok refusal := by
  have htriple : o.Triple d (handleGroupHistory s.userId msg) fun reply _ _ =>
      reply ≠ .ok refusal := by
    refine Outside.triple_read h.message (Outside.triple_read h.messageTime
      (Outside.triple_read h.messageLimit (Outside.triple_bind (Outside.triple_locked
        (paired_fetchFirst rfl) ((Outside.dbTriple_isGroupMember groupId s.userId).mono ?_)))))
    rintro member d' ⟨-, hyes, rfl⟩
    rw [hyes ho hmember]
    refine Outside.then_ok (Outside.triple_bind (Outside.triple_bind (Outside.triple_locked
      (paired_fetch rfl) fun e he => ?_)))
    exact Outside.then_ok (Outside.triple_pure (Outside.then_ok (Outside.triple_pure
      (by simp [refusal]))))
  exact htriple _ rfl

end

/-! ## The condition -/

/-- The messages of a group are hidden from users who are no members, and both front ends refuse
    alike, if and only if the user is a member, or the request is for the group 0, which nobody is
    a member of. The gateway alone always hides them. -/
theorem history_iff (s : Session) (hs : s.authenticated = true) (sequence : UInt32)
    (body msg : Json) (groupId : Nat) (beforeTime limit : Int)
    (h : Asks body msg groupId beforeTime limit) (d : Tables) :
    (Silent s sequence body msg groupId d ∧ SameRefusal s sequence body msg d ↔
      (groupId ≠ 0 ↔ isMember d groupId s.userId)) ∧
    (¬ isMember d groupId s.userId → ∀ (ρ : Type) (o : Outside ρ) (r : ρ) (d' : Tables),
      AgreeBut groupId d d' →
        gatewayReply o s.userId msg r d' = gatewayReply o s.userId msg r d) := by
  have hgateway : ¬ isMember d groupId s.userId → ∀ (ρ : Type) (o : Outside ρ) (r : ρ)
      (d' : Tables), AgreeBut groupId d d' →
        gatewayReply o s.userId msg r d' = gatewayReply o s.userId msg r d := by
    intro hmember ρ o r d' hd'
    have hmember' : ¬ isMember d' groupId s.userId := by
      unfold isMember
      rw [hd'.members]
      exact hmember
    rw [gateway_refuses h hmember, gateway_refuses h hmember']
  refine ⟨⟨?_, ?_⟩, hgateway⟩
  · rintro ⟨-, hrefusal⟩
    have hsame := hrefusal Unit quiet () Outside.healthy_quiet
    constructor
    · intro hne
      by_contra hmember
      obtain ⟨data, hreply⟩ := server_answers hs h hne ()
      rw [hreply] at hsame
      have hrefused := hsame.2 (gateway_refuses h hmember ()) _ (List.mem_singleton_self _)
      simp [createResponse] at hrefused
    · rintro hmember rfl
      refine gateway_answers Outside.healthy_quiet h hmember () (hsame.1 ?_)
      rw [server_zero hs h]
      simp [ServerRefuses, createError]
  · intro hiff
    by_cases hzero : groupId = 0
    · subst hzero
      have hmember : ¬ isMember d 0 s.userId := fun hm => hiff.2 hm rfl
      refine ⟨fun _ ρ o r d' hd' => ⟨?_, hgateway hmember ρ o r d' hd'⟩, fun ρ o r ho => ?_⟩
      · rw [server_zero hs h, server_zero hs h]
      · rw [server_zero hs h, GatewayRefuses, gateway_refuses h hmember]
        simp [ServerRefuses, createError]
    · have hmember := hiff.1 hzero
      refine ⟨fun hno => absurd hmember hno, fun ρ o r ho => ?_⟩
      obtain ⟨data, hreply⟩ := server_answers hs h hzero r
      rw [hreply]
      have hanswer := gateway_answers ho h hmember r
      simp [ServerRefuses, GatewayRefuses, createResponse, hanswer]

/-- The owner of a group asks for its history. -/
theorem history_iff_owner : let body : Json := .object [("group_id", .number 1)]
    Silent ⟨1, 1, true⟩ 1 body body 1 (loneUser 1) ∧
      SameRefusal ⟨1, 1, true⟩ 1 body body (loneUser 1) := by
  intro body
  have hasks : Asks body body 1 0 50 := ⟨rfl, rfl, rfl, rfl, rfl, rfl⟩
  have hmember : (1 : Nat) ≠ 0 ↔ isMember (loneUser 1) 1 1 := by decide
  exact (history_iff ⟨1, 1, true⟩ rfl 1 body body 1 0 50 hasks (loneUser 1)).1.2 hmember

/-- The group 1 with a message of its owner. -/
def oneMove : Tables :=
  { loneUser 1 with
    groupMessages := (loneUser 1).groupMessages.insert
      (⟨·, 1, 1, ⟨0⟩, "e4", "", "", .sent, 9⟩) fun _ => rfl
    posters := by simp [loneUser, UniqueTable.empty, UniqueTable.find?] }

/-- User 2, who is no member, reads the message through the server. -/
theorem history_leak : ¬ ∀ (s : Session) (sequence : UInt32) (body msg : Json) (groupId : Nat)
    (beforeTime limit : Int) (d : Tables), s.authenticated = true →
    Asks body msg groupId beforeTime limit →
      Silent s sequence body msg groupId d ∧ SameRefusal s sequence body msg d := by
  intro h
  have hasks : Asks (.object [("group_id", .number 1)]) (.object [("group_id", .number 1)])
      1 0 50 :=
    ⟨rfl, rfl, rfl, rfl, rfl, rfl⟩
  have hagree : AgreeBut 1 (loneUser 1) oneMove :=
    ⟨rfl, rfl, rfl, rfl, by simp [oneMove, loneUser, UniqueTable.empty]⟩
  have hsilent := (h ⟨1, 2, true⟩ 1 _ _ 1 0 50 (loneUser 1) rfl hasks).1
  have hsame := (hsilent (by decide) Unit quiet () oneMove hagree).1
  have hleak : serverReply quiet ⟨1, 2, true⟩ 1 (.object [("group_id", .number 1)]) () oneMove =
      [(1, createResponse .groupHistoryResponse 1 (listJson "messages" messageJson
        [messageInfo true ⟨1, 1, 1, ⟨0⟩, "e4", "", "", .sent, 9⟩]))] := rfl
  have hnone : serverReply quiet ⟨1, 2, true⟩ 1 (.object [("group_id", .number 1)])
      () (loneUser 1) =
      [(1, createResponse .groupHistoryResponse 1 (listJson "messages" messageJson []))] := rfl
  rw [hleak, hnone] at hsame
  simp [createResponse, listJson] at hsame

end ChatApp.Gateway.History
