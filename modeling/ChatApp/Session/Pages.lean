/-
  Reading a history page by page, through PRIVATE_HISTORY or GROUP_HISTORY. `before_time` of the
  next request is the `created_at` of the last message of a page, and the server answers with older
  messages only: what has the same `created_at` as the last message of a page, and is not on it, is
  never returned. `complete_iff` says exactly when nothing is lost.
-/
import ChatApp.Lib.Paging
import ChatApp.Session.Anonymous

namespace ChatApp.Session

open ChatApp.Lib ChatApp.Lib.Prog ChatApp.Lib.Paging ChatApp.Database ChatApp.Protocol

/-- The two requests for a history. -/
inductive History
  | privateHistory | groupHistory
  deriving DecidableEq

/-- The array of messages in the response to a request. -/
def messagesOf : List (SessionId × Frame) → List Json
  | [(_, frame)] =>
    match (frame.body.find? "data").bind (Json.find? "messages") with
    | some (.array messages) => messages
    | _ => []
  | _ => []

/-- The `created_at` of a message. -/
def createdAt (message : Json) : Int :=
  match message.find? "created_at" with
  | some (.number t) => t
  | _ => 0

/-- A number of a request, read as an `int` and widened. -/
def castId (id : Nat) : Nat := toUInt64 (toInt32 id)

namespace History

variable (k : History)

def type : History → MessageType
  | privateHistory => .privateHistory
  | groupHistory => .groupHistory

def ofGroup : History → Bool
  | privateHistory => false
  | groupHistory => true

/-- The member that names the conversation. -/
def key : History → String
  | privateHistory => "peer_id"
  | groupHistory => "group_id"

/-- The messages of the session's user and the peer, or those of the group. -/
def conversation (s : Session) (d : Tables) (id : Nat) : History → List MessageRow
  | privateHistory => d.privateMessages.rows.filter (Tables.between s.userId id)
  | groupHistory => d.groupMessages.rows.filter fun m => decide (m.targetId = id)

/-- The request for a page. -/
def request (id : Nat) (limit beforeTime : Int) : Json :=
  .object [(k.key, .number id), ("before_time", .number beforeTime), ("limit", .number limit)]

/-- A message in a response. -/
def json (m : MessageRow) : Json := messageJson (messageInfo k.ofGroup m)

variable {ρ : Type} (o : Outside ρ) (s : Session) (sequence : UInt32) (id : Nat) (limit : Int)

/-- The client asks for a page. -/
def getPage (e : ρ × Connected) (beforeTime : Int) : List Json × (ρ × Connected) :=
  let task := s.task sequence (k.request id limit beforeTime) k.type.code
  (messagesOf (sent (Prog.trace o.env task e)), (Prog.run o.env task e).2)

/-- The client reads every message of the conversation exactly once, the newest first. -/
def Complete (e : ρ × Connected) : Prop :=
  ∃ fuel l, readPages (k.getPage o s sequence id limit) createdAt fuel e 0 = some (l.map k.json) ∧
    l.Perm (k.conversation s e.2.db id) ∧ Descending MessageRow.createdAt l

/-- The messages that the server can return: those of the conversation it takes the id for, if it
    answers at all and the limit allows for a message. -/
def readable (d : Tables) : List MessageRow :=
  if s.authenticated = true ∧ castId id ≠ 0 ∧ 1 ≤ toInt32 limit then
    k.conversation s d (castId id)
  else []

/-! ## A page -/

section
variable {k o s sequence id limit} {d : Tables} {beforeTime : Int}

/-- The rows of a page. -/
theorem isPage_rows (hs : s.authenticated = true) (hid : castId id ≠ 0) {q : List MessageRow}
    (hq : q.Perm (shown MessageRow.createdAt toInt32 (k.conversation s d (castId id)) beforeTime))
    (hdesc : Descending MessageRow.createdAt q) :
    IsPage MessageRow.createdAt toInt32 (k.readable s id limit d) (toInt32 limit).toNat beforeTime
      (if toInt32 limit < 0 then [] else q.take (toInt32 limit).toNat) := by
  by_cases hlimit : 1 ≤ toInt32 limit
  · have hrows : k.readable s id limit d = k.conversation s d (castId id) :=
      if_pos ⟨hs, hid, hlimit⟩
    rw [hrows, if_neg (by omega)]
    exact ⟨q, hq, hdesc, rfl⟩
  · have hrows : k.readable s id limit d = [] := if_neg fun h => hlimit h.2.2
    have hzero : (toInt32 limit).toNat = 0 := by omega
    rw [hrows, hzero]
    refine ⟨[], .refl _, List.Pairwise.nil, ?_⟩
    split <;> rfl

/-- Nothing, where the server returns nothing. -/
theorem isPage_nil (h : k.readable s id limit d = []) :
    IsPage MessageRow.createdAt toInt32 (k.readable s id limit d) (toInt32 limit).toNat beforeTime
      [] := by
  rw [h]
  exact ⟨[], .refl _, List.Pairwise.nil, List.take_nil.symm⟩

/-- The frames of a request carry a page, and the tables stay as they are. -/
def Paged (k : History) (s : Session) (id : Nat) (limit : Int) (d : Tables) (beforeTime : Int)
    (d' : Tables) (frames : List (SessionId × Frame)) : Prop :=
  d' = d ∧ ∃ p, IsPage MessageRow.createdAt toInt32 (k.readable s id limit d)
    (toInt32 limit).toNat beforeTime p ∧ messagesOf frames = p.map k.json

/-- The rows that a history statement asks for. -/
def asked (d : Tables) (s : Session) (id : Nat) (beforeTime : Int) : History → List MessageRow
  | privateHistory => d.privateMessages.rows.filter fun m =>
    Tables.between s.userId id m && Tables.olderThan beforeTime m
  | groupHistory => d.groupMessages.rows.filter fun m =>
    decide (m.targetId = id) && Tables.olderThan beforeTime m

theorem asked_eq : k.asked d s id (toInt32 beforeTime) =
    shown MessageRow.createdAt toInt32 (k.conversation s d id) beforeTime := by
  have hshows : ∀ m : MessageRow, Tables.olderThan (toInt32 beforeTime) m =
      decide (Shows toInt32 beforeTime m.createdAt) := fun _ => rfl
  cases k <;> simp only [asked, conversation, shown, List.filter_filter, hshows, Bool.and_comm]

/-- The messages of a page, from the rows of the SELECT. -/
theorem messages_of_page (q : List MessageRow) (n : Int) :
    (((if n < 0 then none else some ((q.take n.toNat).map Tables.messageRow)) :
      Option (List Row)).getD []).map (messageOf k.ofGroup) =
        (if n < 0 then [] else q.take n.toNat).map (messageInfo k.ofGroup) := by
  split
  · rfl
  · simp [Function.comp_def]

end

end History

namespace Outside

open History

variable {ρ : Type} {o : Outside ρ} {s : Session} {sequence : UInt32} {id : Nat} {limit : Int}
  {d : Tables} {beforeTime : Int}

theorem dbTriple_getPrivateHistory (ho : o.Healthy) (user1Id user2Id : Nat)
    (beforeTime limit : Int) :
    o.DbTriple d (getPrivateHistory user1Id user2Id beforeTime limit) fun r d' => d' = d ∧
      ∃ r', r.2 = ((Tables.page (o.order r') limit (d.privateMessages.rows.filter fun m =>
        Tables.between user1Id user2Id m && Tables.olderThan beforeTime m)).getD []).map
          (messageOf false) :=
  dbTriple_locked (dbTriple_bind (dbTriple_select _ rfl (fun _ => rfl) (.inr ho) fun r' =>
    dbTriple_pure ⟨rfl, r', rfl⟩))

theorem dbTriple_getGroupHistory (ho : o.Healthy) (groupId : Nat) (beforeTime limit : Int) :
    o.DbTriple d (getGroupHistory groupId beforeTime limit) fun r d' => d' = d ∧
      ∃ r', r.2 = ((Tables.page (o.order r') limit (d.groupMessages.rows.filter fun m =>
        decide (m.targetId = groupId) && Tables.olderThan beforeTime m)).getD []).map
          (messageOf true) :=
  dbTriple_locked (dbTriple_bind (dbTriple_select _ rfl (fun _ => rfl) (.inr ho) fun r' =>
    dbTriple_pure ⟨rfl, r', rfl⟩))

/-- The response to a request that the tables answer. -/
theorem paged_response {k : History} (hs : s.authenticated = true) (hid : castId id ≠ 0)
    (x : SessionId) (type : MessageType) {messages : List Message} {r : ρ}
    (h : messages = ((Tables.page (o.order r) (toInt32 limit)
      (k.asked d s (castId id) (toInt32 beforeTime))).getD []).map (messageOf k.ofGroup)) :
    Paged k s id limit d beforeTime d
      [(x, createResponse type sequence (listJson "messages" messageJson messages))] := by
  let q := o.order r (k.asked d s (castId id) (toInt32 beforeTime))
  have hq : q.Perm (shown MessageRow.createdAt toInt32 (k.conversation s d (castId id))
      beforeTime) := by
    rw [← asked_eq]
    exact o.perm r _
  have hmessages : messages =
      (if toInt32 limit < 0 then [] else q.take (toInt32 limit).toNat).map
        (messageInfo k.ofGroup) := by
    rw [h, ← messages_of_page]
    unfold Tables.page
    split
    · rfl
    · rfl
  refine ⟨rfl, _, isPage_rows hs hid hq (o.sorted r _), ?_⟩
  show messages.map messageJson = _
  rw [hmessages, List.map_map]
  rfl

/-- What the two handlers do before they ask the manager. -/
theorem triple_historyRequest {key message : String} {rest : Nat → Int → Int → SessionM Unit}
    (hkey : (k.request id limit beforeTime).valueId key = .ok (castId id))
    (hrest : s.authenticated = true → castId id ≠ 0 →
      o.Triple d (rest (castId id) (toInt32 beforeTime) (toInt32 limit))
        fun _ d' xs => Paged k s id limit d beforeTime d' xs) :
    o.Triple d (s.authenticatedOnly sequence do
      let requested ← read ((k.request id limit beforeTime).valueId key)
      let before ← read ((k.request id limit beforeTime).valueInt "before_time" 0)
      let most ← read ((k.request id limit beforeTime).valueInt "limit" 50)
      if requested = 0 then s.sendError sequence 400 message else rest requested before most)
      fun _ d' xs => Paged k s id limit d beforeTime d' xs := by
  unfold Session.authenticatedOnly
  by_cases hs : s.authenticated = true
  case neg =>
    rw [if_neg hs]
    exact triple_send ⟨rfl, [], isPage_nil (if_neg fun h => hs h.1), rfl⟩
  rw [if_pos hs]
  have hbefore : (k.request id limit beforeTime).valueInt "before_time" 0 =
      .ok (toInt32 beforeTime) := by
    cases k <;> rfl
  have hlimit : (k.request id limit beforeTime).valueInt "limit" 50 = .ok (toInt32 limit) := by
    cases k <;> rfl
  refine triple_read hkey (triple_read hbefore (triple_read hlimit ?_))
  by_cases hid : castId id = 0
  case pos =>
    rw [if_pos hid]
    exact triple_send ⟨rfl, [], isPage_nil (if_neg fun h => h.2.1 hid), rfl⟩
  rw [if_neg hid]
  exact hrest hs hid

theorem triple_privateHistory (ho : o.Healthy) :
    o.Triple d (s.handlePrivateHistory sequence (privateHistory.request id limit beforeTime))
      fun _ d' xs => Paged privateHistory s id limit d beforeTime d' xs := by
  refine triple_historyRequest rfl fun hs hid => ?_
  refine triple_bind (triple_bind (triple_locked (paired_fetch rfl)
    ((dbTriple_getPrivateHistory ho _ _ _ _).mono ?_)))
  rintro r d' ⟨rfl, r', hr⟩
  exact then_ok (triple_pure (then_ok (triple_send
    (paged_response (k := privateHistory) hs hid _ _ hr))))

theorem triple_groupHistory (ho : o.Healthy) :
    o.Triple d (s.handleGroupHistory sequence (groupHistory.request id limit beforeTime))
      fun _ d' xs => Paged groupHistory s id limit d beforeTime d' xs := by
  refine triple_historyRequest rfl fun hs hid => ?_
  refine triple_bind (triple_bind (triple_locked (paired_fetch rfl)
    ((dbTriple_getGroupHistory ho _ _ _).mono ?_)))
  rintro r d' ⟨rfl, r', hr⟩
  exact then_ok (triple_pure (then_ok (triple_send
    (paged_response (k := groupHistory) hs hid _ _ hr))))

end Outside

namespace History

variable {ρ : Type} {o : Outside ρ} {k : History} {s : Session} {sequence : UInt32} {id : Nat}
  {limit : Int}

/-! ## The whole history -/

theorem serves_getPage (ho : o.Healthy) (d : Tables) :
    Serves MessageRow.createdAt toInt32 (k.readable s id limit d) (toInt32 limit).toNat
      (k.getPage o s sequence id limit) k.json fun e => e.2.db = d := by
  intro e beforeTime he
  have hpaged (p : SessionM Unit)
      (hp : s.handleMessage sequence (k.request id limit beforeTime) k.type.code = p)
      (h : o.Triple d p fun _ d' xs => Paged k s id limit d beforeTime d' xs) :
      Paged k s id limit d beforeTime (k.getPage o s sequence id limit e beforeTime).2.2.db
        (sent (Prog.trace o.env (s.task sequence (k.request id limit beforeTime) k.type.code)
          e)) := by
    have hframes := congrArg Prod.fst
      (o.handle_eq s sequence (k.request id limit beforeTime) k.type.code e)
    have htables := congrArg Prod.snd
      (o.handle_eq s sequence (k.request id limit beforeTime) k.type.code e)
    rw [hp] at hframes htables
    unfold Outside.handle at hframes htables
    unfold getPage
    simp only at hframes htables ⊢
    rw [hframes, htables]
    exact h e he
  have hresult : Paged k s id limit d beforeTime
      (k.getPage o s sequence id limit e beforeTime).2.2.db
      (sent (Prog.trace o.env (s.task sequence (k.request id limit beforeTime) k.type.code)
        e)) := by
    cases k with
    | privateHistory => exact hpaged _ rfl (Outside.triple_privateHistory ho)
    | groupHistory => exact hpaged _ rfl (Outside.triple_groupHistory ho)
  obtain ⟨hdb, p, hpage, hp⟩ := hresult
  exact ⟨p, hpage, hp, hdb⟩

theorem code_injective : MessageStatus.code.Injective := by
  intro x y h
  cases x <;> cases y <;> first | rfl | cases h

theorem json_injective (k : History) : k.json.Injective := by
  intro m m' h
  have hcast : ∀ x y : UInt8, (x.toNat : Int) = y.toNat ↔ x = y := by
    intro x y
    rw [Int.natCast_inj, UInt8.toNat_inj]
  have hfields : m.messageId = m'.messageId ∧ m.senderId = m'.senderId ∧
      m.targetId = m'.targetId ∧ m.mediaType.code = m'.mediaType.code ∧ m.content = m'.content ∧
      m.mediaUrl = m'.mediaUrl ∧ m.extra = m'.extra ∧ m.status = m'.status ∧
      m.createdAt = m'.createdAt := by
    cases k <;>
      simpa only [json, messageJson, messageInfo, ofGroup, Json.object.injEq, List.cons.injEq,
        Prod.mk.injEq, Json.number.injEq, Json.string.injEq, Int.natCast_inj, hcast,
        code_injective.eq_iff, true_and, and_true, if_true, if_false, Bool.false_eq_true] using h
  obtain ⟨_, _, _, ⟨_⟩, _, _, _, _, _⟩ := m
  obtain ⟨_, _, _, ⟨_⟩, _, _, _, _, _⟩ := m'
  obtain ⟨rfl, rfl, rfl, rfl, rfl, rfl, rfl, rfl, rfl⟩ := hfields
  rfl

theorem createdAt_json (k : History) (m : MessageRow) : createdAt (k.json m) = m.createdAt := rfl

theorem conversation_nodup (k : History) (s : Session) (d : Tables) (id : Nat) :
    (k.conversation s d id).Nodup := by
  cases k with
  | privateHistory => exact (List.Nodup.of_map _ d.privateMessages.unique).filter _
  | groupHistory => exact (List.Nodup.of_map _ d.groupMessages.unique).filter _

/-- Conversations with different ids have no message in common. -/
theorem conversation_disjoint {d : Tables} {id' : Nat} {m : MessageRow}
    (h : m ∈ k.conversation s d id) (h' : m ∈ k.conversation s d id') : id = id' := by
  cases k with
  | privateHistory =>
    have hm := (List.mem_filter.1 h).2
    have hm' := (List.mem_filter.1 h').2
    simp only [Tables.between, decide_eq_true_eq] at hm hm'
    omega
  | groupHistory =>
    have hm := of_decide_eq_true (List.mem_filter.1 h).2
    have hm' := of_decide_eq_true (List.mem_filter.1 h').2
    omega

/-- What a client reads completely is what the server can return. -/
theorem Complete.readable (ho : o.Healthy) {e : ρ × Connected}
    (h : k.Complete o s sequence id limit e) :
    k.readable s id limit e.2.db = k.conversation s e.2.db id := by
  obtain ⟨fuel, l, hl, hperm, -⟩ := h
  have hserves : Serves MessageRow.createdAt toInt32 (k.readable s id limit e.2.db)
      (toInt32 limit).toNat (k.getPage o s sequence id limit) k.json fun e' => e'.2.db = e.2.db :=
    serves_getPage ho e.2.db
  obtain ⟨l', hl', hreads⟩ := reads_of_readPages (createdAt_json k) hserves (s := e) rfl hl
  obtain rfl : l = l' := List.map_injective_iff.2 (json_injective k) hl'
  have hmem : ∀ m ∈ k.conversation s e.2.db id, m ∈ k.readable s id limit e.2.db :=
    fun m hm => hreads.mem_rows (hperm.mem_iff.2 hm)
  by_cases hanswers : s.authenticated = true ∧ castId id ≠ 0 ∧ 1 ≤ toInt32 limit
  · have hrows : k.readable s id limit e.2.db = k.conversation s e.2.db (castId id) :=
      if_pos hanswers
    by_cases hid : castId id = id
    · rw [hrows, hid]
    -- the conversation is empty, so the first page was
    have hempty : k.conversation s e.2.db id = [] := by
      refine List.eq_nil_iff_forall_not_mem.2 fun m hm => hid ?_
      have hm' := hmem m hm
      rw [hrows] at hm'
      exact (conversation_disjoint hm hm').symm
    rw [hempty] at hperm ⊢
    obtain rfl := hperm.eq_nil
    have hnone := hreads.eq_nil.resolve_left (by omega)
    rwa [shown_all (by decide)] at hnone
  · have hrows : k.readable s id limit e.2.db = [] := if_neg hanswers
    rw [hrows] at hmem ⊢
    exact (List.eq_nil_iff_forall_not_mem.2 fun m hm => by cases hmem m hm).symm

/-- What the loop reads, of the messages that the server can return. -/
theorem readable_iff (ho : o.Healthy) (e : ρ × Connected) :
    (∃ fuel l, readPages (k.getPage o s sequence id limit) createdAt fuel e 0 =
        some (l.map k.json) ∧
      l.Perm (k.readable s id limit e.2.db) ∧ Descending MessageRow.createdAt l) ↔
    Boundaries MessageRow.createdAt toInt32 (k.readable s id limit e.2.db)
      (toInt32 limit).toNat := by
  have hn : 0 < (toInt32 limit).toNat ∨ k.readable s id limit e.2.db = [] := by
    by_cases h : 1 ≤ toInt32 limit
    · exact .inl (by omega)
    · exact .inr (if_neg fun h' => h h'.2.2)
  have hnodup : (k.readable s id limit e.2.db).Nodup := by
    unfold readable
    split
    · exact conversation_nodup _ _ _ _
    · exact List.nodup_nil
  exact readPages_iff (createdAt_json k) (json_injective k) hnodup (serves_getPage ho e.2.db) hn
    (s := e) rfl (by decide)

theorem Complete.boundaries (ho : o.Healthy) {e : ρ × Connected}
    (h : k.Complete o s sequence id limit e) :
    Boundaries MessageRow.createdAt toInt32 (k.conversation s e.2.db id)
      (toInt32 limit).toNat := by
  have hreadable := Complete.readable ho h
  unfold Complete at h
  rw [← hreadable] at h ⊢
  exact (readable_iff ho e).1 h

/-- The client reads the whole conversation exactly if the server takes the request for one for
    this conversation, and every page ends at a boundary. -/
theorem complete_iff (ho : o.Healthy) (e : ρ × Connected) :
    k.Complete o s sequence id limit e ↔
      k.readable s id limit e.2.db = k.conversation s e.2.db id ∧
        Boundaries MessageRow.createdAt toInt32 (k.conversation s e.2.db id)
          (toInt32 limit).toNat := by
  refine ⟨fun h => ⟨Complete.readable ho h, Complete.boundaries ho h⟩, ?_⟩
  rintro ⟨hreadable, hends⟩
  unfold Complete
  rw [← hreadable] at hends ⊢
  exact (readable_iff ho e).2 hends

/-- Two messages from user 1 to user 2. -/
def twoMessages (t t' : Int) : Tables :=
  twoUsers ⟨⟨[⟨1, 1, 2, ⟨0⟩, "one", "", "", .sent, t⟩, ⟨2, 1, 2, ⟨0⟩, "two", "", "", .sent, t'⟩],
    by simp⟩, 3, by simp⟩ (by simp)

/-- Two messages sent in different seconds, one on a page. -/
theorem complete_iff_twoMessages :
    privateHistory.Complete quiet ⟨1, 1, true⟩ 4 2 1 ((), .idle (twoMessages 7 9)) := by
  refine (complete_iff Outside.healthy_quiet _).2 ⟨rfl, fun j hpos hj _ k hk => ?_⟩
  have hj' : j = 1 ∨ j = 2 := by
    have hlength : (privateHistory.conversation ⟨1, 1, true⟩ (twoMessages 7 9) 2).length = 2 := rfl
    have hle : j ≤ 2 := hlength ▸ hj
    omega
  rcases hj' with rfl | rfl
  · cases hk
    decide
  · cases hk
    decide

/-- Two messages sent in the same second, one on a page. -/
theorem not_complete_twoMessages :
    ¬ privateHistory.Complete quiet ⟨1, 1, true⟩ 4 2 1 ((), .idle (twoMessages 7 7)) := by
  intro h
  have hends := Complete.boundaries Outside.healthy_quiet h
  have hfirst := (hends 1 (by decide) (by decide) (.inl (by decide)) 7 rfl).2
  revert hfirst
  decide

end History

end ChatApp.Session
