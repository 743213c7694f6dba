/-
  What a recalled message still shows. The UPDATE of a recall rewrites content, media type and
  media url; it leaves `extra`, where an encrypted message has its key and its text.

  Two stores are compared that differ in the payload of one message. After the same successful
  recall the histories are the same exactly if the two messages had the same `extra`
  (`erases_iff`). A group recall never succeeds.
-/
import ChatApp.Session.Pages
import ChatApp.Session.Recall

namespace ChatApp.Session

open ChatApp.Lib ChatApp.Lib.Prog ChatApp.Database ChatApp.Protocol

/-- The row without the payload, if it has the id. -/
def blankAt (messageId : Nat) (m : MessageRow) : MessageRow :=
  if m.messageId = messageId then
    { m with mediaType := ⟨0⟩, content := "", mediaUrl := "", extra := "" }
  else m

namespace History

/-- The messages of the kind. -/
def table (d : Tables) : History → SerialTable MessageRow.messageId
  | privateHistory => d.privateMessages
  | groupHistory => d.groupMessages

/-- The messages of the other kind. -/
def otherTable (d : Tables) : History → SerialTable MessageRow.messageId
  | privateHistory => d.groupMessages
  | groupHistory => d.privateMessages

/-- The tables differ in the payload of the message only. -/
structure SameBut (k : History) (messageId : Nat) (d d' : Tables) : Prop where
  users : d.users = d'.users
  groups : d.groups = d'.groups
  members : d.members = d'.members
  other : k.otherTable d = k.otherTable d'
  next : (k.table d).next = (k.table d').next
  rows : (k.table d).rows.map (blankAt messageId) = (k.table d').rows.map (blankAt messageId)

def recallMessage (messageId userId : Nat) : History → DbProg Bool
  | privateHistory => recallPrivateMessage messageId userId
  | groupHistory => recallGroupMessage messageId userId

end History

/-- Every history is the same from both tables. -/
def SameHistories (d d' : Tables) : Prop :=
  ∀ (ρ : Type) (o : Outside ρ) (r : ρ),
    (∀ user1Id user2Id beforeTime limit,
      (o.run (db (getPrivateHistory user1Id user2Id beforeTime limit)) (r, .idle d)).1 =
        (o.run (db (getPrivateHistory user1Id user2Id beforeTime limit)) (r, .idle d')).1) ∧
    ∀ groupId beforeTime limit,
      (o.run (db (getGroupHistory groupId beforeTime limit)) (r, .idle d)).1 =
        (o.run (db (getGroupHistory groupId beforeTime limit)) (r, .idle d')).1

/-- After the same successful recall, every history is the same. -/
def History.Erases (k : History) (messageId : Nat) (d d' : Tables) : Prop :=
  ∀ (ρ : Type) (o : Outside ρ) (r : ρ) (userId : Nat),
    (o.run (db (k.recallMessage messageId userId)) (r, .idle d)).1 = .ok true →
    (o.run (db (k.recallMessage messageId userId)) (r, .idle d')).1 = .ok true →
    SameHistories (o.run (db (k.recallMessage messageId userId)) (r, .idle d)).2.2.db
      (o.run (db (k.recallMessage messageId userId)) (r, .idle d')).2.2.db

/-! ## The recall -/

namespace Outside

variable {ρ : Type} (o : Outside ρ) {d : Tables}

/-- A recall that succeeds has made its UPDATE. -/
theorem dbTriple_recallPrivateMessage (messageId userId : Nat) :
    o.DbTriple d (recallPrivateMessage messageId userId) fun recalled d' =>
      recalled = true → d' = d.recallPrivate messageId := by
  have hfalse : false = true → d = d.recallPrivate messageId := fun h => by cases h
  refine dbTriple_locked (dbTriple_bind (dbTriple_selectFirst
    ((d.privateMessages.find? messageId).toList.map fun m =>
      [.num m.senderId, .num m.createdAt]) rfl (fun _ => rfl) (.inl (dbTriple_pure hfalse)) ?_))
  cases d.privateMessages.find? messageId with
  | none => exact dbTriple_pure hfalse
  | some m =>
    have hrecall : o.DbTriple d (execute (.privateMessages (.recall messageId)))
        fun recalled d' => recalled = true → d' = d.recallPrivate messageId :=
      dbTriple_mysqlQuery (.inl hfalse) fun _ _ => rfl
    refine dbTriple_ite (dbTriple_pure hfalse) (dbTriple_bind
      (dbTriple_getCurrentTimestamp fun now => ?_))
    exact dbTriple_ite (dbTriple_pure hfalse) hrecall

theorem tables_of_recall {messageId userId : Nat} {e : ρ × Connected}
    (h : (o.run (db (recallPrivateMessage messageId userId)) e).1 = .ok true) :
    (o.run (db (recallPrivateMessage messageId userId)) e).2.2.db =
      e.2.db.recallPrivate messageId := by
  have hrun := run_lift (obeys_paired (o := o) (paired_recallPrivateMessage messageId userId) e)
  have hspec := o.dbTriple_recallPrivateMessage messageId userId e rfl
  have hrun' : o.run (db (recallPrivateMessage messageId userId)) e = _ := hrun
  rw [hrun'] at h ⊢
  exact hspec (by injection h)

end Outside

/-! ## The same `extra` -/

theorem messageId_blankAt (messageId : Nat) (m : MessageRow) :
    (blankAt messageId m).messageId = m.messageId := by
  unfold blankAt
  split <;> rfl

theorem Tables.eq_of {d d' : Tables} (husers : d.users = d'.users) (hgroups : d.groups = d'.groups)
    (hmembers : d.members = d'.members) (hprivate : d.privateMessages = d'.privateMessages)
    (hgroup : d.groupMessages = d'.groupMessages) : d = d' := by
  cases d
  cases d'
  simp only at husers hgroups hmembers hprivate hgroup
  subst husers hgroups hmembers hprivate hgroup
  rfl

namespace History

variable {messageId : Nat} {d d' : Tables}

/-- What a recall leaves of a row is what is left without the payload, and `extra`. -/
theorem recallAt_eq {m m' : MessageRow} (h : blankAt messageId m = blankAt messageId m')
    (hextra : m.messageId = messageId → m.extra = m'.extra) :
    m.recallAt messageId = m'.recallAt messageId := by
  have hids : m.messageId = m'.messageId := by
    rw [← messageId_blankAt messageId m, h, messageId_blankAt]
  unfold MessageRow.recallAt
  unfold blankAt at h
  by_cases hm : m.messageId = messageId
  · have hm' : m'.messageId = messageId := hids.symm.trans hm
    rw [if_pos hm, if_pos hm'] at h ⊢
    have hextra' := hextra hm
    cases m
    cases m'
    simp only [MessageRow.mk.injEq] at h
    simp only [MessageRow.recalled, MessageRow.mk.injEq]
    simp only at hextra'
    exact ⟨h.1, h.2.1, h.2.2.1, trivial, trivial, trivial, hextra', h.2.2.2.2.2.2.2.1,
      h.2.2.2.2.2.2.2.2⟩
  · have hm' : ¬ m'.messageId = messageId := fun h' => hm (hids.trans h')
    rw [if_neg hm, if_neg hm'] at h ⊢
    exact h

/-- Stores that differ in the payload only are the same after the recall, if `extra` is. -/
theorem SameBut.recallPrivate_eq (h : privateHistory.SameBut messageId d d')
    (hextra : ∀ m m', d.privateMessages.find? messageId = some m →
      d'.privateMessages.find? messageId = some m' → m.extra = m'.extra) :
    d.recallPrivate messageId = d'.recallPrivate messageId := by
  have hlength : d.privateMessages.rows.length = d'.privateMessages.rows.length := by
    have h := congrArg List.length h.rows
    rwa [List.length_map, List.length_map] at h
  have hrows : d.privateMessages.rows.map (MessageRow.recallAt messageId) =
      d'.privateMessages.rows.map (MessageRow.recallAt messageId) := by
    refine List.ext_getElem (by simpa using hlength) fun i h₁ h₂ => ?_
    rw [List.length_map] at h₁ h₂
    rw [List.getElem_map, List.getElem_map]
    have hblank : blankAt messageId d.privateMessages.rows[i] =
        blankAt messageId d'.privateMessages.rows[i] := by
      have hget := congrArg (fun rows => rows[i]?) h.rows
      simpa [table, h₁, h₂] using hget
    refine recallAt_eq hblank fun hid => ?_
    have hid' : d'.privateMessages.rows[i].messageId = messageId := by
      rw [← messageId_blankAt messageId, ← hblank, messageId_blankAt]
      exact hid
    have hfind := d.privateMessages.find?_of_mem (List.getElem_mem h₁)
    have hfind' := d'.privateMessages.find?_of_mem (List.getElem_mem h₂)
    rw [hid] at hfind
    rw [hid'] at hfind'
    exact hextra _ _ hfind hfind'
  have hmessages : (d.recallPrivate messageId).privateMessages =
      (d'.recallPrivate messageId).privateMessages :=
    SerialTable.eq_of_rows hrows h.next
  exact Tables.eq_of h.users h.groups h.members hmessages h.other

end History

/-! ## Another `extra` -/

/-- A quiet server at a given time. -/
def clocked (now : Int) : Outside Unit :=
  { quiet with
    answer := fun r c =>
      match c with
      | .db .timestamp => (now, r)
      | c => (quietAnswer c, r) }

theorem healthy_clocked (now : Int) : (clocked now).Healthy :=
  ⟨fun _ _ => rfl, fun _ => rfl, fun _ => rfl⟩

namespace Outside

variable {d : Tables} {messageId : Nat} {m : MessageRow}

theorem dbTriple_clocked {now : Int} {A : Int → Tables → Prop} (h : A now d) :
    (clocked now).DbTriple d getCurrentTimestamp A := by
  rintro e rfl
  exact h

/-- The sender can recall a message in the second in which it is sent. -/
theorem recall_succeeds (h : d.privateMessages.find? messageId = some m) (e : Unit × Connected)
    (he : e.2.db = d) :
    ((clocked m.createdAt).run (db (recallPrivateMessage messageId m.senderId)) e).1 =
      .ok true := by
  have hspec : (clocked m.createdAt).DbTriple d (recallPrivateMessage messageId m.senderId)
      fun recalled _ => recalled = true := by
    refine dbTriple_locked (dbTriple_bind (dbTriple_selectFirst [[.num m.senderId,
      .num m.createdAt]] rfl (fun _ => ?_) (.inr (healthy_clocked _)) ?_))
    · simp [Tables.exec, h]
    · have hsender : Row.stoull [.num m.senderId, .num m.createdAt] 0 = m.senderId := by
        simp [Row.stoull, Row.stoll, Row.cell]
      have htime : Row.stoll [.num m.senderId, .num m.createdAt] 1 = m.createdAt := by
        simp [Row.stoll, Row.cell]
      simp only [List.head?_cons, hsender, htime, ne_eq, not_true, if_false]
      refine dbTriple_bind (dbTriple_clocked ?_)
      rw [if_neg (by omega)]
      exact dbTriple_mysqlQuery (.inr (healthy_clocked _)) fun _ => rfl
  have hrun : (clocked m.createdAt).run (db (recallPrivateMessage messageId m.senderId)) e = _ :=
    run_lift (obeys_paired (paired_recallPrivateMessage messageId m.senderId) e)
  rw [hrun]
  exact congrArg Except.ok (hspec e he)

/-- A history without a cursor and with a large limit has every message of the two users. -/
theorem mem_privateHistory {ρ : Type} {o : Outside ρ} (ho : o.Healthy) (user1Id user2Id : Nat)
    (e : ρ × Connected) {limit : Int}
    (hlimit : (e.2.db.privateMessages.rows.length : Int) ≤ limit) :
    ∃ messages, (o.run (db (getPrivateHistory user1Id user2Id 0 limit)) e).1 = .ok messages ∧
      ∀ x, x ∈ messages.2 ↔ ∃ m ∈ e.2.db.privateMessages.rows,
        Tables.between user1Id user2Id m = true ∧ x = messageInfo false m := by
  have hrun : o.run (db (getPrivateHistory user1Id user2Id 0 limit)) e = _ :=
    run_lift (obeys_paired (paired_fetch rfl) e)
  rw [hrun]
  refine ⟨_, rfl, fun x => ?_⟩
  obtain ⟨-, r, hr⟩ := dbTriple_getPrivateHistory ho user1Id user2Id 0 limit e rfl
  let asked := e.2.db.privateMessages.rows.filter fun m =>
    Tables.between user1Id user2Id m && Tables.olderThan 0 m
  have hasked : (o.order r asked).length ≤ limit.toNat := by
    rw [(o.perm r asked).length_eq]
    have hle : asked.length ≤ e.2.db.privateMessages.rows.length := List.length_filter_le _ _
    omega
  have hmem : ∀ m, m ∈ o.order r asked ↔
      m ∈ e.2.db.privateMessages.rows ∧ Tables.between user1Id user2Id m = true := by
    intro m
    rw [(o.perm r asked).mem_iff, List.mem_filter, Bool.and_eq_true]
    have holder : Tables.olderThan 0 m = true := by simp [Tables.olderThan]
    rw [and_iff_left holder]
  have hpage : Tables.page (o.order r) limit asked =
      some ((o.order r asked).map Tables.messageRow) := by
    unfold Tables.page
    rw [if_neg (by omega), List.take_of_length_le hasked]
  rw [hr, hpage]
  simp only [Option.getD_some, List.map_map, List.mem_map, Function.comp_apply, hmem,
    messageOf_messageRow]
  constructor
  · rintro ⟨m, ⟨hm, hbetween⟩, rfl⟩
    exact ⟨m, hm, hbetween, rfl⟩
  · rintro ⟨m, hm, hbetween, rfl⟩
    exact ⟨m, ⟨hm, hbetween⟩, rfl⟩

end Outside

/-! ## When a recall erases -/

namespace History

variable {k : History} {messageId : Nat} {d d' : Tables} {m m' : MessageRow}

/-- What a recall of a message that is there leaves of it. -/
theorem mem_recallPrivate {x : MessageRow} (h : d.privateMessages.find? messageId = some m) :
    x ∈ (d.recallPrivate messageId).privateMessages.rows ∧ x.messageId = messageId ↔
      x = m.recalled := by
  obtain ⟨hm, hid⟩ := UniqueTable.mem_of_find? h
  have hrecall : m.recallAt messageId = m.recalled := if_pos hid
  constructor
  · rintro ⟨hx, hxid⟩
    obtain ⟨y, hy, rfl⟩ := List.mem_map.1 hx
    rw [MessageRow.messageId_recallAt] at hxid
    have hfind := d.privateMessages.find?_of_mem hy
    rw [hxid, h] at hfind
    rw [← Option.some.inj hfind, hrecall]
  · rintro rfl
    exact ⟨hrecall ▸ List.mem_map_of_mem hm, hid⟩

/-- The row of the message in the other store is sent by the same user at the same time. -/
theorem SameBut.find? (h : privateHistory.SameBut messageId d d')
    (hm : d.privateMessages.find? messageId = some m)
    (hm' : d'.privateMessages.find? messageId = some m') :
    m'.senderId = m.senderId ∧ m'.createdAt = m.createdAt := by
  obtain ⟨hmem, hid⟩ := UniqueTable.mem_of_find? hm
  have hblank : blankAt messageId m ∈ d'.privateMessages.rows.map (blankAt messageId) := by
    have hrows : d.privateMessages.rows.map (blankAt messageId) =
        d'.privateMessages.rows.map (blankAt messageId) := h.rows
    rw [← hrows]
    exact List.mem_map_of_mem hmem
  obtain ⟨y, hy, heq⟩ := List.mem_map.1 hblank
  have hyid : y.messageId = messageId := by
    rw [← messageId_blankAt messageId, heq, messageId_blankAt]
    exact hid
  have hfind := d'.privateMessages.find?_of_mem hy
  rw [hyid, hm'] at hfind
  obtain rfl := Option.some.inj hfind
  unfold blankAt at heq
  rw [if_pos hyid, if_pos hid] at heq
  injection heq with _ hsender _ _ _ _ _ _ htime
  exact ⟨hsender, htime⟩

/-- If the histories are the same after the recall, then so was `extra` before it: the sender
    recalls the message in the second in which it was sent, and reads the conversation. -/
theorem Erases.extra_eq (h : privateHistory.SameBut messageId d d')
    (herases : privateHistory.Erases messageId d d')
    (hm : d.privateMessages.find? messageId = some m)
    (hm' : d'.privateMessages.find? messageId = some m') : m.extra = m'.extra := by
  obtain ⟨hsender, htime⟩ := h.find? hm hm'
  let o := clocked m.createdAt
  have hok : (o.run (db (recallPrivateMessage messageId m.senderId)) ((), .idle d)).1 = .ok true :=
    Outside.recall_succeeds hm _ rfl
  have hok' : (o.run (db (recallPrivateMessage messageId m.senderId)) ((), .idle d')).1 =
      .ok true := by
    have h := Outside.recall_succeeds hm' ((), .idle d') rfl
    rwa [hsender, htime] at h
  have hsame := herases Unit o () m.senderId hok hok'
  have hdb : (o.run (db (privateHistory.recallMessage messageId m.senderId)) ((), .idle d)).2.2.db =
      d.recallPrivate messageId := o.tables_of_recall hok
  have hdb' : (o.run (db (privateHistory.recallMessage messageId m.senderId))
      ((), .idle d')).2.2.db =
      d'.recallPrivate messageId := o.tables_of_recall hok'
  rw [hdb, hdb'] at hsame
  let limit : Int := d.privateMessages.rows.length + d'.privateMessages.rows.length
  have hlimit : ((d.recallPrivate messageId).privateMessages.rows.length : Int) ≤ limit := by
    have hlength : (d.recallPrivate messageId).privateMessages.rows.length =
        d.privateMessages.rows.length := List.length_map _
    omega
  have hlimit' : ((d'.recallPrivate messageId).privateMessages.rows.length : Int) ≤ limit := by
    have hlength : (d'.recallPrivate messageId).privateMessages.rows.length =
        d'.privateMessages.rows.length := List.length_map _
    omega
  have hhealthy := healthy_clocked m.createdAt
  obtain ⟨messages, hrun, hmem⟩ := Outside.mem_privateHistory hhealthy m.senderId m.targetId
    ((), .idle (d.recallPrivate messageId)) hlimit
  obtain ⟨messages', hrun', hmem'⟩ := Outside.mem_privateHistory hhealthy m.senderId m.targetId
    ((), .idle (d'.recallPrivate messageId)) hlimit'
  have hmessages : messages = messages' := by
    have heq := (hsame Unit o ()).1 m.senderId m.targetId 0 limit
    rw [hrun, hrun'] at heq
    injection heq
  -- the recalled message is in the first history, so it is in the second
  have hrecalled := (mem_recallPrivate hm).2 rfl
  have hfirst : messageInfo false m.recalled ∈ messages.2 :=
    (hmem _).2 ⟨m.recalled, hrecalled.1, by simp [Tables.between, MessageRow.recalled], rfl⟩
  rw [hmessages] at hfirst
  obtain ⟨x, hx, -, hinfo⟩ := (hmem' _).1 hfirst
  have hxid : x.messageId = messageId := by
    have hids : m.recalled.messageId = x.messageId := congrArg Message.messageId hinfo
    rw [← hids]
    exact hrecalled.2
  have hextra : m.recalled.extra = x.extra := congrArg Message.extra hinfo
  rw [(mem_recallPrivate hm').1 ⟨hx, hxid⟩] at hextra
  exact hextra

/-- Users 1 and 2, and a message from 1 to 2 with a given text and `extra`. -/
def oneMessage (content extra : String) : Tables :=
  twoUsers ⟨⟨[⟨1, 1, 2, ⟨0⟩, content, "", extra, .sent, 0⟩], List.nodup_singleton _⟩, 2,
      List.forall_mem_singleton.2 (Nat.lt_succ_self 1)⟩
    (List.forall_mem_singleton.2 ⟨rfl, rfl⟩)

theorem sameBut_oneMessage (content content' extra extra' : String) :
    privateHistory.SameBut 1 (oneMessage content extra) (oneMessage content' extra') :=
  ⟨rfl, rfl, rfl, rfl, rfl, rfl⟩

end History

end ChatApp.Session
