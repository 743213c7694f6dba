/-
  Counting the frames that a request puts into the queue of its own session. The ledger of a
  request is a protocol over the calls of a handler: how many frames with the request's sequence
  the session got, whether an answer before the first of them made the handler stop (`halts`),
  and whether a push went to the session itself (`echo`).

  The rules follow the syntax of a handler. What runs before the response `Prepares` it: it sends
  nothing, and stops exactly after a halting answer. What runs after it is a `Tail`.
-/
import ChatApp.Database.Pairing
import ChatApp.Session.Handlers

namespace ChatApp.Session

open ChatApp.Lib ChatApp.Lib.Prog ChatApp.Database ChatApp.Protocol

variable {α β : Type}

/-- What the ledger of a request depends on. -/
structure Watch where
  session : Session
  sequence : UInt32
  /-- the type of the response to the request -/
  response : MessageType
  /-- the frames that the handler pushes to other sessions carry the sequence of the request -/
  echoes : Bool
  /-- the first row fetched makes the handler stop -/
  finds : Bool
  /-- an exception of `hash_password` makes the handler stop -/
  hashes : Bool

namespace Watch

variable (w : Watch)

/-- The answer makes the handler stop: a reconnect, after which `init_tables` locks `mutex_`
    again; a group message found by `recall_group_message`, which then calls methods that lock;
    an exception of `hash_password`. -/
def halts : (c : Call) → c.Answer → Bool
  | .db .realConnect, ok => ok
  | .db .storeResult, rows => w.finds && (rows.bind List.head?).isSome
  | .hashPassword _, hash => w.hashes && hash.isNone
  | _, _ => false

/-- A push under the sequence of the request is going to the session itself. -/
def echo : (c : Call) → c.Answer → Bool
  | .getSession _, x => w.echoes && decide (x = some w.session.id)
  | .authenticatedSessions, xs => w.echoes && decide (w.session.id ∈ xs)
  | _, _ => false

/-- A frame with the sequence of the request, to its session. -/
def replies : Call → Bool
  | .send x frame => decide (x = w.session.id ∧ frame.sequence = w.sequence)
  | _ => false

/-- A frame that is the response or an ERROR. -/
def answers : Call → Bool
  | .send _ frame => decide (frame.type = w.response ∨ frame.type = .error)
  | _ => true

end Watch

structure Ledger where
  own : Nat
  halted : Bool
  echoed : Bool
  strayed : Bool
  deriving DecidableEq

def Ledger.start : Ledger := ⟨0, false, false, false⟩

/-- After an answer that makes the handler stop. -/
def Ledger.stopped : Ledger := ⟨0, true, false, false⟩

def ledger (w : Watch) : Protocol interface Ledger where
  allows _ _ := True
  next l c a :=
    { own := l.own + (if w.replies c then 1 else 0)
      halted := l.halted || (decide (l.own = 0) && w.halts c a)
      echoed := l.echoed || w.echo c a
      strayed := l.strayed || (w.replies c && !w.answers c) }

variable {w : Watch} {R : Prop} {p : SessionM α} {f : α → SessionM β}

/-- Sends nothing, and stops exactly after a halting answer. -/
def Prepares (w : Watch) (p : SessionM α) : Prop :=
  Follows (ledger w) .start p.run fun r l =>
    match r with
    | .ok _ => l = .start
    | .error _ => l = .stopped

/-- The session gets one frame exactly if the body is readable, nothing halts and nothing is
    pushed to the session itself; and what is not pushed is the response or an ERROR. -/
def Replies (w : Watch) (R : Prop) (p : SessionM Unit) : Prop :=
  Follows (ledger w) .start p.run fun _ l =>
    (l.own = 1 ↔ R ∧ l.halted = false ∧ l.echoed = false) ∧
      (l.echoed = false → l.strayed = false)

/-- The response is queued. -/
def Ledger.Replied (l : Ledger) : Prop :=
  0 < l.own ∧ l.halted = false ∧ (l.own = 1 ↔ l.echoed = false) ∧
    (l.echoed = false → l.strayed = false)

def Tail (w : Watch) (p : SessionM α) : Prop :=
  ∀ l, l.Replied → Follows (ledger w) l p.run fun _ l' => l'.Replied

/-! ## The rules -/

theorem follows_requestL {l : Ledger} {c : Call} {Q : Except Stop c.Answer → Ledger → Prop} :
    Follows (ledger w) l (request c).run Q ↔ ∀ a, Q (.ok a) ((ledger w).next l c a) :=
  follows_requestM.trans (and_iff_right trivial)

theorem prepares_pure (a : α) : Prepares w (pure a : SessionM α) := rfl

theorem prepares_bind (hp : Prepares w p) (hf : ∀ a, Prepares w (f a)) : Prepares w (p >>= f) := by
  refine follows_bindM.2 (hp.mono fun r l hr => ?_)
  cases r with
  | ok a =>
    obtain rfl : l = .start := hr
    exact hf a
  | error e => exact hr

theorem prepares_ite {b : Prop} [Decidable b] {q : SessionM α} (hp : Prepares w p)
    (hq : Prepares w q) : Prepares w (if b then p else q) := by
  split
  · exact hp
  · exact hq

/-- A call that sends nothing and whose answer never halts. -/
theorem prepares_request {c : Call} (hr : w.replies c = false) (hh : ∀ a, w.halts c a = false)
    (he : ∀ a, w.echo c a = false) : Prepares w (request c) := by
  refine follows_requestL.2 fun a => ?_
  simp [ledger, Ledger.start, hr, hh, he]

theorem prepares_hashPassword (hw : w.hashes = true) (password : String) :
    Prepares w (UserManager.hashPassword password) := by
  refine follows_bindM.2 (follows_requestL.2 fun a => ?_)
  cases a with
  | none =>
    show _ = _
    simp [ledger, Ledger.start, Ledger.stopped, Watch.replies, Watch.halts, Watch.echo, hw]
  | some hash =>
    show _ = _
    simp [ledger, Ledger.start, Watch.replies, Watch.halts, Watch.echo]

theorem Replies.of_iff {R' : Prop} {p : SessionM Unit} (hR : R' ↔ R) (h : Replies w R' p) :
    Replies w R p :=
  h.mono fun _ _ hl => ⟨hl.1.trans (and_congr_left' hR), hl.2⟩

theorem replies_bind {f : α → SessionM Unit} (hp : Prepares w p)
    (hf : ∀ a, Replies w R (f a)) : Replies w R (p >>= f) := by
  refine follows_bindM.2 (hp.mono fun r l hr => ?_)
  cases r with
  | ok a =>
    obtain rfl : l = .start := hr
    exact hf a
  | error e =>
    obtain rfl : l = .stopped := hr
    simp [Ledger.stopped]

/-- An accessor of the body: if it throws, nothing is sent. -/
theorem replies_read {x : Except JsonError α} {f : α → SessionM Unit}
    (hf : ∀ a, x = .ok a → Replies w R (f a)) :
    Replies w (x.toBool = true ∧ R) (read x >>= f) := by
  cases x with
  | ok a => exact (hf a rfl).of_iff (by simp [Except.toBool])
  | error e =>
    show (0 = 1 ↔ _) ∧ _
    simp [Except.toBool, Ledger.start]

theorem replies_ite {b : Prop} [Decidable b] {p q : SessionM Unit} (hp : Replies w R p)
    (hq : Replies w R q) : Replies w R (if b then p else q) := by
  split
  · exact hp
  · exact hq

/-- The response, and what the handler does after it. -/
theorem replies_send {frame : Frame} {f : Unit → SessionM Unit}
    (hframe : frame.sequence = w.sequence) (htype : frame.type = w.response ∨ frame.type = .error)
    (hf : Tail w (f ())) : Replies w True (w.session.send frame >>= f) := by
  refine follows_bindM.2 (follows_requestL.2 fun a => ?_)
  have hanswer : w.answers (.send w.session.id frame) = true := decide_eq_true htype
  refine (hf _ ?_).mono fun r l hl => ?_
  · simp [ledger, Ledger.Replied, Ledger.start, Watch.replies, Watch.halts, Watch.echo, hframe,
      hanswer]
  · simpa [hl.2.1] using hl.2.2

/-- A handler that ends with the response. -/
theorem replies_last {frame : Frame} (hframe : frame.sequence = w.sequence)
    (htype : frame.type = w.response ∨ frame.type = .error) :
    Replies w True (w.session.send frame) := by
  refine follows_requestL.2 fun a => ?_
  have hanswer : w.answers (.send w.session.id frame) = true := decide_eq_true htype
  simp [ledger, Ledger.start, Watch.replies, Watch.halts, Watch.echo, hframe, hanswer]

/-! ## After the response -/

theorem tail_pure (a : α) : Tail w (pure a : SessionM α) := fun _ hl => hl

theorem tail_throw (e : Stop) : Tail w (throw e : SessionM α) := fun _ hl => hl

theorem tail_bind (hp : Tail w p) (hf : ∀ a, Tail w (f a)) : Tail w (p >>= f) := by
  refine fun l hl => follows_bindM.2 ((hp l hl).mono fun r l' hl' => ?_)
  cases r with
  | ok a => exact hf a l' hl'
  | error e => exact hl'

theorem tail_ite {b : Prop} [Decidable b] {q : SessionM α} (hp : Tail w p) (hq : Tail w q) :
    Tail w (if b then p else q) := by
  split
  · exact hp
  · exact hq

theorem tail_request {c : Call} (hr : w.replies c = false) (he : ∀ a, w.echo c a = false) :
    Tail w (request c) := by
  refine fun l hl => follows_requestL.2 fun a => ?_
  have hpos : l.own ≠ 0 := Nat.ne_of_gt hl.1
  simpa [ledger, hr, he, hpos] using hl

theorem tail_dbCall (held : Bool) (c : Database.Call) : Tail w (dbCall held c) := by
  have hreq : Tail w (request (.db c)) := tail_request rfl fun _ => rfl
  cases held with
  | false => cases c <;> exact hreq
  | true =>
    cases c with
    | lock => exact tail_throw _
    | _ => exact hreq

theorem tail_lift (held : Bool) (q : DbProg α) : Tail w (lift held q) := by
  induction q generalizing held with
  | ret a => exact tail_pure a
  | call c k ih => exact tail_bind (tail_dbCall held c) fun a => ih a _

theorem tail_db (q : DbProg α) : Tail w (db q) := tail_lift false q

theorem tail_forEach {g : α → SessionM Unit} (hg : ∀ a, Tail w (g a)) (xs : List α) :
    Tail w (forEach g xs) := by
  induction xs with
  | nil => exact tail_pure ()
  | cons x xs ih => exact tail_bind (hg x) fun _ => ih

/-- A push goes to the session itself exactly when the look-up finds it. -/
theorem tail_sendToUser {frame : Frame} (hframe : frame.sequence = w.sequence ↔ w.echoes = true)
    (userId : Nat) : Tail w (sendToUser userId frame) := by
  refine fun l hl => follows_bindM.2 (follows_requestL.2 fun a => ?_)
  have hpos : l.own ≠ 0 := Nat.ne_of_gt hl.1
  obtain ⟨h1, h2, h3⟩ := hl
  cases a with
  | none =>
    show Ledger.Replied _
    simpa [Ledger.Replied, ledger, Watch.replies, Watch.halts, Watch.echo, h2] using ⟨h1, h3⟩
  | some x =>
    refine follows_requestL.2 fun _ => ?_
    by_cases hx : x = w.session.id ∧ w.echoes = true
    · simp [Ledger.Replied, ledger, Watch.replies, Watch.halts, Watch.echo, h2, hx, hframe, hpos]
    · have hsend : ¬ (x = w.session.id ∧ frame.sequence = w.sequence) := by rwa [hframe]
      have hecho : (w.echoes && decide (x = w.session.id)) = false := by
        simpa [and_comm] using hx
      simpa [Ledger.Replied, ledger, Watch.replies, Watch.halts, Watch.echo, h2, hsend, hecho]
        using ⟨h1, h3⟩

/-! ## The database before the response -/

/-- What a database program does to `mutex_` and to the connection. -/
structure DbWatch where
  held : Bool
  /-- `mysql_real_connect` succeeded -/
  reconnected : Bool
  /-- the thread has locked `mutex_` twice -/
  dead : Bool

def DbWatch.free : DbWatch := ⟨false, false, false⟩

/-- `mutex_` is locked twice only after a reconnect. -/
def dbWatch : Protocol Database.interface DbWatch where
  allows d c := d.dead = false → c = .lock → d.held = true → d.reconnected = true
  next d c a := match c, a with
    | .lock, _ => ⟨true, d.reconnected, d.dead || d.held⟩
    | .unlock, _ => ⟨false, d.reconnected, d.dead⟩
    | .realConnect, ok => ⟨d.held, d.reconnected || ok, d.dead⟩
    | _, _ => d

/-- A database program that, called with `mutex_` free, locks it twice or does not reconnect and
    leaves it free. -/
def Steady (q : DbProg α) : Prop :=
  Follows dbWatch .free q fun _ d => d.dead = true ∨ d = .free

theorem follows_dead {d : DbWatch} (hd : d.dead = true) (q : DbProg α) :
    Follows dbWatch d q fun _ d' => d'.dead = true := by
  induction q generalizing d with
  | ret a => exact hd
  | call c k ih =>
    refine ⟨fun h => ?_, fun a => ih a ?_⟩
    · rw [hd] at h
      cases h
    · cases c <;> simp [dbWatch, hd]

theorem steady_pure (a : α) : Steady (pure a : DbProg α) := .inr rfl

theorem steady_bind {q : DbProg α} {k : α → DbProg β} (hq : Steady q) (hk : ∀ a, Steady (k a)) :
    Steady (q >>= k) := by
  refine follows_bind.2 (hq.mono fun a d hd => ?_)
  rcases hd with hd | rfl
  · exact (follows_dead hd _).mono fun _ _ h => .inl h
  · exact hk a

theorem steady_ite {b : Prop} [Decidable b] {q q' : DbProg α} (hq : Steady q) (hq' : Steady q') :
    Steady (if b then q else q') := by
  split
  · exact hq
  · exact hq'

/-- A paired program touches neither the lock nor the connection. -/
theorem follows_paired {q : DbProg α} (h : Paired q) (d : DbWatch) :
    Follows dbWatch d q fun _ d' => d' = d := by
  have hsim : ∀ (m : Mode) (d' : DbWatch) (c : Database.Call), d' = d → pairing.allows m c →
      dbWatch.allows d' c ∧ ∀ a, dbWatch.next d' c a = d := by
    intro m d' c hd hc
    cases c
    case query | storeResult | insertId | timestamp | fileSize =>
      exact ⟨fun _ hl => (by cases hl), fun _ => hd⟩
    all_goals exact hc.elim
  refine (Follows.simulate (R := fun _ d' => d' = d) hsim rfl
    (h .idle (by decide))).mono ?_
  rintro a d' ⟨m, hd, -⟩
  exact hd

theorem steady_paired {q : DbProg α} (h : Paired q) : Steady q :=
  (follows_paired h _).mono fun _ _ hd => .inr hd

theorem steady_locked {q : DbProg α} (h : Paired q) : Steady (locked q) := by
  refine follows_bind.2 ⟨fun _ _ hh => hh, fun _ => follows_bind.2 ?_⟩
  refine (follows_paired h _).mono fun a d hd => ?_
  subst hd
  exact ⟨fun _ hl => (by cases hl), fun _ => .inr rfl⟩

/-- `ensure_connection` under the lock: a reconnect ends in `init_tables`, which locks again. -/
theorem follows_ensureConnection :
    Follows dbWatch ⟨true, false, false⟩ ensureConnection fun _ d =>
      d.dead = true ∨ d = ⟨true, false, false⟩ := by
  refine ⟨fun _ hl => (by cases hl), fun connection => ?_⟩
  cases connection with
  | false => exact .inr rfl
  | true =>
  refine ⟨fun _ hl => (by cases hl), fun alive => ?_⟩
  cases alive with
  | true => exact .inr rfl
  | false =>
  refine ⟨fun _ hl => (by cases hl), fun _ => ⟨fun _ hl => (by cases hl), fun connection => ?_⟩⟩
  cases connection with
  | false => exact .inr rfl
  | true =>
  refine ⟨fun _ hl => (by cases hl), fun connected => ?_⟩
  cases connected with
  | false => exact .inr rfl
  | true => exact ⟨fun _ _ _ => rfl, fun _ => (follows_dead rfl _).mono fun _ _ h => .inl h⟩

theorem steady_ensured {q : DbProg α} {x : α} (h : Paired q) : Steady (locked (ensured x q)) := by
  refine follows_bind.2 ⟨fun _ _ hh => hh, fun _ => follows_bind.2 (follows_bind.2 ?_)⟩
  refine follows_ensureConnection.mono fun ok d hd => ?_
  rcases hd with hd | rfl
  · refine (follows_dead hd _).mono fun a d' hd' => ?_
    exact (follows_dead hd' _).mono fun _ _ h => .inl h
  · have hret : ∀ a : α, Follows dbWatch ⟨true, false, false⟩ (unlockMutex >>= fun _ => .ret a)
        fun _ d => d.dead = true ∨ d = .free :=
      fun a => ⟨fun _ hl => (by cases hl), fun _ => .inr rfl⟩
    cases ok with
    | false => exact hret x
    | true =>
      refine (follows_paired h _).mono fun a d hd => ?_
      subst hd
      exact hret a

/-- The lifted program does what the program does, up to the point where it locks twice. -/
theorem follows_lift {held halted : Bool} {q : DbProg α} {Q : α → DbWatch → Prop}
    (hw : w.finds = false) (h : Follows dbWatch ⟨held, halted, false⟩ q Q) :
    Follows (ledger w) ⟨0, halted, false, false⟩ (lift held q).run fun r l =>
      match r with
      | .ok a => ∃ held', Q a ⟨held', l.halted, false⟩ ∧ l.own = 0 ∧ l.echoed = false ∧
          l.strayed = false
      | .error _ => l = .stopped := by
  induction q generalizing held halted with
  | ret a => exact ⟨held, h, rfl, rfl, rfl⟩
  | call c k ih =>
    obtain ⟨hallow, hk⟩ := h
    -- a call that goes through
    have hcall (hc : dbCall held c = request (.db c)) (hnext : ∀ a, ∃ halted',
        dbWatch.next ⟨held, halted, false⟩ c a = ⟨holds held c, halted', false⟩ ∧
        (ledger w).next ⟨0, halted, false, false⟩ (.db c) a = ⟨0, halted', false, false⟩) :
        Follows (ledger w) ⟨0, halted, false, false⟩ (lift held (.call c k)).run fun r l =>
          match r with
          | .ok a => ∃ held', Q a ⟨held', l.halted, false⟩ ∧ l.own = 0 ∧ l.echoed = false ∧
              l.strayed = false
          | .error _ => l = .stopped := by
      rw [lift, hc]
      refine follows_bindM.2 (follows_requestL.2 fun a => ?_)
      obtain ⟨halted', hd, hl⟩ := hnext a
      rw [hl]
      exact ih a (hd ▸ hk a)
    cases c with
    | lock =>
      cases held with
      | false =>
        exact hcall rfl fun _ => ⟨halted, rfl,
          by simp [ledger, Watch.replies, Watch.halts, Watch.echo]⟩
      | true =>
        obtain rfl : halted = true := hallow rfl rfl rfl
        exact (rfl : _ = Ledger.stopped)
    | realConnect =>
      refine hcall (by cases held <;> rfl) fun ok => ⟨halted || ok, rfl, ?_⟩
      simp [ledger, Watch.replies, Watch.halts, Watch.echo]
    | _ =>
      refine hcall (by cases held <;> rfl) fun _ => ⟨halted, rfl, ?_⟩
      simp [ledger, Watch.replies, Watch.halts, Watch.echo, hw]

theorem prepares_db {q : DbProg α} (hw : w.finds = false) (h : Steady q) : Prepares w (db q) := by
  refine (follows_lift hw h).mono fun r l hr => ?_
  cases r with
  | error e => exact hr
  | ok a =>
    obtain ⟨held, hd, hown, hecho, hstray⟩ := hr
    rcases hd with hd | hd
    · cases hd
    · obtain ⟨own, halted, echoed, strayed⟩ := l
      cases hd
      cases hown
      cases hecho
      cases hstray
      rfl

/-! ## The ledger of a log -/

/-- No answer before the response makes the handler stop. -/
def Watch.Undisturbed (w : Watch) (log : List ((c : Call) × c.Answer)) : Prop :=
  ∀ x ∈ log.takeWhile fun x => !w.replies x.1, w.halts x.1 x.2 = false

/-- Nothing is pushed to the session itself under the sequence of the request. -/
def Watch.Unechoed (w : Watch) (log : List ((c : Call) × c.Answer)) : Prop :=
  ∀ x ∈ log, w.echo x.1 x.2 = false

/-- The frames with the sequence of the request that its session gets. -/
def Watch.ownFrames (w : Watch) (log : List ((c : Call) × c.Answer)) : Nat :=
  log.countP fun x => w.replies x.1

theorem ledger_own (l : Ledger) (log : List ((c : Call) × c.Answer)) :
    (Protocol.after (ledger w) l log).own = l.own + w.ownFrames log := by
  induction log generalizing l with
  | nil => rfl
  | cons x log ih =>
    refine (ih _).trans ?_
    rw [Watch.ownFrames, Watch.ownFrames, List.countP_cons]
    simp only [ledger]
    omega

theorem ledger_echoed (l : Ledger) (log : List ((c : Call) × c.Answer)) :
    (Protocol.after (ledger w) l log).echoed = false ↔ l.echoed = false ∧ w.Unechoed log := by
  induction log generalizing l with
  | nil => simp [Protocol.after, Watch.Unechoed]
  | cons x log ih =>
    refine (ih _).trans ?_
    simp only [ledger, Watch.Unechoed, List.forall_mem_cons, Bool.or_eq_false_iff, and_assoc]

theorem ledger_halted (l : Ledger) (log : List ((c : Call) × c.Answer)) :
    (Protocol.after (ledger w) l log).halted = false ↔
      l.halted = false ∧ (l.own = 0 → w.Undisturbed log) := by
  induction log generalizing l with
  | nil => simp [Protocol.after, Watch.Undisturbed]
  | cons x log ih =>
    refine (ih _).trans ?_
    simp only [ledger, Watch.Undisturbed, List.takeWhile_cons]
    by_cases hown : l.own = 0
    · cases hr : w.replies x.1 with
      | true =>
        -- a reply does not halt, and nothing after it counts
        have hh : w.halts x.1 x.2 = false := by
          obtain ⟨c, a⟩ := x
          cases c <;> first | rfl | cases hr
        simp [hown, hh]
      | false => simp [hown, and_assoc]
    · simp [hown]

theorem ledger_strayed (l : Ledger) (log : List ((c : Call) × c.Answer)) :
    (Protocol.after (ledger w) l log).strayed = false ↔
      l.strayed = false ∧ ∀ x ∈ log, w.replies x.1 = true → w.answers x.1 = true := by
  induction log generalizing l with
  | nil => simp [Protocol.after]
  | cons x log ih =>
    refine (ih _).trans ?_
    simp only [ledger, List.forall_mem_cons, Bool.or_eq_false_iff, and_assoc]
    cases w.replies x.1 <;> simp

/-- The session gets exactly one frame with the sequence of the request, and it is the response
    or an ERROR. -/
def Watch.OneReply (w : Watch) (log : List ((c : Call) × c.Answer)) : Prop :=
  w.ownFrames log = 1 ∧ ∀ x ∈ log, w.replies x.1 = true → w.answers x.1 = true

/-- What `Replies` says of a run in any environment. -/
theorem Replies.run {p : SessionM Unit} (h : Replies w R p) {ε : Type}
    (env : ε → (c : Call) → c.Answer × ε) (e : ε) :
    w.OneReply (Prog.log env p.run e) ↔
      R ∧ w.Undisturbed (Prog.log env p.run e) ∧ w.Unechoed (Prog.log env p.run e) := by
  obtain ⟨hown, hstrayed⟩ := Follows.log h env e
  rw [ledger_own, ledger_halted, ledger_echoed] at hown
  rw [ledger_strayed, ledger_echoed] at hstrayed
  have hone : w.ownFrames (Prog.log env p.run e) = 1 ↔
      R ∧ w.Undisturbed (Prog.log env p.run e) ∧ w.Unechoed (Prog.log env p.run e) := by
    simpa [Ledger.start] using hown
  constructor
  · exact fun hreply => hone.1 hreply.1
  · exact fun hcond => ⟨hone.2 hcond, (hstrayed ⟨rfl, hcond.2.2⟩).2⟩

end ChatApp.Session
