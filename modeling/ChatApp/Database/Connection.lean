/-
  Worker threads over the one MySQL connection of `Database`. Each MySQL call is one step;
  `mutex_` excludes only threads that lock it, and `get_group_members` does not.

  The client library keeps one result set per connection: between a SELECT and its
  `mysql_store_result` every further statement fails ("commands out of sync"), and so does
  `mysql_ping`. The insert id is that of the last statement, 0 after a SELECT and undefined
  after a statement the server refused. `mysql_close` drops both; a call on a closed handle
  fails. What the server answers (`Choice`) is left open.

  Each statement is named by its thread and a number (`Source`), and `fetched` records for every
  `mysql_store_result` and `mysql_insert_id` the last statement of the caller and the statement
  the answer belongs to. `Method.hasShape` says that this last statement is one of the same call.
-/
import ChatApp.Lib.Run
import ChatApp.Lib.Threads
import ChatApp.Database.Pairing

namespace ChatApp.Database

open ChatApp.Lib ChatApp.Lib.Prog

/-- A statement: the thread that issued it, and how many that thread had issued then. -/
abbrev Source (θ : Type) := θ × Nat

structure Fetch (θ : Type) where
  /-- the last statement of the thread that fetches -/
  own : Source θ
  /-- the statement whose result or insert id it gets -/
  source : Option (Source θ)
  deriving DecidableEq

structure Shared (θ : Type) where
  /-- the holder of `mutex_` -/
  mutex : Option θ
  /-- `connection_` is not null -/
  present : Bool
  /-- it is connected to the server -/
  connected : Bool
  /-- the result set to be stored -/
  pending : Option (Source θ)
  /-- the statement `mysql_insert_id` is about -/
  inserted : Option (Source θ)
  /-- statements issued by each thread (ghost) -/
  issued : θ → Nat
  fetched : List (Fetch θ)

/-- What the server, the clock and the file system answer. -/
structure Choice where
  ok : Bool
  rows : List Row
  id : Nat
  now : Int

namespace Shared

variable {θ : Type}

/-- The last statement of a thread. -/
def own (s : Shared θ) (t : θ) : Source θ := (t, s.issued t)

def fetch (s : Shared θ) (t : θ) (source : Option (Source θ)) : Shared θ :=
  { s with fetched := s.fetched ++ [⟨s.own t, source⟩] }

/-- Every fetch got what the fetching operation asked for. -/
def OwnFetches (s : Shared θ) : Prop := ∀ f ∈ s.fetched, f.source = some f.own

variable [DecidableEq θ]

instance : DecidablePred (@OwnFetches θ) := fun s =>
  inferInstanceAs (Decidable (∀ f ∈ s.fetched, f.source = some f.own))

def issue (s : Shared θ) (t : θ) : Shared θ :=
  { s with issued := Function.update s.issued t (s.issued t + 1) }

/-- `mysql_query`: a statement reaches the server if no result set is waiting. -/
def query (s : Shared θ) (t : θ) (stmt : Stmt) (ok : Bool) : Bool × Shared θ :=
  if s.connected = true ∧ s.pending = none then
    if ok then
      (true, { s.issue t with
        inserted := some ((s.issue t).own t)
        pending := if stmt.isSelect then some ((s.issue t).own t) else none })
    else (false, { s.issue t with inserted := none })
  else (false, s.issue t)

/-- What a call does; `lock` blocks while the mutex is taken. -/
def reply (t : θ) (s : Shared θ) : (c : Call) → Choice → Option (c.Answer × Shared θ)
  | .lock, _ => if s.mutex = none then some ((), { s with mutex := some t }) else none
  | .unlock, _ => some ((), { s with mutex := none })
  | .hasConnection, _ => some (s.present, s)
  | .ping, x => some (s.connected && s.pending.isNone && x.ok, s)
  | .close, _ => some ((), { s with connected := false, pending := none, inserted := none })
  | .init, x => some (x.ok, { s with
      present := x.ok, connected := false, pending := none, inserted := none })
  | .realConnect, x => some (x.ok, { s with connected := x.ok })
  | .query stmt, x => some (s.query t stmt x.ok)
  | .storeResult, x =>
    some (if s.pending.isSome && x.ok then some x.rows else none,
      { s.fetch t s.pending with pending := none })
  | .insertId, x => some (x.id, s.fetch t s.inserted)
  | .timestamp, x => some (x.now, s)
  | .fileSize _, x => some (x.id, s)

end Shared

abbrev World (θ : Type) := Pool interface (Shared θ) θ

abbrev ConnStep (θ : Type) := PoolStep θ Method Choice

variable {θ : Type}

/-- All threads idle on a connection without a result. -/
def World.init (present connected : Bool) : World θ where
  shared := ⟨none, present, connected, none, none, fun _ => 0, []⟩
  rest _ := .ret ()

def World.step [DecidableEq θ] : World θ → ConnStep θ → Option (World θ) :=
  Pool.step Method.prog Shared.reply

/-- No statement is issued while another thread's next call is `mysql_insert_id`, and the
    connection is not closed or replaced while another thread's next call is
    `mysql_store_result`. -/
def ConnOk (w : World θ) : ConnStep θ → Prop
  | .start _ _ => True
  | .call t _ =>
    match w.next t with
    | some (.query _) => ∀ u, u ≠ t → w.next u ≠ some .insertId
    | some .close | some .init => ∀ u, u ≠ t → w.next u ≠ some .storeResult
    | _ => True

/-! ## The protocol of one thread -/

/-- Whether a thread holds `mutex_`, and its last statement. `stuck` is beyond a second lock of
    `mutex_`, which never returns. -/
inductive Phase
  | live (held : Bool) (mode : Mode)
  | stuck
  deriving DecidableEq

def Phase.Idle : Phase → Prop
  | .live held mode => held = false ∧ mode ≠ .selected
  | .stuck => True

/-- The connection is touched only under the lock, except for a SELECT and its fetch. -/
def connProtocol : Protocol interface Phase where
  allows
    | .stuck, _ => True
    | .live held m, c => match c with
      | .lock | .timestamp | .fileSize _ => m ≠ .selected
      | .query s => m ≠ .selected ∧ (held = false → s.isSelect = true)
      | .storeResult => m = .selected
      | .insertId => held = true ∧ m = .executed
      | _ => held = true ∧ m ≠ .selected
  next
    | .stuck, _, _ => .stuck
    | .live held _, c, a => match c, a with
      | .lock, _ => if held then .stuck else .live true .idle
      | .unlock, _ => .live false .idle
      | .query s, ok => .live held (.query s ok)
      | _, _ => .live held .idle

theorem idle_ne_selected : Mode.idle ≠ .selected := nofun

theorem selected_ne_executed : Mode.selected ≠ .executed := nofun

theorem Paired.held {α : Type} {p : DbProg α} (h : Paired p) {m : Mode} (hm : m ≠ .selected) :
    Follows connProtocol (.live true m) p fun _ φ => ∃ m', m' ≠ .selected ∧ φ = .live true m' := by
  have hsim : ∀ (m : Mode) (φ : Phase) (c : Call), φ = .live true m → pairing.allows m c →
      connProtocol.allows φ c ∧
        ∀ a, connProtocol.next φ c a = .live true (pairing.next m c a) := by
    rintro m _ c rfl hc
    cases c
    case query => exact ⟨⟨hc, nofun⟩, fun _ => rfl⟩
    case storeResult | timestamp | fileSize => exact ⟨hc, fun _ => rfl⟩
    case insertId => exact ⟨⟨rfl, hc⟩, fun _ => rfl⟩
    all_goals exact hc.elim
  refine (Follows.simulate (R := fun m φ => φ = .live true m) hsim rfl (h m hm)).mono ?_
  rintro _ φ ⟨m', hφ, hm'⟩
  exact ⟨m', hm', hφ⟩

/-- Nothing is asked of a thread that has locked `mutex_` twice. -/
theorem follows_stuck {α : Type} (p : DbProg α) :
    Follows connProtocol .stuck p fun _ φ => φ = .stuck := by
  induction p with
  | ret a => rfl
  | call c k ih => exact ⟨trivial, ih⟩

/-- A body that ends under the lock, or never returns. -/
def Phase.Held : Phase → Prop
  | .live held mode => held = true ∧ mode ≠ .selected
  | .stuck => True

theorem follows_locked {α : Type} {p : DbProg α} {φ : Phase} (hφ : φ.Idle)
    (h : Follows connProtocol (.live true .idle) p fun _ => Phase.Held) :
    Follows connProtocol φ (locked p) fun _ => Phase.Idle := by
  cases φ with
  | stuck => exact (follows_stuck _).mono fun _ _ h => h ▸ trivial
  | live held m =>
    obtain ⟨rfl, hm⟩ := hφ
    refine follows_bind.2 ⟨hm, fun _ => follows_bind.2 (h.mono ?_)⟩
    rintro a (⟨held, m⟩ | _) hφ'
    · exact ⟨hφ', fun _ => ⟨rfl, nofun⟩⟩
    · exact ⟨trivial, fun _ => trivial⟩

/-- Locking under the lock. -/
theorem follows_relock {α : Type} {p : DbProg α} {m : Mode} (hm : m ≠ .selected) :
    Follows connProtocol (.live true m) (locked p) fun _ φ => φ = .stuck :=
  follows_bind.2 ⟨hm, fun _ => follows_stuck _⟩

theorem follows_ensureConnection :
    Follows connProtocol (.live true .idle) ensureConnection
      fun _ φ => φ = .live true .idle ∨ φ = .stuck := by
  refine follows_bind.2 ⟨⟨rfl, nofun⟩, fun connection => ?_⟩
  cases connection
  case false => exact .inl rfl
  refine follows_bind.2 ⟨⟨rfl, nofun⟩, fun alive => ?_⟩
  cases alive
  case true => exact .inl rfl
  refine follows_bind.2 ⟨⟨rfl, nofun⟩, fun _ => follows_bind.2 ⟨⟨rfl, nofun⟩, fun again => ?_⟩⟩
  cases again
  case false => exact .inl rfl
  refine follows_bind.2 ⟨⟨rfl, nofun⟩, fun connected => ?_⟩
  cases connected
  case false => exact .inl rfl
  -- reconnected: `init_tables` blocks on the held mutex
  exact (follows_relock idle_ne_selected).mono fun _ _ h => Or.inr h

theorem follows_ensured {α : Type} {x : α} {p : DbProg α} (h : Paired p) :
    Follows connProtocol (.live true .idle) (ensured x p) fun _ => Phase.Held := by
  refine follows_bind.2 (follows_ensureConnection.mono ?_)
  rintro ok φ (rfl | rfl)
  · cases ok with
    | false => exact ⟨rfl, nofun⟩
    | true =>
      refine (h.held idle_ne_selected).mono ?_
      rintro a _ ⟨m, hm, rfl⟩
      exact ⟨rfl, hm⟩
  · exact (follows_stuck _).mono fun _ _ h => h ▸ trivial

theorem follows_recallGroupMessage (messageId userId : Nat) {φ : Phase} (hφ : φ.Idle) :
    Follows connProtocol φ (recallGroupMessage messageId userId) fun _ => Phase.Idle := by
  have hselect : Paired (selectFirst (.groupMessages (.senderGroupAndTime messageId))) :=
    paired_selectFirst rfl
  refine follows_locked hφ (follows_bind.2 ((hselect.held idle_ne_selected).mono ?_))
  rintro row _ ⟨m, hm, rfl⟩
  cases row with
  | none => exact ⟨rfl, hm⟩
  | some row =>
    refine follows_bind.2 ((follows_relock hm).mono ?_)
    rintro _ _ rfl
    exact (follows_stuck _).mono fun _ _ h => h ▸ trivial

/-- A SELECT without the lock. -/
theorem follows_getGroupMembers (groupId : Nat) {φ : Phase} (hφ : φ.Idle) :
    Follows connProtocol φ (getGroupMembers groupId) fun _ => Phase.Idle := by
  cases φ with
  | stuck => exact (follows_stuck _).mono fun _ _ h => h ▸ trivial
  | live held m =>
    obtain ⟨rfl, hm⟩ := hφ
    refine follows_bind.2 (follows_bind.2 ⟨⟨hm, fun _ => rfl⟩, fun ok => ?_⟩)
    cases ok with
    | false => exact ⟨rfl, nofun⟩
    | true => exact ⟨rfl, fun _ => ⟨rfl, nofun⟩⟩

theorem follows_createNewBotSession (userId : Nat) {φ : Phase} (hφ : φ.Idle) :
    Follows connProtocol φ (createNewBotSession userId) fun _ => Phase.Idle := by
  cases φ with
  | stuck => exact (follows_stuck _).mono fun _ _ h => h ▸ trivial
  | live held m =>
    obtain ⟨rfl, hm⟩ := hφ
    exact ⟨hm, fun _ => ⟨rfl, nofun⟩⟩

theorem Method.follows (m : Method) {φ : Phase} (hφ : φ.Idle) :
    Follows connProtocol φ m.prog fun _ => Phase.Idle := by
  by_cases hm : m.shape = .nested
  · cases m <;> try contradiction
    case recallGroupMessage messageId userId =>
      exact (follows_recallGroupMessage messageId userId hφ).void
  by_cases hu : m.shape = .unlocked
  · cases m <;> try contradiction
    case getGroupMembers groupId => exact (follows_getGroupMembers groupId hφ).void
    case createNewBotSession userId => exact (follows_createNewBotSession userId hφ).void
  have hshape := m.hasShape hm
  generalize m.prog = p at hshape ⊢
  generalize m.shape = shape at hshape hu
  cases hshape with
  | locked h =>
    refine (follows_locked hφ ((h.held idle_ne_selected).mono ?_)).void
    rintro a _ ⟨m, hm, rfl⟩
    exact ⟨rfl, hm⟩
  | ensured h => exact (follows_locked hφ (follows_ensured h)).void
  | unlocked => exact absurd rfl hu

/-! ## The invariant -/

/-- The mutex and the connection agree with the phases and next calls of the threads. -/
structure Linked (s : Shared θ) (φ : θ → Phase) (next : θ → Option Call) : Prop where
  not_stuck : ∀ t, φ t ≠ .stuck
  mutex : ∀ t m, φ t = .live true m → s.mutex = some t
  /-- a thread that has selected is about to fetch, and its result is there -/
  selected : ∀ t held, φ t = .live held .selected →
    next t = some .storeResult ∧ s.pending = some (s.own t)
  /-- a thread about to ask for an insert id holds the lock, and its INSERT is the last statement -/
  insertId : ∀ t, next t = some .insertId → φ t = .live true .executed ∧
    s.connected = true ∧ s.pending = none ∧ s.inserted = some (s.own t)
  fetched : s.OwnFetches

section
variable {s s' : Shared θ} {φ : θ → Phase} {next : θ → Option Call} {t : θ} {held : Bool}
  {m : Mode} {c' : Option Call}

/-- Two threads do not hold the mutex. -/
theorem Linked.holder_eq (h : Linked s φ next) {u : θ} {m' : Mode} (ht : φ t = .live true m)
    (hu : φ u = .live true m') : u = t := by
  have := (h.mutex t m ht).symm.trans (h.mutex u m' hu)
  exact (Option.some.inj this).symm

variable [DecidableEq θ]

/-- A call after which the thread is in an idle mode: what is left to check is the mutex, and
    that the threads about to fetch still find what they ask for. -/
theorem Linked.idle (h : Linked s φ next)
    (hc' : Pool.Proper connProtocol Phase.Idle (.live held .idle) c')
    (hmutex : held = true → s'.mutex = some t)
    (hothers : ∀ u m, u ≠ t → φ u = .live true m → s'.mutex = some u)
    (hselected : ∀ u, u ≠ t → next u = some .storeResult → s.pending = some (s.own u) →
      s'.pending = some (s'.own u))
    (hinsertId : ∀ u, u ≠ t → next u = some .insertId → φ u = .live true .executed →
      s.pending = none → s.inserted = some (s.own u) →
      s'.connected = s.connected ∧ s'.pending = none ∧ s'.inserted = some (s'.own u))
    (hfetched : s'.OwnFetches) :
    Linked s' (Function.update φ t (.live held .idle)) (Function.update next t c') := by
  constructor
  case not_stuck =>
    intro u
    by_cases hu : u = t
    · subst hu; simp
    · simpa [hu] using h.not_stuck u
  case mutex =>
    intro u m hm
    by_cases hu : u = t
    · subst hu
      simp only [Function.update_self, Phase.live.injEq] at hm
      exact hmutex hm.1
    · exact hothers u m hu (by simpa [hu] using hm)
  case selected =>
    intro u held' hm
    by_cases hu : u = t
    · subst hu; simp at hm
    · obtain ⟨hn, hp⟩ := h.selected u held' (by simpa [hu] using hm)
      exact ⟨by simpa [hu] using hn, hselected u hu hn hp⟩
  case insertId =>
    intro u hn
    by_cases hu : u = t
    · subst hu
      simp only [Function.update_self] at hn
      subst hn
      exact absurd hc'.2 nofun
    · obtain ⟨hφ, hc, hp, hi⟩ := h.insertId u (by simpa [hu] using hn)
      obtain ⟨hc₂, hp₂, hi₂⟩ := hinsertId u hu (by simpa [hu] using hn) hφ hp hi
      exact ⟨by simpa [hu] using hφ, hc₂.trans hc, hp₂, hi₂⟩
  case fetched => exact hfetched

/-- A call that leaves the mutex and the connection alone. -/
theorem Linked.unchanged (h : Linked s φ next) {m : Mode} (hφ : φ t = .live held m)
    (hc' : Pool.Proper connProtocol Phase.Idle (.live held .idle) c') :
    Linked s (Function.update φ t (.live held .idle)) (Function.update next t c') := by
  refine h.idle hc' ?_ (fun u m _ => h.mutex u m) (fun _ _ _ hp => hp)
    (fun _ _ _ _ hp hi => ⟨rfl, hp, hi⟩) h.fetched
  rintro rfl
  exact h.mutex t m hφ

theorem Shared.query_failed (s : Shared θ) {stmt : Stmt} {ok : Bool}
    (hq : (s.query t stmt ok).1 = false) :
    (s.query t stmt ok).2.mutex = s.mutex ∧ (s.query t stmt ok).2.pending = s.pending ∧
      (s.query t stmt ok).2.fetched = s.fetched ∧
      ∀ u, u ≠ t → (s.query t stmt ok).2.own u = s.own u := by
  have ho : ∀ u, u ≠ t → (s.issue t).own u = s.own u :=
    fun u hu => by simp [own, issue, hu]
  unfold query at hq ⊢
  by_cases hc : s.connected = true ∧ s.pending = none
  · simp only [if_pos hc] at hq ⊢
    cases ok with
    | true => cases hq
    | false => exact ⟨rfl, rfl, rfl, ho⟩
  · simp only [if_neg hc]
    exact ⟨rfl, rfl, rfl, ho⟩

theorem Shared.query_succeeded (s : Shared θ) {stmt : Stmt} {ok : Bool}
    (hq : (s.query t stmt ok).1 = true) :
    s.connected = true ∧ s.pending = none ∧ (s.query t stmt ok).2 = { s.issue t with
      inserted := some ((s.issue t).own t)
      pending := if stmt.isSelect then some ((s.issue t).own t) else none } := by
  unfold query at hq ⊢
  by_cases hc : s.connected = true ∧ s.pending = none
  · simp only [if_pos hc] at hq ⊢
    cases ok with
    | false => cases hq
    | true => exact ⟨hc.1, hc.2, rfl⟩
  · simp only [if_neg hc] at hq
    cases hq

omit [DecidableEq θ] in
theorem Shared.OwnFetches.fetch {source : Option (Source θ)} (h : s.OwnFetches)
    (hs : source = some (s.own t)) : (s.fetch t source).OwnFetches := by
  intro f hf
  rcases List.mem_append.1 hf with hf | hf
  · exact h f hf
  · rw [List.mem_singleton.1 hf, hs]

/-- A statement that the client library refuses or the server answers with an error. -/
theorem Linked.query_failed (h : Linked s φ next) (hφ : φ t = .live held m) {stmt : Stmt}
    {ok : Bool} (hq : (s.query t stmt ok).1 = false)
    (hc' : Pool.Proper connProtocol Phase.Idle (.live held .idle) c')
    (hok : ∀ u, u ≠ t → next u ≠ some .insertId) :
    Linked (s.query t stmt ok).2 (Function.update φ t (.live held .idle))
      (Function.update next t c') := by
  obtain ⟨hm, hp, hf, ho⟩ := s.query_failed hq
  refine h.idle hc' ?_ (fun u m _ hu => hm ▸ h.mutex u m hu)
    (fun u hu _ hpu => by rw [hp, ho u hu]; exact hpu) (fun u hu hn => absurd hn (hok u hu)) ?_
  · rintro rfl
    exact hm ▸ h.mutex t m hφ
  · unfold Shared.OwnFetches
    rw [hf]
    exact h.fetched

/-- A statement that succeeds: nobody waits for another result or id. -/
theorem Linked.query_succeeded (h : Linked s φ next) (hφ : φ t = .live held m) {stmt : Stmt}
    {ok : Bool} (hq : (s.query t stmt ok).1 = true)
    (hc' : Pool.Proper connProtocol Phase.Idle (.live held (.query stmt true)) c')
    (hok : ∀ u, u ≠ t → next u ≠ some .insertId) :
    Linked (s.query t stmt ok).2 (Function.update φ t (.live held (.query stmt true)))
      (Function.update next t c') := by
  obtain ⟨hconn, hpend, hs'⟩ := s.query_succeeded hq
  rw [hs']
  constructor
  case not_stuck =>
    intro u
    by_cases hu : u = t
    · subst hu; simp
    · simpa [hu] using h.not_stuck u
  case mutex =>
    intro u m' hm
    by_cases hu : u = t
    · subst hu
      simp only [Function.update_self, Phase.live.injEq] at hm
      exact h.mutex u m (hm.1 ▸ hφ)
    · exact h.mutex u m' (by simpa [hu] using hm)
  case selected =>
    intro u held' hm
    by_cases hu : u = t
    · subst hu
      simp only [Function.update_self, Phase.live.injEq, Mode.query, if_true] at hm
      have hsel : stmt.isSelect = true := by
        by_contra hns
        simp [hns] at hm
      simp only [Mode.query, hsel, if_true] at hc'
      -- the next call of a thread that has selected is the fetch
      have hnext : c' = some .storeResult := by
        cases c' with
        | none => exact absurd rfl hc'.2
        | some c =>
          cases c
          case storeResult => rfl
          case query => exact absurd rfl hc'.1
          case lock | timestamp | fileSize => exact absurd rfl hc'
          case insertId => exact absurd hc'.2 selected_ne_executed
          all_goals exact absurd rfl hc'.2
      simp [hnext, hsel, Shared.own, Shared.issue]
    · obtain ⟨-, hp⟩ := h.selected u held' (by simpa [hu] using hm)
      rw [hpend] at hp
      cases hp
  case insertId =>
    intro u hn
    by_cases hu : u = t
    · subst hu
      simp only [Function.update_self] at hn
      subst hn
      obtain ⟨rfl, hmode⟩ := hc'
      have hns : stmt.isSelect = false := by
        by_contra hsel
        simp [Mode.query, hsel] at hmode
      simp [Mode.query, hns, hconn, Shared.own, Shared.issue]
    · exact absurd (by simpa [hu] using hn) (hok u hu)
  case fetched => exact h.fetched

end

variable [DecidableEq θ]

theorem Linked.start {w : World θ} {φ : θ → Phase} {t : θ} {c : Option Call}
    (h : Linked w.shared φ w.next) (ht : w.next t = none)
    (hidle : (φ t).Idle) (hc : Pool.Proper connProtocol Phase.Idle (φ t) c) :
    Linked w.shared φ (Function.update w.next t c) where
  not_stuck := h.not_stuck
  mutex := h.mutex
  selected u held hu := by
    obtain ⟨hn, hp⟩ := h.selected u held hu
    have hut : u ≠ t := by rintro rfl; rw [ht] at hn; cases hn
    exact ⟨by simpa [hut] using hn, hp⟩
  insertId u hu := by
    by_cases hut : u = t
    · subst hut
      simp only [Function.update_self] at hu
      subst hu
      cases hφ : φ u with
      | stuck => exact absurd hφ (h.not_stuck u)
      | live held m =>
        rw [hφ] at hidle hc
        exact absurd (hidle.1.symm.trans hc.1) nofun
    · exact h.insertId u (by simpa [hut] using hu)
  fetched := h.fetched

theorem Linked.call {w : World θ} {φ : θ → Phase} {t : θ} {x : Choice} {c : Call} {a : c.Answer}
    {s : Shared θ} {c' : Option Call} (h : Linked w.shared φ w.next) (hn : w.next t = some c)
    (hP : connProtocol.allows (φ t) c) (hok : ConnOk w (.call t x))
    (hr : Shared.reply t w.shared c x = some (a, s))
    (hc' : Pool.Proper connProtocol Phase.Idle (connProtocol.next (φ t) c a) c') :
    Linked s (Function.update φ t (connProtocol.next (φ t) c a))
      (Function.update w.next t c') := by
  obtain ⟨held, m, hφ⟩ : ∃ held m, φ t = .live held m := by
    cases hφ : φ t with
    | live held m => exact ⟨held, m, rfl⟩
    | stuck => exact absurd hφ (h.not_stuck t)
  simp only [ConnOk, hn] at hok
  rw [hφ] at hP hc' ⊢
  cases c
  case lock =>
    obtain ⟨hfree, hr⟩ := Option.ite_none_right_eq_some.1 hr
    cases hr
    have hnone : ∀ u m, φ u ≠ .live true m := fun u m hu => by
      have := h.mutex u m hu
      rw [hfree] at this
      cases this
    have hheld : held = false := by
      cases held with
      | false => rfl
      | true => exact absurd hφ (hnone t m)
    subst hheld
    exact h.idle hc' (fun _ => rfl) (fun u m _ hu => absurd hu (hnone u m))
      (fun _ _ _ hp => hp) (fun u _ _ hu _ _ => absurd hu (hnone u _)) h.fetched
  case unlock =>
    cases hr
    obtain ⟨rfl, -⟩ := hP
    refine h.idle hc' nofun (fun u m hut hu => absurd (h.holder_eq hφ hu) hut)
      (fun _ _ _ hp => hp) (fun u hut _ hu _ _ => absurd (h.holder_eq hφ hu) hut) h.fetched
  case hasConnection | ping | timestamp | fileSize =>
    cases hr
    exact h.unchanged hφ hc'
  case close | init =>
    cases hr
    obtain ⟨rfl, -⟩ := hP
    exact h.idle hc' (fun _ => h.mutex t m hφ) (fun u m _ => h.mutex u m)
      (fun u hu hs => absurd hs (hok u hu))
      (fun u hut _ hu _ _ => absurd (h.holder_eq hφ hu) hut) h.fetched
  case realConnect =>
    cases hr
    obtain ⟨rfl, -⟩ := hP
    exact h.idle hc' (fun _ => h.mutex t m hφ) (fun u m _ => h.mutex u m)
      (fun _ _ _ hp => hp)
      (fun u hut _ hu _ _ => absurd (h.holder_eq hφ hu) hut) h.fetched
  case query stmt =>
    have hr : w.shared.query t stmt x.ok = (a, s) := Option.some.inj hr
    have hq : (w.shared.query t stmt x.ok).1 = a := congrArg Prod.fst hr
    obtain rfl : (w.shared.query t stmt x.ok).2 = s := congrArg Prod.snd hr
    cases a with
    | false => exact h.query_failed hφ hq hc' hok
    | true => exact h.query_succeeded hφ hq hc' hok
  case storeResult =>
    cases hr
    have hP : m = .selected := hP
    subst hP
    obtain ⟨-, hp⟩ := h.selected t held hφ
    refine h.idle hc' ?_ (fun u m _ => h.mutex u m) ?_ ?_ (h.fetched.fetch hp)
    · rintro rfl
      exact h.mutex t _ hφ
    · intro u hut hu hpu
      rw [hp] at hpu
      exact absurd (congrArg Prod.fst (Option.some.inj hpu)).symm hut
    · intro u hut hu _ hpu
      rw [hp] at hpu
      cases hpu
  case insertId =>
    cases hr
    obtain ⟨-, -, -, hi⟩ := h.insertId t hn
    refine h.idle hc' ?_ (fun u m _ => h.mutex u m) (fun _ _ _ hp => hp)
      (fun _ _ _ _ hp hi => ⟨rfl, hp, hi⟩) (h.fetched.fetch hi)
    rintro rfl
    exact h.mutex t _ hφ


omit [DecidableEq θ] in
theorem linked_init (present connected : Bool) :
    (World.init present connected : World θ).Inv connProtocol Phase.Idle Linked := by
  refine ⟨fun _ => .live false .idle, fun _ => ⟨rfl, nofun⟩, ?_⟩
  constructor
  case not_stuck | mutex | selected | insertId => exact fun _ => nofun
  case fetched => exact nofun

/-- Every state of a run whose steps meet `ConnOk`. -/
theorem linked_run {present connected : Bool} {ls : List (ConnStep θ)} {w : World θ}
    (h : Run World.step ConnOk (World.init present connected) ls w) :
    w.Inv connProtocol Phase.Idle Linked := by
  refine h.invariant (linked_init present connected) fun w l w' hI hok hs => ?_
  exact Pool.inv_step (fun m _ hφ => m.follows hφ)
    (fun _ _ _ _ h ht hidle hc => h.start ht hidle hc)
    (fun _ _ _ _ _ _ _ _ h hn hP hok hr hc' => h.call hn hP hok hr hc') hI hok hs

/-! ## A step that breaks the condition -/

omit [DecidableEq θ] in
theorem not_ownFetches_fetch {s : Shared θ} {u : θ} {source : Option (Source θ)}
    (h : source ≠ some (s.own u)) : ¬ (s.fetch u source).OwnFetches :=
  fun hf => h (hf ⟨s.own u, source⟩ (List.mem_append_right _ (List.mem_singleton_self _)))

/-- A thread about to fetch something that is not its own can do so. -/
theorem foreign_fetch {w : World θ} {u : θ}
    (h : (w.next u = some .insertId ∧ w.shared.inserted ≠ some (w.shared.own u)) ∨
      (w.next u = some .storeResult ∧ w.shared.pending ≠ some (w.shared.own u))) (x : Choice) :
    ∃ w', World.step w (.call u x) = some w' ∧ ¬ w'.shared.OwnFetches := by
  rcases h with ⟨hn, hs⟩ | ⟨hn, hs⟩
  · obtain ⟨k, hk⟩ := Pool.rest_of_next hn
    refine ⟨_, by simp only [World.step, Pool.step, hk, Shared.reply, Option.map_some]; rfl, ?_⟩
    exact not_ownFetches_fetch hs
  · obtain ⟨k, hk⟩ := Pool.rest_of_next hn
    refine ⟨_, by simp only [World.step, Pool.step, hk, Shared.reply, Option.map_some]; rfl, ?_⟩
    exact not_ownFetches_fetch hs

/-- A statement that reaches the server takes the insert id from every other thread. -/
theorem Shared.inserted_query (s : Shared θ) {t u : θ} {stmt : Stmt} {ok : Bool}
    (hconn : s.connected = true) (hpend : s.pending = none) (hut : u ≠ t) :
    (s.query t stmt ok).2.inserted ≠ some ((s.query t stmt ok).2.own u) := by
  unfold query
  rw [if_pos ⟨hconn, hpend⟩]
  cases ok with
  | true => exact fun h => hut (congrArg Prod.fst (Option.some.inj h)).symm
  | false => exact nofun

omit [DecidableEq θ] in
theorem not_connOk {w : World θ} {l : ConnStep θ} (h : ¬ ConnOk w l) :
    ∃ t x u, l = .call t x ∧ u ≠ t ∧
      ((∃ s, w.next t = some (.query s)) ∧ w.next u = some .insertId ∨
        (w.next t = some .close ∨ w.next t = some .init) ∧ w.next u = some .storeResult) := by
  cases l with
  | start => exact absurd trivial h
  | call t x =>
    simp only [ConnOk] at h
    split at h
    case h_4 => exact absurd trivial h
    all_goals
      rename_i hn
      simp only [not_forall, not_not] at h
      obtain ⟨u, hut, hu⟩ := h
      exact ⟨t, x, u, rfl, hut, by simp [hn, hu]⟩

/-- After a step that breaks `ConnOk`, a thread can fetch what is not its own. -/
theorem foreign_fetch_of_not_connOk {w w₁ : World θ} {l : ConnStep θ}
    (h : w.Inv connProtocol Phase.Idle Linked) (hok : ¬ ConnOk w l)
    (hs : World.step w l = some w₁) :
    ∃ l' w', exec World.step w [l, l'] = some w' ∧ ¬ w'.shared.OwnFetches := by
  obtain ⟨φ, -, hJ⟩ := h
  obtain ⟨t, x, u, rfl, hut, hn⟩ := not_connOk hok
  obtain ⟨c, k, a, s, hc, hr, rfl⟩ := Pool.step_call hs
  have hcn := Pool.next_of_call hc
  have hu : ∀ {v}, w.next u = some v → 
     Pool.next (⟨s, Function.update w.rest t (k a)⟩ : World θ) u = some v := by
    intro v hv
    simpa [Pool.next_update, hut] using hv
  have hforeign : ∃ w', World.step ⟨s, Function.update w.rest t (k a)⟩ (.call u x) = some w' ∧
      ¬ w'.shared.OwnFetches := by
    apply Database.foreign_fetch
    rcases hn with ⟨⟨stmt, hq⟩, hi⟩ | ⟨hq, hsr⟩
    · left
      refine ⟨hu hi, ?_⟩
      obtain ⟨-, hconn, hpend, -⟩ := hJ.insertId u hi
      obtain rfl : c = .query stmt := Option.some.inj (hcn.symm.trans hq)
      have hr : w.shared.query t stmt x.ok = (a, s) := Option.some.inj hr
      obtain rfl : (w.shared.query t stmt x.ok).2 = s := congrArg Prod.snd hr
      exact w.shared.inserted_query hconn hpend hut
    · right
      refine ⟨hu hsr, ?_⟩
      have hp : s.pending = none := by
        rcases hq with hq | hq
        · obtain rfl : c = .close := Option.some.inj (hcn.symm.trans hq)
          cases hr
          rfl
        · obtain rfl : c = .init := Option.some.inj (hcn.symm.trans hq)
          cases hr
          rfl
      rw [hp]
      nofun
  obtain ⟨w', hw', hbad⟩ := hforeign
  exact ⟨.call u x, w', by simp [exec_cons, hs, hw'], hbad⟩

/-! ## The result -/

def ConnStep.thread : ConnStep θ → θ
  | .start t _ => t
  | .call t _ => t

/-- A thread that works alone meets the condition. -/
theorem run_alone {t : θ} {ls : List (ConnStep θ)} {w w' : World θ}
    (h : exec World.step w ls = some w') (hls : ∀ l ∈ ls, ConnStep.thread l = t)
    (hw : ∀ u, u ≠ t → w.next u = none) : Run World.step ConnOk w ls w' := by
  induction ls generalizing w with
  | nil =>
    obtain rfl := Option.some.inj h
    exact .nil
  | cons l ls ih =>
    obtain ⟨w₁, hs, h⟩ := Option.bind_eq_some_iff.1 h
    obtain rfl := hls l (List.mem_cons_self ..)
    have hok : ConnOk w l := by
      by_contra hok
      obtain ⟨t, x, u, rfl, hut, hn⟩ := not_connOk hok
      have := hw u hut
      rcases hn with ⟨-, hn⟩ | ⟨-, hn⟩ <;> simp [hn] at this
    have hw₁ : ∀ u, u ≠ ConnStep.thread l → w₁.next u = none := by
      intro u hu
      cases l with
      | start t job =>
        obtain ⟨-, rfl⟩ := Pool.step_start hs
        have hut : u ≠ t := hu
        simpa [Pool.next_update, hut] using hw u hu
      | call t x =>
        obtain ⟨c, k, a, s, -, -, rfl⟩ := Pool.step_call hs
        have hut : u ≠ t := hu
        simpa [Pool.next_update, hut] using hw u hu
    exact Run.cons hok hs
      (ih h (fun l hl => hls l (List.mem_cons_of_mem _ hl)) hw₁)

end ChatApp.Database
