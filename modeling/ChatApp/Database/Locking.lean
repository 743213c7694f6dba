/-
  Self-deadlock of the `Database` methods: does a thread lock `mutex_` while it holds it?

  The lock is a two-state protocol over the calls of a method. A paired body never touches it,
  so a paired body under `std::lock_guard` is safe. Two paths are not paired. `ensure_connection`,
  which six methods call under the lock, ends in `init_tables` when it reconnects, and
  `init_tables` locks. `recall_group_message` calls `is_group_admin` and `is_group_owner` under
  the lock once it has found the message, and both lock.
-/
import ChatApp.Database.Pairing

namespace ChatApp.Database

open ChatApp.Lib ChatApp.Lib.Prog

/-- Does a thread that holds `mutex_` (`held`) lock it again in the course of the calls? -/
def relocks : Bool → List Call → Bool
  | _, [] => false
  | held, .lock :: cs => held || relocks true cs
  | _, .unlock :: cs => relocks false cs
  | held, _ :: cs => relocks held cs

/-- `mutex_` as one thread sees it; the state says whether the thread holds it. -/
def lockProtocol : Protocol interface Bool where
  allows held c := c = .lock → held = false
  next held c _ := match c with
    | .lock => true
    | .unlock => false
    | _ => held

variable {α ε : Type} {env : ε → (c : Call) → c.Answer × ε} {e : ε} {held : Bool}

theorem relocks_trace {p : DbProg α} :
    relocks held (p.trace env e) = false ↔
      Obeys lockProtocol env held e p fun _ _ _ => True := by
  induction p generalizing held e with
  | ret a => simp [relocks]
  | call c k ih =>
    rw [trace_call, obeys_call]
    cases c <;> simp [relocks, ih, lockProtocol]

/-- A paired body leaves the lock as it is. -/
theorem Paired.lock {p : DbProg α} (h : Paired p) :
    Follows lockProtocol held p fun _ held' => held' = held := by
  have hsim : ∀ (m : Mode) (held' : Bool) (c : Call), held' = held → pairing.allows m c →
      lockProtocol.allows held' c ∧ ∀ a, lockProtocol.next held' c a = held := by
    intro m held' c hh hc
    cases c
    case query | storeResult | insertId | timestamp | fileSize => exact ⟨nofun, fun _ => hh⟩
    all_goals exact hc.elim
  refine (Follows.simulate (R := fun _ held' => held' = held) hsim rfl
    (h .idle nofun)).mono ?_
  rintro a held' ⟨m, hh, -⟩
  exact hh

/-- `std::lock_guard` around a body, from a free lock. -/
theorem obeys_locked {p : DbProg α} :
    Obeys lockProtocol env false e (locked p) (fun _ _ _ => True) ↔
      Obeys lockProtocol env true (env e .lock).2 p fun _ _ _ => True := by
  refine obeys_bind.trans ⟨fun h => ?_, fun h => ⟨fun _ => rfl, ?_⟩⟩
  · exact (obeys_bind.1 h.2).mono fun _ _ _ _ => trivial
  · exact obeys_bind.2 (h.mono fun _ _ _ _ => ⟨nofun, trivial⟩)

/-- Under the held lock, `init_tables` locks. -/
theorem not_obeys_locked {p : DbProg α} {Q : α → Bool → ε → Prop} :
    ¬ Obeys lockProtocol env true e (locked p) Q :=
  fun h => absurd (h.1 rfl) nofun

/-! ## The two paths that lock again -/

/-- `ensure_connection` finds the connection lost and opens a new one: `mysql_ping` fails, and
    `mysql_init` and `mysql_real_connect` succeed. -/
def reconnecting : DbProg Bool := do
  lockMutex
  if !(← hasConnection) then return false
  if ← mysqlPing then return false
  mysqlClose
  if !(← mysqlInit) then return false
  mysqlRealConnect

def Reconnects (env : ε → (c : Call) → c.Answer × ε) (e : ε) : Prop :=
  (reconnecting.run env e).1 = true

/-- `recall_group_message` finds the message. -/
def findingMessage (messageId : Nat) : DbProg (Option Row) := do
  lockMutex
  selectFirst (.groupMessages (.senderGroupAndTime messageId))

def FindsMessage (env : ε → (c : Call) → c.Answer × ε) (e : ε) (messageId : Nat) : Prop :=
  ((findingMessage messageId).run env e).1.isSome

@[simp] theorem lockProtocol_allows {c : Call} :
    lockProtocol.allows held c ↔ (c = .lock → held = false) := Iff.rfl

@[simp] theorem lockProtocol_next {c : Call} (hl : c ≠ .lock) (hu : c ≠ .unlock) (a : c.Answer) :
    lockProtocol.next held c a = held := by
  cases c <;> first | rfl | contradiction

/-- Under the lock, a method that calls `ensure_connection` is safe exactly if that does not
    reconnect. -/
theorem obeys_ensured {x : α} {p : DbProg α} (h : Paired p) :
    Obeys lockProtocol env true (env e .lock).2 (ensured x p) (fun _ _ _ => True) ↔
      ¬ Reconnects env e := by
  have hp : ∀ e', Obeys lockProtocol env true e' p fun _ _ _ => True :=
    fun e' => (h.lock.obeys env e').mono fun _ _ _ _ => trivial
  simp only [Reconnects, reconnecting, ensured, ensureConnection, connect, initTables]
  by_cases hconn : (env (env e .lock).2 .hasConnection).1 = true
  case neg => simp [hconn]
  by_cases hping : (env (env (env e .lock).2 .hasConnection).2 .ping).1 = true
  case pos => simp [hconn, hping, hp]
  by_cases hinit :
      (env (env (env (env (env e .lock).2 .hasConnection).2 .ping).2 .close).2 .init).1 = true
  case neg => simp [hconn, hping, hinit]
  by_cases hreal : (env (env (env (env (env (env e .lock).2 .hasConnection).2 .ping).2
      .close).2 .init).2 .realConnect).1 = true
  -- connected again: `init_tables` locks
  case pos => simp [hconn, hping, hinit, hreal, not_obeys_locked]
  case neg => simp [hconn, hping, hinit, hreal]

/-- `recall_group_message` is safe exactly if it does not find the message. -/
theorem obeys_recallGroupMessage {messageId userId : Nat} :
    Obeys lockProtocol env false e (recallGroupMessage messageId userId) (fun _ _ _ => True) ↔
      ¬ FindsMessage env e messageId := by
  have hselect : Obeys lockProtocol env true (env e .lock).2
      (selectFirst (.groupMessages (.senderGroupAndTime messageId))) fun _ held _ => held = true :=
    (paired_selectFirst rfl).lock.obeys env _
  rw [recallGroupMessage, obeys_locked, obeys_bind, hselect.iff_run]
  simp only [FindsMessage, findingMessage, run_bind, run_lockMutex]
  cases (run env (selectFirst (.groupMessages (.senderGroupAndTime messageId)))
      (env e .lock).2).1 with
  | none => simp
  | some row => simp [isGroupAdmin, not_obeys_locked]

/-! ## All methods -/

/-- No method, called with the lock free, locks `mutex_` twice, except a method that calls
    `ensure_connection` when this reconnects, and `recall_group_message` when the message is
    there. -/
theorem relock_free_iff (env : ε → (c : Call) → c.Answer × ε) (e : ε) (m : Method) :
    relocks false (m.prog.trace env e) = false ↔
      (m.shape = .ensured → ¬ Reconnects env e) ∧
        ∀ messageId userId, m = .recallGroupMessage messageId userId →
          ¬ FindsMessage env e messageId := by
  rw [relocks_trace]
  by_cases hm : m.shape = .nested
  · cases m <;> try contradiction
    case recallGroupMessage messageId userId =>
      rw [Method.prog, obeys_void, obeys_recallGroupMessage]
      simp [Method.shape]
  · have hshape := m.hasShape hm
    have hnested : ∀ messageId userId, m ≠ .recallGroupMessage messageId userId := by
      rintro _ _ rfl
      exact hm rfl
    simp only [hnested, false_imp_iff, implies_true, and_true]
    generalize m.prog = p at hshape ⊢
    generalize m.shape = shape at hshape ⊢
    cases hshape with
    | locked h =>
      rw [obeys_void, obeys_locked]
      simpa using (h.lock.obeys env _).mono fun _ _ _ _ => trivial
    | ensured h =>
      rw [obeys_void, obeys_locked, obeys_ensured h]
      simp
    | unlocked h =>
      rw [obeys_void]
      simpa using (h.lock.obeys env _).mono fun _ _ _ _ => trivial

/-- A server on which every call succeeds but `mysql_ping`, and every SELECT finds one row. -/
def lostConnection : Unit → (c : Call) → c.Answer × Unit
  | e, .lock | e, .unlock | e, .close => ((), e)
  | e, .ping => (false, e)
  | e, .hasConnection | e, .init | e, .realConnect | e, .query _ => (true, e)
  | e, .storeResult => (some [[.num 7, .num 3, .num 1000]], e)
  | e, .insertId | e, .fileSize _ => ((1 : Nat), e)
  | e, .timestamp => ((1060 : Int), e)

/-- The recall of a group message that exists, and a registration after a lost connection. -/
theorem relocks_recall_and_reconnect :
    relocks false ((Method.recallGroupMessage 1 7).prog.trace lostConnection ()) = true ∧
      relocks false ((Method.createUser "ann" "pw" "Ann").prog.trace lostConnection ()) = true := by
  decide

end ChatApp.Database
