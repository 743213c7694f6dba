/-
  The connection table. `connections_` is keyed by the number a connection got from `accept`;
  `remove_connection` erases the key `get_socket()`, which `close()` has overwritten with -1 when
  it is through. So a call of `remove_connection(c)` leaves an entry of `c` behind just when the
  entry is still there and `close()` has already reset `socket_`.

  The condition on a run (`RemovesEntry`): that never happens. Then no removed connection is in
  the table, and the table has at most one entry for each running connection thread.
-/
import Mathlib.Data.List.Perm.Subperm
import ChatApp.Gateway.Reads

namespace ChatApp.Gateway

open ChatApp.Lib

namespace World

variable {w w' : World} {t t' : Thread} {i : Input} {e : Effect} {k : Control} {c d : ConnId}
  {n : Fd} {l : Step} {ls : List Step} {s : Stage}

/-- The connection a step calls `remove_connection` for: its own at the end of a connection
    thread, a timed-out one in the heartbeat. -/
def removing (w : World) : Step → Option ConnId
  | .thread (.conn c) _ => if w.control (.conn c) = { stage := .remove } then some c else none
  | .thread .heartbeat _ =>
    match w.control .heartbeat with
    | { stage := .removeTimedOut c _, closing := none } => some c
    | _ => none
  | _ => none

/-- `remove_connection` is not called for a connection that is in the table after `close()` has
    reset its `socket_`. -/
def RemovesEntry (w : World) (l : Step) : Prop :=
  ∀ c ∈ w.removing l, c ∈ w.connections.values → (w.conn c).socket ≠ none

instance (w : World) : DecidablePred w.RemovesEntry :=
  fun _ => inferInstanceAs (Decidable (∀ c ∈ _, _))

theorem removing_eq_some : w.removing (.thread t i) = some c ↔
    t = .conn c ∧ w.control (.conn c) = { stage := .remove } ∨
      t = .heartbeat ∧ ∃ todo, w.control .heartbeat = { stage := .removeTimedOut c todo } := by
  cases t with
  | conn d =>
    simp only [removing, Option.ite_none_right_eq_some, Option.some.injEq, Thread.conn.injEq,
      reduceCtorEq, false_and, or_false]
    constructor
    · rintro ⟨hc, rfl⟩
      exact ⟨rfl, hc⟩
    · rintro ⟨rfl, hc⟩
      exact ⟨hc, rfl⟩
  | heartbeat =>
    simp only [removing, reduceCtorEq, false_and, false_or, true_and]
    constructor
    · intro h
      split at h
      case h_1 d todo hc =>
        cases h
        exact ⟨todo, hc⟩
      case h_2 => cases h
    · rintro ⟨todo, hc⟩
      rw [hc]

/-- The threads of accepted connections that have not returned. -/
def running (w : World) : List ConnId :=
  (List.range w.created).filter fun c => (w.control (.conn c)).stage ≠ .done

/-- The thread of `c` has put `c` into the table. -/
structure Registered (w : World) (c : ConnId) : Prop where
  handshake : (w.control (.conn c)).stage ≠ .handshake
  register : (w.control (.conn c)).stage ≠ .register
  created : c < w.created

/-- The connections a heartbeat check is still going to remove. -/
def todo : Stage → List ConnId
  | .closeTimedOut todo => todo
  | .removeTimedOut d todo => d :: todo
  | _ => []

structure Tables (w : World) : Prop where
  key : ∀ n c, w.connections.get? n = some c → (w.conn c).clientSocket = n ∧ Registered w c
  todo : ∀ c ∈ todo (w.control .heartbeat).stage, Registered w c
  removed : ∀ c ∈ w.removed, Registered w c
  ended : ∀ c, (w.control (.conn c)).stage = .disconnect ∨ (w.control (.conn c)).stage = .done →
    c ∈ w.connections.values → c ∈ w.removed

theorem tables_init : Tables init where
  key _ _ h := by cases h
  todo _ h := by cases h
  removed _ h := by cases h
  ended _ _ h := by cases h

/-! ## Registered connections stay registered -/

theorem connMove_registered (h : ConnMove w c i s e k) :
    k.stage ≠ .handshake ∧ (k.stage = .register → s = .handshake) := by
  cases h with
  | construct => exact ⟨nofun, fun _ => rfl⟩
  | closeOwn h => rcases h with rfl | rfl <;> exact ⟨nofun, nofun⟩
  | unsent h | sent h | sendFails h => cases h <;> exact ⟨nofun, nofun⟩
  | _ => exact ⟨nofun, nofun⟩

theorem registered_thread (hm : Move w i t e k) (h : Registered w c) :
    Registered ((w.apply e).setControl t k) c := by
  have hcr : c < ((w.apply e).setControl t k).created := by
    show c < (w.apply e).created
    rw [created_apply]
    exact h.created
  by_cases ht : .conn c = t
  · subst ht
    have hk : k.stage ≠ .handshake ∧ k.stage ≠ .register := by
      cases hm with
      | closing hc hm =>
        have h1 := h.handshake
        have h2 := h.register
        rw [hc] at h1 h2
        rw [closeMove_stage hm]
        exact ⟨h1, h2⟩
      | conn hc hm =>
        refine ⟨(connMove_registered hm).1, fun hk => h.handshake ?_⟩
        rw [hc, (connMove_registered hm).2 hk]
    exact ⟨by rw [control_own]; exact hk.1, by rw [control_own]; exact hk.2, hcr⟩
  · exact ⟨by rw [control_other ht]; exact h.handshake, by rw [control_other ht]; exact h.register,
      hcr⟩

/-! ## What the steps do to the table -/

theorem connections_apply (hr : ∀ c, e ≠ .register c) (hd : ∀ c, e ≠ .removeConnection c) :
    (w.apply e).connections = w.connections ∧ (w.apply e).removed = w.removed := by
  cases e with
  | register c => exact absurd rfl (hr c)
  | removeConnection c => exact absurd rfl (hd c)
  | addConnection c =>
    simp only [apply, addConnection]
    split <;> exact ⟨rfl, rfl⟩
  | _ => exact ⟨rfl, rfl⟩

theorem get?_removeConnection {v : ConnId} :
    (w.removeConnection c).connections.get? n = some v ↔
      (w.conn c).socket ≠ some n ∧ w.connections.get? n = some v := by
  cases hs : (w.conn c).socket with
  | none => simp [removeConnection, hs]
  | some m =>
    simp only [removeConnection, hs, SortedMap.get?_erase_eq_some, Option.some.injEq, ne_eq]
    exact and_congr_left fun _ => ⟨fun h h' => h h'.symm, fun h h' => h h'.symm⟩

/-- After `remove_connection(c)`, `c` is out of the table just when `socket_` still was its key
    or `c` was out before. -/
theorem gone_iff (h : Kernel w) (hT : Tables w) :
    c ∉ (w.removeConnection c).connections.values ↔
      (c ∈ w.connections.values → (w.conn c).socket ≠ none) := by
  simp only [SortedMap.mem_values, not_exists]
  constructor
  · rintro hno ⟨n, hn⟩ hs
    exact hno n (get?_removeConnection.2 ⟨by rw [hs]; exact nofun, hn⟩)
  · intro hsock n hn
    obtain ⟨hne, hn⟩ := get?_removeConnection.1 hn
    obtain ⟨m, hm⟩ := Option.ne_none_iff_exists'.1 (hsock ⟨n, hn⟩)
    refine hne (hm.trans (congrArg some ?_))
    rw [h.number c m hm, (hT.key n c hn).1]

/-- A connection enters the table when its thread registers it. -/
theorem move_register (hm : Move w i t (.register c) k) :
    t = .conn c ∧ (w.control (.conn c)).stage = .register ∧ k = { stage := .loopHead } := by
  cases hm with
  | closing hc hm => cases hm
  | conn hc hm =>
    cases hm with
    | register => exact ⟨rfl, by rw [hc], rfl⟩
  | heartbeat hc hm => cases hm

theorem move_remove (hm : Move w i t (.removeConnection c) k) :
    w.removing (.thread t i) = some c := by
  rw [removing_eq_some]
  cases hm with
  | closing hc hm => cases hm
  | conn hc hm =>
    cases hm with
    | remove => exact .inl ⟨rfl, hc⟩
  | heartbeat hc hm =>
    cases hm with
    | remove d todo => exact .inr ⟨rfl, todo, hc⟩

theorem effect_of_removing (hr : w.removing (.thread t i) = some c) (hm : Move w i t e k) :
    e = .removeConnection c := by
  rcases removing_eq_some.1 hr with ⟨rfl, hc⟩ | ⟨rfl, todo, hc⟩
  · cases hm with
    | closing hc' hm =>
      rw [hc] at hc'
      cases hc'
    | conn hc' hm =>
      rw [hc] at hc'
      cases hc'
      cases hm with
      | remove => rfl
      | leave h => exact h.elim
      | unsent h | sent h | sendFails h => cases h
  · cases hm with
    | closing hc' hm =>
      rw [hc] at hc'
      cases hc'
    | heartbeat hc' hm =>
      rw [hc] at hc'
      cases hc'
      cases hm with
      | remove => rfl

/-- The steps of the heartbeat keep to connections of the table. -/
theorem heartbeatMove_todo (h : HeartbeatMove w s e k) (hd : d ∈ todo k.stage) :
    d ∈ todo s ∨ d ∈ w.connections.values := by
  cases h with
  | collect h => exact .inr (h d hd)
  | close => exact .inl hd
  | remove => exact .inl (List.mem_cons_of_mem _ hd)
  | _ => cases hd

/-- A thread ends after `remove_connection`, or in the handshake. -/
theorem connMove_ended (h : ConnMove w c i s e k) (hk : k.stage = .disconnect ∨ k.stage = .done) :
    e = .removeConnection c ∨ (∀ c, e ≠ .removeConnection c) ∧ (∀ c, e ≠ .register c) ∧
      (s = .disconnect ∨ s = .handshake) := by
  cases h with
  | remove => exact .inl rfl
  | refuse => exact .inr ⟨nofun, nofun, .inr rfl⟩
  | offline | anonymous | offlineFails => exact .inr ⟨nofun, nofun, .inl rfl⟩
  | closeOwn h => rcases h with rfl | rfl <;> rcases hk with hk | hk <;> cases hk
  | unsent h | sent h | sendFails h => cases h <;> rcases hk with hk | hk <;> cases hk
  | _ => rcases hk with hk | hk <;> cases hk

theorem mem_values_of_apply (he : ∀ c, e ≠ .register c) (h : d ∈ (w.apply e).connections.values) :
    d ∈ w.connections.values := by
  by_cases hr : ∃ c, e = .removeConnection c
  · obtain ⟨c, rfl⟩ := hr
    obtain ⟨n, hn⟩ := SortedMap.mem_values.1 h
    exact SortedMap.mem_values.2 ⟨n, (get?_removeConnection.1 hn).2⟩
  · rwa [(connections_apply he fun c h => hr ⟨c, h⟩).1] at h

theorem removed_of_apply (h : d ∈ (w.apply e).removed) :
    d ∈ w.removed ∨ e = .removeConnection d := by
  by_cases hr : ∃ c, e = .removeConnection c
  · obtain ⟨c, rfl⟩ := hr
    rcases List.mem_cons.1 h with rfl | h
    · exact .inr rfl
    · exact .inl h
  · by_cases hg : ∃ c, e = .register c
    · obtain ⟨c, rfl⟩ := hg
      exact .inl h
    · rw [(connections_apply (fun c h => hg ⟨c, h⟩) fun c h => hr ⟨c, h⟩).2] at h
      exact .inl h

theorem removed_apply (h : d ∈ w.removed) : d ∈ (w.apply e).removed := by
  by_cases hr : ∃ c, e = .removeConnection c
  · obtain ⟨c, rfl⟩ := hr
    exact List.mem_cons_of_mem _ h
  · by_cases hg : ∃ c, e = .register c
    · obtain ⟨c, rfl⟩ := hg
      exact h
    · rwa [(connections_apply (fun c h => hg ⟨c, h⟩) fun c h => hr ⟨c, h⟩).2]

/-! ## Every run -/

/-- The caller of `remove_connection(c)` has registered `c`, or took it from the table. -/
theorem registered_of_removing (hK : Kernel w) (h : Tables w)
    (hr : w.removing (.thread t i) = some c) : Registered w c := by
  rcases removing_eq_some.1 hr with ⟨rfl, hc⟩ | ⟨rfl, rest, hc⟩
  · refine ⟨by rw [hc]; exact nofun, by rw [hc]; exact nofun, ?_⟩
    by_contra hlt
    rw [(hK.fresh c (Nat.le_of_not_lt hlt)).2] at hc
    cases hc
  · exact h.todo c (by rw [hc]; exact List.mem_cons_self)

theorem tables_key (hK : Kernel w) (h : Tables w) (hm : Move w i t e k)
    (hn : (w.apply e).connections.get? n = some c) :
    (w.conn c).clientSocket = n ∧ Registered ((w.apply e).setControl t k) c := by
  by_cases he : ∃ d, e = .register d
  · obtain ⟨d, rfl⟩ := he
    obtain ⟨rfl, hs, rfl⟩ := move_register hm
    have hn' := SortedMap.get?_insert_eq_some.1 hn
    rcases hn' with ⟨rfl, rfl⟩ | ⟨-, hn'⟩
    · refine ⟨rfl, by rw [control_own]; exact nofun, by rw [control_own]; exact nofun, ?_⟩
      show c < w.created
      by_contra hlt
      rw [(hK.fresh c (Nat.le_of_not_lt hlt)).2] at hs
      cases hs
    · exact ⟨(h.key n c hn').1, registered_thread hm (h.key n c hn').2⟩
  · have hn' : w.connections.get? n = some c := by
      by_cases hr : ∃ d, e = .removeConnection d
      · obtain ⟨d, rfl⟩ := hr
        exact (get?_removeConnection.1 hn).2
      · rwa [(connections_apply (fun d h => he ⟨d, h⟩) fun d h => hr ⟨d, h⟩).1] at hn
    exact ⟨(h.key n c hn').1, registered_thread hm (h.key n c hn').2⟩

theorem tables_ended (h : Tables w) (hm : Move w i t e k)
    (hs : (((w.apply e).setControl t k).control (.conn c)).stage = .disconnect ∨
      (((w.apply e).setControl t k).control (.conn c)).stage = .done)
    (hv : c ∈ (w.apply e).connections.values) : c ∈ (w.apply e).removed := by
  by_cases ht : .conn c = t
  · subst ht
    rw [control_own] at hs
    cases hm with
    | closing hc hm =>
      rw [closeMove_stage hm] at hs
      have hold := h.ended c (by rwa [hc])
      refine removed_apply (hold (mem_values_of_apply ?_ hv))
      rintro d rfl
      cases hm
    | conn hc hm =>
      rcases connMove_ended hm hs with rfl | ⟨hr, hg, hs'⟩
      · exact List.mem_cons_self
      · have hv' := mem_values_of_apply hg hv
        rcases hs' with rfl | rfl
        · exact removed_apply (h.ended c (.inl (by rw [hc])) hv')
        · obtain ⟨n, hn⟩ := SortedMap.mem_values.1 hv'
          exact absurd (by rw [hc]) (h.key n c hn).2.handshake
  · rw [control_other ht] at hs
    by_cases he : ∃ d, e = .register d
    · obtain ⟨d, rfl⟩ := he
      obtain ⟨rfl, -, -⟩ := move_register hm
      obtain ⟨n, hn⟩ := SortedMap.mem_values.1 hv
      rcases SortedMap.get?_insert_eq_some.1 hn with ⟨-, rfl⟩ | ⟨-, hn⟩
      · exact absurd rfl ht
      · exact h.ended c hs (SortedMap.mem_values.2 ⟨n, hn⟩)
    · exact removed_apply (h.ended c hs (mem_values_of_apply (fun d h => he ⟨d, h⟩) hv))

theorem tables_thread (hK : Kernel w) (h : Tables w) (hm : Move w i t e k) :
    Tables ((w.apply e).setControl t k) := by
  refine ⟨fun n c hn => ?_, fun c hc => ?_, fun c hc => ?_, fun c hs hv => tables_ended h hm hs hv⟩
  · obtain ⟨h1, h2⟩ := tables_key hK h hm hn
    exact ⟨clientSocket_apply.trans h1, h2⟩
  · refine registered_thread hm ?_
    by_cases ht : .heartbeat = t
    · subst ht
      rw [control_own] at hc
      cases hm with
      | closing hx hm =>
        rw [closeMove_stage hm] at hc
        exact h.todo c (by rwa [hx])
      | heartbeat hx hm =>
        rcases heartbeatMove_todo hm hc with hc | hc
        · exact h.todo c (by rwa [hx])
        · obtain ⟨n, hn⟩ := SortedMap.mem_values.1 hc
          exact (h.key n c hn).2
    · rw [control_other ht] at hc
      exact h.todo c hc
  · rcases removed_of_apply hc with hc | rfl
    · exact registered_thread hm (h.removed c hc)
    · exact registered_thread hm (registered_of_removing hK h (move_remove hm))

/-- The table invariant reads only these parts of the world. -/
theorem tables_congr (h : Tables w) (hctl : w'.control = w.control)
    (hcr : w'.created = w.created) (htab : w'.connections = w.connections)
    (hrem : w'.removed = w.removed)
    (hnum : ∀ c, (w'.conn c).clientSocket = (w.conn c).clientSocket) : Tables w' := by
  have hreg : ∀ c, Registered w c → Registered w' c := fun c hr =>
    ⟨by rw [hctl]; exact hr.handshake, by rw [hctl]; exact hr.register,
      by rw [hcr]; exact hr.created⟩
  refine ⟨fun n c hn => ?_, fun c hc => hreg c (h.todo c (hctl ▸ hc)),
    fun c hc => hreg c (h.removed c (hrem ▸ hc)), fun c hs hv => ?_⟩
  · rw [htab] at hn
    exact ⟨(hnum c).trans (h.key n c hn).1, hreg c (h.key n c hn).2⟩
  · rw [hrem]
    rw [hctl] at hs
    rw [htab] at hv
    exact h.ended c hs hv

theorem registered_accepted (h : Registered w c) : Registered (w.accepted n) c := by
  have hctl : (w.accepted n).control (.conn c) = w.control (.conn c) :=
    control_accepted fun he => ne_of_lt h.created (Thread.conn.inj he)
  exact ⟨by rw [hctl]; exact h.handshake, by rw [hctl]; exact h.register,
    Nat.lt_succ_of_lt h.created⟩

theorem tables_accept (h : Tables w) : Tables (w.accepted n) := by
  have hbeat : (w.accepted n).control .heartbeat = w.control .heartbeat :=
    control_accepted fun h => by cases h
  refine ⟨fun m c hm => ?_, fun c hc => ?_, fun c hc => registered_accepted (h.removed c hc),
    fun c hs hv => ?_⟩
  · obtain ⟨hk, hr⟩ := h.key m c hm
    have hconn : (w.accepted n).conn c = w.conn c := conn_accepted (ne_of_lt hr.created)
    exact ⟨by rw [hconn]; exact hk, registered_accepted hr⟩
  · rw [hbeat] at hc
    exact registered_accepted (h.todo c hc)
  · obtain ⟨m, hm⟩ := SortedMap.mem_values.1 hv
    have hctl : (w.accepted n).control (.conn c) = w.control (.conn c) :=
      control_accepted fun he => ne_of_lt (h.key m c hm).2.created (Thread.conn.inj he)
    rw [hctl] at hs
    exact h.ended c hs hv

theorem tables_step (hK : Kernel w) (h : Tables w) (hs : w.step l = some w') : Tables w' := by
  cases l with
  | accept n =>
    simp only [step, Option.ite_none_right_eq_some, Option.some.injEq] at hs
    exact hs.2 ▸ tables_accept h
  | openOther n =>
    simp only [step, Option.ite_none_right_eq_some, Option.some.injEq] at hs
    exact hs.2 ▸ tables_congr h rfl rfl rfl rfl fun _ => rfl
  | closeOther n =>
    simp only [step, Option.ite_none_right_eq_some, Option.some.injEq] at hs
    exact hs.2 ▸ tables_congr h rfl rfl rfl rfl fun _ => rfl
  | destroy c =>
    obtain ⟨n, -, -, -, rfl⟩ := step_destroy hs
    refine tables_congr h rfl rfl rfl rfl fun d => ?_
    rw [conn_destroyed]
    split <;> rfl
  | thread t i =>
    obtain ⟨e, k, hm, rfl⟩ := step_move hs
    exact tables_thread hK h hm

/-- No removed connection is in the table. -/
def Gone (w : World) : Prop := ∀ c ∈ w.removed, c ∉ w.connections.values

theorem gone_thread (hK : Kernel w) (h : Tables w) (hg : Gone w)
    (hok : RemovesEntry w (.thread t i)) (hm : Move w i t e k) : Gone (w.apply e) := by
  intro c hc hv
  by_cases he : ∃ d, e = .register d
  · obtain ⟨d, rfl⟩ := he
    obtain ⟨rfl, hs, -⟩ := move_register hm
    obtain ⟨n, hn⟩ := SortedMap.mem_values.1 hv
    rcases SortedMap.get?_insert_eq_some.1 hn with ⟨-, rfl⟩ | ⟨-, hn⟩
    · exact (h.removed c hc).register hs
    · exact hg c hc (SortedMap.mem_values.2 ⟨n, hn⟩)
  · rcases removed_of_apply hc with hc | rfl
    · exact hg c hc (mem_values_of_apply (fun d h => he ⟨d, h⟩) hv)
    · exact (gone_iff hK h).2 (hok c (move_remove hm)) hv

theorem gone_step (hK : Kernel w) (h : Tables w) (hg : Gone w) (hok : RemovesEntry w l)
    (hs : w.step l = some w') : Gone w' := by
  cases l with
  | accept n | openOther n | closeOther n =>
    simp only [step, Option.ite_none_right_eq_some, Option.some.injEq] at hs
    exact hs.2 ▸ hg
  | destroy c =>
    obtain ⟨n, -, -, -, rfl⟩ := step_destroy hs
    exact hg
  | thread t i =>
    obtain ⟨e, k, hm, rfl⟩ := step_move hs
    exact gone_thread hK h hg hok hm

theorem gone_run (h : Run step RemovesEntry init ls w) : Gone w :=
  (h.invariant (I := fun w => (Kernel w ∧ Tables w) ∧ Gone w)
    ⟨⟨kernel_init, tables_init⟩, fun _ hc => by cases hc⟩ fun _ _ _ hI hok hs =>
    ⟨⟨kernel_step hI.1.1 hs, tables_step hI.1.1 hI.1.2 hs⟩,
      gone_step hI.1.1 hI.1.2 hI.2 hok hs⟩).2

/-- One entry at most for each running thread. -/
theorem entries_le_running (h : Tables w) (hg : Gone w) :
    w.connections.entries.length ≤ w.running.length := by
  have hnodup : w.connections.values.Nodup :=
    SortedMap.nodup_values fun n c hn => (h.key n c hn).1
  have hsub : w.connections.values ⊆ w.running := by
    intro c hc
    obtain ⟨n, hn⟩ := SortedMap.mem_values.1 hc
    refine List.mem_filter.2 ⟨List.mem_range.2 (h.key n c hn).2.created, decide_eq_true ?_⟩
    exact fun hs => hg c (h.ended c (.inr hs) hc) hc
  calc w.connections.entries.length = w.connections.values.length := (List.length_map ..).symm
    _ ≤ w.running.length := (List.subperm_of_subset hnodup hsub).length_le

theorem tables_run {ok : World → Step → Prop} (h : Run step ok init ls w) :
    Kernel w ∧ Tables w :=
  h.invariant (I := fun w => Kernel w ∧ Tables w) ⟨kernel_init, tables_init⟩
    fun _ _ _ hI _ hs => ⟨kernel_step hI.1 hs, tables_step hI.1 hI.2 hs⟩

/-- In every run, a call of `remove_connection(c)` takes `c` out of the table if and only if its
    entry was gone before or `socket_` is not reset yet. When every call does, removed
    connections stay out and the table is no longer than the list of running threads. -/
theorem removed_connections (ls : List Step) (w : World) :
    (∀ c l t, Run step anyStep init ls w → w.removing l = some c → w.step l = some t →
      (c ∉ t.connections.values ↔ (c ∈ w.connections.values → (w.conn c).socket ≠ none))) ∧
    (Run step RemovesEntry init ls w →
      Gone w ∧ w.connections.entries.length ≤ w.running.length) := by
  refine ⟨fun c l t h hr hs => ?_, fun h => ?_⟩
  · obtain ⟨hK, hT⟩ := tables_run h
    cases l with
    | thread t i =>
      obtain ⟨e, k, hm, rfl⟩ := step_move hs
      rw [effect_of_removing hr hm]
      exact gone_iff hK hT
    | _ => cases hr
  · exact ⟨gone_run h, entries_le_running (tables_run h).2 (gone_run h)⟩

/-- The peer goes away: the thread removes the entry under the number it still has. -/
theorem removed_connections_hangup :
    ∃ w, Run step RemovesEntry init (arrive 0 5 ++ steps 0 [.fail, .ok]) w ∧
      w.removed = [0] ∧ w.connections.entries = [] ∧ w.running = [0] ∧ Gone w := by
  have hrun : Run step RemovesEntry init (arrive 0 5 ++ steps 0 [.fail, .ok]) _ :=
    run_iff_exec.2 rfl
  exact ⟨_, hrun, rfl, rfl, rfl, ((removed_connections _ _).2 hrun).1⟩

/-- The peer sends a Close frame: `send_close` closes the socket, and the thread then erases the
    key -1. The thread ends, the entry stays. -/
theorem removed_entry_stays :
    ∃ t, exec step init
        (arrive 0 5 ++ steps 0 [.closeFrame, .ok, .ok, .ok, .ok, .ok, .ok]) = some t ∧
      t.removed = [0] ∧ t.connections.entries = [(5, 0)] ∧ t.running = [] ∧ ¬ Gone t := by
  refine ⟨_, rfl, rfl, rfl, rfl, fun h => ?_⟩
  exact h 0 (List.mem_cons_self ..) (List.mem_cons_self ..)

end World

end ChatApp.Gateway
