/-
  What one look at the pool does. `acquireLoop` hands out one connection, from the queue or a new
  one, or it waits; `places` counts what can be handed out, and only an invalid connection that is
  released or a new one beyond the maximum makes it larger without a notification.
-/
import Mathlib.Data.List.Basic
import ChatApp.DatabasePool.State

namespace ChatApp.DatabasePool

namespace Pool

variable {cfg : PoolConfig} {a : Answers} {s t : Pool} {n c : Nat}

/-- The connections in the queue, and those that may still be made. -/
def places (cfg : PoolConfig) (s : Pool) : Nat :=
  s.idle.length + (cfg.maxConnections.toNat - s.all.length)

/-- Nothing can be handed out. -/
theorem places_eq_zero :
    s.places cfg = 0 ↔ s.idle = [] ∧ cfg.maxConnections.toNat ≤ s.all.length := by
  rw [places, Nat.add_eq_zero_iff, List.length_eq_zero_iff, Nat.sub_eq_zero_iff_le]

/-! ## The queue -/

theorem length_le_erase (all : List Nat) (c : Nat) : all.length ≤ (all.erase c).length + 1 := by
  rw [List.length_erase]
  split <;> omega

/-- An invalid connection leaves the queue, and the vector loses one at most. -/
theorem takeIdle_spec {idle all idle' all' : List Nat} {o : Option Nat}
    (h : takeIdle a idle all = (o, idle', all')) :
    (∀ d ∈ o.toList ++ idle', d ∈ idle) ∧ (o = none → idle' = []) ∧ all'.length ≤ all.length ∧
      o.toList.length + idle'.length + all.length ≤ idle.length + all'.length := by
  induction idle generalizing all with
  | nil =>
    obtain ⟨rfl, rfl, rfl⟩ : o = none ∧ idle' = [] ∧ all' = all := by
      simpa [takeIdle, eq_comm] using h
    simp
  | cons c idle ih =>
    rw [takeIdle] at h
    split at h
    next =>
      obtain ⟨rfl, rfl, rfl⟩ : o = some c ∧ idle' = idle ∧ all' = all := by
        simpa [eq_comm] using h
      simp
      omega
    next =>
      obtain ⟨hmem, hnone, hle, hlength⟩ := ih h
      have herase := length_le_erase all c
      have hshort : (all.erase c).length ≤ all.length := List.erase_sublist.length_le
      refine ⟨fun d hd => List.mem_cons_of_mem c (hmem d hd), hnone, by omega, ?_⟩
      rw [List.length_cons]
      omega

/-- A look at the pool: a connection is handed out, or the call waits. -/
structure Looked (cfg : PoolConfig) (s t : Pool) (n : Nat) : Prop where
  idle : ∀ c ∈ t.idle, c ∈ s.idle
  made : s.made ≤ t.made
  isShutdown : t.isShutdown = s.isShutdown
  outcome : (t.held = s.held ∧ t.waiting = s.waiting ++ [n] ∧ t.idle = []) ∨
    ∃ c, t.held = s.held ++ [(n, c)] ∧ t.waiting = s.waiting ∧
      (c ∈ s.idle ∨ s.made ≤ c ∧ c < t.made) ∧ t.places cfg + 1 ≤ s.places cfg

theorem looked_acquireLoop : Looked cfg s (s.acquireLoop cfg a n) n := by
  unfold acquireLoop
  rcases htake : takeIdle a s.idle s.all with ⟨_ | c, idle, all⟩
  all_goals obtain ⟨hmem, hnone, hle, hlength⟩ := takeIdle_spec htake
  · obtain rfl := hnone rfl
    simp only [Option.toList_none, List.length_nil, Nat.zero_add] at hlength
    dsimp only
    split
    next hroom =>
      unfold createConnection
      by_cases hconnects : a.connects s.made = true
      · rw [if_pos hconnects]
        refine ⟨fun _ h => absurd h List.not_mem_nil, Nat.le_succ _, rfl, .inr ⟨s.made, rfl, rfl,
          .inr ⟨Nat.le_refl _, Nat.lt_succ_self _⟩, ?_⟩⟩
        show 0 + (_ - (all ++ [s.made]).length) + 1 ≤ s.idle.length + _
        rw [List.length_append, List.length_singleton]
        omega
      · rw [if_neg hconnects]
        exact ⟨fun _ h => absurd h List.not_mem_nil, Nat.le_succ _, rfl, .inl ⟨rfl, rfl, rfl⟩⟩
    next =>
      exact ⟨fun _ h => absurd h List.not_mem_nil, Nat.le_refl _, rfl, .inl ⟨rfl, rfl, rfl⟩⟩
  · refine ⟨fun d hd => hmem d (List.mem_append_right _ hd), Nat.le_refl _, rfl, .inr ⟨c, rfl, rfl,
      .inl (hmem c List.mem_cons_self), ?_⟩⟩
    show idle.length + (_ - all.length) + 1 ≤ s.idle.length + (_ - s.all.length)
    simp only [Option.toList_some, List.length_singleton] at hlength
    omega

/-- If connections can be made, a call waits only when there is no place. -/
theorem acquireLoop_waits (hconnects : ∀ i, a.connects i = true)
    (h : (s.acquireLoop cfg a n).held = s.held) : (s.acquireLoop cfg a n).places cfg = 0 := by
  have hne : ∀ d, s.held ++ [(n, d)] ≠ s.held := fun d heq => by simp at heq
  unfold acquireLoop at h ⊢
  rcases htake : takeIdle a s.idle s.all with ⟨_ | c, idle, all⟩
  all_goals
    rw [htake] at h
    obtain ⟨-, hnone, -, -⟩ := takeIdle_spec htake
  · obtain rfl := hnone rfl
    dsimp only at h ⊢
    split
    next hroom =>
      rw [if_pos hroom] at h
      unfold createConnection at h
      rw [if_pos (hconnects _)] at h
      exact absurd h (hne _)
    next hfull => exact places_eq_zero.2 ⟨rfl, Nat.not_lt.1 hfull⟩
  · exact absurd h (hne c)

/-! ## Upkeep -/

/-- What `init` and the cleanup do to the pool: connections leave the queue, and new ones come. -/
structure Upkept (s t : Pool) : Prop where
  idle : ∀ c ∈ t.idle, c ∈ s.idle ∨ s.made ≤ c ∧ c < t.made
  made : s.made ≤ t.made
  held : t.held = s.held
  waiting : t.waiting = s.waiting
  isShutdown : t.isShutdown = s.isShutdown

theorem Upkept.refl (s : Pool) : Upkept s s := ⟨fun _ => .inl, Nat.le_refl _, rfl, rfl, rfl⟩

theorem Upkept.trans {u : Pool} (h : Upkept s t) (h' : Upkept t u) : Upkept s u where
  idle c hc := by
    rcases h'.idle c hc with hc | ⟨hnew, hlt⟩
    · exact (h.idle c hc).imp_right fun ⟨hnew, hlt⟩ => ⟨hnew, Nat.lt_of_lt_of_le hlt h'.made⟩
    · exact .inr ⟨Nat.le_trans h.made hnew, hlt⟩
  made := Nat.le_trans h.made h'.made
  held := h'.held.trans h.held
  waiting := h'.waiting.trans h.waiting
  isShutdown := h'.isShutdown.trans h.isShutdown

/-- A connection is made, and comes into the queue if that succeeds. -/
theorem createConnection_upkept {o : Option Nat} (h : s.createConnection a = (o, t)) :
    Upkept s t ∧ t.idle = s.idle ∧ t.all = s.all ∧ ∀ c, o = some c → Upkept s (t.add c) := by
  unfold createConnection at h
  have hold : ∀ c ∈ s.idle, c ∈ s.idle ∨ s.made ≤ c ∧ c < s.made + 1 := fun c hc => .inl hc
  split at h
  all_goals obtain ⟨rfl, rfl⟩ := Prod.mk.inj h
  · refine ⟨⟨hold, Nat.le_succ _, rfl, rfl, rfl⟩, rfl, rfl, fun c hc => ?_⟩
    obtain rfl := Option.some.inj hc
    refine ⟨fun d hd => ?_, Nat.le_succ _, rfl, rfl, rfl⟩
    rcases List.mem_append.1 hd with hd | hd
    · exact .inl hd
    · obtain rfl := List.mem_singleton.1 hd
      exact .inr ⟨Nat.le_refl _, Nat.lt_succ_self _⟩
  · exact ⟨⟨hold, Nat.le_succ _, rfl, rfl, rfl⟩, rfl, rfl, nofun⟩

/-- `j` connections have come into the queue and the vector. -/
def Grown (s t : Pool) (j : Nat) : Prop :=
  t.idle.length = s.idle.length + j ∧ t.all.length = s.all.length + j

theorem grown_add {o : Option Nat} {c j : Nat} {u : Pool} (h : s.createConnection a = (o, t))
    (hj : Grown (t.add c) u j) : Grown s u (j + 1) := by
  obtain ⟨-, hidle, hall, -⟩ := createConnection_upkept h
  obtain ⟨hj, hj'⟩ := hj
  simp only [add, hidle, hall, List.length_append, List.length_singleton] at hj hj'
  exact ⟨by omega, by omega⟩

theorem createInitial_spec {k : Nat} :
    Upkept s (createInitial a k s) ∧ ∃ j ≤ k, Grown s (createInitial a k s) j := by
  induction k generalizing s with
  | zero => exact ⟨.refl s, 0, Nat.le_refl 0, rfl, rfl⟩
  | succ k ih =>
    rw [createInitial]
    rcases hc : s.createConnection a with ⟨_ | c, t⟩
    all_goals obtain ⟨hkept, hidle, hall, hadd⟩ := createConnection_upkept hc
    · obtain ⟨hrest, j, hj, hgrown⟩ := ih (s := t)
      refine ⟨hkept.trans hrest, j, Nat.le_succ_of_le hj, ?_⟩
      rwa [Grown, hidle, hall] at hgrown
    · obtain ⟨hrest, j, hj, hgrown⟩ := ih (s := t.add c)
      exact ⟨(hadd c rfl).trans hrest, j + 1, Nat.succ_le_succ hj, grown_add hc hgrown⟩

theorem ensureMinimum_spec {k : Nat} :
    Upkept s (ensureMinimum a k s) ∧ ∃ j ≤ k, Grown s (ensureMinimum a k s) j := by
  induction k generalizing s with
  | zero => exact ⟨.refl s, 0, Nat.le_refl 0, rfl, rfl⟩
  | succ k ih =>
    rw [ensureMinimum]
    rcases hc : s.createConnection a with ⟨_ | c, t⟩
    all_goals obtain ⟨hkept, hidle, hall, hadd⟩ := createConnection_upkept hc
    · exact ⟨hkept, 0, Nat.zero_le _, by rw [hidle]; rfl, by rw [hall]; rfl⟩
    · obtain ⟨hrest, j, hj, hgrown⟩ := ih (s := t.add c)
      exact ⟨(hadd c rfl).trans hrest, j + 1, Nat.succ_le_succ hj, grown_add hc hgrown⟩

/-- What is removed from the queue leaves at least the minimum in the vector. -/
theorem sweep_spec (cfg : PoolConfig) (a : Answers) (s : Pool) (idle all : List Nat) :
    (∀ d ∈ (s.sweep cfg a idle all).1, d ∈ idle) ∧
      (s.sweep cfg a idle all).2.length ≤ all.length ∧
      (s.sweep cfg a idle all).1.length + all.length ≤
        idle.length + (s.sweep cfg a idle all).2.length ∧
      cfg.minConnections.toNat - (s.sweep cfg a idle all).2.length =
        cfg.minConnections.toNat - all.length := by
  induction idle generalizing all with
  | nil => simp [sweep]
  | cons c idle ih =>
    rw [sweep]
    split
    next hold =>
      obtain ⟨hmem, hle, hlength, hmin⟩ := ih (all.erase c)
      have herase := length_le_erase all c
      have hshort : (all.erase c).length ≤ all.length := List.erase_sublist.length_le
      refine ⟨fun d hd => List.mem_cons_of_mem c (hmem d hd), by omega, ?_, by omega⟩
      rw [List.length_cons]
      omega
    next =>
      obtain ⟨hmem, hle, hlength, hmin⟩ := ih all
      refine ⟨fun d hd => ?_, hle, ?_, hmin⟩
      · rcases List.mem_cons.1 hd with rfl | hd
        · exact List.mem_cons_self
        · exact List.mem_cons_of_mem c (hmem d hd)
      · simp only [List.length_cons]
        omega

/-- How many of `k` new connections exceed the maximum. -/
def excess (cfg : PoolConfig) (s : Pool) (k : Nat) : Nat :=
  k - (cfg.maxConnections.toNat - s.all.length)

theorem cleanup_upkept : Upkept s (s.cleanupIdleConnections cfg a) := by
  unfold cleanupIdleConnections
  split
  next => exact .refl s
  next =>
    obtain ⟨hmem, -⟩ := sweep_spec cfg a s s.idle s.all
    have hswept : Upkept s { s with
        idle := (s.sweep cfg a s.idle s.all).1, all := (s.sweep cfg a s.idle s.all).2 } :=
      ⟨fun c hc => .inl (hmem c hc), Nat.le_refl _, rfl, rfl, rfl⟩
    exact hswept.trans ensureMinimum_spec.1

theorem cleanup_places : (s.cleanupIdleConnections cfg a).places cfg ≤
    s.places cfg + s.excess cfg (cfg.minConnections.toNat - s.all.length) := by
  unfold cleanupIdleConnections
  split
  next => exact Nat.le_add_right _ _
  next =>
    obtain ⟨-, hle, hlength, hmin⟩ := sweep_spec cfg a s s.idle s.all
    dsimp only
    rw [hmin]
    obtain ⟨-, j, hj, hidle, hall⟩ := ensureMinimum_spec (a := a)
      (k := cfg.minConnections.toNat - s.all.length) (s := { s with
        idle := (s.sweep cfg a s.idle s.all).1, all := (s.sweep cfg a s.idle s.all).2 })
    simp only [places, excess, hidle, hall] at *
    omega

theorem init_upkept : Upkept s (s.init cfg a).2 := by
  unfold Pool.init
  split
  next => exact .refl s
  next =>
    split
    next => exact .refl s
    next =>
      dsimp only
      split
      next => exact createInitial_spec.1
      next => exact { createInitial_spec.1 with }

theorem init_places : (s.init cfg a).2.places cfg ≤
    s.places cfg + s.excess cfg cfg.minConnections.toNat := by
  have hgrown : ∀ t : Pool, (∃ j ≤ cfg.minConnections.toNat, Grown s t j) →
      t.places cfg ≤ s.places cfg + s.excess cfg cfg.minConnections.toNat := by
    rintro t ⟨j, hj, hidle, hall⟩
    simp only [places, excess, hidle, hall]
    omega
  unfold Pool.init
  split
  next => exact Nat.le_add_right _ _
  next =>
    split
    next => exact Nat.le_add_right _ _
    next =>
      dsimp only
      split
      next => exact hgrown _ createInitial_spec.2
      next => exact hgrown _ createInitial_spec.2

end Pool

end ChatApp.DatabasePool
