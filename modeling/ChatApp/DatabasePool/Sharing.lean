/-
  No connection is shared. `Sound` is kept by every critical section before the shutdown; the number
  of connections stays within its maximum unless `init` runs when others have already made some, as
  its loop does not look at how many there are.
-/
import Mathlib.Data.List.Induction
import Mathlib.Data.List.Nodup
import ChatApp.DatabasePool.State

namespace ChatApp.DatabasePool

open ChatApp.Lib

namespace Pool

variable {cfg : PoolConfig} {a : Answers} {s t : Pool} {n c : Nat}

/-- The queue, the vector and the flags agree, and what calls hold is in use. -/
structure Sound (s : Pool) : Prop where
  idle_nodup : s.idle.Nodup
  idle_subset : ∀ c ∈ s.idle, c ∈ s.all
  all_nodup : s.all.Nodup
  idle_iff : ∀ c ∈ s.all, c ∈ s.idle ↔ s.inUse c = false
  made : ∀ c ∈ s.all, c < s.made
  held_nodup : (s.held.map Prod.snd).Nodup
  held_all : ∀ c ∈ s.held.map Prod.snd, c ∈ s.all ∧ s.inUse c = true
  balance : s.totalAcquires = s.totalReleases + s.held.length

theorem sound_start : Sound .start :=
  ⟨List.nodup_nil, nofun, List.nodup_nil, nofun, nofun, List.nodup_nil, nofun, rfl⟩

/-! ## Connections that are removed -/

/-- What is removed from the front of the queue is removed from the vector. -/
structure Trims (idle all idle' all' : List Nat) : Prop where
  queue : idle'.Sublist idle
  vector : all'.Sublist all
  kept : ∀ d ∈ all, d ∈ all' ↔ d ∈ idle' ∨ d ∉ idle

section
variable {idle all idle' all' : List Nat}

theorem Trims.refl : Trims idle all idle all :=
  ⟨.refl _, .refl _, fun _ hd => ⟨fun _ => Decidable.em _, fun _ => hd⟩⟩

theorem Trims.drop (hc : (c :: idle).Nodup) (hall : all.Nodup)
    (h : Trims idle (all.erase c) idle' all') : Trims (c :: idle) all idle' all' := by
  have hfresh : c ∉ idle := (List.nodup_cons.1 hc).1
  refine ⟨h.queue.trans (List.sublist_cons_self c idle), h.vector.trans List.erase_sublist,
    fun d hd => ?_⟩
  by_cases hdc : d = c
  · subst hdc
    constructor
    · exact fun hmem => absurd (h.vector.subset hmem) hall.not_mem_erase
    · rintro (hmem | hnot)
      · exact absurd (h.queue.subset hmem) hfresh
      · exact absurd List.mem_cons_self hnot
  · rw [h.kept d ((List.mem_erase_of_ne hdc).2 hd), List.mem_cons, not_or]
    simp [hdc]

theorem Trims.keep (hc : (c :: idle).Nodup) (h : Trims idle all idle' all') :
    Trims (c :: idle) all (c :: idle') all' := by
  refine ⟨h.queue.cons_cons c, h.vector, fun d hd => ?_⟩
  rw [h.kept d hd, List.mem_cons, List.mem_cons, not_or]
  by_cases hdc : d = c
  · subst hdc
    simp [(List.nodup_cons.1 hc).1]
  · simp [hdc]

/-- The rest of the queue, with the connection that is taken. -/
theorem takeIdle_trims (a : Answers) {o : Option Nat} (hidle : idle.Nodup) (hall : all.Nodup)
    (h : takeIdle a idle all = (o, idle', all')) : Trims idle all (o.toList ++ idle') all' := by
  induction idle generalizing all with
  | nil =>
    obtain ⟨rfl, rfl, rfl⟩ : o = none ∧ idle' = [] ∧ all' = all := by
      simpa [takeIdle, eq_comm] using h
    exact .refl
  | cons c idle ih =>
    rw [takeIdle] at h
    split at h
    next =>
      obtain ⟨rfl, rfl, rfl⟩ : o = some c ∧ idle' = idle ∧ all' = all := by
        simpa [eq_comm] using h
      exact .refl
    next => exact .drop hidle hall (ih hidle.of_cons (hall.erase c) h)

theorem sweep_trims (cfg : PoolConfig) (a : Answers) (s : Pool) (hidle : idle.Nodup)
    (hall : all.Nodup) :
    Trims idle all (s.sweep cfg a idle all).1 (s.sweep cfg a idle all).2 := by
  induction idle generalizing all with
  | nil => exact .refl
  | cons c idle ih =>
    rw [sweep]
    split
    next => exact .drop hidle hall (ih hidle.of_cons (hall.erase c))
    next => exact .keep hidle (ih hidle.of_cons hall)

theorem Sound.trims (h : Sound s) (ht : Trims s.idle s.all idle' all') :
    Sound { s with idle := idle', all := all' } where
  idle_nodup := h.idle_nodup.sublist ht.queue
  idle_subset d hd :=
    (ht.kept d (h.idle_subset d (ht.queue.subset hd))).2 (.inl hd)
  all_nodup := h.all_nodup.sublist ht.vector
  idle_iff d hd := by
    have hall := ht.vector.subset hd
    have hkept := (ht.kept d hall).1 hd
    constructor
    · exact fun hmem => (h.idle_iff d hall).1 (ht.queue.subset hmem)
    · exact fun hfree => hkept.resolve_right fun hnot => hnot ((h.idle_iff d hall).2 hfree)
  made d hd := h.made d (ht.vector.subset hd)
  held_nodup := h.held_nodup
  held_all d hd := by
    obtain ⟨hall, huse⟩ := h.held_all d hd
    refine ⟨(ht.kept d hall).2 (.inr fun hmem => ?_), huse⟩
    exact Bool.false_ne_true (((h.idle_iff d hall).1 hmem).symm.trans huse)
  balance := h.balance

end

/-! ## Connections that are made and handed out -/

theorem nodup_snoc {cs : List Nat} (h : cs.Nodup) (hc : c ∉ cs) : (cs ++ [c]).Nodup := by
  rw [← List.concat_eq_append]
  exact h.concat hc

theorem createConnection_eqs {o : Option Nat} (hc : s.createConnection a = (o, t)) :
    t.all = s.all ∧ t.made = s.made + 1 ∧ o.isSome = a.connects s.made := by
  unfold createConnection at hc
  split at hc
  next hconnects =>
    obtain ⟨rfl, rfl⟩ := Prod.mk.inj hc
    exact ⟨rfl, rfl, hconnects.symm⟩
  next hconnects =>
    obtain ⟨rfl, rfl⟩ := Prod.mk.inj hc
    exact ⟨rfl, rfl, (Bool.not_eq_true _ ▸ hconnects).symm⟩

theorem createConnection_sound (h : Sound s) {o : Option Nat} (hc : s.createConnection a = (o, t)) :
    Sound t ∧ ∀ c, o = some c → c ∉ t.all ∧ c < t.made ∧ t.inUse c = false := by
  have hfresh : s.made ∉ s.all := fun hmem => Nat.lt_irrefl _ (h.made _ hmem)
  have hother : ∀ d ∈ s.all, Function.update s.inUse s.made false d = s.inUse d := fun d hd =>
    Function.update_of_ne (fun heq : d = s.made => hfresh (heq ▸ hd)) _ _
  have hsound : ∀ errors, Sound { (s.setInUse s.made false).touch s.made a.now with
      made := s.made + 1, connectionErrors := errors } := fun errors =>
    { idle_nodup := h.idle_nodup
      idle_subset := h.idle_subset
      all_nodup := h.all_nodup
      idle_iff := fun d hd => (h.idle_iff d hd).trans (Eq.congr_left (hother d hd)).symm
      made := fun d hd => Nat.lt_succ_of_lt (h.made d hd)
      held_nodup := h.held_nodup
      held_all := fun d hd =>
        ⟨(h.held_all d hd).1, (hother d (h.held_all d hd).1).trans (h.held_all d hd).2⟩
      balance := h.balance }
  unfold createConnection at hc
  split at hc
  next =>
    obtain ⟨rfl, rfl⟩ := Prod.mk.inj hc
    refine ⟨hsound _, fun c heq => ?_⟩
    obtain rfl := Option.some.inj heq
    exact ⟨hfresh, Nat.lt_succ_self _, Function.update_self _ _ _⟩
  next =>
    obtain ⟨rfl, rfl⟩ := Prod.mk.inj hc
    exact ⟨hsound _, nofun⟩

theorem Sound.add (h : Sound s) (hc : c ∉ s.all) (hmade : c < s.made) (hfree : s.inUse c = false) :
    Sound (s.add c) where
  idle_nodup := nodup_snoc h.idle_nodup fun hmem => hc (h.idle_subset c hmem)
  idle_subset d hd := by
    rcases List.mem_append.1 hd with hd | hd
    · exact List.mem_append_left _ (h.idle_subset d hd)
    · exact List.mem_append_right _ hd
  all_nodup := nodup_snoc h.all_nodup hc
  idle_iff d hd := by
    show d ∈ s.idle ++ [c] ↔ s.inUse d = false
    rw [List.mem_append, List.mem_singleton]
    rcases List.mem_append.1 hd with hold | hold
    · rw [← h.idle_iff d hold]
      refine ⟨fun h' => h'.resolve_right ?_, .inl⟩
      rintro rfl
      exact hc hold
    · rw [List.mem_singleton.1 hold]
      exact ⟨fun _ => hfree, fun _ => .inr rfl⟩
  made d hd := by
    rcases List.mem_append.1 hd with hd | hd
    · exact h.made d hd
    · exact List.mem_singleton.1 hd ▸ hmade
  held_nodup := h.held_nodup
  held_all d hd := ⟨List.mem_append_left _ (h.held_all d hd).1, (h.held_all d hd).2⟩
  balance := h.balance

/-- A connection that is in the vector, and neither held nor idle any more, is handed out. -/
theorem Sound.handOut {idle all : List Nat} {lastUsed : Nat → Int} (h : Sound s)
    (hidle : idle.Nodup) (hall : all.Nodup) (hmem : c ∈ all) (hmade : c < s.made)
    (hheld : c ∉ s.held.map Prod.snd) (hkept : ∀ d, d ≠ c → (d ∈ all ↔ d ∈ s.all))
    (hrest : ∀ d, d ∈ idle ↔ d ≠ c ∧ d ∈ s.idle) :
    Sound ({ s with idle := idle, all := all, lastUsed := lastUsed }.handOut n c) := by
  have huse : ∀ d, d ≠ c → Function.update s.inUse c true d = s.inUse d := fun d hd =>
    Function.update_of_ne hd _ _
  refine ⟨hidle, fun d hd => ?_, hall, fun d hd => ?_, fun d hd => ?_, ?_, fun d hd => ?_, ?_⟩
  · obtain ⟨hne, hd⟩ := (hrest d).1 hd
    exact (hkept d hne).2 (h.idle_subset d hd)
  · show d ∈ idle ↔ Function.update s.inUse c true d = false
    by_cases hdc : d = c
    · subst hdc
      rw [hrest, Function.update_self]
      simp
    · rw [hrest, huse d hdc, h.idle_iff d ((hkept d hdc).1 hd)]
      simp [hdc]
  · by_cases hdc : d = c
    · exact hdc ▸ hmade
    · exact h.made d ((hkept d hdc).1 hd)
  · show ((s.held ++ [(n, c)]).map Prod.snd).Nodup
    rw [List.map_append]
    exact nodup_snoc h.held_nodup hheld
  · show d ∈ all ∧ Function.update s.inUse c true d = true
    by_cases hdc : d = c
    · subst hdc
      exact ⟨hmem, Function.update_self _ _ _⟩
    · have hold : d ∈ s.held.map Prod.snd := by
        have hd' : d ∈ (s.held ++ [(n, c)]).map Prod.snd := hd
        rw [List.map_append, List.mem_append] at hd'
        exact hd'.resolve_right fun hd' => hdc (List.mem_singleton.1 hd')
      exact ⟨(hkept d hdc).2 (h.held_all d hold).1, (huse d hdc).trans (h.held_all d hold).2⟩
  · show s.totalAcquires + 1 = s.totalReleases + (s.held ++ [(n, c)]).length
    rw [h.balance, List.length_append]
    rfl

/-- The front of the queue is handed out. -/
theorem Sound.handOut_idle {idle : List Nat} {lastUsed : Nat → Int} (h : Sound s)
    (hidle : s.idle = c :: idle) :
    Sound ({ s with idle := idle, lastUsed := lastUsed }.handOut n c) := by
  have hnodup : (c :: idle).Nodup := hidle ▸ h.idle_nodup
  have hmem : c ∈ s.idle := hidle ▸ List.mem_cons_self
  have hall := h.idle_subset c hmem
  have hfresh : c ∉ idle := (List.nodup_cons.1 hnodup).1
  refine h.handOut hnodup.of_cons h.all_nodup hall (h.made c hall) (fun hheld => ?_)
    (fun _ _ => .rfl) fun d => ?_
  · have hfree := (h.idle_iff c hall).1 hmem
    exact Bool.false_ne_true (hfree.symm.trans (h.held_all c hheld).2)
  · rw [hidle, List.mem_cons]
    constructor
    · intro hd
      refine ⟨?_, .inr hd⟩
      rintro rfl
      exact hfresh hd
    · rintro ⟨hne, hd⟩
      exact hd.resolve_left hne

/-- A new connection is handed out. -/
theorem Sound.handOut_new (h : Sound s) (hc : c ∉ s.all) (hmade : c < s.made) :
    Sound ({ s with all := s.all ++ [c] }.handOut n c) := by
  refine h.handOut h.idle_nodup (nodup_snoc h.all_nodup hc) (by simp) hmade
    (fun hheld => ?_) (fun d hd => by simp [hd]) fun d => ?_
  · exact hc (h.held_all c hheld).1
  · refine ⟨fun hd => ⟨?_, hd⟩, And.right⟩
    rintro rfl
    exact hc (h.idle_subset _ hd)

/-! ## Operations -/

theorem createInitial_length {k : Nat} :
    (createInitial a k s).all.length =
      s.all.length + (List.range' s.made k).countP a.connects := by
  induction k generalizing s with
  | zero => rfl
  | succ k ih =>
    rw [createInitial, List.range'_succ, List.countP_cons]
    rcases hc : s.createConnection a with ⟨_ | c, t⟩
    all_goals
      obtain ⟨hall, hmade, hconnects⟩ := createConnection_eqs hc
      rw [← hconnects, ← hmade]
    · refine ih.trans ?_
      simp [hall]
    · refine ih.trans ?_
      simp only [add, hall, List.length_append, List.length_singleton, Option.isSome_some, if_true]
      omega

theorem createInitial_sound {k : Nat} (h : Sound s) : Sound (createInitial a k s) := by
  induction k generalizing s with
  | zero => exact h
  | succ k ih =>
    rw [createInitial]
    rcases hc : s.createConnection a with ⟨_ | c, t⟩
    all_goals obtain ⟨ht, hnew⟩ := createConnection_sound h hc
    · exact ih ht
    · obtain ⟨hfresh, hmade, hfree⟩ := hnew c rfl
      exact ih (ht.add hfresh hmade hfree)

theorem ensureMinimum_length {k : Nat} : (ensureMinimum a k s).all.length ≤ s.all.length + k := by
  induction k generalizing s with
  | zero => exact Nat.le_refl _
  | succ k ih =>
    rw [ensureMinimum]
    rcases hc : s.createConnection a with ⟨_ | c, t⟩
    all_goals obtain ⟨hall, -, -⟩ := createConnection_eqs hc
    · exact hall ▸ Nat.le_add_right _ _
    · refine Nat.le_trans ih ?_
      simp only [add, hall, List.length_append, List.length_singleton]
      omega

theorem ensureMinimum_sound {k : Nat} (h : Sound s) : Sound (ensureMinimum a k s) := by
  induction k generalizing s with
  | zero => exact h
  | succ k ih =>
    rw [ensureMinimum]
    rcases hc : s.createConnection a with ⟨_ | c, t⟩
    all_goals obtain ⟨ht, hnew⟩ := createConnection_sound h hc
    · exact ht
    · obtain ⟨hfresh, hmade, hfree⟩ := hnew c rfl
      exact ih (ht.add hfresh hmade hfree)

theorem acquireLoop_sound (h : Sound s) : Sound (s.acquireLoop cfg a n) := by
  unfold acquireLoop
  rcases htake : takeIdle a s.idle s.all with ⟨_ | c, idle, all⟩
  all_goals have ht := h.trims (takeIdle_trims a h.idle_nodup h.all_nodup htake)
  · dsimp only
    split
    next =>
      rcases hc : createConnection a { s with idle := idle, all := all } with ⟨_ | c, u⟩
      all_goals obtain ⟨hu, hnew⟩ := createConnection_sound ht hc
      · exact { hu with }
      · exact hu.handOut_new (hnew c rfl).1 (hnew c rfl).2.1
    next => exact { ht with }
  · exact ht.handOut_idle rfl

theorem acquireLoop_length (h : s.all.length ≤ cfg.maxConnections.toNat) (hs : Sound s) :
    (s.acquireLoop cfg a n).all.length ≤ cfg.maxConnections.toNat := by
  unfold acquireLoop
  rcases htake : takeIdle a s.idle s.all with ⟨_ | c, idle, all⟩
  all_goals
    have hlength : all.length ≤ cfg.maxConnections.toNat :=
      Nat.le_trans (takeIdle_trims a hs.idle_nodup hs.all_nodup htake).vector.length_le h
  · dsimp only
    split
    next hroom =>
      rcases hc : createConnection a { s with idle := idle, all := all } with ⟨_ | c, u⟩
      all_goals obtain ⟨hall, -, -⟩ := createConnection_eqs hc
      · exact hall ▸ hlength
      · show (u.all ++ [c]).length ≤ _
        rw [hall, List.length_append]
        exact hroom
    next => exact hlength
  · exact hlength

/-- What is held without a connection that is given back. -/
theorem held_erase {held : List (Nat × Nat)} (h : (held.map Prod.snd).Nodup)
    (hheld : (n, c) ∈ held) :
    ((held.erase (n, c)).map Prod.snd).Nodup ∧ c ∉ (held.erase (n, c)).map Prod.snd ∧
      held.length = (held.erase (n, c)).length + 1 := by
  have hperm := List.perm_cons_erase hheld
  have hnodup : (c :: (held.erase (n, c)).map Prod.snd).Nodup :=
    (hperm.map Prod.snd).nodup_iff.1 h
  obtain ⟨hfresh, hrest⟩ := List.nodup_cons.1 hnodup
  exact ⟨hrest, hfresh, hperm.length_eq⟩

theorem Sound.release (h : Sound s) (hopen : s.isShutdown = false) (hheld : (n, c) ∈ s.held) :
    Sound (s.release a n c) ∧ (s.release a n c).all.length ≤ s.all.length := by
  obtain ⟨hnodup, hfresh, hlength⟩ := held_erase h.held_nodup hheld
  obtain ⟨hmem, huse⟩ := h.held_all c (List.mem_map_of_mem hheld)
  have hidle : c ∉ s.idle := fun hc =>
    Bool.false_ne_true (((h.idle_iff c hmem).1 hc).symm.trans huse)
  have hother : ∀ d, d ≠ c → Function.update s.inUse c false d = s.inUse d := fun d hd =>
    Function.update_of_ne hd _ _
  have hrest : ∀ d ∈ (s.held.erase (n, c)).map Prod.snd, d ≠ c ∧ d ∈ s.held.map Prod.snd := by
    intro d hd
    refine ⟨?_, (List.erase_sublist.map Prod.snd).subset hd⟩
    rintro rfl
    exact hfresh hd
  have hbalance : s.totalAcquires = s.totalReleases + 1 + (s.held.erase (n, c)).length := by
    have := h.balance
    omega
  have hinUse : ∀ d ∈ (s.held.erase (n, c)).map Prod.snd,
      Function.update s.inUse c false d = true := by
    intro d hd
    obtain ⟨hne, hold⟩ := hrest d hd
    exact (hother d hne).trans (h.held_all d hold).2
  unfold Pool.release
  dsimp only
  rw [hopen, if_neg Bool.false_ne_true]
  split
  next =>
    refine ⟨⟨nodup_snoc h.idle_nodup hidle, fun d hd => ?_, h.all_nodup, fun d hd => ?_, h.made,
      hnodup, fun d hd => ⟨(h.held_all d (hrest d hd).2).1, hinUse d hd⟩, hbalance⟩, Nat.le_refl _⟩
    · rcases List.mem_append.1 hd with hd | hd
      · exact h.idle_subset d hd
      · exact List.mem_singleton.1 hd ▸ hmem
    · show d ∈ s.idle ++ [c] ↔ Function.update s.inUse c false d = false
      rw [List.mem_append, List.mem_singleton]
      by_cases hdc : d = c
      · simp [hdc]
      · rw [hother d hdc, h.idle_iff d hd]
        simp [hdc]
  next =>
    have hne : ∀ d ∈ s.all.erase c, d ≠ c := by
      rintro d hd rfl
      exact h.all_nodup.not_mem_erase hd
    refine ⟨⟨h.idle_nodup, fun d hd => ?_, h.all_nodup.erase c, fun d hd => ?_,
      fun d hd => h.made d (List.mem_of_mem_erase hd), hnodup, fun d hd => ?_, hbalance⟩,
      List.erase_sublist.length_le⟩
    · refine (List.mem_erase_of_ne ?_).2 (h.idle_subset d hd)
      rintro rfl
      exact hidle hd
    · exact (h.idle_iff d (List.mem_of_mem_erase hd)).trans
        (Eq.congr_left (hother d (hne d hd))).symm
    · obtain ⟨hdc, hold⟩ := hrest d hd
      exact ⟨(List.mem_erase_of_ne hdc).2 (h.held_all d hold).1, hinUse d hd⟩

theorem Sound.tryAcquire (h : Sound s) :
    Sound (s.tryAcquire a n) ∧ (s.tryAcquire a n).all.length ≤ s.all.length := by
  unfold Pool.tryAcquire
  split
  next => exact ⟨h, Nat.le_refl _⟩
  next =>
    rcases hidle : s.idle with _ | ⟨c, idle⟩
    · exact ⟨h, Nat.le_refl _⟩
    · dsimp only
      split
      next => exact ⟨h.handOut_idle hidle, Nat.le_refl _⟩
      next =>
        have ht : Trims s.idle s.all idle (s.all.erase c) := by
          rw [hidle]
          exact .drop (hidle ▸ h.idle_nodup) h.all_nodup .refl
        exact ⟨h.trims ht, ht.vector.length_le⟩

theorem Sound.cleanup (h : Sound s) (hmin : cfg.minConnections ≤ cfg.maxConnections)
    (hlength : s.all.length ≤ cfg.maxConnections.toNat) :
    Sound (s.cleanupIdleConnections cfg a) ∧
      (s.cleanupIdleConnections cfg a).all.length ≤ cfg.maxConnections.toNat := by
  unfold cleanupIdleConnections
  split
  next => exact ⟨h, hlength⟩
  next =>
    have ht := sweep_trims cfg a s h.idle_nodup h.all_nodup
    refine ⟨ensureMinimum_sound (h.trims ht), Nat.le_trans ensureMinimum_length ?_⟩
    have hkept := ht.vector.length_le
    have hle : cfg.minConnections.toNat ≤ cfg.maxConnections.toNat := UInt64.le_iff_toNat_le.1 hmin
    dsimp only
    omega

theorem Sound.init (h : Sound s) (hroom : s.initialized = false → a.library = true →
    s.all.length + (List.range' s.made cfg.minConnections.toNat).countP a.connects ≤
      cfg.maxConnections.toNat) (hlength : s.all.length ≤ cfg.maxConnections.toNat) :
    Sound (s.init cfg a).2 ∧ (s.init cfg a).2.all.length ≤ cfg.maxConnections.toNat := by
  unfold Pool.init
  split
  next => exact ⟨h, hlength⟩
  next hnew =>
    split
    next => exact ⟨h, hlength⟩
    next hlibrary =>
      have hle : (createInitial a cfg.minConnections.toNat s).all.length ≤
          cfg.maxConnections.toNat := by
        rw [createInitial_length]
        exact hroom (Bool.not_eq_true _ ▸ hnew) (by simpa using hlibrary)
      dsimp only
      split
      next => exact ⟨createInitial_sound h, hle⟩
      next => exact ⟨{ createInitial_sound h with }, hle⟩

theorem createInitial_isShutdown {k : Nat} :
    (createInitial a k s).isShutdown = s.isShutdown := by
  induction k generalizing s with
  | zero => rfl
  | succ k ih =>
    rw [createInitial]
    by_cases hc : a.connects s.made <;> simp only [createConnection, hc] <;> exact ih

end Pool

/-! ## Runs -/

/-- What `DatabasePool` promises: the queue and the vector have no duplicates, the vector is
    bounded, a connection is idle if it is not in use, and held by one call at most, and the
    statistics are right. -/
structure Intact (cfg : PoolConfig) (s : Pool) : Prop where
  idle_nodup : s.idle.Nodup
  idle_subset : ∀ c ∈ s.idle, c ∈ s.all
  all_nodup : s.all.Nodup
  bounded : s.all.length ≤ cfg.maxConnections.toNat
  idle_iff : ∀ c ∈ s.all, c ∈ s.idle ↔ s.inUse c = false
  held_nodup : (s.held.map Prod.snd).Nodup
  used : s.getStats.usedConnections.toNat = s.usedSize
  idle_le : s.getStats.idleConnections ≤ s.getStats.totalConnections
  balance : s.totalAcquires = s.totalReleases + s.held.length

/-- `init` has room for the connections that it makes. -/
def Roomy (cfg : PoolConfig) (s : Pool) : Label → Prop
  | .init a => s.isShutdown = false → s.initialized = false → a.library = true →
    s.all.length + (List.range' s.made cfg.minConnections.toNat).countP a.connects ≤
      cfg.maxConnections.toNat
  | _ => True

/-- What is kept until the shutdown. -/
def Kept (cfg : PoolConfig) (s : Pool) : Prop :=
  s.isShutdown = false → s.Sound ∧ s.all.length ≤ cfg.maxConnections.toNat

variable {cfg : PoolConfig} {s t : Pool} {l : Label}

theorem Pool.Sound.usedSize (h : s.Sound) : s.usedSize + s.idle.length = s.all.length := by
  have hperm : (s.all.filter fun c => !s.inUse c).Perm s.idle := by
    refine (List.perm_ext_iff_of_nodup (h.all_nodup.filter _) h.idle_nodup).2 fun c => ?_
    rw [List.mem_filter, Bool.not_eq_true']
    constructor
    · exact fun hc => (h.idle_iff c hc.1).2 hc.2
    · exact fun hc => ⟨h.idle_subset c hc, (h.idle_iff c (h.idle_subset c hc)).1 hc⟩
  rw [← hperm.length_eq, ← List.countP_eq_length_filter, Pool.usedSize]
  simpa only [Bool.not_eq_true, Bool.decide_eq_false] using
    (List.length_eq_countP_add_countP s.inUse).symm

theorem intact_of_sound (h : s.Sound) (hlength : s.all.length ≤ cfg.maxConnections.toNat) :
    Intact cfg s := by
  have hused := h.usedSize
  have hall : s.all.length < 2 ^ 64 := Nat.lt_of_le_of_lt hlength cfg.maxConnections.toNat_lt
  have hidle : s.idle.length < 2 ^ 64 := by omega
  have hle : UInt64.ofNat s.idle.length ≤ UInt64.ofNat s.all.length := by
    rw [UInt64.le_iff_toNat_le, UInt64.toNat_ofNat_of_lt' hidle, UInt64.toNat_ofNat_of_lt' hall]
    omega
  refine ⟨h.idle_nodup, h.idle_subset, h.all_nodup, hlength, h.idle_iff, h.held_nodup, ?_, hle,
    h.balance⟩
  show (UInt64.ofNat s.all.length - UInt64.ofNat s.idle.length).toNat = s.usedSize
  rw [UInt64.toNat_sub_of_le _ _ hle, UInt64.toNat_ofNat_of_lt' hidle,
    UInt64.toNat_ofNat_of_lt' hall]
  omega

/-- The shutdown lasts. -/
theorem step_isShutdown (h : step cfg s l = some t) (hs : s.isShutdown = true) :
    t.isShutdown = true := by
  cases l with
  | init a =>
    obtain rfl := Option.some.inj h
    unfold Pool.init
    split
    · exact hs
    split
    · exact hs
    dsimp only
    split <;> exact Pool.createInitial_isShutdown.trans hs
  | acquire n a =>
    obtain rfl := Option.some.inj h
    simp [Pool.acquire, hs]
  | resume n a =>
    obtain ⟨-, h⟩ := Option.ite_none_right_eq_some.1 h
    obtain rfl := Option.some.inj h
    simp [Pool.resume, hs]
  | timeOut n =>
    obtain ⟨-, h⟩ := Option.ite_none_right_eq_some.1 h
    exact Option.some.inj h ▸ hs
  | tryAcquire n a =>
    obtain rfl := Option.some.inj h
    simp [Pool.tryAcquire, hs]
  | release n c a =>
    obtain ⟨-, h⟩ := Option.ite_none_right_eq_some.1 h
    obtain rfl := Option.some.inj h
    simp [Pool.release, hs]
  | cleanup a =>
    obtain rfl := Option.some.inj h
    simp [Pool.cleanupIdleConnections, hs]
  | shutdown => exact Option.some.inj h ▸ rfl
  | clear =>
    obtain ⟨-, h⟩ := Option.ite_none_right_eq_some.1 h
    exact Option.some.inj h ▸ hs

theorem kept_step (hmin : cfg.minConnections ≤ cfg.maxConnections) (hk : Kept cfg s)
    (hok : Roomy cfg s l) (h : step cfg s l = some t) : Kept cfg t := by
  intro ht
  have hs : s.isShutdown = false := by
    rw [← Bool.not_eq_true]
    exact fun hs => Bool.false_ne_true (ht.symm.trans (step_isShutdown h hs))
  obtain ⟨hsound, hlength⟩ := hk hs
  cases l with
  | init a => exact Option.some.inj h ▸ hsound.init (hok hs) hlength
  | acquire n a =>
    obtain rfl := Option.some.inj h
    rw [Pool.acquire, hs, if_neg Bool.false_ne_true]
    exact ⟨Pool.acquireLoop_sound hsound, Pool.acquireLoop_length hlength hsound⟩
  | resume n a =>
    obtain ⟨-, h⟩ := Option.ite_none_right_eq_some.1 h
    obtain rfl := Option.some.inj h
    have hleft : Pool.Sound { s with waiting := s.waiting.erase n } := { hsound with }
    unfold Pool.resume
    rw [if_neg (by simp [hs])]
    exact ⟨Pool.acquireLoop_sound hleft, Pool.acquireLoop_length hlength hleft⟩
  | timeOut n =>
    obtain ⟨-, h⟩ := Option.ite_none_right_eq_some.1 h
    exact Option.some.inj h ▸ ⟨{ hsound with }, hlength⟩
  | tryAcquire n a =>
    obtain rfl := Option.some.inj h
    exact ⟨hsound.tryAcquire.1, Nat.le_trans hsound.tryAcquire.2 hlength⟩
  | release n c a =>
    obtain ⟨hheld, h⟩ := Option.ite_none_right_eq_some.1 h
    obtain rfl := Option.some.inj h
    exact ⟨(hsound.release hs hheld).1, Nat.le_trans (hsound.release hs hheld).2 hlength⟩
  | cleanup a => exact Option.some.inj h ▸ hsound.cleanup hmin hlength
  | shutdown =>
    obtain rfl := Option.some.inj h
    exact absurd ht.symm Bool.false_ne_true
  | clear =>
    obtain ⟨hshut, -⟩ := Option.ite_none_right_eq_some.1 h
    exact absurd (hs.symm.trans hshut) Bool.false_ne_true

/-- An `init` without room overruns the maximum. -/
theorem overrun_of_not_roomy (h : ¬ Roomy cfg s l) :
    ∃ t, step cfg s l = some t ∧ t.isShutdown = false ∧ ¬ Intact cfg t := by
  cases l with
  | init a =>
    simp only [Roomy, Classical.not_imp, Nat.not_le] at h
    obtain ⟨hs, hnew, hlibrary, hover⟩ := h
    rw [← Pool.createInitial_length] at hover
    have hne : (Pool.createInitial a cfg.minConnections.toNat s).all ≠ [] := by
      intro hnil
      rw [hnil] at hover
      exact Nat.not_lt_zero _ hover
    have hinit : (s.init cfg a).2 =
        { Pool.createInitial a cfg.minConnections.toNat s with initialized := true } := by
      simp [Pool.init, hnew, hlibrary, hne]
    refine ⟨_, rfl, ?_, fun hintact => ?_⟩
    · rw [hinit]
      exact Pool.createInitial_isShutdown.trans hs
    · have hbounded := hintact.bounded
      rw [hinit] at hbounded
      exact Nat.not_le.2 hover hbounded
  | _ => exact absurd trivial h

theorem kept_run (hmin : cfg.minConnections ≤ cfg.maxConnections) {ls : List Label}
    (hok : ∀ ms l s, ms ++ [l] <+: ls → exec (step cfg) .start ms = some s → Roomy cfg s l)
    (h : exec (step cfg) .start ls = some s) : Kept cfg s := by
  induction ls using List.reverseRecOn generalizing s with
  | nil =>
    obtain rfl := Option.some.inj h
    exact fun _ => ⟨Pool.sound_start, Nat.zero_le _⟩
  | append_singleton ls l ih =>
    rw [exec_append, Option.bind_eq_some_iff] at h
    obtain ⟨u, hu, h⟩ := h
    obtain ⟨t, ht, h⟩ := Option.bind_eq_some_iff.1 h
    obtain rfl := Option.some.inj h
    have hpre : ∀ ms m v, ms ++ [m] <+: ls → exec (step cfg) .start ms = some v →
        Roomy cfg v m := fun ms m v hms =>
      hok ms m v (hms.trans (List.prefix_append _ _))
    exact kept_step hmin (ih hpre hu) (hok ls l u (List.prefix_refl _) hu) ht

/-- Every state before the shutdown is intact exactly if every `init` has room for the connections
    that it makes. -/
theorem intact_iff (hmin : cfg.minConnections ≤ cfg.maxConnections) (ls : List Label) :
    (∀ ms s, ms <+: ls → exec (step cfg) .start ms = some s → s.isShutdown = false →
      Intact cfg s) ↔
    ∀ ms l s, ms ++ [l] <+: ls → exec (step cfg) .start ms = some s → Roomy cfg s l := by
  constructor
  · intro h ms l s hms hs
    by_contra hnot
    obtain ⟨t, ht, hopen, hbroken⟩ := overrun_of_not_roomy hnot
    refine hbroken (h _ t hms ?_ hopen)
    rw [exec_append, hs]
    exact congrArg (Option.bind · _) ht
  · intro h ms s hms hs hopen
    have hkept := kept_run hmin (fun ms' l s' hms' => h ms' l s' (hms'.trans hms)) hs
    exact intact_of_sound (hkept hopen).1 (hkept hopen).2

def oneConnection : PoolConfig := ⟨1, 1, 300⟩

/-- The database answers. -/
def reachable : Answers := ⟨0, true, fun _ => true, fun _ => true⟩

/-- A connection is acquired and released. -/
def useRun : List Label := [.init reachable, .acquire 0 reachable, .release 0 0 reachable]

theorem intact_iff_use :
    ∃ s, exec (step oneConnection) .start useRun = some s ∧ s.totalReleases = 1 ∧
      Intact oneConnection s := by
  have hroomy : ∀ ms l s, ms ++ [l] <+: useRun → exec (step oneConnection) .start ms = some s →
      Roomy oneConnection s l := by
    intro ms l s hms hs
    cases ms with
    | nil =>
      obtain rfl := Option.some.inj hs
      obtain ⟨rfl, -⟩ := List.cons_prefix_cons.1 hms
      exact fun _ _ _ => by decide
    | cons m ms =>
      have hl : l ∈ [Label.acquire 0 reachable, .release 0 0 reachable] :=
        (List.cons_prefix_cons.1 hms).2.subset (by simp)
      simp only [List.mem_cons, List.not_mem_nil, or_false] at hl
      rcases hl with rfl | rfl <;> trivial
  exact ⟨_, rfl, rfl, (intact_iff (by decide) _).2 hroomy _ _ (List.prefix_refl _) rfl rfl⟩

/-- A connection is acquired before `init` makes another one. -/
theorem init_overruns :
    ∃ s, exec (step oneConnection) .start [.acquire 0 reachable, .init reachable] = some s ∧
      s.isShutdown = false ∧ s.all.length = 2 ∧ ¬ Intact oneConnection s :=
  ⟨_, rfl, rfl, rfl, fun h => absurd h.bounded (by decide)⟩

end ChatApp.DatabasePool
