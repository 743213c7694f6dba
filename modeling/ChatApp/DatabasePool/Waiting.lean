/-
  The calls that wait in `acquire`, and the notifications that are on their way to them.
  `notify_one` chooses a call that waits and has not been chosen; this call then runs or times out,
  and a call may also run without a notification.

  `acquire` looks at the pool before it waits and after a notification, but not when it times out.
  A notification is sent for each place that comes with a valid connection, and for no other place.
  As long as there are no others, there are as many notifications on their way as places, or one for
  each waiting call (`Served`).
-/
import ChatApp.DatabasePool.Look
import ChatApp.DatabasePool.Sharing

namespace ChatApp.DatabasePool

open ChatApp.Lib

/-! ## Notifications -/

structure Waits where
  pool : Pool
  /-- the waiting calls that are notified -/
  notified : List Nat

inductive Move
  /-- a critical section; `woken` is the call that its `notify_one` wakes -/
  | act (l : Label) (woken : Option Nat)
  /-- `notify_all` in `shutdown` -/
  | notifyAll

namespace Waits

def start : Waits := ⟨.start, []⟩

def AllNotified (s : Waits) : Prop := ∀ n ∈ s.pool.waiting, n ∈ s.notified

/-- `notify_one` wakes a call that waits, if there is one. -/
def Chooses (s : Waits) : Option Nat → Prop
  | some n => n ∈ s.pool.waiting ∧ n ∉ s.notified
  | none => s.AllNotified

instance (s : Waits) : Decidable s.AllNotified := inferInstanceAs (Decidable (∀ n ∈ _, _))

instance (s : Waits) : (woken : Option Nat) → Decidable (s.Chooses woken)
  | some _ => inferInstanceAs (Decidable (_ ∧ _))
  | none => inferInstanceAs (Decidable s.AllNotified)

/-- A thread that waits makes no other call. -/
def Enabled (s : Waits) : Label → Prop
  | .acquire n _ => n ∉ s.pool.waiting
  | _ => True

instance (s : Waits) : (l : Label) → Decidable (s.Enabled l)
  | .acquire _ _ => inferInstanceAs (Decidable (¬ _))
  | .init _ | .resume .. | .timeOut _ | .tryAcquire .. | .release .. | .cleanup _ | .shutdown
  | .clear => inferInstanceAs (Decidable True)

/-- The notifications after a critical section. -/
def notify (s : Waits) (woken : Option Nat) : Label → Option (List Nat)
  | .release _ c a =>
    if s.pool.isShutdown = false ∧ a.valid c = true then
      if s.Chooses woken then some (s.notified ++ woken.toList) else none
    else some s.notified
  | .resume n _ => some (s.notified.erase n)
  | .timeOut n => some (s.notified.erase n)
  | _ => some s.notified

def step (cfg : PoolConfig) (s : Waits) : Move → Option Waits
  | .act l woken =>
    if s.Enabled l then
      (DatabasePool.step cfg s.pool l).bind fun t => (s.notify woken l).map fun ns => ⟨t, ns⟩
    else none
  | .notifyAll => if s.pool.isShutdown then some { s with notified := s.pool.waiting } else none

end Waits

/-! ## What is promised -/

/-- `create_connection` succeeds. -/
def Label.Connects : Label → Prop
  | .init a | .acquire _ a | .resume _ a | .tryAcquire _ a | .release _ _ a | .cleanup a =>
    ∀ i, a.connects i = true
  | .timeOut _ | .shutdown | .clear => True

def Move.Connects : Move → Prop
  | .act l _ => l.Connects
  | .notifyAll => True

/-- The call of `acquire` that a step belongs to. -/
def Move.caller : Move → Option Nat
  | .act (.acquire n _) _ | .act (.resume n _) _ | .act (.timeOut n) _ => some n
  | _ => none

/-- In this step a call of `acquire` returns, without a connection. -/
def GivesUp (s t : Waits) (l : Move) : Prop :=
  ∃ n, l.caller = some n ∧ n ∉ t.pool.waiting ∧ t.pool.held = s.pool.held

/-- The pool has an idle connection, or has not made all that it may make. -/
def Pool.Available (cfg : PoolConfig) (s : Pool) : Prop :=
  s.idle ≠ [] ∨ s.all.length < cfg.maxConnections.toNat

/-- No call waits for what is available, unless a waiting call is notified. -/
def Waits.Attended (cfg : PoolConfig) (s : Waits) : Prop :=
  s.pool.waiting ≠ [] → s.pool.Available cfg → ∃ n ∈ s.notified, n ∈ s.pool.waiting

/-- The places that a step adds without a notification. -/
def Pool.gains (cfg : PoolConfig) (s : Pool) : Label → Nat
  | .init a =>
    if s.initialized = true ∨ a.library = false then 0 else s.excess cfg cfg.minConnections.toNat
  | .cleanup _ => s.excess cfg (cfg.minConnections.toNat - s.all.length)
  | .release _ c a =>
    if a.valid c = true ∨ cfg.maxConnections.toNat < s.all.length then 0 else 1
  | _ => 0

/-- A call times out when no notification is on its way, or for nothing; and what comes without a
    notification finds every waiting call notified, or as many notifications as places. -/
def Waits.Regular (cfg : PoolConfig) (s : Waits) : Move → Prop
  | .act (.timeOut _) _ => s.notified = [] ∨ s.pool.places cfg = 0
  | .act l _ => s.pool.gains cfg l = 0 ∨ s.AllNotified ∨
    s.pool.places cfg + s.pool.gains cfg l ≤ s.notified.length
  | .notifyAll => True

variable {cfg : PoolConfig} {a : Answers} {s t : Waits} {l : Move} {n c : Nat}

theorem available_iff {p : Pool} : p.Available cfg ↔ p.places cfg ≠ 0 := by
  have hnone : p.places cfg ≠ 0 ↔ ¬ (p.idle = [] ∧ cfg.maxConnections.toNat ≤ p.all.length) :=
    not_congr Pool.places_eq_zero
  rw [hnone, not_and_or, Nat.not_le]
  exact Iff.rfl

/-! ## The places after a step -/

section
variable {p : Pool}

theorem init_gains : (p.init cfg a).2.places cfg ≤ p.places cfg + p.gains cfg (.init a) := by
  unfold Pool.gains
  dsimp only
  split
  next hidle =>
    have hsame : (p.init cfg a).2 = p := by
      unfold Pool.init
      split
      next => rfl
      next hnew => rw [if_pos (by simp [hidle.resolve_left hnew])]
    rw [hsame]
    omega
  next => exact Pool.init_places

theorem tryAcquire_spec (cfg : PoolConfig) (a : Answers) (n : Nat) (p : Pool) :
    (p.tryAcquire a n).waiting = p.waiting ∧
      (p.tryAcquire a n).places cfg ≤ p.places cfg := by
  unfold Pool.tryAcquire
  split
  next => exact ⟨rfl, Nat.le_refl _⟩
  next =>
    rcases hidle : p.idle with _ | ⟨c, idle⟩
    · exact ⟨rfl, Nat.le_refl _⟩
    · have herase := Pool.length_le_erase p.all c
      dsimp only
      split
      all_goals
        refine ⟨rfl, ?_⟩
        simp only [Pool.places, Pool.handOut, Pool.setInUse, Pool.touch, hidle, List.length_cons]
        omega

/-- A valid connection is one place more, and any other is counted as a gain. -/
theorem release_places (cfg : PoolConfig) (a : Answers) (n c : Nat) (hopen : p.isShutdown = false) :
    (p.release a n c).waiting = p.waiting ∧ (p.release a n c).places cfg ≤ p.places cfg +
      if a.valid c = true then 1 else p.gains cfg (.release n c a) := by
  have herase := Pool.length_le_erase p.all c
  unfold Pool.release Pool.gains
  dsimp only
  rw [hopen, if_neg Bool.false_ne_true]
  by_cases hvalid : a.valid c = true
  · refine ⟨by simp [hvalid, Pool.setInUse, Pool.touch], ?_⟩
    simp only [hvalid, if_true, Pool.places, Pool.setInUse, Pool.touch, List.length_append,
      List.length_singleton]
    omega
  · refine ⟨by simp [hvalid, Pool.setInUse, Pool.touch], ?_⟩
    simp only [hvalid, Pool.places, Pool.setInUse, Pool.touch, false_or, Bool.false_eq_true,
      if_false]
    split <;> omega

end

/-! ## The invariant -/

/-- The notifications are for different calls that wait, and there are as many of them as places,
    or one for each waiting call. -/
structure Served (cfg : PoolConfig) (s : Waits) : Prop where
  waiting_nodup : s.pool.waiting.Nodup
  notified_nodup : s.notified.Nodup
  notified_subset : ∀ n ∈ s.notified, n ∈ s.pool.waiting
  enough : s.AllNotified ∨ s.pool.places cfg ≤ s.notified.length

theorem served_start : Served cfg .start :=
  ⟨List.nodup_nil, List.nodup_nil, nofun, .inl nofun⟩

theorem Served.attended (h : Served cfg s) : s.Attended cfg := by
  intro hne hplace
  rw [available_iff] at hplace
  rcases h.enough with hall | hle
  · obtain ⟨n, hn⟩ := List.exists_mem_of_ne_nil _ hne
    exact ⟨n, hall n hn, hn⟩
  · obtain ⟨n, hn⟩ := List.exists_mem_of_length_pos (Nat.lt_of_lt_of_le (by omega) hle)
    exact ⟨n, hn, h.notified_subset n hn⟩

/-- A call times out when there is no place. -/
theorem Served.places_eq_zero (h : Served cfg s) (htime : s.notified = [] ∨ s.pool.places cfg = 0)
    (hn : n ∈ s.pool.waiting) : s.pool.places cfg = 0 := by
  rcases htime with hnone | hzero
  · rcases h.enough with hall | hle
    · exact absurd (hall n hn) (hnone ▸ List.not_mem_nil)
    · rw [hnone] at hle
      exact Nat.le_zero.1 hle
  · exact hzero

/-- The calls that wait stay the same, and so do the notifications. -/
theorem Served.same {p : Pool} (h : Served cfg s) (hwaiting : p.waiting = s.pool.waiting) {g : Nat}
    (hplaces : p.places cfg ≤ s.pool.places cfg + g)
    (hg : g = 0 ∨ s.AllNotified ∨ s.pool.places cfg + g ≤ s.notified.length) :
    Served cfg ⟨p, s.notified⟩ where
  waiting_nodup := hwaiting ▸ h.waiting_nodup
  notified_nodup := h.notified_nodup
  notified_subset n hn := hwaiting ▸ h.notified_subset n hn
  enough := by
    have hall : s.AllNotified → Waits.AllNotified ⟨p, s.notified⟩ := fun hall n hn =>
      hall n (hwaiting ▸ hn)
    rcases hg with rfl | hg | hg
    · exact h.enough.imp hall (Nat.le_trans hplaces)
    · exact .inl (hall hg)
    · exact .inr (Nat.le_trans hplaces hg)

/-- A call that waits leaves, with its notification if it has one. -/
theorem Served.leave (h : Served cfg s) {p : Pool} (hwaiting : p.waiting = s.pool.waiting.erase n)
    (hplaces : p.places cfg + 1 ≤ s.pool.places cfg ∨ p.places cfg = 0) :
    Served cfg ⟨p, s.notified.erase n⟩ where
  waiting_nodup := hwaiting ▸ h.waiting_nodup.erase n
  notified_nodup := h.notified_nodup.erase n
  notified_subset m hm := by
    rw [h.notified_nodup.mem_erase_iff] at hm
    show m ∈ p.waiting
    rw [hwaiting, h.waiting_nodup.mem_erase_iff]
    exact ⟨hm.1, h.notified_subset m hm.2⟩
  enough := by
    rcases hplaces with hplaces | hplaces
    · refine h.enough.imp (fun hall m hm => ?_) fun hle => ?_
      · change m ∈ p.waiting at hm
        rw [hwaiting, h.waiting_nodup.mem_erase_iff] at hm
        exact h.notified_nodup.mem_erase_iff.2 ⟨hm.1, hall m hm.2⟩
      · have hlength : s.notified.length - 1 ≤ (s.notified.erase n).length :=
          List.le_length_erase
        show p.places cfg ≤ (s.notified.erase n).length
        omega
    · exact .inr (hplaces ▸ Nat.zero_le _)

/-- A call begins to wait, or waits again, when there is no place. -/
theorem Served.wait (h : Served cfg s) {p : Pool}
    (hwaiting : p.waiting = s.pool.waiting.erase n ++ [n]) (hplaces : p.places cfg = 0) :
    Served cfg ⟨p, s.notified.erase n⟩ where
  waiting_nodup := hwaiting ▸
    Pool.nodup_snoc (h.waiting_nodup.erase n) h.waiting_nodup.not_mem_erase
  notified_nodup := h.notified_nodup.erase n
  notified_subset m hm := by
    obtain ⟨hne, hm⟩ := h.notified_nodup.mem_erase_iff.1 hm
    show m ∈ p.waiting
    rw [hwaiting]
    exact List.mem_append_left _ ((List.mem_erase_of_ne hne).2 (h.notified_subset m hm))
  enough := .inr (hplaces ▸ Nat.zero_le _)

/-- A place comes with a notification, unless all calls that wait have one. -/
theorem Served.notify (h : Served cfg s) {p : Pool} (hwaiting : p.waiting = s.pool.waiting)
    (hplaces : p.places cfg ≤ s.pool.places cfg + 1) {woken : Option Nat}
    (hchoice : s.Chooses woken) : Served cfg ⟨p, s.notified ++ woken.toList⟩ := by
  unfold Waits.Chooses at hchoice
  split at hchoice
  next n =>
    refine ⟨hwaiting ▸ h.waiting_nodup, Pool.nodup_snoc h.notified_nodup hchoice.2, fun m hm => ?_,
      h.enough.imp (fun hall m hm => ?_) fun hle => ?_⟩
    · rw [Option.toList_some, List.mem_append, List.mem_singleton] at hm
      rcases hm with hm | rfl
      · exact hwaiting ▸ h.notified_subset m hm
      · exact hwaiting ▸ hchoice.1
    · exact List.mem_append_left _ (hall m (hwaiting ▸ hm))
    · show p.places cfg ≤ (s.notified ++ [n]).length
      rw [List.length_append, List.length_singleton]
      omega
  next =>
    rw [Option.toList_none, List.append_nil]
    exact h.same hwaiting hplaces (.inr (.inl hchoice))

/-- A look at the pool in which a call begins to wait, or gets a connection. -/
theorem look_cases (cfg : PoolConfig) (n : Nat) (p : Pool) (hconnects : ∀ i, a.connects i = true) :
    ((p.acquireLoop cfg a n).held = p.held ∧ (p.acquireLoop cfg a n).waiting = p.waiting ++ [n] ∧
        (p.acquireLoop cfg a n).places cfg = 0) ∨
      (p.acquireLoop cfg a n).held ≠ p.held ∧ (p.acquireLoop cfg a n).waiting = p.waiting ∧
        (p.acquireLoop cfg a n).places cfg + 1 ≤ p.places cfg := by
  rcases Pool.looked_acquireLoop.outcome with
    ⟨hheld, hwaiting, -⟩ | ⟨c, hheld, hwaiting, -, hplaces⟩
  · exact .inl ⟨hheld, hwaiting, Pool.acquireLoop_waits hconnects hheld⟩
  · exact .inr ⟨fun heq => by simp [hheld] at heq, hwaiting, hplaces⟩

theorem act_step {l : Label} {woken : Option Nat} (hs : s.step cfg (.act l woken) = some t) :
    s.Enabled l ∧ step cfg s.pool l = some t.pool ∧ s.notify woken l = some t.notified := by
  obtain ⟨henabled, hs⟩ := Option.ite_none_right_eq_some.1 hs
  obtain ⟨p, hp, hs⟩ := Option.bind_eq_some_iff.1 hs
  obtain ⟨ns, hns, rfl⟩ := Option.map_eq_some_iff.1 hs
  exact ⟨henabled, hp, hns⟩

theorem resume_pool (hopen : s.pool.isShutdown = false) : s.pool.resume cfg a n =
    Pool.acquireLoop cfg a { s.pool with waiting := s.pool.waiting.erase n } n := by
  unfold Pool.resume
  exact if_neg (by simp [hopen])

theorem Served.resume (h : Served cfg s) (hconnects : ∀ i, a.connects i = true)
    (hopen : s.pool.isShutdown = false) :
    Served cfg ⟨s.pool.resume cfg a n, s.notified.erase n⟩ := by
  rw [resume_pool hopen]
  rcases look_cases cfg n _ hconnects with ⟨-, hwaiting, hplaces⟩ | ⟨-, hwaiting, hplaces⟩
  · exact h.wait hwaiting hplaces
  · exact h.leave hwaiting (.inl hplaces)

theorem Served.release (h : Served cfg s) {woken : Option Nat} {ns : List Nat}
    (hregular : s.Regular cfg (.act (.release n c a) woken))
    (hns : s.notify woken (.release n c a) = some ns) (hopen : s.pool.isShutdown = false) :
    Served cfg ⟨s.pool.release a n c, ns⟩ := by
  obtain ⟨hwaiting, hplaces⟩ := release_places cfg a n c hopen
  unfold Waits.notify at hns
  dsimp only at hns
  by_cases hvalid : a.valid c = true
  · rw [if_pos ⟨hopen, hvalid⟩] at hns
    obtain ⟨hchoice, hns⟩ := Option.ite_none_right_eq_some.1 hns
    obtain rfl := Option.some.inj hns
    rw [if_pos hvalid] at hplaces
    exact h.notify hwaiting hplaces hchoice
  · rw [if_neg fun hboth => hvalid hboth.2] at hns
    obtain rfl := Option.some.inj hns
    rw [if_neg hvalid] at hplaces
    exact h.same hwaiting hplaces hregular

theorem served_step (h : Served cfg s) (hconnects : l.Connects) (hregular : s.Regular cfg l)
    (hs : s.step cfg l = some t) (hopen : s.pool.isShutdown = false) : Served cfg t := by
  cases l with
  | notifyAll =>
    obtain ⟨hshut, -⟩ := Option.ite_none_right_eq_some.1 hs
    exact absurd (hopen.symm.trans hshut) Bool.false_ne_true
  | act l woken =>
    obtain ⟨p, ns⟩ := t
    obtain ⟨henabled, hp, hns⟩ := act_step hs
    cases l with
    | init a =>
      obtain rfl := Option.some.inj hp
      obtain rfl := Option.some.inj hns
      exact h.same Pool.init_upkept.waiting init_gains hregular
    | acquire n a =>
      obtain rfl := Option.some.inj hp
      obtain rfl := Option.some.inj hns
      rw [Pool.acquire, hopen, if_neg Bool.false_ne_true]
      rcases look_cases cfg n _ hconnects with ⟨-, hwaiting, hplaces⟩ | ⟨-, hwaiting, hplaces⟩
      · have hfresh : s.notified.erase n = s.notified :=
          List.erase_of_not_mem fun hn => henabled (h.notified_subset n hn)
        rw [← hfresh]
        exact h.wait (by rw [hwaiting, List.erase_of_not_mem henabled]) hplaces
      · exact h.same hwaiting (g := 0) (by omega) (.inl rfl)
    | resume n a =>
      obtain ⟨-, hp⟩ := Option.ite_none_right_eq_some.1 hp
      obtain rfl := Option.some.inj hp
      obtain rfl := Option.some.inj hns
      exact h.resume hconnects hopen
    | timeOut n =>
      obtain ⟨hn, hp⟩ := Option.ite_none_right_eq_some.1 hp
      obtain rfl := Option.some.inj hp
      obtain rfl := Option.some.inj hns
      exact h.leave rfl (.inr (h.places_eq_zero hregular hn))
    | tryAcquire n a =>
      obtain rfl := Option.some.inj hp
      obtain rfl := Option.some.inj hns
      obtain ⟨hwaiting, hplaces⟩ := tryAcquire_spec cfg a n s.pool
      exact h.same hwaiting (g := 0) hplaces (.inl rfl)
    | release n c a =>
      obtain ⟨-, hp⟩ := Option.ite_none_right_eq_some.1 hp
      obtain rfl := Option.some.inj hp
      exact h.release hregular hns hopen
    | cleanup a =>
      obtain rfl := Option.some.inj hp
      obtain rfl := Option.some.inj hns
      exact h.same Pool.cleanup_upkept.waiting Pool.cleanup_places hregular
    | shutdown =>
      obtain rfl := Option.some.inj hp
      obtain rfl := Option.some.inj hns
      exact h.same (p := { s.pool with isShutdown := true }) rfl (g := 0) (Nat.le_refl _) (.inl rfl)
    | clear =>
      obtain ⟨hshut, -⟩ := Option.ite_none_right_eq_some.1 hp
      exact absurd (hopen.symm.trans hshut) Bool.false_ne_true

/-- A call that returns without a connection leaves when there is no place. -/
theorem Served.givesUp (h : Served cfg s) (hconnects : l.Connects) (hregular : s.Regular cfg l)
    (hs : s.step cfg l = some t) (hopen : s.pool.isShutdown = false) (hgives : GivesUp s t l) :
    s.pool.places cfg = 0 := by
  obtain ⟨n, hcaller, hgone, hheld⟩ := hgives
  unfold Move.caller at hcaller
  split at hcaller
  next m a woken =>
    obtain rfl := Option.some.inj hcaller
    obtain ⟨-, hp, -⟩ := act_step hs
    have hp := Option.some.inj hp
    rw [Pool.acquire, hopen, if_neg Bool.false_ne_true] at hp
    rw [← hp] at hgone hheld
    rcases look_cases cfg m s.pool hconnects with
      ⟨-, hwaiting, -⟩ | ⟨hnew, -, -⟩
    · exact absurd (by simp [hwaiting]) hgone
    · exact absurd hheld hnew
  next m a woken =>
    obtain rfl := Option.some.inj hcaller
    obtain ⟨-, hp, -⟩ := act_step hs
    obtain ⟨-, hp⟩ := Option.ite_none_right_eq_some.1 hp
    have hp := Option.some.inj hp
    rw [resume_pool hopen] at hp
    rw [← hp] at hgone hheld
    rcases look_cases cfg m { s.pool with waiting := s.pool.waiting.erase m } hconnects with
      ⟨-, hwaiting, -⟩ | ⟨hnew, -, -⟩
    · exact absurd (by simp [hwaiting]) hgone
    · exact absurd hheld hnew
  next m woken =>
    obtain ⟨-, hp, -⟩ := act_step hs
    obtain ⟨hn, -⟩ := Option.ite_none_right_eq_some.1 hp
    exact h.places_eq_zero hregular hn
  next => exact absurd hcaller (Option.some_ne_none n).symm

/-! ## Runs -/

theorem step_open (hs : s.step cfg l = some t) (hopen : t.pool.isShutdown = false) :
    s.pool.isShutdown = false := by
  rw [← Bool.not_eq_true] at hopen ⊢
  intro hshut
  cases l with
  | notifyAll =>
    obtain ⟨-, hs⟩ := Option.ite_none_right_eq_some.1 hs
    obtain rfl := Option.some.inj hs
    exact hopen hshut
  | act l woken => exact hopen (step_isShutdown (act_step hs).2.1 hshut)

/-- In a run whose steps are all regular, no call waits for a place without a notification to some
    waiting call, and a call gives up only if there is no place. -/
theorem acquire_attended {ls : List Move}
    (h : Run (Waits.step cfg) (fun s l => l.Connects ∧ s.Regular cfg l) .start ls s)
    (hopen : s.pool.isShutdown = false) :
    s.Attended cfg ∧ ∀ l t, l.Connects → s.Regular cfg l → s.step cfg l = some t →
      GivesUp s t l → s.pool.idle = [] ∧ cfg.maxConnections.toNat ≤ s.pool.all.length := by
  have hserved : s.pool.isShutdown = false → Served cfg s := by
    refine h.invariant (I := fun s => s.pool.isShutdown = false → Served cfg s)
      (fun _ => served_start) ?_
    intro s l t ih hok hs ht
    have hbefore := step_open hs ht
    exact served_step (ih hbefore) hok.1 hok.2 hs hbefore
  refine ⟨(hserved hopen).attended, fun l t hconnects hregular hs hgives => ?_⟩
  exact Pool.places_eq_zero.1 ((hserved hopen).givesUp hconnects hregular hs hopen hgives)

/-- A call waits, and is notified when the connection comes back. -/
def passedOn : List Move :=
  [.act (.init reachable) none, .act (.acquire 0 reachable) none, .act (.acquire 1 reachable) none,
    .act (.release 0 0 reachable) (some 1)]

theorem acquire_attended_passedOn :
    ∃ s, exec (Waits.step oneConnection) .start passedOn = some s ∧ s.pool.waiting = [1] ∧
      s.pool.idle = [0] ∧ s.Attended oneConnection := by
  refine ⟨_, rfl, rfl, rfl, (acquire_attended (show Run (Waits.step oneConnection) (fun s l =>
    l.Connects ∧ s.Regular oneConnection l) .start passedOn _ from ?_) rfl).1⟩
  refine .cons ⟨fun _ => rfl, .inl ?_⟩ rfl (.cons ⟨fun _ => rfl, .inl rfl⟩ rfl
    (.cons ⟨fun _ => rfl, .inl rfl⟩ rfl (.cons ⟨fun _ => rfl, .inl rfl⟩ rfl .nil)))
  decide

/-- The database can be reached, but the connections have broken off. -/
def brokenOff : Answers := ⟨0, true, fun _ => true, fun _ => false⟩

/-- A call waits, and the connection that comes back is no longer valid. -/
def givenBack : List Move :=
  [.act (.init reachable) none, .act (.acquire 0 reachable) none, .act (.acquire 1 reachable) none,
    .act (.release 0 0 brokenOff) none]

/-- The call keeps waiting while the pool is empty, and gives up. -/
theorem givenBack_unattended :
    ∃ s t, Run (Waits.step oneConnection) (fun _ l => l.Connects) .start givenBack s ∧
      s.pool.isShutdown = false ∧ ¬ s.Attended oneConnection ∧
      s.step oneConnection (.act (.timeOut 1) none) = some t ∧
      GivesUp s t (.act (.timeOut 1) none) ∧
      s.pool.all.length < oneConnection.maxConnections.toNat := by
  refine ⟨_, _, .cons (fun _ => rfl) rfl (.cons (fun _ => rfl) rfl (.cons (fun _ => rfl) rfl
    (.cons (fun _ => rfl) rfl .nil))), rfl, fun h => ?_, rfl, ⟨1, rfl, by decide, rfl⟩, by decide⟩
  obtain ⟨n, hn, -⟩ := h (List.cons_ne_nil 1 []) (.inr (by decide))
  exact List.not_mem_nil hn

end ChatApp.DatabasePool
