/-
  `ConnectionGuard` objects over several pools. All pools make their connections in one process, so
  they share the numbers, the flags and the times of the connections. A lease is a call of `acquire`
  with the pool and the connection; the move constructor takes the pool along with the connection,
  but the move assignment keeps the pool of the guard that is assigned to.
-/
import ChatApp.DatabasePool.Look
import ChatApp.DatabasePool.Sharing
import ChatApp.Lib.Leases

namespace ChatApp.DatabasePool

open ChatApp.Lib

structure Guard where
  pool : Nat
  /-- the call of `acquire` it comes from, and the connection -/
  connection : Option (Nat × Nat)

structure Lease where
  call : Nat
  pool : Nat
  connection : Nat
  deriving DecidableEq

structure Guards where
  pools : Nat → Pool
  inUse : Nat → Bool
  lastUsed : Nat → Int
  made : Nat
  /-- the pool that made a connection -/
  maker : Nat → Nat
  guards : Nat → Option Guard
  /-- the constructors that wait, each with its pool and its call of `acquire` -/
  building : Nat → Option (Nat × Nat)
  calls : Nat
  acquired : List Lease
  released : List Lease

inductive Action
  /-- The guard `g` is constructed from the pool `p`. -/
  | construct (g p : Nat) (a : Answers)
  | resume (g : Nat) (a : Answers)
  | timeOut (g : Nat)
  | moveConstruct (g h : Nat)
  | moveAssign (g h : Nat) (a : Answers)
  | release (g : Nat) (a : Answers)
  | destroy (g : Nat) (a : Answers)
  /-- what the pools do besides -/
  | maintain (p : Nat) (l : Label)

namespace Guards

def start : Guards :=
  ⟨fun _ => .start, fun _ => false, fun _ => 0, 0, fun _ => 0, fun _ => none, fun _ => none, 0, [],
    []⟩

variable (cfg : Nat → PoolConfig) (a : Answers) (s : Guards) (g h p n : Nat)

/-! ## The pools -/

def pool : Pool :=
  { s.pools p with inUse := s.inUse, lastUsed := s.lastUsed, made := s.made }

def put (t : Pool) : Guards :=
  { s with
    pools := Function.update s.pools p t
    inUse := t.inUse
    lastUsed := t.lastUsed
    made := t.made
    maker := fun c => if s.made ≤ c ∧ c < t.made then p else s.maker c }

/-- The call of `acquire` with the connection that it returns, if it returns one. -/
def returned (t u : Pool) : Option (Nat × Nat) := (u.held.drop t.held.length).head?

/-- `acquire` has returned, or waits. -/
def constructed (t : Pool) : Guards :=
  let s' := s.put p t
  match returned (s.pool p) t with
  | some (n, c) =>
    { s' with
      building := Function.update s.building g none
      guards := Function.update s.guards g (some ⟨p, some (n, c)⟩)
      acquired := s.acquired ++ [⟨n, p, c⟩] }
  | none =>
    if n ∈ t.waiting then { s' with building := Function.update s.building g (some (p, n)) }
    else
      { s' with
        building := Function.update s.building g none
        guards := Function.update s.guards g (some ⟨p, none⟩) }

/-! ## The guards -/

/-- `ConnectionGuard::release` -/
def release : Guards :=
  match s.guards g with
  | some ⟨p, some (n, c)⟩ =>
    { s.put p ((s.pool p).release a n c) with
      guards := Function.update s.guards g (some ⟨p, none⟩)
      released := s.released ++ [⟨n, p, c⟩] }
  | _ => s

/-- The guard `g` has `G`, and the guard `h` has lost its connection. -/
def transfer (G H : Guard) : Guards :=
  { s with guards :=
      Function.update (Function.update s.guards g (some G)) h (some { H with connection := none }) }

/-- The `ConnectionGuard&&` constructor -/
def moveConstruct (H : Guard) : Guards := s.transfer g h H H

def moveAssign : Guards :=
  if g = h then s
  else
    let s := s.release a g
    match s.guards g, s.guards h with
    | some G, some H => s.transfer g h { G with connection := H.connection } H
    | _, _ => s

/-- `~ConnectionGuard` -/
def destroy : Guards :=
  let s := s.release a g
  { s with guards := Function.update s.guards g none }

end Guards

/-! ## Steps -/

/-- What a pool does without a guard. -/
def Label.Upkeep : Label → Bool
  | .init _ | .cleanup _ | .shutdown | .clear => true
  | _ => false

/-- There is no object `g` yet. -/
def Guards.Fresh (s : Guards) (g : Nat) : Prop := s.guards g = none ∧ s.building g = none

instance (s : Guards) (g : Nat) : Decidable (s.Fresh g) :=
  decidable_of_iff ((s.guards g).isNone = true ∧ (s.building g).isNone = true) (by
    rw [Option.isNone_iff_eq_none, Option.isNone_iff_eq_none, Guards.Fresh])

def Guards.step (cfg : Nat → PoolConfig) (s : Guards) : Action → Option Guards
  | .construct g p a =>
    if s.Fresh g then
      some ({ s with calls := s.calls + 1 }.constructed g p s.calls
        ((s.pool p).acquire (cfg p) a s.calls))
    else none
  | .resume g a =>
    (s.building g).bind fun x =>
      (DatabasePool.step (cfg x.1) (s.pool x.1) (.resume x.2 a)).map (s.constructed g x.1 x.2)
  | .timeOut g =>
    (s.building g).bind fun x =>
      (DatabasePool.step (cfg x.1) (s.pool x.1) (.timeOut x.2)).map (s.constructed g x.1 x.2)
  | .moveConstruct g h =>
    if s.Fresh g then (s.guards h).map (s.moveConstruct g h) else none
  | .moveAssign g h a =>
    if (s.guards g).isSome ∧ (s.guards h).isSome then some (s.moveAssign a g h) else none
  | .release g a => if (s.guards g).isSome then some (s.release a g) else none
  | .destroy g a => if (s.guards g).isSome then some (s.destroy a g) else none
  | .maintain p l =>
    if l.Upkeep then (DatabasePool.step (cfg p) (s.pool p) l).map (s.put p) else none

/-! ## What is promised -/

/-- Each lease is released once at most, to its own pool, and once when there are no guards any
    more; and no pool lends a connection of another. -/
structure Accounted (s : Guards) : Prop where
  calls : (s.acquired.map Lease.call).Nodup
  once : s.released.Nodup
  own : ∀ x ∈ s.released, x ∈ s.acquired
  gone : (∀ g, s.guards g = none) → ∀ x ∈ s.acquired, x ∈ s.released
  lends : ∀ x ∈ s.acquired, s.maker x.connection = x.pool

def Guard.lease (G : Guard) : Option Lease := G.connection.map fun x => ⟨x.1, G.pool, x.2⟩

/-- A guard is assigned to itself, or takes nothing, or takes a connection of its own pool. -/
def Guards.Regular (s : Guards) : Action → Prop
  | .moveAssign g h _ => g = h ∨ (s.guards h).bind Guard.connection = none ∨
    (s.guards g).map Guard.pool = (s.guards h).map Guard.pool
  | _ => True

namespace Guards

variable {cfg : Nat → PoolConfig} {a : Answers} {s s' : Guards} {g h p n c : Nat} {t u : Pool}

/-! ## Whose connections -/

def Owns (s : Guards) (p c : Nat) : Prop := c < s.made ∧ s.maker c = p

theorem Owns.put {q : Nat} (h : s.Owns q c) (hmade : s.made ≤ t.made) : (s.put p t).Owns q c :=
  ⟨Nat.lt_of_lt_of_le h.1 hmade, (if_neg fun hnew => Nat.not_le.2 h.1 hnew.1).trans h.2⟩

theorem owns_new (hnew : s.made ≤ c ∧ c < t.made) : (s.put p t).Owns p c :=
  ⟨hnew.2, if_pos hnew⟩

/-- A pool has its own connections, and lends them. -/
structure Made (s : Guards) : Prop where
  idle : ∀ p, ∀ c ∈ (s.pools p).idle, s.Owns p c
  lends : ∀ x ∈ s.acquired, s.Owns x.pool x.connection

theorem Made.put (hs : Made s) (hmade : s.made ≤ t.made)
    (hidle : ∀ c ∈ t.idle, c ∈ (s.pools p).idle ∨ (s.made ≤ c ∧ c < t.made) ∨ s.Owns p c) :
    Made (s.put p t) where
  idle q c hc := by
    by_cases hq : q = p
    · subst hq
      have hc : c ∈ t.idle := by simpa [Guards.put] using hc
      rcases hidle c hc with hold | hnew | howns
      · exact (hs.idle q c hold).put hmade
      · exact owns_new hnew
      · exact howns.put hmade
    · exact (hs.idle q c (by simpa [Guards.put, hq] using hc)).put hmade
  lends x hx := (hs.lends x hx).put hmade

/-! ## Leases -/

/-- The guards as holders of leases -/
def ledger (s : Guards) : Leases Nat Lease :=
  ⟨fun g => (s.guards g).bind Guard.lease, s.acquired, s.released⟩

theorem holds_update (guards : Nat → Option Guard) (g : Nat) (o : Option Guard) :
    (fun k => (Function.update guards g o k).bind Guard.lease) =
      Function.update (fun k => (guards k).bind Guard.lease) g (o.bind Guard.lease) := by
  funext k
  by_cases hk : k = g <;> simp [hk]

theorem ledger_release : (s.release a g).ledger = s.ledger.giveBack g := by
  unfold Guards.release
  split
  next p n c hg =>
    have hheld : s.ledger.holds g = some ⟨n, p, c⟩ := by simp [ledger, hg, Guard.lease]
    have hnone : ((some ⟨p, none⟩ : Option Guard).bind Guard.lease) = none := rfl
    rw [Leases.giveBack_of_some hheld]
    simp only [ledger, holds_update, hnone]
    rfl
  next hg =>
    refine (Leases.giveBack_of_none ?_).symm
    show (s.guards g).bind Guard.lease = none
    rcases hG : s.guards g with _ | ⟨p, _ | ⟨n, c⟩⟩
    · rfl
    · rfl
    · exact absurd hG (hg p n c)

/-- The connection moves with its lease if the pool is the same. -/
theorem ledger_transfer {G H : Guard} (hH : s.guards h = some H) (hlease : G.lease = H.lease) :
    (s.transfer g h G H).ledger = s.ledger.move g h := by
  have hheld : s.ledger.holds h = G.lease := by simp [ledger, hH, hlease]
  have hnone : ((some { H with connection := none } : Option Guard).bind Guard.lease) = none := rfl
  unfold Leases.move
  rw [hheld]
  simp only [ledger, transfer, holds_update, hnone, Option.bind_some]

theorem ledger_destroy : (s.destroy a g).ledger = s.ledger.giveBack g := by
  have hfree : (s.release a g).ledger.holds g = none := by
    rw [ledger_release]
    simp [Leases.giveBack]
  rw [← ledger_release]
  unfold destroy
  simp only [ledger, holds_update] at hfree ⊢
  rw [Option.bind_none, ← hfree, Function.update_eq_self]

/-! ## Calls of `acquire` -/

/-- What a call of `acquire` has done to its pool when it returns or waits. -/
structure Lent (t u : Pool) (n : Nat) : Prop where
  idle : ∀ c ∈ u.idle, c ∈ t.idle
  made : t.made ≤ u.made
  call : ∀ x, returned t u = some x → x.1 = n
  connection : ∀ x, returned t u = some x → x.2 ∈ t.idle ∨ t.made ≤ x.2 ∧ x.2 < u.made

theorem lent_of_held (hidle : ∀ c ∈ u.idle, c ∈ t.idle) (hmade : t.made ≤ u.made)
    (hheld : u.held = t.held) : Lent t u n := by
  have hnone : returned t u = none := by simp [returned, hheld]
  exact ⟨hidle, hmade, by simp [hnone], by simp [hnone]⟩

theorem lent_acquireLoop {q : PoolConfig} (hidle : t.idle = u.idle) (hmade : t.made = u.made)
    (hheld : t.held = u.held) : Lent t (u.acquireLoop q a n) n := by
  have hlook : Pool.Looked q u (u.acquireLoop q a n) n := Pool.looked_acquireLoop
  rcases hlook.outcome with ⟨hsame, -⟩ | ⟨c, hnew, -, hwhere, -⟩
  · exact lent_of_held (hidle ▸ hlook.idle) (hmade ▸ hlook.made) (hsame.trans hheld.symm)
  · have hreturned : returned t (u.acquireLoop q a n) = some (n, c) := by
      simp [returned, hnew, hheld]
    refine ⟨hidle ▸ hlook.idle, hmade ▸ hlook.made, fun x hx => ?_, fun x hx => ?_⟩
    · exact Option.some.inj (hreturned.symm.trans hx) ▸ rfl
    · obtain rfl := Option.some.inj (hreturned.symm.trans hx)
      rw [hidle, hmade]
      exact hwhere

theorem lent_acquire {q : PoolConfig} : Lent t (t.acquire q a n) n := by
  unfold Pool.acquire
  split
  next => exact lent_of_held (fun _ => id) (Nat.le_refl _) rfl
  next => exact lent_acquireLoop rfl rfl rfl

theorem lent_resume {q : PoolConfig} : Lent t (t.resume q a n) n := by
  unfold Pool.resume
  dsimp only
  split
  next => exact lent_of_held (fun _ => id) (Nat.le_refl _) rfl
  next => exact lent_acquireLoop rfl rfl rfl

/-- The calls of `acquire` have different numbers, and those that wait have no lease yet. -/
structure Numbered (s : Guards) : Prop where
  acquired : ∀ x ∈ s.acquired, x.call < s.calls
  nodup : (s.acquired.map Lease.call).Nodup
  waits : ∀ g p n, s.building g = some (p, n) →
    s.guards g = none ∧ n < s.calls ∧ n ∉ s.acquired.map Lease.call
  single : ∀ g h p q n, s.building g = some (p, n) → s.building h = some (q, n) → g = h

/-- The call `n` belongs to `g` alone, and has no lease yet. -/
structure Calls (s : Guards) (g n : Nat) : Prop where
  free : s.guards g = none
  lt : n < s.calls
  open_call : n ∉ s.acquired.map Lease.call
  alone : ∀ h q, s.building h = some (q, n) → h = g

theorem Numbered.calls {x : Nat × Nat} (hs : Numbered s) (hg : s.building g = some x) :
    Calls s g x.2 := by
  obtain ⟨p, n⟩ := x
  obtain ⟨hfree, hlt, hopen⟩ := hs.waits g p n hg
  exact ⟨hfree, hlt, hopen, fun h q hh => hs.single h g q p n hh hg⟩

theorem Numbered.fresh (hs : Numbered s) (hg : s.guards g = none) :
    Numbered { s with calls := s.calls + 1 } ∧ Calls { s with calls := s.calls + 1 } g s.calls := by
  have hnew : s.calls ∉ s.acquired.map Lease.call := fun hmem => by
    obtain ⟨x, hx, heq⟩ := List.mem_map.1 hmem
    exact absurd (hs.acquired x hx) (by omega)
  refine ⟨⟨fun x hx => Nat.lt_succ_of_lt (hs.acquired x hx), hs.nodup, fun h q m hh => ?_,
    hs.single⟩, hg, Nat.lt_succ_self _, hnew, fun h q hh => ?_⟩
  · obtain ⟨hfree, hlt, hopen⟩ := hs.waits h q m hh
    exact ⟨hfree, Nat.lt_succ_of_lt hlt, hopen⟩
  · exact absurd (hs.waits h q s.calls hh).2.1 (Nat.lt_irrefl _)

/-- The guards change, but the constructors that wait have none. -/
theorem Numbered.frame (hs : Numbered s) (hcalls : s'.calls = s.calls)
    (hacquired : s'.acquired = s.acquired) (hbuilding : s'.building = s.building)
    (hguards : ∀ k, s.building k ≠ none → s.guards k = none → s'.guards k = none) :
    Numbered s' where
  acquired := by
    rw [hacquired, hcalls]
    exact hs.acquired
  nodup := hacquired ▸ hs.nodup
  waits h q m hh := by
    rw [hbuilding] at hh
    rw [hacquired, hcalls]
    obtain ⟨hfree, hlt, hopen⟩ := hs.waits h q m hh
    exact ⟨hguards h (by simp [hh]) hfree, hlt, hopen⟩
  single := hbuilding ▸ hs.single

theorem of_update {building : Nat → Option (Nat × Nat)} {x : Nat × Nat}
    (hx : Function.update building g none h = some x) : h ≠ g ∧ building h = some x := by
  by_cases hh : h = g
  · simp [hh] at hx
  · exact ⟨hh, by simpa [hh] using hx⟩

/-- The call returns a connection. -/
theorem Numbered.obtain (hs : Numbered s) (hcalls : Calls s g n) (c : Nat) (o : Option Guard) :
    Numbered { s with
      building := Function.update s.building g none
      guards := Function.update s.guards g o
      acquired := s.acquired ++ [⟨n, p, c⟩] } := by
  refine ⟨fun x hx => ?_, ?_, fun h q m hh => ?_, fun h k q r m hh hk => ?_⟩
  · rcases List.mem_append.1 hx with hx | hx
    · exact hs.acquired x hx
    · rw [List.mem_singleton.1 hx]
      exact hcalls.lt
  · rw [List.map_append, List.map_singleton]
    exact Pool.nodup_snoc hs.nodup hcalls.open_call
  · obtain ⟨hne, hwait⟩ := of_update hh
    obtain ⟨hfree, hlt, hopen⟩ := hs.waits h q m hwait
    refine ⟨by simpa [hne] using hfree, hlt, fun hmem => ?_⟩
    rw [List.map_append, List.mem_append] at hmem
    rcases hmem with hmem | hmem
    · exact hopen hmem
    · obtain rfl : m = n := by simpa using hmem
      exact hne (hcalls.alone h q hwait)
  · exact hs.single h k q r m (of_update hh).2 (of_update hk).2

/-- The call returns no connection. -/
theorem Numbered.fail (hs : Numbered s) (o : Option Guard) :
    Numbered { s with
      building := Function.update s.building g none
      guards := Function.update s.guards g o } := by
  refine ⟨hs.acquired, hs.nodup, fun h q m hh => ?_, fun h k q r m hh hk => ?_⟩
  · obtain ⟨hne, hwait⟩ := of_update hh
    obtain ⟨hfree, hrest⟩ := hs.waits h q m hwait
    exact ⟨by simpa [hne] using hfree, hrest⟩
  · exact hs.single h k q r m (of_update hh).2 (of_update hk).2

/-- The call waits. -/
theorem Numbered.wait (hs : Numbered s) (hcalls : Calls s g n) :
    Numbered { s with building := Function.update s.building g (some (p, n)) } := by
  have hcase : ∀ h q m, Function.update s.building g (some (p, n)) h = some (q, m) →
      (h = g ∧ m = n) ∨ h ≠ g ∧ s.building h = some (q, m) := by
    intro h q m hh
    by_cases hg : h = g
    · subst hg
      obtain ⟨-, rfl⟩ : p = q ∧ n = m := by simpa using hh
      exact .inl ⟨rfl, rfl⟩
    · exact .inr ⟨hg, by simpa [hg] using hh⟩
  refine ⟨hs.acquired, hs.nodup, fun h q m hh => ?_, fun h k q r m hh hk => ?_⟩
  · rcases hcase h q m hh with ⟨rfl, rfl⟩ | ⟨-, hwait⟩
    · exact ⟨hcalls.free, hcalls.lt, hcalls.open_call⟩
    · exact hs.waits h q m hwait
  · rcases hcase h q m hh with ⟨rfl, rfl⟩ | ⟨-, hwait⟩
    · rcases hcase k r m hk with ⟨rfl, -⟩ | ⟨-, hwait'⟩
      · rfl
      · exact (hcalls.alone k r hwait').symm
    · rcases hcase k r m hk with ⟨rfl, rfl⟩ | ⟨-, hwait'⟩
      · exact hcalls.alone h q hwait
      · exact hs.single h k q r m hwait hwait'

/-! ## Steps -/

structure Kept (s : Guards) : Prop where
  made : Made s
  balanced : s.ledger.Balanced
  numbered : Numbered s

theorem kept_start : Kept .start :=
  ⟨⟨nofun, nofun⟩, Leases.balanced_start, ⟨nofun, List.nodup_nil, nofun, nofun⟩⟩

theorem Kept.constructed (hs : Kept s) (hcalls : Calls s g n) (hlent : Lent (s.pool p) t n) :
    Kept (s.constructed g p n t) := by
  have hmade : Made (s.put p t) :=
    hs.made.put hlent.made fun c hc => .inl (hlent.idle c hc)
  have hnumbered : Numbered (s.put p t) := hs.numbered.frame rfl rfl rfl fun _ _ => id
  have hcalls' : Calls (s.put p t) g n := ⟨hcalls.free, hcalls.lt, hcalls.open_call, hcalls.alone⟩
  have hheld : s.ledger.holds g = none := by simp [ledger, hcalls.free]
  unfold Guards.constructed
  dsimp only
  split
  next n' c hx =>
    obtain rfl : n' = n := hlent.call _ hx
    refine ⟨⟨hmade.idle, fun x hx' => ?_⟩, ?_, hnumbered.obtain hcalls' c _⟩
    · rcases List.mem_append.1 hx' with hx' | hx'
      · exact hmade.lends x hx'
      · obtain rfl := List.mem_singleton.1 hx'
        rcases hlent.connection _ hx with hc | hc
        · exact (hs.made.idle p c hc).put hlent.made
        · exact owns_new hc
    · have hnew : (⟨n', p, c⟩ : Lease) ∉ s.ledger.taken := fun hmem =>
        hcalls.open_call (List.mem_map_of_mem (f := Lease.call) hmem)
      have hbalanced := hs.balanced.take (x := ⟨n', p, c⟩) hheld hnew
      simp only [ledger, holds_update]
      exact hbalanced
  next hx =>
    split
    next => exact ⟨⟨hmade.idle, hmade.lends⟩, hs.balanced, hnumbered.wait hcalls'⟩
    next =>
      refine ⟨⟨hmade.idle, hmade.lends⟩, ?_, hnumbered.fail _⟩
      have hsame : ((some ⟨p, none⟩ : Option Guard).bind Guard.lease) = s.ledger.holds g :=
        hheld.symm
      simp only [ledger, holds_update, hsame]
      rw [Function.update_eq_self]
      exact hs.balanced

theorem release_spec (t : Pool) (n c : Nat) :
    (t.release a n c).made = t.made ∧ ∀ d ∈ (t.release a n c).idle, d ∈ t.idle ∨ d = c := by
  unfold Pool.release
  dsimp only
  split
  next => exact ⟨rfl, fun d hd => .inl hd⟩
  next =>
    split
    next =>
      refine ⟨rfl, fun d hd => ?_⟩
      rcases List.mem_append.1 hd with hd | hd
      · exact .inl hd
      · exact .inr (List.mem_singleton.1 hd)
    next => exact ⟨rfl, fun d hd => .inl hd⟩

theorem release_guards : (s.release a g).guards =
    Function.update s.guards g ((s.guards g).map fun G => { G with connection := none }) := by
  unfold Guards.release
  split
  next p n c hg => rw [hg, Option.map_some]
  next hg =>
    rw [eq_comm, Function.update_eq_self_iff]
    rcases hG : s.guards g with _ | ⟨p, _ | ⟨n, c⟩⟩
    · rfl
    · rfl
    · exact absurd hG (hg p n c)

theorem release_frame : (s.release a g).calls = s.calls ∧ (s.release a g).acquired = s.acquired ∧
    (s.release a g).building = s.building := by
  unfold Guards.release
  split <;> exact ⟨rfl, rfl, rfl⟩

theorem guards_none_release {k : Nat} (hk : s.guards k = none) :
    (s.release a g).guards k = none := by
  rw [release_guards]
  by_cases hkg : k = g
  · subst hkg
    simp [hk]
  · simpa [hkg] using hk

/-- The connection goes back to the pool that made it. -/
theorem Kept.release (hs : Kept s) : Kept (s.release a g) where
  made := by
    unfold Guards.release
    split
    next p n c hg =>
      have hmem : (⟨n, p, c⟩ : Lease) ∈ s.acquired :=
        hs.balanced.held_taken g _ (by simp [ledger, hg, Guard.lease])
      obtain ⟨hmade, hidle⟩ := release_spec (a := a) (s.pool p) n c
      have hput : Made (s.put p ((s.pool p).release a n c)) := by
        refine hs.made.put (Nat.le_of_eq hmade.symm) fun d hd => ?_
        rcases hidle d hd with hd | rfl
        · exact .inl hd
        · exact .inr (.inr (hs.made.lends _ hmem))
      exact ⟨hput.idle, hput.lends⟩
    next => exact hs.made
  balanced := ledger_release ▸ hs.balanced.giveBack
  numbered := by
    obtain ⟨hcalls, hacquired, hbuilding⟩ := release_frame (s := s) (a := a) (g := g)
    exact hs.numbered.frame hcalls hacquired hbuilding fun k _ => guards_none_release

theorem Kept.destroy (hs : Kept s) : Kept (s.destroy a g) where
  made := ⟨(hs.release (a := a) (g := g)).made.idle, (hs.release (a := a) (g := g)).made.lends⟩
  balanced := ledger_destroy ▸ hs.balanced.giveBack
  numbered := by
    refine (hs.release (a := a) (g := g)).numbered.frame rfl rfl rfl fun k _ hk => ?_
    show Function.update (s.release a g).guards g none k = none
    by_cases hkg : k = g
    · rw [hkg, Function.update_self]
    · rwa [Function.update_of_ne hkg]

theorem Kept.transfer (hs : Kept s) {G H : Guard} (hH : s.guards h = some H) (hne : g ≠ h)
    (hfree : s.ledger.holds g = none) (hbuilding : s.building g = none)
    (hlease : G.lease = H.lease) : Kept (s.transfer g h G H) where
  made := ⟨hs.made.idle, hs.made.lends⟩
  balanced := ledger_transfer hH hlease ▸ hs.balanced.move hfree hne
  numbered := by
    refine hs.numbered.frame rfl rfl rfl fun k hk hnone => ?_
    have hkg : k ≠ g := by
      rintro rfl
      exact hk hbuilding
    have hkh : k ≠ h := by
      rintro rfl
      exact absurd (hnone.symm.trans hH) nofun
    show Function.update (Function.update s.guards g _) h _ k = none
    rw [Function.update_of_ne hkh, Function.update_of_ne hkg, hnone]

/-- A guard that is there waits for nothing. -/
theorem Numbered.building_none (hs : Numbered s) {G : Guard} (hg : s.guards g = some G) :
    s.building g = none := by
  rcases hb : s.building g with _ | ⟨p, n⟩
  · rfl
  · exact absurd ((hs.waits g p n hb).1.symm.trans hg) nofun

theorem Kept.moveAssign (hs : Kept s) (hregular : s.Regular (.moveAssign g h a)) {G H : Guard}
    (hG : s.guards g = some G) (hH : s.guards h = some H) : Kept (s.moveAssign a g h) := by
  unfold Guards.moveAssign
  dsimp only
  split
  next => exact hs
  next hne =>
    have hG' : (s.release a g).guards g = some { G with connection := none } := by
      simp [release_guards, hG]
    have hH' : (s.release a g).guards h = some H := by
      rw [release_guards, Function.update_of_ne (Ne.symm hne), hH]
    have hlease : ({ G with connection := H.connection } : Guard).lease = H.lease := by
      rcases hregular.resolve_left hne with hnone | hpool
      · have hnone : H.connection = none := by simpa [hH] using hnone
        simp [Guard.lease, hnone]
      · have hpool : G.pool = H.pool := by simpa [hG, hH] using hpool
        simp [Guard.lease, hpool]
    rw [hG', hH']
    refine hs.release.transfer hH' hne ?_ ?_ hlease
    · simp [ledger, hG', Guard.lease]
    · exact hs.release.numbered.building_none hG'

theorem Kept.put (hs : Kept s) (hmade : s.made ≤ t.made)
    (hidle : ∀ c ∈ t.idle, c ∈ (s.pools p).idle ∨ s.made ≤ c ∧ c < t.made) :
    Kept (s.put p t) :=
  ⟨hs.made.put hmade fun c hc => (hidle c hc).imp_right .inl, hs.balanced,
    hs.numbered.frame rfl rfl rfl fun _ _ => id⟩

theorem kept_step {l : Action} (hs : Kept s) (hregular : s.Regular l)
    (hstep : s.step cfg l = some s') : Kept s' := by
  cases l with
  | construct g p a =>
    obtain ⟨hfresh, hstep⟩ := Option.ite_none_right_eq_some.1 hstep
    obtain rfl := Option.some.inj hstep
    obtain ⟨hnumbered, hcalls⟩ := hs.numbered.fresh hfresh.1
    have hcounted : Kept { s with calls := s.calls + 1 } :=
      ⟨⟨hs.made.idle, hs.made.lends⟩, hs.balanced, hnumbered⟩
    exact hcounted.constructed hcalls lent_acquire
  | resume g a =>
    obtain ⟨x, hx, hstep⟩ := Option.bind_eq_some_iff.1 hstep
    obtain ⟨t, ht, rfl⟩ := Option.map_eq_some_iff.1 hstep
    obtain ⟨-, ht⟩ := Option.ite_none_right_eq_some.1 ht
    obtain rfl := Option.some.inj ht
    exact hs.constructed (hs.numbered.calls hx) lent_resume
  | timeOut g =>
    obtain ⟨x, hx, hstep⟩ := Option.bind_eq_some_iff.1 hstep
    obtain ⟨t, ht, rfl⟩ := Option.map_eq_some_iff.1 hstep
    obtain ⟨-, ht⟩ := Option.ite_none_right_eq_some.1 ht
    obtain rfl := Option.some.inj ht
    exact hs.constructed (hs.numbered.calls hx) (lent_of_held (fun _ => id) (Nat.le_refl _) rfl)
  | moveConstruct g h =>
    obtain ⟨hfresh, hstep⟩ := Option.ite_none_right_eq_some.1 hstep
    obtain ⟨H, hH, rfl⟩ := Option.map_eq_some_iff.1 hstep
    have hne : g ≠ h := by
      rintro rfl
      exact absurd (hfresh.1.symm.trans hH) nofun
    exact hs.transfer hH hne (by simp [ledger, hfresh.1]) hfresh.2 rfl
  | moveAssign g h a =>
    obtain ⟨hthere, hstep⟩ := Option.ite_none_right_eq_some.1 hstep
    obtain rfl := Option.some.inj hstep
    obtain ⟨G, hG⟩ := Option.isSome_iff_exists.1 hthere.1
    obtain ⟨H, hH⟩ := Option.isSome_iff_exists.1 hthere.2
    exact hs.moveAssign hregular hG hH
  | release g a =>
    obtain ⟨-, hstep⟩ := Option.ite_none_right_eq_some.1 hstep
    exact Option.some.inj hstep ▸ hs.release
  | destroy g a =>
    obtain ⟨-, hstep⟩ := Option.ite_none_right_eq_some.1 hstep
    exact Option.some.inj hstep ▸ hs.destroy
  | maintain p l =>
    obtain ⟨hupkeep, hstep⟩ := Option.ite_none_right_eq_some.1 hstep
    obtain ⟨t, ht, rfl⟩ := Option.map_eq_some_iff.1 hstep
    cases l with
    | init a =>
      obtain rfl := Option.some.inj ht
      have hkept : Pool.Upkept (s.pool p) ((s.pool p).init (cfg p) a).2 := Pool.init_upkept
      exact hs.put hkept.made hkept.idle
    | cleanup a =>
      obtain rfl := Option.some.inj ht
      have hkept : Pool.Upkept (s.pool p) ((s.pool p).cleanupIdleConnections (cfg p) a) :=
        Pool.cleanup_upkept
      exact hs.put hkept.made hkept.idle
    | shutdown =>
      obtain rfl := Option.some.inj ht
      exact hs.put (Nat.le_refl _) fun c hc => .inl hc
    | clear =>
      obtain ⟨-, ht⟩ := Option.ite_none_right_eq_some.1 ht
      obtain rfl := Option.some.inj ht
      exact hs.put (Nat.le_refl _) nofun
    | _ => exact absurd hupkeep Bool.false_ne_true

/-! ## Runs -/

theorem Kept.accounted (hs : Kept s) : Accounted s where
  calls := hs.numbered.nodup
  once := hs.balanced.returned_nodup
  own := hs.balanced.returned_taken
  gone hnone _ hx := hs.balanced.all_returned (fun g => by simp [ledger, hnone g]) hx
  lends x hx := (hs.made.lends x hx).2

/-- In a run in which no guard takes a connection of another pool, every lease is accounted for. -/
theorem guards_accounted {ls : List Action} (h : Run (Guards.step cfg) Guards.Regular .start ls s) :
    Accounted s :=
  (h.invariant (I := Kept) kept_start fun _ _ _ hs hregular => kept_step hs hregular).accounted

end Guards

/-- Both pools have the same configuration. -/
def twoPools : Nat → PoolConfig := fun _ => oneConnection

/-- A guard is moved into a new one, both are destroyed, and the connection is lent again. -/
def movedOn : List Action :=
  [.maintain 0 (.init reachable), .construct 0 0 reachable, .moveConstruct 1 0,
    .destroy 0 reachable, .destroy 1 reachable, .construct 2 0 reachable]

theorem guards_accounted_movedOn :
    ∃ s, exec (Guards.step twoPools) .start movedOn = some s ∧
      s.acquired = [⟨0, 0, 0⟩, ⟨1, 0, 0⟩] ∧ s.released = [⟨0, 0, 0⟩] ∧ Accounted s :=
  ⟨_, rfl, rfl, rfl, Guards.guards_accounted
    (show Run (Guards.step twoPools) Guards.Regular .start movedOn _ from
      .cons trivial rfl (.cons trivial rfl (.cons trivial rfl (.cons trivial rfl
        (.cons trivial rfl (.cons trivial rfl .nil))))))⟩

/-- A guard of the pool 0 is assigned from a guard of the pool 1. -/
def acrossPools : List Action :=
  [.maintain 0 (.init reachable), .maintain 1 (.init reachable), .construct 0 0 reachable,
    .construct 1 1 reachable, .moveAssign 0 1 reachable, .destroy 1 reachable, .destroy 0 reachable,
    .construct 2 0 reachable, .construct 3 0 reachable]

/-- The connection of the pool 1 is released to the pool 0, which lends it. -/
theorem acrossPools_lent :
    ∃ s, exec (Guards.step twoPools) .start acrossPools = some s ∧
      s.acquired = [⟨0, 0, 0⟩, ⟨1, 1, 1⟩, ⟨2, 0, 0⟩, ⟨3, 0, 1⟩] ∧
      s.released = [⟨0, 0, 0⟩, ⟨1, 0, 1⟩] ∧ s.maker 1 = 1 ∧ ¬ Accounted s := by
  refine ⟨_, rfl, rfl, rfl, rfl, fun h => ?_⟩
  have hmem := h.own ⟨1, 0, 1⟩ (List.mem_cons_of_mem _ List.mem_cons_self)
  exact absurd hmem (by decide)

end ChatApp.DatabasePool
