/-
  The order in which the frames of a session take effect. Workers take the frames independently
  of each other, so two frames of a session can be in handling at once. `InOrder` leaves out the
  steps that start a frame before the earlier frames of its session are settled, and
  `Sequenced` is the invariant of what is left: while a frame is handled, all earlier ones of the
  session have been handled or refused.
-/
import ChatApp.Pipeline.Moves

namespace ChatApp.Pipeline

open ChatApp.Lib ChatApp.Protocol ChatApp.Session
open ChatApp.Database (Tables)

variable {ρ : Type} {cfg : ThreadPool.Config} {o : Outside ρ} {s t : State ρ} {l : Label}
  {x : SessionId} {m n : Nat}

/-- The frame does not wait for a worker, and is not in handling. -/
def State.Settled (s : State ρ) (n : Nat) : Prop :=
  (∀ u ∈ s.pool.core.tasks, u.id ≠ n) ∧ ended (s.handlers n) = true

instance (s : State ρ) (n : Nat) : Decidable (s.Settled n) := inferInstanceAs (Decidable (_ ∧ _))

/-- A worker takes a frame of the session only when the earlier ones are settled. -/
def InOrder (x : SessionId) (s : State ρ) : Label → Prop
  | .pool (.worker i k) => s.pool.core.workers[i]? = some .ready →
    ∀ u ∈ s.pool.core.top k, s.session? u.id = some x →
      ∀ m < u.id, s.session? m = some x → s.Settled m
  | _ => True

/-! ## Frames -/

section
variable {f : Option Request} (ht : t.frames = s.frames ++ [f])
include ht

/-- An old frame, after another one was added. -/
theorem request_append (hn : n ≠ s.frames.length) : t.request? n = s.request? n := by
  unfold State.request?
  rw [ht]
  rcases Nat.lt_or_gt_of_ne hn with hlt | hgt
  · rw [List.getElem?_append_left hlt]
  · rw [List.getElem?_eq_none (by simp; omega), List.getElem?_eq_none (by omega)]

theorem request_new : t.request? s.frames.length = f := by
  simp [State.request?, ht]

theorem session_append (hn : n ≠ s.frames.length) : t.session? n = s.session? n :=
  congrArg _ (request_append ht hn)

end

theorem request_same (h : t.frames = s.frames) : t.request? = s.request? := by
  unfold State.request?
  rw [h]

theorem session_same (h : t.frames = s.frames) : t.session? = s.session? := by
  unfold State.session?
  rw [request_same h]

theorem lt_of_session (h : s.session? n = some x) : n < s.frames.length := by
  obtain ⟨r, hr, -⟩ := Option.map_eq_some_iff.1 h
  obtain ⟨f, hf, -⟩ := Option.bind_eq_some_iff.1 hr
  exact (List.getElem?_eq_some_iff.1 hf).1

/-! ## The invariant -/

structure Sequenced (x : SessionId) (s : State ρ) : Prop where
  placed : ThreadPool.Placed s.pool
  known : ∀ n p, s.handlers n = some p →
    s.pool.Answered n ∧ ∀ u ∈ s.pool.core.tasks, u.id ≠ n
  handed : ∀ n, s.session? n = some x → s.pool.Answered n ∨ s.reading x = some n
  earlier : ∀ m n, m < n → s.session? m = some x → s.session? n = some x → s.pool.Answered m
  settled : ∀ n p, s.handlers n = some p → s.session? n = some x →
    ∀ m < n, s.session? m = some x → s.Settled m
  started : ∀ a ∈ s.acts, ∃ p, s.handlers a.frame = some p
  ordered : s.acts.Pairwise fun a b =>
    s.session? a.frame = some x → s.session? b.frame = some x → a.frame ≤ b.frame

theorem sequenced_start {world : ρ × Connected} : Sequenced x (.start cfg world) := by
  have hnone (n : Nat) : (State.start cfg world).session? n ≠ some x := (Option.some_ne_none x).symm
  have hidle (n : Nat) (p : Prog interface Unit) : (State.start cfg world).handlers n ≠ some p :=
    (Option.some_ne_none p).symm
  exact ⟨ThreadPool.placed_start, fun n p h => absurd h (hidle n p), fun n h => absurd h (hnone n),
    fun _ n _ _ h => absurd h (hnone n), fun n p h => absurd h (hidle n p),
    fun a ha => absurd ha List.not_mem_nil, List.Pairwise.nil⟩

/-- A handler that has started is not the frame that comes next. -/
theorem Sequenced.ne_new {p : Prog interface Unit} (hs : Sequenced x s)
    (hnew : s.pool.calls s.frames.length = none) (hn : s.handlers n = some p) :
    n ≠ s.frames.length := by
  rintro rfl
  obtain ⟨⟨call, hcall, -⟩, -⟩ := hs.known _ p hn
  exact Option.some_ne_none call (hcall.symm.trans hnew)

/-- A step of the pool does not unsettle a frame that was handed over. -/
theorem State.Settled.pool {k : ThreadPool.Label} {p : ThreadPool.State} (h : s.Settled n)
    (hn : s.pool.Answered n) (hp : ThreadPool.Move cfg s.pool k p) :
    ∀ u ∈ p.core.tasks, u.id ≠ n :=
  hp.unqueued hn h.1

theorem Sequenced.known_pool {k : ThreadPool.Label} {p : ThreadPool.State} (hs : Sequenced x s)
    (hp : ThreadPool.Move cfg s.pool k p) : ∀ n q, s.handlers n = some q →
      p.Answered n ∧ ∀ u ∈ p.core.tasks, u.id ≠ n := by
  intro n q hn
  obtain ⟨hanswered, hqueue⟩ := hs.known n q hn
  exact ⟨hp.answered hanswered, hp.unqueued hanswered hqueue⟩

theorem Sequenced.settled_pool {k : ThreadPool.Label} {p : ThreadPool.State} (hs : Sequenced x s)
    (hp : ThreadPool.Move cfg s.pool k p) : ∀ n q, s.handlers n = some q → s.session? n = some x →
      ∀ m < n, s.session? m = some x →
        (∀ u ∈ p.core.tasks, u.id ≠ m) ∧ ended (s.handlers m) = true := by
  intro n q hn hx m hm hmx
  have hsettled := hs.settled n q hn hx m hm hmx
  exact ⟨hsettled.pool (hs.earlier m n hm hmx hx) hp, hsettled.2⟩

/-- A new call of the pool, with the frame that it is for. -/
theorem Sequenced.invoke {op : ThreadPool.Op} {p : ThreadPool.State} {f : Option Request}
    (hs : Sequenced x s) (hnew : s.pool.calls s.frames.length = none)
    (hp : ThreadPool.Move cfg s.pool (.invoke s.frames.length op) p)
    (hpool : t.pool = p) (hframes : t.frames = s.frames ++ [f])
    (hhandlers : t.handlers = s.handlers)
    (hacts : t.acts = s.acts)
    (hreading : f.map Request.session = some x ∧ s.reading x = none ∧
        t.reading x = some s.frames.length ∨
      f.map Request.session ≠ some x ∧ t.reading x = s.reading x) : Sequenced x t := by
  subst hpool
  have hold {n : Nat} (h : t.session? n = some x) (hn : n ≠ s.frames.length) :
      s.session? n = some x := session_append hframes hn ▸ h
  have hfree {n : Nat} (h : t.session? n = some x) (hn : n = s.frames.length) :
      s.reading x = none ∧ t.reading x = some n := by
    subst hn
    have hf : f.map Request.session = some x := request_new hframes ▸ h
    rcases hreading with ⟨-, hreading⟩ | ⟨hne, -⟩
    · exact hreading
    · exact absurd hf hne
  refine ⟨hs.placed.move hp, ?_, fun n hx => ?_, fun m n hm hmx hx => ?_, ?_, ?_, ?_⟩
  · rw [hhandlers]
    exact hs.known_pool hp
  · by_cases hn : n = s.frames.length
    · exact .inr (hfree hx hn).2
    · rcases hs.handed n (hold hx hn) with hanswered | hread
      · exact .inl (hp.answered hanswered)
      · rcases hreading with ⟨-, hnone, -⟩ | ⟨-, hsame⟩
        · exact absurd (hnone.symm.trans hread) (Option.some_ne_none n).symm
        · exact .inr (hsame.trans hread)
  · have hlt : n < t.frames.length := lt_of_session hx
    rw [hframes, List.length_append, List.length_singleton] at hlt
    have hmx' := hold hmx (by omega)
    by_cases hn : n = s.frames.length
    · rcases hs.handed m hmx' with hanswered | hread
      · exact hp.answered hanswered
      · exact absurd ((hfree hx hn).1.symm.trans hread) (Option.some_ne_none m).symm
    · exact hp.answered (hs.earlier m n hm hmx' (hold hx hn))
  · intro n q hn hx m hm hmx
    rw [hhandlers] at hn
    have hne := hs.ne_new hnew hn
    have hlt : n < s.frames.length := lt_of_session (hold hx hne)
    unfold State.Settled
    rw [hhandlers]
    exact hs.settled_pool hp n q hn (hold hx hne) m hm (hold hmx (by omega))
  · rw [hacts, hhandlers]
    exact hs.started
  · rw [hacts]
    refine hs.ordered.imp_of_mem fun ha hb hab hax hbx => ?_
    obtain ⟨pa, hpa⟩ := hs.started _ ha
    obtain ⟨pb, hpb⟩ := hs.started _ hb
    exact hab (hold hax (hs.ne_new hnew hpa)) (hold hbx (hs.ne_new hnew hpb))

/-- A worker starts the handler of a frame. -/
theorem Sequenced.begin {i k : Nat} {u : ThreadPool.Task} {p : ThreadPool.State}
    {q : Prog interface Unit} (hs : Sequenced x s) (hok : InOrder x s (.pool (.worker i k)))
    (hi : s.pool.core.workers[i]? = some .ready) (htop : s.pool.core.top k = some u)
    (hp : ThreadPool.Move cfg s.pool (.worker i k) p)
    (htasks : p.core.tasks = s.pool.core.tasks.eraseIdx k) :
    Sequenced x
      { s with pool := p, handlers := Function.update s.handlers u.id (some q) } := by
  have hmem := ThreadPool.mem_of_top htop
  have hne {m : Nat} (h : s.Settled m) : m ≠ u.id := fun heq => h.1 u hmem heq.symm
  refine ⟨hs.placed.move hp, fun n q' hn => ?_, fun n hx => ?_, fun m n hm hmx hx => ?_,
    fun n q' hn hx m hm hmx => ?_, fun a ha => ?_, hs.ordered⟩
  · rcases eq_or_ne n u.id with rfl | hn'
    · refine ⟨hp.answered (hs.placed.answered hmem), ?_⟩
      show ∀ v ∈ p.core.tasks, v.id ≠ u.id
      rw [htasks]
      exact hs.placed.taken htop
    · exact hs.known_pool hp n q' ((Function.update_of_ne hn' _ _).symm.trans hn)
  · exact (hs.handed n hx).imp_left hp.answered
  · exact hp.answered (hs.earlier m n hm hmx hx)
  · have hsettled : s.Settled m := by
      rcases eq_or_ne n u.id with rfl | hn'
      · exact hok hi u htop hx m hm hmx
      · exact hs.settled n q' ((Function.update_of_ne hn' _ _).symm.trans hn) hx m hm hmx
    refine ⟨hsettled.pool (hs.earlier m n hm hmx hx) hp, ?_⟩
    show ended (Function.update s.handlers u.id (some q) m) = true
    rw [Function.update_of_ne (hne hsettled)]
    exact hsettled.2
  · rcases eq_or_ne a.frame u.id with ha' | ha'
    · exact ⟨q, ha' ▸ Function.update_self _ _ _⟩
    · exact (hs.started a ha).imp fun _ h => (Function.update_of_ne ha' _ _).trans h

/-- A handler makes a call: no later frame of the session has started. -/
theorem Sequenced.act {c : Call} {k : c.Answer → Prog interface Unit} {q : Prog interface Unit}
    {step : Prog.Step interface (ρ × Connected)} (hs : Sequenced x s)
    (hn : s.handlers n = some (.call c k)) (hpool : t.pool = s.pool) (hframes : t.frames = s.frames)
    (hreading : t.reading = s.reading)
    (hhandlers : t.handlers = Function.update s.handlers n (some q))
    (hacts : t.acts = s.acts ++ [⟨n, step⟩]) : Sequenced x t := by
  have hsession : t.session? = s.session? := session_same hframes
  have hstarted {m : Nat} {p : Prog interface Unit} (hm : t.handlers m = some p) :
      ∃ p, s.handlers m = some p := by
    rw [hhandlers] at hm
    rcases eq_or_ne m n with rfl | hne
    · exact ⟨_, hn⟩
    · exact ⟨p, (Function.update_of_ne hne _ _).symm.trans hm⟩
  have hbusy : ¬ s.Settled n := by
    rintro ⟨-, h⟩
    rw [hn] at h
    exact Bool.false_ne_true h
  refine ⟨hpool ▸ hs.placed, ?_, ?_, ?_, ?_, ?_, ?_⟩
  · intro m p hm
    obtain ⟨p', hp'⟩ := hstarted hm
    exact hpool ▸ hs.known m p' hp'
  · rw [hsession, hpool, hreading]
    exact hs.handed
  · rw [hsession, hpool]
    exact hs.earlier
  · intro m p hm hx m' hm' hmx
    rw [hsession] at hx hmx
    obtain ⟨p', hp'⟩ := hstarted hm
    have hsettled := hs.settled m p' hp' hx m' hm' hmx
    have hne : m' ≠ n := fun heq => hbusy (heq ▸ hsettled)
    refine ⟨hpool ▸ hsettled.1, ?_⟩
    rw [hhandlers, Function.update_of_ne hne]
    exact hsettled.2
  · intro a ha
    rw [hhandlers]
    rcases eq_or_ne a.frame n with ha' | ha'
    · exact ⟨q, ha' ▸ Function.update_self _ _ _⟩
    rw [Function.update_of_ne ha']
    rcases List.mem_append.1 (hacts ▸ ha) with ha | ha
    · exact hs.started a ha
    · exact absurd (congrArg Act.frame (List.mem_singleton.1 ha)) ha'
  · rw [hacts, hsession]
    refine List.pairwise_append.2 ⟨hs.ordered, List.pairwise_singleton _ _,
      fun a ha b hb hax hbx => ?_⟩
    obtain rfl := List.mem_singleton.1 hb
    by_contra hlater
    obtain ⟨p, hp⟩ := hs.started a ha
    exact hbusy (hs.settled _ p hp hax n (Nat.lt_of_not_le hlater) hbx)

theorem Sequenced.move (hs : Sequenced x s) (hok : InOrder x s l) (h : Move cfg o s l t) :
    Sequenced x t := by
  cases h with
  | @arrive r p hfree hnew hp =>
    refine hs.invoke hnew hp rfl rfl rfl rfl ?_
    by_cases hr : r.session = x
    · subst hr
      exact .inl ⟨rfl, hfree, Function.update_self _ _ _⟩
    · exact .inr ⟨fun h => hr (Option.some.inj h), Function.update_of_ne (Ne.symm hr) _ _⟩
  | stop hnew hp => exact hs.invoke hnew hp rfl rfl rfl rfl (.inr ⟨nofun, rfl⟩)
  | @readOn y n refused hn hanswered =>
    refine ⟨hs.placed, hs.known, fun m hm => ?_, hs.earlier, hs.settled, hs.started, hs.ordered⟩
    rcases hs.handed m hm with hm | hread
    · exact .inl hm
    · rcases eq_or_ne x y with rfl | hne
      · exact .inl (Option.some.inj (hn.symm.trans hread) ▸ hanswered)
      · exact .inr ((Function.update_of_ne hne _ _).trans hread)
  | pool hp =>
    exact ⟨hs.placed.move hp, hs.known_pool hp, fun n hx => (hs.handed n hx).imp_left hp.answered,
      fun m n hm hmx hx => hp.answered (hs.earlier m n hm hmx hx), hs.settled_pool hp, hs.started,
      hs.ordered⟩
  | begin hi htop hp htasks hr => exact hs.begin hok hi htop hp htasks
  | act hr hn hfree => exact hs.act hn rfl rfl rfl rfl rfl
  | others => exact ⟨hs.placed, hs.known, hs.handed, hs.earlier, hs.settled, hs.started, hs.ordered⟩

theorem sequenced_run {world : ρ × Connected} {ls : List Label}
    (h : Run (step cfg o) (InOrder x) (.start cfg world) ls s) : Sequenced x s :=
  h.invariant sequenced_start fun _ _ _ hs hok hstep => hs.move hok (step_move hstep)

end ChatApp.Pipeline
