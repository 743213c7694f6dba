/-
  What a step can do: `Move` lists the steps with their effects, and `step_move` is the inversion
  of `step` that the invariants use. `begin` is the step that starts a handler; all other steps
  of the pool leave the handlers alone.
-/
import ChatApp.Pipeline.State
import ChatApp.ThreadPool.Answers

namespace ChatApp.Pipeline

open ChatApp.Lib ChatApp.Protocol ChatApp.Session
open ChatApp.Database (Tables)

variable {ρ : Type} {cfg : ThreadPool.Config} {o : Outside ρ} {s t : State ρ} {l : Label}

inductive Move (cfg : ThreadPool.Config) (o : Outside ρ) (s : State ρ) : Label → State ρ → Prop
  | arrive {r p} (hfree : s.reading r.session = none) (hnew : s.pool.calls s.frames.length = none)
      (hp : ThreadPool.Move cfg s.pool (.invoke s.frames.length (.tryEnqueue true)) p) :
      Move cfg o s (.arrive r) { s with
        pool := p
        frames := s.frames ++ [some r]
        reading := Function.update s.reading r.session (some s.frames.length) }
  | readOn {x n} {refused : List (SessionId × Frame)} (hn : s.reading x = some n)
      (hanswered : s.pool.Answered n) :
      Move cfg o s (.readOn x)
        { s with reading := Function.update s.reading x none, refused := refused }
  | stop {p} (hnew : s.pool.calls s.frames.length = none)
      (hp : ThreadPool.Move cfg s.pool (.invoke s.frames.length .stop) p) :
      Move cfg o s .stop { s with pool := p, frames := s.frames ++ [none] }
  | pool {k p} (hp : ThreadPool.Move cfg s.pool k p) : Move cfg o s (.pool k) { s with pool := p }
  | begin {i k u p r} (hi : s.pool.core.workers[i]? = some .ready)
      (htop : s.pool.core.top k = some u) (hp : ThreadPool.Move cfg s.pool (.worker i k) p)
      (htasks : p.core.tasks = s.pool.core.tasks.eraseIdx k) (hr : s.request? u.id = some r) :
      Move cfg o s (.pool (.worker i k)) { s with
        pool := p
        handlers := Function.update s.handlers u.id (some (r.task (s.logins r.session))) }
  | act {n r c k} (hr : s.request? n = some r) (hn : s.handlers n = some (.call c k))
      (hfree : blocked s.locked c = false) :
      Move cfg o s (.act n) { s with
        logins := setLogin s.logins r.session c
        world := (o.env s.world c).2
        locked := lockAfter s.locked n c
        handlers := Function.update s.handlers n (some (k (o.env s.world c).1))
        acts := s.acts ++ [⟨n, s.world, c, (o.env s.world c).1, (o.env s.world c).2⟩] }
  | others {db : Tables} (h : s.world.2.db.privateMessages.next ≤ db.privateMessages.next) :
      Move cfg o s (.others db) { s with world := (s.world.1, { s.world.2 with db := db }) }

theorem invoke_move {op : ThreadPool.Op} {f : Option Request} (h : invoke cfg s op f = some t) :
    s.pool.calls s.frames.length = none ∧ ∃ p,
      ThreadPool.Move cfg s.pool (.invoke s.frames.length op) p ∧
      t = { s with pool := p, frames := s.frames ++ [f] } := by
  obtain ⟨p, hp, rfl⟩ := Option.map_eq_some_iff.1 h
  exact ⟨(Option.ite_none_right_eq_some.1 hp).1, p, ThreadPool.step_move hp, rfl⟩

theorem readOn_move {x : SessionId} {n : Nat} {r : Request} {call : ThreadPool.Call}
    (hn : s.reading x = some n) (hcall : s.pool.calls n = some call)
    (h : readOn s x r call.pc = some t) : Move cfg o s (.readOn x) t := by
  have hanswered (b : Bool) (hpc : call.pc = .returned b) : s.pool.Answered n :=
    ⟨call, hcall, hpc ▸ rfl⟩
  unfold readOn at h
  split at h
  case h_1 hpc => exact Option.some.inj h ▸ .readOn hn (hanswered _ hpc)
  case h_2 hpc => exact Option.some.inj h ▸ .readOn hn (hanswered _ hpc)
  case h_3 => cases h

/-- A worker is running a task after a step in which it was ready: it has taken it. -/
theorem taken_move {i k : Nat} {p : ThreadPool.State} {u : ThreadPool.Task}
    (hi : s.pool.core.workers[i]? = some .ready) (h : p.core.workers[i]? = some (.running u))
    (hp : ThreadPool.Move cfg s.pool (.worker i k) p) :
    s.pool.core.top k = some u ∧ p.core.tasks = s.pool.core.tasks.eraseIdx k := by
  have hlt : i < s.pool.core.workers.length := (List.getElem?_eq_some_iff.1 hi).1
  cases hp with
  | idle _ _ _ =>
    have hw := (List.getElem?_set_self hlt).symm.trans h
    split at hw
    · cases hw
    · cases hw
  | take _ _ htop =>
    cases (List.getElem?_set_self hlt).symm.trans h
    exact ⟨htop, rfl⟩
  | finish hj => cases hi.symm.trans hj
  | uncount hj => cases hi.symm.trans hj
  | count hj => cases hi.symm.trans hj
  | notify hj => cases hi.symm.trans hj

theorem advance_move {k : ThreadPool.Label} {p : ThreadPool.State}
    (hp : ThreadPool.Move cfg s.pool k p) : Move cfg o s (.pool k) (s.advance p k) := by
  unfold State.advance
  split
  case h_2 => exact .pool hp
  case h_1 i k =>
    split
    case h_2 => exact .pool hp
    case h_1 u hi hrunning =>
      obtain ⟨htop, htasks⟩ := taken_move hi hrunning hp
      unfold State.begin
      split
      next => exact .pool hp
      next r hr => exact .begin hi htop hp htasks hr

theorem step_move (h : step cfg o s l = some t) : Move cfg o s l t := by
  cases l with
  | arrive r =>
    obtain ⟨hfree, h⟩ := Option.ite_none_right_eq_some.1 h
    obtain ⟨u, hu, rfl⟩ := Option.map_eq_some_iff.1 h
    obtain ⟨hnew, p, hp, rfl⟩ := invoke_move hu
    exact .arrive hfree hnew hp
  | readOn x =>
    obtain ⟨n, hn, h⟩ := Option.bind_eq_some_iff.1 h
    obtain ⟨r, -, h⟩ := Option.bind_eq_some_iff.1 h
    obtain ⟨call, hcall, h⟩ := Option.bind_eq_some_iff.1 h
    exact readOn_move hn hcall h
  | stop =>
    obtain ⟨hnew, p, hp, rfl⟩ := invoke_move h
    exact .stop hnew hp
  | pool k =>
    obtain ⟨-, h⟩ := Option.ite_none_right_eq_some.1 h
    obtain ⟨p, hp, rfl⟩ := Option.map_eq_some_iff.1 h
    exact advance_move (ThreadPool.step_move hp)
  | act n =>
    obtain ⟨r, hr, h⟩ := Option.bind_eq_some_iff.1 h
    obtain ⟨p, hn, h⟩ := Option.bind_eq_some_iff.1 h
    cases p with
    | ret => cases h
    | call c k =>
      obtain ⟨hfree, h⟩ := Option.ite_none_left_eq_some.1 h
      exact Option.some.inj h ▸ .act hr hn (Bool.not_eq_true _ ▸ hfree)
  | others db =>
    obtain ⟨hnext, h⟩ := Option.ite_none_right_eq_some.1 h
    exact Option.some.inj h ▸ .others hnext

end ChatApp.Pipeline
