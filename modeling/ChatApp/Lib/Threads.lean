/-
  Threads that run programs over one shared state. A step starts the next job of an idle thread
  or performs the next call of a busy one; `reply` says what a call does, and is `none` while
  the call blocks.

  `Pool.Inv` is an invariant with one protocol state for each thread: every thread follows the
  protocol from its state, and `J` ties the shared state to the protocol states and to the next
  calls. `Pool.inv_step` reduces its preservation to the replies.
-/
import Mathlib.Logic.Function.Basic
import ChatApp.Lib.Prog

namespace ChatApp.Lib

/-- `rest t` is what thread `t` still has to do. -/
structure Pool (I : Interface) (σ θ : Type) where
  shared : σ
  rest : θ → Prog I Unit

inductive PoolStep (θ κ ι : Type)
  | start (t : θ) (job : κ)
  | call (t : θ) (input : ι)

namespace Pool

variable {I : Interface} {σ θ κ ι τ : Type}

/-- The next call of a thread, if it is busy. -/
def next (w : Pool I σ θ) (t : θ) : Option I.Call :=
  match w.rest t with
  | .ret _ => none
  | .call c _ => some c

theorem next_of_call {w : Pool I σ θ} {t : θ} {c : I.Call} {k : I.Answer c → Prog I Unit}
    (h : w.rest t = .call c k) : w.next t = some c := by
  simp [next, h]

theorem rest_of_next {w : Pool I σ θ} {t : θ} {c : I.Call} (h : w.next t = some c) :
    ∃ k, w.rest t = .call c k := by
  unfold next at h
  split at h
  case h_1 => cases h
  case h_2 d k hr =>
    cases h
    exact ⟨k, hr⟩

/-- A thread is about to make a call that `P` allows, or has ended in an idle state. -/
def Proper (P : Protocol I τ) (idle : τ → Prop) (φ : τ) : Option I.Call → Prop
  | none => idle φ
  | some c => P.allows φ c

theorem proper_next {P : Protocol I τ} {idle : τ → Prop} {φ : τ} {p : Prog I Unit} {s : σ} {t : θ}
    (h : Prog.Follows P φ p fun _ => idle) :
    Proper P idle φ (Pool.next (⟨s, fun _ => p⟩ : Pool I σ θ) t) := by
  cases p with
  | ret => exact h
  | call c k => exact h.1

variable [DecidableEq θ]

section
variable (body : κ → Prog I Unit) (reply : θ → σ → (c : I.Call) → ι → Option (I.Answer c × σ))

def step (w : Pool I σ θ) : PoolStep θ κ ι → Option (Pool I σ θ)
  | .start t job =>
    match w.rest t with
    | .ret _ => some { w with rest := Function.update w.rest t (body job) }
    | .call _ _ => none
  | .call t input =>
    match w.rest t with
    | .ret _ => none
    | .call c k =>
      (reply t w.shared c input).map fun r => ⟨r.2, Function.update w.rest t (k r.1)⟩

variable {body reply} {w w' : Pool I σ θ} {t : θ}

theorem step_start {job : κ} (h : w.step body reply (.start t job) = some w') :
    w.rest t = .ret () ∧ w' = { w with rest := Function.update w.rest t (body job) } := by
  simp only [step] at h
  split at h
  case h_1 hr => exact ⟨hr, (Option.some.inj h).symm⟩
  case h_2 => cases h

theorem step_call {input : ι} (h : w.step body reply (.call t input) = some w') :
    ∃ c k a s, w.rest t = .call c k ∧ reply t w.shared c input = some (a, s) ∧
      w' = ⟨s, Function.update w.rest t (k a)⟩ := by
  simp only [step] at h
  split at h
  case h_1 => cases h
  case h_2 c k hr =>
    obtain ⟨⟨a, s⟩, hs, rfl⟩ := Option.map_eq_some_iff.1 h
    exact ⟨c, k, a, s, hr, hs, rfl⟩

end

theorem next_update (w : Pool I σ θ) (s : σ) (t : θ) (p : Prog I Unit) :
    (Pool.next ⟨s, Function.update w.rest t p⟩ : θ → Option I.Call) =
      Function.update w.next t (Pool.next ⟨s, fun _ => p⟩ t) := by
  funext u
  by_cases hu : u = t
  · subst hu; simp [next]
  · simp [next, hu]

/-! ## The invariant rule -/

variable (P : Protocol I τ) (idle : τ → Prop)
  (J : σ → (θ → τ) → (θ → Option I.Call) → Prop)

def Inv (w : Pool I σ θ) : Prop :=
  ∃ φ : θ → τ, (∀ t, Prog.Follows P (φ t) (w.rest t) fun _ => idle) ∧ J w.shared φ w.next

variable {P idle J} {body : κ → Prog I Unit}
  {reply : θ → σ → (c : I.Call) → ι → Option (I.Answer c × σ)}
  {ok : Pool I σ θ → PoolStep θ κ ι → Prop}

theorem inv_step
    (hbody : ∀ job s, idle s → Prog.Follows P s (body job) fun _ => idle)
    (hstart : ∀ (w : Pool I σ θ) φ t c, J w.shared φ w.next → w.next t = none → idle (φ t) →
      Proper P idle (φ t) c → J w.shared φ (Function.update w.next t c))
    (hcall : ∀ (w : Pool I σ θ) φ t input c a s c', J w.shared φ w.next → w.next t = some c →
      P.allows (φ t) c → ok w (.call t input) → reply t w.shared c input = some (a, s) →
      Proper P idle (P.next (φ t) c a) c' →
      J s (Function.update φ t (P.next (φ t) c a)) (Function.update w.next t c'))
    {w w' : Pool I σ θ} {l : PoolStep θ κ ι} (hI : w.Inv P idle J) (hok : ok w l)
    (hs : w.step body reply l = some w') : w'.Inv P idle J := by
  obtain ⟨φ, hφ, hJ⟩ := hI
  cases l with
  | start t job =>
    obtain ⟨hr, rfl⟩ := step_start hs
    have hidle : idle (φ t) := by simpa [hr] using hφ t
    have hjob := hbody job _ hidle
    refine ⟨φ, fun u => ?_, ?_⟩
    · by_cases hu : u = t
      · subst hu; simpa using hjob
      · simpa [hu] using hφ u
    · rw [next_update]
      exact hstart w φ t _ hJ (by simp [next, hr]) hidle (proper_next hjob)
  | call t input =>
    obtain ⟨c, k, a, s, hr, hreply, rfl⟩ := step_call hs
    have hcall' : P.allows (φ t) c ∧ Prog.Follows P (P.next (φ t) c a) (k a) fun _ => idle := by
      have := hφ t
      rw [hr] at this
      exact ⟨this.1, this.2 a⟩
    refine ⟨Function.update φ t (P.next (φ t) c a), fun u => ?_, ?_⟩
    · by_cases hu : u = t
      · subst hu; simpa using hcall'.2
      · simpa [hu] using hφ u
    · rw [next_update]
      exact hcall w φ t input c a s _ hJ (next_of_call hr) hcall'.1 hok hreply
        (proper_next hcall'.2)

end Pool

end ChatApp.Lib
