/-
  Programs over an interface of calls: the free monad on `Interface`. A program is a tree of
  calls; what a call does is given from outside, by an environment (`run`, `trace`) or by the
  step relation of a larger system that holds the rest of the program of each thread.

  `Follows P s p Q`: whatever the answers are, the calls of `p` respect the protocol `P` from
  the protocol state `s`, and `Q` holds of the result and the final protocol state. Its rules
  (`follows_pure`, `follows_call`, `follows_bind`) are a weakest precondition, so that a
  program is checked by `simp` along its syntax.
-/
import Mathlib.Logic.Basic

namespace ChatApp.Lib

/-- The calls a program may make and the answer each of them gives. -/
structure Interface where
  Call : Type
  Answer : Call → Type

inductive Prog (I : Interface) (α : Type) : Type
  | ret (a : α)
  | call (c : I.Call) (k : I.Answer c → Prog I α)

namespace Prog

variable {I : Interface} {α β γ σ ε : Type}

def bind : Prog I α → (α → Prog I β) → Prog I β
  | ret a, f => f a
  | call c k, f => call c fun a => (k a).bind f

instance : Monad (Prog I) where
  pure := ret
  bind := bind

/-- One call, returning its answer. -/
def perform (c : I.Call) : Prog I (I.Answer c) := call c ret

/-- The program without its result. -/
def void (p : Prog I α) : Prog I Unit := p.bind fun _ => ret ()

@[simp] theorem pure_eq_ret (a : α) : (pure a : Prog I α) = ret a := rfl

@[simp] theorem ret_bind (a : α) (f : α → Prog I β) : (ret a : Prog I α) >>= f = f a := rfl

@[simp] theorem call_bind (c : I.Call) (k : I.Answer c → Prog I α) (f : α → Prog I β) :
    call c k >>= f = call c fun a => k a >>= f := rfl

protected theorem bind_assoc (p : Prog I α) (f : α → Prog I β) (g : β → Prog I γ) :
    p >>= f >>= g = p >>= fun a => f a >>= g := by
  induction p with
  | ret a => rfl
  | call c k ih =>
    simp only [call_bind]
    congr 1
    funext a
    exact ih a

instance : LawfulMonad (Prog I) := LawfulMonad.mk' (Prog I)
  (fun p => by
    show p.bind ret = p
    induction p with
    | ret a => rfl
    | call c k ih => exact congrArg (call c) (funext ih))
  (fun _ _ => rfl) Prog.bind_assoc

/-! ## Programs in another monad -/

/-- The program with every call replaced by what `f` does for it. -/
def interpret {m : Type → Type} [Monad m] (f : (c : I.Call) → m (I.Answer c)) : Prog I α → m α
  | ret a => pure a
  | call c k => f c >>= fun a => interpret f (k a)

section
variable {m : Type → Type} [Monad m] (f : (c : I.Call) → m (I.Answer c))

@[simp] theorem interpret_ret (a : α) : interpret f (ret a) = pure a := rfl

@[simp] theorem interpret_ite {b : Prop} [Decidable b] (p q : Prog I α) :
    interpret f (if b then p else q) = if b then interpret f p else interpret f q := by
  split <;> rfl

variable [LawfulMonad m]

theorem interpret_perform (c : I.Call) : interpret f (perform c) = f c := by
  show f c >>= pure = f c
  exact bind_pure _

@[simp] theorem interpret_bind (p : Prog I α) (g : α → Prog I β) :
    interpret f (p >>= g) = interpret f p >>= fun a => interpret f (g a) := by
  induction p with
  | ret a =>
    show interpret f (g a) = pure a >>= fun a => interpret f (g a)
    rw [pure_bind]
  | call c k ih =>
    rw [call_bind, interpret, interpret, bind_assoc]
    exact congrArg _ (funext ih)

end

/-! ## Running against an environment -/

/-- Result and final environment, for an environment that answers every call. -/
def run (env : ε → (c : I.Call) → I.Answer c × ε) : Prog I α → ε → α × ε
  | ret a, e => (a, e)
  | call c k, e => run env (k (env e c).1) (env e c).2

/-- The calls made, in order. -/
def trace (env : ε → (c : I.Call) → I.Answer c × ε) : Prog I α → ε → List I.Call
  | ret _, _ => []
  | call c k, e => c :: trace env (k (env e c).1) (env e c).2

/-- The calls made with their answers, in order. -/
def log (env : ε → (c : I.Call) → I.Answer c × ε) : Prog I α → ε → List ((c : I.Call) × I.Answer c)
  | ret _, _ => []
  | call c k, e => ⟨c, (env e c).1⟩ :: log env (k (env e c).1) (env e c).2

/-- A call with its answer, between the states before and after it. -/
structure Step (I : Interface) (ε : Type) where
  before : ε
  call : I.Call
  answer : I.Answer call
  after : ε

/-- The calls made, with the states around them. -/
def steps (env : ε → (c : I.Call) → I.Answer c × ε) : Prog I α → ε → List (Step I ε)
  | ret _, _ => []
  | call c k, e => ⟨e, c, (env e c).1, (env e c).2⟩ :: steps env (k (env e c).1) (env e c).2

section
variable (env : ε → (c : I.Call) → I.Answer c × ε) (e : ε)

@[simp] theorem run_ret (a : α) : run env (ret a : Prog I α) e = (a, e) := rfl

@[simp] theorem run_call (c : I.Call) (k : I.Answer c → Prog I α) :
    run env (call c k) e = run env (k (env e c).1) (env e c).2 := rfl

@[simp] theorem run_perform (c : I.Call) : run env (perform c : Prog I _) e = env e c := rfl

@[simp] theorem run_bind (p : Prog I α) (f : α → Prog I β) :
    run env (p >>= f) e = run env (f (run env p e).1) (run env p e).2 := by
  induction p generalizing e with
  | ret a => rfl
  | call c k ih => exact ih _ _

@[simp] theorem trace_ret (a : α) : trace env (ret a : Prog I α) e = [] := rfl

@[simp] theorem trace_call (c : I.Call) (k : I.Answer c → Prog I α) :
    trace env (call c k) e = c :: trace env (k (env e c).1) (env e c).2 := rfl

theorem trace_bind (p : Prog I α) (f : α → Prog I β) :
    trace env (p >>= f) e = trace env p e ++ trace env (f (run env p e).1) (run env p e).2 := by
  induction p generalizing e with
  | ret a => rfl
  | call c k ih => exact congrArg (c :: ·) (ih _ _)

theorem log_bind (p : Prog I α) (f : α → Prog I β) :
    log env (p >>= f) e = log env p e ++ log env (f (run env p e).1) (run env p e).2 := by
  induction p generalizing e with
  | ret a => rfl
  | call c k ih => exact congrArg (⟨c, (env e c).1⟩ :: ·) (ih _ _)

theorem steps_bind (p : Prog I α) (f : α → Prog I β) :
    steps env (p >>= f) e = steps env p e ++ steps env (f (run env p e).1) (run env p e).2 := by
  induction p generalizing e with
  | ret a => rfl
  | call c k ih => exact congrArg (⟨e, c, (env e c).1, (env e c).2⟩ :: ·) (ih _ _)

theorem log_eq_steps (p : Prog I α) :
    log env p e = (steps env p e).map fun x => ⟨x.call, x.answer⟩ := by
  induction p generalizing e with
  | ret a => rfl
  | call c k ih => exact congrArg (⟨c, (env e c).1⟩ :: ·) (ih _ _)

end

/-! ## Programs that make only some calls -/

/-- Whatever the answers, `p` makes only calls with `A`. -/
def CallsOnly (A : I.Call → Prop) : Prog I α → Prop
  | ret _ => True
  | call c k => A c ∧ ∀ a, CallsOnly A (k a)

section
variable {A : I.Call → Prop} {p : Prog I α}

theorem callsOnly_bind {f : α → Prog I β} (hp : CallsOnly A p) (hf : ∀ a, CallsOnly A (f a)) :
    CallsOnly A (p >>= f) := by
  induction p with
  | ret a => exact hf a
  | call c k ih => exact ⟨hp.1, fun a => ih a (hp.2 a)⟩

theorem callsOnly_ite {b : Prop} [Decidable b] {q : Prog I α} (hp : CallsOnly A p)
    (hq : CallsOnly A q) : CallsOnly A (if b then p else q) := by
  split
  · exact hp
  · exact hq

theorem callsOnly_of_forall (h : ∀ c, A c) (p : Prog I α) : CallsOnly A p := by
  induction p with
  | ret a => trivial
  | call c k ih => exact ⟨h c, ih⟩

theorem CallsOnly.imp {B : I.Call → Prop} (h : CallsOnly A p) (hAB : ∀ c, A c → B c) :
    CallsOnly B p := by
  induction p with
  | ret a => trivial
  | call c k ih => exact ⟨hAB c h.1, fun a => ih a (h.2 a)⟩

theorem CallsOnly.log (h : CallsOnly A p) (env : ε → (c : I.Call) → I.Answer c × ε) (e : ε) :
    ∀ x ∈ p.log env e, A x.1 := by
  induction p generalizing e with
  | ret a => exact fun x hx => by cases hx
  | call c k ih =>
    intro x hx
    rcases List.mem_cons.1 hx with rfl | hx
    · exact h.1
    · exact ih _ (h.2 _) _ x hx

theorem CallsOnly.steps (h : CallsOnly A p) (env : ε → (c : I.Call) → I.Answer c × ε) (e : ε) :
    ∀ x ∈ p.steps env e, A x.call := by
  induction p generalizing e with
  | ret a => exact fun x hx => by cases hx
  | call c k ih =>
    intro x hx
    rcases List.mem_cons.1 hx with rfl | hx
    · exact h.1
    · exact ih _ (h.2 _) _ x hx

end

/-! ## Protocols -/

end Prog

/-- A protocol automaton over the calls of an interface. -/
structure Protocol (I : Interface) (σ : Type) where
  allows : σ → I.Call → Prop
  next : σ → (c : I.Call) → I.Answer c → σ

namespace Prog

variable {I : Interface} {α β σ ε : Type} {P : Protocol I σ}

/-- Whatever the answers, `p` makes only calls that `P` allows, and ends with `Q`. -/
def Follows (P : Protocol I σ) : σ → Prog I α → (α → σ → Prop) → Prop
  | s, ret a, Q => Q a s
  | s, call c k, Q => P.allows s c ∧ ∀ a, Follows P (P.next s c a) (k a) Q

@[simp] theorem follows_ret {s : σ} {a : α} {Q : α → σ → Prop} :
    Follows P s (ret a) Q ↔ Q a s := Iff.rfl

theorem follows_call {s : σ} {c : I.Call} {k : I.Answer c → Prog I α} {Q : α → σ → Prop} :
    Follows P s (call c k) Q ↔ P.allows s c ∧ ∀ a, Follows P (P.next s c a) (k a) Q := Iff.rfl

theorem follows_bind {s : σ} {p : Prog I α} {f : α → Prog I β} {Q : β → σ → Prop} :
    Follows P s (p >>= f) Q ↔ Follows P s p fun a s' => Follows P s' (f a) Q := by
  induction p generalizing s with
  | ret a => rfl
  | call c k ih =>
    simp only [call_bind, follows_call]
    exact and_congr_right fun _ => forall_congr' fun a => ih a

theorem follows_ite {s : σ} {b : Prop} [Decidable b] {p q : Prog I α} {Q : α → σ → Prop} :
    Follows P s (if b then p else q) Q ↔
      (b → Follows P s p Q) ∧ (¬ b → Follows P s q Q) := by
  split <;> simp_all

theorem Follows.mono {s : σ} {p : Prog I α} {Q Q' : α → σ → Prop} (h : Follows P s p Q)
    (hQ : ∀ a s', Q a s' → Q' a s') : Follows P s p Q' := by
  induction p generalizing s with
  | ret a => exact hQ _ _ h
  | call c k ih => exact ⟨h.1, fun a => ih a (h.2 a)⟩

/-- A protocol that allows everything is followed if the end is always good. -/
theorem follows_of_forall {s : σ} {p : Prog I α} {Q : α → σ → Prop} (hP : ∀ s c, P.allows s c)
    (hQ : ∀ a s, Q a s) : Follows P s p Q := by
  induction p generalizing s with
  | ret a => exact hQ a s
  | call c k ih => exact ⟨hP s c, fun a => ih a⟩

/-- Calls that keep an invariant of the protocol are followed from every state that has it. -/
theorem CallsOnly.follows {A : I.Call → Prop} {J : σ → Prop} {s : σ} {p : Prog I α}
    (h : CallsOnly A p) (hs : J s)
    (hstep : ∀ s c, J s → A c → P.allows s c ∧ ∀ a, J (P.next s c a)) :
    Follows P s p fun _ => J := by
  induction p generalizing s with
  | ret a => exact hs
  | call c k ih =>
    obtain ⟨hallows, hnext⟩ := hstep s c hs h.1
    exact ⟨hallows, fun a => ih a (h.2 a) (hnext a)⟩

/-- Following `P` is following any protocol that simulates it along `R`. -/
theorem Follows.simulate {τ : Type} {P' : Protocol I τ} {R : σ → τ → Prop}
    (hR : ∀ s t c, R s t → P.allows s c →
      P'.allows t c ∧ ∀ a, R (P.next s c a) (P'.next t c a))
    {s : σ} {t : τ} {p : Prog I α} {Q : α → σ → Prop} (hst : R s t) (h : Follows P s p Q) :
    Follows P' t p fun a t' => ∃ s', R s' t' ∧ Q a s' := by
  induction p generalizing s t with
  | ret a => exact ⟨s, hst, h⟩
  | call c k ih =>
    obtain ⟨hc, hn⟩ := hR s t c hst h.1
    exact ⟨hc, fun a => ih a (hn a) (h.2 a)⟩

theorem Follows.void {s : σ} {p : Prog I α} {Q : σ → Prop} (h : Follows P s p fun _ => Q) :
    Follows P s p.void fun _ => Q :=
  follows_bind.2 h

/-- The state of a protocol after calls with their answers. -/
def Protocol.after (P : Protocol I σ) (s : σ) (l : List ((c : I.Call) × I.Answer c)) : σ :=
  l.foldl (fun s x => P.next s x.1 x.2) s

/-- What holds for all answers holds of the log of a run. -/
theorem Follows.log {s : σ} {p : Prog I α} {Q : α → σ → Prop} (h : Follows P s p Q)
    (env : ε → (c : I.Call) → I.Answer c × ε) (e : ε) :
    Q (p.run env e).1 (Protocol.after P s (p.log env e)) := by
  induction p generalizing s e with
  | ret a => exact h
  | call c k ih => exact ih _ (h.2 _) _

/-- In the given environment, `p` makes only calls that `P` allows, and ends with `Q`. -/
def Obeys (P : Protocol I σ) (env : ε → (c : I.Call) → I.Answer c × ε) :
    σ → ε → Prog I α → (α → σ → ε → Prop) → Prop
  | s, e, ret a, Q => Q a s e
  | s, e, call c k, Q =>
    P.allows s c ∧ Obeys P env (P.next s c (env e c).1) (env e c).2 (k (env e c).1) Q

section
variable {env : ε → (c : I.Call) → I.Answer c × ε} {s : σ} {e : ε}

@[simp] theorem obeys_ret {a : α} {Q : α → σ → ε → Prop} :
    Obeys P env s e (ret a) Q ↔ Q a s e := Iff.rfl

theorem obeys_call {c : I.Call} {k : I.Answer c → Prog I α} {Q : α → σ → ε → Prop} :
    Obeys P env s e (call c k) Q ↔
      P.allows s c ∧ Obeys P env (P.next s c (env e c).1) (env e c).2 (k (env e c).1) Q := Iff.rfl

@[simp] theorem obeys_bind {p : Prog I α} {f : α → Prog I β} {Q : β → σ → ε → Prop} :
    Obeys P env s e (p >>= f) Q ↔
      Obeys P env s e p fun a s' e' => Obeys P env s' e' (f a) Q := by
  induction p generalizing s e with
  | ret a => rfl
  | call c k ih =>
    simp only [call_bind, obeys_call]
    exact and_congr_right fun _ => ih _

theorem Obeys.mono {p : Prog I α} {Q Q' : α → σ → ε → Prop} (h : Obeys P env s e p Q)
    (hQ : ∀ a s' e', Q a s' e' → Q' a s' e') : Obeys P env s e p Q' := by
  induction p generalizing s e with
  | ret a => exact hQ _ _ _ h
  | call c k ih => exact ⟨h.1, ih _ h.2⟩

theorem obeys_void {p : Prog I α} {Q : σ → ε → Prop} :
    Obeys P env s e p.void (fun _ => Q) ↔ Obeys P env s e p fun _ => Q :=
  obeys_bind

/-- If the protocol state at the end of `p` is known, `Q` is about the run of `p`. -/
theorem Obeys.iff_run {p : Prog I α} {s₁ : σ} (h : Obeys P env s e p fun _ s' _ => s' = s₁)
    {Q : α → σ → ε → Prop} : Obeys P env s e p Q ↔ Q (p.run env e).1 s₁ (p.run env e).2 := by
  induction p generalizing s e with
  | ret a =>
    have hs : s = s₁ := h
    subst hs
    rfl
  | call c k ih => exact (and_iff_right h.1).trans (ih _ h.2)

/-- What holds for all answers holds for those of an environment. -/
theorem Follows.obeys {p : Prog I α} {Q : α → σ → Prop} (h : Follows P s p Q)
    (env : ε → (c : I.Call) → I.Answer c × ε) (e : ε) : Obeys P env s e p fun a s' _ => Q a s' := by
  induction p generalizing s e with
  | ret a => exact h
  | call c k ih => exact ⟨h.1, ih _ (h.2 _) _⟩

end

/-! ## Programs that may fail -/

section
variable {δ : Type} {p : ExceptT δ (Prog I) α} {f : α → ExceptT δ (Prog I) β} {s : σ}

/-- What `>>=` does with a result. -/
theorem run_bindE : ExceptT.run (p >>= f) = ExceptT.run p >>= fun r =>
    match r with
    | .ok a => ExceptT.run (f a)
    | .error e => .ret (.error e) := by
  show Prog.bind _ _ = Prog.bind _ _
  congr 1
  funext r
  cases r <;> rfl

theorem follows_bindE {Q : Except δ β → σ → Prop} :
    Follows P s (p >>= f).run Q ↔ Follows P s p.run fun r s' =>
      match r with
      | .ok a => Follows P s' (f a).run Q
      | .error e => Q (.error e) s' := by
  rw [run_bindE, follows_bind]
  refine ⟨fun h => h.mono ?_, fun h => h.mono ?_⟩
  · intro r s' h'
    cases r <;> exact h'
  · intro r s' h'
    cases r <;> exact h'

theorem callsOnly_bindE {A : I.Call → Prop} (hp : CallsOnly A p.run)
    (hf : ∀ a, CallsOnly A (f a).run) : CallsOnly A (p >>= f).run := by
  rw [run_bindE]
  refine callsOnly_bind hp fun r => ?_
  cases r with
  | ok a => exact hf a
  | error e => trivial

theorem callsOnly_liftE {A : I.Call → Prop} {q : Prog I α} (h : CallsOnly A q) :
    CallsOnly A (ExceptT.lift q : ExceptT δ (Prog I) α).run :=
  callsOnly_bind h fun _ => trivial

theorem callsOnly_iteE {A : I.Call → Prop} {b : Prop} [Decidable b] {q : ExceptT δ (Prog I) α}
    (hp : b → CallsOnly A p.run) (hq : ¬ b → CallsOnly A q.run) :
    CallsOnly A (if b then p else q).run := by
  split
  · exact hp ‹_›
  · exact hq ‹_›

theorem follows_liftE {q : Prog I α} {Q : Except δ α → σ → Prop} :
    Follows P s (ExceptT.lift q : ExceptT δ (Prog I) α).run Q ↔
      Follows P s q fun a => Q (.ok a) := by
  show Follows P s (q >>= fun a => .ret (.ok a)) Q ↔ _
  rw [follows_bind]
  rfl

end

end Prog

end ChatApp.Lib
