/-
  Operations over whole methods of `Database`. `Methods` names the methods that a group of
  operations calls; a program over them (`MethodM`) makes a call for each method, and the other
  calls of a session as they are (`outside`). `expand` puts the statements of the methods back:
  an operation is written here once more, over methods, and `expand` gives the one of the session.

  A method holds `mutex_` from its first statement to its last, so that a call of it is one step on
  the tables (`answer`), in the circumstances of an `Occasion`.
-/
import ChatApp.Database.Atomic
import ChatApp.Lib.Workers
import ChatApp.Session.Managers

namespace ChatApp.Session

open ChatApp.Lib ChatApp.Database

structure Methods where
  Method : Type
  Answer : Method → Type
  prog : (c : Method) → DbProg (Answer c)

inductive MethodCall (M : Methods)
  | method (c : M.Method)
  | outside (c : Call)

abbrev MethodCall.Answer {M : Methods} : MethodCall M → Type
  | method c => M.Answer c
  | outside c => c.Answer

abbrev Methods.interface (M : Methods) : Interface := ⟨MethodCall M, MethodCall.Answer⟩

abbrev MethodM (M : Methods) := ExceptT Stop (Prog M.interface)

namespace Methods

variable (M : Methods)

def call (c : M.Method) : MethodM M (M.Answer c) :=
  ExceptT.lift (Prog.perform (I := M.interface) (.method c))

variable {M} {α β : Type}

/-- The calls of a session that are not methods. -/
def outside (p : SessionM α) : MethodM M α :=
  ExceptT.mk (Prog.interpret (fun c => Prog.perform (I := M.interface) (.outside c)) p.run)

/-! ## The statements of the methods -/

def issue : (c : MethodCall M) → SessionM c.Answer
  | .method c => db (M.prog c)
  | .outside c => request c

def ofExcept : Except Stop α → SessionM α
  | .ok a => pure a
  | .error stop => throw stop

def expand (p : MethodM M α) : SessionM α := Prog.interpret issue p.run >>= ofExcept

@[simp] theorem expand_pure (a : α) : expand (pure a : MethodM M α) = pure a := rfl

@[simp] theorem expand_call (c : M.Method) : expand (M.call c) = db (M.prog c) := by
  show (issue (M := M) (.method c) >>= fun a => pure (Except.ok a)) >>= ofExcept = _
  rw [bind_assoc]
  exact bind_pure _

@[simp] theorem expand_bind (p : MethodM M α) (f : α → MethodM M β) :
    expand (p >>= f) = expand p >>= fun a => expand (f a) := by
  unfold expand
  rw [Prog.run_bindE, Prog.interpret_bind, bind_assoc, bind_assoc]
  congr 1
  funext r
  cases r <;> rfl

@[simp] theorem expand_ite {b : Prop} [Decidable b] (p q : MethodM M α) :
    expand (if b then p else q) = if b then expand p else expand q := by
  split <;> rfl

@[simp] theorem expand_outside (p : SessionM α) : expand (outside p : MethodM M α) = p := by
  suffices h : ∀ q : Prog Session.interface (Except Stop α),
      Prog.interpret issue
        (Prog.interpret (fun c => Prog.perform (I := M.interface) (.outside c)) q)
        >>= ofExcept = ExceptT.mk q from h p.run
  intro q
  induction q with
  | ret r => cases r <;> rfl
  | call c k ih =>
    show (request c >>= fun a => _) >>= ofExcept = _
    rw [bind_assoc]
    exact congrArg (request c >>= ·) (funext ih)

end Methods

/-! ## Programs that leave `mutex_` free -/

/-- Whatever the answers are, `mutex_` is free at the end. -/
def Frees {α : Type} : Bool → DbProg α → Prop
  | held, .ret _ => held = false
  | held, .call c k => ∀ a, Frees (holds held c) (k a)

section
variable {α β : Type} {p : DbProg α} {f : α → DbProg β} {held : Bool}

theorem frees_locked (p : DbProg α) : Frees held (locked p) := by
  intro _
  show Frees true (p >>= fun a => unlockMutex >>= fun _ => .ret a)
  generalize true = held
  induction p generalizing held with
  | ret a => exact fun _ => rfl
  | call c k ih => exact fun a => ih a _

theorem frees_bind (hp : Frees held p) (hf : ∀ a, Frees false (f a)) : Frees held (p >>= f) := by
  induction p generalizing held with
  | ret a =>
    have hfree : held = false := hp
    subst hfree
    exact hf a
  | call c k ih => exact fun a => ih a (hp a)

theorem lift_bind (hp : Frees held p) :
    lift held (p >>= f) = lift held p >>= fun a => lift false (f a) := by
  induction p generalizing held with
  | ret a =>
    have hfree : held = false := hp
    subst hfree
    exact (pure_bind a fun a => lift false (f a)).symm
  | call c k ih =>
    show (dbCall held c >>= fun a => lift (holds held c) (k a >>= f)) = (dbCall held c >>= _) >>= _
    rw [bind_assoc]
    exact congrArg (dbCall held c >>= ·) (funext fun a => ih a (hp a))

/-- One method after another. -/
theorem db_bind (hp : Frees false p) : db (p >>= f) = db p >>= fun a => db (f a) := lift_bind hp

theorem db_pure (a : α) : db (pure a) = pure a := rfl

theorem db_ite {b : Prop} [Decidable b] (p q : DbProg α) :
    db (if b then p else q) = if b then db p else db q := by
  split <;> rfl

end

/-! ## The tables -/

/-- The circumstances of a call, and what a call that is no method answers. -/
structure Occasion where
  moment : Moment
  outside : (c : Call) → c.Answer

variable {M : Methods} {S : Type}

/-- What a call answers on an occasion, and the tables after it. -/
def Methods.answer (M : Methods) (exec : Exec S) (x : Occasion) (db : S) :
    (c : MethodCall M) → c.Answer × S
  | .method c => atomically exec x.moment (M.prog c) db
  | .outside c => (x.outside c, db)

/-! ## Contracts -/

section
variable {κ τ : Type} {R : κ → Type} {α β : Type} {C : Contract M.interface κ R τ} {op : κ} {φ : τ}

/-- An operation keeps the contract from a phase on. -/
abbrev Methods.Keeps (C : Contract M.interface κ R τ) (op : κ) (φ : τ) (p : MethodM M α)
    (Q : Except Stop α → τ → Prop) : Prop :=
  Prog.Follows (C.protocol op) φ p.run Q

namespace Methods

theorem keeps_bind {p : MethodM M α} {f : α → MethodM M β} {Q : Except Stop α → τ → Prop}
    {Q' : Except Stop β → τ → Prop} (hp : Keeps C op φ p Q)
    (hf : ∀ a φ', Q (.ok a) φ' → Keeps C op φ' (f a) Q')
    (hstop : ∀ stop φ', Q (.error stop) φ' → Q' (.error stop) φ') : Keeps C op φ (p >>= f) Q' := by
  refine Prog.follows_bindE.2 (Prog.Follows.mono hp fun r φ' hr => ?_)
  cases r with
  | ok a => exact hf a φ' hr
  | error stop => exact hstop stop φ' hr

theorem keeps_call {c : M.Method} {Q : Except Stop (M.Answer c) → τ → Prop}
    (hc : C.allows op φ (.method c)) (h : ∀ a : M.Answer c, Q (.ok a) (C.next op φ (.method c) a)) :
    Keeps C op φ (M.call c) Q :=
  Prog.follows_liftE.2 ⟨hc, h⟩

theorem keeps_ite {b : Prop} [Decidable b] {p q : MethodM M α} {Q : Except Stop α → τ → Prop}
    (hp : b → Keeps C op φ p Q) (hq : ¬ b → Keeps C op φ q Q) :
    Keeps C op φ (if b then p else q) Q := by
  split
  · exact hp ‹_›
  · exact hq ‹_›

theorem keeps_pure {a : α} {Q : Except Stop α → τ → Prop} (h : Q (.ok a) φ) :
    Keeps C op φ (pure a) Q := h

theorem keeps_request {c : Call} {Q : Except Stop c.Answer → τ → Prop}
    (hc : C.allows op φ (.outside c)) (h : ∀ a : c.Answer, Q (.ok a) (C.next op φ (.outside c) a)) :
    Keeps C op φ (outside (request c)) Q := ⟨hc, h⟩

theorem callsOnly_call {A : M.interface.Call → Prop} {c : M.Method} (h : A (.method c)) :
    Prog.CallsOnly A (M.call c).run :=
  Prog.callsOnly_liftE ⟨h, fun _ => trivial⟩

theorem callsOnly_outside {A : M.interface.Call → Prop} (hA : ∀ c, A (.outside c))
    (p : SessionM α) : Prog.CallsOnly A (outside p : MethodM M α).run := by
  show Prog.CallsOnly A (Prog.interpret _ p.run)
  generalize p.run = q
  induction q with
  | ret r => trivial
  | call c k ih => exact ⟨hA c, ih⟩

end Methods

end

end ChatApp.Session
