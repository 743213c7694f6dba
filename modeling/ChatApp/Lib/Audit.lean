/-
  Programs under audit: a protocol whose state is the list of what has happened so far, so that
  whether a call is allowed may depend on all that has been answered before it.

  `Audited A l p Q`: after the events `l`, whatever the answers are, `p` makes only calls that
  `A` allows where they are made; the events at its end go on from `l`, and have `Q`.
  `Follows.audit_log` reads this off the log of a run.
-/
import Mathlib.Data.List.Infix
import ChatApp.Lib.Prog

namespace ChatApp.Lib

/-- What an audit writes down for a call and its answer, and which calls it allows after what it
    has written. -/
structure Audit (I : Interface) (E : Type) where
  allows : List E → I.Call → Prop
  record : (c : I.Call) → I.Answer c → E

def Audit.protocol {I : Interface} {E : Type} (A : Audit I E) : Protocol I (List E) where
  allows := A.allows
  next l c a := l ++ [A.record c a]

namespace Prog

variable {I : Interface} {E α β ε : Type} {A : Audit I E} {l l₀ : List E} {p : Prog I α}
  {Q Q' : α → List E → Prop}

def Audited (A : Audit I E) (l : List E) (p : Prog I α) (Q : α → List E → Prop) : Prop :=
  Follows A.protocol l p fun a l' => l <+: l' ∧ Q a l'

theorem audited_ret {a : α} (h : Q a l) : Audited A l (ret a) Q := ⟨List.prefix_rfl, h⟩

theorem Audited.mono (h : Audited A l p Q) (hQ : ∀ a l', l <+: l' → Q a l' → Q' a l') :
    Audited A l p Q' :=
  Follows.mono h fun a l' h => ⟨h.1, hQ a l' h.1 h.2⟩

/-- What goes on from a longer list goes on from this one. -/
theorem Audited.of_later (h : Audited A l p Q) (hl : l₀ <+: l) :
    Follows A.protocol l p fun a l' => l₀ <+: l' ∧ Q a l' :=
  Follows.mono h fun _ _ h => ⟨hl.trans h.1, h.2⟩

theorem audited_call {c : I.Call} {k : I.Answer c → Prog I α} (hc : A.allows l c)
    (hk : ∀ a, Audited A (l ++ [A.record c a]) (k a) Q) : Audited A l (call c k) Q :=
  ⟨hc, fun a => (hk a).of_later (List.prefix_append _ _)⟩

theorem audited_perform {c : I.Call} {R : I.Answer c → List E → Prop} (hc : A.allows l c)
    (hR : ∀ a, R a (l ++ [A.record c a])) : Audited A l (perform c) R :=
  audited_call hc fun a => audited_ret (hR a)

theorem audited_bind {f : α → Prog I β} {R : β → List E → Prop} (hp : Audited A l p Q)
    (hf : ∀ a l', l <+: l' → Q a l' → Audited A l' (f a) R) : Audited A l (p >>= f) R :=
  follows_bind.2 (Follows.mono hp fun a l' h => (hf a l' h.1 h.2).of_later h.1)

theorem audited_ite {b : Prop} [Decidable b] {q : Prog I α} (hp : b → Audited A l p Q)
    (hq : ¬ b → Audited A l q Q) : Audited A l (if b then p else q) Q := by
  split
  · exact hp ‹_›
  · exact hq ‹_›

/-- Calls that stay allowed, whatever is answered. -/
theorem audited_of_callsOnly (h : CallsOnly (fun c => ∀ l', l <+: l' → A.allows l' c) p) :
    Audited A l p fun _ _ => True := by
  induction p generalizing l with
  | ret a => exact audited_ret trivial
  | call c k ih =>
    refine audited_call (h.1 l List.prefix_rfl) fun a => ih a ?_
    exact (h.2 a).imp fun c hc l' hl' => hc l' ((List.prefix_append _ _).trans hl')

/-- In the log of a run, each call is one that was allowed after what came before it. -/
theorem Follows.audit_log (h : Follows A.protocol l p Q)
    (env : ε → (c : I.Call) → I.Answer c × ε) (e : ε)
    {before after : List ((c : I.Call) × I.Answer c)} {c : I.Call} {a : I.Answer c}
    (hlog : p.log env e = before ++ ⟨c, a⟩ :: after) :
    A.allows (l ++ before.map fun x => A.record x.1 x.2) c := by
  induction p generalizing l e before with
  | ret b =>
    have hnil : [] = before ++ ⟨c, a⟩ :: after := hlog
    exact absurd hnil.symm (List.append_ne_nil_of_right_ne_nil _ (List.cons_ne_nil _ _))
  | call d k ih =>
    have hcons : ⟨d, (env e d).1⟩ :: (k (env e d).1).log env (env e d).2 =
        before ++ ⟨c, a⟩ :: after := hlog
    cases before with
    | nil =>
      obtain ⟨hhead, -⟩ := List.cons.inj hcons
      obtain rfl : d = c := congrArg Sigma.fst hhead
      rw [List.map_nil, List.append_nil]
      exact h.1
    | cons x before =>
      obtain ⟨rfl, htail⟩ := List.cons.inj hcons
      have hrest := ih (env e d).1 (h.2 _) (env e d).2 htail
      have hone := List.append_assoc l [A.record d (env e d).1]
        (before.map fun x => A.record x.1 x.2)
      exact hone ▸ hrest

/-- What a protocol allows in any state. -/
theorem Follows.callsOnly {σ : Type} {P : Protocol I σ} {s : σ} {R : α → σ → Prop}
    {B : I.Call → Prop} (h : Follows P s p R) (hB : ∀ s c, P.allows s c → B c) :
    CallsOnly B p := by
  induction p generalizing s with
  | ret a => trivial
  | call c k ih => exact ⟨hB s c h.1, fun a => ih a (h.2 a)⟩

/-! ## Programs that may fail -/

variable {δ : Type}

/-- `Audited`, with `Q` of a result only. -/
def Guarded (A : Audit I E) (l : List E) (p : ExceptT δ (Prog I) α) (Q : α → List E → Prop) :
    Prop :=
  Audited A l p.run fun r l' => ∀ a, r = .ok a → Q a l'

/-- Whatever was before, `p` makes only calls that `A` allows. -/
def Safe (A : Audit I E) (p : ExceptT δ (Prog I) α) : Prop :=
  ∀ l, Guarded A l p fun _ _ => True

section
variable {p : ExceptT δ (Prog I) α} {f : α → ExceptT δ (Prog I) β} {R : β → List E → Prop}

theorem guarded_pure {a : α} (h : Q a l) : Guarded A l (pure a : ExceptT δ (Prog I) α) Q :=
  audited_ret fun _ hb => by cases hb; exact h

theorem guarded_throw (e : δ) : Guarded A l (throw e : ExceptT δ (Prog I) α) Q :=
  audited_ret fun _ hb => by cases hb

theorem Guarded.mono (h : Guarded A l p Q) (hQ : ∀ a l', l <+: l' → Q a l' → Q' a l') :
    Guarded A l p Q' :=
  Audited.mono h fun _ l' hl hr a ha => hQ a l' hl (hr a ha)

theorem Guarded.any (h : Guarded A l p Q) : Guarded A l p fun _ _ => True :=
  h.mono fun _ _ _ _ => trivial

theorem guarded_bind (hp : Guarded A l p Q)
    (hf : ∀ a l', l <+: l' → Q a l' → Guarded A l' (f a) R) : Guarded A l (p >>= f) R := by
  unfold Guarded
  rw [run_bindE]
  refine audited_bind hp fun r l' hl hr => ?_
  cases r with
  | ok a => exact hf a l' hl (hr a rfl)
  | error stop => exact audited_ret fun _ hb => by cases hb

theorem guarded_ite {b : Prop} [Decidable b] {q : ExceptT δ (Prog I) α}
    (hp : b → Guarded A l p Q) (hq : ¬ b → Guarded A l q Q) :
    Guarded A l (if b then p else q) Q := by
  split
  · exact hp ‹_›
  · exact hq ‹_›

/-- One call -/
theorem guarded_lift {c : I.Call} {R : I.Answer c → List E → Prop} (hc : A.allows l c)
    (hR : ∀ a, R a (l ++ [A.record c a])) :
    Guarded A l (ExceptT.lift (perform c) : ExceptT δ (Prog I) _) R :=
  audited_call hc fun a => audited_ret fun _ hb => by cases hb; exact hR a

/-- A test, and what is done if it is passed. -/
theorem guarded_check {test : ExceptT δ (Prog I) Bool} {F : List E → Prop} {a : α}
    (htest : Guarded A l test fun b l' => b = true → F l')
    (hp : ∀ l', l <+: l' → F l' → Guarded A l' p fun _ _ => True) :
    Guarded A l (test >>= fun b => if !b then pure a else p) fun _ _ => True :=
  guarded_bind htest fun b l' hl hb => guarded_ite (fun _ => guarded_pure trivial) fun hnot =>
    hp l' hl (hb (by simpa using hnot))

/-- What follows may be any safe program. -/
theorem guarded_then (hp : Guarded A l p Q) (hf : ∀ a, Safe A (f a)) :
    Guarded A l (p >>= f) fun _ _ => True :=
  guarded_bind hp fun a l' _ _ => hf a l'

theorem safe_pure (a : α) : Safe A (pure a : ExceptT δ (Prog I) α) :=
  fun _ => guarded_pure trivial

theorem safe_throw (e : δ) : Safe A (throw e : ExceptT δ (Prog I) α) := fun _ => guarded_throw e

theorem safe_bind (hp : Safe A p) (hf : ∀ a, Safe A (f a)) : Safe A (p >>= f) :=
  fun l => guarded_bind (hp l) fun a l' _ _ => hf a l'

theorem safe_ite {b : Prop} [Decidable b] {q : ExceptT δ (Prog I) α} (hp : Safe A p)
    (hq : Safe A q) : Safe A (if b then p else q) :=
  fun l => guarded_ite (fun _ => hp l) fun _ => hq l

end

end Prog

end ChatApp.Lib
