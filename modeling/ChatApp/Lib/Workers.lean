/-
  Workers that run operations over one shared state, and the log of what they did: a call with
  its answer and the states around it, or the return of an operation with its result. A step
  starts an operation, performs the next call of one, or lets one return; `reply x` says what a
  call does when the world outside is `x`.

  A `Contract` says which calls an operation may make and what holds when it returns, given what
  its own calls answered. `journal` replaces a run by its log: if every operation keeps the
  contract, the log is a `Journal`, a list of calls and returns, each of them allowed by the
  contract and each call answered by the state the previous one left. A property of all
  interleavings is then an induction over a list.
-/
import Mathlib.Data.Nat.Init
import Mathlib.Logic.Function.Basic
import ChatApp.Lib.Run
import ChatApp.Lib.Prog

namespace ChatApp.Lib

/-- What a worker `t` did for the operation `op`. -/
inductive Event (I : Interface) (σ θ κ : Type) (R : κ → Type)
  | call (t : θ) (op : κ) (before : σ) (c : I.Call) (a : I.Answer c) (after : σ)
  | ret (t : θ) (op : κ) (r : R op)

def Event.worker {I : Interface} {σ θ κ : Type} {R : κ → Type} : Event I σ θ κ R → θ
  | .call t .. | .ret t .. => t

/-- `job t` is the operation of `t` and what is left of it; the log has the newest event first. -/
structure Workers (I : Interface) (σ θ κ : Type) (R : κ → Type) where
  state : σ
  job : θ → Option ((op : κ) × Prog I (R op))
  log : List (Event I σ θ κ R)

inductive WorkerStep (θ κ ι : Type)
  | start (t : θ) (op : κ)
  | call (t : θ) (x : ι)
  | finish (t : θ)

/-- The calls an operation may make after what its calls answered, and what holds at its end. -/
structure Contract (I : Interface) (κ : Type) (R : κ → Type) (τ : Type) where
  initial : τ
  allows : κ → τ → I.Call → Prop
  next : κ → τ → (c : I.Call) → I.Answer c → τ
  done : (op : κ) → R op → τ → Prop

variable {I : Interface} {σ θ κ ι τ : Type} {R : κ → Type}

namespace Contract

def protocol (C : Contract I κ R τ) (op : κ) : Protocol I τ := ⟨C.allows op, C.next op⟩

/-- Whatever the answers are, the operation keeps the contract. -/
def KeptBy (C : Contract I κ R τ) (body : (op : κ) → Prog I (R op)) : Prop :=
  ∀ op, Prog.Follows (C.protocol op) C.initial (body op) (C.done op)

/-- The contract that asks for nothing. -/
def trivial : Contract I κ R Unit := ⟨(), fun _ _ _ => True, fun _ _ _ _ => (), fun _ _ _ => True⟩

theorem trivial_kept (body : (op : κ) → Prog I (R op)) : trivial.KeptBy body :=
  fun _ => Prog.follows_of_forall (fun _ _ => True.intro) fun _ _ => True.intro

variable [DecidableEq θ]

/-- How far worker `t` is: what its calls since its last return made of the initial state. -/
def phase (C : Contract I κ R τ) (t : θ) : List (Event I σ θ κ R) → τ
  | [] => C.initial
  | .call u op _ c a _ :: l => if u = t then C.next op (phase C t l) c a else phase C t l
  | .ret u _ _ :: l => if u = t then C.initial else phase C t l

section
variable {C : Contract I κ R τ} {t : θ} {l : List (Event I σ θ κ R)}

theorem phase_of_ne {e : Event I σ θ κ R} (h : e.worker ≠ t) :
    C.phase t (e :: l) = C.phase t l := by
  cases e with
  | call => exact if_neg h
  | ret => exact if_neg h

@[simp] theorem phase_call {op : κ} {b b' : σ} {c : I.Call} {a : I.Answer c} :
    C.phase t (.call t op b c a b' :: l) = C.next op (C.phase t l) c a := if_pos rfl

@[simp] theorem phase_ret {op : κ} {r : R op} : C.phase t (.ret t op r :: l) = C.initial :=
  if_pos rfl

end

/-- The rest of an operation keeps the contract from a phase on; an idle worker is at the
    beginning. -/
def OnTrack (C : Contract I κ R τ) (φ : τ) : Option ((op : κ) × Prog I (R op)) → Prop
  | none => φ = C.initial
  | some ⟨op, p⟩ => Prog.Follows (C.protocol op) φ p (C.done op)

end Contract

/-- A log whose events keep the contract and whose calls meet `G`, with the state it leads to. -/
inductive Journal [DecidableEq θ] (C : Contract I κ R τ)
    (reply : ι → σ → (c : I.Call) → I.Answer c × σ) (G : κ → σ → I.Call → ι → Prop) (s₀ : σ) :
    List (Event I σ θ κ R) → σ → Prop
  | nil : Journal C reply G s₀ [] s₀
  | call {l : List (Event I σ θ κ R)} {s : σ} (t : θ) (op : κ) (c : I.Call) (x : ι) :
      Journal C reply G s₀ l s → C.allows op (C.phase t l) c → G op s c x →
      Journal C reply G s₀ (.call t op s c (reply x s c).1 (reply x s c).2 :: l) (reply x s c).2
  | ret {l : List (Event I σ θ κ R)} {s : σ} (t : θ) (op : κ) (r : R op) :
      Journal C reply G s₀ l s → C.done op r (C.phase t l) →
      Journal C reply G s₀ (.ret t op r :: l) s

namespace Journal

variable [DecidableEq θ] {C : Contract I κ R τ} {reply : ι → σ → (c : I.Call) → I.Answer c × σ}
  {G : κ → σ → I.Call → ι → Prop} {s₀ s : σ} {l l' : List (Event I σ θ κ R)}

/-- What was logged up to some point is a journal. -/
theorem of_append (h : Journal C reply G s₀ (l' ++ l) s) : ∃ s', Journal C reply G s₀ l s' := by
  induction l' generalizing s with
  | nil => exact ⟨s, h⟩
  | cons e l' ih =>
    cases h with
    | call _ _ _ _ h _ _ => exact ih h
    | ret _ _ _ h _ => exact ih h

/-- A call in the log was answered by the state before it. -/
theorem call_mem (h : Journal C reply G s₀ l s) {t : θ} {op : κ} {b b' : σ} {c : I.Call}
    {a : I.Answer c} (he : .call t op b c a b' ∈ l) :
    ∃ x, G op b c x ∧ reply x b c = (a, b') := by
  induction h with
  | nil => cases he
  | call _ _ _ x _ _ hG ih =>
    rcases List.mem_cons.1 he with heq | he
    · cases heq
      exact ⟨x, hG, rfl⟩
    · exact ih he
  | ret _ _ _ _ _ ih =>
    rcases List.mem_cons.1 he with heq | he
    · cases heq
    · exact ih he

/-- A log that ends with a call. -/
theorem call_inv {t : θ} {op : κ} {b b' : σ} {c : I.Call} {a : I.Answer c}
    (h : Journal C reply G s₀ (.call t op b c a b' :: l) s) :
    s = b' ∧ Journal C reply G s₀ l b ∧ C.allows op (C.phase t l) c ∧
      ∃ x, G op b c x ∧ reply x b c = (a, b') := by
  generalize hl : (.call t op b c a b' :: l : List (Event I σ θ κ R)) = l₀ at h
  cases h with
  | nil => cases hl
  | call _ _ _ x h hallows hG =>
    cases hl
    exact ⟨rfl, h, hallows, x, hG, rfl⟩
  | ret => cases hl

/-- What the contract says of a call. -/
theorem call_allowed {t : θ} {op : κ} {b b' : σ} {c : I.Call} {a : I.Answer c}
    (h : Journal C reply G s₀ (l' ++ .call t op b c a b' :: l) s) :
    C.allows op (C.phase t l) c := by
  obtain ⟨_, hl⟩ := h.of_append
  exact hl.call_inv.2.2.1

/-- What the contract says of a return. -/
theorem ret_done {t : θ} {op : κ} {r : R op}
    (h : Journal C reply G s₀ (l' ++ .ret t op r :: l) s) : C.done op r (C.phase t l) := by
  obtain ⟨_, hl⟩ := h.of_append
  cases hl with
  | ret _ _ _ _ hdone => exact hdone

/-- What the calls of the second part preserve holds at the end if it does after the first. -/
theorem append_kept {J : σ → Prop} (h : Journal C reply G s₀ (l' ++ l) s)
    (hcall : ∀ {k : List (Event I σ θ κ R)} {s : σ} (t : θ) (op : κ) (c : I.Call) (x : ι),
      Journal C reply G s₀ k s → C.allows op (C.phase t k) c → G op s c x →
      Event.call t op s c (reply x s c).1 (reply x s c).2 ∈ l' → J s → J (reply x s c).2) :
    ∃ s', Journal C reply G s₀ l s' ∧ (J s' → J s) := by
  induction l' generalizing s with
  | nil => exact ⟨s, h, id⟩
  | cons e l' ih =>
    cases h with
    | call t op c x h hallows hG =>
      obtain ⟨s', hl, hJ⟩ := ih h fun t' op' c' x' hk ha hx hmem =>
        hcall t' op' c' x' hk ha hx (List.mem_cons_of_mem _ hmem)
      exact ⟨s', hl, fun hs' => hcall t op c x h hallows hG List.mem_cons_self (hJ hs')⟩
    | ret _ _ _ h _ =>
      exact ih h fun t' op' c' x' hk ha hx hmem =>
        hcall t' op' c' x' hk ha hx (List.mem_cons_of_mem _ hmem)

/-- What every call preserves holds at the end if it does after the first part. -/
theorem append_invariant {J : σ → Prop}
    (hcall : ∀ op s c x, J s → G op s c x → J (reply x s c).2)
    (h : Journal C reply G s₀ (l' ++ l) s) : ∃ s', Journal C reply G s₀ l s' ∧ (J s' → J s) :=
  h.append_kept fun _ op c x _ _ hG _ hs => hcall op _ c x hs hG

/-- What every call preserves holds at the end. -/
theorem state_invariant {J : σ → Prop} (h₀ : J s₀)
    (hcall : ∀ op s c x, J s → G op s c x → J (reply x s c).2)
    (h : Journal C reply G s₀ l s) : J s := by
  induction h with
  | nil => exact h₀
  | call _ op c x _ _ hG ih => exact hcall op _ c x ih hG
  | ret _ _ _ _ _ ih => exact ih

end Journal

/-! ## The last call of an operation -/

/-- A call that was made for an operation, with its answer. -/
structure Made (I : Interface) (κ : Type) where
  op : κ
  call : I.Call
  answer : I.Answer call

/-- The contract about the result of an operation and the last call it made. -/
def Contract.ofLast (done : (op : κ) → R op → Option (Made I κ) → Prop) :
    Contract I κ R (Option (Made I κ)) where
  initial := none
  allows _ _ _ := True
  next op _ c a := some ⟨op, c, a⟩
  done := done

/-- The last thing `t` did is this call. -/
def LastCall (t : θ) (l : List (Event I σ θ κ R)) (op : κ) (b : σ) (c : I.Call) (a : I.Answer c)
    (b' : σ) : Prop :=
  ∃ l₁ l₂, l = l₁ ++ .call t op b c a b' :: l₂ ∧ ∀ e ∈ l₁, e.worker ≠ t

theorem LastCall.mem {t : θ} {l : List (Event I σ θ κ R)} {op : κ} {b b' : σ} {c : I.Call}
    {a : I.Answer c} (h : LastCall t l op b c a b') : .call t op b c a b' ∈ l := by
  obtain ⟨l₁, l₂, rfl, -⟩ := h
  exact List.mem_append_right l₁ List.mem_cons_self

theorem LastCall.cons {t : θ} {l : List (Event I σ θ κ R)} {op : κ} {b b' : σ} {c : I.Call}
    {a : I.Answer c} (h : LastCall t l op b c a b') {e : Event I σ θ κ R} (he : e.worker ≠ t) :
    LastCall t (e :: l) op b c a b' := by
  obtain ⟨l₁, l₂, rfl, hl₁⟩ := h
  exact ⟨e :: l₁, l₂, rfl, List.forall_mem_cons.2 ⟨he, hl₁⟩⟩

/-- Two operations that have returned made their last calls at different times. -/
theorem LastCall.apart {t u : θ} {l l' : List (Event I σ θ κ R)} {op op' op₀ : κ} {r : R op₀}
    {b b' d d' : σ} {c c' : I.Call} {a : I.Answer c} {a' : I.Answer c'}
    (h : LastCall t (l' ++ .ret u op₀ r :: l) op b c a b') (h' : LastCall u l op' d c' a' d') :
    (∃ m n, l' ++ .ret u op₀ r :: l = m ++ .call t op b c a b' :: n ∧ .call u op' d c' a' d' ∈ n) ∨
      ∃ m n, l' ++ .ret u op₀ r :: l = m ++ .call u op' d c' a' d' :: n ∧
        .call t op b c a b' ∈ n := by
  induction l' with
  | nil =>
    obtain ⟨m, n, hl, hm⟩ := h
    obtain ⟨m', n', rfl, -⟩ := h'
    cases m with
    | nil => cases hl
    | cons e m =>
      obtain ⟨rfl, htail⟩ := List.cons.inj hl
      have hut : u ≠ t := hm _ List.mem_cons_self
      rcases List.append_eq_append_iff.1 htail with ⟨k, rfl, hk⟩ | ⟨k, rfl, hk⟩
      · cases k with
        | nil =>
          cases hk
          exact absurd rfl hut
        | cons e k =>
          obtain ⟨rfl, rfl⟩ := List.cons.inj hk
          exact .inr ⟨.ret u op₀ r :: m', k ++ .call t op b c a b' :: n, by simp, by simp⟩
      · cases k with
        | nil =>
          cases hk
          exact absurd rfl hut
        | cons e k =>
          obtain ⟨rfl, rfl⟩ := List.cons.inj hk
          exact .inl ⟨.ret u op₀ r :: m, k ++ .call u op' d c' a' d' :: n', by simp, by simp⟩
  | cons e l' ih =>
    obtain ⟨m, n, hl, hm⟩ := h
    cases m with
    | nil =>
      obtain ⟨rfl, rfl⟩ := List.cons.inj hl
      exact .inl ⟨[], _, rfl, List.mem_append_right l' (List.mem_cons_of_mem _ h'.mem)⟩
    | cons e' m =>
      obtain ⟨rfl, htail⟩ := List.cons.inj hl
      rcases ih ⟨m, n, htail, fun e he => hm e (List.mem_cons_of_mem _ he)⟩ with
        ⟨m', n', hl', hmem⟩ | ⟨m', n', hl', hmem⟩
      · exact .inl ⟨e :: m', n', congrArg (e :: ·) hl', hmem⟩
      · exact .inr ⟨e :: m', n', congrArg (e :: ·) hl', hmem⟩

/-- A phase that is not the first one comes from a call since the last return. -/
theorem exists_lastCall [DecidableEq θ] {τ : Type} {C : Contract I κ R τ} {t : θ}
    {l : List (Event I σ θ κ R)} (h : C.phase t l ≠ C.initial) :
    ∃ op b c a b' φ, LastCall t l op b c a b' ∧ C.phase t l = C.next op φ c a := by
  induction l with
  | nil => exact absurd rfl h
  | cons e l ih =>
    by_cases he : e.worker = t
    · subst he
      cases e with
      | call u op b c a b' =>
        exact ⟨op, b, c, a, b', _, ⟨[], l, rfl, fun _ he => by cases he⟩, Contract.phase_call⟩
      | ret u op r => exact absurd Contract.phase_ret h
    · rw [Contract.phase_of_ne he] at h ⊢
      obtain ⟨op, b, c, a, b', φ, hlast, hphase⟩ := ih h
      exact ⟨op, b, c, a, b', φ, hlast.cons he, hphase⟩

/-- The phase under `ofLast` is the last call since the last return. -/
theorem lastCall_of_phase [DecidableEq θ] {done : (op : κ) → R op → Option (Made I κ) → Prop}
    {t : θ} {l : List (Event I σ θ κ R)} {d : Made I κ}
    (h : (Contract.ofLast done).phase t l = some d) :
    ∃ b b', LastCall t l d.op b d.call d.answer b' := by
  have hne : (Contract.ofLast done).phase t l ≠ none := h ▸ Option.some_ne_none d
  obtain ⟨op, b, c, a, b', φ, hlast, hphase⟩ := exists_lastCall hne
  obtain rfl : d = ⟨op, c, a⟩ := Option.some.inj (h.symm.trans hphase)
  exact ⟨b, b', hlast⟩

theorem phase_of_lastCall [DecidableEq θ] {done : (op : κ) → R op → Option (Made I κ) → Prop}
    {t : θ} {l : List (Event I σ θ κ R)} {op : κ} {b b' : σ} {c : I.Call} {a : I.Answer c}
    (h : LastCall t l op b c a b') : (Contract.ofLast done).phase t l = some ⟨op, c, a⟩ := by
  obtain ⟨l₁, l₂, rfl, hl₁⟩ := h
  induction l₁ with
  | nil => exact Contract.phase_call
  | cons e l₁ ih =>
    rw [← ih fun e' he' => hl₁ e' (List.mem_cons_of_mem e he')]
    exact Contract.phase_of_ne (hl₁ e List.mem_cons_self)

/-! ## All calls of an operation -/

/-- The contract about the calls that an operation has made, the newest first. -/
def Contract.ofCalls (allows : κ → List (Made I κ) → I.Call → Prop)
    (done : (op : κ) → R op → List (Made I κ) → Prop) : Contract I κ R (List (Made I κ)) where
  initial := []
  allows := allows
  next op calls c a := ⟨op, c, a⟩ :: calls
  done := done

/-- `t` made this call for the operation that it is in at the end of `l`, or just returned from. -/
def CallOf (t : θ) (l : List (Event I σ θ κ R)) (op : κ) (b : σ) (c : I.Call) (a : I.Answer c)
    (b' : σ) : Prop :=
  ∃ l₁ l₂, l = l₁ ++ .call t op b c a b' :: l₂ ∧ ∀ u r, Event.ret t u r ∉ l₁

theorem CallOf.mem {t : θ} {l : List (Event I σ θ κ R)} {op : κ} {b b' : σ} {c : I.Call}
    {a : I.Answer c} (h : CallOf t l op b c a b') : .call t op b c a b' ∈ l := by
  obtain ⟨l₁, l₂, rfl, -⟩ := h
  exact List.mem_append_right l₁ List.mem_cons_self

theorem CallOf.cons {t : θ} {l : List (Event I σ θ κ R)} {op : κ} {b b' : σ} {c : I.Call}
    {a : I.Answer c} (h : CallOf t l op b c a b') {e : Event I σ θ κ R}
    (he : ∀ u r, e ≠ .ret t u r) : CallOf t (e :: l) op b c a b' := by
  obtain ⟨l₁, l₂, rfl, hl₁⟩ := h
  refine ⟨e :: l₁, l₂, rfl, fun u r hmem => ?_⟩
  rcases List.mem_cons.1 hmem with hret | hmem
  · exact he u r hret.symm
  · exact hl₁ u r hmem

section
variable [DecidableEq θ] {allows : κ → List (Made I κ) → I.Call → Prop}
  {done : (op : κ) → R op → List (Made I κ) → Prop} {t : θ} {l : List (Event I σ θ κ R)}
  {d : Made I κ}

/-- The phase under `ofCalls` holds calls of the operation. -/
theorem callOf_of_phase (h : d ∈ (Contract.ofCalls allows done).phase t l) :
    ∃ b b', CallOf t l d.op b d.call d.answer b' := by
  induction l with
  | nil => cases h
  | cons e l ih =>
    by_cases he : e.worker = t
    · subst he
      cases e with
      | call u op b c a b' =>
        rw [Event.worker, Contract.phase_call] at h
        rcases List.mem_cons.1 h with rfl | h
        · exact ⟨b, b', [], l, rfl, fun _ _ hmem => by cases hmem⟩
        · obtain ⟨b₀, b₀', hof⟩ := ih h
          exact ⟨b₀, b₀', hof.cons fun _ _ heq => by cases heq⟩
      | ret u op r =>
        rw [Event.worker, Contract.phase_ret] at h
        cases h
    · rw [Contract.phase_of_ne he] at h
      obtain ⟨b, b', hof⟩ := ih h
      refine ⟨b, b', hof.cons fun u r heq => he ?_⟩
      rw [heq]
      rfl

/-- Its head is the last call. -/
theorem lastCall_of_calls {ds : List (Made I κ)}
    (h : (Contract.ofCalls allows done).phase t l = d :: ds) :
    ∃ b b', LastCall t l d.op b d.call d.answer b' := by
  have hne : (Contract.ofCalls allows done).phase t l ≠ [] := h ▸ List.cons_ne_nil d ds
  obtain ⟨op, b, c, a, b', φ, hlast, hphase⟩ := exists_lastCall hne
  obtain rfl : d = ⟨op, c, a⟩ := (List.cons.inj (h.symm.trans hphase)).1
  exact ⟨b, b', hlast⟩

end

namespace Workers

variable [DecidableEq θ]

def init (s₀ : σ) : Workers I σ θ κ R := ⟨s₀, fun _ => none, []⟩

/-- The operation and the call that `t` is about to make. -/
def nextCall (w : Workers I σ θ κ R) (t : θ) : Option (κ × I.Call) :=
  match w.job t with
  | some ⟨op, .call c _⟩ => some (op, c)
  | _ => none

/-- The side condition that every call meets `G` in the state it is made in. -/
def guarded (G : κ → σ → I.Call → ι → Prop) (w : Workers I σ θ κ R) : WorkerStep θ κ ι → Prop
  | .call t x => ∀ op c, w.nextCall t = some (op, c) → G op w.state c x
  | _ => True

omit [DecidableEq θ] in
theorem guarded_call {G : κ → σ → I.Call → ι → Prop} {w : Workers I σ θ κ R} {t : θ} {x : ι}
    {op : κ}
    {c : I.Call} (h : w.nextCall t = some (op, c)) :
    w.guarded G (.call t x) ↔ G op w.state c x := by
  refine ⟨fun hG => hG op c h, fun hG op' c' h' => ?_⟩
  obtain ⟨rfl, rfl⟩ := Prod.mk.inj (Option.some.inj (h.symm.trans h'))
  exact hG

instance (G : κ → σ → I.Call → ι → Prop) [∀ op s c x, Decidable (G op s c x)]
    (w : Workers I σ θ κ R) : (l : WorkerStep θ κ ι) → Decidable (w.guarded G l)
  | .start _ _ | .finish _ => isTrue trivial
  | .call t x =>
    match h : w.nextCall t with
    | none => isTrue fun op c h' => by
        rw [h] at h'
        cases h'
    | some (op, c) => decidable_of_iff (G op w.state c x) (guarded_call h).symm

section
variable (body : (op : κ) → Prog I (R op)) (reply : ι → σ → (c : I.Call) → I.Answer c × σ)

def step (w : Workers I σ θ κ R) : WorkerStep θ κ ι → Option (Workers I σ θ κ R)
  | .start t op =>
    match w.job t with
    | none => some { w with job := Function.update w.job t (some ⟨op, body op⟩) }
    | some _ => none
  | .call t x =>
    match w.job t with
    | some ⟨op, .call c k⟩ =>
      let r := reply x w.state c
      some ⟨r.2, Function.update w.job t (some ⟨op, k r.1⟩), .call t op w.state c r.1 r.2 :: w.log⟩
    | _ => none
  | .finish t =>
    match w.job t with
    | some ⟨op, .ret r⟩ => some ⟨w.state, Function.update w.job t none, .ret t op r :: w.log⟩
    | _ => none

/-- A step that is taken only if its call meets `G`. -/
def guardedStep (G : κ → σ → I.Call → ι → Prop) [∀ op s c x, Decidable (G op s c x)]
    (w : Workers I σ θ κ R) (l : WorkerStep θ κ ι) : Option (Workers I σ θ κ R) :=
  if w.guarded G l then w.step body reply l else none

variable {body reply} {w w' : Workers I σ θ κ R} {t : θ}

theorem run_of_guardedStep {G : κ → σ → I.Call → ι → Prop} [∀ op s c x, Decidable (G op s c x)]
    {ls : List (WorkerStep θ κ ι)} (h : exec (guardedStep body reply G) w ls = some w') :
    Run (step body reply) (guarded G) w ls w' :=
  run_iff_exec.2 h

theorem step_start {op : κ} (h : w.step body reply (.start t op) = some w') :
    w.job t = none ∧ w' = { w with job := Function.update w.job t (some ⟨op, body op⟩) } := by
  simp only [step] at h
  split at h
  case h_1 hj => exact ⟨hj, (Option.some.inj h).symm⟩
  case h_2 => cases h

theorem step_call {x : ι} (h : w.step body reply (.call t x) = some w') :
    ∃ op c k, w.job t = some ⟨op, .call c k⟩ ∧
      w' = ⟨(reply x w.state c).2, Function.update w.job t (some ⟨op, k (reply x w.state c).1⟩),
        .call t op w.state c (reply x w.state c).1 (reply x w.state c).2 :: w.log⟩ := by
  simp only [step] at h
  split at h
  case h_1 op c k hj => exact ⟨op, c, k, hj, (Option.some.inj h).symm⟩
  case h_2 => cases h

theorem step_finish (h : w.step body reply (.finish t) = some w') :
    ∃ op r, w.job t = some ⟨op, .ret r⟩ ∧
      w' = ⟨w.state, Function.update w.job t none, .ret t op r :: w.log⟩ := by
  simp only [step] at h
  split at h
  case h_1 op r hj => exact ⟨op, r, hj, (Option.some.inj h).symm⟩
  case h_2 => cases h

omit [DecidableEq θ] in
theorem nextCall_of_job {op : κ} {c : I.Call} {k : I.Answer c → Prog I (R op)}
    (h : w.job t = some ⟨op, .call c k⟩) : w.nextCall t = some (op, c) := by
  simp [nextCall, h]

end

/-! ## Properties of all interleavings -/

variable {body : (op : κ) → Prog I (R op)} {reply : ι → σ → (c : I.Call) → I.Answer c × σ}
  {G : κ → σ → I.Call → ι → Prop} {s₀ : σ} {C : Contract I κ R τ}

/-- The log is a journal, and every worker is on track. -/
structure Orderly (C : Contract I κ R τ) (reply : ι → σ → (c : I.Call) → I.Answer c × σ)
    (G : κ → σ → I.Call → ι → Prop) (s₀ : σ) (w : Workers I σ θ κ R) : Prop where
  journal : Journal C reply G s₀ w.log w.state
  onTrack : ∀ t, C.OnTrack (C.phase t w.log) (w.job t)

theorem orderly_init : (init s₀ : Workers I σ θ κ R).Orderly C reply G s₀ :=
  ⟨.nil, fun _ => rfl⟩

theorem orderly_step (hC : C.KeptBy body) {w w' : Workers I σ θ κ R} {l : WorkerStep θ κ ι}
    (hw : w.Orderly C reply G s₀) (hG : w.guarded G l) (hs : w.step body reply l = some w') :
    w'.Orderly C reply G s₀ := by
  -- the workers that do not move keep their phase
  have hother : ∀ {t u : θ} {j} {log : List (Event I σ θ κ R)}, u ≠ t →
      C.phase u log = C.phase u w.log →
        C.OnTrack (C.phase u log) (Function.update w.job t j u) := by
    intro t u j log hu hphase
    rw [Function.update_of_ne hu, hphase]
    exact hw.onTrack u
  have hself : ∀ {t : θ} {j} {φ : τ}, C.OnTrack φ j →
      C.OnTrack φ (Function.update w.job t j t) := by
    intro t j φ h
    rw [Function.update_self]
    exact h
  cases l with
  | start t op =>
    obtain ⟨hidle, rfl⟩ := step_start hs
    refine ⟨hw.journal, fun u => ?_⟩
    by_cases hu : u = t
    · subst hu
      have htrack := hw.onTrack u
      rw [hidle] at htrack
      have hphase : C.phase u w.log = C.initial := htrack
      rw [hphase]
      exact hself (hC op)
    · exact hother hu rfl
  | call t x =>
    obtain ⟨op, c, k, hjob, rfl⟩ := step_call hs
    have htrack := hw.onTrack t
    rw [hjob] at htrack
    refine ⟨.call t op c x hw.journal htrack.1 (hG op c (nextCall_of_job hjob)), fun u => ?_⟩
    by_cases hu : u = t
    · subst hu
      rw [Contract.phase_call]
      exact hself (htrack.2 _)
    · exact hother hu (Contract.phase_of_ne (Ne.symm hu))
  | finish t =>
    obtain ⟨op, r, hjob, rfl⟩ := step_finish hs
    have htrack := hw.onTrack t
    rw [hjob] at htrack
    refine ⟨.ret t op r hw.journal htrack, fun u => ?_⟩
    by_cases hu : u = t
    · subst hu
      rw [Contract.phase_ret]
      exact hself rfl
    · exact hother hu (Contract.phase_of_ne (Ne.symm hu))

/-- The log of a run is a journal. -/
theorem journal (hC : C.KeptBy body) {ls : List (WorkerStep θ κ ι)} {w : Workers I σ θ κ R}
    (h : Run (step body reply) (guarded G) (init s₀) ls w) :
    Journal C reply G s₀ w.log w.state :=
  (h.invariant orderly_init fun _ _ _ hw hG hs => orderly_step hC hw hG hs).journal

/-- The log of an unrestricted run is a journal. -/
theorem journal_any (hC : C.KeptBy body) {ls : List (WorkerStep θ κ ι)} {w : Workers I σ θ κ R}
    (h : Run (step body reply) anyStep (init s₀) ls w) :
    Journal C reply (fun _ _ _ _ => True) s₀ w.log w.state := by
  refine journal hC (h.mono fun s l _ => ?_)
  cases l with
  | call t x => exact fun _ _ _ => True.intro
  | start | finish => exact True.intro

/-- What every call preserves holds in every reachable state. -/
theorem state_invariant {J : σ → Prop} (h₀ : J s₀)
    (hcall : ∀ op s c x, J s → G op s c x → J (reply x s c).2)
    {ls : List (WorkerStep θ κ ι)} {w : Workers I σ θ κ R}
    (h : Run (step body reply) (guarded G) (init s₀) ls w) : J w.state :=
  (journal (Contract.trivial_kept body) h).state_invariant h₀ hcall

end Workers

end ChatApp.Lib
