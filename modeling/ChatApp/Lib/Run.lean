/-
  Runs of a labelled transition system whose steps are given by a partial function.
  `exec` replays a list of labels; `Run ok` is a run whose every step is enabled and meets
  the side condition `ok` in the state it is taken from. `Run.invariant` is the induction
  every safety result uses; `exec_run` turns a replayed list of labels into a run.

  Where every label is enabled, a run is its list of labels, and its states are those after the
  beginnings of the list (`forall_prefix_iff`).
-/
import Mathlib.Data.List.Infix
import Mathlib.Logic.Basic

namespace ChatApp.Lib

variable {σ ℓ : Type*}

/-- The state after the labels `ls`, if each of them is enabled in turn. -/
def exec (step : σ → ℓ → Option σ) (s : σ) : List ℓ → Option σ
  | [] => some s
  | l :: ls => (step s l).bind (exec step · ls)

@[simp] theorem exec_nil (step : σ → ℓ → Option σ) (s : σ) : exec step s [] = some s := rfl

theorem exec_cons (step : σ → ℓ → Option σ) (s : σ) (l : ℓ) (ls : List ℓ) :
    exec step s (l :: ls) = (step s l).bind (exec step · ls) := rfl

theorem exec_append (step : σ → ℓ → Option σ) (s : σ) (ls ms : List ℓ) :
    exec step s (ls ++ ms) = (exec step s ls).bind (exec step · ms) := by
  induction ls generalizing s with
  | nil => rfl
  | cons l ls ih =>
    simp only [List.cons_append, exec_cons, Option.bind_assoc]
    congr 1
    funext t
    exact ih t

/-- A run from `s₀`: each step is enabled, and meets `ok` in the state before it. -/
inductive Run (step : σ → ℓ → Option σ) (ok : σ → ℓ → Prop) (s₀ : σ) : List ℓ → σ → Prop
  | nil : Run step ok s₀ [] s₀
  | snoc {ls : List ℓ} {s t : σ} {l : ℓ} :
      Run step ok s₀ ls s → ok s l → step s l = some t → Run step ok s₀ (ls ++ [l]) t

/-- The side condition of an unrestricted run. -/
def anyStep (_ : σ) (_ : ℓ) : Prop := True

namespace Run

variable {step : σ → ℓ → Option σ} {ok ok' : σ → ℓ → Prop} {s₀ s t : σ} {ls ms : List ℓ}

/-- A property of the start that every step meeting `ok` preserves holds in every state of
    every run. -/
theorem invariant {I : σ → Prop} (h₀ : I s₀)
    (hstep : ∀ s l t, I s → ok s l → step s l = some t → I t)
    (h : Run step ok s₀ ls s) : I s := by
  induction h with
  | nil => exact h₀
  | snoc _ hok hs ih => exact hstep _ _ _ ih hok hs

theorem mono (hm : ∀ s l, ok s l → ok' s l) (h : Run step ok s₀ ls s) :
    Run step ok' s₀ ls s := by
  induction h with
  | nil => exact .nil
  | snoc _ hok hs ih => exact .snoc ih (hm _ _ hok) hs

/-- A condition on the labels alone can be added. -/
theorem also (h : Run step ok s₀ ls s) (hl : ∀ l ∈ ls, ∀ s, ok' s l) :
    Run step (fun s l => ok s l ∧ ok' s l) s₀ ls s := by
  induction h with
  | nil => exact .nil
  | @snoc ls s t l _ hok hs ih =>
    have hlast : l ∈ ls ++ [l] := List.mem_append_right ls List.mem_cons_self
    exact .snoc (ih fun k hk => hl k (List.mem_append_left _ hk)) ⟨hok, hl l hlast s⟩ hs

theorem append (h : Run step ok s₀ ls s) (h' : Run step ok s ms t) :
    Run step ok s₀ (ls ++ ms) t := by
  induction h' with
  | nil => simpa using h
  | snoc _ hok hs ih =>
    rw [← List.append_assoc]
    exact .snoc ih hok hs

theorem cons {l : ℓ} (hok : ok s₀ l) (hs : step s₀ l = some s) (h : Run step ok s ls t) :
    Run step ok s₀ (l :: ls) t :=
  append (.snoc .nil hok hs) h

end Run

/-- Replaying labels under a decidable side condition decides whether they are a run. -/
theorem run_iff_exec {step : σ → ℓ → Option σ} {ok : σ → ℓ → Prop} [∀ s l, Decidable (ok s l)]
    {s t : σ} {ls : List ℓ} :
    Run step ok s ls t ↔ exec (fun s l => if ok s l then step s l else none) s ls = some t := by
  constructor
  · intro h
    induction h with
    | nil => rfl
    | snoc _ hok hs ih => simp [exec_append, ih, exec_cons, hok, hs]
  · intro h
    induction ls generalizing s with
    | nil =>
      simp only [exec_nil, Option.some.injEq] at h
      exact h ▸ .nil
    | cons l ls ih =>
      rw [exec_cons, Option.bind_eq_some_iff] at h
      obtain ⟨u, hu, h⟩ := h
      rw [Option.ite_none_right_eq_some] at hu
      exact Run.cons hu.1 hu.2 (ih h)

/-- Replayed labels that meet the side condition in every state are a run. -/
theorem exec_run_of {step : σ → ℓ → Option σ} {ok : σ → ℓ → Prop} {s t : σ} {ls : List ℓ}
    (hok : ∀ l ∈ ls, ∀ s, ok s l) (h : exec step s ls = some t) : Run step ok s ls t := by
  induction ls generalizing s with
  | nil => exact Option.some.inj h ▸ .nil
  | cons l ls ih =>
    obtain ⟨u, hu, h⟩ := Option.bind_eq_some_iff.1 h
    exact Run.cons (hok l List.mem_cons_self s) hu
      (ih (fun m hm => hok m (List.mem_cons_of_mem l hm)) h)

/-- Labels that can be replayed are an unrestricted run. -/
theorem exec_run {step : σ → ℓ → Option σ} {s t : σ} {ls : List ℓ}
    (h : exec step s ls = some t) : Run step anyStep s ls t :=
  exec_run_of (fun _ _ _ => trivial) h

/-- A property that a label preserves exactly if it meets a condition holds after every beginning of
    a list of labels exactly if each of them meets the condition where it comes. -/
theorem forall_prefix_iff_of {P : List ℓ → Prop} {ok : List ℓ → ℓ → Prop} {ls : List ℓ}
    (hnil : P [])
    (hstep : ∀ pre l, pre ++ [l] <+: ls → P pre → (P (pre ++ [l]) ↔ ok pre l)) :
    (∀ pre, pre <+: ls → P pre) ↔ ∀ pre l, pre ++ [l] <+: ls → ok pre l := by
  constructor
  · intro h pre l hpre
    have hpre' : pre <+: ls := (List.prefix_append _ _).trans hpre
    exact (hstep pre l hpre (h pre hpre')).1 (h _ hpre)
  · intro h pre
    induction pre using List.reverseRecOn with
    | nil => exact fun _ => hnil
    | append_singleton pre l ih =>
      intro hpre
      have hpre' : pre <+: ls := (List.prefix_append _ _).trans hpre
      exact (hstep pre l hpre (ih hpre')).2 (h pre l hpre)

/-- The same for any labels. -/
theorem forall_prefix_iff {P : List ℓ → Prop} {ok : List ℓ → ℓ → Prop} (hnil : P [])
    (hstep : ∀ pre l, P pre → (P (pre ++ [l]) ↔ ok pre l)) (ls : List ℓ) :
    (∀ pre, pre <+: ls → P pre) ↔ ∀ pre l, pre ++ [l] <+: ls → ok pre l :=
  forall_prefix_iff_of hnil fun pre l _ => hstep pre l

end ChatApp.Lib
