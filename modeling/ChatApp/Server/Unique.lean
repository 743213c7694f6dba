/-
  How often a session is in the table. `handle_accept` calls `session->start()` before
  `add_session`, so the first frames can be handled, and a login finished, before the session
  gets its temporary id; `set_user_online` then found no entry to replace, and the later
  `add_session` adds a second one. That is the only way: `set_user_online` itself takes every
  entry of the session out.

  The condition on a run (`AddsFresh`): `add_session` finds the session under no other key.
-/
import ChatApp.Server.Registry

namespace ChatApp.Server

open ChatApp.Lib

variable {s : ServerState}

def Event.AddsFresh (s : ServerState) : Event → Prop
  | .addSession x => s.locked = false → ∀ e ∈ s.sessions.entries, e.2 = x → e.1 = s.nextTempId
  | _ => True

instance : DecidablePred (Event.AddsFresh s)
  | .addSession _ => inferInstanceAs (Decidable (_ → _))
  | .quiet | .advance _ | .construct | .start _ | .heartbeat _ | .setUserId ..
  | .setAuthenticated ..
  | .close _ | .setUserOnline .. | .removeSession _ => .isTrue trivial

namespace World

variable {cfg : Config} {w t : World} {l : Step} {ls : List Step} {x : SessionId}

/-- No session is in the table under two keys. -/
def UniqueKeys (w : World) : Prop :=
  ∀ k k' x, w.server.sessions.get? k = some x → w.server.sessions.get? k' = some x → k = k'

def AddsFresh (w : World) (l : Step) : Prop := (w.event l).AddsFresh w.server

instance (w : World) : DecidablePred w.AddsFresh :=
  fun l => inferInstanceAs (Decidable ((w.event l).AddsFresh w.server))

/-- What a table with unique keys gives: a broadcast reaches each session once, and after
    `remove_session` nothing of the session is left. -/
structure OneEntry (w : World) : Prop where
  unique : UniqueKeys w
  broadcast : ∀ s, Server.broadcast w.server = .ok () s →
    ∃ xs, s.sent = w.server.sent ++ xs ∧ xs.Nodup
  removed : ∀ x s, Server.removeSession x w.server = .ok () s → x ∉ s.sessions.values

theorem uniqueKeys_init (cfg : Config) : UniqueKeys (init cfg) := fun _ _ _ h => by cases h

/-! ## The events -/

/-- Replacing the entries of `x` by one leaves the other sessions as they were. -/
theorem unique_setUserOnline {m : SortedMap Nat SessionId} {u : Nat}
    (h : ∀ k k' y, m.get? k = some y → m.get? k' = some y → k = k') (k k' : Nat) (y : SessionId)
    (hk : ((m.filter fun e => decide (e.2 ≠ x)).insert u x).get? k = some y)
    (hk' : ((m.filter fun e => decide (e.2 ≠ x)).insert u x).get? k' = some y) : k = k' := by
  rw [SortedMap.get?_insert_eq_some, SortedMap.get?_filter_eq_some, decide_eq_true_eq] at hk hk'
  rcases hk with ⟨rfl, rfl⟩ | ⟨-, hy, hk⟩
  · rcases hk' with ⟨rfl, -⟩ | ⟨-, hy, -⟩
    · rfl
    · exact absurd rfl hy
  · rcases hk' with ⟨-, rfl⟩ | ⟨-, -, hk'⟩
    · exact absurd rfl hy
    · exact h k k' y hk hk'

/-- A session gets a second key just when `add_session` finds it under another one. -/
theorem unique_addSession {m : SortedMap Nat SessionId} {n : Nat}
    (h : ∀ k k' y, m.get? k = some y → m.get? k' = some y → k = k') :
    (∀ k k' y, (m.insert n x).get? k = some y → (m.insert n x).get? k' = some y → k = k') ↔
      ∀ k, m.get? k = some x → k = n := by
  constructor
  · intro hu k hk
    by_contra hne
    exact hne (hu k n x (SortedMap.get?_insert_eq_some.2 (.inr ⟨hne, hk⟩))
      (SortedMap.get?_insert_eq_some.2 (.inl ⟨rfl, rfl⟩)))
  · intro hx k k' y hk hk'
    rw [SortedMap.get?_insert_eq_some] at hk hk'
    rcases hk with ⟨rfl, rfl⟩ | ⟨-, hk⟩
    · rcases hk' with ⟨rfl, -⟩ | ⟨-, hk'⟩
      · rfl
      · exact (hx k' hk').symm
    · rcases hk' with ⟨rfl, rfl⟩ | ⟨-, hk'⟩
      · exact hx k hk
      · exact h k k' y hk hk'

/-! ## Every run -/

/-- One step keeps the keys unique just when it meets the condition. -/
theorem uniqueKeys_step (h : UniqueKeys w) (hs : step cfg w l = some t) :
    UniqueKeys t ↔ AddsFresh w l := by
  cases hl : w.server.locked with
  | true =>
    refine iff_of_true (by rw [UniqueKeys, (step_frozen hl hs).sessions]; exact h) ?_
    unfold AddsFresh
    cases w.event l with
    | addSession x =>
      intro hf
      rw [hl] at hf
      cases hf
    | _ => trivial
  | false =>
    unfold AddsFresh
    rcases step_event hl hs with ⟨ht, x, hx⟩ | ht
    · refine iff_of_true (by rw [UniqueKeys, ht.sessions]; exact h) ?_
      rw [hx]
      trivial
    · rw [UniqueKeys, ht.sessions]
      cases w.event l with
      | addSession x =>
        refine (unique_addSession h).trans ⟨fun hx _ e he hex => ?_, fun hx k hk => ?_⟩
        · exact hx e.1 (SortedMap.get?_eq_some.2 (hex ▸ he))
        · exact hx hl (k, x) (SortedMap.get?_eq_some.1 hk) rfl
      | setUserOnline x u => exact iff_of_true (unique_setUserOnline h) trivial
      | removeSession x =>
        exact iff_of_true (fun k k' y hk hk' =>
          h k k' y (get?_of_removeSession hk) (get?_of_removeSession hk')) trivial
      | _ => exact iff_of_true h trivial

theorem uniqueKeys_run (h : Run (step cfg) AddsFresh (init cfg) ls w) : UniqueKeys w :=
  h.invariant (uniqueKeys_init cfg) fun _ _ _ hI hok hs => (uniqueKeys_step hI hs).2 hok

theorem broadcast_once (h : UniqueKeys w) {s : ServerState}
    (hs : Server.broadcast w.server = .ok () s) :
    ∃ xs, s.sent = w.server.sent ++ xs ∧ xs.Nodup := by
  cases hl : w.server.locked with
  | true =>
    rw [Server.broadcast, lockGuard_held _ hl] at hs
    cases hs
  | false =>
    rw [broadcast_free hl] at hs
    cases hs
    exact ⟨_, rfl, (SortedMap.nodup_values_iff.2 h).filter _⟩

theorem removeSession_gone (h : UniqueKeys w) {s : ServerState}
    (hs : Server.removeSession x w.server = .ok () s) : x ∉ s.sessions.values := by
  cases hl : w.server.locked with
  | true =>
    rw [Server.removeSession, lockGuard_held _ hl] at hs
    cases hs
  | false =>
    rcases removeSession_free (x := x) hl with ⟨f, hr⟩ | hr
    · rw [hr] at hs
      cases hs
    · rw [hr] at hs
      cases hs
      rw [SortedMap.mem_values, not_exists]
      intro k hk
      simp only [Event.sessions] at hk
      split at hk
      case h_1 k' hk' =>
        obtain ⟨hne, hk⟩ := SortedMap.get?_erase_eq_some.1 hk
        exact hne (h k k' x hk (SortedMap.get?_of_findKey? hk'))
      case h_2 hno => exact SortedMap.findKey?_eq_none.1 hno (SortedMap.mem_values.2 ⟨k, hk⟩)

theorem OneEntry.of_unique (h : UniqueKeys w) : OneEntry w :=
  ⟨h, fun _ hs => broadcast_once h hs, fun _ _ hs => removeSession_gone h hs⟩

end World

end ChatApp.Server
