/-
  The numbers of private messages. Whatever the schedule is, an INSERT gives the next number and
  the numbers never go back, so they increase in the order of the INSERTs.
-/
import ChatApp.Pipeline.Moves
import ChatApp.Session.Anonymous

namespace ChatApp.Pipeline

open ChatApp.Lib ChatApp.Session
open ChatApp.Database (Tables Stmt MessageRow Row)

variable {ρ : Type} {cfg : ThreadPool.Config} {o : Outside ρ} {s t : State ρ} {l : Label}

theorem next_insertPrivate {d d' : Tables} {r : Nat → MessageRow}
    {hr : ∀ n, (r n).messageId = n} (h : d.insertPrivate r hr = some d') :
    d'.privateMessages.next = d.privateMessages.next + 1 := by
  unfold Tables.insertPrivate at h
  split at h
  · exact Option.some.inj h ▸ rfl
  · cases h

theorem next_insertGroup {d d' : Tables} {r : Nat → MessageRow} {hr : ∀ n, (r n).messageId = n}
    (h : d.insertGroup r hr = some d') : d'.privateMessages.next = d.privateMessages.next := by
  unfold Tables.insertGroup at h
  split at h
  · exact Option.some.inj h ▸ rfl
  · cases h

theorem insert_eq_ok {id id' : Nat} {db? : Option Tables} {d' : Tables} {rows : List Row}
    (h : Tables.Outcome.insert id db? = .ok d' rows id') : db? = some d' := by
  cases db? with
  | none => cases h
  | some d => exact congrArg some (Tables.Outcome.ok.inj h).1

/-- No statement takes a number back. -/
theorem next_exec {order : List MessageRow → List MessageRow} {d d' : Tables} {stmt : Stmt}
    {rows : List Row} {id : Nat} (h : d.exec order stmt = .ok d' rows id) :
    d.privateMessages.next ≤ d'.privateMessages.next := by
  by_cases hselect : stmt.isSelect = true
  · exact exec_select hselect h ▸ Nat.le_refl _
  unfold Tables.exec at h
  split at h
  case h_7 => exact (next_insertPrivate (insert_eq_ok h)).symm ▸ Nat.le_succ _
  case h_12 => exact (next_insertGroup (insert_eq_ok h)).symm ▸ Nat.le_refl _
  all_goals first | exact absurd rfl hselect | cases h
  · exact Nat.le_refl _
  · exact Nat.le_refl _

theorem next_env (e : ρ × Connected) (c : Call) :
    e.2.db.privateMessages.next ≤ (o.env e c).2.2.db.privateMessages.next := by
  obtain ⟨r, w⟩ := e
  cases c with
  | db c =>
    cases c with
    | query stmt =>
      simp only [Outside.env]
      split
      case isFalse => exact Nat.le_refl _
      unfold Outside.query
      cases hexec : w.db.exec (o.order r) stmt with
      | elsewhere => exact Nat.le_refl _
      | error => exact Nat.le_refl _
      | ok d' rows id =>
        have hnext := next_exec hexec
        show _ ≤ (if stmt.isSelect then (⟨d', some rows, none⟩ : Connected)
          else ⟨d', none, some id⟩).db.privateMessages.next
        split
        · exact hnext
        · exact hnext
    | _ => exact Nat.le_refl _
  | _ => exact Nat.le_refl _

/-- An INSERT INTO private_messages gives the next number. -/
theorem stored_env {e : ρ × Connected} {c : Call} {i : Nat}
    (h : storedBy c (o.env e c).1 (o.env e c).2.2 = some i) :
    i = e.2.db.privateMessages.next ∧ (o.env e c).2.2.db.privateMessages.next = i + 1 := by
  unfold storedBy at h
  split at h
  case h_2 => cases h
  case h_1 senderId receiverId mediaType content mediaUrl extra status now _ hok =>
    obtain ⟨r, w⟩ := e
    obtain ⟨r', d', hd, henv⟩ := Outside.env_insert (r := r) (c := w) rfl rfl hok
    rw [henv] at h ⊢
    obtain rfl := Option.some.inj h
    exact ⟨rfl, next_insertPrivate hd⟩

/-! ## In every run -/

/-- What was stored is numbered below the next number, in the order of the calls. -/
structure Numbered (s : State ρ) : Prop where
  below : ∀ a ∈ s.acts, ∀ i, a.stored = some i → i < s.world.2.db.privateMessages.next
  increasing : s.acts.Pairwise fun a b => ∀ i j, a.stored = some i → b.stored = some j → i < j

theorem numbered_start {world : ρ × Connected} : Numbered (.start cfg world) :=
  ⟨fun _ ha => absurd ha List.not_mem_nil, List.Pairwise.nil⟩

theorem Numbered.move (hs : Numbered s) (h : Move cfg o s l t) : Numbered t := by
  cases h with
  | others hnext =>
    exact ⟨fun a ha i hi => Nat.lt_of_lt_of_le (hs.below a ha i hi) hnext, hs.increasing⟩
  | @act n r c k =>
    have hnext := next_env (o := o) s.world c
    refine ⟨fun a ha i hi => ?_, List.pairwise_append.2 ⟨hs.increasing, List.pairwise_singleton _ _,
      fun a ha b hb i j hi hj => ?_⟩⟩
    · rcases List.mem_append.1 ha with ha | ha
      · exact Nat.lt_of_lt_of_le (hs.below a ha i hi) hnext
      · obtain rfl := List.mem_singleton.1 ha
        obtain ⟨-, hafter⟩ := stored_env hi
        exact hafter.symm ▸ Nat.lt_succ_self i
    · obtain rfl := List.mem_singleton.1 hb
      obtain ⟨rfl, -⟩ := stored_env hj
      exact hs.below a ha i hi
  | _ => exact ⟨hs.below, hs.increasing⟩

theorem numbered_run {ok : State ρ → Label → Prop} {world : ρ × Connected} {ls : List Label}
    (h : Run (step cfg o) ok (.start cfg world) ls s) : Numbered s :=
  h.invariant numbered_start fun _ _ _ hs _ hstep => hs.move (step_move hstep)

end ChatApp.Pipeline
