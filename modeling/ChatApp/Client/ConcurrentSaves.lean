/-
  Saves that are not awaited. A call reads the list of its key when it is made, and writes the list
  back after the event loop has come round to it, so what another call has written in between is
  lost. A call that writes while its key has an id it has not read is the only way to lose one
  (`keeps_iff`), and without such calls every id stays (`run_stored`).
-/
import ChatApp.Client.MessageDatabase
import ChatApp.Lib.Run

namespace ChatApp.Client

open ChatApp.Lib

/-- Where the future of a save stands. -/
inductive SavePhase
  /-- waiting at `await getMessages`, with the list that was read -/
  | read (messages : List Message)
  /-- waiting for the disk at `await _messagesBox?.put`; the box has the new list -/
  | written
  | done

structure SaveCall where
  save : Save
  phase : SavePhase

def SaveCall.UpToDate (box : Box) : SaveCall → Prop
  | ⟨save, .read messages⟩ =>
    ∀ m ∈ save.existing box, 0 < m.messageId →
      m.messageId ∈ (messages ++ save.messages).map (·.messageId)
  | ⟨_, .written⟩ | ⟨_, .done⟩ => True

structure SavesState where
  box : Box
  calls : List SaveCall

inductive SaveLabel
  | start (save : Save)
  | resume (n : Nat)
  | finish (n : Nat)

namespace SavesState

def setPhase (s : SavesState) (n : Nat) (call : SaveCall) (phase : SavePhase) : SavesState :=
  { s with calls := s.calls.set n { call with phase := phase } }

def step (sorting : Sorting Message.NotAfter) (s : SavesState) : SaveLabel → Option SavesState
  | .start save =>
    if save.Fits then some { s with calls := s.calls ++ [⟨save, .read (save.existing s.box)⟩] }
    else none
  | .resume n =>
    match s.calls[n]? with
    | some ⟨save, .read messages⟩ =>
      some ({ s with box := save.write sorting s.box messages }.setPhase n
        ⟨save, .read messages⟩ .written)
    | _ => none
  | .finish n =>
    match s.calls[n]? with
    | some ⟨save, .written⟩ => some (s.setPhase n ⟨save, .written⟩ .done)
    | _ => none

/-- A call that is about to write has read every id of its key, or brings it. -/
def UpToDate (s : SavesState) : SaveLabel → Prop
  | .resume n => ∀ call ∈ s.calls[n]?, call.UpToDate s.box
  | .start _ | .finish _ => True

/-- The ids of the calls that have written are under their keys. -/
def Stored (s : SavesState) : Prop :=
  ∀ call ∈ s.calls, (∀ messages, call.phase ≠ .read messages) →
    ∀ id, Has call.save.messages id → Has (call.save.existing s.box) id

/-- No key loses an id. -/
def Keeps (s t : SavesState) : Prop :=
  ∀ p g id, Has (getMessages s.box p g) id → Has (getMessages t.box p g) id

end SavesState

open SavesState

variable {sorting : Sorting Message.NotAfter} {s t : SavesState} {l : SaveLabel} {n : Nat}
variable {save : Save} {box : Box} {messages : List Message} {phase : SavePhase} {call : SaveCall}
variable {ls : List SaveLabel}

instance : (call : SaveCall) → Decidable (call.UpToDate box)
  | ⟨_, .read _⟩ => inferInstanceAs (Decidable (∀ m ∈ _, _ → _))
  | ⟨_, .written⟩ | ⟨_, .done⟩ => isTrue trivial

instance (s : SavesState) : (l : SaveLabel) → Decidable (s.UpToDate l)
  | .resume n => inferInstanceAs (Decidable (∀ call ∈ s.calls[n]?, call.UpToDate s.box))
  | .start _ | .finish _ => isTrue trivial

/-! ## One step -/

theorem step_start (h : s.step sorting (.start save) = some t) :
    save.Fits ∧ t = { s with calls := s.calls ++ [⟨save, .read (save.existing s.box)⟩] } := by
  rw [step, Option.ite_none_right_eq_some, Option.some.injEq] at h
  exact ⟨h.1, h.2.symm⟩

theorem step_resume (h : s.step sorting (.resume n) = some t) :
    ∃ save messages, s.calls[n]? = some ⟨save, .read messages⟩ ∧
      t.box = save.write sorting s.box messages ∧
      t.calls = s.calls.set n ⟨save, .written⟩ := by
  simp only [step] at h
  split at h
  next save messages hcall =>
    obtain rfl := Option.some.inj h
    exact ⟨save, messages, hcall, rfl, rfl⟩
  next => exact absurd h.symm (Option.some_ne_none t)

theorem step_finish (h : s.step sorting (.finish n) = some t) :
    ∃ save, s.calls[n]? = some ⟨save, .written⟩ ∧ t.box = s.box ∧
      t.calls = s.calls.set n ⟨save, .done⟩ := by
  simp only [step] at h
  split at h
  next save hcall =>
    obtain rfl := Option.some.inj h
    exact ⟨save, hcall, rfl, rfl⟩
  next => exact absurd h.symm (Option.some_ne_none t)

/-! ## What the calls hold -/

/-- The lists that were read, and the messages to save, are lists of `int`s. -/
def SaveCall.Fits (call : SaveCall) : Prop :=
  call.save.Fits ∧ ∀ messages, call.phase = .read messages → ∀ m ∈ messages, m.Fits

theorem step_fits (hs : ∀ call ∈ s.calls, call.Fits) (h : s.step sorting l = some t) :
    ∀ call ∈ t.calls, call.Fits := by
  cases l with
  | start save =>
    obtain ⟨hsave, rfl⟩ := step_start h
    intro call hcall
    rcases List.mem_append.1 hcall with hcall | hcall
    · exact hs call hcall
    · obtain rfl := List.mem_singleton.1 hcall
      refine ⟨hsave, fun messages hread => ?_⟩
      obtain rfl := SavePhase.read.inj hread
      exact fits_getMessages
  | resume n =>
    obtain ⟨save, messages, hn, -, hcalls⟩ := step_resume h
    intro call hcall
    rcases List.mem_or_eq_of_mem_set (hcalls ▸ hcall) with hcall | rfl
    · exact hs call hcall
    · exact ⟨(hs _ (List.mem_of_getElem? hn)).1, nofun⟩
  | finish n =>
    obtain ⟨save, hn, -, hcalls⟩ := step_finish h
    intro call hcall
    rcases List.mem_or_eq_of_mem_set (hcalls ▸ hcall) with hcall | rfl
    · exact hs call hcall
    · exact ⟨(hs _ (List.mem_of_getElem? hn)).1, nofun⟩

theorem run_fits {ok : SavesState → SaveLabel → Prop} (h : Run (step sorting) ok ⟨box, []⟩ ls s) :
    ∀ call ∈ s.calls, call.Fits :=
  h.invariant (fun _ hcall => absurd hcall List.not_mem_nil) fun _ _ _ hs _ => step_fits hs

/-! ## Writing -/

theorem upToDate_iff (hn : s.calls[n]? = some ⟨save, .read messages⟩) :
    s.UpToDate (.resume n) ↔
      ∀ id, Has (save.existing s.box) id → Has messages id ∨ Has save.messages id := by
  have hids : ∀ id, Has messages id ∨ Has save.messages id ↔
      0 < id ∧ id ∈ (messages ++ save.messages).map (·.messageId) := by
    intro id
    simp only [has_iff_mem_map, List.map_append, List.mem_append, and_or_left]
  simp only [SavesState.UpToDate, hn, Option.mem_some_iff, forall_eq', SaveCall.UpToDate, hids]
  refine ⟨fun h id ⟨hid, m, hm, hsame⟩ => ⟨hid, ?_⟩, fun h m hm hid => ?_⟩
  · subst hsame
    exact h m hm hid
  · exact (h m.messageId ⟨hid, m, hm, rfl⟩).2

/-- The ids under a key after a call has written. -/
theorem has_write (hmessages : ∀ m ∈ messages, m.Fits) (hsave : save.Fits) {p : Int} {g : Bool}
    {id : Int} : Has (getMessages (save.write sorting box messages) p g) id ↔
      if save.target = (p, g) then Has messages id ∨ Has save.messages id
      else Has (getMessages box p g) id := by
  rw [getMessages_write hmessages hsave]
  split
  next => rw [has_sort, has_merge]
  next => rfl

theorem step_keeps_iff (hs : ∀ call ∈ s.calls, call.Fits) (h : s.step sorting l = some t) :
    Keeps s t ↔ s.UpToDate l := by
  cases l with
  | start save =>
    obtain ⟨-, rfl⟩ := step_start h
    exact iff_of_true (fun _ _ _ hid => hid) trivial
  | finish n =>
    obtain ⟨save, -, hbox, -⟩ := step_finish h
    refine iff_of_true (fun _ _ _ hid => ?_) trivial
    rwa [hbox]
  | resume n =>
    obtain ⟨save, messages, hn, hbox, -⟩ := step_resume h
    obtain ⟨hsave, hmessages⟩ := hs _ (List.mem_of_getElem? hn)
    rw [upToDate_iff hn]
    unfold Keeps
    simp only [hbox, has_write (hmessages messages rfl) hsave]
    refine ⟨fun hkeeps id hid => ?_, fun hread p g id hid => ?_⟩
    · exact (if_pos rfl).mp (hkeeps save.target.1 save.target.2 id hid)
    · split
      next heq =>
        unfold Save.existing at hread
        rw [heq] at hread
        exact hread id hid
      next => exact hid

theorem step_stored (hs : ∀ call ∈ s.calls, call.Fits) (hstored : s.Stored)
    (hok : s.UpToDate l) (h : s.step sorting l = some t) : t.Stored := by
  have hkeeps : Keeps s t := (step_keeps_iff hs h).2 hok
  have hold : ∀ call ∈ s.calls, (∀ messages, call.phase ≠ .read messages) →
      ∀ id, Has call.save.messages id → Has (call.save.existing t.box) id :=
    fun call hcall hphase id hid => hkeeps _ _ id (hstored call hcall hphase id hid)
  intro call hcall hphase id hid
  cases l with
  | start save =>
    obtain ⟨-, rfl⟩ := step_start h
    rcases List.mem_append.1 hcall with hcall | hcall
    · exact hold call hcall hphase id hid
    · obtain rfl := List.mem_singleton.1 hcall
      exact absurd rfl (hphase _)
  | resume n =>
    obtain ⟨save, messages, hn, hbox, hcalls⟩ := step_resume h
    obtain ⟨hsave, hmessages⟩ := hs _ (List.mem_of_getElem? hn)
    rcases List.mem_or_eq_of_mem_set (hcalls ▸ hcall) with hcall | rfl
    · exact hold call hcall hphase id hid
    · rw [hbox, Save.existing, has_write (hmessages messages rfl) hsave, if_pos rfl]
      exact .inr hid
  | finish n =>
    obtain ⟨save, hn, -, hcalls⟩ := step_finish h
    rcases List.mem_or_eq_of_mem_set (hcalls ▸ hcall) with hcall | rfl
    · exact hold call hcall hphase id hid
    · exact hold _ (List.mem_of_getElem? hn) nofun id hid

/-! ## Runs -/

theorem run_stored (h : Run (step sorting) UpToDate ⟨box, []⟩ ls s) : s.Stored := by
  refine (h.invariant (I := fun s => (∀ call ∈ s.calls, call.Fits) ∧ s.Stored) ?_ ?_).2
  · exact ⟨fun _ hcall => absurd hcall List.not_mem_nil,
      fun _ hcall => absurd hcall List.not_mem_nil⟩
  · exact fun s l t hs hok h => ⟨step_fits hs.1 h, step_stored hs.1 hs.2 hok h⟩

/-- In every run whose calls write only over ids that they have, the ids of the calls that have
    written are stored. The next step keeps all ids if and only if it is no other call's write. -/
theorem saves_stored (h : Run (step sorting) UpToDate ⟨box, []⟩ ls s) :
    s.Stored ∧ ∀ l t, s.step sorting l = some t → (Keeps s t ↔ s.UpToDate l) :=
  ⟨run_stored h, fun _ _ => step_keeps_iff (run_fits h)⟩

/-- A message of user 2 to user 1. -/
def incoming (messageId : Int) : Message := ⟨messageId, 2, 1, 0, 0, "hello", "", "", 1, messageId⟩

/-- The second of two messages arrives when the first one is stored. -/
theorem saves_stored_apart :
    ∃ s : SavesState, s.calls.map (·.save.messages) = [[incoming 1], [incoming 2]] ∧ s.Stored := by
  have hrun : Run (step (.insertion Message.NotAfter)) UpToDate ⟨fun _ => none, []⟩
      [.start (.message (incoming 1)), .resume 0, .start (.message (incoming 2)), .finish 0,
        .resume 1, .finish 1] _ := run_iff_exec.2 rfl
  exact ⟨_, rfl, (saves_stored hrun).1⟩

/-- Two messages arrive in one turn of the event loop, and the second write drops the first. -/
theorem first_save_lost :
    ¬ ∀ (ls : List SaveLabel) (s : SavesState),
      Run (step (.insertion Message.NotAfter)) anyStep ⟨fun _ => none, []⟩ ls s →
      (∀ call ∈ s.calls, call.phase = .done) → s.Stored := by
  intro h
  have hrun : Run (step (.insertion Message.NotAfter)) anyStep ⟨fun _ => none, []⟩
      [.start (.message (incoming 1)), .start (.message (incoming 2)), .resume 0, .resume 1,
        .finish 0, .finish 1] _ := exec_run rfl
  have hdone : ∀ call ∈ [SaveCall.mk (.message (incoming 1)) .done,
      SaveCall.mk (.message (incoming 2)) .done], call.phase = .done := by simp
  have hstored := h _ _ hrun hdone ⟨.message (incoming 1), .done⟩ List.mem_cons_self nofun 1
    ⟨by decide, incoming 1, List.mem_cons_self, rfl⟩
  obtain ⟨-, m, hm, hid⟩ := hstored
  revert hid
  revert m
  decide

end ChatApp.Client
