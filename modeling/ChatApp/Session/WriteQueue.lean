/-
  The sending side of a `Session` (`Session::send`, `Session::do_write`): worker-pool threads
  push buffers into `write_queue_` under `write_mutex_`, and `do_write`, run by the threads of
  the io_context, pops one buffer and hands it to `asio::async_write`.

  Granularity. A critical section of `write_mutex_` is one step. `asio::post`, the call of
  `async_write` and the return of `do_write` are steps of their own, since other threads run
  between them. `async_write` is a composed operation: it issues partial socket writes and its
  handler runs once, when the buffer is used up or on an error.

  The buffer given to `async_write` is the local `data` of `do_write`. The handler does not
  capture it, so it is destroyed when `do_write` returns; a partial write issued after that
  reads freed memory, and the bytes it sends (`junk`) are whatever the schedule says.

  Two conditions on a schedule, checked in the state before each step. `SendSpaced`: no `send`
  finds the queue empty while a buffer is still on its way to the wire. `DataAlive`: no partial
  write is issued after its `do_write` returned. The first alone gives at most one outstanding
  `async_write`; both give the order on the wire.
-/
import Mathlib.Data.List.Infix
import ChatApp.Lib.Run

namespace ChatApp.Session

open ChatApp.Lib

/-- A buffer as `Session::send` gets it. -/
abbrev Buffer := List UInt8

/-- An outstanding `async_write`: the bytes still to be sent, and whether the `do_write` that
    owns the memory is still running. -/
structure AsyncWrite where
  rest : Buffer
  dataLive : Bool
  deriving DecidableEq, Repr

structure WriteState where
  /-- `write_queue_` -/
  writeQueue : List Buffer
  /-- `send` calls that saw `write_in_progress` false and have not reached `asio::post` -/
  unposted : Nat
  /-- posted `do_write` tasks -/
  posted : Nat
  /-- buffers popped by a `do_write` that has not called `async_write` yet -/
  popped : List Buffer
  writes : List AsyncWrite
  wire : Buffer
  /-- `socket_` was closed -/
  closed : Bool
  /-- every buffer that entered `write_queue_`, in that order (ghost) -/
  entered : List Buffer
  deriving DecidableEq, Repr

inductive WriteStep
  /-- the critical section of `send` -/
  | send (data : Buffer)
  | post
  /-- an io thread takes a posted task: `do_write` up to the pop -/
  | runTask
  | asyncWrite (i : Nat)
  | doWriteReturns (i : Nat)
  /-- a partial socket write of `n` bytes -/
  | writeSome (i n : Nat) (junk : Buffer)
  /-- the handler without error: `do_write` up to the pop -/
  | writeDone (i : Nat)
  /-- the handler with an error: `close` -/
  | writeFailed (i : Nat)
  | close
  deriving DecidableEq, Repr

namespace WriteState

def init : WriteState where
  writeQueue := []
  unposted := 0
  posted := 0
  popped := []
  writes := []
  wire := []
  closed := false
  entered := []

/-- `Session::send` up to the end of its critical section. -/
def send (s : WriteState) (data : Buffer) : WriteState :=
  let writeInProgress := !s.writeQueue.isEmpty
  { s with
    writeQueue := s.writeQueue ++ [data]
    entered := s.entered ++ [data]
    unposted := if writeInProgress then s.unposted else s.unposted + 1 }

/-- `Session::do_write` up to the end of its critical section. -/
def doWrite (s : WriteState) : WriteState :=
  match s.writeQueue with
  | [] => s
  | data :: queue => { s with writeQueue := queue, popped := s.popped ++ [data] }

/-- What a partial write of `n` bytes of `w` sends. -/
def sentBytes (w : AsyncWrite) (n : Nat) (junk : Buffer) : Buffer :=
  if w.dataLive then w.rest.take n else junk

def step (s : WriteState) : WriteStep → Option WriteState
  | .send data => some (s.send data)
  | .post =>
    if 0 < s.unposted then
      some { s with unposted := s.unposted - 1, posted := s.posted + 1 }
    else none
  | .runTask =>
    if 0 < s.posted then some { s with posted := s.posted - 1 }.doWrite else none
  | .asyncWrite i =>
    (s.popped[i]?).map fun data =>
      { s with popped := s.popped.eraseIdx i, writes := s.writes ++ [⟨data, true⟩] }
  | .doWriteReturns i =>
    (s.writes[i]?).map fun w => { s with writes := s.writes.set i { w with dataLive := false } }
  | .writeSome i n junk =>
    (s.writes[i]?).bind fun w =>
      if 0 < n ∧ n ≤ w.rest.length ∧ junk.length = n ∧ s.closed = false then
        some { s with
          writes := s.writes.set i { w with rest := w.rest.drop n }
          wire := s.wire ++ sentBytes w n junk }
      else none
  | .writeDone i =>
    (s.writes[i]?).bind fun w =>
      if w.rest = [] then some { s with writes := s.writes.eraseIdx i }.doWrite else none
  | .writeFailed i =>
    (s.writes[i]?).map fun _ => { s with writes := s.writes.eraseIdx i, closed := true }
  | .close => some { s with closed := true }

/-- Tasks and buffers between the queue and the wire. -/
def active (s : WriteState) : Nat :=
  s.unposted + s.posted + s.popped.length + s.writes.length

/-- The bytes between the queue and the wire. -/
def inFlight (s : WriteState) : Buffer :=
  (s.writes.map AsyncWrite.rest).flatten ++ s.popped.flatten

/-- At most one `async_write` is outstanding on the socket. -/
def OneWrite (s : WriteState) : Prop := s.writes.length ≤ 1

instance : DecidablePred OneWrite := fun s => inferInstanceAs (Decidable (s.writes.length ≤ 1))

/-- The wire carries the entered buffers whole, once each and in order: it is a prefix of their
    concatenation, and all of it once nothing is queued or on its way and the socket is open. -/
def WireInOrder (s : WriteState) : Prop :=
  s.wire <+: s.entered.flatten ∧
    (s.closed = false → s.writeQueue = [] → s.active = 0 → s.wire = s.entered.flatten)

instance : DecidablePred WireInOrder := fun s =>
  inferInstanceAs (Decidable (s.wire <+: s.entered.flatten ∧
    (s.closed = false → s.writeQueue = [] → s.active = 0 → s.wire = s.entered.flatten)))

/-- No `send` finds the queue empty while a task or a buffer is under way. -/
def SendSpaced (s : WriteState) : WriteStep → Prop
  | .send _ => s.writeQueue = [] → s.active = 0
  | _ => True

/-- No partial write is issued after the `do_write` that started it returned. -/
def DataAlive (s : WriteState) : WriteStep → Prop
  | .writeSome i _ _ => (s.writes[i]?).all AsyncWrite.dataLive
  | _ => True

def SendOk (s : WriteState) (l : WriteStep) : Prop := SendSpaced s l ∧ DataAlive s l

instance (s : WriteState) (l : WriteStep) : Decidable (SendOk s l) := by
  cases l <;> unfold SendOk SendSpaced DataAlive <;> infer_instance

/-! ## At most one outstanding write -/

/-- At most one task or buffer is under way, and it is there whenever the queue is not empty. -/
structure Serial (s : WriteState) : Prop where
  active_le : s.active ≤ 1
  /-- a task that still has to pop finds a buffer -/
  task_queue : 0 < s.unposted + s.posted → s.writeQueue ≠ []
  queue_active : s.closed = false → s.writeQueue ≠ [] → s.active = 1

theorem serial_init : Serial init := by
  constructor <;> simp [init, active]

theorem active_zero {s : WriteState} (h : s.active = 0) :
    s.unposted = 0 ∧ s.posted = 0 ∧ s.popped = [] ∧ s.writes = [] := by
  simp only [active] at h
  exact ⟨by omega, by omega, List.eq_nil_of_length_eq_zero (by omega),
    List.eq_nil_of_length_eq_zero (by omega)⟩

/-- An outstanding write is the only thing under way. -/
theorem Serial.writes_eq {s : WriteState} (h : Serial s) {i : Nat} {w : AsyncWrite}
    (hw : s.writes[i]? = some w) :
    i = 0 ∧ s.writes = [w] ∧ s.popped = [] ∧ s.unposted = 0 ∧ s.posted = 0 := by
  obtain ⟨hi, rfl⟩ := List.getElem?_eq_some_iff.mp hw
  have hle := h.active_le
  simp only [active] at hle
  have hlen : s.writes.length = 1 := by omega
  obtain ⟨w', hw'⟩ := List.length_eq_one_iff.mp hlen
  have hi0 : i = 0 := by omega
  subst hi0
  exact ⟨rfl, by simp [hw'], List.eq_nil_of_length_eq_zero (by omega), by omega, by omega⟩

/-- A popped buffer is the only thing under way. -/
theorem Serial.popped_eq {s : WriteState} (h : Serial s) {i : Nat} {data : Buffer}
    (hd : s.popped[i]? = some data) :
    i = 0 ∧ s.popped = [data] ∧ s.writes = [] ∧ s.unposted = 0 ∧ s.posted = 0 := by
  obtain ⟨hi, rfl⟩ := List.getElem?_eq_some_iff.mp hd
  have hle := h.active_le
  simp only [active] at hle
  have hlen : s.popped.length = 1 := by omega
  obtain ⟨d, hd'⟩ := List.length_eq_one_iff.mp hlen
  have hi0 : i = 0 := by omega
  subst hi0
  exact ⟨rfl, by simp [hd'], List.eq_nil_of_length_eq_zero (by omega), by omega, by omega⟩

/-- A posted task is the only thing under way. -/
theorem Serial.posted_eq {s : WriteState} (h : Serial s) (hp : 0 < s.posted) :
    s.posted = 1 ∧ s.unposted = 0 ∧ s.popped = [] ∧ s.writes = [] := by
  have hle := h.active_le
  simp only [active] at hle
  exact ⟨by omega, by omega, List.eq_nil_of_length_eq_zero (by omega),
    List.eq_nil_of_length_eq_zero (by omega)⟩

/-- `do_write` called when nothing else is under way. -/
theorem serial_doWrite {s : WriteState} (h₀ : s.active = 0) : Serial s.doWrite := by
  obtain ⟨hu, hp, hpop, hwr⟩ := active_zero h₀
  unfold doWrite
  split
  next hq => constructor <;> simp_all
  next data queue hq => constructor <;> simp_all [active]

theorem serial_send {s : WriteState} (h : Serial s) {data : Buffer}
    (hok : s.writeQueue = [] → s.active = 0) : Serial (s.send data) := by
  cases hq : s.writeQueue with
  | nil =>
    -- the queue was empty: the new task is the only thing under way
    obtain ⟨hu, hp, hpop, hwr⟩ := active_zero (hok hq)
    constructor <;> simp_all [send, active]
  | cons d queue =>
    have hact := h.active_le
    have hone := h.queue_active
    constructor <;> simp_all [send, active]

theorem serial_step {s t : WriteState} {l : WriteStep} (h : Serial s) (hok : SendSpaced s l)
    (hs : s.step l = some t) : Serial t := by
  cases l with
  | send data =>
    simp only [step, Option.some.injEq] at hs
    exact hs ▸ serial_send h hok
  | post =>
    simp only [step, Option.ite_none_right_eq_some, Option.some.injEq] at hs
    obtain ⟨hu, rfl⟩ := hs
    have e : active { s with unposted := s.unposted - 1, posted := s.posted + 1 } = s.active := by
      simp only [active]; omega
    exact ⟨e ▸ h.active_le, fun _ => h.task_queue (by omega), e ▸ h.queue_active⟩
  | runTask =>
    simp only [step, Option.ite_none_right_eq_some, Option.some.injEq] at hs
    obtain ⟨hp, rfl⟩ := hs
    obtain ⟨hp, hu, hpop, hwr⟩ := h.posted_eq hp
    exact serial_doWrite (by simp [active, hp, hu, hpop, hwr])
  | asyncWrite i =>
    simp only [step, Option.map_eq_some_iff] at hs
    obtain ⟨data, hd, rfl⟩ := hs
    obtain ⟨rfl, hpop, hwr, hu, hp⟩ := h.popped_eq hd
    constructor <;> simp [active, hpop, hwr, hu, hp]
  | doWriteReturns i =>
    simp only [step, Option.map_eq_some_iff] at hs
    obtain ⟨w, hw, rfl⟩ := hs
    obtain ⟨rfl, hwr, hpop, hu, hp⟩ := h.writes_eq hw
    constructor <;> simp [active, hpop, hwr, hu, hp]
  | writeSome i n junk =>
    simp only [step, Option.bind_eq_some_iff, Option.ite_none_right_eq_some,
      Option.some.injEq] at hs
    obtain ⟨w, hw, -, rfl⟩ := hs
    obtain ⟨rfl, hwr, hpop, hu, hp⟩ := h.writes_eq hw
    constructor <;> simp [active, hpop, hwr, hu, hp]
  | writeDone i =>
    simp only [step, Option.bind_eq_some_iff, Option.ite_none_right_eq_some,
      Option.some.injEq] at hs
    obtain ⟨w, hw, -, rfl⟩ := hs
    obtain ⟨rfl, hwr, hpop, hu, hp⟩ := h.writes_eq hw
    exact serial_doWrite (by simp [active, hwr, hpop, hu, hp])
  | writeFailed i =>
    simp only [step, Option.map_eq_some_iff] at hs
    obtain ⟨w, hw, rfl⟩ := hs
    obtain ⟨rfl, hwr, hpop, hu, hp⟩ := h.writes_eq hw
    constructor <;> simp [active, hpop, hwr, hu, hp]
  | close =>
    simp only [step, Option.some.injEq] at hs
    subst hs
    exact ⟨h.active_le, h.task_queue, fun hc => by simp at hc⟩

theorem serial_run {ls : List WriteStep} {s : WriteState} (h : Run step SendSpaced init ls s) :
    Serial s :=
  h.invariant serial_init fun _ _ _ hI hok hs => serial_step hI hok hs

theorem Serial.oneWrite {s : WriteState} (h : Serial s) : OneWrite s := by
  have := h.active_le
  simp only [active] at this
  unfold OneWrite
  omega

/-! ## The order on the wire -/

/-- As long as the socket is open, the wire, the bytes under way and the queue make up what
    entered the queue. -/
structure Accounted (s : WriteState) : Prop where
  account : s.closed = false → s.wire ++ (s.inFlight ++ s.writeQueue.flatten) = s.entered.flatten
  wire_prefix : s.wire <+: s.entered.flatten

theorem accounted_init : Accounted init := by
  constructor <;> simp [init, inFlight]

theorem inFlight_nil {s : WriteState} (hpop : s.popped = []) (hwr : s.writes = []) :
    s.inFlight = [] := by
  simp [inFlight, hpop, hwr]

/-- `do_write` called when nothing else is under way. -/
theorem accounted_doWrite {s : WriteState} (hpop : s.popped = []) (hwr : s.writes = [])
    (hacc : s.closed = false → s.wire ++ s.writeQueue.flatten = s.entered.flatten)
    (hpre : s.wire <+: s.entered.flatten) : Accounted s.doWrite := by
  unfold doWrite
  split
  next hq => exact ⟨fun hc => by simpa [inFlight_nil hpop hwr] using hacc hc, hpre⟩
  next data queue hq =>
    exact ⟨fun hc => by simpa [inFlight, hpop, hwr, hq] using hacc hc, hpre⟩

theorem accounted_send {s : WriteState} (h : Accounted s) (data : Buffer) :
    Accounted (s.send data) := by
  have hflat : (s.entered ++ [data]).flatten = s.entered.flatten ++ data := by simp
  constructor
  · intro hc
    show s.wire ++ (s.inFlight ++ (s.writeQueue ++ [data]).flatten) = _
    rw [show (s.send data).entered = s.entered ++ [data] from rfl, hflat, ← h.account hc]
    simp [List.append_assoc]
  · show s.wire <+: (s.entered ++ [data]).flatten
    rw [hflat]
    exact h.wire_prefix.trans (List.prefix_append _ _)

/-- A partial write of a live buffer sends its next bytes. -/
theorem accounted_writeSome {s : WriteState} (h : Accounted s) {w : AsyncWrite} {n : Nat}
    {junk : Buffer} (hwr : s.writes = [w]) (hpop : s.popped = []) (hlive : w.dataLive = true)
    (hc : s.closed = false) :
    Accounted { s with
      writes := [{ w with rest := w.rest.drop n }]
      wire := s.wire ++ sentBytes w n junk } := by
  have hsent : sentBytes w n junk = w.rest.take n := by simp [sentBytes, hlive]
  have hacc : s.wire ++ w.rest.take n ++ (w.rest.drop n ++ s.writeQueue.flatten) =
      s.entered.flatten := by
    have := h.account hc
    simp only [inFlight, hwr, hpop, List.map_cons, List.map_nil, List.flatten_cons,
      List.flatten_nil, List.append_nil] at this
    rw [← this, ← List.append_assoc, List.append_assoc s.wire, List.take_append_drop,
      List.append_assoc]
  constructor
  · intro _
    simpa [inFlight, hpop, hsent] using hacc
  · rw [hsent]
    exact ⟨_, hacc⟩

theorem accounted_step {s t : WriteState} {l : WriteStep} (hser : Serial s) (h : Accounted s)
    (hok : DataAlive s l) (hs : s.step l = some t) : Accounted t := by
  cases l with
  | send data =>
    simp only [step, Option.some.injEq] at hs
    exact hs ▸ accounted_send h data
  | post =>
    simp only [step, Option.ite_none_right_eq_some, Option.some.injEq] at hs
    obtain ⟨-, rfl⟩ := hs
    exact ⟨h.account, h.wire_prefix⟩
  | runTask =>
    simp only [step, Option.ite_none_right_eq_some, Option.some.injEq] at hs
    obtain ⟨hp, rfl⟩ := hs
    obtain ⟨-, -, hpop, hwr⟩ := hser.posted_eq hp
    refine accounted_doWrite hpop hwr (fun hc => ?_) h.wire_prefix
    simpa [inFlight_nil hpop hwr] using h.account hc
  | asyncWrite i =>
    simp only [step, Option.map_eq_some_iff] at hs
    obtain ⟨data, hd, rfl⟩ := hs
    obtain ⟨rfl, hpop, hwr, -, -⟩ := hser.popped_eq hd
    refine ⟨fun hc => ?_, h.wire_prefix⟩
    simpa [inFlight, hpop, hwr] using h.account hc
  | doWriteReturns i =>
    simp only [step, Option.map_eq_some_iff] at hs
    obtain ⟨w, hw, rfl⟩ := hs
    obtain ⟨rfl, hwr, hpop, -, -⟩ := hser.writes_eq hw
    refine ⟨fun hc => ?_, h.wire_prefix⟩
    simpa [inFlight, hpop, hwr] using h.account hc
  | writeSome i n junk =>
    simp only [step, Option.bind_eq_some_iff, Option.ite_none_right_eq_some,
      Option.some.injEq] at hs
    obtain ⟨w, hw, ⟨-, -, -, hc⟩, rfl⟩ := hs
    obtain ⟨rfl, hwr, hpop, -, -⟩ := hser.writes_eq hw
    have hlive : w.dataLive = true := by simpa [DataAlive, hw] using hok
    simpa [hwr] using accounted_writeSome h hwr hpop hlive hc
  | writeDone i =>
    simp only [step, Option.bind_eq_some_iff, Option.ite_none_right_eq_some,
      Option.some.injEq] at hs
    obtain ⟨w, hw, hrest, rfl⟩ := hs
    obtain ⟨rfl, hwr, hpop, -, -⟩ := hser.writes_eq hw
    refine accounted_doWrite hpop (by simp [hwr]) (fun hc => ?_) h.wire_prefix
    simpa [inFlight, hwr, hpop, hrest] using h.account hc
  | writeFailed i =>
    simp only [step, Option.map_eq_some_iff] at hs
    obtain ⟨w, -, rfl⟩ := hs
    exact ⟨fun hc => by simp at hc, h.wire_prefix⟩
  | close =>
    simp only [step, Option.some.injEq] at hs
    subst hs
    exact ⟨fun hc => by simp at hc, h.wire_prefix⟩

theorem accounted_run {ls : List WriteStep} {s : WriteState} (h : Run step SendOk init ls s) :
    Serial s ∧ Accounted s :=
  h.invariant (I := fun s => Serial s ∧ Accounted s) ⟨serial_init, accounted_init⟩
    fun _ _ _ hI hok hs => ⟨serial_step hI.1 hok.1 hs, accounted_step hI.1 hI.2 hok.2 hs⟩

theorem Accounted.wireInOrder {s : WriteState} (h : Accounted s) : WireInOrder s := by
  refine ⟨h.wire_prefix, fun hc hq ha => ?_⟩
  obtain ⟨_, _, hpop, hwr⟩ := active_zero ha
  simpa [inFlight_nil hpop hwr, hq] using h.account hc

/-! ## Schedules that do not meet the conditions -/

/-- A `send` that finds the queue empty while a buffer is under way is followed, in some
    schedule, by a second outstanding `async_write`. -/
theorem Serial.two_writes {s : WriteState} (h : Serial s) {data : Buffer}
    (hok : ¬ SendSpaced s (.send data)) :
    ∃ ls t, exec step s (.send data :: ls) = some t ∧ ¬ OneWrite t := by
  simp only [SendSpaced, Classical.not_imp] at hok
  obtain ⟨hq, ha⟩ := hok
  have hle := h.active_le
  have htask : s.unposted = 0 ∧ s.posted = 0 := by
    by_contra hne
    exact h.task_queue (by omega) hq
  have hsum : s.popped.length + s.writes.length = 1 := by
    simp only [active] at ha hle
    omega
  rcases Nat.lt_or_ge 0 s.writes.length with hwr | hwr
  · -- a write is outstanding: the new task pops `data` and starts the second one
    have hpop : s.popped = [] := List.eq_nil_of_length_eq_zero (by omega)
    obtain ⟨w, hw⟩ := List.length_eq_one_iff.mp (show s.writes.length = 1 by omega)
    obtain ⟨queue, unposted, posted, popped, writes, wire, closed, entered⟩ := s
    simp only at hq hpop hw htask
    obtain ⟨rfl, rfl⟩ := htask
    subst hq hpop hw
    exact ⟨[.post, .runTask, .asyncWrite 0], _, rfl, by simp [OneWrite, send, doWrite]⟩
  · -- the popped buffer is written first
    have hwr' : s.writes = [] := List.eq_nil_of_length_eq_zero (by omega)
    obtain ⟨d, hd⟩ := List.length_eq_one_iff.mp (show s.popped.length = 1 by omega)
    obtain ⟨queue, unposted, posted, popped, writes, wire, closed, entered⟩ := s
    simp only at hq hwr' hd htask
    obtain ⟨rfl, rfl⟩ := htask
    subst hq hwr' hd
    exact ⟨[.asyncWrite 0, .post, .runTask, .asyncWrite 0], _, rfl,
      by simp [OneWrite, send, doWrite]⟩

/-- A partial write issued after its `do_write` returned can put a byte on the wire that
    nobody sent. -/
theorem Accounted.foreign_byte {s : WriteState} (h : Accounted s) (hser : Serial s) {i n : Nat}
    {junk₀ : Buffer} (hen : (s.step (.writeSome i n junk₀)).isSome)
    (hok : ¬ DataAlive s (.writeSome i n junk₀)) :
    ∃ junk t, s.step (.writeSome i n junk) = some t ∧ ¬ WireInOrder t := by
  obtain ⟨t₀, ht₀⟩ := Option.isSome_iff_exists.mp hen
  simp only [step, Option.bind_eq_some_iff, Option.ite_none_right_eq_some] at ht₀
  obtain ⟨w, hw, ⟨hn, hle, _, hc⟩, _⟩ := ht₀
  have hdead : w.dataLive = false := by simpa [DataAlive, hw] using hok
  obtain ⟨rfl, hwr, hpop, -, -⟩ := hser.writes_eq hw
  obtain ⟨b, rest, hrest⟩ : ∃ b rest, w.rest = b :: rest :=
    List.exists_cons_of_length_pos (by omega)
  set junk := (b + 1) :: List.replicate (n - 1) 0 with hjunk
  have hlen : junk.length = n := by
    simp only [hjunk, List.length_cons, List.length_replicate]
    omega
  have hstep : s.step (.writeSome 0 n junk) = some { s with
      writes := s.writes.set 0 { w with rest := w.rest.drop n }
      wire := s.wire ++ sentBytes w n junk } := by
    simp [step, hwr, hn, hle, hlen, hc]
  refine ⟨junk, _, hstep, ?_⟩
  rintro ⟨hpre, _⟩
  have hacc := h.account hc
  simp only [inFlight, hwr, hpop, hrest, List.map_cons, List.map_nil, List.flatten_cons,
    List.flatten_nil, List.append_nil, List.cons_append] at hacc
  simp only [sentBytes, hdead, Bool.false_eq_true, if_false, ← hacc, hjunk,
    List.prefix_append_right_inj, List.cons_prefix_cons] at hpre
  have hne : b + 1 ≠ b := by simp
  exact hne hpre.1

end WriteState

end ChatApp.Session
