/-
  The limit on messages. `parse_frame` refuses a frame whose payload has more than 10 MB, and calls
  it a message that is too large; the fragments of a message are not counted together. `Fits` says
  for which frames the limit holds all the same, and `limited_iff` that there are no others: what
  has once been too long stays in `fragment_data_` or goes to `message_handler_`.
-/
import ChatApp.WebSocket.Reassembly
import ChatApp.WebSocket.RoundTrip

namespace ChatApp.WebSocket

open ChatApp.Lib

/-- The frames at the front of received bytes. -/
def framesOf (bytes : Bytes) : List WsFrame := frameDecoder.items bytes

/-- The fragments of a message never come to more than 10 MB. `gathered` is the length of those
    before the frames, if a message is started. Nothing is asked of the frames behind the first
    one that fails. -/
def Fits : Option Nat → List WsFrame → Prop
  | _, [] => True
  | gathered, frame :: frames =>
    if 0x8 ≤ frame.opcode then
      frame.opcode = WsOpcode.ping ∨ frame.opcode = WsOpcode.pong → Fits gathered frames
    else if frame.opcode = WsOpcode.continuation then
      ∀ n, gathered = some n → n + frame.payload.length ≤ maxPayload ∧
        Fits (if frame.fin then none else some (n + frame.payload.length)) frames
    else gathered = none → Fits (if frame.fin then none else some frame.payload.length) frames

/-! ## The payload of a frame -/

variable {data : Bytes} {f : WsFrame} {n headerLen payloadLen : Nat} {key : Option Bytes}

theorem length_slice_le (data : Bytes) (i n : Nat) : (slice data i n).length ≤ n := by
  rw [slice, List.length_take]
  exact Nat.min_le_left _ _

theorem payload_decodePayload (h : decodePayload data headerLen payloadLen key = .item f n) :
    f.payload.length ≤ payloadLen := by
  unfold decodePayload at h
  by_cases hd : data.length < headerLen + payloadLen
  · rw [if_pos hd] at h
    cases h
  · rw [if_neg hd] at h
    obtain ⟨rfl, -⟩ := Decoded.item.inj h
    cases key with
    | none => exact length_slice_le data headerLen payloadLen
    | some key =>
      show (unmask key _).length ≤ payloadLen
      rw [length_unmask]
      exact length_slice_le data headerLen payloadLen

theorem payload_decodeMask (h : decodeMask data headerLen payloadLen = .item f n) :
    f.payload.length ≤ maxPayload := by
  unfold decodeMask at h
  by_cases hbig : payloadLen > maxPayload
  · rw [if_pos hbig] at h
    cases h
  rw [if_neg hbig] at h
  have hlen : payloadLen ≤ maxPayload := Nat.not_lt.1 hbig
  by_cases hmask : data.getD 1 0 &&& 0x80 ≠ 0
  · rw [if_pos hmask] at h
    by_cases hkey : data.length < headerLen + 4
    · rw [if_pos hkey] at h
      cases h
    rw [if_neg hkey] at h
    exact Nat.le_trans (payload_decodePayload h) hlen
  · rw [if_neg hmask] at h
    exact Nat.le_trans (payload_decodePayload h) hlen

theorem payload_decodeFrame (h : decodeFrame data = .item f n) :
    f.payload.length ≤ maxPayload := by
  unfold decodeFrame at h
  by_cases hlen : data.length < 2
  · rw [if_pos hlen] at h
    cases h
  rw [if_neg hlen] at h
  simp only at h
  split at h
  · split at h
    · cases h
    · exact payload_decodeMask h
  · split at h
    · split at h
      · cases h
      · exact payload_decodeMask h
    · exact payload_decodeMask h

/-! ## Frame after frame -/

namespace WsState

/-- No message has more than 10 MB, and neither have the fragments that wait for the next. -/
def Limited (s : WsState) : Prop :=
  (∀ message ∈ s.messages, message.length ≤ maxPayload) ∧ s.fragmentData.length ≤ maxPayload

/-- The length of the fragments, if a message is started. -/
def gathered (s : WsState) : Option Nat :=
  if s.inFragmented then some s.fragmentData.length else none

/-- Without a started message there are no fragments. -/
def Settled (s : WsState) : Prop := s.inFragmented = false → s.fragmentData = []

variable {s : WsState} {frame : WsFrame}

@[simp] theorem messages_sendFrame (opcode : UInt8) (data : Bytes) (fin : Bool) :
    (s.sendFrame opcode data fin).messages = s.messages := by
  unfold sendFrame
  split
  · rfl
  · simp [messages, WsEvent.message?]

/-- A control frame changes neither the messages nor the fragments. -/
structure Untouched (s s' : WsState) : Prop where
  messages : s'.messages = s.messages
  inFragmented : s'.inFragmented = s.inFragmented
  fragmentData : s'.fragmentData = s.fragmentData

theorem untouched_sendFrame (opcode : UInt8) (data : Bytes) (fin : Bool) :
    Untouched s (s.sendFrame opcode data fin) := by
  refine ⟨messages_sendFrame opcode data fin, ?_, ?_⟩ <;> (unfold sendFrame; split <;> rfl)

theorem untouched_handleControl : Untouched s (s.handleControl frame).2 := by
  have hsame : Untouched s s := ⟨rfl, rfl, rfl⟩
  unfold handleControl
  split
  · exact untouched_sendFrame _ _ _
  · split
    · exact hsame
    · split
      · show Untouched s (if s.closed then s else s.sendClose 1000 "Normal closure")
        split
        · exact hsame
        · obtain ⟨hmessages, hfragmented, hdata⟩ :=
            untouched_sendFrame (s := s) WsOpcode.close _ true
          exact ⟨hmessages, hfragmented, hdata⟩
      · exact hsame

theorem handleControl_goes : (s.handleControl frame).1 = true ↔
    frame.opcode = WsOpcode.ping ∨ frame.opcode = WsOpcode.pong := by
  unfold handleControl
  by_cases hping : frame.opcode = WsOpcode.ping
  · simp [hping]
  by_cases hpong : frame.opcode = WsOpcode.pong
  · rw [if_neg hping, if_pos hpong]
    exact ⟨fun _ => .inr hpong, fun _ => rfl⟩
  rw [if_neg hping, if_neg hpong]
  have hother : ¬ (frame.opcode = WsOpcode.ping ∨ frame.opcode = WsOpcode.pong) := by
    simp [hping, hpong]
  split <;> simp [hother]

theorem Untouched.limited {s' : WsState} (h : Untouched s s') : s'.Limited ↔ s.Limited := by
  rw [Limited, Limited, h.messages, h.fragmentData]

theorem Untouched.settled {s' : WsState} (h : Untouched s s') (hs : s.Settled) : s'.Settled := by
  intro hfragmented
  rw [h.fragmentData]
  exact hs (h.inFragmented ▸ hfragmented)

theorem Untouched.gathered {s' : WsState} (h : Untouched s s') : s'.gathered = s.gathered := by
  rw [WsState.gathered, WsState.gathered, h.inFragmented, h.fragmentData]

theorem limited_deliver {data : Bytes} {s' : WsState} (hmessages : s'.messages = s.messages)
    (hdata : s'.fragmentData = []) :
    (s'.deliver data).Limited ↔
      (∀ message ∈ s.messages, message.length ≤ maxPayload) ∧ data.length ≤ maxPayload := by
  have hempty : (s'.deliver data).fragmentData = [] := hdata
  rw [Limited, messages_deliver, hmessages, hempty]
  simp [or_imp, forall_and]

/-- What a data frame that goes through makes of the fragments: a message, or more fragments. -/
structure Gathers (s : WsState) (frame : WsFrame) (s' : WsState) (data : Bytes) : Prop where
  settled : s'.Settled
  gathered : s'.gathered = if frame.fin then none else some data.length
  limited : s'.Limited ↔
    (∀ message ∈ s.messages, message.length ≤ maxPayload) ∧ data.length ≤ maxPayload

theorem handleData_continuation (hop : frame.opcode = WsOpcode.continuation)
    (hfragmented : s.inFragmented = true) : (s.handleData frame).1 = true ∧
      Gathers s frame (s.handleData frame).2 (s.fragmentData ++ frame.payload) := by
  rw [handleData, if_pos hop, if_pos hfragmented]
  cases hfin : frame.fin with
  | true =>
    refine ⟨rfl, fun _ => rfl, ?_, limited_deliver rfl rfl⟩
    rw [hfin]
    rfl
  | false =>
    refine ⟨rfl, fun h => ?_, ?_, Iff.rfl⟩
    · exact absurd (h.symm.trans hfragmented) Bool.false_ne_true
    · rw [hfin]
      exact if_pos hfragmented

theorem handleData_first (hop : frame.opcode ≠ WsOpcode.continuation) (hs : s.Settled)
    (hfragmented : s.inFragmented = false) : (s.handleData frame).1 = true ∧
      Gathers s frame (s.handleData frame).2 frame.payload := by
  rw [handleData, if_neg hop, if_neg (Bool.eq_false_iff.1 hfragmented)]
  cases hfin : frame.fin with
  | true =>
    refine ⟨rfl, fun _ => hs hfragmented, ?_, limited_deliver rfl (hs hfragmented)⟩
    rw [hfin]
    exact if_neg (Bool.eq_false_iff.1 hfragmented)
  | false =>
    refine ⟨rfl, ?_, ?_, Iff.rfl⟩
    · intro hstarted
      cases hstarted
    · rw [hfin]
      rfl

/-- The fragments that a data frame finds stay in what it makes of them. -/
theorem limited_of_handleFrame (frame : WsFrame) (hs : s.Settled) :
    (s.handleFrame frame).2.Settled ∧ ((s.handleFrame frame).2.Limited → s.Limited) := by
  unfold handleFrame
  by_cases hctl : 0x8 ≤ frame.opcode
  · rw [if_pos hctl]
    exact ⟨untouched_handleControl.settled hs, untouched_handleControl.limited.1⟩
  rw [if_neg hctl]
  have hsame : s.Settled ∧ (s.Limited → s.Limited) := ⟨hs, id⟩
  by_cases hop : frame.opcode = WsOpcode.continuation
  · cases hfragmented : s.inFragmented with
    | false =>
      rw [handleData, if_pos hop, if_neg (Bool.eq_false_iff.1 hfragmented)]
      exact hsame
    | true =>
      obtain ⟨-, hgathers⟩ := handleData_continuation hop hfragmented
      refine ⟨hgathers.settled, fun h => ?_⟩
      obtain ⟨hmessages, hdata⟩ := hgathers.limited.1 h
      rw [List.length_append] at hdata
      exact ⟨hmessages, Nat.le_trans (Nat.le_add_right _ _) hdata⟩
  · cases hfragmented : s.inFragmented with
    | false =>
      obtain ⟨-, hgathers⟩ := handleData_first hop hs hfragmented
      refine ⟨hgathers.settled, fun h => ⟨(hgathers.limited.1 h).1, ?_⟩⟩
      rw [hs hfragmented]
      exact Nat.zero_le _
    | true =>
      rw [handleData, if_neg hop, if_pos hfragmented]
      exact hsame

/-- What is too long stays too long. -/
theorem limited_of_handleFrames (hs : s.Settled) {frames : List WsFrame}
    (h : (s.handleFrames frames).state.Limited) : s.Limited := by
  induction frames generalizing s with
  | nil => exact h
  | cons frame frames ih =>
    obtain ⟨hsettled, hlimited⟩ := limited_of_handleFrame frame hs
    rw [handleFrames] at h
    simp only at h
    split at h
    · exact hlimited (ih hsettled h)
    · exact hlimited h

theorem handleFrames_cons (frames : List WsFrame) :
    (s.handleFrames (frame :: frames)).state = if (s.handleFrame frame).1 then
      ((s.handleFrame frame).2.handleFrames frames).state else (s.handleFrame frame).2 := by
  rw [handleFrames]
  simp only
  split <;> rfl

/-- The frames keep the limit exactly if the fragments of each message fit. -/
theorem limited_handleFrames (hs : s.Settled) (hl : s.Limited) {frames : List WsFrame}
    (hsize : ∀ frame ∈ frames, frame.payload.length ≤ maxPayload) :
    (s.handleFrames frames).state.Limited ↔ Fits s.gathered frames := by
  induction frames generalizing s with
  | nil => exact iff_of_true hl trivial
  | cons frame frames ih =>
    obtain ⟨hframe, hsize⟩ := List.forall_mem_cons.1 hsize
    rw [handleFrames_cons, Fits, handleFrame]
    by_cases hctl : 0x8 ≤ frame.opcode
    · rw [if_pos hctl, if_pos hctl]
      have huntouched : Untouched s (s.handleControl frame).2 := untouched_handleControl
      have hlimited := huntouched.limited.2 hl
      by_cases hgo : frame.opcode = WsOpcode.ping ∨ frame.opcode = WsOpcode.pong
      · rw [if_pos (handleControl_goes.2 hgo), ih (huntouched.settled hs) hlimited hsize,
          huntouched.gathered]
        exact ⟨fun h _ => h, fun h => h hgo⟩
      · rw [if_neg (mt handleControl_goes.1 hgo)]
        exact iff_of_true hlimited fun h => absurd h hgo
    rw [if_neg hctl, if_neg hctl]
    by_cases hop : frame.opcode = WsOpcode.continuation
    · rw [if_pos hop]
      cases hfragmented : s.inFragmented with
      | false =>
        have hidle : s.gathered = none := if_neg (Bool.eq_false_iff.1 hfragmented)
        rw [hidle, handleData, if_pos hop, if_neg (Bool.eq_false_iff.1 hfragmented)]
        exact iff_of_true hl fun n h => absurd h.symm (Option.some_ne_none n)
      | true =>
        have hstarted : s.gathered = some s.fragmentData.length := if_pos hfragmented
        obtain ⟨hgo, hgathers⟩ := handleData_continuation hop hfragmented
        rw [hstarted, if_pos hgo]
        simp only [Option.some.injEq, forall_eq', ← List.length_append, ← hgathers.gathered]
        by_cases hfits : (s.fragmentData ++ frame.payload).length ≤ maxPayload
        · rw [ih hgathers.settled (hgathers.limited.2 ⟨hl.1, hfits⟩) hsize]
          exact ⟨fun h => ⟨hfits, h⟩, fun h => h.2⟩
        · refine iff_of_false (fun h => ?_) fun h => hfits h.1
          exact hfits (hgathers.limited.1 (limited_of_handleFrames hgathers.settled h)).2
    · rw [if_neg hop]
      cases hfragmented : s.inFragmented with
      | false =>
        have hidle : s.gathered = none := if_neg (Bool.eq_false_iff.1 hfragmented)
        obtain ⟨hgo, hgathers⟩ := handleData_first hop hs hfragmented
        rw [hidle, if_pos hgo,
          ih hgathers.settled (hgathers.limited.2 ⟨hl.1, hframe⟩) hsize, hgathers.gathered]
        exact ⟨fun h _ => h, fun h => h rfl⟩
      | true =>
        have hstarted : s.gathered = some s.fragmentData.length := if_pos hfragmented
        rw [hstarted, handleData, if_neg hop, if_pos hfragmented]
        exact iff_of_true hl fun h => absurd h (Option.some_ne_none _)

end WsState

/-! ## Chunk after chunk -/

/-- The receive loop handles the frames at the front of the buffer. -/
theorem state_drain (s : WsState) (buf : Bytes) :
    (frameDecoder.drain WsState.handleFrame s buf).state =
      (s.handleFrames (framesOf buf)).state := by
  induction hlen : buf.length using Nat.strongRecOn generalizing s buf with
  | _ len ih =>
    subst hlen
    rw [Decoder.drain_eq, framesOf, Decoder.items_eq]
    cases hd : frameDecoder.decode buf with
    | more => rfl
    | bad => rfl
    | item frame n =>
      have hpos := frameDecoder.consumed_pos hd
      have hle := frameDecoder.consumed_le hd
      have hdrop : (buf.drop n).length = buf.length - n := List.length_drop
      simp only
      rw [WsState.handleFrames_cons]
      split
      · exact ih _ (by omega) _ _ rfl
      · rfl

theorem framesOf_append {bytes : Bytes} (h : Decodes bytes f) (more : Bytes) :
    framesOf (bytes ++ more) = f :: framesOf more := by
  have hdecode : frameDecoder.decode (bytes ++ more) = .item f bytes.length := h.whole more
  rw [framesOf, Decoder.items_eq, hdecode]
  simp only [List.drop_left, framesOf]

namespace WsConnection

theorem state_receiveChunks (chunks : List Bytes) :
    (init.receiveChunks chunks).2.1.toWsState =
      (WsState.init.handleFrames (framesOf chunks.flatten)).state := by
  cases chunks with
  | nil => rfl
  | cons chunk chunks =>
    have hwhole : frameDecoder.drain WsState.handleFrame .init ([] ++ (chunk :: chunks).flatten) =
        _ := Decoder.drain_flatten WsState.init [] chunk chunks
    rw [receiveChunks_eq rfl, ← state_drain]
    exact (congrArg Drained.state hwhole).symm

/-- A connection that has received any bytes, in any chunks: no message that it has passed on has
    more than 10 MB, and neither has `fragment_data_`, exactly if the fragments of each message of
    these bytes come to at most 10 MB. -/
theorem limited_iff (chunks : List Bytes) :
    (init.receiveChunks chunks).2.1.toWsState.Limited ↔ Fits none (framesOf chunks.flatten) := by
  rw [state_receiveChunks]
  refine WsState.limited_handleFrames (fun _ => rfl) ⟨?_, Nat.zero_le _⟩ ?_
  · exact fun _ h => absurd h List.not_mem_nil
  · exact Decoder.items_forall payload_decodeFrame _

/-- A frame that is not masked. -/
def plainFrame (first : UInt8) (data : Bytes) : Bytes :=
  first :: (lengthField false data.length ++ data)

theorem messages_two {data more : Bytes} (hdata : data.length ≤ maxPayload)
    (hmore : more.length ≤ maxPayload) :
    (init.receiveChunks [plainFrame 0x01 data, plainFrame 0x80 more]).2.1.toWsState.messages =
      [data ++ more] := by
  have hframes : framesOf [plainFrame 0x01 data, plainFrame 0x80 more].flatten =
      [⟨false, 1, false, data.length, [], data⟩, ⟨true, 0, false, more.length, [], more⟩] := by
    rw [List.flatten_cons, List.flatten_cons, plainFrame, plainFrame,
      framesOf_append (decodes_unmasked hdata), framesOf_append (decodes_unmasked hmore)]
    rfl
  rw [state_receiveChunks, hframes]
  rfl

/-- A message in two fragments, the first of exactly 10 MB and the second of one byte. -/
theorem long_message : ¬ ∀ chunks, (init.receiveChunks chunks).2.1.toWsState.Limited := by
  intro h
  have hten : (List.replicate maxPayload (0x61 : UInt8)).length ≤ maxPayload :=
    Nat.le_of_eq List.length_replicate
  have hone : [(0x62 : UInt8)].length ≤ maxPayload := by decide
  have hmessages := messages_two hten hone
  have hlong := (h _).1 _ (hmessages ▸ List.mem_cons_self)
  rw [List.length_append, List.length_replicate] at hlong
  exact absurd hlong (Nat.not_succ_le_self maxPayload)

end WsConnection

end ChatApp.WebSocket
