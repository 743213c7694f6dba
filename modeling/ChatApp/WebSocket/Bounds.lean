/-
  `parse_frame` with its reads and sums checked. It gets a pointer and a length; `parseFrame` has
  every read of it at the place where the source has it, and faults on one that is not below the
  length and on a sum that `size_t` does not hold. The length field is collected in 64 bits.
  `handle_frame` is a parameter.

  `parseFrame_eq`: no buffer leads to a fault, and what comes out is `decodeFrame` of the bytes
  below the length. So the loop of `handle_receive` ends, and is `drain`.
-/
import Mathlib.Data.Nat.Bitwise
import ChatApp.Lib.Checked
import ChatApp.WebSocket.Receive

namespace ChatApp.WebSocket

open ChatApp.Lib ChatApp.Lib.Checked

/-- What a call of `parse_frame` leaves: the answer, `consumed`, and the connection. -/
structure Parsed (σ : Type) where
  ok : Bool
  consumed : Nat
  state : σ

section Source

variable {σ : Type} (handleFrame : σ → WsFrame → Bool × σ) (data : Nat → UInt8) (len : Nat)

/-- `(n << 8) | b` -/
def shiftIn (n : UInt64) (b : UInt8) : UInt64 := n <<< 8 ||| b.toUInt64

/-- `parse_frame` from the check of the payload on. -/
def parsePayload (s : σ) (frame : WsFrame) (headerLen : Nat) : Checked (Parsed σ) := do
  if len < (← addSize headerLen frame.payloadLen) then return ⟨true, 0, s⟩
  let payload ← readMany data len headerLen frame.payloadLen
  let frame := { frame with
    payload := if frame.mask then unmask frame.maskingKey payload else payload }
  let consumed ← addSize headerLen frame.payloadLen
  let handled := handleFrame s frame
  return ⟨handled.1, consumed, handled.2⟩

/-- `parse_frame` from the check of the size on. -/
def parseMask (s : σ) (frame : WsFrame) (headerLen : Nat) (payloadLen : UInt64) :
    Checked (Parsed σ) := do
  let frame := { frame with payloadLen := payloadLen.toNat }
  if frame.payloadLen > maxPayload then return ⟨false, 0, s⟩
  if frame.mask then
    if len < (← addSize headerLen 4) then return ⟨true, 0, s⟩
    let frame := { frame with maskingKey := ← readMany data len headerLen 4 }
    parsePayload handleFrame data len s frame (← addSize headerLen 4)
  else parsePayload handleFrame data len s frame headerLen

def parseFrame (s : σ) : Checked (Parsed σ) := do
  if len < 2 then return ⟨true, 0, s⟩
  let frame : WsFrame := {
    fin := (← readAt data len 0) &&& 0x80 ≠ 0
    opcode := (← readAt data len 0) &&& 0x0F
    mask := (← readAt data len 1) &&& 0x80 ≠ 0
    payloadLen := 0
    maskingKey := []
    payload := [] }
  let lenByte := (← readAt data len 1) &&& 0x7F
  if lenByte = 126 then
    if len < 4 then return ⟨true, 0, s⟩
    let high ← readAt data len 2
    let low ← readAt data len 3
    parseMask handleFrame data len s frame 4 (shiftIn high.toUInt64 low)
  else if lenByte = 127 then
    if len < 10 then return ⟨true, 0, s⟩
    let field ← readMany data len 2 8
    parseMask handleFrame data len s frame 10 (field.foldl shiftIn 0)
  else parseMask handleFrame data len s frame 2 lenByte.toUInt64

/-- What one round of the loop in `handle_receive` does: leave it, or come round again. -/
inductive Round (σ : Type)
  | left (drained : Drained UInt8 σ)
  | again (state : σ) (buffer : Bytes)

/-- The body of the loop. What `erase` is given has to be in the buffer. -/
def receiveRound (s : σ) (buf : Bytes) : Checked (Round σ) := do
  if buf = [] then return .left ⟨true, s, buf⟩
  let parsed ← parseFrame handleFrame (fun i => buf.getD i 0) buf.length s
  if parsed.ok = false then return .left ⟨false, parsed.state, buf⟩
  if parsed.consumed = 0 then return .left ⟨true, parsed.state, buf⟩
  if parsed.consumed ≤ buf.length then return .again parsed.state (buf.drop parsed.consumed)
  throw (.position parsed.consumed)

/-- The loop; `none` when it has not ended after `fuel` rounds. -/
def receiveLoop : Nat → σ → Bytes → Checked (Option (Drained UInt8 σ))
  | 0, _, _ => .ok none
  | fuel + 1, s, buf => do
    match ← receiveRound handleFrame s buf with
    | .left drained => return some drained
    | .again s buf => receiveLoop fuel s buf

end Source

/-! ## The length field -/

theorem toNat_shiftIn {n : UInt64} (h : n.toNat < 2 ^ 56) (b : UInt8) :
    (shiftIn n b).toNat = n.toNat * 256 + b.toNat := by
  have hb : b.toNat < 2 ^ 8 := b.toNat_lt
  have hshift : n.toNat <<< 8 < 2 ^ 64 := by
    rw [Nat.shiftLeft_eq]
    omega
  unfold shiftIn
  rw [UInt64.toNat_or, UInt64.toNat_shiftLeft, UInt8.toNat_toUInt64,
    show (8 : UInt64).toNat % 64 = 8 from rfl, Nat.mod_eq_of_lt hshift,
    ← Nat.shiftLeft_add_eq_or_of_lt hb, Nat.shiftLeft_eq]

theorem toNat_foldl_shiftIn {bytes : Bytes} {n : UInt64} {k : Nat} (h : n.toNat < 256 ^ k)
    (hk : k + bytes.length ≤ 8) :
    (bytes.foldl shiftIn n).toNat = bytes.foldl (fun n b => n * 256 + b.toNat) n.toNat := by
  induction bytes generalizing n k with
  | nil => rfl
  | cons b bytes ih =>
    rw [List.length_cons] at hk
    have hb : b.toNat < 256 := b.toNat_lt
    have hpow : 256 ^ k ≤ 256 ^ 7 := Nat.pow_le_pow_right (by decide) (by omega)
    have hn : n.toNat < 2 ^ 56 := Nat.lt_of_lt_of_le h hpow
    have hnext : (shiftIn n b).toNat < 256 ^ (k + 1) := by
      rw [toNat_shiftIn hn, Nat.pow_succ]
      omega
    rw [List.foldl_cons, List.foldl_cons, ih hnext (by omega), toNat_shiftIn hn]

/-- Eight bytes are collected without loss. -/
theorem toNat_lengthField {bytes : Bytes} (h : bytes.length ≤ 8) :
    (bytes.foldl shiftIn 0).toNat = bigEndian bytes :=
  toNat_foldl_shiftIn (k := 0) (by decide) (by omega)

/-! ## No fault -/

section Parse

variable {σ : Type} (handleFrame : σ → WsFrame → Bool × σ) {data : Nat → UInt8} {len : Nat}

/-- What `parse_frame` makes of what is decoded. -/
def answer (s : σ) : Decoded WsFrame → Parsed σ
  | .more => ⟨true, 0, s⟩
  | .bad => ⟨false, 0, s⟩
  | .item frame n => ⟨(handleFrame s frame).1, n, (handleFrame s frame).2⟩

/-- The frame before its length is known. -/
def header (data : Nat → UInt8) : WsFrame where
  fin := data 0 &&& 0x80 ≠ 0
  opcode := data 0 &&& 0x0F
  mask := data 1 &&& 0x80 ≠ 0
  payloadLen := 0
  maskingKey := []
  payload := []

theorem parsePayload_eq (s : σ) {headerLen payloadLen : Nat} (key : Option Bytes)
    (htwo : 2 ≤ len) (hheader : headerLen ≤ 14) (hpayload : payloadLen ≤ maxPayload)
    (hmask : (header data).mask = key.isSome) :
    parsePayload handleFrame data len s
        { header data with payloadLen := payloadLen, maskingKey := key.getD [] } headerLen =
      .ok (answer handleFrame s (decodePayload (cells data len) headerLen payloadLen key)) := by
  have hmax : maxPayload < 2 ^ 32 := by decide
  have hsum : addSize headerLen payloadLen = .ok (headerLen + payloadLen) :=
    addSize_ok (by omega)
  unfold parsePayload decodePayload
  dsimp only
  rw [hsum, ok_bind, length_cells]
  by_cases hshort : len < headerLen + payloadLen
  · rw [if_pos hshort, if_pos hshort]
    rfl
  · rw [if_neg hshort, if_neg hshort, readMany_ok (by omega), ok_bind, ok_bind,
      getD_cells 0 (by omega), hmask]
    cases key with
    | none => rfl
    | some key => rfl

theorem parseMask_eq (s : σ) {headerLen : Nat} (htwo : 2 ≤ len) (hheader : headerLen ≤ 10)
    (payloadLen : UInt64) :
    parseMask handleFrame data len s (header data) headerLen payloadLen =
      .ok (answer handleFrame s (decodeMask (cells data len) headerLen payloadLen.toNat)) := by
  have hfour : addSize headerLen 4 = .ok (headerLen + 4) := addSize_ok (by omega)
  unfold parseMask decodeMask
  dsimp only
  by_cases hbig : payloadLen.toNat > maxPayload
  · rw [if_pos hbig, if_pos hbig]
    rfl
  have hpayload : payloadLen.toNat ≤ maxPayload := Nat.not_lt.1 hbig
  rw [if_neg hbig, if_neg hbig, getD_cells 0 (by omega)]
  by_cases hmask : data 1 &&& 0x80 ≠ 0
  · have hheld : (header data).mask = true := decide_eq_true hmask
    rw [if_pos hheld, if_pos hmask, hfour, ok_bind, length_cells]
    by_cases hkey : len < headerLen + 4
    · rw [if_pos hkey, if_pos hkey]
      rfl
    · rw [if_neg hkey, if_neg hkey, readMany_ok (by omega), ok_bind, ok_bind]
      exact parsePayload_eq handleFrame s (some _) htwo (by omega) hpayload hheld
  · have hheld : (header data).mask = false := decide_eq_false hmask
    rw [if_neg (by rw [hheld]; nofun), if_neg hmask]
    exact parsePayload_eq handleFrame s none htwo (by omega) hpayload hheld

/-- No buffer and no length lead to a read behind the end or to a sum out of range. -/
theorem parseFrame_eq (data : Nat → UInt8) (len : Nat) (s : σ) :
    parseFrame handleFrame data len s =
      .ok (answer handleFrame s (decodeFrame (cells data len))) := by
  unfold parseFrame decodeFrame
  rw [length_cells]
  by_cases htwo : len < 2
  · rw [if_pos htwo, if_pos htwo]
    rfl
  have hlen : 2 ≤ len := Nat.not_lt.1 htwo
  rw [if_neg htwo, if_neg htwo, readAt_ok (by omega), ok_bind, ok_bind, readAt_ok (by omega),
    ok_bind, ok_bind, getD_cells 0 (by omega)]
  dsimp only
  by_cases h126 : data 1 &&& 0x7F = 126
  · rw [if_pos h126, if_pos h126]
    by_cases hfour : len < 4
    · rw [if_pos hfour, if_pos hfour]
      rfl
    · have hfield : slice (cells data len) 2 2 = [data 2, data 3] := by
        rw [slice, drop_cells (by omega), List.take_succ_cons, drop_cells (by omega),
          List.take_succ_cons, List.take_zero]
      have hhigh : (data 2).toUInt64.toNat < 2 ^ 56 :=
        Nat.lt_of_lt_of_le (data 2).toNat_lt (by decide)
      have hnumber : (shiftIn (data 2).toUInt64 (data 3)).toNat = bigEndian [data 2, data 3] := by
        rw [toNat_shiftIn hhigh]
        simp [bigEndian]
      rw [if_neg hfour, if_neg hfour, readAt_ok (by omega), ok_bind, readAt_ok (by omega), ok_bind,
        hfield, ← hnumber]
      exact parseMask_eq handleFrame s hlen (by decide) _
  rw [if_neg h126, if_neg h126]
  by_cases h127 : data 1 &&& 0x7F = 127
  · rw [if_pos h127, if_pos h127]
    by_cases hten : len < 10
    · rw [if_pos hten, if_pos hten]
      rfl
    · have hfield : (slice (cells data len) 2 8).length ≤ 8 := List.length_take_le _ _
      rw [if_neg hten, if_neg hten, readMany_ok (by omega), ok_bind, ← toNat_lengthField hfield]
      exact parseMask_eq handleFrame s hlen (by decide) _
  · rw [if_neg h127, if_neg h127]
    exact parseMask_eq handleFrame s hlen (by decide) (data 1 &&& 0x7F).toUInt64

/-- A frame that is taken has a header, and is there. -/
theorem consumed_parseFrame {s : σ} {r : Parsed σ}
    (h : parseFrame handleFrame data len s = .ok r) (hr : r.consumed ≠ 0) :
    2 ≤ r.consumed ∧ r.consumed ≤ len := by
  rw [parseFrame_eq] at h
  obtain rfl := Except.ok.inj h
  cases hdecode : decodeFrame (cells data len) with
  | more => exact absurd (by rw [hdecode]; rfl) hr
  | bad => exact absurd (by rw [hdecode]; rfl) hr
  | item frame n =>
    have htaken := consumed_decodeFrame hdecode
    rwa [length_cells] at htaken

/-! ## The loop of `handle_receive` -/

theorem receiveRound_eq (s : σ) (buf : Bytes) :
    receiveRound handleFrame s buf =
      .ok (match decodeFrame buf with
        | .more => .left ⟨true, s, buf⟩
        | .bad => .left ⟨false, s, buf⟩
        | .item frame n =>
          if (handleFrame s frame).1 then .again (handleFrame s frame).2 (buf.drop n)
          else .left ⟨false, (handleFrame s frame).2, buf⟩) := by
  unfold receiveRound
  by_cases hempty : buf = []
  · subst hempty
    rfl
  rw [if_neg hempty, parseFrame_eq, ok_bind, cells_getD]
  cases hdecode : decodeFrame buf with
  | more => rfl
  | bad => rfl
  | item frame n =>
    have htaken := consumed_decodeFrame hdecode
    have hpos : ¬ (answer handleFrame s (.item frame n)).consumed = 0 := by
      show ¬ n = 0
      omega
    have hle : (answer handleFrame s (.item frame n)).consumed ≤ buf.length := htaken.2
    by_cases hgo : (handleFrame s frame).1 = true
    · have hok : ¬ (answer handleFrame s (.item frame n)).ok = false := by
        rw [answer, hgo]
        nofun
      rw [if_neg hok, if_neg hpos, if_pos hle]
      exact congrArg Except.ok (if_pos hgo).symm
    · have hok : (answer handleFrame s (.item frame n)).ok = false := Bool.not_eq_true _ ▸ hgo
      rw [if_pos hok]
      exact congrArg Except.ok (if_neg hgo).symm

/-- A round that does not leave the loop makes the buffer shorter. -/
theorem shorter_of_again {s s' : σ} {buf buf' : Bytes}
    (h : receiveRound handleFrame s buf = .ok (.again s' buf')) : buf'.length < buf.length := by
  rw [receiveRound_eq] at h
  cases hdecode : decodeFrame buf with
  | more => simp [hdecode] at h
  | bad => simp [hdecode] at h
  | item frame n =>
    have htaken := consumed_decodeFrame hdecode
    simp only [hdecode] at h
    by_cases hgo : (handleFrame s frame).1 = true
    · rw [if_pos hgo] at h
      obtain ⟨-, rfl⟩ := Round.again.inj (Except.ok.inj h)
      rw [List.length_drop]
      omega
    · rw [if_neg hgo] at h
      cases h

/-- The loop ends, and is the loop of `handleReceive`. -/
theorem receiveLoop_eq {fuel : Nat} {buf : Bytes} (h : buf.length < fuel) (s : σ) :
    receiveLoop handleFrame fuel s buf = .ok (some (frameDecoder.drain handleFrame s buf)) := by
  induction fuel generalizing s buf with
  | zero => omega
  | succ fuel ih =>
    have hround := receiveRound_eq handleFrame s buf
    have hdrain : frameDecoder.drain handleFrame s buf = _ := Decoder.drain_eq s buf
    rw [show frameDecoder.decode buf = decodeFrame buf from rfl] at hdrain
    rw [receiveLoop, hround, ok_bind, hdrain]
    cases hdecode : decodeFrame buf with
    | more => rfl
    | bad => rfl
    | item frame n =>
      simp only [hdecode] at hround ⊢
      by_cases hgo : (handleFrame s frame).1 = true
      · rw [if_pos hgo] at hround ⊢
        rw [if_pos hgo]
        have hshorter := shorter_of_again handleFrame hround
        exact ih (by omega) _
      · rw [if_neg hgo, if_neg hgo]
        rfl

end Parse

/-- On an open connection, `handleReceive` is the checked loop. -/
theorem receiveLoop_handleReceive {c : WsConnection} (hc : c.closed = false) (data : Bytes) :
    receiveLoop WsState.handleFrame ((c.recvBuffer ++ data).length + 1) c.toWsState
        (c.recvBuffer ++ data) =
      .ok (some ⟨(c.handleReceive data).1, (c.handleReceive data).2.toWsState,
        (c.handleReceive data).2.recvBuffer⟩) := by
  unfold WsConnection.handleReceive
  rw [receiveLoop_eq _ (Nat.lt_succ_self _), if_neg (by rw [hc]; nofun)]

/-- Whatever is received and whatever length is given: `parse_frame` reads below the length and
    its sums fit; a frame that it takes is at least two bytes of what is there; a round of the
    loop in `handle_receive` that does not leave it makes `recv_buffer_` shorter, and the loop
    ends. -/
theorem parse_bounds {σ : Type} (handleFrame : σ → WsFrame → Bool × σ) (s : σ) :
    (∀ data len, ∃ r, parseFrame handleFrame data len s = .ok r ∧
      (r.ok = true → r.consumed ≠ 0 → 2 ≤ r.consumed ∧ r.consumed ≤ len)) ∧
    (∀ buf, ∃ round, receiveRound handleFrame s buf = .ok round ∧
      ∀ s' buf', round = .again s' buf' → buf'.length < buf.length) ∧
    ∀ buf, ∃ drained, ∀ fuel > buf.length,
      receiveLoop handleFrame fuel s buf = .ok (some drained) := by
  refine ⟨fun data len => ?_, fun buf => ?_, fun buf => ?_⟩
  · have hparsed := parseFrame_eq handleFrame data len s
    exact ⟨_, hparsed, fun _ => consumed_parseFrame handleFrame hparsed⟩
  · have hround := receiveRound_eq handleFrame s buf
    refine ⟨_, hround, ?_⟩
    intro s' buf' hagain
    exact shorter_of_again handleFrame (hagain ▸ hround)
  · exact ⟨_, fun fuel hfuel => receiveLoop_eq handleFrame hfuel s⟩

end ChatApp.WebSocket
