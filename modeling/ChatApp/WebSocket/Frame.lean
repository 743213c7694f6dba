/-
  The frames of a `WsConnection` on the wire: `decodeFrame` is `parse_frame` up to the call of
  `handle_frame`, `encodeFrame` what `send_frame` sends. Lengths are unbounded numbers; the
  payload length field has at most eight bytes, so that `size_t` holds all sums.
-/
import Mathlib.Algebra.Group.Nat.Defs
import ChatApp.Lib.Decoder

namespace ChatApp.WebSocket

open ChatApp.Lib

abbrev Bytes := List UInt8

namespace WsOpcode

def continuation : UInt8 := 0x0
def text : UInt8 := 0x1
def binary : UInt8 := 0x2
def close : UInt8 := 0x8
def ping : UInt8 := 0x9
def pong : UInt8 := 0xA

end WsOpcode

structure WsFrame where
  fin : Bool
  opcode : UInt8
  mask : Bool
  payloadLen : Nat
  maskingKey : Bytes
  payload : Bytes
  deriving DecidableEq

/-- 10 MB -/
def maxPayload : Nat := 10 * 1024 * 1024

/-- `n` bytes from position `i`. -/
def slice (data : Bytes) (i n : Nat) : Bytes := (data.drop i).take n

/-- The loop `len = (len << 8) | data[2 + i]`. -/
def bigEndian (bytes : Bytes) : Nat := bytes.foldl (fun n b => n * 256 + b.toNat) 0

/-- `payload[i] = payload_start[i] ^ masking_key[i % 4]` -/
def unmask (key payload : Bytes) : Bytes := payload.mapIdx fun i b => b ^^^ key.getD (i % 4) 0

/-- `parse_frame` from the check of the payload on. -/
def decodePayload (data : Bytes) (headerLen payloadLen : Nat) (key : Option Bytes) :
    Decoded WsFrame :=
  if data.length < headerLen + payloadLen then .more
  else
    let payload := slice data headerLen payloadLen
    .item {
      fin := data.getD 0 0 &&& 0x80 ≠ 0
      opcode := data.getD 0 0 &&& 0x0F
      mask := key.isSome
      payloadLen
      maskingKey := key.getD []
      payload := match key with
        | some key => unmask key payload
        | none => payload } (headerLen + payloadLen)

/-- `parse_frame` from the check of the size on. -/
def decodeMask (data : Bytes) (headerLen payloadLen : Nat) : Decoded WsFrame :=
  if payloadLen > maxPayload then .bad
  else if data.getD 1 0 &&& 0x80 ≠ 0 then
    if data.length < headerLen + 4 then .more
    else decodePayload data (headerLen + 4) payloadLen (some (slice data headerLen 4))
  else decodePayload data headerLen payloadLen none

def decodeFrame (data : Bytes) : Decoded WsFrame :=
  if data.length < 2 then .more
  else
    let lenByte := data.getD 1 0 &&& 0x7F
    if lenByte = 126 then
      if data.length < 4 then .more else decodeMask data 4 (bigEndian (slice data 2 2))
    else if lenByte = 127 then
      if data.length < 10 then .more else decodeMask data 10 (bigEndian (slice data 2 8))
    else decodeMask data 2 lenByte.toNat

/-! ## Encoding -/

/-- `n` bytes of `len`, the highest first. -/
def lengthBytes (len : Nat) : Nat → Bytes
  | 0 => []
  | n + 1 => UInt8.ofNat (len / 256 ^ n) :: lengthBytes len n

/-- The second byte of a frame of the server, which does not mask, and the longer length. -/
def encodeLength (len : Nat) : Bytes :=
  if len ≤ 125 then [UInt8.ofNat len]
  else if len ≤ 65535 then 126 :: lengthBytes len 2
  else 127 :: lengthBytes len 8

def encodeFrame (opcode : UInt8) (data : Bytes) (fin : Bool) : Bytes :=
  ((opcode &&& 0x0F) ||| if fin then 0x80 else 0) :: (encodeLength data.length ++ data)

/-! ## What follows a frame does not matter -/

variable {data more : Bytes} {f : WsFrame} {n i k headerLen payloadLen : Nat} {key : Option Bytes}

theorem slice_append (h : i + k ≤ data.length) : slice (data ++ more) i k = slice data i k := by
  have hlen : (data.drop i).length = data.length - i := List.length_drop
  rw [slice, slice, List.drop_append_of_le_length (by omega),
    List.take_append_of_le_length (by omega)]

theorem getD_append (h : i < data.length) : (data ++ more).getD i 0 = data.getD i 0 := by
  rw [List.getD_eq_getElem?_getD, List.getElem?_append_left h, ← List.getD_eq_getElem?_getD]

theorem stable_decodePayload (hlen : 2 ≤ data.length) :
    decodePayload data headerLen payloadLen key ≠ .more →
      decodePayload (data ++ more) headerLen payloadLen key =
        decodePayload data headerLen payloadLen key := by
  unfold decodePayload
  intro h
  by_cases hd : data.length < headerLen + payloadLen
  · exact absurd (if_pos hd) h
  · have hd' : ¬ (data ++ more).length < headerLen + payloadLen := by
      rw [List.length_append]
      omega
    rw [if_neg hd, if_neg hd', slice_append (by omega), getD_append (by omega)]

theorem stable_decodeMask (hlen : 2 ≤ data.length)
    (h : decodeMask data headerLen payloadLen ≠ .more) :
    decodeMask (data ++ more) headerLen payloadLen = decodeMask data headerLen payloadLen := by
  unfold decodeMask at h ⊢
  rw [getD_append (by omega)]
  by_cases hbig : payloadLen > maxPayload
  · rw [if_pos hbig, if_pos hbig]
  rw [if_neg hbig] at h ⊢
  rw [if_neg hbig]
  by_cases hmask : data.getD 1 0 &&& 0x80 ≠ 0
  · rw [if_pos hmask] at h ⊢
    rw [if_pos hmask]
    by_cases hkey : data.length < headerLen + 4
    · exact absurd (if_pos hkey) h
    have hkey' : ¬ (data ++ more).length < headerLen + 4 := by
      rw [List.length_append]
      omega
    rw [if_neg hkey] at h ⊢
    rw [if_neg hkey', slice_append (by omega)]
    exact stable_decodePayload hlen h
  · rw [if_neg hmask] at h ⊢
    rw [if_neg hmask]
    exact stable_decodePayload hlen h

/-- An answer other than "more" is the answer for every longer buffer. -/
theorem stable_decodeFrame (h : decodeFrame data ≠ .more) :
    decodeFrame (data ++ more) = decodeFrame data := by
  unfold decodeFrame at h ⊢
  by_cases hlen : data.length < 2
  · exact absurd (if_pos hlen) h
  have hlen' : ¬ (data ++ more).length < 2 := by rw [List.length_append]; omega
  rw [if_neg hlen] at h ⊢
  rw [if_neg hlen', getD_append (by omega)]
  simp only at h ⊢
  by_cases h126 : data.getD 1 0 &&& 0x7F = 126
  · rw [if_pos h126] at h ⊢
    rw [if_pos h126]
    by_cases h4 : data.length < 4
    · exact absurd (if_pos h4) h
    have h4' : ¬ (data ++ more).length < 4 := by rw [List.length_append]; omega
    rw [if_neg h4] at h ⊢
    rw [if_neg h4', slice_append (by omega)]
    exact stable_decodeMask (by omega) h
  rw [if_neg h126] at h ⊢
  rw [if_neg h126]
  by_cases h127 : data.getD 1 0 &&& 0x7F = 127
  · rw [if_pos h127] at h ⊢
    rw [if_pos h127]
    by_cases h10 : data.length < 10
    · exact absurd (if_pos h10) h
    have h10' : ¬ (data ++ more).length < 10 := by rw [List.length_append]; omega
    rw [if_neg h10] at h ⊢
    rw [if_neg h10', slice_append (by omega)]
    exact stable_decodeMask (by omega) h
  · rw [if_neg h127] at h ⊢
    rw [if_neg h127]
    exact stable_decodeMask (by omega) h

/-! ## A frame takes what is there, and at least its header -/

theorem consumed_decodePayload (h : decodePayload data headerLen payloadLen key = .item f n) :
    n = headerLen + payloadLen ∧ n ≤ data.length := by
  unfold decodePayload at h
  by_cases hd : data.length < headerLen + payloadLen
  · rw [if_pos hd] at h
    cases h
  · rw [if_neg hd] at h
    have hn : headerLen + payloadLen = n := (Decoded.item.inj h).2
    omega

theorem consumed_decodeMask (h : decodeMask data headerLen payloadLen = .item f n) :
    headerLen ≤ n ∧ n ≤ data.length := by
  unfold decodeMask at h
  by_cases hbig : payloadLen > maxPayload
  · rw [if_pos hbig] at h
    cases h
  rw [if_neg hbig] at h
  by_cases hmask : data.getD 1 0 &&& 0x80 ≠ 0
  · rw [if_pos hmask] at h
    by_cases hkey : data.length < headerLen + 4
    · rw [if_pos hkey] at h
      cases h
    rw [if_neg hkey] at h
    have := consumed_decodePayload h
    omega
  · rw [if_neg hmask] at h
    have := consumed_decodePayload h
    omega

theorem consumed_decodeFrame (h : decodeFrame data = .item f n) : 2 ≤ n ∧ n ≤ data.length := by
  unfold decodeFrame at h
  by_cases hlen : data.length < 2
  · rw [if_pos hlen] at h
    cases h
  rw [if_neg hlen] at h
  simp only at h
  split at h
  · split at h
    · cases h
    · have := consumed_decodeMask h
      omega
  · split at h
    · split at h
      · cases h
      · have := consumed_decodeMask h
        omega
    · exact consumed_decodeMask h

/-- `parse_frame` as an incremental decoder. -/
def frameDecoder : Decoder UInt8 WsFrame where
  decode := decodeFrame
  decode_nil := rfl
  consumed_pos h := Nat.lt_of_lt_of_le Nat.two_pos (consumed_decodeFrame h).1
  consumed_le h := (consumed_decodeFrame h).2
  item_append _ h := h ▸ stable_decodeFrame (by rw [h]; nofun)
  bad_append _ h := h ▸ stable_decodeFrame (by rw [h]; nofun)

end ChatApp.WebSocket
