/-
  Reading UTF-8: the text of some bytes, if they are one.
-/
import ChatApp.Lib.Utf8

namespace ChatApp.Lib.Utf8

def decode (bytes : List UInt8) : Option (List Char) :=
  bytes.toByteArray.utf8Decode?.map Array.toList

variable {bytes : List UInt8} {cs : List Char}

theorem decode_utf8 (cs : List Char) : decode (utf8 cs) = some cs := by
  have hbytes : (utf8 cs).toByteArray = cs.utf8Encode := rfl
  rw [decode, hbytes, List.utf8Decode?_utf8Encode]
  rfl

theorem toByteArray_inj {bytes' : List UInt8} (h : bytes.toByteArray = bytes'.toByteArray) :
    bytes = bytes' := by
  have hlist := congrArg (fun b => b.data.toList) h
  simpa using hlist

theorem decode_eq_some_iff : decode bytes = some cs ↔ utf8 cs = bytes := by
  constructor
  · intro h
    have hsome : bytes.toByteArray.utf8Decode?.isSome = true := by
      rw [← Option.isSome_map, ← decode, h, Option.isSome_some]
    obtain ⟨ds, hds⟩ := ByteArray.isSome_utf8Decode?_iff.1 hsome
    obtain rfl : bytes = utf8 ds := toByteArray_inj hds
    rw [decode_utf8] at h
    rw [Option.some.inj h]
  · intro h
    rw [← h, decode_utf8]

end ChatApp.Lib.Utf8
