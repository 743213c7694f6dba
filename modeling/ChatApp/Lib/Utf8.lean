/-
  UTF-8 texts. A byte below 128 is a character of its own, so a text can be divided at it.
-/
import Mathlib.Data.List.Basic
import Mathlib.Data.List.Infix
import Mathlib.Data.String.Basic
import ChatApp.Lib.Text

namespace ChatApp.Lib

/-- The bytes of a text -/
def utf8 (cs : List Char) : List UInt8 := cs.flatMap String.utf8EncodeChar

namespace Utf8

variable {c : Char} {cs ds : List Char} {b : UInt8} {before after : List UInt8}

theorem utf8_cons (c : Char) (cs : List Char) :
    utf8 (c :: cs) = String.utf8EncodeChar c ++ utf8 cs := List.flatMap_cons

theorem utf8_append (cs ds : List Char) : utf8 (cs ++ ds) = utf8 cs ++ utf8 ds :=
  List.flatMap_append

theorem utf8_inj (h : utf8 cs = utf8 ds) : cs = ds := by
  have hencode : cs.utf8Encode = ds.utf8Encode := congrArg List.toByteArray h
  have hstring : String.ofList cs = String.ofList ds := by
    rw [← String.toByteArray_inj, String.toByteArray_ofList, String.toByteArray_ofList, hencode]
  exact String.ofList_injective hstring

theorem encode_ascii (h : c.toNat < 128) : String.utf8EncodeChar c = [c.toUInt8] := by
  have hsize : c.utf8Size = 1 := by
    rw [Char.utf8Size_eq_one_iff, UInt32.le_iff_toNat_le]
    exact Nat.le_of_lt_succ h
  exact String.utf8EncodeChar_eq_singleton hsize

theorem encode_high (h : 128 ≤ c.toNat) : ∀ b ∈ String.utf8EncodeChar c, 128 ≤ b.toNat := by
  have hv : ¬ c.val.toNat ≤ 127 := Nat.not_le.2 h
  unfold String.utf8EncodeChar
  dsimp only
  rw [if_neg hv]
  generalize c.val.toNat = v
  split
  next =>
    simp only [List.forall_mem_cons, UInt8.toNat_ofNat']
    exact ⟨by omega, by omega, nofun⟩
  next =>
    split
    next =>
      simp only [List.forall_mem_cons, UInt8.toNat_ofNat']
      exact ⟨by omega, by omega, by omega, nofun⟩
    next =>
      simp only [List.forall_mem_cons, UInt8.toNat_ofNat']
      exact ⟨by omega, by omega, by omega, by omega, nofun⟩

/-- A byte below 128 stands for itself. -/
theorem of_mem_encode (h : b ∈ String.utf8EncodeChar c) (hb : b.toNat < 128) :
    c.toNat < 128 ∧ c.toUInt8 = b := by
  rcases Nat.lt_or_ge c.toNat 128 with hlow | hhigh
  · rw [encode_ascii hlow, List.mem_singleton] at h
    exact ⟨hlow, h.symm⟩
  · exact absurd (encode_high hhigh b h) (by omega)

theorem utf8_ascii (h : ∀ c ∈ cs, c.toNat < 128) : utf8 cs = cs.map Char.toUInt8 := by
  induction cs with
  | nil => rfl
  | cons c cs ih =>
    obtain ⟨hc, hcs⟩ := List.forall_mem_cons.1 h
    rw [utf8_cons, encode_ascii hc, ih hcs]
    rfl

/-- A text divided at a byte below 128. -/
theorem utf8_split (h : utf8 cs = before ++ b :: after) (hb : b.toNat < 128) :
    ∃ xs c ys, cs = xs ++ c :: ys ∧ c.toNat < 128 ∧ c.toUInt8 = b ∧ utf8 xs = before ∧
      utf8 ys = after := by
  induction cs generalizing before with
  | nil => exact absurd h.symm (List.append_ne_nil_of_right_ne_nil _ (List.cons_ne_nil _ _))
  | cons c cs ih =>
    rw [utf8_cons] at h
    rcases List.append_eq_append_iff.1 h with ⟨rest, hbefore, hrest⟩ | ⟨rest, hencode, hrest⟩
    · obtain ⟨xs, d, ys, rfl, hd, hdb, hxs, hys⟩ := ih hrest
      exact ⟨c :: xs, d, ys, rfl, hd, hdb, by rw [utf8_cons, hxs, hbefore], hys⟩
    · rcases rest with _ | ⟨b', rest⟩
      · rw [List.append_nil] at hencode
        obtain ⟨xs, d, ys, rfl, hd, hdb, hxs, hys⟩ :=
          ih (show utf8 cs = [] ++ b :: after from hrest.symm)
        exact ⟨c :: xs, d, ys, rfl, hd, hdb, by rw [utf8_cons, hxs, hencode, List.append_nil], hys⟩
      · -- the byte belongs to the encoding of `c`, which has no other
        obtain ⟨rfl, hafter⟩ := List.cons.inj hrest
        have hmem : b ∈ String.utf8EncodeChar c := by
          rw [hencode]
          exact List.mem_append_right _ List.mem_cons_self
        obtain ⟨hc, hcb⟩ := of_mem_encode hmem hb
        rw [encode_ascii hc, eq_comm, List.append_eq_singleton_iff] at hencode
        obtain ⟨rfl, hlast⟩ | ⟨-, hnil⟩ := hencode
        · obtain ⟨-, rfl⟩ := List.cons.inj hlast
          exact ⟨[], c, cs, rfl, hc, hcb, rfl, hafter.symm⟩
        · exact absurd hnil (List.cons_ne_nil _ _)

theorem toNat_toUInt8 (h : c.toNat < 128) : c.toUInt8.toNat = c.toNat :=
  Nat.mod_eq_of_lt (Nat.lt_trans h (by decide))

theorem eq_of_ascii {d : Char} (hc : c.toNat < 128) (hd : d.toNat < 128)
    (h : c.toUInt8 = d.toUInt8) : c = d := by
  have hnat : c.toNat = d.toNat := by rw [← toNat_toUInt8 hc, ← toNat_toUInt8 hd, h]
  exact Char.toNat_inj.1 hnat

theorem mem_utf8_of_mem (hmem : c ∈ cs) (hc : c.toNat < 128) : c.toUInt8 ∈ utf8 cs := by
  refine List.mem_flatMap.2 ⟨c, hmem, ?_⟩
  rw [encode_ascii hc]
  exact List.mem_cons_self

theorem mem_of_mem_utf8 (hc : c.toNat < 128) (hmem : c.toUInt8 ∈ utf8 cs) : c ∈ cs := by
  obtain ⟨before, after, heq⟩ := List.append_of_mem hmem
  obtain ⟨xs, d, ys, rfl, hd, hbyte, -, -⟩ := utf8_split heq (by rwa [toNat_toUInt8 hc])
  rw [eq_of_ascii hc hd hbyte.symm]
  exact List.mem_append_right _ List.mem_cons_self

/-- A text that begins with the bytes of characters below 128. -/
theorem utf8_prefix (hds : ∀ d ∈ ds, d.toNat < 128) (h : utf8 cs = ds.map Char.toUInt8 ++ after) :
    ∃ ys, cs = ds ++ ys ∧ utf8 ys = after := by
  induction ds generalizing cs with
  | nil => exact ⟨cs, rfl, h⟩
  | cons d ds ih =>
    obtain ⟨hd, hds⟩ := List.forall_mem_cons.1 hds
    have hbyte : d.toUInt8.toNat < 128 := by rwa [toNat_toUInt8 hd]
    obtain ⟨xs, c, ys, rfl, hc, hcd, hxs, hys⟩ :=
      utf8_split (show utf8 cs = [] ++ d.toUInt8 :: _ from h) hbyte
    have hnil : xs = [] := utf8_inj hxs
    obtain ⟨ys', rfl, hys'⟩ := ih hds hys
    exact ⟨ys', by rw [hnil, eq_of_ascii hc hd hcd]; rfl, hys'⟩

/-- The encoding of a character tells where it ends. -/
theorem encode_append_inj {d : Char} {xs ys : List UInt8}
    (h : String.utf8EncodeChar c ++ xs = String.utf8EncodeChar d ++ ys) : c = d ∧ xs = ys := by
  have hbytes := congrArg List.toByteArray h
  rw [List.toByteArray_append, List.toByteArray_append] at hbytes
  have hdecode := congrArg (ByteArray.utf8DecodeChar? · 0) hbytes
  simp only [ByteArray.utf8DecodeChar?_utf8EncodeChar_append] at hdecode
  obtain rfl := Option.some.inj hdecode
  exact ⟨rfl, List.append_cancel_left h⟩

/-- The beginnings of a text that are texts are those by whole characters. -/
theorem utf8_isPrefix : utf8 ds <+: utf8 cs ↔ ds <+: cs := by
  refine ⟨fun h => ?_, fun ⟨rest, h⟩ => ⟨utf8 rest, by rw [← h, utf8_append]⟩⟩
  induction ds generalizing cs with
  | nil => exact List.nil_prefix
  | cons d ds ih =>
    obtain ⟨rest, hrest⟩ := h
    rw [utf8_cons, List.append_assoc] at hrest
    cases cs with
    | nil =>
      have hlength := congrArg List.length hrest
      rw [List.length_append, String.length_utf8EncodeChar] at hlength
      have hpos := d.utf8Size_pos
      exact absurd hlength (by simp [utf8]; omega)
    | cons c cs =>
      rw [utf8_cons] at hrest
      obtain ⟨rfl, htail⟩ := encode_append_inj hrest
      exact List.cons_prefix_cons.2 ⟨rfl, ih ⟨rest, htail⟩⟩

end Utf8

end ChatApp.Lib
