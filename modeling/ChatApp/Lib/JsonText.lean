/-
  JSON texts, as RFC 8259 has them: `parse` gives the value of a text, if it is well formed. Of a
  number, the value is `mantissa * 10 ^ exponent`. A surrogate that is not one of a pair stands for
  no character, and is refused.

  What a string token takes is divided at its quotes: up to the first quote, it is at most as long
  as it is written, and as long only if it is written as it is (`parseString_cases`). So a string
  that comes out as it is written has none but plain characters (`parseString_self`), and members
  that take no more text than they must have none but such strings (`parseMembers_length`).
-/
import Mathlib.Data.List.Basic
import Mathlib.Data.List.TakeWhile
import ChatApp.Lib.Search
import ChatApp.Lib.Text

namespace ChatApp.Lib.JsonText

inductive Value
  | null
  | bool (b : Bool)
  | number (mantissa exponent : Int)
  | string (s : List Char)
  | array (vs : List Value)
  | object (members : List (List Char × Value))

/-- The member of an object -/
def Value.member? (key : String) : Value → Option Value
  | .object members => members.lookup key.toList
  | _ => none

theorem Value.member?_cons {key : String} {k : List Char} {v : Value}
    {members : List (List Char × Value)} : (Value.object ((k, v) :: members)).member? key =
      if key.toList = k then some v else (Value.object members).member? key := by
  rw [Value.member?, List.lookup_cons]
  by_cases h : key.toList = k
  · rw [if_pos h, beq_iff_eq.2 h]
  · rw [if_neg h, beq_eq_false_iff_ne.2 h]
    rfl

def isSpace (c : Char) : Bool := c = ' ' || c = '\t' || c = '\n' || c = '\r'

/-! ## Strings -/

/-- A character that stands for itself in a string. -/
def Plain (c : Char) : Prop := c ≠ '"' ∧ c ≠ '\\' ∧ ' ' ≤ c

instance (c : Char) : Decidable (Plain c) := inferInstanceAs (Decidable (_ ∧ _))

def hexValue (c : Char) : Option Nat :=
  if c.isDigit then some (c.toNat - '0'.toNat)
  else if 'a' ≤ c ∧ c ≤ 'f' then some (c.toNat - 'a'.toNat + 10)
  else if 'A' ≤ c ∧ c ≤ 'F' then some (c.toNat - 'A'.toNat + 10)
  else none

/-- Four hexadecimal digits -/
def parseUnit : List Char → Option (Nat × List Char)
  | a :: b :: c :: d :: s => do
    let a ← hexValue a
    let b ← hexValue b
    let c ← hexValue c
    let d ← hexValue d
    return (((a * 16 + b) * 16 + c) * 16 + d, s)
  | _ => none

/-- The second half of a surrogate pair -/
def parseLowSurrogate (high : Nat) : List Char → Option (Char × List Char)
  | '\\' :: 'u' :: s =>
    (parseUnit s).bind fun (low, s) =>
      if 0xDC00 ≤ low ∧ low < 0xE000 then
        some (.ofNat (0x10000 + (high - 0xD800) * 0x400 + (low - 0xDC00)), s)
      else none
  | _ => none

/-- What follows a backslash -/
def parseEscape : List Char → Option (Char × List Char)
  | '"' :: s => some ('"', s)
  | '\\' :: s => some ('\\', s)
  | '/' :: s => some ('/', s)
  | 'b' :: s => some ('\x08', s)
  | 'f' :: s => some ('\x0c', s)
  | 'n' :: s => some ('\n', s)
  | 'r' :: s => some ('\r', s)
  | 't' :: s => some ('\t', s)
  | 'u' :: s =>
    (parseUnit s).bind fun (unit, s) =>
      if 0xD800 ≤ unit ∧ unit < 0xDC00 then parseLowSurrogate unit s
      else if 0xDC00 ≤ unit ∧ unit < 0xE000 then none
      else some (.ofNat unit, s)
  | _ => none

/-- Characters are taken from the front of a text, and none of them is a quote. -/
def Takes (s rest : List Char) : Prop := ∃ used, s = used ++ rest ∧ used ≠ [] ∧ '"' ∉ used

section
variable {s rest t : List Char} {c : Char} {n : Nat}

theorem Takes.trans (h : Takes s rest) (h' : Takes rest t) : Takes s t := by
  obtain ⟨used, rfl, hne, hquote⟩ := h
  obtain ⟨used', rfl, -, hquote'⟩ := h'
  refine ⟨used ++ used', (List.append_assoc _ _ _).symm, List.append_ne_nil_of_left_ne_nil hne _,
    fun hmem => (List.mem_append.1 hmem).elim hquote hquote'⟩

theorem takes_cons (hc : c ≠ '"') (h : Takes s rest) : Takes (c :: s) rest := by
  obtain ⟨used, rfl, -, hquote⟩ := h
  exact ⟨c :: used, rfl, List.cons_ne_nil _ _, fun hmem =>
    (List.mem_cons.1 hmem).elim (fun heq => hc heq.symm) hquote⟩

theorem takes_one (hc : c ≠ '"') : Takes (c :: s) s :=
  ⟨[c], rfl, List.cons_ne_nil _ _, fun hmem => hc (List.mem_singleton.1 hmem).symm⟩

theorem ne_quote_of_hex (h : hexValue c = some n) : c ≠ '"' := by
  have hquote : hexValue '"' = none := by decide
  rintro rfl
  exact absurd (hquote.symm.trans h) nofun

theorem parseUnit_takes (h : parseUnit s = some (n, rest)) : Takes s rest := by
  unfold parseUnit at h
  split at h
  next a b c d s =>
    obtain ⟨_, ha, h⟩ := Option.bind_eq_some_iff.1 h
    obtain ⟨_, hb, h⟩ := Option.bind_eq_some_iff.1 h
    obtain ⟨_, hc, h⟩ := Option.bind_eq_some_iff.1 h
    obtain ⟨_, hd, h⟩ := Option.bind_eq_some_iff.1 h
    obtain rfl := (Prod.mk.inj (Option.some.inj h)).2
    exact takes_cons (ne_quote_of_hex ha) (takes_cons (ne_quote_of_hex hb)
      (takes_cons (ne_quote_of_hex hc) (takes_one (ne_quote_of_hex hd))))
  next => exact nomatch h

theorem parseLowSurrogate_takes (h : parseLowSurrogate n s = some (c, rest)) : Takes s rest := by
  unfold parseLowSurrogate at h
  split at h
  next s =>
    obtain ⟨⟨low, s'⟩, hunit, h⟩ := Option.bind_eq_some_iff.1 h
    obtain ⟨-, h⟩ := Option.ite_none_right_eq_some.1 h
    obtain rfl := (Prod.mk.inj (Option.some.inj h)).2
    exact takes_cons (by decide) (takes_cons (by decide) (parseUnit_takes hunit))
  next => exact nomatch h

/-- An escape takes a quote only if it is one. -/
theorem parseEscape_takes (h : parseEscape s = some (c, rest)) :
    c = '"' ∧ s = '"' :: rest ∨ Takes s rest := by
  unfold parseEscape at h
  split at h
  case h_1 =>
    obtain ⟨rfl, rfl⟩ := Prod.mk.inj (Option.some.inj h)
    exact .inl ⟨rfl, rfl⟩
  case h_9 s =>
    obtain ⟨⟨unit, s'⟩, hunit, h⟩ := Option.bind_eq_some_iff.1 h
    have hu : Takes ('u' :: s) s' := takes_cons (by decide) (parseUnit_takes hunit)
    dsimp only at h
    split at h
    · exact .inr (hu.trans (parseLowSurrogate_takes h))
    obtain ⟨-, h⟩ := Option.ite_none_left_eq_some.1 h
    obtain rfl := (Prod.mk.inj (Option.some.inj h)).2
    exact .inr hu
  case h_10 => exact nomatch h
  all_goals exact .inr ((Prod.mk.inj (Option.some.inj h)).2 ▸ takes_one (by decide))

theorem Takes.length_lt (h : Takes s rest) : rest.length < s.length := by
  obtain ⟨used, rfl, hne, -⟩ := h
  have hpos := List.length_pos_iff.2 hne
  rw [List.length_append]
  omega

theorem parseEscape_suffix (h : parseEscape s = some (c, rest)) : ∃ used, s = used ++ rest := by
  rcases parseEscape_takes h with ⟨-, rfl⟩ | ⟨used, heq, -⟩
  · exact ⟨['"'], rfl⟩
  · exact ⟨used, heq⟩

theorem length_parseEscape (h : parseEscape s = some (c, rest)) : rest.length < s.length := by
  rcases parseEscape_takes h with ⟨-, rfl⟩ | h
  · exact Nat.lt_succ_self _
  · exact h.length_lt

end

/-- What follows the quote that opens a string, and what follows the one that closes it. -/
def parseString : List Char → Option (List Char × List Char)
  | [] => none
  | c :: s =>
    if c = '"' then some ([], s)
    else if c = '\\' then
      match _h : parseEscape s with
      | none => none
      | some (c, rest) => (parseString rest).map fun x => (c :: x.1, x.2)
    else if c < ' ' then none
    else (parseString s).map fun x => (c :: x.1, x.2)
termination_by s => s.length
decreasing_by
  · exact Nat.lt_succ_of_lt (length_parseEscape _h)
  · exact Nat.lt_succ_self _

section
variable {s rest value t : List Char}

theorem parseString_plain (h : ∀ c ∈ s, Plain c) :
    parseString (s ++ '"' :: rest) = some (s, rest) := by
  induction s with
  | nil =>
    rw [List.nil_append, parseString, if_pos rfl]
  | cons c s ih =>
    obtain ⟨⟨hquote, hslash, hspace⟩, hs⟩ := List.forall_mem_cons.1 h
    rw [List.cons_append, parseString, if_neg hquote, if_neg hslash, if_neg (not_lt.2 hspace),
      ih hs]
    rfl

/-- What an escape leaves of a text up to its first quote. -/
theorem Takes.before_quote (h : Takes (s ++ '"' :: rest) t) (hs : '"' ∉ s) :
    ∃ s', t = s' ++ '"' :: rest ∧ '"' ∉ s' ∧ s'.length < s.length := by
  obtain ⟨used, heq, hne, hquote⟩ := h
  obtain ⟨s', rfl⟩ := Search.prefix_of_not_mem hquote ⟨t, heq.symm⟩
  rw [List.append_assoc, List.append_cancel_left_eq] at heq
  have hpos := List.length_pos_iff.2 hne
  refine ⟨s', heq.symm, fun hmem => hs (List.mem_append_right _ hmem), ?_⟩
  rw [List.length_append]
  omega

/-- What is parsed of a text up to its first quote: all of it, and then what is written as it is
    keeps its length and anything else gets shorter; or a part that escapes the quote. -/
theorem parseString_cases (hs : '"' ∉ s) (h : parseString (s ++ '"' :: rest) = some (value, t)) :
    (t = rest ∧ value.length ≤ s.length ∧
      (s.length ≤ value.length → value = s ∧ ∀ c ∈ s, Plain c)) ∨
    ∃ before value', value = before ++ '"' :: value' ∧ before.length < s.length ∧
      parseString rest = some (value', t) := by
  obtain ⟨n, hn⟩ : ∃ n, s.length ≤ n := ⟨_, Nat.le_refl _⟩
  induction n generalizing s value with
  | zero =>
    obtain rfl := List.length_eq_zero_iff.1 (Nat.le_zero.1 hn)
    rw [List.nil_append, parseString, if_pos rfl] at h
    obtain ⟨rfl, rfl⟩ := Prod.mk.inj (Option.some.inj h)
    exact .inl ⟨rfl, Nat.le_refl _, fun _ => ⟨rfl, nofun⟩⟩
  | succ n ih =>
    rcases s with _ | ⟨c, s⟩
    · exact ih hs h (Nat.zero_le _)
    have hc : c ≠ '"' := fun heq => hs (heq ▸ List.mem_cons_self)
    have hrest : '"' ∉ s := fun hmem => hs (List.mem_cons_of_mem c hmem)
    have hlength : s.length ≤ n := Nat.le_of_succ_le_succ hn
    rw [List.cons_append, parseString, if_neg hc] at h
    split at h
    next =>
      split at h
      next => exact nomatch h
      next e s' hescape =>
        obtain ⟨⟨value', t'⟩, hstring, heq⟩ := Option.map_eq_some_iff.1 h
        obtain rfl : e :: value' = value := (Prod.mk.inj heq).1
        obtain rfl : t' = t := (Prod.mk.inj heq).2
        rcases parseEscape_takes hescape with ⟨rfl, hquote⟩ | htakes
        · -- the quote is escaped
          rcases s with _ | ⟨d, s⟩
          · obtain rfl := (List.cons.inj hquote).2
            exact .inr ⟨[], value', rfl, Nat.succ_pos _, hstring⟩
          · have hd : d = '"' := (List.cons.inj hquote).1
            exact absurd (hd ▸ List.mem_cons_self) hrest
        · obtain ⟨s'', rfl, hquote, hshort⟩ := htakes.before_quote hrest
          rcases ih hquote hstring (by omega) with
            ⟨rfl, hle, -⟩ | ⟨before, value'', rfl, hbefore, hescaped⟩
          · refine .inl ⟨rfl, ?_, fun hge => ?_⟩
            · rw [List.length_cons, List.length_cons]
              omega
            · rw [List.length_cons, List.length_cons] at hge
              omega
          · refine .inr ⟨e :: before, value'', rfl, ?_, hescaped⟩
            rw [List.length_cons, List.length_cons]
            omega
    next hslash =>
      split at h
      next => exact nomatch h
      next hspace =>
        obtain ⟨⟨value', t'⟩, hstring, heq⟩ := Option.map_eq_some_iff.1 h
        obtain rfl : c :: value' = value := (Prod.mk.inj heq).1
        obtain rfl : t' = t := (Prod.mk.inj heq).2
        rcases ih hrest hstring hlength with
          ⟨rfl, hle, hsame⟩ | ⟨before, value'', rfl, hbefore, hescaped⟩
        · refine .inl ⟨rfl, Nat.succ_le_succ hle, fun hge => ?_⟩
          obtain ⟨rfl, hplain⟩ := hsame (Nat.le_of_succ_le_succ hge)
          exact ⟨rfl, List.forall_mem_cons.2 ⟨⟨hc, hslash, not_lt.1 hspace⟩, hplain⟩⟩
        · exact .inr ⟨c :: before, value'', rfl, Nat.succ_lt_succ hbefore, hescaped⟩

/-- What comes out as it is written was written in plain characters: at its first quote it would
    end, or have a quote earlier. -/
theorem parseString_self (h : parseString (s ++ '"' :: rest) = some (s, t)) :
    (∀ c ∈ s, Plain c) ∧ t = rest := by
  by_cases hquote : '"' ∈ s
  · exfalso
    obtain ⟨before, after, hs, hbefore⟩ := List.eq_append_cons_of_mem hquote
    have hstring : parseString (before ++ '"' :: (after ++ '"' :: rest)) = some (s, t) := by
      rw [← h, hs, List.append_assoc, List.cons_append]
    rcases parseString_cases hbefore hstring with ⟨-, hshort, -⟩ | ⟨xs, value, hxs, hlength, -⟩
    · rw [hs, List.length_append, List.length_cons] at hshort
      omega
    · have hinside : xs ++ ['"'] <+: before := by
        have hvalue : xs ++ ['"'] <+: s :=
          ⟨value, by rw [hxs, List.append_assoc, List.singleton_append]⟩
        refine List.prefix_of_prefix_length_le hvalue ⟨'"' :: after, hs.symm⟩ ?_
        rw [List.length_append, List.length_singleton]
        omega
      exact hbefore (hinside.subset (List.mem_append_right _ List.mem_cons_self))
  · rcases parseString_cases hquote h with ⟨rfl, -, hsame⟩ | ⟨xs, value, hxs, -⟩
    · exact ⟨(hsame (Nat.le_refl _)).2, rfl⟩
    · exact absurd (hxs ▸ List.mem_append_right _ List.mem_cons_self) hquote

/-- Of the characters up to the quote that closes a string, no more come out; as many only if they
    are written as they are. -/
theorem parseString_length (h : parseString s = some (value, rest)) :
    ∃ used, s = used ++ '"' :: rest ∧ value.length ≤ used.length ∧
      (used.length ≤ value.length → ∀ c ∈ value, Plain c) := by
  obtain ⟨n, hn⟩ : ∃ n, s.length ≤ n := ⟨_, Nat.le_refl _⟩
  induction n generalizing s value with
  | zero =>
    obtain rfl := List.length_eq_zero_iff.1 (Nat.le_zero.1 hn)
    rw [parseString] at h
    exact nomatch h
  | succ n ih =>
    rcases s with _ | ⟨c, s⟩
    · exact ih h (Nat.zero_le _)
    have hlength : s.length ≤ n := Nat.le_of_succ_le_succ hn
    rw [parseString] at h
    split at h
    next hc =>
      obtain ⟨rfl, rfl⟩ := Prod.mk.inj (Option.some.inj h)
      exact ⟨[], hc ▸ rfl, Nat.le_refl _, fun _ => nofun⟩
    next hquote =>
      split at h
      next =>
        split at h
        next => exact nomatch h
        next e s' hescape =>
          obtain ⟨⟨value', t'⟩, hstring, heq⟩ := Option.map_eq_some_iff.1 h
          obtain rfl : e :: value' = value := (Prod.mk.inj heq).1
          obtain rfl : t' = rest := (Prod.mk.inj heq).2
          have hshort := length_parseEscape hescape
          obtain ⟨used, rfl, hle, -⟩ := ih hstring (by omega)
          obtain ⟨escape, rfl⟩ := parseEscape_suffix hescape
          simp only [List.length_append] at hshort
          refine ⟨c :: (escape ++ used), by rw [List.cons_append, List.append_assoc], ?_, ?_⟩
          all_goals
            rw [List.length_cons, List.length_cons, List.length_append]
            omega
      next hslash =>
        split at h
        next => exact nomatch h
        next hspace =>
          obtain ⟨⟨value', t'⟩, hstring, heq⟩ := Option.map_eq_some_iff.1 h
          obtain rfl : c :: value' = value := (Prod.mk.inj heq).1
          obtain rfl : t' = rest := (Prod.mk.inj heq).2
          obtain ⟨used, rfl, hle, hplain⟩ := ih hstring hlength
          refine ⟨c :: used, rfl, Nat.succ_le_succ hle, fun hge => ?_⟩
          exact List.forall_mem_cons.2
            ⟨⟨hquote, hslash, not_lt.1 hspace⟩, hplain (Nat.le_of_succ_le_succ hge)⟩

/-- Behind an escaped quote, a string goes on up to the next key. -/
theorem parseString_comma : parseString (',' :: '"' :: rest) = some ([','], rest) :=
  parseString_plain (s := [',']) (Text.forall_of_all rfl)

end

/-! ## Numbers -/

def parseFraction : List Char → Option (List Char × List Char)
  | '.' :: s =>
    let digits := s.takeWhile Char.isDigit
    if digits = [] then none else some (digits, s.dropWhile Char.isDigit)
  | s => some ([], s)

def parseExponent : List Char → Option (Int × List Char)
  | [] => some (0, [])
  | c :: s =>
    if c = 'e' ∨ c = 'E' then
      let negative := s.head? = some '-'
      let s := if s.head? = some '-' ∨ s.head? = some '+' then s.tail else s
      let digits := s.takeWhile Char.isDigit
      let value : Int := Nat.ofDigitChars 10 digits 0
      if digits = [] then none
      else some (if negative then -value else value, s.dropWhile Char.isDigit)
    else some (0, c :: s)

def parseUnsigned (s : List Char) : Option ((Int × Int) × List Char) :=
  let digits := s.takeWhile Char.isDigit
  if digits = [] ∨ digits.head? = some '0' ∧ digits ≠ ['0'] then none
  else
    (parseFraction (s.dropWhile Char.isDigit)).bind fun (fraction, s) =>
      (parseExponent s).map fun (exponent, s) =>
        ((Nat.ofDigitChars 10 (digits ++ fraction) 0, exponent - fraction.length), s)

def parseNumber : List Char → Option (Value × List Char)
  | '-' :: s => (parseUnsigned s).map fun x => (.number (-x.1.1) x.1.2, x.2)
  | s => (parseUnsigned s).map fun x => (.number x.1.1 x.1.2, x.2)

/-- What may follow the digits of an integer. -/
def Stops (s : List Char) : Prop :=
  ∀ c, s.head? = some c → c.isDigit = false ∧ c ≠ '.' ∧ c ≠ 'e' ∧ c ≠ 'E'

section
variable {rest : List Char}

theorem parseUnsigned_toString (n : Nat) (h : Stops rest) :
    parseUnsigned ((toString n).toList ++ rest) = some (((n : Int), (0 : Int)), rest) := by
  have hdigits : ∀ c ∈ (toString n).toList, c.isDigit = true :=
    fun c => Text.isDigit_of_mem_toString
  have hnone : rest.takeWhile Char.isDigit = [] ∧ rest.dropWhile Char.isDigit = rest := by
    rcases rest with _ | ⟨c, rest⟩
    · exact ⟨rfl, rfl⟩
    · have hc := (h c rfl).1
      exact ⟨by simp [hc], by simp [hc]⟩
  have hfraction : parseFraction rest = some ([], rest) := by
    unfold parseFraction
    split
    next => exact absurd rfl (h '.' rfl).2.1
    next => rfl
  have hexponent : parseExponent rest = some (0, rest) := by
    unfold parseExponent
    split
    next => rfl
    next c s =>
      obtain ⟨-, -, he, hE⟩ := h c rfl
      rw [if_neg (not_or.2 ⟨he, hE⟩)]
  have hlist : (toString n).toList = Nat.toDigits 10 n := Nat.toList_repr
  have hzero : ¬ ((toString n).toList = [] ∨
      (toString n).toList.head? = some '0' ∧ (toString n).toList ≠ ['0']) := by
    rintro (hnil | ⟨hhead, hne⟩)
    · exact Nat.toDigits_ne_nil (hlist ▸ hnil)
    · obtain rfl := Text.toString_head hhead
      exact hne rfl
  unfold parseUnsigned
  rw [List.takeWhile_append_of_pos hdigits, List.dropWhile_append_of_pos hdigits, hnone.1, hnone.2,
    List.append_nil]
  dsimp only
  rw [if_neg hzero, hfraction, Option.bind_some]
  dsimp only
  rw [hexponent, Option.map_some, List.append_nil, hlist, Nat.ofDigitChars_ten_toDigits]
  rfl

theorem parseNumber_nat (n : Nat) (h : Stops rest) :
    parseNumber ((toString n).toList ++ rest) = some (.number n 0, rest) := by
  have hparse := parseUnsigned_toString n h
  unfold parseNumber
  split
  next s hs =>
    -- a digit is no minus sign
    rcases hlist : (toString n).toList with _ | ⟨c, cs⟩
    · exact absurd (Nat.toList_repr.symm.trans hlist) Nat.toDigits_ne_nil
    · rw [hlist] at hs
      have hdigit := Text.isDigit_of_mem_toString (hlist ▸ List.mem_cons_self)
      rw [(List.cons.inj hs).1] at hdigit
      exact absurd hdigit (by decide)
  next => rw [hparse, Option.map_some]

theorem parseNumber_int (i : Int) (h : Stops rest) :
    parseNumber ((toString i).toList ++ rest) = some (.number i 0, rest) := by
  cases i with
  | ofNat n => exact parseNumber_nat n h
  | negSucc n =>
    rw [Text.toList_toString_negSucc, List.cons_append]
    show (parseUnsigned _).map _ = _
    rw [parseUnsigned_toString (n + 1) h]
    rfl

end

/-! ## Values -/

mutual

/-- A value, and what follows it; for so many levels of values, elements and members at most. -/
def parseValue : Nat → List Char → Option (Value × List Char)
  | 0, _ => none
  | fuel + 1, s =>
    match s.dropWhile isSpace with
    | '{' :: s =>
      match s.dropWhile isSpace with
      | '}' :: s => some (.object [], s)
      | s => (parseMembers fuel s).map fun x => (.object x.1, x.2)
    | '[' :: s =>
      match s.dropWhile isSpace with
      | ']' :: s => some (.array [], s)
      | s => (parseElements fuel s).map fun x => (.array x.1, x.2)
    | '"' :: s => (parseString s).map fun x => (.string x.1, x.2)
    | 't' :: 'r' :: 'u' :: 'e' :: s => some (.bool true, s)
    | 'f' :: 'a' :: 'l' :: 's' :: 'e' :: s => some (.bool false, s)
    | 'n' :: 'u' :: 'l' :: 'l' :: s => some (.null, s)
    | s => parseNumber s

def parseElements : Nat → List Char → Option (List Value × List Char)
  | 0, _ => none
  | fuel + 1, s =>
    (parseValue fuel s).bind fun x =>
      match x.2.dropWhile isSpace with
      | ',' :: s => (parseElements fuel s).map fun y => (x.1 :: y.1, y.2)
      | ']' :: s => some ([x.1], s)
      | _ => none

def parseMembers : Nat → List Char → Option (List (List Char × Value) × List Char)
  | 0, _ => none
  | fuel + 1, s =>
    match s.dropWhile isSpace with
    | '"' :: s =>
      (parseString s).bind fun key =>
        match key.2.dropWhile isSpace with
        | ':' :: s =>
          (parseValue fuel s).bind fun x =>
            match x.2.dropWhile isSpace with
            | ',' :: s => (parseMembers fuel s).map fun y => ((key.1, x.1) :: y.1, y.2)
            | '}' :: s => some ([(key.1, x.1)], s)
            | _ => none
        | _ => none
    | _ => none

end

-- the equations are made here, before the proofs that rewrite with them
attribute [local grind =] parseValue parseElements parseMembers

/-- The value of a text -/
def parse (s : List Char) : Option Value :=
  (parseValue (s.length + 1) s).bind fun x =>
    if x.2.dropWhile isSpace = [] then some x.1 else none

section
variable {fuel : Nat} {s rest key : List Char} {c : Char} {v : Value}

theorem parseValue_of_parse (h : parse s = some v) :
    ∃ rest, parseValue (s.length + 1) s = some (v, rest) := by
  obtain ⟨⟨v', rest⟩, hvalue, hend⟩ := Option.bind_eq_some_iff.1 h
  obtain rfl := Option.some.inj (Option.ite_none_right_eq_some.1 hend).2
  exact ⟨rest, hvalue⟩

theorem dropWhile_isSpace (h : isSpace c = false) : (c :: s).dropWhile isSpace = c :: s := by
  rw [List.dropWhile_cons, h, if_neg Bool.false_ne_true]

theorem parseValue_string :
    parseValue (fuel + 1) ('"' :: s) = (parseString s).map fun x => (.string x.1, x.2) := by
  rw [parseValue, dropWhile_isSpace (by decide)]
  rfl

theorem parseValue_object : parseValue (fuel + 1) ('{' :: '"' :: s) =
    (parseMembers fuel ('"' :: s)).map fun x => (.object x.1, x.2) := by
  rw [parseValue, dropWhile_isSpace (by decide)]
  show (match ('"' :: s).dropWhile isSpace with
    | '}' :: s => some (Value.object [], s)
    | s => (parseMembers fuel s).map fun x : List (List Char × Value) × List Char =>
      (Value.object x.1, x.2)) = _
  rw [dropWhile_isSpace (by decide)]
  rfl

theorem parseValue_empty : parseValue (fuel + 1) ('{' :: '}' :: s) = some (.object [], s) := by
  rw [parseValue, dropWhile_isSpace (by decide)]
  show (match ('}' :: s).dropWhile isSpace with
    | '}' :: s => some (Value.object [], s)
    | s => (parseMembers fuel s).map fun x : List (List Char × Value) × List Char =>
      (Value.object x.1, x.2)) = _
  rw [dropWhile_isSpace (by decide)]
  rfl

theorem parseValue_false :
    parseValue (fuel + 1) ("false".toList ++ s) = some (.bool false, s) := by
  show parseValue (fuel + 1) ('f' :: _) = _
  rw [parseValue, dropWhile_isSpace (by decide)]
  rfl

theorem parseValue_array : parseValue (fuel + 1) ('[' :: '"' :: s) =
    (parseElements fuel ('"' :: s)).map fun x => (.array x.1, x.2) := by
  rw [parseValue, dropWhile_isSpace (by decide)]
  show (match ('"' :: s).dropWhile isSpace with
    | ']' :: s => some (Value.array [], s)
    | s => (parseElements fuel s).map fun x : List Value × List Char => (Value.array x.1, x.2)) = _
  rw [dropWhile_isSpace (by decide)]
  rfl

theorem parseValue_int (i : Int) (h : Stops rest) :
    parseValue (fuel + 1) ((toString i).toList ++ rest) = some (.number i 0, rest) := by
  rw [← parseNumber_int i h]
  rcases hlist : (toString i).toList with _ | ⟨c, s⟩
  · exact absurd hlist (Text.toString_int_ne_nil i)
  · -- the first character of a number begins nothing else
    have hnumber : c.isDigit = true ∨ c = '-' :=
      Text.mem_toString_int (hlist ▸ List.mem_cons_self)
    have hother : ∀ d ∈ ['{', '[', '"', 't', 'f', 'n', ' ', '\t', '\n', '\r'], c ≠ d := by
      have hletter : ∀ d ∈ ['{', '[', '"', 't', 'f', 'n', ' ', '\t', '\n', '\r'],
          d.isDigit = false ∧ d ≠ '-' := Text.forall_of_all rfl
      intro d hd heq
      obtain ⟨hdigit, hminus⟩ := hletter d hd
      rcases hnumber with hc | hc
      · exact Bool.false_ne_true (hdigit.symm.trans (heq ▸ hc))
      · exact hminus (heq.symm.trans hc)
    have hspace : isSpace c = false := by
      simp [isSpace, hother]
    rw [List.cons_append, parseValue, dropWhile_isSpace hspace]
    split
    case h_7 => rfl
    all_goals
      next h => exact absurd (List.cons.inj h).1 (hother _ (by decide))

/-- A member with a plain key -/
theorem parseMembers_key (hkey : ∀ c ∈ key, Plain c) :
    parseMembers (fuel + 1) ('"' :: (key ++ '"' :: ':' :: s)) =
      (parseValue fuel s).bind fun x =>
        match x.2.dropWhile isSpace with
        | ',' :: s => (parseMembers fuel s).map fun y => ((key, x.1) :: y.1, y.2)
        | '}' :: s => some ([(key, x.1)], s)
        | _ => none := by
  rw [parseMembers, dropWhile_isSpace (by decide)]
  show (parseString (key ++ '"' :: ':' :: s)).bind _ = _
  rw [parseString_plain hkey, Option.bind_some, dropWhile_isSpace (by decide)]
  rfl

theorem parseMembers_comma (hkey : ∀ c ∈ key, Plain c)
    (hv : parseValue fuel s = some (v, ',' :: rest)) :
    parseMembers (fuel + 1) ('"' :: (key ++ '"' :: ':' :: s)) =
      (parseMembers fuel rest).map fun y => ((key, v) :: y.1, y.2) := by
  rw [parseMembers_key hkey, hv, Option.bind_some, dropWhile_isSpace (by decide)]
  rfl

theorem parseMembers_close (hkey : ∀ c ∈ key, Plain c)
    (hv : parseValue fuel s = some (v, '}' :: rest)) :
    parseMembers (fuel + 1) ('"' :: (key ++ '"' :: ':' :: s)) = some ([(key, v)], rest) := by
  rw [parseMembers_key hkey, hv, Option.bind_some, dropWhile_isSpace (by decide)]
  rfl

theorem parseMembers_none (hkey : ∀ c ∈ key, Plain c) (hv : parseValue fuel s = none) :
    parseMembers (fuel + 1) ('"' :: (key ++ '"' :: ':' :: s)) = none := by
  rw [parseMembers_key hkey, hv, Option.bind_none]

theorem parseMembers_cases (hkey : ∀ c ∈ key, Plain c) {ms : List (List Char × Value)}
    (h : parseMembers (fuel + 1) ('"' :: (key ++ '"' :: ':' :: s)) = some (ms, rest)) :
    ∃ v behind ms', parseValue fuel s = some (v, behind) ∧ ms = (key, v) :: ms' ∧
      ((∃ next, behind.dropWhile isSpace = ',' :: next ∧
          parseMembers fuel next = some (ms', rest)) ∨
        behind.dropWhile isSpace = '}' :: rest ∧ ms' = []) := by
  rw [parseMembers_key hkey] at h
  obtain ⟨⟨v, behind⟩, hv, h⟩ := Option.bind_eq_some_iff.1 h
  dsimp only at h
  split at h
  next next hcomma =>
    obtain ⟨⟨ms', t⟩, hms, heq⟩ := Option.map_eq_some_iff.1 h
    obtain ⟨rfl, rfl⟩ := Prod.mk.inj heq
    exact ⟨v, behind, ms', hv, rfl, .inl ⟨next, hcomma, hms⟩⟩
  next hbrace =>
    obtain ⟨rfl, rfl⟩ := Prod.mk.inj (Option.some.inj h)
    exact ⟨v, behind, [], hv, rfl, .inr ⟨hbrace, rfl⟩⟩
  next => exact nomatch h

theorem parseMembers_ne_nil {ms : List (List Char × Value)}
    (h : parseMembers fuel s = some (ms, rest)) : ms ≠ [] := by
  rcases fuel with _ | fuel
  · rw [parseMembers] at h
    exact nomatch h
  rw [parseMembers] at h
  split at h
  next =>
    obtain ⟨key, -, h⟩ := Option.bind_eq_some_iff.1 h
    split at h
    next =>
      obtain ⟨x, -, h⟩ := Option.bind_eq_some_iff.1 h
      split at h
      next =>
        obtain ⟨y, -, heq⟩ := Option.map_eq_some_iff.1 h
        exact (Prod.mk.inj heq).1 ▸ List.cons_ne_nil _ _
      next => exact (Prod.mk.inj (Option.some.inj h)).1 ▸ List.cons_ne_nil _ _
      next => exact nomatch h
    next => exact nomatch h
  next => exact nomatch h

/-- Behind the last member is the brace that closes the object. -/
theorem parseMembers_last (hkey : ∀ c ∈ key, Plain c)
    (h : parseMembers (fuel + 1) ('"' :: (key ++ '"' :: ':' :: s)) = some ([(key, v)], rest)) :
    ∃ behind, parseValue fuel s = some (v, behind) ∧ behind.dropWhile isSpace = '}' :: rest := by
  obtain ⟨v', behind, ms, hvalue, hms, hbehind⟩ := parseMembers_cases hkey h
  obtain ⟨hv, rfl⟩ := List.cons.inj hms
  obtain rfl := (Prod.mk.inj hv).2
  rcases hbehind with ⟨next, -, hnil⟩ | ⟨hclose, -⟩
  · exact absurd rfl (parseMembers_ne_nil hnil)
  · exact ⟨behind, hvalue, hclose⟩

/-- Neither a comma nor a brace follows the value. -/
theorem parseMembers_stuck (hkey : ∀ c ∈ key, Plain c)
    (hv : parseValue fuel s = some (v, c :: rest)) (hspace : isSpace c = false) (hcomma : c ≠ ',')
    (hbrace : c ≠ '}') :
    parseMembers (fuel + 1) ('"' :: (key ++ '"' :: ':' :: s)) = none := by
  rw [parseMembers_key hkey, hv, Option.bind_some, dropWhile_isSpace hspace]
  split
  next h => exact absurd (List.cons.inj h).1 hcomma
  next h => exact absurd (List.cons.inj h).1 hbrace
  next => rfl

/-- A member with a string, and another member behind it: the string ends where it is written to
    end, or nothing can be parsed. -/
theorem parseMembers_string (hkey : ∀ c ∈ key, Plain c) {t : List Char}
    {ms : List (List Char × Value)} (hs : '"' ∉ s) (hspace : isSpace c = false) (hcomma : c ≠ ',')
    (hbrace : c ≠ '}') :
    parseMembers (fuel + 2)
        ('"' :: (key ++ '"' :: ':' :: '"' :: (s ++ '"' :: ',' :: '"' :: c :: rest))) =
      some (ms, t) ↔
    ∃ value ms', parseString (s ++ '"' :: ',' :: '"' :: c :: rest) =
        some (value, ',' :: '"' :: c :: rest) ∧
      parseMembers (fuel + 1) ('"' :: c :: rest) = some (ms', t) ∧
      ms = (key, .string value) :: ms' := by
  have hvalue : parseValue (fuel + 1) ('"' :: (s ++ '"' :: ',' :: '"' :: c :: rest)) =
      (parseString (s ++ '"' :: ',' :: '"' :: c :: rest)).map fun x => (.string x.1, x.2) :=
    parseValue_string
  rcases hstring : parseString (s ++ '"' :: ',' :: '"' :: c :: rest) with _ | ⟨value, t'⟩
  · rw [hstring, Option.map_none] at hvalue
    rw [parseMembers_none hkey hvalue]
    exact ⟨nofun, fun ⟨_, _, h, _⟩ => nomatch h⟩
  · rw [hstring, Option.map_some] at hvalue
    rcases parseString_cases hs hstring with ⟨rfl, -⟩ | ⟨-, value', -, -, hescaped⟩
    · rw [parseMembers_comma hkey hvalue, Option.map_eq_some_iff]
      constructor
      · rintro ⟨⟨ms', t''⟩, hms, heq⟩
        obtain rfl : t'' = t := (Prod.mk.inj heq).2
        exact ⟨value, ms', rfl, hms, (Prod.mk.inj heq).1.symm⟩
      · rintro ⟨value', ms', heq, hms, rfl⟩
        obtain rfl := (Prod.mk.inj (Option.some.inj heq)).1
        exact ⟨(ms', t), hms, rfl⟩
    · obtain rfl := (Prod.mk.inj (Option.some.inj (parseString_comma.symm.trans hescaped))).2
      rw [parseMembers_stuck hkey hvalue hspace hcomma hbrace]
      refine ⟨nofun, fun ⟨_, _, h, _⟩ => ?_⟩
      exact absurd (congrArg List.length (Prod.mk.inj (Option.some.inj h)).2) (by simp)

/-! ## The least that strings take -/

theorem dropWhile_isSpace_eq (h : s.dropWhile isSpace = c :: rest) :
    ∃ spaces, s = spaces ++ c :: rest :=
  ⟨s.takeWhile isSpace, by rw [← h, List.takeWhile_append_dropWhile]⟩

theorem parseNumber_ne_string {value : List Char} : parseNumber s ≠ some (.string value, rest) := by
  intro h
  unfold parseNumber at h
  split at h
  all_goals
    obtain ⟨x, -, heq⟩ := Option.map_eq_some_iff.1 h
    exact nomatch heq

theorem parseValue_eq_string {value : List Char}
    (h : parseValue fuel s = some (.string value, rest)) :
    ∃ spaces s', s = spaces ++ '"' :: s' ∧ parseString s' = some (value, rest) := by
  rcases fuel with _ | fuel
  · rw [parseValue] at h
    exact nomatch h
  rw [parseValue] at h
  split at h
  case h_3 s' hs =>
    obtain ⟨⟨value', t⟩, hstring, heq⟩ := Option.map_eq_some_iff.1 h
    obtain rfl : value' = value := Value.string.inj (Prod.mk.inj heq).1
    obtain rfl : t = rest := (Prod.mk.inj heq).2
    obtain ⟨spaces, rfl⟩ := dropWhile_isSpace_eq hs
    exact ⟨spaces, s', rfl, hstring⟩
  case h_7 => exact absurd h parseNumber_ne_string
  case h_1 | h_2 =>
    split at h
    next => exact nomatch h
    next =>
      obtain ⟨x, -, heq⟩ := Option.map_eq_some_iff.1 h
      exact nomatch heq
  all_goals exact nomatch h

/-- The length of members with strings, each with what follows it -/
def textLength : List (List Char × List Char) → Nat
  | [] => 0
  | e :: es => e.1.length + e.2.length + 6 + textLength es

theorem textLength_perm {es es' : List (List Char × List Char)} (h : es.Perm es') :
    textLength es = textLength es' := by
  induction h with
  | nil => rfl
  | cons e _ ih => rw [textLength, textLength, ih]
  | swap e e' es =>
    simp only [textLength]
    omega
  | trans _ _ ih ih' => exact ih.trans ih'

theorem length_le_textLength (es : List (List Char × List Char)) : es.length ≤ textLength es := by
  induction es with
  | nil => exact Nat.le_refl _
  | cons e es ih =>
    rw [List.length_cons, textLength]
    omega

def stringMember (e : List Char × List Char) : List Char × Value := (e.1, .string e.2)

/-- A member with a string, up to what follows it -/
theorem parseMembers_cons {value : List Char} {ms : List (List Char × Value)}
    (h : parseMembers fuel s = some ((key, .string value) :: ms, rest)) :
    ∃ fuel' used next, fuel = fuel' + 1 ∧ s = used ++ next ∧
      key.length + value.length + 5 ≤ used.length ∧
      (used.length ≤ key.length + value.length + 5 →
        (∀ c ∈ key, Plain c) ∧ ∀ c ∈ value, Plain c) ∧
      ((∃ next', next = ',' :: next' ∧ parseMembers fuel' next' = some (ms, rest)) ∨
        next = '}' :: rest ∧ ms = []) := by
  rcases fuel with _ | fuel
  · rw [parseMembers] at h
    exact nomatch h
  rw [parseMembers] at h
  split at h
  next s₁ hs =>
    obtain ⟨⟨key', s₂⟩, hkey, hcolon⟩ := Option.bind_eq_some_iff.1 h
    clear h
    split at hcolon
    next s₃ hs₂ =>
      obtain ⟨⟨v, s₄⟩, hv, h⟩ := Option.bind_eq_some_iff.1 hcolon
      clear hcolon
      have hnext : key' = key ∧ v = .string value ∧ ∃ spaces next, s₄ = spaces ++ next ∧
          ((∃ next', next = ',' :: next' ∧ parseMembers fuel next' = some (ms, rest)) ∨
            next = '}' :: rest ∧ ms = []) := by
        split at h
        next next' hs₄ =>
          obtain ⟨spaces, heq⟩ := dropWhile_isSpace_eq hs₄
          obtain ⟨⟨ms', t⟩, hms, hcons⟩ := Option.map_eq_some_iff.1 h
          obtain ⟨hmember, rfl⟩ := List.cons.inj (Prod.mk.inj hcons).1
          obtain rfl : t = rest := (Prod.mk.inj hcons).2
          exact ⟨(Prod.mk.inj hmember).1, (Prod.mk.inj hmember).2, spaces, _, heq,
            .inl ⟨next', rfl, hms⟩⟩
        next s₅ hs₄ =>
          obtain ⟨spaces, heq⟩ := dropWhile_isSpace_eq hs₄
          obtain ⟨hcons, rfl⟩ := Prod.mk.inj (Option.some.inj h)
          obtain ⟨hmember, rfl⟩ := List.cons.inj hcons
          exact ⟨(Prod.mk.inj hmember).1, (Prod.mk.inj hmember).2, spaces, _, heq, .inr ⟨rfl, rfl⟩⟩
        next => exact nomatch h
      obtain ⟨rfl, rfl, spaces₄, next, rfl, hnext⟩ := hnext
      obtain ⟨spaces, rfl⟩ := dropWhile_isSpace_eq hs
      obtain ⟨written, rfl, hwritten, hplain⟩ := parseString_length hkey
      obtain ⟨spaces₂, rfl⟩ := dropWhile_isSpace_eq hs₂
      obtain ⟨spaces₃, s₅, rfl, hvalue⟩ := parseValue_eq_string hv
      obtain ⟨written₂, rfl, hwritten₂, hplain₂⟩ := parseString_length hvalue
      refine ⟨fuel, spaces ++ '"' :: (written ++ '"' :: (spaces₂ ++ ':' :: (spaces₃ ++ '"' ::
        (written₂ ++ '"' :: spaces₄)))), next, rfl, ?_, ?_, fun hle => ?_, hnext⟩
      · simp only [List.append_assoc, List.cons_append]
      · simp only [List.length_append, List.length_cons]
        omega
      · simp only [List.length_append, List.length_cons] at hle
        exact ⟨hplain (by omega), hplain₂ (by omega)⟩
    next => exact nomatch hcolon
  next => exact nomatch h

/-- The text of members with strings is at least as long as they are, and as long only if they are
    written as they are. -/
theorem parseMembers_length {es : List (List Char × List Char)}
    (h : parseMembers fuel s = some (es.map stringMember, rest)) :
    ∃ used, s = used ++ rest ∧ textLength es ≤ used.length ∧ (used.length ≤ textLength es →
      ∀ e ∈ es, (∀ c ∈ e.1, Plain c) ∧ ∀ c ∈ e.2, Plain c) := by
  induction es generalizing fuel s with
  | nil => exact absurd rfl (parseMembers_ne_nil h)
  | cons e es ih =>
    obtain ⟨fuel', used, next, rfl, rfl, hlength, hplain, hnext⟩ := parseMembers_cons h
    rcases hnext with ⟨next', rfl, hms⟩ | ⟨rfl, hnil⟩
    · obtain ⟨used', rfl, hlength', hplain'⟩ := ih hms
      refine ⟨used ++ ',' :: used', by rw [List.append_assoc, List.cons_append], ?_, fun hle => ?_⟩
      · rw [List.length_append, List.length_cons, textLength]
        omega
      · rw [List.length_append, List.length_cons, textLength] at hle
        exact List.forall_mem_cons.2 ⟨hplain (by omega), hplain' (by omega)⟩
    · obtain rfl := List.map_eq_nil_iff.1 hnil
      refine ⟨used ++ ['}'], by rw [List.append_assoc, List.singleton_append], ?_, fun hle => ?_⟩
      · rw [List.length_append, List.length_singleton, textLength, textLength]
        omega
      · rw [List.length_append, List.length_singleton, textLength, textLength] at hle
        exact List.forall_mem_cons.2 ⟨hplain (by omega), nofun⟩

end

end ChatApp.Lib.JsonText
