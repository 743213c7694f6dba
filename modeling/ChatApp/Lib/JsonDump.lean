/-
  JSON texts as a program writes them: no space between the tokens, and in a string an escape for
  the quote, the backslash and the control characters only. `parse_dump`: the value of such a text
  is the one that was written, whatever the strings in it are.

  The parser spends its fuel on levels and members, and each takes a character at least, so the
  length of a text is fuel enough for it (`reads`).
-/
import ChatApp.Lib.JsonText

namespace ChatApp.Lib.JsonText

/-! ## Strings -/

/-- A lower-case hexadecimal digit -/
def hexDigit (n : Nat) : Char := if n < 10 then .ofNat (48 + n) else .ofNat (87 + n)

def escape (c : Char) : List Char :=
  if c = '"' then ['\\', '"']
  else if c = '\\' then ['\\', '\\']
  else if c.toNat = 8 then ['\\', 'b']
  else if c.toNat = 12 then ['\\', 'f']
  else if c.toNat = 10 then ['\\', 'n']
  else if c.toNat = 13 then ['\\', 'r']
  else if c.toNat = 9 then ['\\', 't']
  else if c.toNat < 32 then
    ['\\', 'u', '0', '0', hexDigit (c.toNat / 16), hexDigit (c.toNat % 16)]
  else [c]

/-- A string without the quotes around it -/
def escapes (s : List Char) : List Char := s.flatMap escape

def dumpString (s : List Char) : List Char := '"' :: (escapes s ++ ['"'])

section
variable {s rest : List Char} {c : Char}

theorem hexValue_hexDigit : ∀ n < 16, hexValue (hexDigit n) = some n := by
  decide

theorem eq_of_toNat {n : Nat} (h : c.toNat = n) : c = .ofNat n := by
  rw [← h, Char.ofNat_toNat]

theorem parseString_escape (h : parseEscape s = some (c, rest)) :
    parseString ('\\' :: s) = (parseString rest).map fun x => (c :: x.1, x.2) := by
  rw [parseString, if_neg (by decide), if_pos rfl]
  split
  next hnone => exact absurd (h.symm.trans hnone) (Option.some_ne_none _)
  next c' rest' hsome =>
    obtain ⟨rfl, rfl⟩ := Prod.mk.inj (Option.some.inj (h.symm.trans hsome))
    rfl

/-- Two digits are enough for a control character. -/
theorem parseEscape_control (h : c.toNat < 32) : parseEscape
    ('u' :: '0' :: '0' :: hexDigit (c.toNat / 16) :: hexDigit (c.toNat % 16) :: rest) =
      some (c, rest) := by
  have hhigh : hexValue (hexDigit (c.toNat / 16)) = some (c.toNat / 16) :=
    hexValue_hexDigit _ (by omega)
  have hlow : hexValue (hexDigit (c.toNat % 16)) = some (c.toNat % 16) :=
    hexValue_hexDigit _ (by omega)
  have hzero : hexValue '0' = some 0 := rfl
  have hunit : ((0 * 16 + 0) * 16 + c.toNat / 16) * 16 + c.toNat % 16 = c.toNat := by
    omega
  show (parseUnit _).bind _ = _
  rw [parseUnit, hzero, hhigh, hlow]
  show (if 0xD800 ≤ ((0 * 16 + 0) * 16 + c.toNat / 16) * 16 + c.toNat % 16 ∧ _ then _ else _) = _
  rw [hunit, if_neg (by omega), if_neg (by omega), Char.ofNat_toNat]

theorem parseString_char :
    parseString (escape c ++ s) = (parseString s).map fun x => (c :: x.1, x.2) := by
  unfold escape
  split
  next h => rw [h]; exact parseString_escape rfl
  next hquote =>
  split
  next h => rw [h]; exact parseString_escape rfl
  next hslash =>
  split
  next h => exact parseString_escape (eq_of_toNat h ▸ rfl)
  split
  next h => exact parseString_escape (eq_of_toNat h ▸ rfl)
  split
  next h => exact parseString_escape (eq_of_toNat h ▸ rfl)
  split
  next h => exact parseString_escape (eq_of_toNat h ▸ rfl)
  split
  next h => exact parseString_escape (eq_of_toNat h ▸ rfl)
  split
  next h => exact parseString_escape (parseEscape_control h)
  next h =>
    have hspace : ¬ c < ' ' := fun hlt => h (UInt32.lt_iff_toNat_lt.1 (Char.lt_def.1 hlt))
    rw [List.singleton_append, parseString, if_neg hquote, if_neg hslash, if_neg hspace]

theorem parseString_escapes : parseString (escapes s ++ '"' :: rest) = some (s, rest) := by
  induction s with
  | nil =>
    show parseString ('"' :: rest) = _
    rw [parseString, if_pos rfl]
  | cons c s ih =>
    show parseString ((escape c ++ escapes s) ++ '"' :: rest) = _
    rw [List.append_assoc, parseString_char, ih]
    rfl

end

/-! ## Values -/

mutual

/-- Of a number, the mantissa: integers are written as they are. -/
def dump : Value → List Char
  | .null => ['n', 'u', 'l', 'l']
  | .bool true => ['t', 'r', 'u', 'e']
  | .bool false => ['f', 'a', 'l', 's', 'e']
  | .number n _ => (toString n).toList
  | .string s => dumpString s
  | .array vs => '[' :: dumpElements vs
  | .object members => '{' :: dumpMembers members

/-- The elements of an array, and the bracket that closes it -/
def dumpElements : List Value → List Char
  | [] => [']']
  | [v] => dump v ++ [']']
  | v :: w :: vs => dump v ++ ',' :: dumpElements (w :: vs)

/-- The members of an object, and the brace that closes it -/
def dumpMembers : List (List Char × Value) → List Char
  | [] => ['}']
  | [(key, v)] => dumpString key ++ ':' :: (dump v ++ ['}'])
  | (key, v) :: m :: ms => dumpString key ++ ':' :: (dump v ++ ',' :: dumpMembers (m :: ms))

end

mutual

/-- All numbers in it are integers. -/
def Integral : Value → Prop
  | .number _ exponent => exponent = 0
  | .array vs => AllIntegral vs
  | .object members => MembersIntegral members
  | _ => True

def AllIntegral : List Value → Prop
  | [] => True
  | v :: vs => Integral v ∧ AllIntegral vs

def MembersIntegral : List (List Char × Value) → Prop
  | [] => True
  | (_, v) :: ms => Integral v ∧ MembersIntegral ms

end

section
variable {v : Value} {vs : List Value} {ms : List (List Char × Value)} {key rest : List Char}

theorem stops_before {c : Char} (h : c.isDigit = false ∧ c ≠ '.' ∧ c ≠ 'e' ∧ c ≠ 'E') :
    Stops (c :: rest) := by
  intro d hd
  obtain rfl := Option.some.inj hd
  exact h

theorem dumpElements_cons : dumpElements (v :: vs) =
    dump v ++ if vs = [] then [']'] else ',' :: dumpElements vs := by
  cases vs with
  | nil => rfl
  | cons w vs => rfl

theorem dumpMembers_cons : dumpMembers ((key, v) :: ms) =
    dumpString key ++ ':' :: (dump v ++ if ms = [] then ['}'] else ',' :: dumpMembers ms) := by
  cases ms with
  | nil => rfl
  | cons m ms => rfl

/-- The first character of a value closes no array. -/
theorem dump_head (v : Value) : ∃ c s, dump v = c :: s ∧ isSpace c = false ∧ c ≠ ']' := by
  cases v with
  | null => exact ⟨'n', _, rfl, by decide, by decide⟩
  | bool b => cases b <;> exact ⟨_, _, rfl, by decide, by decide⟩
  | number n exponent =>
    rcases hlist : (toString n).toList with _ | ⟨c, s⟩
    · exact absurd hlist (Text.toString_int_ne_nil n)
    · have hother : ∀ d ∈ [' ', '\t', '\n', '\r', ']'], d.isDigit = false ∧ d ≠ '-' :=
        Text.forall_of_all rfl
      have hne : ∀ d ∈ [' ', '\t', '\n', '\r', ']'], c ≠ d := by
        intro d hd heq
        obtain ⟨hdigit, hminus⟩ := hother d hd
        rcases Text.mem_toString_int (hlist ▸ List.mem_cons_self) with hc | hc
        · exact Bool.false_ne_true (hdigit.symm.trans (heq ▸ hc))
        · exact hminus (heq.symm.trans hc)
      refine ⟨c, s, hlist, ?_, hne _ (by decide)⟩
      simp [isSpace, hne]
  | string s => exact ⟨'"', _, rfl, by decide, by decide⟩
  | array vs => exact ⟨'[', _, rfl, by decide, by decide⟩
  | object members => exact ⟨'{', _, rfl, by decide, by decide⟩

theorem length_dump_pos (v : Value) : 0 < (dump v).length := by
  obtain ⟨c, s, h, -⟩ := dump_head v
  rw [h, List.length_cons]
  omega

/-! ## Reading what is written -/

/-- So much fuel reads every text that is not longer. -/
structure Reads (fuel : Nat) : Prop where
  value : ∀ v rest, Integral v → Stops rest → (dump v).length ≤ fuel →
    parseValue fuel (dump v ++ rest) = some (v, rest)
  elements : ∀ vs rest, vs ≠ [] → AllIntegral vs → (dumpElements vs).length ≤ fuel →
    parseElements fuel (dumpElements vs ++ rest) = some (vs, rest)
  members : ∀ ms rest, ms ≠ [] → MembersIntegral ms → (dumpMembers ms).length ≤ fuel →
    parseMembers fuel (dumpMembers ms ++ rest) = some (ms, rest)

theorem parseValue_open {fuel : Nat} {c : Char} {s s' : List Char}
    (h : s.dropWhile isSpace = c :: s') (hc : c ≠ ']') : parseValue (fuel + 1) ('[' :: s) =
      (parseElements fuel (c :: s')).map fun x => (.array x.1, x.2) := by
  rw [parseValue, dropWhile_isSpace (by decide)]
  split
  case h_2 s'' heq =>
    obtain rfl := (List.cons.inj heq).2
    rw [h]
    split
    next hclose => exact absurd (List.cons.inj hclose).1 hc
    next => rfl
  case h_7 hnot _ _ _ _ => exact (hnot s rfl).elim
  all_goals next heq => exact absurd (List.cons.inj heq).1 (by decide)

theorem parseValue_elements {fuel : Nat} (h : Reads fuel) (hvs : AllIntegral vs)
    (hlength : (dumpElements vs).length ≤ fuel) :
    parseValue (fuel + 1) ('[' :: dumpElements vs ++ rest) = some (.array vs, rest) := by
  rw [List.cons_append]
  rcases vs with _ | ⟨v, vs⟩
  · rw [parseValue, dropWhile_isSpace (by decide)]
    rfl
  · have hread := h.elements (v :: vs) rest (List.cons_ne_nil _ _) hvs hlength
    obtain ⟨c, s, hdump, hspace, hclose⟩ := dump_head v
    rw [dumpElements_cons, hdump, List.cons_append, List.cons_append] at hread ⊢
    rw [parseValue_open (dropWhile_isSpace hspace) hclose, hread, Option.map_some]

theorem parseValue_members {fuel : Nat} (h : Reads fuel) (hms : MembersIntegral ms)
    (hlength : (dumpMembers ms).length ≤ fuel) :
    parseValue (fuel + 1) ('{' :: dumpMembers ms ++ rest) = some (.object ms, rest) := by
  rcases ms with _ | ⟨⟨key, v⟩, ms⟩
  · exact parseValue_empty
  · have hread := h.members ((key, v) :: ms) rest (List.cons_ne_nil _ _) hms hlength
    rw [dumpMembers_cons] at hread ⊢
    show parseValue (fuel + 1) ('{' :: '"' :: _) = _
    rw [parseValue_object]
    exact (congrArg _ hread).trans rfl

theorem reads_value {fuel : Nat} (h : Reads fuel) (hv : Integral v) (hrest : Stops rest)
    (hlength : (dump v).length ≤ fuel + 1) :
    parseValue (fuel + 1) (dump v ++ rest) = some (v, rest) := by
  cases v with
  | null =>
    show parseValue (fuel + 1) ('n' :: 'u' :: 'l' :: 'l' :: rest) = _
    rw [parseValue, dropWhile_isSpace (by decide)]
    rfl
  | bool b =>
    cases b with
    | false => exact parseValue_false
    | true =>
      show parseValue (fuel + 1) ('t' :: 'r' :: 'u' :: 'e' :: rest) = _
      rw [parseValue, dropWhile_isSpace (by decide)]
      rfl
  | number n exponent =>
    obtain rfl : exponent = 0 := hv
    exact parseValue_int n hrest
  | string s =>
    show parseValue (fuel + 1) ('"' :: (escapes s ++ ['"'] ++ rest)) = _
    rw [parseValue_string, List.append_assoc, List.singleton_append, parseString_escapes,
      Option.map_some]
  | array vs => exact parseValue_elements h hv (Nat.le_of_succ_le_succ hlength)
  | object members => exact parseValue_members h hv (Nat.le_of_succ_le_succ hlength)

theorem reads_elements {fuel : Nat} (h : Reads fuel) (hne : vs ≠ []) (hvs : AllIntegral vs)
    (hlength : (dumpElements vs).length ≤ fuel + 1) :
    parseElements (fuel + 1) (dumpElements vs ++ rest) = some (vs, rest) := by
  rcases vs with _ | ⟨v, vs⟩
  · exact absurd rfl hne
  obtain ⟨hv, hvs⟩ := hvs
  rw [dumpElements_cons] at hlength ⊢
  rw [List.length_append] at hlength
  rw [List.append_assoc, parseElements]
  by_cases hnil : vs = []
  · subst hnil
    rw [if_pos rfl] at hlength ⊢
    have hread := h.value v (']' :: rest) hv (stops_before (by decide))
      (Nat.le_of_succ_le_succ hlength)
    rw [List.singleton_append, hread, Option.bind_some, dropWhile_isSpace (by decide)]
    rfl
  · rw [if_neg hnil] at hlength ⊢
    rw [List.length_cons] at hlength
    have hpos := length_dump_pos v
    have hread := h.value v (',' :: (dumpElements vs ++ rest)) hv (stops_before (by decide))
      (by omega)
    rw [List.cons_append, hread, Option.bind_some, dropWhile_isSpace (by decide)]
    show (parseElements fuel (dumpElements vs ++ rest)).map _ = _
    rw [h.elements vs rest hnil hvs (by omega), Option.map_some]

theorem readMember_last {fuel : Nat} {key s : List Char}
    (h : parseValue fuel s = some (v, '}' :: rest)) :
    parseMembers (fuel + 1) (dumpString key ++ ':' :: s) = some ([(key, v)], rest) := by
  rw [parseMembers, dumpString, List.cons_append, dropWhile_isSpace (by decide)]
  show (parseString (escapes key ++ ['"'] ++ ':' :: s)).bind _ = _
  rw [List.append_assoc, List.singleton_append, parseString_escapes, Option.bind_some,
    dropWhile_isSpace (by decide)]
  show (parseValue fuel s).bind _ = _
  rw [h, Option.bind_some, dropWhile_isSpace (by decide)]
  rfl

theorem readMember_next {fuel : Nat} {key s : List Char}
    (h : parseValue fuel s = some (v, ',' :: rest)) :
    parseMembers (fuel + 1) (dumpString key ++ ':' :: s) =
      (parseMembers fuel rest).map fun y => ((key, v) :: y.1, y.2) := by
  rw [parseMembers, dumpString, List.cons_append, dropWhile_isSpace (by decide)]
  show (parseString (escapes key ++ ['"'] ++ ':' :: s)).bind _ = _
  rw [List.append_assoc, List.singleton_append, parseString_escapes, Option.bind_some,
    dropWhile_isSpace (by decide)]
  show (parseValue fuel s).bind _ = _
  rw [h, Option.bind_some, dropWhile_isSpace (by decide)]
  rfl

theorem reads_members {fuel : Nat} (h : Reads fuel) (hne : ms ≠ []) (hms : MembersIntegral ms)
    (hlength : (dumpMembers ms).length ≤ fuel + 1) :
    parseMembers (fuel + 1) (dumpMembers ms ++ rest) = some (ms, rest) := by
  rcases ms with _ | ⟨⟨key, v⟩, ms⟩
  · exact absurd rfl hne
  obtain ⟨hv, hms⟩ := hms
  rw [dumpMembers_cons] at hlength ⊢
  rw [dumpString, List.length_append, List.length_cons, List.length_cons, List.length_append,
    List.length_append] at hlength
  rw [List.append_assoc, List.cons_append, List.append_assoc]
  by_cases hnil : ms = []
  · subst hnil
    rw [if_pos rfl] at hlength ⊢
    have hread := h.value v ('}' :: rest) hv (stops_before (by decide)) (by omega)
    exact readMember_last hread
  · rw [if_neg hnil] at hlength ⊢
    have hcomma : (',' :: dumpMembers ms).length = (dumpMembers ms).length + 1 := rfl
    have hread := h.value v (',' :: (dumpMembers ms ++ rest)) hv (stops_before (by decide))
      (by omega)
    rw [List.cons_append, readMember_next hread, h.members ms rest hnil hms (by omega), Option.map_some]

theorem reads (fuel : Nat) : Reads fuel := by
  induction fuel with
  | zero =>
    refine ⟨fun v _ _ _ hlength => ?_, fun vs _ hne _ hlength => ?_, fun ms _ hne _ hlength => ?_⟩
    · exact absurd hlength (by have := length_dump_pos v; omega)
    · rcases vs with _ | ⟨v, vs⟩
      · exact absurd rfl hne
      · rw [dumpElements_cons, List.length_append] at hlength
        exact absurd hlength (by have := length_dump_pos v; omega)
    · rcases ms with _ | ⟨⟨key, v⟩, ms⟩
      · exact absurd rfl hne
      · rw [dumpMembers_cons, List.length_append, List.length_cons] at hlength
        exact absurd hlength (by omega)
  | succ fuel ih =>
    exact ⟨fun v rest => reads_value ih, fun vs rest => reads_elements ih,
      fun ms rest => reads_members ih⟩

/-- Reading undoes writing. -/
theorem parse_dump (h : Integral v) : parse (dump v) = some v := by
  have hread := (reads ((dump v).length + 1)).value v [] h nofun (Nat.le_succ _)
  rw [List.append_nil] at hread
  rw [parse, hread]
  rfl

end

end ChatApp.Lib.JsonText
