/-
  The document that `JPushManager::send_jpush_request` sends. It is put together without escapes,
  so a quote, a backslash or a line break in a name or in a message is read as a part of JSON text;
  `FcmManager` leaves its document to a library.
-/
import ChatApp.Media.UploadResponse

namespace ChatApp.Push

open ChatApp.Lib ChatApp.Lib.JsonText
open ChatApp.Media (Decodes stops_cons)

/-! ## The document -/

def literal (s : String) : List UInt8 := utf8 s.toList

/-- The loop over the data, in the order of the map; `first` is true before the first entry. -/
def extrasLoop : Bool → List (List UInt8 × List UInt8) → List UInt8
  | _, [] => []
  | first, (key, value) :: data =>
    (if first then [] else literal ",") ++ literal "\"" ++ key ++ literal "\":\"" ++ value ++
      literal "\"" ++ extrasLoop false data

/-- `json_body` of `send_jpush_request` -/
def jsonBody (registrationId title body : List UInt8) (data : List (List UInt8 × List UInt8)) :
    List UInt8 :=
  literal "\x7b" ++
  literal "\"platform\":\"android\"," ++
  literal "\"audience\":\x7b\"registration_id\":[\"" ++ registrationId ++ literal "\"]\x7d," ++
  literal "\"notification\":\x7b" ++
  literal "\"android\":\x7b" ++
  literal "\"alert\":\"" ++ body ++ literal "\"," ++
  literal "\"title\":\"" ++ title ++ literal "\"," ++
  literal "\"extras\":\x7b" ++
  extrasLoop true data ++
  literal "\x7d\x7d\x7d," ++
  literal "\"options\":\x7b" ++
  literal "\"time_to_live\":86400," ++
  literal "\"apns_production\":false" ++
  literal "\x7d" ++
  literal "\x7d"

/-- The document has these strings where they belong, and no members but those of its format. -/
structure Carries (v : Value) (registrationId title body : List Char)
    (data : List (List Char × List Char)) : Prop where
  document : ∃ members, v = .object members ∧ (members.map Prod.fst).Perm
    ["platform".toList, "audience".toList, "notification".toList, "options".toList]
  audience : v.member? "audience" =
    some (.object [("registration_id".toList, .array [.string registrationId])])
  notification : ∃ android,
    v.member? "notification" = some (.object [("android".toList, .object android)]) ∧
    (android.map Prod.fst).Perm ["alert".toList, "title".toList, "extras".toList] ∧
    (Value.object android).member? "alert" = some (.string body) ∧
    (Value.object android).member? "title" = some (.string title) ∧
    ∃ extras : List (List Char × List Char), extras.Perm data ∧
      (Value.object android).member? "extras" = some (.object (extras.map stringMember))

/-- Every character stands for itself in a JSON string. -/
def AllPlain (s : List Char) : Prop := ∀ c ∈ s, JsonText.Plain c

/-! ## Its text -/

/-- From the brace that closes "android" on -/
def afterExtras : List Char :=
  '}' :: '}' :: ',' :: '"' :: ("options".toList ++ '"' :: ':' :: '{' :: '"' ::
    ("time_to_live".toList ++ '"' :: ':' :: ("86400".toList ++ ',' :: '"' ::
      ("apns_production".toList ++ '"' :: ':' :: ("false".toList ++ ['}', '}'])))))

/-- Behind the first member of "extras" -/
def moreExtras (rest : List Char) : List (List Char × List Char) → List Char
  | [] => '}' :: rest
  | e :: es => ',' :: '"' :: (e.1 ++ '"' :: ':' :: '"' :: (e.2 ++ '"' :: moreExtras rest es))

def extrasText (rest : List Char) : List (List Char × List Char) → List Char
  | [] => '}' :: rest
  | e :: es => '"' :: (e.1 ++ '"' :: ':' :: '"' :: (e.2 ++ '"' :: moreExtras rest es))

def androidText (title body : List Char) (data : List (List Char × List Char)) : List Char :=
  '{' :: '"' :: ("alert".toList ++ '"' :: ':' :: '"' :: (body ++ '"' :: ',' :: '"' ::
    ("title".toList ++ '"' :: ':' :: '"' :: (title ++ '"' :: ',' :: '"' ::
      ("extras".toList ++ '"' :: ':' :: '{' :: extrasText afterExtras data)))))

def audienceText (registrationId rest : List Char) : List Char :=
  '{' :: '"' :: ("registration_id".toList ++ '"' :: ':' :: '[' :: '"' ::
    (registrationId ++ '"' :: ']' :: '}' :: rest))

/-- From "notification" on -/
def notificationText (title body : List Char) (data : List (List Char × List Char)) : List Char :=
  '"' :: ("notification".toList ++ '"' :: ':' :: '{' :: '"' :: ("android".toList ++ '"' :: ':' ::
    androidText title body data))

def requestText (registrationId title body : List Char) (data : List (List Char × List Char)) :
    List Char :=
  '{' :: '"' :: ("platform".toList ++ '"' :: ':' :: '"' :: ("android".toList ++ '"' :: ',' :: '"' ::
    ("audience".toList ++ '"' :: ':' ::
      audienceText registrationId (',' :: notificationText title body data))))

def encodeEntry (e : List Char × List Char) : List UInt8 × List UInt8 := (utf8 e.1, utf8 e.2)

variable {registrationId title body rest t : List Char} {data : List (List Char × List Char)}
variable {fuel : Nat}

theorem extrasLoop_false : extrasLoop false (data.map encodeEntry) ++ utf8 ('}' :: rest) =
    utf8 (moreExtras rest data) := by
  induction data with
  | nil => rfl
  | cons e es ih =>
    rw [List.map_cons, encodeEntry, extrasLoop, if_neg Bool.false_ne_true, List.append_assoc, ih]
    simp only [literal, ← Utf8.utf8_append]
    rw [moreExtras]
    simp

theorem extrasLoop_true : extrasLoop true (data.map encodeEntry) ++ utf8 ('}' :: rest) =
    utf8 (extrasText rest data) := by
  cases data with
  | nil => rfl
  | cons e es =>
    rw [List.map_cons, encodeEntry, extrasLoop, if_pos rfl, List.append_assoc, extrasLoop_false]
    simp only [literal, ← Utf8.utf8_append, List.nil_append]
    rw [extrasText]
    simp

theorem jsonBody_eq : jsonBody (utf8 registrationId) (utf8 title) (utf8 body)
    (data.map encodeEntry) = utf8 (requestText registrationId title body data) := by
  have hend : literal "\x7d\x7d\x7d," ++ (literal "\"options\":\x7b" ++
      (literal "\"time_to_live\":86400," ++ (literal "\"apns_production\":false" ++
        (literal "\x7d" ++ literal "\x7d")))) = utf8 ('}' :: afterExtras) := by
    simp only [literal, ← Utf8.utf8_append]
    rfl
  unfold jsonBody
  simp only [List.append_assoc]
  rw [hend, extrasLoop_true]
  simp only [literal, ← Utf8.utf8_append]
  rw [requestText, audienceText, notificationText, androidText]
  simp

/-! ## What is parsed of it -/

theorem parseValue_plain (h : AllPlain title) :
    parseValue (fuel + 1) ('"' :: (title ++ '"' :: rest)) = some (.string title, rest) := by
  rw [parseValue_string, parseString_plain h]
  rfl

/-- A string that is parsed to itself. -/
theorem plain_of_parseValue
    (h : parseValue (fuel + 1) ('"' :: (title ++ '"' :: rest)) = some (.string title, t)) :
    AllPlain title ∧ t = rest := by
  rw [parseValue_string, Option.map_eq_some_iff] at h
  obtain ⟨⟨value, t'⟩, hstring, heq⟩ := h
  obtain rfl : value = title := Value.string.inj (Prod.mk.inj heq).1
  obtain rfl : t' = t := (Prod.mk.inj heq).2
  exact parseString_self hstring

/-- A member with a string that is parsed to itself, and more members behind it -/
theorem plain_of_member {key : String} {ms : List (List Char × Value)} (hkey : AllPlain key.toList)
    (h : parseMembers (fuel + 2)
      ('"' :: (key.toList ++ '"' :: ':' :: '"' :: (title ++ '"' :: ',' :: rest))) = some (ms, t))
    (hv : (Value.object ms).member? key = some (.string title)) :
    AllPlain title ∧ ∃ ms', ms = (key.toList, .string title) :: ms' ∧
      parseMembers (fuel + 1) rest = some (ms', t) := by
  obtain ⟨v, behind, ms', hvalue, rfl, hrest⟩ := parseMembers_cases hkey h
  rw [Value.member?_cons, if_pos rfl] at hv
  obtain rfl := Option.some.inj hv
  obtain ⟨hplain, rfl⟩ := plain_of_parseValue hvalue
  refine ⟨hplain, ms', rfl, ?_⟩
  rw [dropWhile_isSpace (by decide)] at hrest
  rcases hrest with ⟨next, hnext, hms⟩ | ⟨hclose, -⟩
  · rw [(List.cons.inj hnext).2, hms]
  · exact absurd (List.cons.inj hclose).1 (by decide)

/-! ### The extras -/

theorem parse_extras {e : List Char × List Char}
    (h : ∀ e' ∈ e :: data, AllPlain e'.1 ∧ AllPlain e'.2) :
    parseMembers (fuel + data.length + 2) (extrasText rest (e :: data)) =
      some ((e :: data).map stringMember, rest) := by
  induction data generalizing e with
  | nil =>
    obtain ⟨hkey, hvalue⟩ := h e List.mem_cons_self
    rw [extrasText, moreExtras, parseMembers_close hkey (parseValue_plain hvalue)]
    rfl
  | cons e' es ih =>
    obtain ⟨⟨hkey, hvalue⟩, hes⟩ := List.forall_mem_cons.1 h
    have hrest := ih hes
    rw [extrasText] at hrest
    rw [extrasText, moreExtras, parseMembers_comma hkey (parseValue_plain hvalue)]
    rw [List.length_cons, ← Nat.add_assoc, hrest]
    rfl

theorem moreExtras_eq (rest : List Char) (data : List (List Char × List Char)) :
    ∃ used, moreExtras rest data = used ++ rest ∧ used.length = textLength data + 1 := by
  induction data with
  | nil => exact ⟨['}'], rfl, rfl⟩
  | cons e es ih =>
    obtain ⟨used, heq, hlength⟩ := ih
    refine ⟨',' :: '"' :: (e.1 ++ '"' :: ':' :: '"' :: (e.2 ++ '"' :: used)), ?_, ?_⟩
    · rw [moreExtras, heq]
      simp only [List.append_assoc, List.cons_append]
    · rw [textLength]
      simp only [List.length_append, List.length_cons, hlength]
      omega

theorem extrasText_eq (rest : List Char) (e : List Char × List Char)
    (data : List (List Char × List Char)) : ∃ used,
      extrasText rest (e :: data) = used ++ rest ∧ used.length = textLength (e :: data) := by
  obtain ⟨used, heq, hlength⟩ := moreExtras_eq rest data
  refine ⟨'"' :: (e.1 ++ '"' :: ':' :: '"' :: (e.2 ++ '"' :: used)), ?_, ?_⟩
  · rw [extrasText, heq]
    simp only [List.append_assoc, List.cons_append]
  · rw [textLength]
    simp only [List.length_append, List.length_cons, hlength]
    omega

/-- The extras as a value -/
theorem parseValue_extras (h : ∀ e ∈ data, AllPlain e.1 ∧ AllPlain e.2) :
    parseValue (fuel + data.length + 2) ('{' :: extrasText rest data) =
      some (.object (data.map stringMember), rest) := by
  cases data with
  | nil => exact parseValue_empty
  | cons e es =>
    have hmembers : parseMembers (fuel + es.length + 2) (extrasText rest (e :: es)) =
        some ((e :: es).map stringMember, rest) := parse_extras h
    rw [extrasText] at hmembers ⊢
    rw [parseValue_object, List.length_cons, ← Nat.add_assoc, hmembers]
    rfl

/-- Extras that are parsed to the data take no less than their text, and no more only if it is
    plain. -/
theorem plain_of_extras {extras : List (List Char × List Char)} (hperm : extras.Perm data)
    (h : parseValue (fuel + 1) ('{' :: extrasText rest data) =
      some (.object (extras.map stringMember), t)) :
    t <:+ rest ∧ (rest.length ≤ t.length → ∀ e ∈ data, AllPlain e.1 ∧ AllPlain e.2) := by
  cases data with
  | nil =>
    rw [extrasText, parseValue_empty] at h
    obtain rfl := (Prod.mk.inj (Option.some.inj h)).2
    exact ⟨List.suffix_rfl, fun _ => nofun⟩
  | cons e es =>
    obtain ⟨text, htext, hlength⟩ := extrasText_eq rest e es
    have hobject : (parseMembers fuel (extrasText rest (e :: es))).map
        (fun x => (Value.object x.1, x.2)) = some (.object (extras.map stringMember), t) :=
      parseValue_object.symm.trans h
    obtain ⟨⟨members, t'⟩, hmembers, heq⟩ := Option.map_eq_some_iff.1 hobject
    obtain rfl : members = extras.map stringMember := Value.object.inj (Prod.mk.inj heq).1
    obtain rfl : t' = t := (Prod.mk.inj heq).2
    obtain ⟨used, hused, hle, hplain⟩ := parseMembers_length hmembers
    have hsame : used ++ t' = text ++ rest := hused.symm.trans htext
    have hsum := congrArg List.length hsame
    rw [List.length_append, List.length_append, hlength, ← textLength_perm hperm] at hsum
    have hsuffix : t' <:+ rest :=
      List.suffix_of_suffix_length_le ⟨used, rfl⟩ ⟨text, hsame.symm⟩ (by omega)
    exact ⟨hsuffix, fun hge e' he' => hplain (by omega) e' (hperm.mem_iff.2 he')⟩

/-! ### The notification -/

/-- Of the ends of the text behind the extras, only the whole closes two objects and goes on. -/
theorem eq_afterExtras {s s₁ s₂ s₃ : List Char} (hs : s <:+ afterExtras)
    (h₁ : s.dropWhile isSpace = '}' :: s₁) (h₂ : s₁.dropWhile isSpace = '}' :: s₂)
    (h₃ : s₂.dropWhile isSpace = ',' :: s₃) : s = afterExtras := by
  have hends : ∀ s ∈ afterExtras.tails, (s.all fun c => ! isSpace c) = true ∧
      (['}', '}', ','].isPrefixOf s = true → s = afterExtras) :=
    Text.forall_of_all rfl
  obtain ⟨hspace, heq⟩ := hends s ((List.mem_tails _ _).2 hs)
  have hdrop : ∀ {s : List Char}, (s.all fun c => ! isSpace c) = true →
      s.dropWhile isSpace = s := by
    intro s hs
    rcases s with _ | ⟨c, s⟩
    · rfl
    · rw [List.all_cons, Bool.and_eq_true] at hs
      exact dropWhile_isSpace (by simpa using hs.1)
  rw [hdrop hspace] at h₁
  subst h₁
  rw [List.all_cons, Bool.and_eq_true] at hspace
  rw [hdrop hspace.2] at h₂
  subst h₂
  rw [List.all_cons, Bool.and_eq_true] at hspace
  rw [hdrop hspace.2.2] at h₃
  subst h₃
  exact heq rfl

theorem parseValue_android (htitle : AllPlain title) (hbody : AllPlain body)
    (hdata : ∀ e ∈ data, AllPlain e.1 ∧ AllPlain e.2) :
    parseValue (fuel + data.length + 6) (androidText title body data) =
      some (.object [("alert".toList, .string body), ("title".toList, .string title),
        ("extras".toList, .object (data.map stringMember))], afterExtras.tail) := by
  have hextras : parseValue (fuel + data.length + 2) ('{' :: extrasText afterExtras data) =
      some (.object (data.map stringMember), '}' :: afterExtras.tail) :=
    parseValue_extras hdata
  rw [androidText, parseValue_object,
    parseMembers_comma (Text.forall_of_all rfl) (parseValue_plain hbody),
    parseMembers_comma (Text.forall_of_all rfl) (parseValue_plain htitle),
    parseMembers_close (Text.forall_of_all rfl) hextras]
  rfl

/-- What a notification with these strings says of its text, if it is closed like its text -/
theorem plain_of_android {android : List (List Char × Value)}
    {extras : List (List Char × List Char)} (hperm : extras.Perm data)
    (h : parseValue (fuel + 5) (androidText title body data) = some (.object android, t))
    (hlength : android.length = 3)
    (hbody : (Value.object android).member? "alert" = some (.string body))
    (htitle : (Value.object android).member? "title" = some (.string title))
    (hextras : (Value.object android).member? "extras" =
      some (.object (extras.map stringMember))) :
    AllPlain body ∧ AllPlain title ∧ ∃ behind, behind <:+ afterExtras ∧
      behind.dropWhile isSpace = '}' :: t ∧
      (behind = afterExtras → ∀ e ∈ data, AllPlain e.1 ∧ AllPlain e.2) := by
  rw [androidText, parseValue_object, Option.map_eq_some_iff] at h
  obtain ⟨⟨members, t'⟩, hmembers, heq⟩ := h
  obtain rfl : members = android := Value.object.inj (Prod.mk.inj heq).1
  obtain rfl : t' = t := (Prod.mk.inj heq).2
  obtain ⟨hplainBody, fromTitle, rfl, hfromTitle⟩ :=
    plain_of_member (Text.forall_of_all rfl) hmembers hbody
  rw [Value.member?_cons, if_neg (by decide)] at htitle hextras
  obtain ⟨hplainTitle, fromExtras, rfl, hms⟩ :=
    plain_of_member (Text.forall_of_all rfl) hfromTitle htitle
  rw [Value.member?_cons, if_neg (by decide)] at hextras
  obtain ⟨v, -, ms', -, rfl, -⟩ := parseMembers_cases (Text.forall_of_all rfl) hms
  obtain rfl : ms' = [] := by
    simpa using hlength
  rw [Value.member?_cons, if_pos rfl] at hextras
  obtain rfl := Option.some.inj hextras
  obtain ⟨behind, hvalue, hclose⟩ := parseMembers_last (Text.forall_of_all rfl) hms
  obtain ⟨hsuffix, hplain⟩ := plain_of_extras hperm hvalue
  exact ⟨hplainBody, hplainTitle, behind, hsuffix, hclose, fun heq => hplain (heq ▸ Nat.le_refl _)⟩

/-! ### The audience -/

theorem parseValue_audience (h : AllPlain registrationId) :
    parseValue (fuel + 5) (audienceText registrationId rest) =
      some (.object [("registration_id".toList, .array [.string registrationId])], rest) := by
  have harray : parseValue (fuel + 3)
      ('[' :: '"' :: (registrationId ++ '"' :: ']' :: '}' :: rest)) =
        some (.array [.string registrationId], '}' :: rest) := by
    rw [parseValue_array, parseElements, parseValue_plain h, Option.bind_some,
      dropWhile_isSpace (by decide)]
    rfl
  rw [audienceText, parseValue_object, parseMembers_close (Text.forall_of_all rfl) harray]
  rfl

theorem plain_of_audience (h : parseValue (fuel + 5) (audienceText registrationId rest) =
    some (.object [("registration_id".toList, .array [.string registrationId])], t)) :
    AllPlain registrationId := by
  rw [audienceText, parseValue_object, Option.map_eq_some_iff] at h
  obtain ⟨⟨members, t'⟩, hmembers, heq⟩ := h
  obtain rfl := Value.object.inj (Prod.mk.inj heq).1
  obtain ⟨behind, hvalue, -⟩ := parseMembers_last (Text.forall_of_all rfl) hmembers
  rw [parseValue_array, Option.map_eq_some_iff] at hvalue
  obtain ⟨⟨elements, t''⟩, helements, heq⟩ := hvalue
  obtain rfl := Value.array.inj (Prod.mk.inj heq).1
  rw [parseElements] at helements
  obtain ⟨⟨v, behind'⟩, hv, helements⟩ := Option.bind_eq_some_iff.1 helements
  have hstring : v = .string registrationId := by
    dsimp only at helements
    split at helements
    next =>
      obtain ⟨_, _, heq⟩ := Option.map_eq_some_iff.1 helements
      exact (List.cons.inj (Prod.mk.inj heq).1).1
    next => exact (List.cons.inj (Prod.mk.inj (Option.some.inj helements)).1).1
    next => exact absurd helements.symm (Option.some_ne_none _)
  exact (plain_of_parseValue (hstring ▸ hv)).1

/-! ### The document -/

def requestValue (registrationId title body : List Char) (data : List (List Char × List Char)) :
    Value :=
  .object [("platform".toList, .string "android".toList),
    ("audience".toList,
      .object [("registration_id".toList, .array [.string registrationId])]),
    ("notification".toList, .object [("android".toList,
      .object [("alert".toList, .string body), ("title".toList, .string title),
        ("extras".toList, .object (data.map stringMember))])]),
    ("options".toList, .object [("time_to_live".toList, .number 86400 0),
      ("apns_production".toList, .bool false)])]

theorem carries_requestValue :
    Carries (requestValue registrationId title body data) registrationId title body data := by
  refine ⟨⟨_, rfl, .refl _⟩, ?_, [("alert".toList, .string body), ("title".toList, .string title),
    ("extras".toList, .object (data.map stringMember))], ?_, .refl _, ?_, ?_, data, .refl _, ?_⟩
  · rw [requestValue, Value.member?_cons, if_neg (by decide), Value.member?_cons, if_pos rfl]
  · rw [requestValue, Value.member?_cons, if_neg (by decide), Value.member?_cons,
      if_neg (by decide), Value.member?_cons, if_pos rfl]
  · rw [Value.member?_cons, if_pos rfl]
  · rw [Value.member?_cons, if_neg (by decide), Value.member?_cons, if_pos rfl]
  · rw [Value.member?_cons, if_neg (by decide), Value.member?_cons, if_neg (by decide),
      Value.member?_cons, if_pos rfl]

variable (registrationId title body data) in
theorem fuel_request : ∃ k,
    (requestText registrationId title body data).length + 1 = k + data.length + 12 := by
  have hextras : data.length ≤ (extrasText afterExtras data).length := by
    cases data with
    | nil => exact Nat.zero_le _
    | cons e es =>
      obtain ⟨used, heq, hlength⟩ := extrasText_eq afterExtras e es
      have hle := length_le_textLength (e :: es)
      rw [heq, List.length_append]
      omega
  have hlong : data.length + 12 ≤ (requestText registrationId title body data).length := by
    simp [requestText, audienceText, notificationText, androidText]
    omega
  exact ⟨(requestText registrationId title body data).length + 1 - (data.length + 12), by omega⟩

def optionsValue : Value :=
  .object [("time_to_live".toList, .number 86400 0), ("apns_production".toList, .bool false)]

theorem members_options : parseMembers (fuel + 5) (afterExtras.drop 3) =
    some ([("options".toList, optionsValue)], []) := by
  have htime : parseValue (fuel + 2) ("86400".toList ++ ',' :: '"' :: ("apns_production".toList ++
      '"' :: ':' :: ("false".toList ++ ['}', '}']))) = some (.number 86400 0, ',' :: '"' ::
        ("apns_production".toList ++ '"' :: ':' :: ("false".toList ++ ['}', '}']))) :=
    parseValue_int 86400 (stops_cons (by decide))
  have hobject : parseValue (fuel + 4) ('{' :: '"' :: ("time_to_live".toList ++ '"' :: ':' ::
      ("86400".toList ++ ',' :: '"' :: ("apns_production".toList ++ '"' :: ':' ::
        ("false".toList ++ ['}', '}']))))) = some (optionsValue, ['}']) := by
    rw [parseValue_object, parseMembers_comma (Text.forall_of_all rfl) htime,
      parseMembers_close (Text.forall_of_all rfl) parseValue_false]
    rfl
  exact parseMembers_close (Text.forall_of_all rfl) hobject

theorem parse_request (hid : AllPlain registrationId) (htitle : AllPlain title)
    (hbody : AllPlain body) (hdata : ∀ e ∈ data, AllPlain e.1 ∧ AllPlain e.2) :
    parse (requestText registrationId title body data) =
      some (requestValue registrationId title body data) := by
  obtain ⟨k, hk⟩ := fuel_request registrationId title body data
  have handroid : parseValue (k + data.length + 8) ('{' :: '"' :: ("android".toList ++
      '"' :: ':' :: androidText title body data)) = some (.object [("android".toList,
        .object [("alert".toList, .string body), ("title".toList, .string title),
          ("extras".toList, .object (data.map stringMember))])], ',' :: afterExtras.drop 3) := by
    rw [parseValue_object, parseMembers_close (Text.forall_of_all rfl)
      (parseValue_android htitle hbody hdata)]
    rfl
  rw [parse, hk, requestText, parseValue_object,
    parseMembers_comma (Text.forall_of_all rfl) (parseValue_plain (Text.forall_of_all rfl)),
    parseMembers_comma (Text.forall_of_all rfl) (parseValue_audience hid), notificationText,
    parseMembers_comma (Text.forall_of_all rfl) handroid, members_options]
  rfl

theorem plain_of_parse {v : Value} (h : parse (requestText registrationId title body data) = some v)
    (hcarries : Carries v registrationId title body data) :
    AllPlain registrationId ∧ AllPlain title ∧ AllPlain body ∧
      ∀ e ∈ data, AllPlain e.1 ∧ AllPlain e.2 := by
  obtain ⟨k, hk⟩ := fuel_request registrationId title body data
  obtain ⟨⟨members, rfl, hkeys⟩, haudience, android, hnotification, handroid, halert, htitle,
    extras, hperm, hextras⟩ := hcarries
  obtain ⟨rest, hvalue⟩ := parseValue_of_parse h
  rw [hk, requestText, parseValue_object,
    parseMembers_comma (Text.forall_of_all rfl) (parseValue_plain (Text.forall_of_all rfl)),
    Option.map_map, Option.map_eq_some_iff] at hvalue
  obtain ⟨⟨fromAudience, rest'⟩, hfromAudience, heq⟩ := hvalue
  obtain rfl : _ = members := Value.object.inj (Prod.mk.inj heq).1
  obtain rfl : rest' = rest := (Prod.mk.inj heq).2
  -- the registration id, in the second member
  obtain ⟨v, behind, ms, hvalue, rfl, -⟩ :=
    parseMembers_cases (Text.forall_of_all rfl) hfromAudience
  rw [Value.member?_cons, if_neg (by decide), Value.member?_cons, if_pos rfl] at haudience
  obtain rfl := Option.some.inj haudience
  have hid := plain_of_audience hvalue
  rw [parseMembers_comma (Text.forall_of_all rfl) (parseValue_audience hid),
    Option.map_eq_some_iff] at hfromAudience
  obtain ⟨⟨fromNotification, rest''⟩, hfromNotification, heq⟩ := hfromAudience
  obtain rfl := (List.cons.inj (Prod.mk.inj heq).1).2
  obtain rfl : rest'' = rest' := (Prod.mk.inj heq).2
  -- the notification, in the third one
  obtain ⟨v, behindNotification, ms, hvalue, rfl, hoptions⟩ :=
    parseMembers_cases (Text.forall_of_all rfl) hfromNotification
  rw [Value.member?_cons, if_neg (by decide), Value.member?_cons, if_neg (by decide),
    Value.member?_cons, if_pos rfl] at hnotification
  obtain rfl := Option.some.inj hnotification
  rw [parseValue_object, Option.map_eq_some_iff] at hvalue
  obtain ⟨⟨members', behind'⟩, hmembers, heq⟩ := hvalue
  obtain rfl := Value.object.inj (Prod.mk.inj heq).1
  obtain rfl : behind' = behindNotification := (Prod.mk.inj heq).2
  obtain ⟨behindAndroid, hvalue, hclose⟩ := parseMembers_last (Text.forall_of_all rfl) hmembers
  have hlength : android.length = 3 := by
    simpa using handroid.length_eq
  obtain ⟨hbody, htitle, behindExtras, hsuffix, hcloseAndroid, hdata⟩ :=
    plain_of_android hperm hvalue hlength halert htitle hextras
  -- the options are behind it
  rcases hoptions with ⟨next, hnext, -⟩ | ⟨-, rfl⟩
  · exact ⟨hid, htitle, hbody, hdata (eq_afterExtras hsuffix hcloseAndroid hclose hnext)⟩
  · exact absurd hkeys.length_eq (by simp)

/-- The document is well formed and has the strings in it, each where it belongs, if and only if
    every character of them stands for itself in a JSON string. -/
theorem jsonBody_carries_iff (registrationId title body : List Char)
    (data : List (List Char × List Char)) :
    (∃ v, Decodes (jsonBody (utf8 registrationId) (utf8 title) (utf8 body)
          (data.map encodeEntry)) v ∧ Carries v registrationId title body data) ↔
      AllPlain registrationId ∧ AllPlain title ∧ AllPlain body ∧
        ∀ e ∈ data, AllPlain e.1 ∧ AllPlain e.2 := by
  rw [jsonBody_eq]
  constructor
  · rintro ⟨v, ⟨text, htext, hparse⟩, hcarries⟩
    obtain rfl := Utf8.utf8_inj htext
    exact plain_of_parse hparse hcarries
  · rintro ⟨hid, htitle, hbody, hdata⟩
    exact ⟨_, ⟨_, rfl, parse_request hid htitle hbody hdata⟩, carries_requestValue⟩

/-- A message with a quote -/
theorem quote_not_carried : ¬ ∀ (registrationId title body : List Char)
    (data : List (List Char × List Char)), ∃ v, Decodes (jsonBody (utf8 registrationId)
      (utf8 title) (utf8 body) (data.map encodeEntry)) v ∧
        Carries v registrationId title body data := by
  intro h
  obtain ⟨v, ⟨text, htext, hparse⟩, hcarries⟩ := h ['1'] ['a'] ['"'] []
  rw [jsonBody_eq] at htext
  obtain rfl := Utf8.utf8_inj htext
  have hplain := (plain_of_parse hparse hcarries).2.2.1
  exact absurd rfl (hplain '"' List.mem_cons_self).1

end ChatApp.Push
